import StoreClient.Client.Exchange

/-!
Sessions: calls made one after another over one transport. A call that lacks a required argument
never reaches the transport; every other call reaches it once.
-/

namespace StoreClient

/-- What carries requests to responses: a client that sends them with an HTTP client, a recorder
that keeps each request as it was described and answers it without looking at the status, or one of
these in other hands, which passes on whatever it is given. -/
inductive Transport where
  | wire (client : Client) (http : HttpClient := .direct)
  | recorder
  | borrowed (inner : Transport)
  | shared (inner : Transport)

/-- How the outcome of a call is handed over: to whoever waits for it, or to a callback. -/
inductive Handover where
  | await
  | callback
  deriving DecidableEq, Repr

/-- One call of a session, with what is added to its request and the response that it meets. -/
structure SessionStep where
  call : Call
  extras : List Request.Extra := []
  response : WireResponse := {}
  handover : Handover := .await

/-- What a call comes to: the requests that reached the other side, the warnings raised, how often
the callback ran, and the response or the failure. -/
structure Outcome where
  sent : List (Request User)
  warnings : List Warning
  callbacks : Nat
  result : Except Error (Response Answer)

namespace SessionStep

def request (step : SessionStep) : Except Error (Request User) := do
  return (← step.call.request).extendAll step.extras

/-- How often the callback runs once the outcome is there. -/
def callbacks (step : SessionStep) : Nat :=
  match step.handover with
  | .await => 0
  | .callback => 1

/-- What a request comes to over a transport. -/
def exchange (step : SessionStep) (request : Request User) : Transport → Outcome
  | .recorder => {
      sent := [request]
      warnings := []
      callbacks := step.callbacks
      result := step.response.decode step.call request.returnType step.response.body }
  | .wire client http =>
    let written := client.sendable request
    {
      sent := if written.result.isOk then [request] else []
      warnings := written.warnings
      callbacks := step.callbacks
      result := do
        let received ← http.execute (← written.result) step.response
        received.answer step.call request.returnType }
  | .borrowed inner | .shared inner => step.exchange request inner

/-- What a step comes to. -/
def run (transport : Transport) (step : SessionStep) : Outcome :=
  match step.request with
  | .ok request => step.exchange request transport
  | .error e => { sent := [], warnings := [], callbacks := 0, result := .error e }

end SessionStep

/-- A session as far as it has come: the requests that reached the other side since its start, and
what each of its steps came to. -/
structure Session where
  sent : List (Request User) := []
  outcomes : List Outcome := []

namespace Session

/-- One step more. -/
def advance (transport : Transport) (session : Session) (step : SessionStep) : Session :=
  let outcome := step.run transport
  { sent := session.sent ++ outcome.sent, outcomes := session.outcomes ++ [outcome] }

/-- A session of some steps, one after another. -/
def run (transport : Transport) (steps : List SessionStep) : Session :=
  steps.foldl (advance transport) {}

end Session

/-- What the steps of a session come to. -/
def runSession (transport : Transport) (steps : List SessionStep) : List Outcome :=
  (Session.run transport steps).outcomes

end StoreClient
