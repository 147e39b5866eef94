import StoreClient.Proofs.Client.Wire
import StoreClient.Proofs.Response.Failure
import StoreClient.Proofs.Text.Lossy
import StoreClient.Proofs.Text.Truncation
import StoreClient.Session

/-!
What the status of a response decides. A status other than 200 to 299 is the outcome of the call
whose response it is, with the text of the body up to a limit (`Received.Keeps`), and no other status
ever is: a response of success is decoded, which fails for other reasons or not at all
(`SessionStep.run_status`). The response is the one that the HTTP client hands over; of a redirect
that it follows the call never learns.
-/

namespace StoreClient

/-- The transport of a client and an HTTP client, in whatever hands. -/
inductive Transport.Sends (client : Client) (http : HttpClient) : Transport → Prop where
  | wire : Sends client http (.wire client http)
  | borrowed {inner : Transport} (h : Sends client http inner) : Sends client http (.borrowed inner)
  | shared {inner : Transport} (h : Sends client http inner) : Sends client http (.shared inner)

namespace Received

/-- What is kept of the text of a failure. A text of up to 1024 bytes is kept as it is. Of a longer
one the longest run of whole characters that fits is kept, up to the boundary that is found by going
back from byte 1024, and a mark is put behind it. -/
inductive Keeps (text : List Char) : String → Prop where
  | whole (h : Utf8.size text ≤ 1024) : Keeps text (String.ofList text)
  | cut {front : List Char} (h : 1024 < Utf8.size text) (hfront : front <+: text)
      (hsize : 1021 ≤ Utf8.size front ∧ Utf8.size front ≤ 1024)
      (hlongest : ∀ run, run <+: text → Utf8.size run ≤ 1024 → run <+: front)
      (hsearch : Utf8.BacksTo text 1024 (Utf8.size front)) :
      Keeps text (String.ofList front ++ "... (truncated)")

theorem keeps_truncate (text : List Char) : Keeps text (truncate text) := by
  rw [truncate, textLimit]
  split
  · next hlong =>
    rw [Utf8.takeBytes_floorBoundary]
    have hsearch := Utf8.backsTo_floorBoundary text 1024
    rw [hsearch.eq_size_takeBytes] at hsearch
    have hlow := Utf8.limit_le_size_takeBytes hlong
    refine .cut hlong (Utf8.takeBytes_isPrefix _ _) ⟨by omega, Utf8.size_takeBytes_le _ _⟩ ?_ hsearch
    intro run hrun hfits
    exact Utf8.prefix_takeBytes hrun hfits
  · next hshort => exact .whole (Nat.le_of_not_lt hshort)

/-- What a call comes to whose response has a body that can be read. -/
theorem answer_of_content {received : Received} {body : Bytes} (hbody : received.content = .ok body)
    (call : Call) (returnType : ReturnType) :
    received.answer call returnType =
      if 200 ≤ received.status ∧ received.status < 300 then
        call.decodeResponse returnType received.status received.headers body
      else .error (.unexpectedStatus received.status (truncate (Utf8.decodeLossy body))) := by
  have hsuccess : received.isSuccess ↔ 200 ≤ received.status ∧ received.status < 300 := by
    rw [isSuccess, Bool.and_eq_true, decide_eq_true_eq, decide_eq_true_eq]
  rw [answer, failureText, hbody]
  cases h : received.isSuccess with
  | true =>
    rw [if_pos (hsuccess.mp h)]
    rfl
  | false =>
    rw [if_neg (mt hsuccess.mpr (Bool.eq_false_iff.mp h))]
    rfl

end Received

/-- Where no redirect is followed the status is that of the response on the wire. -/
theorem HttpClient.status_of_direct {request : WireRequest} {response : WireResponse}
    {received : Received} (h : direct.execute request response = .ok received) :
    received.status = response.status := by
  obtain ⟨head, hhead, h⟩ := bind_eq_ok.mp h
  cases h
  rw [WireResponse.readHead] at hhead
  split at hhead
  · cases hhead
  split at hhead
  · cases hhead
    rfl
  · cases hhead

namespace SessionStep

theorem exchange_of_sends {client : Client} {http : HttpClient} {transport : Transport}
    (h : transport.Sends client http) (step : SessionStep) (request : Request User) :
    step.exchange request transport = step.exchange request (.wire client http) := by
  induction h with
  | wire => rfl
  | borrowed _ ih | shared _ ih => exact ih

section
variable {client : Client} {http : HttpClient} {transport : Transport} {step : SessionStep}
  {request : Request User} {written : WireRequest} {received : Received}
  (ht : transport.Sends client http) (hrequest : step.request = .ok request)
  (hwritten : (client.sendable request).result = .ok written)
  (hreceived : http.execute written step.response = .ok received)
include ht hrequest hwritten hreceived

/-- What a step comes to whose request is sent and has a response. -/
theorem result_run :
    (step.run transport).result = received.answer step.call request.returnType := by
  rw [run, hrequest]
  change (step.exchange request transport).result = _
  rw [exchange_of_sends ht, exchange, hwritten]
  change (http.execute written step.response >>= _) = _
  rw [hreceived]
  rfl

/-- What a call comes to that is sent and for which the HTTP client hands over a response received
whole, whatever its headers and whatever is declared. With a status other than 200 to 299 it is a
failure with that status and with what is kept of the text that the body is read as; with any of
these it is never such a failure. -/
theorem run_status {body : Bytes} (hbody : received.content = .ok body) :
    (¬ (200 ≤ received.status ∧ received.status < 300) → ∃ text kept,
      Utf8.Lossy body text ∧ Received.Keeps text kept ∧
      (step.run transport).result = .error (.unexpectedStatus received.status kept)) ∧
    (200 ≤ received.status ∧ received.status < 300 → ∀ status text,
      (step.run transport).result ≠ .error (.unexpectedStatus status text)) := by
  rw [result_run ht hrequest hwritten hreceived, Received.answer_of_content hbody]
  constructor
  · intro h
    rw [if_neg h]
    exact ⟨_, _, Utf8.lossy_iff.mpr rfl, Received.keeps_truncate _, rfl⟩
  · intro h status text hresult
    rw [if_pos h] at hresult
    exact (Call.ofDecoding_of_decodeResponse hresult).ne_unexpectedStatus status text rfl

end

/-- An HTTP client that goes on to one target from every response with a location. -/
def redirectedTo (target : WireResponse) : HttpClient where
  execute request response :=
    HttpClient.direct.execute request
      (if (response.headers.get? "location").isSome then target else response)

/-- A deletion that is redirected. -/
def deletionMoved : SessionStep where
  call := .deleteUser (some "user1")
  response := { status := 302, headers := [("location", "/v2/user/user2")] }

/-- What the redirect leads to: a failure with a text whose last character lies across byte 1024. -/
def deletionRefused : WireResponse where
  status := 404
  body := Utf8.encode (List.replicate 1023 'a' ++ ['é'])

/-- The status is that of the response in the end, and the text is cut in front of that character,
also if the client is borrowed. -/
theorem run_status_deletionRefused :
    ∃ text kept, Utf8.Lossy deletionRefused.body text ∧ Received.Keeps text kept ∧
      (deletionMoved.run (.borrowed (.wire .preset (redirectedTo deletionRefused)))).result =
        .error (.unexpectedStatus 404 kept) := by
  have hsends : (Transport.borrowed (.wire .preset (redirectedTo deletionRefused))).Sends .preset
      (redirectedTo deletionRefused) := .borrowed .wire
  have hreceived (written : WireRequest) :
      (redirectedTo deletionRefused).execute written deletionMoved.response =
        .ok { status := 404, headers := [], content := .ok deletionRefused.body } := rfl
  obtain ⟨hrefused, -⟩ := run_status hsends rfl rfl (hreceived _) rfl
  exact hrefused (by decide)

end SessionStep

end StoreClient
