import StoreClient.Proofs.Operation.Arguments
import StoreClient.Proofs.Response.Failure
import StoreClient.Session

/-!
Sessions over a recorder. A step with all required arguments is recorded once, as the request that
it makes on its own, whatever its response is worth; any other step leaves the session as it was but
for its own outcome, which is the only kind of outcome to blame an argument (`run_recorded`). A
recorder in other hands is still the recorder, and what a whole session sends is what its steps send
one by one (`sent_run`, `outcomes_run`).
-/

namespace StoreClient

/-! ### One step -/

/-- A recorder, in whatever hands. -/
inductive Transport.Records : Transport → Prop where
  | recorder : Records .recorder
  | borrowed {inner : Transport} (h : Records inner) : Records (.borrowed inner)
  | shared {inner : Transport} (h : Records inner) : Records (.shared inner)

namespace SessionStep

variable {transport : Transport} {step : SessionStep}

theorem exchange_of_records (h : transport.Records) (step : SessionStep) (request : Request User) :
    step.exchange request transport = step.exchange request .recorder := by
  induction h with
  | recorder => rfl
  | borrowed _ ih | shared _ ih => exact ih

/-- A step that lacks an argument gets no further than to say so, over any transport. -/
theorem run_of_missing {parameter : String} (h : step.call.missing? = some parameter) :
    step.run transport = {
      sent := []
      warnings := []
      callbacks := 0
      result := .error (.missingArgument parameter step.call.operation.id) } := by
  have hcall := step.call.request_eq
  rw [h] at hcall
  have hrequest : step.request = .error (.missingArgument parameter step.call.operation.id) := by
    rw [request, hcall]
    rfl
  rw [run, hrequest]

theorem run_of_complete (ht : transport.Records) (h : step.call.IsComplete) : ∃ request,
    step.request = .ok request ∧ step.run transport = {
      sent := [request]
      warnings := []
      callbacks := step.callbacks
      result := step.response.decode step.call request.returnType step.response.body } := by
  have hcall := step.call.request_eq
  rw [Call.missing?_eq_none_iff.mpr h] at hcall
  obtain ⟨base, hbase⟩ := hcall
  have hrequest : step.request = .ok (base.extendAll step.extras) := by
    rw [request, hbase]
    rfl
  refine ⟨_, hrequest, ?_⟩
  rw [run, hrequest]
  exact exchange_of_records ht step _

/-- What a step comes to where everything is recorded. -/
structure Recorded (step : SessionStep) (outcome : Outcome) : Prop where
  /-- A step with all its arguments is recorded and answered once, also if the answer is none. -/
  complete : step.call.IsComplete → ∃ request, step.request = .ok request ∧
    outcome.sent = [request] ∧ outcome.callbacks = (if step.handover = .callback then 1 else 0) ∧
    outcome.result = step.response.decode step.call request.returnType step.response.body
  /-- Any other step blames the first parameter on the list that has no argument. -/
  missing : ¬ step.call.IsComplete → ∃ parameter, step.call.missing? = some parameter ∧
    outcome.sent = [] ∧ outcome.callbacks = 0 ∧
    outcome.result = .error (.missingArgument parameter step.call.operation.id)
  isMissingArgument : ∀ e, outcome.result = .error e →
    (e.isMissingArgument ↔ ¬ step.call.IsComplete)

theorem recorded_run (ht : transport.Records) (step : SessionStep) :
    step.Recorded (step.run transport) := by
  by_cases h : step.call.IsComplete
  · obtain ⟨request, hrequest, hrun⟩ := run_of_complete ht h
    rw [hrun]
    refine ⟨fun _ => ⟨request, hrequest, rfl, ?_, rfl⟩, fun hn => (hn h).elim, ?_⟩
    · rw [callbacks]
      cases step.handover <;> rfl
    · intro e he
      simp [(Call.ofDecoding_of_decodeResponse he).isMissingArgument, h]
  · obtain ⟨parameter, hmissing⟩ :=
      Option.ne_none_iff_exists'.mp (mt Call.missing?_eq_none_iff.mp h)
    rw [run_of_missing hmissing]
    refine ⟨fun hc => (h hc).elim, fun _ => ⟨parameter, hmissing, rfl, rfl, rfl⟩, ?_⟩
    intro e he
    cases he
    simp [h, Error.isMissingArgument]

end SessionStep

/-! ### Whole sessions -/

namespace Session

theorem foldl_advance (transport : Transport) (session : Session) (steps : List SessionStep) :
    steps.foldl (advance transport) session = {
      sent := session.sent ++ steps.flatMap fun step => (step.run transport).sent
      outcomes := session.outcomes ++ steps.map (SessionStep.run transport) } := by
  induction steps generalizing session with
  | nil => simp
  | cons step steps ih => simp [ih, advance]

theorem sent_run (transport : Transport) (steps : List SessionStep) :
    (run transport steps).sent = steps.flatMap fun step => (step.run transport).sent := by
  rw [run, foldl_advance]
  rfl

theorem outcomes_run (transport : Transport) (steps : List SessionStep) :
    (run transport steps).outcomes = steps.map (SessionStep.run transport) := by
  rw [run, foldl_advance]
  rfl

variable {transport : Transport}

/-- What has been recorded in the end: the own requests of the complete steps, in their order. -/
theorem forall₂_sent (ht : transport.Records) (steps : List SessionStep) :
    List.Forall₂ (fun step request => step.request = .ok request)
      (steps.filter (·.call.IsComplete)) (run transport steps).sent := by
  rw [sent_run]
  induction steps with
  | nil => exact .nil
  | cons step steps ih =>
    rw [List.flatMap_cons]
    have hstep := SessionStep.recorded_run ht step
    by_cases h : step.call.IsComplete
    · obtain ⟨request, hrequest, hsent, -⟩ := hstep.complete h
      rw [List.filter_cons_of_pos (by simpa using h), hsent]
      exact .cons hrequest ih
    · obtain ⟨_, -, hsent, -⟩ := hstep.missing h
      rw [List.filter_cons_of_neg (by simpa using h), hsent]
      exact ih

theorem forall₂_outcomes (ht : transport.Records) (steps : List SessionStep) :
    List.Forall₂ SessionStep.Recorded steps (run transport steps).outcomes := by
  rw [outcomes_run, List.forall₂_map_right_iff, List.forall₂_same]
  intro step _
  exact SessionStep.recorded_run ht step

/-- Without a step that is refused, the rest of a session goes on as with it. -/
theorem run_without (ht : transport.Records) (front : List SessionStep) {step : SessionStep}
    (rest : List SessionStep) (h : ¬ step.call.IsComplete) :
    (run transport (front ++ rest)).sent = (run transport (front ++ step :: rest)).sent ∧
      (run transport (front ++ rest)).outcomes =
        (run transport (front ++ step :: rest)).outcomes.eraseIdx front.length := by
  obtain ⟨_, -, hsent, -⟩ := (SessionStep.recorded_run ht step).missing h
  constructor
  · simp [sent_run, hsent]
  · simp [outcomes_run, List.eraseIdx_append_of_length_le]

/-- A session over a recorder. Recorded are the own requests of the steps with all required
arguments, one for each and in their order. A step that lacks an argument is not recorded and runs
no callback, names the first parameter without one, and changes nothing for the steps after it; only
the failures of such steps are missing arguments. -/
theorem run_recorded (ht : transport.Records) (steps : List SessionStep) :
    List.Forall₂ (fun step request => step.request = .ok request)
      (steps.filter (·.call.IsComplete)) (run transport steps).sent ∧
    List.Forall₂ SessionStep.Recorded steps (run transport steps).outcomes ∧
    ∀ front step rest, steps = front ++ step :: rest → ¬ step.call.IsComplete →
      (run transport (front ++ rest)).sent = (run transport steps).sent ∧
      (run transport (front ++ rest)).outcomes =
        (run transport steps).outcomes.eraseIdx front.length := by
  refine ⟨forall₂_sent ht steps, forall₂_outcomes ht steps, ?_⟩
  rintro front step rest rfl h
  exact run_without ht front rest h

/-- A user is asked for and the answer is no document; a login lacks the password; a user is
deleted. -/
def refusedLogin : List SessionStep := [
  { call := .getUserByName (some "user1")
    response := { headers := [("content-type", "application/json")], body := Utf8.ofString "?" }
    handover := .callback },
  { call := .loginUser (some "user1") none, handover := .callback },
  { call := .deleteUser (some "user1"), extras := [.header "X-A" (.ofText "1")] }]

/-- The login is not recorded, and its failure alone is a missing argument. -/
theorem run_recorded_refusedLogin :
    (run (.shared (.borrowed .recorder)) refusedLogin).sent.map (·.operation) =
        ["getUserByName", "deleteUser"] ∧
      ∃ asked login deleted,
        (run (.shared (.borrowed .recorder)) refusedLogin).outcomes = [asked, login, deleted] ∧
        asked.callbacks = 1 ∧ (∃ e, asked.result = .error e ∧ e.isMissingArgument = false) ∧
        login.callbacks = 0 ∧ login.result = .error (.missingArgument "password" "loginUser") ∧
        deleted.callbacks = 0 ∧ ∃ response, deleted.result = .ok response := by
  obtain ⟨hsent, houtcomes, -⟩ :=
    run_recorded (.shared (.borrowed .recorder)) refusedLogin
  constructor
  · have hcomplete : refusedLogin.filter (·.call.IsComplete) =
        [refusedLogin[0], refusedLogin[2]] := by rfl
    rw [hcomplete] at hsent
    generalize (run _ _).sent = sent at hsent
    cases hsent with
    | cons hasked hsent =>
      cases hsent with
      | cons hdeleted hsent =>
        cases hsent
        cases hasked
        cases hdeleted
        rfl
  · generalize (run _ _).outcomes = outcomes at houtcomes
    rw [refusedLogin] at houtcomes
    cases houtcomes with
    | cons hasked houtcomes =>
      cases houtcomes with
      | cons hlogin houtcomes =>
        cases houtcomes with
        | cons hdeleted houtcomes =>
          cases houtcomes
          obtain ⟨_, hrequest, -, hcalled, hresult⟩ := hasked.complete (by decide)
          cases hrequest
          have he := hresult.trans (show _ = Except.error _ by rfl)
          obtain ⟨_, hmissing, -, hquiet, hrefused⟩ := hlogin.missing (by decide)
          cases hmissing
          obtain ⟨_, hrequest', -, hawaited, hanswer⟩ := hdeleted.complete (by decide)
          cases hrequest'
          refine ⟨_, _, _, rfl, hcalled, ⟨_, he, rfl⟩, hquiet, hrefused, hawaited, ?_⟩
          exact ⟨_, hanswer.trans (show _ = Except.ok _ by rfl)⟩

end Session

end StoreClient
