import StoreClient.Operation.Call
import StoreClient.Proofs.Logged

/-!
Required arguments. Each call asks for its arguments one by one, and each operation lists what it
cannot do without; the two agree: a call becomes a request exactly if every listed parameter has an
argument, and else it is refused for the first one on the list that has none (`request_eq`).
-/

namespace StoreClient

namespace Call

/-- The parameters of a call, each with whether an argument is given for it. -/
def arguments : Call → List (String × Bool)
  | createUser body => [("body", body.isSome)]
  | createUsersWithArrayInput body | createUsersWithListInput body => [("body", body.isSome)]
  | deleteUser username | getUserByName username => [("username", username.isSome)]
  | loginUser username password =>
    [("username", username.isSome), ("password", password.isSome)]
  | updateUser username body => [("username", username.isSome), ("body", body.isSome)]
  | logoutUser | fooGet => []

def Gives (call : Call) (parameter : String) : Prop := (parameter, true) ∈ call.arguments

instance (call : Call) : DecidablePred call.Gives :=
  fun parameter => inferInstanceAs (Decidable ((parameter, true) ∈ call.arguments))

/-- Every parameter that the operation requires has an argument. -/
def IsComplete (call : Call) : Prop := ∀ parameter ∈ call.operation.required, call.Gives parameter

instance : DecidablePred IsComplete :=
  fun call => inferInstanceAs (Decidable (∀ p ∈ call.operation.required, call.Gives p))

/-- The first parameter that the operation requires and no argument is given for. -/
def missing? (call : Call) : Option String := call.operation.required.find? (¬ call.Gives ·)

theorem missing?_eq_none_iff {call : Call} : call.missing? = none ↔ call.IsComplete := by
  simp [missing?, IsComplete]

/-- A call is refused for the first missing parameter, and if there is none it is a request. -/
theorem request_eq (call : Call) :
    match call.missing? with
    | some parameter => call.request = .error (.missingArgument parameter call.operation.id)
    | none => ∃ request, call.request = .ok request := by
  cases call with
  | logoutUser | fooGet => exact ⟨_, rfl⟩
  | createUser argument | createUsersWithArrayInput argument | createUsersWithListInput argument
  | deleteUser argument | getUserByName argument =>
    cases argument with
    | none => rfl
    | some _ => exact ⟨_, rfl⟩
  | loginUser username other | updateUser username other =>
    cases username with
    | none => cases other <;> rfl
    | some _ =>
      cases other with
      | none => rfl
      | some _ => exact ⟨_, rfl⟩

theorem exists_request {call : Call} (h : call.IsComplete) :
    ∃ request, call.request = .ok request := by
  have hrequest := call.request_eq
  rwa [missing?_eq_none_iff.mpr h] at hrequest

end Call

end StoreClient
