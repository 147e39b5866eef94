import StoreClient.Model.Schema

/-!
Users of the store.
-/

namespace StoreClient

/-- A user, of whom anything may be unknown. -/
structure User where
  id : Option Int64 := none
  username : Option String := none
  firstName : Option String := none
  lastName : Option String := none
  email : Option String := none
  password : Option String := none
  phone : Option String := none
  userStatus : Option Int32 := none
  deriving DecidableEq

namespace User

/-- A user of whom the name is known. -/
def named (username : String) : User := { username := some username }

def schema : Schema User where
  name := "User"
  blank := {}
  fields := [
    .optional "id" .int64 (·.id) fun v u => { u with id := v },
    .optional "username" .text (·.username) fun v u => { u with username := v },
    .optional "firstName" .text (·.firstName) fun v u => { u with firstName := v },
    .optional "lastName" .text (·.lastName) fun v u => { u with lastName := v },
    .optional "email" .text (·.email) fun v u => { u with email := v },
    .optional "password" .text (·.password) fun v u => { u with password := v },
    .optional "phone" .text (·.phone) fun v u => { u with phone := v },
    .optional "userStatus" .int32 (·.userStatus) fun v u => { u with userStatus := v }]

instance : Record User := ⟨schema⟩

end User

end StoreClient
