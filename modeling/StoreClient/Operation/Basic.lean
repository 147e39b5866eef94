import StoreClient.Request.Basic

/-!
The operations of the service: what is fixed about each before any argument is given.
-/

namespace StoreClient

/-- An operation. Its path is relative to the base path of a client. -/
structure Operation where
  id : String
  method : Method
  path : String
  required : List String := []
  contentTypes : List String := []
  accepts : List String := []
  authNames : List String := []
  deriving DecidableEq, Repr

namespace Operation

/-- The argument of a parameter that the operation cannot do without. -/
def require {α : Type} (op : Operation) (parameter : String) : Option α → Except Error α
  | some a => .ok a
  | none => .error (.missingArgument parameter op.id)

/-- A request that nothing has been bound in yet. -/
def request {β : Type} (op : Operation) (returnType : ReturnType) : Request β where
  operation := op.id
  method := op.method
  path := .ofString op.path
  contentTypes := op.contentTypes
  accepts := op.accepts
  authNames := op.authNames
  returnType

/-- The media types of responses that hold a record or a text about a user. -/
def xmlOrJson : List String := ["application/xml", "application/json"]

def createUser : Operation where
  id := "createUser"
  method := .post
  path := "/user"
  required := ["body"]

def createUsersWithArrayInput : Operation where
  id := "createUsersWithArrayInput"
  method := .post
  path := "/user/createWithArray"
  required := ["body"]

def createUsersWithListInput : Operation where
  id := "createUsersWithListInput"
  method := .post
  path := "/user/createWithList"
  required := ["body"]

def deleteUser : Operation where
  id := "deleteUser"
  method := .delete
  path := "/user/\x7busername\x7d"
  required := ["username"]

def getUserByName : Operation where
  id := "getUserByName"
  method := .get
  path := "/user/\x7busername\x7d"
  required := ["username"]
  accepts := xmlOrJson

def loginUser : Operation where
  id := "loginUser"
  method := .get
  path := "/user/login"
  required := ["username", "password"]
  accepts := xmlOrJson

def logoutUser : Operation where
  id := "logoutUser"
  method := .get
  path := "/user/logout"

def updateUser : Operation where
  id := "updateUser"
  method := .put
  path := "/user/\x7busername\x7d"
  required := ["username", "body"]

def fooGet : Operation where
  id := "foo_get"
  method := .get
  path := "/foo"
  accepts := ["application/json"]

end Operation

end StoreClient
