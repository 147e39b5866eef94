import StoreClient.Operation.Basic
import StoreClient.Response.Basic

/-!
Calls: operations with their arguments. A call whose required arguments are all given becomes a
request; its response is decoded into the type that belongs to the operation.
-/

namespace StoreClient

/-- An operation with its arguments, each of which may be missing. -/
inductive Call where
  | createUser (body : Option User)
  | createUsersWithArrayInput (body : Option (List User))
  | createUsersWithListInput (body : Option (List User))
  | deleteUser (username : Option String)
  | getUserByName (username : Option String)
  | loginUser (username password : Option String)
  | logoutUser
  | updateUser (username : Option String) (body : Option User)
  | fooGet

namespace Call

def operation : Call → Operation
  | createUser .. => .createUser
  | createUsersWithArrayInput .. => .createUsersWithArrayInput
  | createUsersWithListInput .. => .createUsersWithListInput
  | deleteUser .. => .deleteUser
  | getUserByName .. => .getUserByName
  | loginUser .. => .loginUser
  | logoutUser => .logoutUser
  | updateUser .. => .updateUser
  | fooGet => .fooGet

def returnType : Call → ReturnType
  | getUserByName .. => .model User.schema.name
  | loginUser .. => .string
  | fooGet => .model InlineResponseDefault.schema.name
  | _ => .nothing

/-- The request that a call makes, unless it lacks a required argument. -/
def request (call : Call) : Except Error (Request User) := do
  let op := call.operation
  let blank : Request User := op.request call.returnType
  match call with
  | createUser body => return { blank with payload := .entity (← op.require "body" body) }
  | createUsersWithArrayInput body | createUsersWithListInput body =>
    return { blank with payload := .entities (← op.require "body" body) }
  | deleteUser username | getUserByName username =>
    let username ← op.require "username" username
    return { blank with path := blank.path.insert "username" (.ofText username) }
  | loginUser username password =>
    let username ← op.require "username" username
    let password ← op.require "password" password
    return (blank.withQuery "username" (.ofText username)).withQuery "password" (.ofText password)
  | updateUser username body =>
    let username ← op.require "username" username
    let body ← op.require "body" body
    return { blank with
      path := blank.path.insert "username" (.ofText username), payload := .entity body }
  | logoutUser | fooGet => return blank

end Call

/-- The data of a response to a call. -/
inductive Answer where
  | nothing
  | user (u : User)
  | text (s : String)
  | inline (r : InlineResponseDefault)
  deriving DecidableEq

/-- Decodes a body into the type that belongs to the operation of a call. -/
def Call.decodeAnswer (call : Call) (returnType : ReturnType) (contentType : Option String)
    (body : Bytes) : Except Error Answer :=
  match call with
  | getUserByName .. => (decodeBody returnType contentType body).map .user
  | loginUser .. => (decodeBody returnType contentType body).map .text
  | fooGet => (decodeBody returnType contentType body).map .inline
  | _ => (decodeBody (α := Unit) returnType contentType body).map fun _ => .nothing

end StoreClient
