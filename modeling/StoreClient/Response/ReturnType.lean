/-!
What an operation declares that it returns.
-/

namespace StoreClient

/-- The declared type of a response's body. -/
inductive ReturnType where
  | nothing
  | primitive (name : String)
  | model (name : String)
  | array (item : ReturnType)
  deriving DecidableEq, Repr

namespace ReturnType

def string : ReturnType := .primitive "String"

def display : ReturnType → String
  | .nothing => "nothing"
  | .primitive name => name
  | .model name => name
  | .array item => "Array<" ++ item.display ++ ">"

end ReturnType

end StoreClient
