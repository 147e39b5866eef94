import StoreClient.Json.Value

/-!
Parameter values. A parameter is a JSON value with a style that says how a list of values becomes
text; only texts, numbers, truth values, `null` and lists of these can be sent.
-/

namespace StoreClient

/-- How the items of a list are set down: one by one in a query, or joined by a mark. -/
inductive Style where
  | default
  | form
  | simple
  | spaceDelimited
  | pipeDelimited
  deriving DecidableEq, Repr

/-- The mark between items that are joined. -/
def Style.delimiter : Style → String
  | .spaceDelimited => " "
  | .pipeDelimited => "|"
  | .default | .form | .simple => ","

/-- A value to be sent as a parameter. -/
structure Param where
  value : Json.Value
  style : Style

namespace Param

/-- Why a value cannot be sent, with the part of it that is to blame. -/
inductive Unsupported where
  | nested (value : Json.Value)
  | object (value : Json.Value)

def Unsupported.message : Unsupported → String
  | .nested value =>
    "nested complex values not supported in parameters. Got: " ++ String.ofList value.render
  | .object value =>
    "object values not supported in parameters. Got: " ++ String.ofList value.render

/-- A parameter without a style of its own. -/
def ofValue (value : Json.Value) : Param := ⟨value, .default⟩

def ofText (s : String) : Param := ofValue (.text s)

def ofFloat (x : Float) : Param := ofValue (.ofFloat x)

def ofList (values : List Json.Value) : Param := ofValue (.array values)

def withStyle (param : Param) (style : Style) : Param := { param with style }

/-- The style in a query: without one of its own, items are set down one by one. -/
def queryStyle (param : Param) : Style :=
  if param.style = .default then .form else param.style

theorem queryStyle_eq_form_iff {param : Param} :
    param.queryStyle = .form ↔ param.style = .default ∨ param.style = .form := by
  rw [queryStyle]
  cases param.style <;> decide

/-- The style in a path: without one of its own, items are joined by commas. -/
def pathStyle (param : Param) : Style :=
  if param.style = .default then .simple else param.style

/-- The text of a value that is not a list. -/
def scalarText : Json.Value → Except Unsupported String
  | .text s => .ok s
  | .number n => .ok (String.ofList n.render)
  | .bool true => .ok "true"
  | .bool false => .ok "false"
  | .null => .ok ""
  | .array items => .error (.nested (.array items))
  | .object members => .error (.nested (.object members))

/-- The one text that a parameter has in a path or a header. -/
def text (param : Param) : Except Unsupported String :=
  match param.value with
  | .array items => do
    let texts ← items.mapM scalarText
    return param.pathStyle.delimiter.intercalate texts
  | .object members => .error (.object (.object members))
  | scalar => scalarText scalar

/-- The texts that a parameter has in a query or a form. -/
def queryTexts (param : Param) : Except Unsupported (List String) :=
  match param.value with
  | .array items => do
    let texts ← items.mapM scalarText
    return if param.queryStyle = .form then texts
      else [param.queryStyle.delimiter.intercalate texts]
  | .object members => .error (.object (.object members))
  | scalar => return [← scalarText scalar]

end Param

end StoreClient
