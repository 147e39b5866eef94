import StoreClient.Decimal.Shortest

/-!
JSON values and their compact text. An object lists its members; made from members in any order, it
has them sorted by name, the last of each name.
-/

namespace StoreClient.Json

/-- An integer is kept apart from a number written with a point or an exponent. -/
inductive Number where
  | int (i : Int)
  | float (x : Float)

inductive Value where
  | null
  | bool (b : Bool)
  | number (n : Number)
  | text (s : String)
  | array (items : List Value)
  | object (members : List (String × Value))

/-- From 0.00001 on and below 10¹⁶ a number is written without an exponent. -/
def plainFloat : Decimal.Plain := ⟨-5, 15⟩

/-- A double as the shortest decimal that reads back, always with a point or an exponent. -/
def renderFloat (x : Float) : List Char :=
  let magnitude := Decimal.Binary.ofFloat x
  let digits :=
    if magnitude.mantissa = 0 then ['0', '.', '0'] else magnitude.shortest.render plainFloat
  if 0x8000000000000000 ≤ x.toBits.toNat then '-' :: digits else digits

def Number.render : Number → List Char
  | .int i => (toString i).toList
  | .float x => renderFloat x

/-- The value of a double; one that is not a finite number has none but `null`. -/
def Value.ofFloat (x : Float) : Value := if x.isFinite then .number (.float x) else .null

/-- Escapes what may not stand between quotes: quotes, backslashes and control characters. -/
def escapeChar (c : Char) : List Char :=
  if c = '"' ∨ c = '\\' then ['\\', c]
  else if 0x20 ≤ c.toNat then [c]
  else if c = '\n' then ['\\', 'n']
  else if c = '\r' then ['\\', 'r']
  else if c = '\t' then ['\\', 't']
  else if c.toNat = 0x08 then ['\\', 'b']
  else if c.toNat = 0x0C then ['\\', 'f']
  else ['\\', 'u', '0', '0', (c.toNat / 16).digitChar, (c.toNat % 16).digitChar]

def quote (s : String) : List Char := '"' :: s.toList.flatMap escapeChar ++ ['"']

def commaSeparated : List (List Char) → List Char
  | [] => []
  | [t] => t
  | t :: u :: rest => t ++ ',' :: commaSeparated (u :: rest)

def renderArray (items : List (List Char)) : List Char := '[' :: commaSeparated items ++ [']']

def renderObject (members : List (String × List Char)) : List Char :=
  '\x7b' :: commaSeparated (members.map fun m => quote m.1 ++ ':' :: m.2) ++ ['\x7d']

mutual

/-- The text without any white space. -/
def Value.render : Value → List Char
  | .null => ['n', 'u', 'l', 'l']
  | .bool true => ['t', 'r', 'u', 'e']
  | .bool false => ['f', 'a', 'l', 's', 'e']
  | .number n => n.render
  | .text s => quote s
  | .array items => renderArray (renderItems items)
  | .object members => renderObject (renderMembers members)

def renderItems : List Value → List (List Char)
  | [] => []
  | v :: rest => v.render :: renderItems rest

def renderMembers : List (String × Value) → List (String × List Char)
  | [] => []
  | (k, v) :: rest => (k, v.render) :: renderMembers rest

end

/-- Puts a member at its place by name; a member of the same name gives way to it. -/
def insertMember (k : String) (v : Value) : List (String × Value) → List (String × Value)
  | [] => [(k, v)]
  | (k', v') :: rest =>
    if k = k' then (k, v) :: rest
    else if k < k' then (k, v) :: (k', v') :: rest
    else (k', v') :: insertMember k v rest

/-- The object of some members, of which the last of each name counts. -/
def Value.ofMembers (members : List (String × Value)) : Value :=
  .object (members.foldl (fun sorted m => insertMember m.1 m.2 sorted) [])

end StoreClient.Json
