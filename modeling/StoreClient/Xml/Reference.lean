import StoreClient.Text.Percent
import StoreClient.Xml.Token

/-!
References: a character by its number, or a text by the name of an entity.
-/

namespace StoreClient.Xml

/-- What a machine that takes tokens has come to: it waits for more, or it is done. -/
inductive Progress (α β : Type) where
  | more (state : α)
  | done (result : β)

/-- Entities by name, with the texts that they stand for. Names of parameter entities, which a
document type alone refers to, begin with a percent sign. -/
abbrev Entities := List (List Char × List Char)

namespace Entities

/-- Declares an entity. Of two declarations of a name the first counts. -/
def declare (entities : Entities) (name text : List Char) : Entities := entities ++ [(name, text)]

end Entities

/-- What a reference stands for: a character, or the text of an entity. -/
inductive Reference where
  | char (c : Char)
  | text (text : List Char)

namespace Reference

/-- The number that digits of a base denote, maybe after a plus sign; there must be one. -/
def number? (base : Nat) (digits : List Char) : Option Nat :=
  let digits :=
    match digits with
    | '+' :: digits => digits
    | digits => digits
  if digits.isEmpty then none
  else digits.foldl (fun n d => do
    let n ← n
    let v ← Percent.digitValue? d
    if v < base then some (n * base + v) else none) (some 0)

/-- The character that a number after `#` refers to, which must be one that a document may hold. -/
def numbered? (version : Version) (number : List Char) : Option Char := do
  let n ←
    match number with
    | 'x' :: digits => number? 16 digits
    | digits => number? 10 digits
  if h : n.isValidChar then
    let c := Char.ofNatAux n h
    if version.isChar c then some c else none
  else none

/-- What a name between `&` and `;` refers to. -/
def resolve? (version : Version) (entities : Entities) (name : List Char) : Option Reference :=
  match name with
  | ['l', 't'] => some (.char '<')
  | ['g', 't'] => some (.char '>')
  | ['a', 'm', 'p'] => some (.char '&')
  | ['a', 'p', 'o', 's'] => some (.char '\'')
  | ['q', 'u', 'o', 't'] => some (.char '"')
  | '#' :: number => (numbered? version number).map .char
  | name => (entities.lookup name).map .text

/-- Takes a token after `&` and the characters read since, the latest first. -/
def step (read : List Char) : Token → Option (Progress (List Char) (List Char))
  | .char c =>
    let fits := if read.isEmpty then isNameStart c || c == '#' else isNameChar c
    if fits then some (.more (c :: read)) else none
  | .semicolon => if read.isEmpty then none else some (.done read.reverse)
  | _ => none

end Reference

/-- A quoted value that is being read: the quote that began it, once there is one, and what has been
read since, the latest character first; likewise the name of a reference that has begun. -/
structure Value where
  quote : Option Token := none
  read : List Char := []
  reference : Option (List Char) := none

namespace Value

/-- Takes a token that belongs to a reference within a value. What the reference stands for joins
the value as it is. -/
def stepReference (version : Version) (entities : Entities) (value : Value) (name : List Char)
    (t : Token) : Option Value := do
  match ← Reference.step name t with
  | .more name => some { value with reference := some name }
  | .done name =>
    match ← Reference.resolve? version entities name with
    | .char c => some { value with reference := none, read := c :: value.read }
    | .text added => some { value with reference := none, read := added.reverse ++ value.read }

/-- Takes a token. White space may come before the first quote; after it everything up to the same
quote is of the value, but for marks that begin a tag or a processing instruction. -/
def step (version : Version) (entities : Entities) (value : Value) (t : Token) :
    Option (Progress Value (List Char)) :=
  match value.reference, value.quote with
  | some name, _ => (value.stepReference version entities name t).map .more
  | none, none =>
    if t.isQuote then some (.more { value with quote := some t })
    else
      match t with
      | .char c => if isSpace c then some (.more value) else none
      | _ => none
  | none, some quote =>
    match t with
    | .char c =>
      if version.isPlain c then some (.more { value with read := c :: value.read }) else none
    | .ampersand => some (.more { value with reference := some [] })
    | .tagStart | .instructionStart => none
    | t =>
      if t = quote then some (.done value.read.reverse)
      else some (.more { value with read := t.text.reverse ++ value.read })

end Value

namespace Name

/-- Takes a token after the characters of a name that have been read, the latest first. White space
ends the name, and so does a token that `ends` allows. -/
def step (ends : Token → Bool) (read : List Char) (t : Token) :
    Option (Progress (List Char) Name) :=
  let finish := (Name.parse? read.reverse).map Progress.done
  match t with
  | .char c =>
    if c = ':' then if read.isEmpty || read.elem ':' then none else some (.more (c :: read))
    else if if read.isEmpty then isNameStart c else isNameChar c then some (.more (c :: read))
    else if isSpace c then finish
    else none
  | t => if ends t then finish else none

end Name

end StoreClient.Xml
