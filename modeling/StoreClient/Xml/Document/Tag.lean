import StoreClient.Xml.Reference

/-!
Tags that open elements. A tag may declare shorthands of namespaces, and every shorthand that is
used must have been declared, by the tag itself or around it; no two attributes may have the same
name, nor names that mean the same.
-/

namespace StoreClient.Xml

/-- The addresses that shorthands stand for, the innermost declaration first. -/
abbrev Scope := List (List Char × List Char)

namespace Scope

/-- The address of a namespace of the format itself. -/
def formatAddress (path : List String) : List Char :=
  ("/".intercalate ("http:" :: "" :: "www.w3.org" :: path)).toList

/-- The shorthand of the names that the format defines, and its address. -/
def xml : List Char := ['x', 'm', 'l']
def xmlAddress : List Char := formatAddress ["XML", "1998", "namespace"]

/-- The shorthand by which shorthands are declared, and its address. -/
def xmlns : List Char := ['x', 'm', 'l', 'n', 's']
def xmlnsAddress : List Char := formatAddress ["2000", "xmlns", ""]

/-- What is declared in every document. -/
def outermost : Scope := [(xml, xmlAddress)]

/-- Whether a shorthand, if there is one, has been declared. -/
def knows (scope : Scope) (name : Name) : Bool :=
  match name.shorthand with
  | some shorthand => (scope.lookup shorthand).isSome
  | none => true

/-- What a name means: an address and a local part. -/
def meaning (scope : Scope) (name : Name) : Option (List Char) × List Char :=
  (name.shorthand.bind (scope.lookup ·), name.localPart)

end Scope

inductive Tag.Place where
  /-- Between attributes; there has been white space or not. -/
  | between (spaced : Bool)
  | key (read : List Char)
  | equals (name : Name)
  | value (name : Name) (value : Value)

/-- A tag that is being read: the name of its element, the names of its attributes, and the
shorthands that it declares. -/
structure Tag where
  name : Name
  place : Tag.Place := .between true
  attributes : List Name := []
  declared : Scope := []

namespace Tag

/-- Whether an element may have a name: the shorthands of the format are not for elements. -/
def isElementName (name : Name) : Bool :=
  name.shorthand ≠ some Scope.xml && name.shorthand ≠ some Scope.xmlns

def move (tag : Tag) (place : Place) : Tag := { tag with place }

/-- The tag with one more attribute. An attribute may declare a shorthand, but no other meaning for
those of the format, or the address of names that have no shorthand, but not one of the format. -/
def attribute? (tag : Tag) (name : Name) (value : List Char) : Option Tag :=
  let tag := tag.move (.between false)
  if name.shorthand = some Scope.xmlns then
    if name.localPart = Scope.xmlns || value.isEmpty then none
    else if name.localPart = Scope.xml && value ≠ Scope.xmlAddress then none
    else some { tag with declared := tag.declared ++ [(name.localPart, value)] }
  else if name = ⟨none, Scope.xmlns⟩ then
    if [Scope.xml, Scope.xmlns, Scope.xmlAddress, Scope.xmlnsAddress].elem value then none
    else some tag
  else some { tag with attributes := name :: tag.attributes }

/-- The scope within the element that a tag opens, if all its names mean something, and no two
attributes mean the same. -/
def scope? (tag : Tag) (outer : Scope) : Option Scope :=
  let scope := tag.declared ++ outer
  let meanings := tag.attributes.map scope.meaning
  if (tag.name :: tag.attributes).all scope.knows && meanings.eraseDups.length = meanings.length
  then some scope
  else none

/-- Takes a token after the element's name. The tag's end tells whether the element ends with it. -/
def step (version : Version) (entities : Entities) (tag : Tag) (t : Token) :
    Option (Progress Tag Bool) :=
  match tag.place with
  | .between spaced =>
    match t with
    | .tagEnd => some (.done false)
    | .emptyTagEnd => some (.done true)
    | .char c =>
      if isSpace c then some (.more (tag.move (.between true)))
      else if spaced && isNameStart c then some (.more (tag.move (.key [c])))
      else none
    | _ => none
  | .key read => do
    match ← Name.step (· = .equals) read t with
    | .more read => some (.more (tag.move (.key read)))
    | .done name =>
      guard !(tag.attributes.elem name)
      some (.more (tag.move (if t = .equals then .value name {} else .equals name)))
  | .equals name =>
    match t with
    | .equals => some (.more (tag.move (.value name {})))
    | .char c => if isSpace c then some (.more tag) else none
    | _ => none
  | .value name value => do
    match ← value.step version entities t with
    | .more value => some (.more (tag.move (.value name value)))
    | .done value => (tag.attribute? name value).map .more

end Tag

end StoreClient.Xml
