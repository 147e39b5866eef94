/-!
Writing XML: the declaration, then elements without white space between them. An element without
content is written as one tag; one whose content is an empty text keeps both tags.
-/

namespace StoreClient.Xml

/-- Escapes what would begin a tag or a reference, and what would end a section. -/
def escapeChar (c : Char) : List Char :=
  if c = '<' then ['&', 'l', 't', ';']
  else if c = '>' then ['&', 'g', 't', ';']
  else if c = '&' then ['&', 'a', 'm', 'p', ';']
  else [c]

def escape (cs : List Char) : List Char := cs.flatMap escapeChar

/-- An element around content that is already written. -/
def wrap (name : String) (content : List Char) : List Char :=
  '<' :: name.toList ++ '>' :: content ++ '<' :: '/' :: name.toList ++ ['>']

/-- An element around its fields, each of which is already written. -/
def renderElement (name : String) (fields : List (List Char)) : List Char :=
  if fields.isEmpty then '<' :: name.toList ++ [' ', '/', '>'] else wrap name fields.flatten

/-- The first line of every document. -/
def header : String := "<?xml version=\"1.0\" encoding=\"UTF-8\"?>"

/-- A document with the element as its root. -/
def document (element : List Char) : List Char := header.toList ++ element

end StoreClient.Xml
