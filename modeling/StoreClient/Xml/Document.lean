import StoreClient.Xml.Document.Declaration
import StoreClient.Xml.Document.Doctype
import StoreClient.Xml.Document.Tag

/-!
Reading XML into a tree, up to the end of the root element; what comes after it is not looked at.
Comments vanish, so the texts on both sides of one are a single text; character data sections are
text; every text is trimmed at both ends and dropped if nothing is left. Attributes are checked but
not kept.

The reader takes one character at a time, because what comes next may depend on what has been read:
a declaration may change the encoding, and a reference to an entity puts the entity's text before
what is left.
-/

namespace StoreClient.Xml

/-- A text, or an element with its content. -/
inductive Node where
  | text (content : String)
  | element (name : String) (content : List Node)

/-- An element that has been opened: its name, the shorthands in scope, and the content so far, the
latest first. -/
structure Open where
  name : Name
  scope : Scope
  content : List Node := []

namespace Open

/-- The content with a text added, if it is more than white space. -/
def addText (element : Open) (text : List Char) : Open :=
  match trim text with
  | [] => element
  | text => { element with content := .text (String.ofList text) :: element.content }

def addNode (element : Open) (node : Node) : Open :=
  { element with content := node :: element.content }

def node (element : Open) : Node :=
  .element (String.ofList element.name.render) element.content.reverse

end Open

/-- How far a document has got. -/
inductive Stage where
  | beginning
  /-- Something has come before the root, but no document type. -/
  | prolog
  | typed
  | root
  deriving DecidableEq, Repr

/-- Where the next token stands. -/
inductive Place where
  | content
  | comment
  | cdata
  /-- In a reference, of which this much has been read. -/
  | reference (read : List Char)
  /-- In the target of a processing instruction. -/
  | target (read : List Char)
  | instruction
  | declaration (declaration : Declaration)
  | doctype (place : Doctype.Place)
  | tagName (read : List Char)
  | tag (tag : Tag)
  | endName (read : List Char)
  | endTag (name : Name)

/-- A document that is being read: the elements that are open, the innermost first, and the text
since the last mark, the latest character first. -/
structure Draft where
  scanner : Scanner := {}
  encoding : Encoding
  version : Version := .v10
  entities : Entities := []
  stage : Stage := .beginning
  place : Place := .content
  elements : List Open := []
  text : List Char := []

namespace Draft

/-- What a token leads to. -/
inductive Outcome where
  | next (document : Draft)
  /-- A text comes before what is left. -/
  | insert (text : List Char) (document : Draft)
  | root (node : Node)

def move (document : Draft) (place : Place) : Draft := { document with place }

def addText (document : Draft) (text : List Char) : Draft :=
  { document with text := text.reverse ++ document.text }

/-- The same document with its text put into the innermost element. -/
def flush (document : Draft) : Draft :=
  match document.elements with
  | [] => { document with text := [] }
  | element :: outer =>
    { document with elements := element.addText document.text.reverse :: outer, text := [] }

def begun (document : Draft) : Draft :=
  { document with stage := if document.stage = .beginning then .prolog else document.stage }

/-- What an element that has been read leads to: the root ends the document. -/
def close (document : Draft) (node : Node) (outer : List Open) : Outcome :=
  match outer with
  | [] => .root node
  | element :: outer =>
    .next { document with place := .content, elements := element.addNode node :: outer }

/-- Takes a token between marks. Outside the root there may be white space, but no other text. -/
def stepContent (document : Draft) (t : Token) : Option Outcome :=
  let inRoot := !document.elements.isEmpty
  match t with
  | .char c =>
    if isSpace c && document.text.isEmpty then some (.next document.begun)
    else if inRoot && document.version.isPlain c then some (.next (document.addText [c]))
    else none
  | .commentStart => some (.next (document.begun.move .comment))
  | .instructionStart => some (.next (document.flush.move (.target [])))
  | .tagStart =>
    if inRoot || document.stage ≠ .root then
      some (.next ({ document.flush with stage := .root }.move (.tagName [])))
    else none
  | .doctypeStart =>
    if document.stage = .beginning || document.stage = .prolog then
      some (.next ({ document with stage := .typed }.move (.doctype .beforeName)))
    else none
  | .cdataEnd | .declarationStart => none
  | t =>
    if !inRoot then none
    else
      match t with
      | .ampersand => some (.next (document.move (.reference [])))
      | .cdataStart => some (.next (document.move .cdata))
      | .endTagStart => some (.next (document.flush.move (.endName [])))
      | t => some (.next (document.addText t.text))

def stepComment (document : Draft) : Token → Option Outcome
  | .commentEnd => some (.next (document.move .content))
  | .char c => if document.version.isChar c then some (.next document) else none
  | _ => some (.next document)

def stepCdata (document : Draft) : Token → Option Outcome
  | .cdataEnd => some (.next (document.move .content))
  | .char c => if document.version.isChar c then some (.next (document.addText [c])) else none
  | _ => none

def stepReference (document : Draft) (read : List Char) (t : Token) : Option Outcome := do
  match ← Reference.step read t with
  | .more read => some (.next (document.move (.reference read)))
  | .done name =>
    let document := document.move .content
    match ← Reference.resolve? document.version document.entities name with
    | .char c => some (.next (document.addText [c]))
    | .text text => some (.insert text document)

/-- Whether a target is reserved: a declaration stands at the beginning or nowhere. -/
def isReserved (target : List Char) : Bool := target.map Char.toLower = Scope.xml

def stepTarget (document : Draft) (read : List Char) (t : Token) : Option Outcome :=
  let target := read.reverse
  match t with
  | .instructionEnd =>
    if target.isEmpty || isReserved target then none
    else some (.next (document.begun.move .content))
  | .char c =>
    if if read.isEmpty then isNameStart c else isNameChar c then
      some (.next (document.move (.target (c :: read))))
    else if !isSpace c then none
    else if target = Scope.xml && document.stage = .beginning then
      some (.next (document.move (.declaration {})))
    else if isReserved target then none
    else some (.next (document.begun.move .instruction))
  | _ => none

def stepInstruction (document : Draft) : Token → Option Outcome
  | .instructionEnd => some (.next (document.move .content))
  | .char c => if document.version.isChar c then some (.next document) else none
  | _ => some (.next document)

def stepDeclaration (document : Draft) (declaration : Declaration) (t : Token) :
    Option Outcome := do
  match ← declaration.step t with
  | .more declaration => some (.next (document.move (.declaration declaration)))
  | .done declaration =>
    let encoding ←
      match declaration.charset with
      | some charset => document.encoding.declare? charset
      | none => some document.encoding
    some (.next ({ document.begun with encoding, version := declaration.version }.move .content))

def stepDoctype (document : Draft) (place : Doctype.Place) (t : Token) : Option Outcome := do
  match ← Doctype.step document.version document.entities place t with
  | .next place => some (.next (document.move (.doctype place)))
  | .declared name text place =>
    let entities := document.entities.declare name text
    some (.next ({ document with entities }.move (.doctype place)))
  | .insert text place => some (.insert text (document.move (.doctype place)))
  | .done => some (.next (document.move .content))

/-- What a tag that has been read leads to. -/
def openElement (document : Draft) (tag : Tag) (isEmpty : Bool) : Option Outcome := do
  let scope ← tag.scope? ((document.elements.head?.map Open.scope).getD Scope.outermost)
  let element : Open := { name := tag.name, scope }
  if isEmpty then some (document.close element.node document.elements)
  else some (.next ({ document with elements := element :: document.elements }.move .content))

/-- Takes a token of the name in a tag, which ends with white space or with the tag. -/
def stepTagName (document : Draft) (read : List Char) (t : Token) : Option Outcome := do
  match ← Name.step (fun t => t = .tagEnd || t = .emptyTagEnd) read t with
  | .more read => some (.next (document.move (.tagName read)))
  | .done name =>
    guard (Tag.isElementName name)
    if t = .tagEnd || t = .emptyTagEnd then document.openElement { name } (t = .emptyTagEnd)
    else some (.next (document.move (.tag { name })))

def stepTag (document : Draft) (tag : Tag) (t : Token) : Option Outcome := do
  match ← tag.step document.version document.entities t with
  | .more tag => some (.next (document.move (.tag tag)))
  | .done isEmpty => document.openElement tag isEmpty

/-- Closes the innermost element, which must have the name. -/
def closeElement (document : Draft) (name : Name) : Option Outcome :=
  match document.elements with
  | [] => none
  | element :: outer =>
    if element.name = name then some (document.close element.node outer) else none

/-- Takes a token of the name in the tag that closes an element. -/
def stepEndName (document : Draft) (read : List Char) (t : Token) : Option Outcome := do
  match ← Name.step (· = .tagEnd) read t with
  | .more read => some (.next (document.move (.endName read)))
  | .done name =>
    if t = .tagEnd then document.closeElement name else some (.next (document.move (.endTag name)))

def stepEndTag (document : Draft) (name : Name) : Token → Option Outcome
  | .tagEnd => document.closeElement name
  | .char c => if isSpace c then some (.next document) else none
  | _ => none

def step (document : Draft) (t : Token) : Option Outcome :=
  match document.place with
  | .content => document.stepContent t
  | .comment => document.stepComment t
  | .cdata => document.stepCdata t
  | .reference read => document.stepReference read t
  | .target read => document.stepTarget read t
  | .instruction => document.stepInstruction t
  | .declaration declaration => document.stepDeclaration declaration t
  | .doctype place => document.stepDoctype place t
  | .tagName read => document.stepTagName read t
  | .tag tag => document.stepTag tag t
  | .endName read => document.stepEndName read t
  | .endTag name => document.stepEndTag name t

/-- Takes the tokens that one character completes. Only the last can do more than change the
document. -/
def steps (document : Draft) : List Token → Option Outcome
  | [] => some (.next document)
  | t :: ts =>
    match document.step t with
    | some (.next document) => document.steps ts
    | outcome => outcome

def feed (document : Draft) (c : Char) : Option Outcome := do
  let (scanner, tokens) ← document.scanner.feed c
  { document with scanner }.steps tokens

/-! ### Texts of entities -/

/-- How many entities may be inserted between two characters of the document itself, one within
another or one after another. -/
def maxInsertions : Nat := 10

/-- How much of inserted text may be left when more is inserted. -/
def maxInserted : Nat := 1000000

/-- Takes the characters of an inserted text; `insert` takes those of a text that is inserted in
turn, with what is left of the first. -/
def feedText (insert : List Char → Draft → Option Outcome) :
    List Char → Draft → Option Outcome
  | [], document => some (.next document)
  | c :: rest, document =>
    match document.feed c with
    | some (.next document) => feedText insert rest document
    | some (.insert [] document) => feedText insert rest document
    | some (.insert text document) =>
      if rest.length ≤ maxInserted then insert (text ++ rest) document else none
    | outcome => outcome

/-- Takes the characters of a text in which so many entities may still be inserted. -/
def feedAll : Nat → List Char → Draft → Option Outcome
  | 0 => feedText fun _ _ => none
  | budget + 1 => feedText (feedAll budget)

/-- Takes the bytes of a document up to the end of its root. Every round takes a byte. -/
def finish : Nat → Bytes → Draft → Option Node
  | 0, _, _ => none
  | fuel + 1, bytes, document =>
    match document.encoding.takeLineChar bytes with
    | none => none
    | some (c, rest) =>
      match feedAll maxInsertions [c] document with
      | some (.next document) => finish fuel rest document
      | some (.root node) => some node
      | _ => none

end Draft

/-- The root of the document that some bytes spell. -/
def parse? (text : Bytes) : Option Node :=
  let (encoding, bytes) := Encoding.detect text
  Draft.finish bytes.length bytes { encoding }

end StoreClient.Xml
