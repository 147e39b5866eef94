import StoreClient.Xml.Reference

/-!
The document type: the name of the root, where a definition may be found, and declarations of its
own, of which only those of entities matter. A reference to a parameter entity puts its text in
place of the reference.
-/

namespace StoreClient.Xml

/-- An entity whose text is being read: its name, the quote that began the text, and what has been
read since, the latest character first. -/
structure EntityDraft where
  name : List Char
  quote : Token
  read : List Char := []

def EntityDraft.add (draft : EntityDraft) (c : Char) : EntityDraft :=
  { draft with read := c :: draft.read }

/-- Where the next token of a document type stands. -/
inductive Doctype.Place where
  | beforeName
  | name
  | afterName
  /-- In a keyword, before the letters that are left of it; a public identifier comes first or
  not. -/
  | keyword (isPublic : Bool) (left : List Char)
  | beforeIdentifier (isPublic : Bool)
  | identifier (isPublic : Bool) (quote : Token)
  | afterIdentifiers
  | declarations
  | comment
  | quoted (quote : Token)
  /-- In the name of a parameter entity, of which this much has been read. -/
  | parameter (read : List Char)
  /-- In a declaration's keyword, of which this much has been read. -/
  | declaration (read : List Char)
  /-- In a declaration that does not matter. -/
  | skipped
  | beforeEntity
  | beforeParameter
  | entity (read : List Char)
  | beforeText (name : List Char)
  | text (draft : EntityDraft)
  /-- After an ampersand in an entity's text. -/
  | textReference (draft : EntityDraft)
  /-- In the number of a character in an entity's text. -/
  | textNumber (draft : EntityDraft) (read : List Char)
  /-- In the name of a parameter entity in an entity's text. -/
  | textParameter (draft : EntityDraft) (read : List Char)

/-- What a token of a document type leads to. -/
inductive Doctype.Outcome where
  | next (place : Doctype.Place)
  | declared (name text : List Char) (place : Doctype.Place)
  /-- A text takes the place of a reference. -/
  | insert (text : List Char) (place : Doctype.Place)
  | done

namespace Doctype

def isPublicChar (c : Char) : Bool :=
  c.isAlphanum || c == ' ' || c == '\n' || c == '\r' ||
    ['-', '\'', '(', ')', '+', ',', '.', '/', ':', '=', '?', ';', '!', '*', '#', '@', '$', '_',
      '%'].elem c

/-- The letters of the keywords after the first. -/
def systemTail : List Char := ['Y', 'S', 'T', 'E', 'M']
def publicTail : List Char := ['U', 'B', 'L', 'I', 'C']

/-- Takes a token before the declarations. -/
def stepHead : Place → Token → Option Outcome
  | .beforeName, .char c =>
    if isSpace c then some (.next .beforeName)
    else if isNameStart c then some (.next .name)
    else none
  | .name, .char c =>
    if isNameChar c then some (.next .name) else if isSpace c then some (.next .afterName) else none
  | .name, .tagEnd => some .done
  | .afterName, .char c =>
    if isSpace c then some (.next .afterName)
    else if c = 'S' then some (.next (.keyword false systemTail))
    else if c = 'P' then some (.next (.keyword true publicTail))
    else if c = '[' then some (.next .declarations)
    else none
  | .afterName, .tagEnd => some .done
  | .keyword isPublic (l :: left), .char c =>
    if c = l then some (.next (.keyword isPublic left)) else none
  | .keyword isPublic [], .char c =>
    if isSpace c then some (.next (.beforeIdentifier isPublic)) else none
  | .beforeIdentifier isPublic, t =>
    if t.isQuote then some (.next (.identifier isPublic t))
    else
      match t with
      | .char c => if isSpace c then some (.next (.beforeIdentifier isPublic)) else none
      | _ => none
  | .identifier isPublic quote, t =>
    if t = quote then
      some (.next (if isPublic then .beforeIdentifier false else .afterIdentifiers))
    else
      match t with
      | .char c =>
        if !isPublic || isPublicChar c then some (.next (.identifier isPublic quote)) else none
      | .singleQuote | .doubleQuote =>
        if !isPublic || t = .singleQuote then some (.next (.identifier isPublic quote)) else none
      | _ => none
  | .afterIdentifiers, .char c =>
    if isSpace c then some (.next .afterIdentifiers)
    else if c = '[' then some (.next .declarations)
    else none
  | .afterIdentifiers, .tagEnd => some .done
  | _, _ => none

/-- Takes a token in an entity's text. A character's number is resolved at once, and so is the name
of a parameter entity; the name of any other entity is kept. -/
def stepText (version : Version) (entities : Entities) : Place → Token → Option Outcome
  | .text draft, .char c =>
    if c = '&' then some (.next (.textReference draft))
    else if c = '%' then some (.next (.textParameter draft ['%']))
    else if version.isChar c then some (.next (.text (draft.add c)))
    else none
  | .text draft, t =>
    if t = draft.quote then some (.declared draft.name draft.read.reverse .skipped) else none
  | .textReference draft, .char c =>
    if c = '#' then some (.next (.textNumber draft []))
    else if version.isChar c then some (.next (.text ((draft.add '&').add c)))
    else none
  | .textNumber draft read, .char c =>
    if c = ';' then
      (Reference.numbered? version read.reverse).map fun c => .next (.text (draft.add c))
    else if version.isChar c then some (.next (.textNumber draft (c :: read)))
    else none
  | .textParameter draft read, .char c =>
    if c = ';' then
      (entities.lookup read.reverse).map fun text =>
        .next (.text { draft with read := text.reverse ++ draft.read })
    else if isNameChar c then some (.next (.textParameter draft (c :: read)))
    else none
  | _, _ => none

/-- Takes a token in the declaration of an entity, before its text. An entity whose text is found
elsewhere stands for nothing. -/
def stepEntity : Place → Token → Option Outcome
  | .beforeEntity, .char c =>
    if isSpace c then some (.next .beforeEntity)
    else if c = '%' then some (.next .beforeParameter)
    else if isNameStart c then some (.next (.entity [c]))
    else none
  | .beforeParameter, .char c =>
    if isSpace c then some (.next .beforeParameter)
    else if isNameStart c then some (.next (.entity [c, '%']))
    else none
  | .entity read, .char c =>
    if isSpace c then some (.next (.beforeText read.reverse))
    else if isNameChar c then some (.next (.entity (c :: read)))
    else none
  | .beforeText name, .char c =>
    if isSpace c then some (.next (.beforeText name))
    else if c = 'S' ∨ c = 'P' then some (.declared name [] .skipped)
    else none
  | .beforeText name, t => if t.isQuote then some (.next (.text ⟨name, t, []⟩)) else none
  | _, _ => none

/-- Where a declaration goes on after its keyword. -/
def declarationPlace? (keyword : List Char) : Option Place :=
  let keyword := String.ofList keyword
  if keyword = "ENTITY" then some .beforeEntity
  else if keyword = "ELEMENT" ∨ keyword = "ATTLIST" ∨ keyword = "NOTATION" then some .skipped
  else none

/-- Takes a token among the declarations. What is none and refers to nothing does not matter. -/
def stepDeclarations (entities : Entities) : Place → Token → Option Outcome
  | .declarations, t =>
    match t with
    | .tagEnd => some .done
    | .declarationStart => some (.next (.declaration []))
    | .char '%' => some (.next (.parameter ['%']))
    | .commentStart => some (.next .comment)
    | .singleQuote | .doubleQuote => some (.next (.quoted t))
    | .cdataStart | .cdataEnd => none
    | _ => some (.next .declarations)
  | .comment, t => some (.next (if t = .commentEnd then .declarations else .comment))
  | .quoted quote, t => some (.next (if t = quote then .declarations else .quoted quote))
  | .parameter read, t =>
    match t with
    | .char c => if isNameChar c then some (.next (.parameter (c :: read))) else none
    | .semicolon => (entities.lookup read.reverse).map (.insert · .declarations)
    | _ => none
  | .declaration read, .char c =>
    if c.isUpper then some (.next (.declaration (c :: read)))
    else if isSpace c then (declarationPlace? read.reverse).map .next
    else none
  | .skipped, t => some (.next (if t = .tagEnd then .declarations else .skipped))
  | _, _ => none

def step (version : Version) (entities : Entities) (place : Place) (t : Token) : Option Outcome :=
  match place with
  | .declarations | .comment | .quoted _ | .parameter _ | .declaration _ | .skipped =>
    stepDeclarations entities place t
  | .beforeEntity | .beforeParameter | .entity _ | .beforeText _ => stepEntity place t
  | .text _ | .textReference _ | .textNumber .. | .textParameter .. =>
    stepText version entities place t
  | _ => stepHead place t

end Doctype

end StoreClient.Xml
