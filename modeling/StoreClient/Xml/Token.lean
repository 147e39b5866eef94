import StoreClient.Xml.Name

/-!
The marks that structure a document, and how they are told from other characters. Which characters
make a mark depends on where they stand, so a scanner keeps a mode; it takes one character at a time
and answers with the tokens that the character completes.
-/

namespace StoreClient.Xml

/-- A mark, or a character that is part of none. -/
inductive Token where
  | char (c : Char)
  | equals
  | singleQuote
  | doubleQuote
  | ampersand
  | semicolon
  | tagStart
  | endTagStart
  | tagEnd
  | emptyTagEnd
  | commentStart
  | commentEnd
  | cdataStart
  | cdataEnd
  | instructionStart
  | instructionEnd
  | doctypeStart
  | declarationStart
  deriving DecidableEq, Repr

def Token.text : Token → List Char
  | .char c => [c]
  | .equals => ['=']
  | .singleQuote => ['\'']
  | .doubleQuote => ['"']
  | .ampersand => ['&']
  | .semicolon => [';']
  | .tagStart => ['<']
  | .endTagStart => ['<', '/']
  | .tagEnd => ['>']
  | .emptyTagEnd => ['/', '>']
  | .commentStart => ['<', '!', '-', '-']
  | .commentEnd => ['-', '-', '>']
  | .cdataStart => ['<', '!', '[', 'C', 'D', 'A', 'T', 'A', '[']
  | .cdataEnd => [']', ']', '>']
  | .instructionStart => ['<', '?']
  | .instructionEnd => ['?', '>']
  | .doctypeStart => ['<', '!', 'D', 'O', 'C', 'T', 'Y', 'P', 'E']
  | .declarationStart => ['<', '!']

def Token.isQuote : Token → Bool
  | .singleQuote | .doubleQuote => true
  | _ => false

/-- A token that stands for itself wherever marks are looked for, if the character is one. -/
def Token.single? : Char → Option Token
  | '>' => some .tagEnd
  | '&' => some .ampersand
  | ';' => some .semicolon
  | '"' => some .doubleQuote
  | '\'' => some .singleQuote
  | _ => none

/-- Where the next character stands. -/
inductive Mode where
  /-- Between marks: in a text, a tag or a document type. -/
  | ground
  /-- After `<` and some characters that may begin a mark. -/
  | opened (read : List Char)
  /-- After a slash that may end a tag. -/
  | slash
  /-- After one bracket, or two, outside a character data section. -/
  | bracket
  | brackets
  | comment
  | commentHyphen
  | commentHyphens
  | cdata
  | cdataBracket
  | cdataBrackets
  | instruction
  | instructionMark
  /-- In a declaration within a document type. -/
  | declaration
  /-- In a quoted text of such a declaration. -/
  | quoted (quote : Char)
  deriving DecidableEq, Repr

/-- A scanner: its mode, and whether it is within a document type. -/
structure Scanner where
  mode : Mode := .ground
  inDoctype : Bool := false
  deriving DecidableEq, Repr

namespace Scanner

def enter (scanner : Scanner) (mode : Mode) : Scanner := { scanner with mode }

/-- Tokens that come before what is scanned next. -/
def after (tokens : List Token) (next : Scanner × List Token) : Scanner × List Token :=
  (next.1, tokens ++ next.2)

/-- A character between marks. -/
def ground (scanner : Scanner) (c : Char) : Scanner × List Token :=
  let scanner := scanner.enter .ground
  if c = '<' then (scanner.enter (.opened []), [])
  else if scanner.inDoctype then
    ({ scanner with inDoctype := c ≠ '>' }, [(Token.single? c).getD (.char c)])
  else if c = '/' then (scanner.enter .slash, [])
  else if c = ']' then (scanner.enter .bracket, [])
  else if c = '=' then (scanner, [.equals])
  else (scanner, [(Token.single? c).getD (.char c)])

def comment (scanner : Scanner) (c : Char) : Scanner × List Token :=
  if c = '-' then (scanner.enter .commentHyphen, []) else (scanner.enter .comment, [.char c])

def cdata (scanner : Scanner) (c : Char) : Scanner × List Token :=
  if c = ']' then (scanner.enter .cdataBracket, []) else (scanner.enter .cdata, [.char c])

def instruction (scanner : Scanner) (c : Char) : Scanner × List Token :=
  let scanner := scanner.enter .instruction
  if c = '?' then (scanner.enter .instructionMark, [])
  else if c = '<' then (scanner, [.tagStart])
  else if c = '=' then (scanner, [.equals])
  else (scanner, [(Token.single? c).getD (.char c)])

def declaration (scanner : Scanner) (c : Char) : Scanner × List Token :=
  let scanner := scanner.enter .declaration
  if c = '>' then (scanner.enter .ground, [.tagEnd])
  else if c = '<' then (scanner, [.tagStart])
  else if c = '"' then (scanner.enter (.quoted c), [.doubleQuote])
  else if c = '\'' then (scanner.enter (.quoted c), [.singleQuote])
  else (scanner, [(Token.single? c).getD (.char c)])

/-- Marks that begin with `<`: what comes after it, the token, and the mode that follows. -/
def openingMarks : List (List Char × Token × Mode) := [
  (['/'], .endTagStart, .ground),
  (['?'], .instructionStart, .instruction),
  (['!', '-', '-'], .commentStart, .comment),
  (['!', '[', 'C', 'D', 'A', 'T', 'A', '['], .cdataStart, .cdata),
  (['!', 'D', 'O', 'C', 'T', 'Y', 'P', 'E'], .doctypeStart, .ground)]

/-- A character after `<` and what has been read since. -/
def opened? (scanner : Scanner) (read : List Char) (c : Char) : Option (Scanner × List Token) :=
  let read' := read ++ [c]
  match openingMarks.find? (·.1 = read') with
  | some (_, token, mode) =>
    some ({ mode, inDoctype := scanner.inDoctype || token = .doctypeStart }, [token])
  | none =>
    if openingMarks.any fun mark => read'.isPrefixOf mark.1 then
      some (scanner.enter (.opened read'), [])
    else if read.isEmpty && (isSpace c || isNameChar c) then
      some (after [.tagStart] (scanner.ground c))
    else if read = ['!'] && scanner.inDoctype && ['E', 'A', 'N'].elem c then
      some (after [.declarationStart] (scanner.declaration c))
    else none

/-- Takes a character. It is refused where only marks may stand and it makes none. -/
def feed (scanner : Scanner) (c : Char) : Option (Scanner × List Token) :=
  match scanner.mode with
  | .ground => some (scanner.ground c)
  | .opened read => scanner.opened? read c
  | .slash =>
    if c = '>' then some (scanner.enter .ground, [.emptyTagEnd])
    else some (after [.char '/'] (scanner.ground c))
  | .bracket =>
    if c = ']' then some (scanner.enter .brackets, [])
    else some (after [.char ']'] (scanner.ground c))
  | .brackets =>
    if c = '>' then some (scanner.enter .ground, [.cdataEnd])
    else if c = ']' then some (scanner, [.char ']'])
    else some (after [.char ']', .char ']'] (scanner.ground c))
  | .comment => some (scanner.comment c)
  | .commentHyphen =>
    if c = '-' then some (scanner.enter .commentHyphens, [])
    else some (scanner.enter .comment, [.char '-', .char c])
  | .commentHyphens => if c = '>' then some (scanner.enter .ground, [.commentEnd]) else none
  | .cdata => some (scanner.cdata c)
  | .cdataBracket =>
    if c = ']' then some (scanner.enter .cdataBrackets, [])
    else some (scanner.enter .cdata, [.char ']', .char c])
  | .cdataBrackets =>
    if c = '>' then some (scanner.enter .ground, [.cdataEnd])
    else if c = ']' then some (scanner, [.char ']'])
    else some (scanner.enter .cdata, [.char ']', .char ']', .char c])
  | .instruction => some (scanner.instruction c)
  | .instructionMark =>
    if c = '>' then some (scanner.enter .ground, [.instructionEnd])
    else some (after [.char '?'] (scanner.instruction c))
  | .declaration => some (scanner.declaration c)
  | .quoted quote =>
    if c = quote then
      some (scanner.enter .declaration, [(Token.single? c).getD (.char c)])
    else some (scanner, [.char c])

end Scanner

end StoreClient.Xml
