/-!
Schemes of addresses. A client may have any name for its scheme. An address is read if the name
begins with a letter and holds no `~`, and case does not count. With the special schemes hosts are
domains, either slash is a slash, and all but files have a port that an address need not name.
-/

namespace StoreClient

/-- Characters that the name of a scheme may have. -/
def Scheme.isNameChar (c : Char) : Bool := c.isAlphanum || ['+', '-', '.', '~'].elem c

/-- A scheme, by its name. -/
structure Scheme where
  name : List Char
  isName : name.all Scheme.isNameChar
  deriving DecidableEq, Repr

namespace Scheme

def http : Scheme := ⟨"http".toList, by rfl⟩
def https : Scheme := ⟨"https".toList, by rfl⟩
def ws : Scheme := ⟨"ws".toList, by rfl⟩
def wss : Scheme := ⟨"wss".toList, by rfl⟩
def ftp : Scheme := ⟨"ftp".toList, by rfl⟩
def file : Scheme := ⟨"file".toList, by rfl⟩

/-- The scheme that a name stands for at the front of an address. -/
def read? (name : List Char) : Option Scheme :=
  let lower := name.map Char.toLower
  if h : lower.all isNameChar then
    if lower.head?.any Char.isAlpha && !lower.elem '~' then some ⟨lower, h⟩ else none
  else none

def isSpecial (scheme : Scheme) : Bool := [http, https, ws, wss, ftp, file].elem scheme

/-- The port that an address need not name. -/
def defaultPort? (scheme : Scheme) : Option Nat :=
  if scheme = http ∨ scheme = ws then some 80
  else if scheme = https ∨ scheme = wss then some 443
  else if scheme = ftp then some 21
  else none

/-- Whether requests can be sent over the scheme. -/
def isSendable (scheme : Scheme) : Bool := scheme = http || scheme = https

end Scheme

end StoreClient
