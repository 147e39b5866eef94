import Mathlib.Data.List.TakeWhile
import StoreClient.Proofs.Json.Reads

/-!
The grammar of JSON, as texts stand in a document: strings and numbers as they may be written, and
values set apart by commas inside brackets (`Document`). A document shows by its first byte what it
is. Where it ends shows as well, unless it is a number, which goes on as long as it can
(`Delimited`).
-/

namespace StoreClient.Json

/-- White space. -/
def Blank (s : Bytes) : Prop := ∀ b ∈ s, isSpace b

/-! ### Strings -/

/-- Bytes that stand for themselves between quotes. -/
def IsPlain (b : UInt8) : Prop := b ≠ Ascii.quote ∧ b ≠ Ascii.backslash ∧ ¬ b < Ascii.space

instance : DecidablePred IsPlain := fun _ => inferInstanceAs (Decidable (_ ∧ _ ∧ _))

/-- The number that four hexadecimal digits write. -/
inductive HexUnit : Bytes → Nat → Prop where
  | digits {a b c d : UInt8} {i j k l : Nat} (ha : Ascii.hexValue? a = some i)
      (hb : Ascii.hexValue? b = some j) (hc : Ascii.hexValue? c = some k)
      (hd : Ascii.hexValue? d = some l) : HexUnit [a, b, c, d] (((i * 16 + j) * 16 + k) * 16 + l)

/-- What a backslash makes of the bytes after it: the character of a letter, of a code unit, or of
two units that are a surrogate pair. -/
inductive Escape : Bytes → Char → Prop where
  | short {b : UInt8} {c : Char} (h : shortEscape? b = some c) : Escape [b] c
  | unit {s : Bytes} {n : Nat} (h : HexUnit s n) (hn : n < 0xD800 ∨ 0xDFFF < n) :
      Escape (Ascii.lowerU :: s) (Char.ofNat n)
  | pair {s t : Bytes} {m n : Nat} (hs : HexUnit s m) (hm : 0xD800 ≤ m ∧ m ≤ 0xDBFF)
      (ht : HexUnit t n) (hn : 0xDC00 ≤ n ∧ n ≤ 0xDFFF) :
      Escape (Ascii.lowerU :: (s ++ Ascii.backslash :: Ascii.lowerU :: t))
        (Char.ofNat (0x10000 + (m - 0xD800) * 0x400 + (n - 0xDC00)))

/-- The bytes of the value that is written between quotes. -/
inductive Spells : Bytes → Bytes → Prop where
  | nil : Spells [] []
  | plain {b : UInt8} {s value : Bytes} (hb : IsPlain b) (hs : Spells s value) :
      Spells (b :: s) (b :: value)
  | escape {e s value : Bytes} {c : Char} (he : Escape e c) (hs : Spells s value) :
      Spells (Ascii.backslash :: (e ++ s)) (Utf8.encodeChar c ++ value)

/-- What may stand between quotes, whether or not it is the writing of a text. -/
inductive Quotable : Bytes → Prop where
  | nil : Quotable []
  | plain {b : UInt8} {s : Bytes} (hb : IsPlain b) (hs : Quotable s) : Quotable (b :: s)
  | short {b : UInt8} {s : Bytes} (hb : (shortEscape? b).isSome) (hs : Quotable s) :
      Quotable (Ascii.backslash :: b :: s)
  | unit {u s : Bytes} {n : Nat} (hu : HexUnit u n) (hs : Quotable s) :
      Quotable (Ascii.backslash :: Ascii.lowerU :: (u ++ s))

/-- A string is quotable bytes between quotes. -/
def quoted (s : Bytes) : Bytes := Ascii.quote :: (s ++ [Ascii.quote])

/-! ### Numbers -/

def IsDigits (s : Bytes) : Prop := s ≠ [] ∧ ∀ b ∈ s, Ascii.isDigit b

/-- The digits of a natural number, without a zero before others. -/
def IsNatural (s : Bytes) : Prop := IsDigits s ∧ (s.head? = some Ascii.zero → s = [Ascii.zero])

inductive IsFraction : Bytes → Prop where
  | none : IsFraction []
  | some {s : Bytes} (h : IsDigits s) : IsFraction (Ascii.point :: s)

inductive IsExponent : Bytes → Prop where
  | none : IsExponent []
  | some {e : UInt8} {sign s : Bytes} (he : e = Ascii.lowerE ∨ e = Ascii.upperE)
      (hsign : sign ∈ [[], [Ascii.plus], [Ascii.minus]]) (h : IsDigits s) :
      IsExponent (e :: (sign ++ s))

/-- A number without its sign. -/
inductive IsUnsigned : Bytes → Prop where
  | mk {n f e : Bytes} (hn : IsNatural n) (hf : IsFraction f) (he : IsExponent e) :
      IsUnsigned (n ++ (f ++ e))

inductive IsNumber : Bytes → Prop where
  | unsigned {s : Bytes} (h : IsUnsigned s) : IsNumber s
  | negative {s : Bytes} (h : IsUnsigned s) : IsNumber (Ascii.minus :: s)

/-- The number that digits write. -/
def digitsValue (s : Bytes) : Nat := s.foldl (fun n d => n * 10 + Ascii.digitValue d) 0

/-- The integer that a number writes, which is one without fraction and exponent. Zero has no
sign. -/
inductive WritesInt : Bytes → Int → Prop where
  | natural {s : Bytes} (h : IsNatural s) : WritesInt s (digitsValue s)
  | negative {s : Bytes} (h : IsNatural s) (hzero : s ≠ [Ascii.zero]) :
      WritesInt (Ascii.minus :: s) (-(digitsValue s))

/-! ### Documents -/

/-- What leads to a piece: a comma behind another one, and white space. -/
inductive Lead : Bool → Bytes → Prop where
  | first {l : Bytes} (hl : Blank l) : Lead true l
  | next {l m : Bytes} (hl : Blank l) (hm : Blank m) : Lead false (l ++ Ascii.comma :: m)

/-- What stands between brackets, or is left of it where a piece has come before (`false`): pieces
set apart by commas, and white space. -/
inductive Listed {α : Type} (Piece : Bytes → α → Prop) : Bool → Bytes → List α → Prop where
  | nil {first : Bool} {s : Bytes} (hs : Blank s) : Listed Piece first s []
  | cons {first : Bool} {l p s : Bytes} {a : α} {as : List α} (hl : Lead first l) (hp : Piece p a)
      (hs : Listed Piece false s as) : Listed Piece first (l ++ (p ++ s)) (a :: as)

/-- A member of an object: the bytes of its name between quotes, a colon and the text of its
value. -/
inductive Entry : Bytes → Bytes × Bytes → Prop where
  | mk {key m n value : Bytes} (hm : Blank m) (hn : Blank n) :
      Entry (quoted key ++ (m ++ Ascii.colon :: (n ++ value))) (key, value)

def Frame.opening : Frame → UInt8
  | .array => Ascii.openBracket
  | .object => Ascii.openBrace

/-- What is listed in arrays and objects, with the text of the value in it. -/
inductive Frame.Piece : Frame → Bytes → Bytes → Prop where
  | item {value : Bytes} : Frame.array.Piece value value
  | member {key p value : Bytes} (hkey : Quotable key) (h : Entry p (key, value)) :
      Frame.object.Piece p value

/-- One value of any kind, nested to any depth. -/
inductive Document : Bytes → Prop where
  | null : Document (Ascii.lowerN :: nullTail)
  | true : Document (Ascii.lowerT :: trueTail)
  | false : Document (Ascii.lowerF :: falseTail)
  | number {s : Bytes} (h : IsNumber s) : Document s
  | string {s : Bytes} (h : Quotable s) : Document (quoted s)
  | frame {frame : Frame} {body : Bytes} {values : List Bytes}
      (hbody : Listed frame.Piece Bool.true body values) (hvalues : ∀ v ∈ values, Document v) :
      Document (frame.opening :: (body ++ [frame.close]))

/-- Of all documents only numbers end in a digit. -/
def EndsInDigit (s : Bytes) : Prop := ∃ b ∈ s.getLast?, Ascii.isDigit b

/-- What follows a document does not go on with it. -/
def Delimited (text rest : Bytes) : Prop := EndsInDigit text → Ended rest

/-- Plain bytes spell themselves. -/
theorem spells_of_plain {s : Bytes} (h : s.all fun b => IsPlain b) : Spells s s := by
  induction s with
  | nil => exact .nil
  | cons b s ih =>
    rw [List.all_cons, Bool.and_eq_true] at h
    exact .plain (of_decide_eq_true h.1) (ih h.2)

/-! ### White space -/

section
variable {l m s rest : Bytes} {b : UInt8}

theorem blank_nil : Blank [] := fun _ h => nomatch h

theorem Blank.append (hl : Blank l) (hm : Blank m) : Blank (l ++ m) := by
  intro b hb
  rcases List.mem_append.mp hb with hb | hb
  · exact hl b hb
  · exact hm b hb

theorem exists_blank (s : Bytes) : ∃ l, Blank l ∧ s = l ++ skipSpace s := by
  refine ⟨s.takeWhile isSpace, ?_, List.takeWhile_append_dropWhile.symm⟩
  intro b hb
  exact List.mem_takeWhile_imp hb

theorem skipSpace_append (hl : Blank l) (s : Bytes) : skipSpace (l ++ s) = skipSpace s :=
  List.dropWhile_append_of_pos hl

/-- The first byte that is no white space. -/
theorem skipSpace_eq_cons_iff : skipSpace s = b :: rest ↔
    isSpace b = false ∧ ∃ l, Blank l ∧ s = l ++ b :: rest := by
  constructor
  · intro h
    obtain ⟨l, hl, hs⟩ := exists_blank s
    rw [h] at hs
    refine ⟨?_, l, hl, hs⟩
    have hb := List.head?_dropWhile_not isSpace s
    rw [← skipSpace, h] at hb
    exact hb
  · rintro ⟨hb, l, hl, rfl⟩
    rw [skipSpace_append hl, skipSpace_cons hb]

theorem skipSpace_eq_byte_iff (hb : isSpace b = false) :
    skipSpace s = b :: rest ↔ ∃ l, Blank l ∧ s = l ++ b :: rest :=
  skipSpace_eq_cons_iff.trans (and_iff_right hb)

theorem withLead_eq_ok_iff {α : Type} {read : UInt8 → Bytes → Except Fault α} {a : α} :
    withLead read s = .ok a ↔ ∃ b rest, isSpace b = false ∧
      (∃ l, Blank l ∧ s = l ++ b :: rest) ∧ read b rest = .ok a := by
  rw [withLead]
  cases h : skipSpace s with
  | nil =>
    constructor
    · intro h
      cases h
    · rintro ⟨b, rest, hb, hs, -⟩
      rw [skipSpace_eq_cons_iff.mpr ⟨hb, hs⟩] at h
      cases h
  | cons b rest =>
    constructor
    · intro hread
      obtain ⟨hb, hs⟩ := skipSpace_eq_cons_iff.mp h
      exact ⟨b, rest, hb, hs, hread⟩
    · rintro ⟨b', rest', hb, hs, hread⟩
      rw [skipSpace_eq_cons_iff.mpr ⟨hb, hs⟩] at h
      cases h
      exact hread

end

theorem Lead.append {first : Bool} {l m : Bytes} (h : Lead first l) (hm : Blank m) :
    Lead first (l ++ m) := by
  cases h with
  | first hl => exact .first (hl.append hm)
  | next hl hl' =>
    rw [List.append_assoc, List.cons_append]
    exact .next hl (hl'.append hm)

/-! ### Where documents begin and end -/

/-- A byte that a document begins with. -/
def opensDocument (b : UInt8) : Bool :=
  startsValue b || b == Ascii.lowerN || b == Ascii.lowerT || b == Ascii.lowerF

theorem isDigit_head_of_isNatural {s : Bytes} (h : IsNatural s) :
    ∃ b bs, s = b :: bs ∧ Ascii.isDigit b := by
  obtain ⟨⟨hne, hdigits⟩, -⟩ := h
  cases s with
  | nil => exact (hne rfl).elim
  | cons b bs => exact ⟨b, bs, rfl, hdigits b List.mem_cons_self⟩

theorem IsUnsigned.exists_cons {s : Bytes} (h : IsUnsigned s) :
    ∃ b bs, s = b :: bs ∧ Ascii.isDigit b := by
  obtain ⟨hn, -, -⟩ := h
  obtain ⟨b, bs, rfl, hb⟩ := isDigit_head_of_isNatural hn
  exact ⟨b, _, rfl, hb⟩

theorem IsNumber.exists_cons {s : Bytes} (h : IsNumber s) :
    ∃ b bs, s = b :: bs ∧ startsNumber b := by
  cases h with
  | unsigned h =>
    obtain ⟨b, bs, rfl, hb⟩ := h.exists_cons
    exact ⟨b, bs, rfl, by rw [startsNumber, hb, Bool.or_true]⟩
  | negative h => exact ⟨Ascii.minus, _, rfl, rfl⟩

theorem Document.exists_cons {text : Bytes} (h : Document text) :
    ∃ b bs, text = b :: bs ∧ opensDocument b := by
  cases h with
  | null => exact ⟨_, _, rfl, by decide⟩
  | true => exact ⟨_, _, rfl, by decide⟩
  | false => exact ⟨_, _, rfl, by decide⟩
  | number h =>
    obtain ⟨b, bs, rfl, hb⟩ := h.exists_cons
    exact ⟨b, bs, rfl, by simp [opensDocument, startsValue, hb]⟩
  | string h => exact ⟨_, _, rfl, by decide⟩
  | @frame frame body values hbody hvalues =>
    cases frame with
    | array => exact ⟨_, _, rfl, by decide⟩
    | object => exact ⟨_, _, rfl, by decide⟩

theorem Document.length_pos {text : Bytes} (h : Document text) : 0 < text.length := by
  obtain ⟨b, bs, rfl, -⟩ := h.exists_cons
  exact Nat.succ_pos _

theorem isSpace_of_isDigit {b : UInt8} (h : Ascii.isDigit b) : isSpace b = false := by
  apply isSpace_of_startsValue
  rw [startsValue, startsNumber, h, Bool.or_true, Bool.or_true]
  rfl

theorem not_of_opensDocument {b c : UInt8} (h : opensDocument b) (hc : opensDocument c = false) :
    b ≠ c := by
  rintro rfl
  rw [h] at hc
  cases hc

theorem isSpace_of_opensDocument {b : UInt8} (h : opensDocument b) : isSpace b = false := by
  apply Bool.eq_false_iff.mpr
  intro hspace
  simp only [isSpace, Bool.or_eq_true, beq_iff_eq] at hspace
  rcases hspace with ((rfl | rfl) | rfl) | rfl <;> exact absurd h (by decide)

/-- The only document that begins like `null` is `null`. -/
theorem Document.eq_null {bs : Bytes} (h : Document (Ascii.lowerN :: bs)) : bs = nullTail := by
  generalize htext : Ascii.lowerN :: bs = text at h
  cases h with
  | null => exact (List.cons.inj htext).2
  | number h =>
    obtain ⟨b, bs', rfl, hb⟩ := h.exists_cons
    rw [← (List.cons.inj htext).1] at hb
    cases hb
  | @frame frame =>
    cases frame with
    | array => cases (List.cons.inj htext).1
    | object => cases (List.cons.inj htext).1
  | _ => cases (List.cons.inj htext).1

/-- No number goes on with white space, a comma or a bracket. -/
theorem ended_of_blank {l rest : Bytes} (hl : Blank l) (hrest : Ended rest) :
    Ended (l ++ rest) := by
  cases l with
  | nil => exact hrest
  | cons b l =>
    have hb := hl b List.mem_cons_self
    simp only [isSpace, Bool.or_eq_true, beq_iff_eq] at hb
    refine ended_cons ?_ _
    rcases hb with ((rfl | rfl) | rfl) | rfl <;> decide

theorem Listed.ended {α : Type} {Piece : Bytes → α → Prop} {s rest : Bytes} {as : List α}
    (h : Listed Piece false s as) (hrest : Ended rest) : Ended (s ++ rest) := by
  cases h with
  | nil hs => exact ended_of_blank hs hrest
  | cons hlead hp hs =>
    cases hlead with
    | next hl hm =>
      simp only [List.append_assoc, List.cons_append]
      exact ended_of_blank hl (ended_cons (by decide) _)

theorem Frame.ended_close (frame : Frame) (rest : Bytes) : Ended (frame.close :: rest) := by
  cases frame with
  | array => exact ended_cons (by decide) rest
  | object => exact ended_cons (by decide) rest

theorem EndsInDigit.append {t : Bytes} (h : EndsInDigit t) (s : Bytes) : EndsInDigit (s ++ t) := by
  obtain ⟨b, hb, hdigit⟩ := h
  refine ⟨b, ?_, hdigit⟩
  rw [List.getLast?_append, Option.mem_def.mp hb]
  rfl

theorem IsDigits.endsInDigit {s : Bytes} (h : IsDigits s) : EndsInDigit s :=
  ⟨_, List.getLast?_eq_some_getLast h.1, h.2 _ (List.getLast_mem h.1)⟩

theorem IsNumber.endsInDigit {s : Bytes} (h : IsNumber s) : EndsInDigit s := by
  have hunsigned : ∀ {s}, IsUnsigned s → EndsInDigit s := by
    rintro _ ⟨hn, hf, he⟩
    cases he with
    | some he hsign hs =>
      exact ((((hs.endsInDigit.append _).append [_]).append _).append _)
    | none =>
      rw [List.append_nil]
      cases hf with
      | some hs => exact (hs.endsInDigit.append [_]).append _
      | none =>
        rw [List.append_nil]
        exact hn.1.endsInDigit
  cases h with
  | unsigned h => exact hunsigned h
  | negative h => exact (hunsigned h).append [_]

theorem delimited_of_ended {text rest : Bytes} (h : Ended rest) : Delimited text rest :=
  fun _ => h

/-- What does not end in a digit is delimited by itself. -/
theorem delimited_concat {b : UInt8} (hb : Ascii.isDigit b = false) (text rest : Bytes) :
    Delimited (text ++ [b]) rest := by
  rintro ⟨c, hc, hdigit⟩
  rw [List.getLast?_concat] at hc
  cases hc
  rw [hb] at hdigit
  cases hdigit

end StoreClient.Json
