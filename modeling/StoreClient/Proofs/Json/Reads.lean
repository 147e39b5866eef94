import StoreClient.Json.Decode
import StoreClient.Proofs.Text.Utf8

/-!
What it means that a reader reads a text: it gives the value and takes the bytes of the text, no
more and no fewer, whatever follows. Since a number does not show where it ends, what follows must
not be able to go on with one (`Ended`); since `null` stands for nothing and a bracket ends a list,
the text must begin like a value (`startsValue`).
-/

namespace StoreClient.Json

/-- No number goes on with these bytes. -/
def Ended (rest : Bytes) : Prop :=
  ∀ b ∈ rest.head?, Ascii.isDigit b = false ∧ b ≠ Ascii.point ∧ b ≠ Ascii.lowerE ∧ b ≠ Ascii.upperE

theorem ended_nil : Ended [] := fun _ h => nomatch h

theorem ended_cons {b : UInt8} (hb : Ascii.isDigit b = false ∧ b ≠ Ascii.point ∧
    b ≠ Ascii.lowerE ∧ b ≠ Ascii.upperE) (rest : Bytes) : Ended (b :: rest) := by
  intro c hc
  cases hc
  exact hb

theorem Ended.isDigit_head {rest : Bytes} (h : Ended rest) :
    ∀ b ∈ rest.head?, Ascii.isDigit b = false := fun b hb => (h b hb).1

/-- The bytes of a text between two characters of ASCII. -/
theorem encode_between {l r : Char} {a b : UInt8} (hl : Utf8.encodeChar l = [a])
    (hr : Utf8.encodeChar r = [b]) (cs : List Char) :
    Utf8.encode (l :: cs ++ [r]) = a :: (Utf8.encode cs ++ [b]) := by
  rw [Utf8.encode_append, Utf8.encode, List.flatMap_cons, hl, Utf8.encode, List.flatMap_singleton,
    hr]
  rfl

/-- A byte that a number, a string, an array or an object begins with. -/
def startsValue (b : UInt8) : Bool :=
  b == Ascii.quote || startsNumber b || b == Ascii.openBracket || b == Ascii.openBrace

/-- The reader takes the bytes to the value, and nothing of what follows. -/
structure Reads {α : Type} (read : Reader α) (text : Bytes) (a : α) : Prop where
  starts : ∃ b ∈ text.head?, startsValue b
  reads : ∀ rest, Ended rest → read (text ++ rest) = .ok (a, rest)

theorem isSpace_of_startsValue {b : UInt8} (h : startsValue b) : isSpace b = false := by
  apply Bool.eq_false_iff.mpr
  intro hspace
  simp only [isSpace, Bool.or_eq_true, beq_iff_eq] at hspace
  rcases hspace with ((rfl | rfl) | rfl) | rfl <;> exact absurd h (by decide)

theorem ne_of_startsValue {b c : UInt8} (h : startsValue b) (hc : startsValue c = false) :
    b ≠ c := by
  rintro rfl
  rw [h] at hc
  cases hc

theorem skipSpace_cons {b : UInt8} (h : isSpace b = false) (rest : Bytes) :
    skipSpace (b :: rest) = b :: rest :=
  List.dropWhile_cons_of_neg (by simp [h])

theorem withLead_cons {α : Type} {read : UInt8 → Bytes → Except Fault α} {b : UInt8}
    (h : isSpace b = false) (rest : Bytes) : withLead read (b :: rest) = read b rest := by
  rw [withLead, skipSpace_cons h]

namespace Reads

variable {α β : Type} {read : Reader α} {text : Bytes} {a : α}

theorem exists_cons (h : Reads read text a) : ∃ b bs, text = b :: bs ∧ startsValue b := by
  obtain ⟨b, hb, hstarts⟩ := h.starts
  obtain ⟨bs, htext⟩ := List.head?_eq_some_iff.mp hb
  exact ⟨b, bs, htext, hstarts⟩

theorem map (h : Reads read text a) (f : α → β) : Reads (Reader.map f read) text (f a) where
  starts := h.starts
  reads rest hrest := by
    rw [Reader.map, h.reads rest hrest]
    rfl

theorem under (h : Reads read text a) (step : Step) : Reads (Reader.under step read) text a where
  starts := h.starts
  reads rest hrest := by
    rw [Reader.under, h.reads rest hrest]
    rfl

/-- No value is taken for `null`. -/
theorem optional (h : Reads read text a) : Reads (Reader.optional read) text (some a) where
  starts := h.starts
  reads rest hrest := by
    obtain ⟨b, bs, rfl, hb⟩ := h.exists_cons
    have hnull : b ≠ Ascii.lowerN := ne_of_startsValue hb (by decide)
    have hread := h.reads rest hrest
    rw [List.cons_append] at hread ⊢
    rw [Reader.optional, skipSpace_cons (isSpace_of_startsValue hb)]
    split
    · next heq => exact (hnull (List.cons.inj heq).1).elim
    · rw [hread]
      rfl

end Reads

end StoreClient.Json
