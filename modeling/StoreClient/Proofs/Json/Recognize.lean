import StoreClient.Proofs.Json.Skip

/-!
What readers recognize. A reader recognizes the documents that stand for its values if it reads such
a document wherever white space leads to it and nothing goes on with it, and if it never reads
anything else. Integers between bounds, texts and truth values have such readers, and so has what
may be absent.
-/

namespace StoreClient.Json

/-- The reader reads a document at the front of a text exactly if it stands for the value. -/
structure Recognizes {α : Type} (read : Reader α) (Means : Bytes → α → Prop) : Prop where
  document {text : Bytes} {a : α} (h : Means text a) : Document text
  sound {s rest : Bytes} {a : α} (h : read s = .ok (a, rest)) :
    ∃ l text, Blank l ∧ s = l ++ (text ++ rest) ∧ Means text a ∧ Delimited text rest
  complete {l text rest : Bytes} {a : α} (hl : Blank l) (h : Means text a)
    (hrest : Delimited text rest) : read (l ++ (text ++ rest)) = .ok (a, rest)

/-! ### Scalars -/

/-- Integers between two bounds. -/
def IntMeans (low high : Int) (text : Bytes) (i : Int) : Prop :=
  WritesInt text i ∧ low ≤ i ∧ i ≤ high

def TextMeans (text : Bytes) (s : String) : Prop :=
  ∃ raw, text = quoted raw ∧ Spells raw (Utf8.ofString s)

inductive BoolMeans : Bytes → Bool → Prop where
  | true : BoolMeans (Ascii.lowerT :: trueTail) true
  | false : BoolMeans (Ascii.lowerF :: falseTail) false

/-- `null` stands for nothing, and whatever stands for a value stands for it still. -/
inductive OptionMeans {α : Type} (Means : Bytes → α → Prop) : Bytes → Option α → Prop where
  | none : OptionMeans Means (Ascii.lowerN :: nullTail) none
  | some {text : Bytes} {a : α} (h : Means text a) : OptionMeans Means text (some a)

theorem WritesInt.isNumber {text : Bytes} {i : Int} (h : WritesInt text i) : IsNumber text := by
  have hunsigned : ∀ {s}, IsNatural s → IsUnsigned s := by
    intro s hs
    have h := IsUnsigned.mk hs .none .none
    rwa [List.append_nil, List.append_nil] at h
  cases h with
  | natural h => exact .unsigned (hunsigned h)
  | negative h => exact .negative (hunsigned h)

theorem Spells.quotable {raw value : Bytes} (h : Spells raw value) : Quotable raw := by
  induction h with
  | nil => exact .nil
  | plain hb _ ih => exact .plain hb ih
  | escape he _ ih =>
    cases he with
    | short hb => exact .short (by rw [hb]; rfl) ih
    | unit hu => exact .unit hu ih
    | pair hu _ hu' =>
      have h := Quotable.unit hu (.unit hu' ih)
      simp only [List.append_assoc, List.cons_append] at h ⊢
      exact h

namespace Recognizes

theorem int {low high : Int} (hlow : -0x8000000000000000 ≤ low) (hhigh : high ≤ 0xFFFFFFFFFFFFFFFF)
    (type : String) : Recognizes (Reader.int low high type) (IntMeans low high) where
  document h := .number h.1.isNumber
  sound {s rest i} h := by
    obtain ⟨b, t, hb, ⟨l, hl, rfl⟩, hread⟩ := withLead_eq_ok_iff.mp h
    split at hread
    · split at hread
      · cases hread
      · next j rest' hnumber =>
        split at hread
        · next hrange =>
          cases hread
          obtain ⟨text, htext, hint, hended, -⟩ := number_eq_int_iff.mp hnumber
          exact ⟨l, text, hl, congrArg (l ++ ·) htext, ⟨hint, hrange⟩, delimited_of_ended hended⟩
        · cases hread
      · cases hread
    · cases hread
  complete {l text rest i} hl h hrest := by
    obtain ⟨hint, hrange⟩ := h
    obtain ⟨b, bs, rfl, hb⟩ := hint.isNumber.exists_cons
    have hended : Ended rest := hrest hint.isNumber.endsInDigit
    refine withLead_eq_ok_iff.mpr ⟨b, bs ++ rest,
      isSpace_of_startsValue (startsValue_of_startsNumber hb), ⟨l, hl, rfl⟩, ?_⟩
    have hnumber := number_eq_int_iff.mpr ⟨b :: bs, rfl, hint, hended, by omega, by omega⟩
    rw [List.cons_append] at hnumber
    simp only [if_pos hb, hnumber, if_pos hrange]

theorem text : Recognizes Reader.text TextMeans where
  document := by
    rintro _ s ⟨raw, rfl, hraw⟩
    exact .string hraw.quotable
  sound {s rest value} h := by
    obtain ⟨b, t, hb, ⟨l, hl, rfl⟩, hread⟩ := withLead_eq_ok_iff.mp h
    split at hread
    · next hquote =>
      subst hquote
      obtain ⟨raw, rfl, hraw⟩ := stringTail_eq_ok_iff.mp hread
      refine ⟨l, quoted raw, hl, by simp [quoted], ⟨raw, rfl, hraw⟩, ?_⟩
      exact delimited_concat (by decide) (Ascii.quote :: raw) rest
    · cases hread
  complete := by
    rintro l _ rest value hl ⟨raw, rfl, hraw⟩ -
    refine withLead_eq_ok_iff.mpr ⟨Ascii.quote, raw ++ Ascii.quote :: rest, by decide,
      ⟨l, hl, by simp [quoted]⟩, ?_⟩
    rw [if_pos rfl]
    exact stringTail_eq_ok_iff.mpr ⟨raw, rfl, hraw⟩

theorem bool : Recognizes Reader.bool BoolMeans where
  document h := by
    cases h with
    | true => exact .true
    | false => exact .false
  sound {s rest value} h := by
    obtain ⟨b, t, hb, ⟨l, hl, rfl⟩, hread⟩ := withLead_eq_ok_iff.mp h
    split at hread
    · obtain ⟨rest', hname, heq⟩ := map_eq_ok.mp hread
      cases heq
      rw [name_eq_ok_iff.mp hname]
      exact ⟨l, _, hl, rfl, .true, delimited_concat (by decide) [_, _, _] rest⟩
    · obtain ⟨rest', hname, heq⟩ := map_eq_ok.mp hread
      cases heq
      rw [name_eq_ok_iff.mp hname]
      exact ⟨l, _, hl, rfl, .false, delimited_concat (by decide) [_, _, _, _] rest⟩
    · cases hread
  complete {l text rest value} hl h _ := by
    cases h with
    | true =>
      exact withLead_eq_ok_iff.mpr ⟨_, _, by decide, ⟨l, hl, rfl⟩, rfl⟩
    | false =>
      exact withLead_eq_ok_iff.mpr ⟨_, _, by decide, ⟨l, hl, rfl⟩, rfl⟩

section
variable {α β : Type} {read : Reader α} {Means : Bytes → α → Prop} (h : Recognizes read Means)
include h

/-- What stands for a value stands for what is made of the value. -/
theorem map (f : α → β) :
    Recognizes (Reader.map f read) fun text b => ∃ a, Means text a ∧ f a = b where
  document := by
    rintro text _ ⟨a, ha, rfl⟩
    exact h.document ha
  sound := by
    intro s rest b hread
    obtain ⟨⟨a, rest'⟩, hread, heq⟩ := map_eq_ok.mp hread
    cases heq
    obtain ⟨l, text, hl, hs, ha, hrest⟩ := h.sound hread
    exact ⟨l, text, hl, hs, ⟨a, ha, rfl⟩, hrest⟩
  complete := by
    rintro l text rest _ hl ⟨a, ha, rfl⟩ hrest
    rw [Reader.map, h.complete hl ha hrest]
    rfl

theorem under (step : Step) : Recognizes (Reader.under step read) Means where
  document := h.document
  sound hread := h.sound (mapError_eq_ok.mp hread)
  complete hl ha hrest := mapError_eq_ok.mpr (h.complete hl ha hrest)

theorem congr {Means' : Bytes → α → Prop} (hmeans : ∀ text a, Means text a ↔ Means' text a) :
    Recognizes read Means' := by
  have heq : Means = Means' := funext fun text => funext fun a => propext (hmeans text a)
  rwa [← heq]

/-- Where nothing else stands for it, `null` is read for an absent value. -/
theorem optional (hnull : ∀ a, ¬ Means (Ascii.lowerN :: nullTail) a) :
    Recognizes (Reader.optional read) (OptionMeans Means) where
  document hmeans := by
    cases hmeans with
    | none => exact .null
    | some ha => exact h.document ha
  sound {s rest o} hread := by
    rw [Reader.optional] at hread
    split at hread
    · next t hspace =>
      obtain ⟨-, l, hl, rfl⟩ := skipSpace_eq_cons_iff.mp hspace
      obtain ⟨rest', hname, heq⟩ := map_eq_ok.mp hread
      cases heq
      rw [name_eq_ok_iff.mp hname]
      exact ⟨l, _, hl, rfl, .none, delimited_concat (by decide) [_, _, _] rest⟩
    · obtain ⟨⟨a, rest'⟩, hread, heq⟩ := map_eq_ok.mp hread
      cases heq
      obtain ⟨l, text, hl, hs, ha, hrest⟩ := h.sound hread
      obtain ⟨m, hm, hs'⟩ := exists_blank s
      refine ⟨m ++ l, text, hm.append hl, ?_, .some ha, hrest⟩
      rw [hs', hs, List.append_assoc]
  complete {l text rest o} hl hmeans hrest := by
    cases hmeans with
    | none =>
      have hspace : skipSpace (l ++ (Ascii.lowerN :: nullTail ++ rest)) =
          Ascii.lowerN :: (nullTail ++ rest) := skipSpace_eq_cons_iff.mpr ⟨by decide, l, hl, rfl⟩
      rw [Reader.optional, hspace]
      rfl
    | @some _ a ha =>
      have hread := h.complete blank_nil ha hrest
      obtain ⟨b, bs, rfl, hb⟩ := (h.document ha).exists_cons
      rw [List.nil_append] at hread
      have hspace : skipSpace (l ++ (b :: bs ++ rest)) = b :: bs ++ rest :=
        skipSpace_eq_cons_iff.mpr ⟨isSpace_of_opensDocument hb, l, hl, rfl⟩
      rw [Reader.optional, hspace]
      split
      · next heq =>
        cases (List.cons.inj heq).1
        cases (h.document ha).eq_null
        exact (hnull a ha).elim
      · rw [hread]
        rfl

end

end Recognizes

end StoreClient.Json
