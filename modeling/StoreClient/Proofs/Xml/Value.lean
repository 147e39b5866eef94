import StoreClient.Proofs.Json.Number
import StoreClient.Proofs.Xml.Element
import StoreClient.Xml.Decode

/-!
Texts and numbers as the content of elements. A text is read back with its line ends as line feeds
and without the white space around it (`settle`), so that it is kept exactly if it has neither
(`settle_eq_self_iff`). An integer is read back as it is (`Reader.int_textNodes`).
-/

namespace StoreClient.Xml

/-! ### Texts -/

/-- A text as it is read back. -/
def settle (text : String) : String := String.ofList (trim (lines text.toList))

/-- A text that a document holds as it is: its characters are allowed, it has no carriage return,
and there is no white space at its ends. -/
structure Kept (text : String) : Prop where
  isText : IsText text.toList
  noReturn : '\r' ∉ text.toList
  head : ∀ c ∈ text.toList.head?, isSpace c = false
  last : ∀ c ∈ text.toList.getLast?, isSpace c = false

theorem dropWhile_eq_self_iff_head? {cs : List Char} :
    cs.dropWhile isSpace = cs ↔ ∀ c ∈ cs.head?, isSpace c = false := by
  cases cs with
  | nil => simp
  | cons c cs => simp [List.dropWhile_eq_self_iff]

theorem mem_of_mem_trim {cs : List Char} {c : Char} (h : c ∈ trim cs) : c ∈ cs := by
  have hback := (List.dropWhile_sublist isSpace).subset (List.mem_reverse.mp h)
  exact (List.dropWhile_sublist isSpace).subset (List.mem_reverse.mp hback)

theorem trim_eq_self_iff {cs : List Char} : trim cs = cs ↔
    (∀ c ∈ cs.head?, isSpace c = false) ∧ ∀ c ∈ cs.getLast?, isSpace c = false := by
  rw [← List.head?_reverse, ← dropWhile_eq_self_iff_head?, ← dropWhile_eq_self_iff_head?]
  constructor
  · intro h
    have hsuffix : cs.dropWhile isSpace <:+ cs := List.dropWhile_suffix isSpace
    have hlength : cs.length ≤ (cs.dropWhile isSpace).length := by
      have hback := (List.dropWhile_sublist (l := (cs.dropWhile isSpace).reverse) isSpace).length_le
      rwa [← List.length_reverse, ← trim, h, List.length_reverse] at hback
    have hfront := hsuffix.eq_of_length (Nat.le_antisymm hsuffix.length_le hlength)
    rw [trim, hfront, List.reverse_eq_iff] at h
    exact ⟨hfront, h⟩
  · rintro ⟨hfront, hback⟩
    rw [trim, hfront, hback, List.reverse_reverse]

theorem settle_eq_self_iff {text : String} : settle text = text ↔ '\r' ∉ text.toList ∧
    (∀ c ∈ text.toList.head?, isSpace c = false) ∧
    ∀ c ∈ text.toList.getLast?, isSpace c = false := by
  rw [← trim_eq_self_iff, ← lines_eq_self_iff, settle, ← String.toList_inj, String.toList_ofList]
  constructor
  · intro h
    have hlines : lines text.toList = text.toList := by
      rw [lines_eq_self_iff, ← h]
      exact fun hmem => not_mem_lines _ (mem_of_mem_trim hmem)
    rw [hlines] at h
    exact ⟨hlines, h⟩
  · rintro ⟨hlines, htrim⟩
    rw [hlines, htrim]

theorem kept_iff {text : String} : Kept text ↔ IsText text.toList ∧ settle text = text := by
  rw [settle_eq_self_iff]
  constructor
  · intro h
    exact ⟨h.isText, h.noReturn, h.head, h.last⟩
  · rintro ⟨hchars, hreturn, hhead, hlast⟩
    exact ⟨hchars, hreturn, hhead, hlast⟩

theorem Reader.text_textNodes (text : List Char) :
    Reader.text (textNodes (lines text)) = some (String.ofList (trim (lines text))) := by
  rw [textNodes]
  cases trim (lines text) <;> rfl

/-! ### Integers -/

/-- The characters of a number as it is written. -/
def IsNumeral (c : Char) : Prop := c = '-' ∨ c.isDigit

section
variable {c : Char} (hc : IsNumeral c)
include hc

theorem IsNumeral.bounds : 0x2D ≤ c.toNat ∧ c.toNat ≤ 0x39 := by
  obtain rfl | hc := hc
  · decide
  · have hdigit := toNat_of_isDigit hc
    omega

theorem IsNumeral.ne {d : Char} (hd : d.toNat < 0x2D ∨ 0x39 < d.toNat) : c ≠ d := by
  have hbounds := hc.bounds
  rintro rfl
  omega

theorem IsNumeral.isSpace : isSpace c = false := by
  simp [Xml.isSpace, hc.ne (d := ' ') (by decide), hc.ne (d := '\n') (by decide),
    hc.ne (d := '\t') (by decide), hc.ne (d := '\r') (by decide)]

theorem IsNumeral.isChar : Version.v10.isChar c := by
  have hbounds := hc.bounds
  simp [Version.isChar, hc.isSpace]
  omega

theorem IsNumeral.isUnmarked : IsUnmarked c :=
  ⟨hc.ne (by decide), hc.ne (by decide), hc.ne (by decide)⟩

end

section
variable {cs : List Char} (hcs : ∀ c ∈ cs, IsNumeral c)
include hcs

theorem isText_of_isNumeral : IsText cs := fun c hc => (hcs c hc).isChar

theorem escape_of_isNumeral : escape cs = cs := by
  induction cs with
  | nil => rfl
  | cons c cs ih =>
    obtain ⟨hc, hcs⟩ := List.forall_mem_cons.mp hcs
    rw [escape_cons, hc.isUnmarked.escapeChar, ih hcs, List.singleton_append]

theorem trim_lines_of_isNumeral : trim (lines cs) = cs := by
  have hreturn : '\r' ∉ cs := fun hmem => (hcs _ hmem).ne (by decide) rfl
  rw [lines_eq_self_iff.mpr hreturn, trim_eq_self_iff]
  exact ⟨fun c hc => (hcs c (List.mem_of_mem_head? hc)).isSpace,
    fun c hc => (hcs c (List.mem_of_getLast? hc)).isSpace⟩

end

theorem natural?_toDigits (n : Nat) : Reader.natural? (Nat.toDigits 10 n) = some n := by
  have hdigits : (Nat.toDigits 10 n).all Char.isDigit :=
    List.all_eq_true.mpr isDigit_of_mem_toDigits
  rw [Reader.natural?, hdigits, if_neg (by simp [Nat.toDigits_ne_nil])]
  exact congrArg some (foldl_toDigits n)

theorem integer?_toDigits (n : Nat) : Reader.integer? (Nat.toDigits 10 n) = some (n : Int) := by
  obtain ⟨c, cs, hcons, hc, -⟩ := Json.exists_toDigits_cons n
  have hnumber := natural?_toDigits n
  rw [hcons] at hnumber ⊢
  rw [Reader.integer?, hnumber]
  · rfl
  · rintro _ h
    rw [(List.cons.inj h).1] at hc
    cases hc
  · rintro _ h
    rw [(List.cons.inj h).1] at hc
    cases hc

theorem toString_int (i : Int) : (toString i).toList =
    if 0 ≤ i then Nat.toDigits 10 i.toNat else '-' :: Nat.toDigits 10 (-i).toNat := by
  rw [Int.toString_eq_repr, Int.repr_eq_if]
  split
  · exact Nat.toList_repr
  · rw [String.toList_append, Nat.toList_repr]
    rfl

theorem isNumeral_of_mem_toString (i : Int) : ∀ c ∈ (toString i).toList, IsNumeral c := by
  have hdigits {n : Nat} : ∀ c ∈ Nat.toDigits 10 n, IsNumeral c :=
    fun c hc => .inr (isDigit_of_mem_toDigits c hc)
  rw [toString_int]
  split
  · exact hdigits
  · exact List.forall_mem_cons.mpr ⟨.inl rfl, hdigits⟩

theorem integer?_toString (i : Int) : Reader.integer? (toString i).toList = some i := by
  rw [toString_int]
  split
  · next hi => rw [integer?_toDigits, Int.toNat_of_nonneg hi]
  · next hi =>
    have hneg : -((-i).toNat : Int) = i := by omega
    rw [Reader.integer?, natural?_toDigits]
    exact congrArg some hneg

/-- An integer within the bounds of a reader is read. -/
theorem Reader.int_textNodes {low high i : Int} (hi : low ≤ i ∧ i ≤ high) :
    Reader.int low high (textNodes (lines (toString i).toList)) = some i := by
  have htext : Reader.text (textNodes (lines (toString i).toList)) = some (toString i) := by
    rw [Reader.text_textNodes, trim_lines_of_isNumeral (isNumeral_of_mem_toString i),
      String.ofList_toList]
  rw [Reader.int, htext]
  change (do
    let j ← Reader.integer? (toString i).toList
    if low ≤ j ∧ j ≤ high then some j else none) = _
  rw [integer?_toString]
  exact if_pos hi

end StoreClient.Xml
