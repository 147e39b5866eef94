import StoreClient.Proofs.Json.Grammar
import StoreClient.Proofs.Json.Number
import StoreClient.Proofs.Json.String
import StoreClient.Proofs.Logged

/-!
Names, integers and strings are read exactly where they are written. A reader yields a value with
the bytes after it if and only if the bytes before these are a writing of the value:
`name_eq_ok_iff`, `number_eq_int_iff` for integers of 64 bits, and `stringTail_eq_ok_iff`.
-/

namespace StoreClient.Json

theorem name_eq_ok_iff {w s rest : Bytes} : name w s = .ok rest ↔ s = w ++ rest := by
  induction w generalizing s with
  | nil =>
    rw [name, List.nil_append]
    constructor
    · intro h
      cases h
      rfl
    · rintro rfl
      rfl
  | cons b w ih =>
    cases s with
    | nil =>
      constructor
      · intro h
        cases h
      · intro h
        cases h
    | cons c s =>
      rw [name, List.cons_append]
      by_cases h : c = b
      · rw [if_pos h, ih, h]
        exact ⟨congrArg _, fun h => (List.cons.inj h).2⟩
      · rw [if_neg h]
        exact ⟨fun h => (nomatch h), fun heq => (h (List.cons.inj heq).1).elim⟩

/-! ### Digits -/

/-- A significand with more digits behind it. -/
def grow (n : Nat) (s : Bytes) : Nat := s.foldl (fun n d => n * 10 + Ascii.digitValue d) n

theorem le_grow (n : Nat) (s : Bytes) : n ≤ grow n s := by
  induction s generalizing n with
  | nil => exact Nat.le_refl n
  | cons d s ih => exact Nat.le_trans (by omega) (ih (n * 10 + Ascii.digitValue d))

theorem takeDigits_eq_iff {n m : Nat} (hn : n ≤ significandLimit) {s : Bytes} :
    takeDigits n s = (m, 0) ↔ m = grow n s ∧ m ≤ significandLimit := by
  induction s generalizing n with
  | nil =>
    rw [takeDigits, grow, List.foldl_nil, Prod.mk.injEq]
    constructor
    · rintro ⟨rfl, -⟩
      exact ⟨rfl, hn⟩
    · rintro ⟨rfl, -⟩
      exact ⟨rfl, rfl⟩
  | cons d s ih =>
    have hgrow : grow n (d :: s) = grow (n * 10 + Ascii.digitValue d) s := rfl
    rw [takeDigits, hgrow]
    by_cases hlimit : significandLimit < n * 10 + Ascii.digitValue d
    · rw [if_pos hlimit, Prod.mk.injEq]
      constructor
      · rintro ⟨-, h⟩
        cases h
      · rintro ⟨rfl, h⟩
        have hle := le_grow (n * 10 + Ascii.digitValue d) s
        omega
    · rw [if_neg hlimit]
      exact ih (Nat.le_of_not_lt hlimit)

theorem digitValue_le_nine {b : UInt8} (h : Ascii.isDigit b) : Ascii.digitValue b ≤ 9 := by
  rw [Ascii.isDigit, Bool.and_eq_true, decide_eq_true_iff, decide_eq_true_iff,
    UInt8.le_iff_toNat_le, UInt8.le_iff_toNat_le] at h
  have hnine : Ascii.nine.toNat = 0x39 := rfl
  rw [Ascii.digitValue]
  omega

theorem eq_zero_of_digitValue {b : UInt8} (h : Ascii.isDigit b) (hzero : Ascii.digitValue b = 0) :
    b = Ascii.zero := by
  rw [Ascii.isDigit, Bool.and_eq_true, decide_eq_true_iff, decide_eq_true_iff,
    UInt8.le_iff_toNat_le, UInt8.le_iff_toNat_le] at h
  have hnat : Ascii.zero.toNat = 0x30 := rfl
  rw [Ascii.digitValue] at hzero
  exact UInt8.toNat_inj.mp (by omega)

theorem digitsValue_cons (d : UInt8) (s : Bytes) :
    digitsValue (d :: s) = grow (Ascii.digitValue d) s := by
  rw [digitsValue, List.foldl_cons, Nat.zero_mul, Nat.zero_add]
  rfl

/-- Only one writing of a natural number is that of zero. -/
theorem digitsValue_eq_zero_iff {s : Bytes} (h : IsNatural s) :
    digitsValue s = 0 ↔ s = [Ascii.zero] := by
  constructor
  · intro hvalue
    obtain ⟨b, bs, rfl, hb⟩ := isDigit_head_of_isNatural h
    have hle := le_grow (Ascii.digitValue b) bs
    rw [digitsValue_cons] at hvalue
    exact h.2 (congrArg some (eq_zero_of_digitValue hb (by omega)))
  · rintro rfl
    rfl

theorem isDigit_head_dropWhile (s : Bytes) :
    ∀ b ∈ (s.dropWhile Ascii.isDigit).head?, Ascii.isDigit b = false := by
  intro b hb
  have hnot := List.head?_dropWhile_not Ascii.isDigit s
  rw [hb] at hnot
  exact hnot

/-! ### Integers -/

/-- A number with an exponent is no integer. -/
theorem exponent_ne_int {negative : Bool} {n : Nat} {start i : Int} {s rest : Bytes} :
    exponent negative n start s ≠ .ok (.int i, rest) := by
  intro h
  unfold exponent at h
  -- every outcome is a fault or a float
  repeat' split at h
  all_goals cases h

/-- Nor is one with a fraction. -/
theorem fraction_ne_int {negative : Bool} {n : Nat} {start i : Int} {s rest : Bytes} :
    fraction negative n start s ≠ .ok (.int i, rest) := by
  intro h
  unfold fraction at h
  simp only at h
  split at h
  · cases h
  split at h
  · exact exponent_ne_int h
  · exact exponent_ne_int h
  split at h
  · cases h
  · cases h

theorem numberTail_eq_int_iff {negative : Bool} {n excess : Nat} {i : Int} {s rest : Bytes} :
    numberTail negative n excess s = .ok (.int i, rest) ↔
      excess = 0 ∧ (∀ b ∈ s.head?, b ≠ Ascii.point ∧ b ≠ Ascii.lowerE ∧ b ≠ Ascii.upperE) ∧
        wholeNumber negative n = .int i ∧ s = rest := by
  unfold numberTail
  split
  · next s =>
    simp [fraction_ne_int]
  · next s =>
    simp [exponent_ne_int]
  · next s =>
    simp [exponent_ne_int]
  · next hpoint hlower hupper =>
    have hplain : ∀ b ∈ s.head?, b ≠ Ascii.point ∧ b ≠ Ascii.lowerE ∧ b ≠ Ascii.upperE := by
      intro b hb
      obtain ⟨s', rfl⟩ := List.head?_eq_some_iff.mp hb
      refine ⟨?_, ?_, ?_⟩
      · rintro rfl
        exact hpoint s' rfl
      · rintro rfl
        exact hlower s' rfl
      · rintro rfl
        exact hupper s' rfl
    split
    · next hexcess =>
      rw [Except.ok.injEq, Prod.mk.injEq]
      exact ⟨fun ⟨h, hs⟩ => ⟨hexcess, hplain, h, hs⟩, fun ⟨_, _, h, hs⟩ => ⟨h, hs⟩⟩
    · next hexcess =>
      constructor
      · intro h
        split at h
        · cases h
        · cases h
      · rintro ⟨h, -⟩
        exact (hexcess h).elim

theorem wholeNumber_eq_int_iff {negative : Bool} {n : Nat} {i : Int} :
    wholeNumber negative n = .int i ↔
      if negative then n ≠ 0 ∧ n ≤ 0x8000000000000000 ∧ i = -n else i = n := by
  rw [wholeNumber]
  cases negative with
  | false =>
    rw [if_neg Bool.false_ne_true, if_neg Bool.false_ne_true, Number.int.injEq]
    exact eq_comm
  | true =>
    rw [if_pos rfl, if_pos rfl]
    by_cases h : n = 0 ∨ 0x8000000000000000 < n
    · rw [if_pos h]
      constructor
      · intro h
        cases h
      · rintro ⟨hzero, hlimit, -⟩
        omega
    · rw [if_neg h, Number.int.injEq]
      omega

section
variable {negative : Bool} {d : UInt8} {i : Int} {s rest : Bytes}

theorem isNatural_zero : IsNatural [Ascii.zero] :=
  ⟨⟨List.cons_ne_nil _ _, List.forall_mem_singleton.mpr (by decide)⟩, fun _ => rfl⟩

theorem isNatural_of_ne_zero (hzero : d ≠ Ascii.zero) (hd : Ascii.isDigit d)
    (hs : ∀ b ∈ s, Ascii.isDigit b) : IsNatural (d :: s) :=
  ⟨⟨List.cons_ne_nil _ _, List.forall_mem_cons.mpr ⟨hd, hs⟩⟩,
    fun h => (hzero (Option.some.inj h)).elim⟩

/-- A zero is a number of its own: no digit follows it. -/
theorem numberTail_of_zero (h : unsignedNumber negative (Ascii.zero :: s) = .ok (.int i, rest)) :
    (∀ b ∈ s.head?, Ascii.isDigit b = false) ∧ numberTail negative 0 0 s = .ok (.int i, rest) := by
  unfold unsignedNumber at h
  simp only [if_true] at h
  cases s with
  | nil => exact ⟨fun b hb => (nomatch hb), h⟩
  | cons b s =>
    cases hb : Ascii.isDigit b with
    | true =>
      simp only [hb, if_true] at h
      cases h
    | false =>
      simp only [hb, if_neg Bool.false_ne_true] at h
      refine ⟨?_, h⟩
      intro c hc
      cases hc
      exact hb

theorem isDigit_of_unsignedNumber (hzero : d ≠ Ascii.zero)
    (h : unsignedNumber negative (d :: s) = .ok (.int i, rest)) : Ascii.isDigit d := by
  by_contra hdigit
  unfold unsignedNumber at h
  simp only [if_neg hzero, if_neg hdigit] at h
  cases h

/-- Digits are taken as long as there are any, and no zero stands before others. -/
theorem unsignedNumber_eq_int_iff :
    unsignedNumber negative s = .ok (.int i, rest) ↔ ∃ ds, s = ds ++ rest ∧ IsNatural ds ∧
      Ended rest ∧ digitsValue ds ≤ significandLimit ∧
      wholeNumber negative (digitsValue ds) = .int i := by
  constructor
  · intro h
    cases s with
    | nil => cases h
    | cons d s =>
      by_cases hzero : d = Ascii.zero
      · subst hzero
        obtain ⟨hdigit, htail⟩ := numberTail_of_zero h
        obtain ⟨-, hplain, hwhole, rfl⟩ := numberTail_eq_int_iff.mp htail
        have hended : Ended s := fun b hb => ⟨hdigit b hb, hplain b hb⟩
        exact ⟨[Ascii.zero], rfl, isNatural_zero, hended, by decide, hwhole⟩
      · have hdigit := isDigit_of_unsignedNumber hzero h
        have hnatural : IsNatural (d :: s.takeWhile Ascii.isDigit) :=
          isNatural_of_ne_zero hzero hdigit fun b hb => List.mem_takeWhile_imp hb
        rw [unsignedNumber_digit negative hzero hdigit] at h
        generalize htake : takeDigits _ _ = taken at h
        obtain ⟨m, excess⟩ := taken
        obtain ⟨rfl, hplain, hwhole, rfl⟩ := numberTail_eq_int_iff.mp h
        have hlimit : Ascii.digitValue d ≤ significandLimit :=
          Nat.le_trans (digitValue_le_nine hdigit) (by decide)
        obtain ⟨rfl, hm⟩ := (takeDigits_eq_iff hlimit).mp htake
        refine ⟨_, ?_, hnatural, ?_, ?_, ?_⟩
        · rw [List.cons_append, List.takeWhile_append_dropWhile]
        · exact fun b hb => ⟨isDigit_head_dropWhile s b hb, hplain b hb⟩
        · rwa [digitsValue_cons]
        · rwa [digitsValue_cons]
  · rintro ⟨ds, rfl, hds, hrest, hlimit, hwhole⟩
    have htail : numberTail negative (digitsValue ds) 0 rest = .ok (.int i, rest) := by
      rw [numberTail_of_ended negative _ hrest, hwhole]
    obtain ⟨b, bs, rfl, hb⟩ := isDigit_head_of_isNatural hds
    by_cases hzero : b = Ascii.zero
    · cases hds.2 (congrArg some hzero)
      rw [List.singleton_append, unsignedNumber_zero negative hrest]
      exact htail
    · rw [digitsValue_cons] at hlimit htail
      have hle := le_grow (Ascii.digitValue b) bs
      have htake := (takeDigits_eq_iff (s := bs) (by omega)).mpr ⟨rfl, hlimit⟩
      have hbs : ∀ c ∈ bs, Ascii.isDigit c := fun c hc => hds.1.2 c (List.mem_cons_of_mem b hc)
      obtain ⟨htakeWhile, hdropWhile⟩ := span_digits hbs hrest.isDigit_head
      rw [List.cons_append, unsignedNumber_digit negative hzero hb, htakeWhile, hdropWhile, htake]
      exact htail

/-- An integer of 64 bits is read where it is written and no number goes on behind it. -/
theorem number_eq_int_iff :
    number s = .ok (.int i, rest) ↔ ∃ text, s = text ++ rest ∧ WritesInt text i ∧ Ended rest ∧
      -0x8000000000000000 ≤ i ∧ i ≤ 0xFFFFFFFFFFFFFFFF := by
  constructor
  · intro h
    unfold number at h
    split at h
    · next s =>
      obtain ⟨ds, rfl, hds, hrest, -, hwhole⟩ := unsignedNumber_eq_int_iff.mp h
      obtain ⟨hne, hlimit, rfl⟩ := wholeNumber_eq_int_iff.mp hwhole
      have hzero := mt (digitsValue_eq_zero_iff hds).mpr hne
      exact ⟨_, rfl, .negative hds hzero, hrest, by omega, by omega⟩
    · obtain ⟨ds, rfl, hds, hrest, hlimit, hwhole⟩ := unsignedNumber_eq_int_iff.mp h
      rw [significandLimit] at hlimit
      cases wholeNumber_eq_int_iff.mp hwhole
      exact ⟨ds, rfl, .natural hds, hrest, by omega, by omega⟩
  · rintro ⟨text, rfl, hint, hrest, hlow, hhigh⟩
    cases hint with
    | natural hds =>
      obtain ⟨b, bs, rfl, hb⟩ := isDigit_head_of_isNatural hds
      rw [List.cons_append, number_of_isDigit hb]
      refine unsignedNumber_eq_int_iff.mpr ⟨_, rfl, hds, hrest, ?_, ?_⟩
      · rw [significandLimit]
        omega
      · exact wholeNumber_eq_int_iff.mpr rfl
    | @negative ds hds hzero =>
      have hne := mt (digitsValue_eq_zero_iff hds).mp hzero
      have hwhole : wholeNumber true (digitsValue ds) = .int (-(digitsValue ds)) :=
        wholeNumber_eq_int_iff.mpr ⟨hne, by omega, rfl⟩
      refine unsignedNumber_eq_int_iff.mpr ⟨ds, rfl, hds, hrest, ?_, hwhole⟩
      rw [significandLimit]
      omega

end

/-! ### Strings -/

theorem hexUnit_eq_ok_iff {s : Bytes} {n : Nat} :
    hexUnit s = .ok n ↔ ∃ u rest, s = u ++ rest ∧ HexUnit u n := by
  constructor
  · intro h
    unfold hexUnit at h
    split at h
    · next a b c d rest =>
      split at h
      · next i j k l ha hb hc hd =>
        cases h
        exact ⟨[a, b, c, d], rest, rfl, .digits ha hb hc hd⟩
      · cases h
    · cases h
  · rintro ⟨u, rest, rfl, hu⟩
    cases hu with
    | digits ha hb hc hd =>
      simp only [List.cons_append, List.nil_append]
      rw [hexUnit, ha, hb, hc, hd]

theorem HexUnit.exists_four {u : Bytes} {n : Nat} (h : HexUnit u n) :
    ∃ a b c d, u = [a, b, c, d] := by
  cases h
  exact ⟨_, _, _, _, rfl⟩

theorem escapeMark_eq_ok_iff {mark : UInt8} {s : Bytes} {a : Unit} :
    escapeMark mark s = .ok a ↔ ∃ rest, s = mark :: rest := by
  cases s with
  | nil => simp [escapeMark]
  | cons b s => simp [escapeMark, eq_comm]

theorem unicodeEscape_eq_ok_iff {s : Bytes} {c : Char} {n : Nat} :
    unicodeEscape s = .ok (c, n) ↔
      ∃ e rest, s = e ++ rest ∧ e.length = n ∧ Escape (Ascii.lowerU :: e) c := by
  constructor
  · intro h
    obtain ⟨first, hfirst, h⟩ := bind_eq_ok.mp h
    obtain ⟨u, rest, rfl, hu⟩ := hexUnit_eq_ok_iff.mp hfirst
    obtain ⟨a₁, a₂, a₃, a₄, rfl⟩ := hu.exists_four
    split at h
    · cases h
    · next hlow =>
      split at h
      · cases h
        exact ⟨_, rest, rfl, rfl, .unit hu (by omega)⟩
      · next hhigh =>
        obtain ⟨_, hbackslash, h⟩ := bind_eq_ok.mp h
        obtain ⟨rest, rfl⟩ : ∃ rest', rest = _ :: rest' := escapeMark_eq_ok_iff.mp hbackslash
        obtain ⟨_, hletter, h⟩ := bind_eq_ok.mp h
        obtain ⟨rest, rfl⟩ : ∃ rest', rest = _ :: rest' := escapeMark_eq_ok_iff.mp hletter
        obtain ⟨second, hsecond, h⟩ := bind_eq_ok.mp h
        obtain ⟨u, rest', hrest, hu'⟩ := hexUnit_eq_ok_iff.mp hsecond
        obtain rfl : rest = u ++ rest' := hrest
        obtain ⟨b₁, b₂, b₃, b₄, rfl⟩ := hu'.exists_four
        split at h
        · next hsecond =>
          obtain ⟨rfl, rfl⟩ := Prod.mk.inj (Except.ok.inj h)
          exact ⟨_, rest', rfl, rfl, .pair hu (by omega) hu' hsecond⟩
        · cases h
  · rintro ⟨e, rest, rfl, rfl, he⟩
    generalize hescape : Ascii.lowerU :: e = escape at he
    cases he with
    | short h =>
      cases hescape
      cases h
    | @unit u m hu hm =>
      cases hescape
      obtain ⟨a₁, a₂, a₃, a₄, rfl⟩ := hu.exists_four
      refine bind_eq_ok.mpr ⟨m, hexUnit_eq_ok_iff.mpr ⟨_, rest, rfl, hu⟩, ?_⟩
      rw [if_neg (by omega), if_pos (by omega)]
      rfl
    | @pair u u' m m' hu hm hu' hm' =>
      cases hescape
      obtain ⟨a₁, a₂, a₃, a₄, rfl⟩ := hu.exists_four
      obtain ⟨b₁, b₂, b₃, b₄, rfl⟩ := hu'.exists_four
      refine bind_eq_ok.mpr ⟨m, hexUnit_eq_ok_iff.mpr ⟨[a₁, a₂, a₃, a₄], _, rfl, hu⟩, ?_⟩
      rw [if_neg (by omega), if_neg (by omega)]
      refine bind_eq_ok.mpr ⟨(), escapeMark_eq_ok_iff.mpr ⟨_, rfl⟩, ?_⟩
      refine bind_eq_ok.mpr ⟨(), escapeMark_eq_ok_iff.mpr ⟨_, rfl⟩, ?_⟩
      refine bind_eq_ok.mpr ⟨m', hexUnit_eq_ok_iff.mpr ⟨_, rest, rfl, hu'⟩, ?_⟩
      rw [if_pos hm']
      rfl

theorem escape_eq_ok_iff {s : Bytes} {c : Char} {n : Nat} :
    escape s = .ok (c, n) ↔ ∃ e rest, s = e ++ rest ∧ e.length = n ∧ Escape e c := by
  constructor
  · intro h
    cases s with
    | nil => cases h
    | cons b s =>
      rw [escape] at h
      split at h
      · next hb =>
        obtain ⟨⟨c', m⟩, hunicode, heq⟩ := map_eq_ok.mp h
        cases heq
        obtain ⟨e, rest, rfl, rfl, he⟩ := unicodeEscape_eq_ok_iff.mp hunicode
        exact ⟨_, rest, rfl, rfl, hb ▸ he⟩
      · split at h
        · next c' hshort =>
          cases h
          exact ⟨[b], s, rfl, rfl, .short hshort⟩
        · cases h
  · rintro ⟨e, rest, rfl, rfl, he⟩
    have hunicode : ∀ {e}, Escape (Ascii.lowerU :: e) c →
        escape (Ascii.lowerU :: (e ++ rest)) = .ok (c, e.length + 1) := by
      intro e he
      rw [escape, if_pos rfl, unicodeEscape_eq_ok_iff.mpr ⟨e, rest, rfl, rfl, he⟩]
      rfl
    cases he with
    | @short b c h =>
      have hb : b ≠ Ascii.lowerU := by
        rintro rfl
        cases h
      exact escape_short hb h rest
    | unit hu hm => exact hunicode (.unit hu hm)
    | pair hu hm hu' hm' => exact hunicode (.pair hu hm hu' hm')

/-- Once the bytes of an escape are passed over, the string goes on. -/
theorem spells_of_stringBytes {skip : Nat} {s value rest : Bytes}
    (h : stringBytes skip s = .ok (value, rest)) : skip ≤ s.length ∧ ∃ raw,
      s.drop skip = raw ++ Ascii.quote :: rest ∧ Spells raw value := by
  induction s generalizing skip value with
  | nil => cases skip <;> cases h
  | cons b s ih =>
    cases skip with
    | succ skip =>
      obtain ⟨hle, hraw⟩ := ih h
      exact ⟨Nat.succ_le_succ hle, hraw⟩
    | zero =>
      refine ⟨Nat.zero_le _, ?_⟩
      rw [stringBytes] at h
      split at h
      · next hb =>
        cases h
        exact ⟨[], congrArg (· :: rest) hb, .nil⟩
      · next hquote =>
        split at h
        · next hb =>
          split at h
          · cases h
          · next c n hescape =>
            obtain ⟨⟨value', rest'⟩, hbytes, heq⟩ := map_eq_ok.mp h
            cases heq
            obtain ⟨-, raw, hdrop, hraw⟩ := ih hbytes
            obtain ⟨e, after, rfl, rfl, he⟩ := escape_eq_ok_iff.mp hescape
            rw [List.drop_left] at hdrop
            subst hb hdrop
            exact ⟨_, by simp, .escape he hraw⟩
        · next hbackslash =>
          split at h
          · cases h
          · next hspace =>
            obtain ⟨⟨value', rest'⟩, hbytes, heq⟩ := map_eq_ok.mp h
            cases heq
            obtain ⟨-, raw, hdrop, hraw⟩ := ih hbytes
            rw [List.drop_zero] at hdrop
            subst hdrop
            exact ⟨b :: raw, rfl, .plain ⟨hquote, hbackslash, hspace⟩ hraw⟩

theorem stringBytes_of_spells {raw value : Bytes} (h : Spells raw value) (rest : Bytes) :
    stringBytes 0 (raw ++ Ascii.quote :: rest) = .ok (value, rest) := by
  induction h with
  | nil => rfl
  | @plain b s value hb hs ih =>
    have hplain : ∀ c ∈ [b], IsPlain c := List.forall_mem_singleton.mpr hb
    exact stringBytes_plain ih hplain
  | @escape e s value c he hs ih =>
    have hescape := escape_eq_ok_iff.mpr ⟨e, s ++ Ascii.quote :: rest, rfl, rfl, he⟩
    have hbytes := stringBytes_escape ih hescape
    simp only [List.cons_append, List.append_assoc] at hbytes ⊢
    exact hbytes

/-- A string is read up to its closing quote, if it is the writing of a text. -/
theorem stringTail_eq_ok_iff {s rest : Bytes} {text : String} :
    stringTail s = .ok (text, rest) ↔ ∃ raw, s = raw ++ Ascii.quote :: rest ∧
      Spells raw (Utf8.ofString text) := by
  rw [stringTail, bind_eq_ok]
  constructor
  · rintro ⟨⟨value, rest'⟩, hbytes, h⟩
    obtain ⟨-, raw, hs, hraw⟩ := spells_of_stringBytes hbytes
    simp only at h
    split at h
    · next cs hdecode =>
      cases h
      cases Utf8.decode_eq_ok_iff.mp hdecode
      exact ⟨raw, hs, by rwa [Utf8.ofString, String.toList_ofList]⟩
    · cases h
  · rintro ⟨raw, rfl, hraw⟩
    refine ⟨(Utf8.ofString text, rest), stringBytes_of_spells hraw rest, ?_⟩
    simp only [Utf8.ofString, Utf8.decode_encode, String.ofList_toList]

end StoreClient.Json
