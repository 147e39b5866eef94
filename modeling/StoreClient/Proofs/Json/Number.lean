import Mathlib.Data.List.Basic
import StoreClient.Proofs.Json.Reads
import StoreClient.Proofs.Text.Ascii

/-!
Integers are read back. The digits of a natural number, which begin with a zero only if they are
that zero, are taken up whole as long as they stay within 64 bits; what follows ends the number.
-/

namespace StoreClient.Json

/-! ### Digits -/

/-- Digits are taken as far as they go. -/
theorem span_digits {ds rest : Bytes} (hds : ∀ b ∈ ds, Ascii.isDigit b)
    (hrest : ∀ b ∈ rest.head?, Ascii.isDigit b = false) :
    (ds ++ rest).takeWhile Ascii.isDigit = ds ∧ (ds ++ rest).dropWhile Ascii.isDigit = rest := by
  rw [List.takeWhile_append_of_pos hds, List.dropWhile_append_of_pos hds]
  cases rest with
  | nil => exact ⟨List.append_nil _, rfl⟩
  | cons b rest =>
    have hb : ¬ Ascii.isDigit b := by simp [hrest b rfl]
    rw [List.takeWhile_cons_of_neg hb, List.dropWhile_cons_of_neg hb]
    exact ⟨List.append_nil _, rfl⟩

/-- The byte of a digit. -/
theorem encodeChar_of_isDigit {c : Char} (h : c.isDigit) : ∃ b, Utf8.encodeChar c = [b] ∧
    b.toNat = c.toNat ∧ Ascii.isDigit b ∧ Ascii.digitValue b = c.toNat - 0x30 := by
  obtain ⟨hlow, hhigh⟩ := toNat_of_isDigit h
  have hb : c.toNat.toUInt8.toNat = c.toNat := Utf8.toNat_toUInt8 (by omega)
  refine ⟨c.toNat.toUInt8, ?_, hb, ?_, ?_⟩
  · rw [Utf8.encodeChar, if_pos (by omega)]
  · rw [Ascii.isDigit, Bool.and_eq_true, decide_eq_true_iff, decide_eq_true_iff,
      UInt8.le_iff_toNat_le, UInt8.le_iff_toNat_le, hb]
    exact ⟨hlow, hhigh⟩
  · rw [Ascii.digitValue, hb]

section
variable {cs : List Char} (hcs : ∀ c ∈ cs, c.isDigit)
include hcs

theorem isDigit_of_mem_encode : ∀ b ∈ Utf8.encode cs, Ascii.isDigit b := by
  intro b hb
  obtain ⟨c, hc, hb⟩ := List.mem_flatMap.mp hb
  obtain ⟨b', hc', -, hdigit, -⟩ := encodeChar_of_isDigit (hcs c hc)
  rw [hc'] at hb
  cases List.mem_singleton.mp hb
  exact hdigit

theorem takeWhile_digits {rest : Bytes} (hrest : Ended rest) :
    (Utf8.encode cs ++ rest).takeWhile Ascii.isDigit = Utf8.encode cs ∧
      (Utf8.encode cs ++ rest).dropWhile Ascii.isDigit = rest :=
  span_digits (isDigit_of_mem_encode hcs) hrest.isDigit_head

/-- Digits are taken up as long as the significand stays within its limit. -/
theorem takeDigits_encode {n : Nat} (hn : Nat.ofDigitChars 10 cs n ≤ significandLimit) :
    takeDigits n (Utf8.encode cs) = (Nat.ofDigitChars 10 cs n, 0) := by
  induction cs generalizing n with
  | nil => rfl
  | cons c cs ih =>
    obtain ⟨hc, hcs⟩ := List.forall_mem_cons.mp hcs
    obtain ⟨b, hb, -, -, hvalue⟩ := encodeChar_of_isDigit hc
    rw [Nat.ofDigitChars_cons] at hn ⊢
    have hgrown : n * 10 + Ascii.digitValue b = 10 * n + (c.toNat - '0'.toNat) := by
      rw [hvalue, Nat.mul_comm]
      rfl
    have hle : 10 * n + (c.toNat - '0'.toNat) ≤ significandLimit := by
      rw [Nat.ofDigitChars_eq_ofDigitChars_zero] at hn
      refine Nat.le_trans (Nat.le_mul_of_pos_left _ ?_) (Nat.le_trans (Nat.le_add_right _ _) hn)
      exact Nat.pow_pos (by decide)
    rw [Utf8.encode, List.flatMap_cons, hb, List.singleton_append, takeDigits, hgrown,
      if_neg (Nat.not_lt.mpr hle)]
    exact ih hcs hn

end

theorem exists_toDigits_cons (n : Nat) :
    ∃ c cs, Nat.toDigits 10 n = c :: cs ∧ c.isDigit ∧ ∀ d ∈ cs, d.isDigit := by
  have hdigits : ∀ c ∈ Nat.toDigits 10 n, c.isDigit := isDigit_of_mem_toDigits
  cases h : Nat.toDigits 10 n with
  | nil => exact (Nat.toDigits_ne_nil h).elim
  | cons c cs =>
    rw [h] at hdigits
    exact ⟨c, cs, rfl, List.forall_mem_cons.mp hdigits⟩

/-- Only zero begins with a zero. -/
theorem head?_toDigits {n : Nat} (hn : 0 < n) : ∀ c ∈ (Nat.toDigits 10 n).head?, c ≠ '0' := by
  induction n using Nat.strongRecOn with
  | ind n ih =>
    by_cases h : n < 10
    · have hdigit : ∀ n < 10, 0 < n → n.digitChar ≠ '0' := by decide
      rw [Nat.toDigits_of_lt_base h]
      intro c hc
      cases hc
      exact hdigit n h hn
    · rw [Nat.toDigits_of_base_le (by decide) (Nat.not_lt.mp h),
        List.head?_append_of_ne_nil _ Nat.toDigits_ne_nil]
      exact ih (n / 10) (by omega) (by omega)

/-! ### Numbers -/

theorem numberTail_of_ended (negative : Bool) (n : Nat) {rest : Bytes} (hrest : Ended rest) :
    numberTail negative n 0 rest = .ok (wholeNumber negative n, rest) := by
  rw [numberTail]
  · rfl
  · rintro _ rfl
    exact (hrest _ rfl).2.1 rfl
  · rintro _ rfl
    exact (hrest _ rfl).2.2.1 rfl
  · rintro _ rfl
    exact (hrest _ rfl).2.2.2 rfl

theorem unsignedNumber_zero (negative : Bool) {rest : Bytes} (hrest : Ended rest) :
    unsignedNumber negative (Ascii.zero :: rest) = numberTail negative 0 0 rest := by
  unfold unsignedNumber
  refine (if_pos rfl).trans ?_
  cases rest with
  | nil => rfl
  | cons b rest =>
    have hb : ¬ Ascii.isDigit b = true := by simp [(hrest b rfl).1]
    exact if_neg hb

theorem unsignedNumber_digit (negative : Bool) {b : UInt8} (hzero : b ≠ Ascii.zero)
    (hdigit : Ascii.isDigit b) (s : Bytes) :
    unsignedNumber negative (b :: s) =
      let (significand, excess) := takeDigits (Ascii.digitValue b) (s.takeWhile Ascii.isDigit)
      numberTail negative significand excess (s.dropWhile Ascii.isDigit) := by
  unfold unsignedNumber
  exact (if_neg hzero).trans (if_pos hdigit)

theorem unsignedNumber_toDigits (negative : Bool) {n : Nat} (hn : n ≤ significandLimit)
    {rest : Bytes} (hrest : Ended rest) :
    unsignedNumber negative (Utf8.encode (Nat.toDigits 10 n) ++ rest) =
      .ok (wholeNumber negative n, rest) := by
  have htail := numberTail_of_ended negative n hrest
  rcases Nat.eq_zero_or_pos n with rfl | hpos
  · have hzero : Utf8.encode (Nat.toDigits 10 0) = [Ascii.zero] := by decide
    rw [hzero, List.singleton_append, unsignedNumber_zero negative hrest]
    exact htail
  · have hvalue : Nat.ofDigitChars 10 (Nat.toDigits 10 n) 0 = n := Nat.ofDigitChars_ten_toDigits
    have hhead := head?_toDigits hpos
    obtain ⟨c, cs, hcons, hc, hcs⟩ := exists_toDigits_cons n
    obtain ⟨b, hb, hnat, hdigit, hdigitValue⟩ := encodeChar_of_isDigit hc
    rw [hcons] at hvalue hhead ⊢
    have hzero : b ≠ Ascii.zero := by
      rintro rfl
      exact hhead c rfl (Char.toNat_inj.mp hnat.symm)
    rw [Nat.ofDigitChars_cons, Nat.mul_zero, Nat.zero_add] at hvalue
    have htake : takeDigits (Ascii.digitValue b) (Utf8.encode cs) = (n, 0) := by
      rw [hdigitValue]
      exact (takeDigits_encode hcs (hvalue.symm ▸ hn)).trans (congrArg (·, 0) hvalue)
    obtain ⟨htakeWhile, hdropWhile⟩ := takeWhile_digits hcs hrest
    have hbytes : Utf8.encode (c :: cs) = b :: Utf8.encode cs := by
      rw [Utf8.encode, List.flatMap_cons, hb]
      rfl
    rw [hbytes, List.cons_append, unsignedNumber_digit negative hzero hdigit, htakeWhile,
      hdropWhile, htake]
    exact htail

theorem encode_toDigits_cons (n : Nat) : ∃ b bs, Utf8.encode (Nat.toDigits 10 n) = b :: bs ∧
    Ascii.isDigit b := by
  obtain ⟨c, cs, hcons, hc, -⟩ := exists_toDigits_cons n
  obtain ⟨b, hb, -, hdigit, -⟩ := encodeChar_of_isDigit hc
  refine ⟨b, Utf8.encode cs, ?_, hdigit⟩
  rw [hcons, Utf8.encode, List.flatMap_cons, hb]
  rfl

theorem startsNumber_of_isDigit {b : UInt8} (h : Ascii.isDigit b) : startsNumber b := by
  rw [startsNumber, h, Bool.or_true]

theorem startsValue_of_startsNumber {b : UInt8} (h : startsNumber b) : startsValue b := by
  rw [startsValue, h, Bool.or_true]
  rfl

theorem number_of_isDigit {b : UInt8} (h : Ascii.isDigit b) (s : Bytes) :
    number (b :: s) = unsignedNumber false (b :: s) := by
  rw [number]
  rintro rest heq
  rw [(List.cons.inj heq).1] at h
  cases h

theorem exists_int_cons (i : Int) : ∃ b bs, Utf8.encode (Number.int i).render = b :: bs ∧
    startsNumber b := by
  rw [Number.render, Int.toString_eq_repr, Int.repr_eq_if]
  by_cases hi : 0 ≤ i
  · rw [if_pos hi, Nat.toList_repr]
    obtain ⟨b, bs, hbs, hdigit⟩ := encode_toDigits_cons i.toNat
    exact ⟨b, bs, hbs, startsNumber_of_isDigit hdigit⟩
  · rw [if_neg hi, String.toList_append]
    exact ⟨Ascii.minus, _, rfl, by decide⟩

/-- An integer of 64 bits, with a sign or without, is read as it is written. -/
theorem number_int {i : Int} (hlow : -0x8000000000000000 ≤ i) (hhigh : i ≤ 0xFFFFFFFFFFFFFFFF)
    {rest : Bytes} (hrest : Ended rest) :
    number (Utf8.encode (Number.int i).render ++ rest) = .ok (.int i, rest) := by
  rw [Number.render, Int.toString_eq_repr, Int.repr_eq_if]
  by_cases hi : 0 ≤ i
  · have hlimit : i.toNat ≤ significandLimit := by
      rw [significandLimit]
      omega
    have hread := unsignedNumber_toDigits false hlimit hrest
    obtain ⟨b, bs, hbs, hdigit⟩ := encode_toDigits_cons i.toNat
    rw [if_pos hi, Nat.toList_repr]
    rw [hbs, List.cons_append] at hread ⊢
    rw [number_of_isDigit hdigit, hread, wholeNumber, if_neg Bool.false_ne_true,
      Int.toNat_of_nonneg hi]
  · have hlimit : (-i).toNat ≤ significandLimit := by
      rw [significandLimit]
      omega
    have hread := unsignedNumber_toDigits true hlimit hrest
    have hwhole : wholeNumber true (-i).toNat = .int i := by
      rw [wholeNumber, if_pos rfl, if_neg (by omega)]
      exact congrArg Number.int (by omega)
    rw [hwhole] at hread
    rw [if_neg hi, String.toList_append, Nat.toList_repr, Utf8.encode_append]
    exact hread

/-- An integer within the bounds of a reader is read. -/
theorem reads_int {low high i : Int} (hlow : -0x8000000000000000 ≤ low)
    (hhigh : high ≤ 0xFFFFFFFFFFFFFFFF) (hi : low ≤ i ∧ i ≤ high) (type : String) :
    Reads (Reader.int low high type) (Utf8.encode (Number.int i).render) i := by
  obtain ⟨b, bs, hbs, hstarts⟩ := exists_int_cons i
  have hvalue := startsValue_of_startsNumber hstarts
  refine ⟨⟨b, by rw [hbs]; rfl, hvalue⟩, fun rest hrest => ?_⟩
  have hread := number_int (Int.le_trans hlow hi.1) (Int.le_trans hi.2 hhigh) hrest
  rw [hbs, List.cons_append] at hread ⊢
  rw [Reader.int, withLead_cons (isSpace_of_startsValue hvalue), if_pos hstarts, hread]
  exact if_pos hi

end StoreClient.Json
