import StoreClient.Proofs.Text.Utf8
import StoreClient.Text.Base64

/-!
Base64 is read back. Reading is strict: digits come in groups of four, only the last group may be
filled up, and the bits that no byte has room for are zero. So every text that is read is the one
that its bytes are written as (`decode_eq_some_iff`).
-/

namespace StoreClient.Base64

/-! ### Reading -/

/-- The number that a digit stands for. -/
def value? (c : Char) : Option Nat :=
  let n := c.toNat
  if 0x41 ≤ n ∧ n ≤ 0x5A then some (n - 0x41)
  else if 0x61 ≤ n ∧ n ≤ 0x7A then some (n - 0x61 + 26)
  else if 0x30 ≤ n ∧ n ≤ 0x39 then some (n - 0x30 + 52)
  else if c = '+' then some 62
  else if c = '/' then some 63
  else none

/-- The bytes that a text spells. -/
def decode : List Char → Option Bytes
  | [] => some []
  | [a, b, '=', '='] => do
    let x ← value? a
    let y ← value? b
    if y % 16 = 0 then some [(x * 4 + y / 16).toUInt8] else none
  | [a, b, c, '='] => do
    let x ← value? a
    let y ← value? b
    let z ← value? c
    if z % 4 = 0 then some [(x * 4 + y / 16).toUInt8, (y % 16 * 16 + z / 4).toUInt8] else none
  | a :: b :: c :: d :: rest => do
    let x ← value? a
    let y ← value? b
    let z ← value? c
    let w ← value? d
    let bytes ← decode rest
    return (x * 4 + y / 16).toUInt8 :: (y % 16 * 16 + z / 4).toUInt8 :: (z % 4 * 64 + w).toUInt8 ::
      bytes
  | _ => none

/-! ### Digits -/

theorem value?_digit {n : Nat} (h : n < 64) : value? (digit n) = some n := by
  have hall : ∀ n < 64, value? (digit n) = some n := by decide
  exact hall n h

theorem digit_ne {n : Nat} (h : n < 64) : digit n ≠ '=' := by
  intro heq
  have hvalue := value?_digit h
  rw [heq] at hvalue
  cases hvalue

/-- A digit is the only one of its number. -/
theorem value?_eq_some_iff {c : Char} {n : Nat} : value? c = some n ↔ n < 64 ∧ c = digit n := by
  constructor
  · intro h
    have hchar {m : Nat} (hm : m = c.toNat) : c = Char.ofNat m := by
      rw [hm, Char.ofNat_toNat]
    unfold value? at h
    simp only at h
    split at h
    · cases h
      refine ⟨by omega, ?_⟩
      rw [digit, if_pos (by omega)]
      exact hchar (by omega)
    split at h
    · cases h
      refine ⟨by omega, ?_⟩
      rw [digit, if_neg (by omega), if_pos (by omega)]
      exact hchar (by omega)
    split at h
    · cases h
      refine ⟨by omega, ?_⟩
      rw [digit, if_neg (by omega), if_neg (by omega), if_pos (by omega)]
      exact hchar (by omega)
    split at h
    · next hplus =>
      cases h
      exact ⟨by omega, hplus⟩
    split at h
    · next hslash =>
      cases h
      exact ⟨by omega, hslash⟩
    · cases h
  · rintro ⟨hn, rfl⟩
    exact value?_digit hn

/-- What is written are digits and what fills up the last group. -/
theorem of_mem_encode {bs : Bytes} {c : Char} (h : c ∈ encode bs) :
    c = '=' ∨ ∃ n < 64, c = digit n := by
  fun_induction encode bs with
  | case1 => cases h
  | case2 a =>
    have ha := a.toNat_lt
    simp only [List.mem_cons, List.not_mem_nil, or_false] at h
    rcases h with h | h | h | h
    · exact .inr ⟨_, by omega, h⟩
    · exact .inr ⟨_, by omega, h⟩
    · exact .inl h
    · exact .inl h
  | case3 a b =>
    have ha := a.toNat_lt
    have hb := b.toNat_lt
    simp only [List.mem_cons, List.not_mem_nil, or_false] at h
    rcases h with h | h | h | h
    · exact .inr ⟨_, by omega, h⟩
    · exact .inr ⟨_, by omega, h⟩
    · exact .inr ⟨_, by omega, h⟩
    · exact .inl h
  | case4 a b c rest ih =>
    have ha := a.toNat_lt
    have hb := b.toNat_lt
    have hc := c.toNat_lt
    simp only [List.mem_cons] at h
    rcases h with h | h | h | h | h
    · exact .inr ⟨_, by omega, h⟩
    · exact .inr ⟨_, by omega, h⟩
    · exact .inr ⟨_, by omega, h⟩
    · exact .inr ⟨_, by omega, h⟩
    · exact ih h

/-! ### Groups -/

theorem decode_one {x y : Nat} (hx : x < 64) (hy : y < 64) (hzero : y % 16 = 0) :
    decode [digit x, digit y, '=', '='] = some [(x * 4 + y / 16).toUInt8] := by
  simp [decode, value?_digit hx, value?_digit hy, hzero]

theorem decode_two {x y z : Nat} (hx : x < 64) (hy : y < 64) (hz : z < 64) (hzero : z % 4 = 0) :
    decode [digit x, digit y, digit z, '='] =
      some [(x * 4 + y / 16).toUInt8, (y % 16 * 16 + z / 4).toUInt8] := by
  simp [decode, value?_digit hx, value?_digit hy, value?_digit hz, digit_ne hz, hzero]

theorem decode_three {x y z w : Nat} (hx : x < 64) (hy : y < 64) (hz : z < 64) (hw : w < 64)
    {rest : List Char} {bytes : Bytes} (hrest : decode rest = some bytes) :
    decode (digit x :: digit y :: digit z :: digit w :: rest) =
      some ((x * 4 + y / 16).toUInt8 :: (y % 16 * 16 + z / 4).toUInt8 ::
        (z % 4 * 64 + w).toUInt8 :: bytes) := by
  simp [decode, value?_digit hx, value?_digit hy, value?_digit hz, value?_digit hw, digit_ne hw,
    hrest]

theorem decode_encode (bs : Bytes) : decode (encode bs) = some bs := by
  fun_induction encode bs with
  | case1 => rfl
  | case2 a =>
    have ha := a.toNat_lt
    rw [decode_one (by omega) (by omega) (by omega), Utf8.toUInt8_eq (b := a) (by omega)]
  | case3 a b =>
    have ha := a.toNat_lt
    have hb := b.toNat_lt
    rw [decode_two (by omega) (by omega) (by omega) (by omega),
      Utf8.toUInt8_eq (b := a) (by omega), Utf8.toUInt8_eq (b := b) (by omega)]
  | case4 a b c rest ih =>
    have ha := a.toNat_lt
    have hb := b.toNat_lt
    have hc := c.toNat_lt
    rw [decode_three (by omega) (by omega) (by omega) (by omega) ih,
      Utf8.toUInt8_eq (b := a) (by omega), Utf8.toUInt8_eq (b := b) (by omega),
      Utf8.toUInt8_eq (b := c) (by omega)]

theorem eq_encode_of_decode {cs : List Char} {bs : Bytes} (h : decode cs = some bs) :
    cs = encode bs := by
  fun_induction decode cs generalizing bs with
  | case1 =>
    cases h
    rfl
  | case2 a b =>
    simp only [Option.bind_eq_bind, Option.bind_eq_some_iff, value?_eq_some_iff] at h
    obtain ⟨x, ⟨hx, rfl⟩, y, ⟨hy, rfl⟩, h⟩ := h
    split at h
    · next hzero =>
      cases h
      rw [encode, Utf8.toNat_toUInt8 (by omega)]
      congr 3 <;> omega
    · cases h
  | case3 a b c hc =>
    simp only [Option.bind_eq_bind, Option.bind_eq_some_iff, value?_eq_some_iff] at h
    obtain ⟨x, ⟨hx, rfl⟩, y, ⟨hy, rfl⟩, z, ⟨hz, rfl⟩, h⟩ := h
    split at h
    · next hzero =>
      cases h
      rw [encode, Utf8.toNat_toUInt8 (by omega), Utf8.toNat_toUInt8 (by omega)]
      congr 4 <;> omega
    · cases h
  | case4 a b c d rest hpad hpad' ih =>
    simp only [Option.bind_eq_bind, Option.bind_eq_some_iff, value?_eq_some_iff,
      Option.pure_def, Option.some.injEq] at h
    obtain ⟨x, ⟨hx, rfl⟩, y, ⟨hy, rfl⟩, z, ⟨hz, rfl⟩, w, ⟨hw, rfl⟩, bytes, hbytes, rfl⟩ := h
    rw [encode, ← ih hbytes, Utf8.toNat_toUInt8 (by omega), Utf8.toNat_toUInt8 (by omega),
      Utf8.toNat_toUInt8 (by omega)]
    congr 5 <;> omega
  | case5 => cases h

/-- A text is read exactly if it is the one that its bytes are written as. -/
theorem decode_eq_some_iff {cs : List Char} {bs : Bytes} :
    decode cs = some bs ↔ cs = encode bs := by
  constructor
  · exact eq_encode_of_decode
  · rintro rfl
    exact decode_encode bs

end StoreClient.Base64
