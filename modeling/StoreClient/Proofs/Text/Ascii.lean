/-!
The letters and digits of ASCII lie between `0` and `z`. In lower case capital letters move up by 32
and nothing else moves. The decimal digits of a number add up to it.
-/

namespace StoreClient

theorem toNat_of_isDigit {c : Char} (h : c.isDigit) : 0x30 ≤ c.toNat ∧ c.toNat ≤ 0x39 := by
  simp only [Char.isDigit, Bool.and_eq_true, decide_eq_true_eq, ge_iff_le,
    UInt32.le_iff_toNat_le] at h
  exact h

theorem isUpper_iff {c : Char} : c.isUpper ↔ 0x41 ≤ c.toNat ∧ c.toNat ≤ 0x5A :=
  decide_eq_true_iff

theorem isLower_iff {c : Char} : c.isLower ↔ 0x61 ≤ c.toNat ∧ c.toNat ≤ 0x7A :=
  Bool.and_eq_true_iff.trans (and_congr decide_eq_true_iff decide_eq_true_iff)

theorem toNat_of_isAlphanum {c : Char} (h : c.isAlphanum) : 0x30 ≤ c.toNat ∧ c.toNat ≤ 0x7A := by
  rcases (Bool.or_eq_true _ _).mp h with halpha | hdigit
  · rcases (Bool.or_eq_true _ _).mp halpha with hupper | hlower
    · have hc := isUpper_iff.mp hupper
      omega
    · have hc := isLower_iff.mp hlower
      omega
  · have hc := toNat_of_isDigit hdigit
    omega

theorem toNat_toLower (c : Char) :
    c.toLower.toNat = if 0x41 ≤ c.toNat ∧ c.toNat ≤ 0x5A then c.toNat + 0x20 else c.toNat := by
  -- the bounds on the number of the character are those on its value, which `toLower` tests
  have hiff : c.val ≥ 'A'.val ∧ c.val ≤ 'Z'.val ↔ 0x41 ≤ c.toNat ∧ c.toNat ≤ 0x5A := Iff.rfl
  delta Char.toLower
  split
  · next h =>
    have h := hiff.mp h
    rw [if_pos h]
    change (c.val + 0x20).toNat = c.toNat + 0x20
    have hc : c.val.toNat = c.toNat := rfl
    have h20 : (0x20 : UInt32).toNat = 0x20 := rfl
    rw [UInt32.toNat_add, hc, h20]
    omega
  · next h => rw [if_neg (mt hiff.mpr h)]

/-- What is no small letter is only itself in lower case. -/
theorem eq_of_toLower_eq {c d : Char} (h : c.toLower = d)
    (hd : ¬ (0x61 ≤ d.toNat ∧ d.toNat ≤ 0x7A)) : c = d := by
  have hn := toNat_toLower c
  rw [h] at hn
  split at hn
  · omega
  · exact (Char.toNat_inj.mp hn).symm

/-! ### Decimal digits -/

theorem isDigit_of_mem_toDigits {n : Nat} : ∀ c ∈ Nat.toDigits 10 n, c.isDigit :=
  fun _ hc => Nat.isDigit_of_mem_toDigits (by decide) (by decide) hc

theorem foldl_toDigits (n : Nat) :
    (Nat.toDigits 10 n).foldl (fun n d => n * 10 + (d.toNat - 0x30)) 0 = n := by
  have hstep : (fun n d => n * 10 + (Char.toNat d - 0x30)) =
      fun n d => 10 * n + (Char.toNat d - '0'.toNat) := by
    funext n d
    rw [Nat.mul_comm]
    rfl
  rw [hstep]
  exact Nat.ofDigitChars_ten_toDigits

end StoreClient
