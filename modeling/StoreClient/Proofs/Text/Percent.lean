import StoreClient.Text.Percent
import StoreClient.Proofs.Text.Utf8

/-!
Percent-encoding is read back. Whatever characters are kept, as long as the percent sign is not one
of them, decoding gives the bytes of the text (`decode_encode`); and an encoded text holds nothing
but kept characters, percent signs and digits (`of_mem_encode`).
-/

namespace StoreClient.Percent

theorem hexDigit_isAlphanum : ∀ n < 16, (hexDigit n).isAlphanum := by decide

theorem digitValue?_hexDigit : ∀ n < 16, digitValue? (hexDigit n) = some n := by decide

/-- What an encoded text holds. -/
theorem of_mem_encode {keep : Char → Bool} {cs : List Char} {c : Char} (h : c ∈ encode keep cs) :
    keep c ∨ c = '%' ∨ c.isAlphanum := by
  obtain ⟨d, -, h⟩ := List.mem_flatMap.mp h
  rw [encodeChar] at h
  split at h
  · next hd =>
    cases List.mem_singleton.mp h
    exact .inl hd
  · obtain ⟨b, -, h⟩ := List.mem_flatMap.mp h
    have hb := b.toNat_lt
    rcases List.mem_cons.mp h with rfl | h
    · exact .inr (.inl rfl)
    rcases List.mem_cons.mp h with rfl | h
    · exact .inr (.inr (hexDigit_isAlphanum _ (by omega)))
    · cases List.mem_singleton.mp h
      exact .inr (.inr (hexDigit_isAlphanum _ (by omega)))

/-- A text of kept characters is its own encoding. -/
theorem encode_of_forall {keep : Char → Bool} {cs : List Char} (h : ∀ c ∈ cs, keep c) :
    encode keep cs = cs := by
  induction cs with
  | nil => rfl
  | cons c cs ih =>
    obtain ⟨hc, hcs⟩ := List.forall_mem_cons.mp h
    rw [encode, List.flatMap_cons, encodeChar, if_pos hc]
    exact congrArg _ (ih hcs)

theorem decode_escapeByte (b : UInt8) (rest : List Char) :
    decode (escapeByte b ++ rest) = b :: decode rest := by
  have hb := b.toNat_lt
  rw [escapeByte, List.cons_append, List.cons_append, List.cons_append, List.nil_append, decode,
    digitValue?_hexDigit _ (by omega), digitValue?_hexDigit _ (by omega)]
  simp [Nat.div_add_mod]

theorem decode_cons_of_ne {c : Char} (hc : c ≠ '%') (rest : List Char) :
    decode (c :: rest) = Utf8.encodeChar c ++ decode rest := by
  rw [decode]
  exact fun _ _ _ h => (hc h).elim

theorem decode_flatMap_escapeByte (bs : Bytes) (rest : List Char) :
    decode (bs.flatMap escapeByte ++ rest) = bs ++ decode rest := by
  induction bs with
  | nil => rfl
  | cons b bs ih =>
    rw [List.flatMap_cons, List.append_assoc, decode_escapeByte, ih, List.cons_append]

theorem decode_encodeChar {keep : Char → Bool} (hkeep : keep '%' = false) (c : Char)
    (rest : List Char) : decode (encodeChar keep c ++ rest) = Utf8.encodeChar c ++ decode rest := by
  rw [encodeChar]
  split
  · next hc =>
    apply decode_cons_of_ne
    rintro rfl
    rw [hkeep] at hc
    cases hc
  · exact decode_flatMap_escapeByte _ rest

/-- An encoded text stands for the bytes of the text. -/
theorem decode_encode {keep : Char → Bool} (hkeep : keep '%' = false) (cs : List Char) :
    decode (encode keep cs) = Utf8.encode cs := by
  induction cs with
  | nil => rfl
  | cons c cs ih =>
    rw [encode, List.flatMap_cons, decode_encodeChar hkeep, Utf8.encode, List.flatMap_cons]
    exact congrArg _ ih

/-- A text without percent signs stands for itself. -/
theorem decode_of_not_mem {cs : List Char} (h : '%' ∉ cs) : decode cs = Utf8.encode cs := by
  have hkeep : ∀ c ∈ cs, (c != '%') = true := fun c hc => bne_iff_ne.mpr fun hne => h (hne ▸ hc)
  have hdecode := @decode_encode (· != '%') rfl cs
  rwa [encode_of_forall hkeep] at hdecode

end StoreClient.Percent
