import StoreClient.Text.Form
import StoreClient.Proofs.Text.Ascii
import StoreClient.Proofs.Text.Percent

/-!
Forms are read back. Neither a name nor a value spells an ampersand or an equals sign, so the text
of a form falls apart into the pairs that it was made of, and each of them into its name and its
value (`decode_encode`).
-/

namespace StoreClient.Form

/-! ### Reading -/

/-- The text that a name or a value stands for: a plus sign is a space, escapes are bytes. -/
def decodeText (cs : List Char) : Except Utf8.Error String :=
  (Utf8.decode (Percent.decode (cs.map fun c => if c = '+' then ' ' else c))).map String.ofList

/-- The name before the first equals sign, and the value after it. -/
def decodePair (piece : List Char) : Except Utf8.Error (String × String) := do
  let name ← decodeText (piece.takeWhile (· ≠ '='))
  let value ← decodeText ((piece.dropWhile (· ≠ '=')).drop 1)
  return (name, value)

/-- The pairs between ampersands; where nothing stands there is no pair. -/
def decode (text : List Char) : Except Utf8.Error (List (String × String)) :=
  ((text.splitOn '&').filter (!·.isEmpty)).mapM decodePair

/-! ### Characters of a form -/

theorem isSafe_of_isAlphanum {c : Char} (h : c.isAlphanum) : isSafe c := by
  simp only [isSafe, h, Bool.true_or]

theorem of_mem_escaped {c d : Char} (h : d ∈ Percent.encodeChar isSafe c) :
    isSafe d ∨ d = '%' := by
  have h : d ∈ Percent.encode isSafe [c] := by rwa [Percent.encode, List.flatMap_singleton]
  rcases Percent.of_mem_encode h with h | h | h
  · exact .inl h
  · exact .inr h
  · exact .inl (isSafe_of_isAlphanum h)

/-- A name or a value is made of safe characters, plus signs and percent signs. -/
theorem of_mem_encodeText {cs : List Char} {d : Char} (h : d ∈ encodeText cs) :
    isSafe d ∨ d = '+' ∨ d = '%' := by
  obtain ⟨c, -, h⟩ := List.mem_flatMap.mp h
  rw [encodeChar] at h
  split at h
  · exact .inr (.inl (List.mem_singleton.mp h))
  · rcases of_mem_escaped h with h | h
    · exact .inl h
    · exact .inr (.inr h)

theorem equals_not_mem_encodeText {cs : List Char} : '=' ∉ encodeText cs := by
  intro h
  exact absurd (of_mem_encodeText h) (by decide)

theorem of_mem_encodePair {p : String × String} {d : Char} (h : d ∈ encodePair p) :
    isSafe d ∨ d = '+' ∨ d = '%' ∨ d = '=' := by
  have htext : ∀ {s : String}, d ∈ encodeText s.toList →
      isSafe d ∨ d = '+' ∨ d = '%' ∨ d = '=' := by
    intro s h
    rcases of_mem_encodeText h with h | h | h
    · exact .inl h
    · exact .inr (.inl h)
    · exact .inr (.inr (.inl h))
  rcases List.mem_append.mp h with h | h
  · exact htext h
  rcases List.mem_cons.mp h with h | h
  · exact .inr (.inr (.inr h))
  · exact htext h

theorem ampersand_not_mem_encodePair {p : String × String} : '&' ∉ encodePair p := by
  intro h
  exact absurd (of_mem_encodePair h) (by decide)

theorem encode_eq_intercalate (pairs : List (String × String)) :
    encode pairs = ['&'].intercalate (pairs.map encodePair) := by
  induction pairs with
  | nil => rfl
  | cons p pairs ih =>
    cases pairs with
    | nil => exact (List.append_nil _).symm
    | cons q pairs =>
      rw [encode, ih]
      rfl

/-- Characters that the text of a form is made of. -/
def isWritten (c : Char) : Bool :=
  c.isAlphanum || ['*', '-', '.', '_', '+', '%', '=', '&'].elem c

theorem isWritten_of_isSafe {c : Char} (h : isSafe c) : isWritten c := by
  simp only [isSafe, Bool.or_eq_true, beq_iff_eq] at h
  rcases h with (((h | rfl) | rfl) | rfl) | rfl
  · rw [isWritten, h, Bool.true_or]
  · decide
  · decide
  · decide
  · decide

theorem isWritten_of_mem_encode {pairs : List (String × String)} {c : Char}
    (h : c ∈ encode pairs) : isWritten c := by
  have hpair : ∀ {p : String × String}, c ∈ encodePair p → isWritten c := by
    intro p h
    rcases of_mem_encodePair h with h | rfl | rfl | rfl
    · exact isWritten_of_isSafe h
    · decide
    · decide
    · decide
  induction pairs with
  | nil => cases h
  | cons p pairs ih =>
    cases pairs with
    | nil => exact hpair h
    | cons q pairs =>
      rcases List.mem_append.mp h with h | h
      · exact hpair h
      rcases List.mem_cons.mp h with rfl | h
      · decide
      · exact ih h

/-! ### Reading back -/

/-- A character is read back, whether it stands for itself, as a plus sign or as escapes. -/
theorem decode_encodeChar (c : Char) (rest : List Char) :
    Percent.decode ((encodeChar c).map (fun c => if c = '+' then ' ' else c) ++ rest) =
      Utf8.encodeChar c ++ Percent.decode rest := by
  rw [encodeChar]
  split
  · next h =>
    subst h
    exact Percent.decode_cons_of_ne (by decide) rest
  · have hplain : ∀ d ∈ Percent.encodeChar isSafe c, (if d = '+' then ' ' else d) = d := by
      intro d hd
      apply if_neg
      rintro rfl
      exact absurd (of_mem_escaped hd) (by decide)
    rw [List.map_congr_left hplain, List.map_id']
    exact Percent.decode_encodeChar rfl c rest

theorem decodeText_encodeText (s : String) : decodeText (encodeText s.toList) = .ok s := by
  have hbytes : ∀ cs : List Char,
      Percent.decode ((encodeText cs).map fun c => if c = '+' then ' ' else c) =
        Utf8.encode cs := by
    intro cs
    induction cs with
    | nil => rfl
    | cons c cs ih =>
      rw [encodeText, List.flatMap_cons, List.map_append, decode_encodeChar, Utf8.encode,
        List.flatMap_cons]
      exact congrArg _ ih
  rw [decodeText, hbytes, Utf8.decode_encode]
  exact congrArg _ (String.ofList_toList)

theorem decodePair_encodePair (p : String × String) : decodePair (encodePair p) = .ok p := by
  have hname : ∀ c ∈ encodeText p.1.toList, decide (c ≠ '=') = true := by
    intro c hc
    apply decide_eq_true
    rintro rfl
    exact equals_not_mem_encodeText hc
  rw [decodePair, encodePair, List.takeWhile_append_of_pos hname,
    List.dropWhile_append_of_pos hname, List.takeWhile_cons_of_neg (by decide),
    List.dropWhile_cons_of_neg (by decide), List.append_nil, List.drop_one, List.tail_cons,
    decodeText_encodeText, decodeText_encodeText]
  rfl

/-- The pairs of a form are read back from its text, in their order. -/
theorem decode_encode (pairs : List (String × String)) : decode (encode pairs) = .ok pairs := by
  have hmapM : (pairs.map encodePair).mapM decodePair = .ok pairs := by
    induction pairs with
    | nil => rfl
    | cons p pairs ih =>
      rw [List.map_cons, List.mapM_cons, decodePair_encodePair, ih]
      rfl
  cases pairs with
  | nil => rfl
  | cons p pairs =>
    have hplain : ∀ piece ∈ (p :: pairs).map encodePair, '&' ∉ piece := by
      intro piece hpiece
      obtain ⟨q, -, rfl⟩ := List.mem_map.mp hpiece
      exact ampersand_not_mem_encodePair
    have hfilter : ((p :: pairs).map encodePair).filter (!·.isEmpty) =
        (p :: pairs).map encodePair := by
      apply List.filter_eq_self.mpr
      intro piece hpiece
      obtain ⟨q, -, rfl⟩ := List.mem_map.mp hpiece
      simp [encodePair]
    rw [decode, encode_eq_intercalate, List.splitOn_intercalate '&' hplain (by simp), hfilter,
      hmapM]

end StoreClient.Form
