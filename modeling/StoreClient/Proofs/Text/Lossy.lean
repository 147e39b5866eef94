import StoreClient.Proofs.Text.Boundary

/-!
What becomes of bytes that are no text. Where no character can be read, as many bytes as begin one
are taken together, or else a single byte, and stand for one replacement character (`IsMalformed`);
everything else is read as the characters that it encodes. There is one text that bytes are read as
in this way, and it is the one that the machine finds (`lossy_iff`).
-/

namespace StoreClient.Utf8

/-- Whether bytes are the first of some character. -/
def Begins (bs : Bytes) : Prop := ∃ c, bs <+: encodeChar c

/-- Whether bytes are malformed in front of others: no character is read at their place, and they
are as many as begin one, or a single byte which begins none. -/
structure IsMalformed (bad rest : Bytes) : Prop where
  ne_nil : bad ≠ []
  not_char : ∀ c, ¬ encodeChar c <+: bad ++ rest
  begins : Begins bad ∨ bad.length = 1
  longest : ∀ run, run <+: bad ++ rest → Begins run → run.length ≤ bad.length

/-- What bytes are read as if each malformed sequence is replaced. -/
inductive Lossy : Bytes → List Char → Prop where
  | nil : Lossy [] []
  | char (c : Char) {rest : Bytes} {cs : List Char} (h : Lossy rest cs) :
      Lossy (encodeChar c ++ rest) (c :: cs)
  | malformed {bad rest : Bytes} {cs : List Char} (hbad : IsMalformed bad rest)
      (h : Lossy rest cs) : Lossy (bad ++ rest) ('\uFFFD' :: cs)

/-! ### One text -/

theorem encodeChar_append_inj {c c' : Char} {rest rest' : Bytes}
    (h : encodeChar c ++ rest = encodeChar c' ++ rest') : c = c' ∧ rest = rest' := by
  have hpieces := congrArg (pieces none) h
  rw [pieces_encodeChar, pieces_encodeChar] at hpieces
  obtain rfl := Piece.char.inj (List.cons.inj hpieces).1
  exact ⟨rfl, List.append_cancel_left h⟩

theorem IsMalformed.append_inj {bad bad' rest rest' : Bytes} (h : IsMalformed bad rest)
    (h' : IsMalformed bad' rest') (heq : bad ++ rest = bad' ++ rest') :
    bad = bad' ∧ rest = rest' := by
  have hle {bad bad' rest rest' : Bytes} (h : IsMalformed bad rest) (h' : IsMalformed bad' rest')
      (heq : bad ++ rest = bad' ++ rest') : bad.length ≤ bad'.length := by
    obtain hbegins | hone := h.begins
    · exact h'.longest bad (heq ▸ List.prefix_append bad rest) hbegins
    · rw [hone]
      exact List.length_pos_iff.mpr h'.ne_nil
  exact List.append_inj heq (Nat.le_antisymm (hle h h' heq) (hle h' h heq.symm))

theorem Lossy.unique {bs : Bytes} {cs ds : List Char} (h : Lossy bs cs) (h' : Lossy bs ds) :
    cs = ds := by
  induction h generalizing ds with
  | nil =>
    generalize hbs : ([] : Bytes) = bs at h'
    cases h' with
    | nil => rfl
    | char c =>
      obtain ⟨b, bs, hc, -⟩ := encodeChar_eq_cons c
      rw [hc] at hbs
      cases hbs
    | malformed hbad => exact (hbad.ne_nil (List.append_eq_nil_iff.mp hbs.symm).1).elim
  | @char c rest cs _ ih =>
    generalize hbs : encodeChar c ++ rest = bs at h'
    cases h' with
    | nil =>
      obtain ⟨b, bs, hc, -⟩ := encodeChar_eq_cons c
      rw [hc] at hbs
      cases hbs
    | char c' h' =>
      obtain ⟨rfl, rfl⟩ := encodeChar_append_inj hbs
      rw [ih h']
    | malformed hbad => exact (hbad.not_char c (hbs ▸ List.prefix_append _ _)).elim
  | @malformed bad rest cs hbad _ ih =>
    generalize hbs : bad ++ rest = bs at h'
    cases h' with
    | nil => exact (hbad.ne_nil (List.append_eq_nil_iff.mp hbs).1).elim
    | char c' => exact (hbad.not_char c' (hbs ▸ List.prefix_append _ _)).elim
    | malformed hbad' h' =>
      obtain ⟨rfl, rfl⟩ := hbad.append_inj hbad' hbs
      rw [ih h']

/-! ### Within a sequence -/

/-- Whether the machine gets from between two characters to a state by reading some bytes. -/
structure Reached (p : Pending) (s : Bytes) : Prop where
  ne_nil : s ≠ []
  pieces_append : ∀ rest, pieces none (s ++ rest) = pieces (some p) rest
  owed_ne_zero : p.owed ≠ 0
  low_le_high : p.low ≤ p.high
  high_lt : p.high < 0x100

/-- What a first byte leaves to be read is within a range that some byte is in. -/
theorem range_of_lead {b : UInt8} {p : Pending} (h : lead b = .more p) :
    p.low ≤ p.high ∧ p.high < 0x100 := by
  unfold lead at h
  simp only at h
  repeat' split at h
  all_goals first
    | contradiction
    | (obtain rfl := Lead.more.inj h
       simp)

theorem reached_lead {b : UInt8} {p : Pending} (h : lead b = .more p) : Reached p [b] := by
  obtain ⟨hlow, hhigh⟩ := range_of_lead h
  have howed : p.owed ≠ 0 := by
    rcases lead_eq_more h with ⟨howed, -⟩ | ⟨howed, -⟩ | ⟨howed, -⟩ <;> rw [howed] <;> decide
  exact ⟨List.cons_ne_nil b [], fun rest => pieces_lead h, howed, hlow, hhigh⟩

theorem Reached.more {p : Pending} {s : Bytes} (h : Reached p s) {b : UInt8}
    (hrange : p.low ≤ b.toNat ∧ b.toNat ≤ p.high) (howed : p.owed ≠ 1) :
    Reached ⟨p.code * 0x40 + (b.toNat - 0x80), p.owed - 1, 0x80, 0xBF, p.taken + 1⟩ (s ++ [b]) := by
  have hzero := h.owed_ne_zero
  refine ⟨by simp, fun rest => ?_, by simp only; omega, by simp, by simp⟩
  rw [List.append_assoc, h.pieces_append, List.singleton_append, pieces, if_pos hrange,
    if_neg howed]

/-- Any sequence that has begun can be finished. -/
theorem exists_pieces_eq_char {p : Pending} (howed : p.owed ≠ 0) (hlow : p.low ≤ p.high)
    (hhigh : p.high < 0x100) : ∃ rest c, pieces (some p) rest = [.char c] := by
  obtain ⟨code, owed, low, high, taken⟩ := p
  induction owed generalizing code low high taken with
  | zero => exact (howed rfl).elim
  | succ owed ih =>
    obtain rfl | hpos := Nat.eq_zero_or_pos owed
    · refine ⟨[low.toUInt8], Char.ofNat (code * 0x40 + (low - 0x80)), ?_⟩
      rw [pieces_last rfl (Nat.le_refl low) hlow (Nat.lt_of_le_of_lt hlow hhigh)]
      rfl
    · obtain ⟨rest, c, hrest⟩ := ih (code * 0x40 + (low - 0x80)) 0x80 0xBF (taken + 1)
        (Nat.ne_of_gt hpos) (by simp) (by simp)
      refine ⟨low.toUInt8 :: rest, c, ?_⟩
      rw [pieces_more (by simp only; omega) (Nat.le_refl low) hlow (Nat.lt_of_le_of_lt hlow hhigh)]
      exact hrest

theorem Reached.begins {p : Pending} {s : Bytes} (h : Reached p s) : Begins s := by
  obtain ⟨rest, c, hrest⟩ := exists_pieces_eq_char h.owed_ne_zero h.low_le_high h.high_lt
  have hencode : s ++ rest = encode [c] :=
    eq_encode_of_chars ((h.pieces_append rest).trans hrest)
  rw [encode, List.flatMap_singleton] at hencode
  exact ⟨c, rest, hencode⟩

/-! ### What the machine finds -/

/-- Bytes are malformed if the machine finds no character at their place, whatever follows the next
byte. -/
theorem IsMalformed.of_pieces {bad rest : Bytes} (hne : bad ≠ [])
    (hbegins : Begins bad ∨ bad.length = 1) (h : ∀ rest', rest'.head? = rest.head? →
      ∀ c ps, pieces none (bad ++ rest') ≠ .char c :: ps) : IsMalformed bad rest := by
  refine ⟨hne, ?_, hbegins, ?_⟩
  · rintro c ⟨rest', hrest'⟩
    exact h rest rfl c _ (hrest' ▸ pieces_encodeChar c rest')
  · rintro run hrun ⟨c, hc⟩
    refine Classical.byContradiction fun hlong => ?_
    obtain ⟨more, rfl⟩ : bad <+: run :=
      List.prefix_of_prefix_length_le (List.prefix_append bad rest) hrun
        (Nat.le_of_lt (Nat.lt_of_not_le hlong))
    obtain ⟨after, hafter⟩ := hc
    obtain ⟨back, hback⟩ := hrun
    cases more with
    | nil => exact hlong (by simp)
    | cons b more =>
      rw [List.append_assoc] at hafter hback
      obtain rfl := List.append_cancel_left hback
      have hpieces := pieces_encodeChar c []
      rw [List.append_nil, ← hafter] at hpieces
      exact h (b :: more ++ after) rfl c _ hpieces

section
variable {p : Pending} {s rest : Bytes} {b : UInt8}

theorem Reached.isMalformed_nil (h : Reached p s) : IsMalformed s [] := by
  refine .of_pieces h.ne_nil (.inl h.begins) ?_
  intro rest hrest c ps hpieces
  obtain rfl : rest = [] := List.head?_eq_none_iff.mp hrest
  rw [h.pieces_append] at hpieces
  cases hpieces

theorem pieces_broken (hrange : ¬ (p.low ≤ b.toNat ∧ b.toNat ≤ p.high)) :
    pieces (some p) (b :: rest) = .broken p.taken :: pieces none (b :: rest) := by
  simp only [pieces, if_neg hrange]

theorem Reached.isMalformed_cons (h : Reached p s)
    (hrange : ¬ (p.low ≤ b.toNat ∧ b.toNat ≤ p.high)) : IsMalformed s (b :: rest) := by
  refine .of_pieces h.ne_nil (.inl h.begins) ?_
  intro rest' hrest c ps hpieces
  obtain ⟨rest', rfl⟩ := List.head?_eq_some_iff.mp hrest
  rw [h.pieces_append, pieces_broken hrange] at hpieces
  cases hpieces

theorem isMalformed_of_lead (h : lead b = .bad) : IsMalformed [b] rest := by
  refine .of_pieces (List.cons_ne_nil b []) (.inr rfl) ?_
  intro rest' _ c ps hpieces
  rw [List.singleton_append, pieces, h] at hpieces
  cases hpieces

/-- The byte that a sequence owes last makes it the one that its character is written as. -/
theorem Reached.exists_char (h : Reached p s) (hrange : p.low ≤ b.toNat ∧ b.toNat ≤ p.high)
    (howed : p.owed = 1) : ∃ c, s ++ [b] = encodeChar c ∧
      ∀ rest, pieces (some p) (b :: rest) = .char c :: pieces none rest := by
  have hread (rest : Bytes) : pieces (some p) (b :: rest) =
      .char (Char.ofNat (p.code * 0x40 + (b.toNat - 0x80))) :: pieces none rest := by
    rw [pieces, if_pos hrange, if_pos howed]
  have hencode : s ++ [b] = encode [Char.ofNat (p.code * 0x40 + (b.toNat - 0x80))] :=
    eq_encode_of_chars ((h.pieces_append [b]).trans (hread []))
  rw [encode, List.flatMap_singleton] at hencode
  exact ⟨_, hencode, hread⟩

end

/-- The machine reads bytes with a replacement for each malformed sequence, also from within one. -/
theorem lossy_pieces (bs : Bytes) : Lossy bs ((pieces none bs).map Piece.replace) ∧
    ∀ p s, Reached p s → Lossy (s ++ bs) ((pieces (some p) bs).map Piece.replace) := by
  induction bs with
  | nil => exact ⟨.nil, fun p s h => .malformed h.isMalformed_nil .nil⟩
  | cons b bs ih =>
    have hnone : Lossy (b :: bs) ((pieces none (b :: bs)).map Piece.replace) := by
      rw [pieces]
      cases hlead : lead b with
      | char c =>
        rw [← List.singleton_append, eq_encodeChar_of_lead hlead]
        exact .char c ih.1
      | more p => exact ih.2 p [b] (reached_lead hlead)
      | bad => exact .malformed (isMalformed_of_lead hlead) ih.1
    refine ⟨hnone, fun p s h => ?_⟩
    by_cases hrange : p.low ≤ b.toNat ∧ b.toNat ≤ p.high
    · by_cases howed : p.owed = 1
      · obtain ⟨c, hencode, hread⟩ := h.exists_char hrange howed
        rw [hread, List.append_cons, hencode]
        exact .char c ih.1
      · have hmore := ih.2 _ _ (h.more hrange howed)
        rw [List.append_assoc] at hmore
        rw [pieces, if_pos hrange, if_neg howed]
        exact hmore
    · rw [pieces_broken hrange]
      exact .malformed (h.isMalformed_cons hrange) hnone

/-- Bytes are read in one way with each malformed sequence replaced, and that is how they are read. -/
theorem lossy_iff {bs : Bytes} {cs : List Char} : Lossy bs cs ↔ cs = decodeLossy bs := by
  constructor
  · exact fun h => h.unique (lossy_pieces bs).1
  · rintro rfl
    exact (lossy_pieces bs).1

end StoreClient.Utf8
