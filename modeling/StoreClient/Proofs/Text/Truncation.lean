import StoreClient.Proofs.Text.Boundary

/-!
Texts cut to a number of bytes. Going back from a place byte by byte always meets a boundary, at the
start of the text if not before, and never has to go on from there (`backsTo_floorBoundary`). What
is in front of that boundary is the longest run of whole characters that fits
(`takeBytes_floorBoundary`), and as no character has more than four bytes, it falls short of the
limit by three at most.
-/

namespace StoreClient.Utf8

/-! ### Boundaries -/

theorem isBoundary_size (front back : List Char) : isBoundary (front ++ back) (size front) := by
  have hbyte : (encode (front ++ back))[size front]? = (encode back)[0]? := by
    rw [encode_append, size, List.getElem?_append_right (Nat.le_refl _), Nat.sub_self]
  rw [isBoundary, hbyte]
  cases hback : encode back with
  | nil =>
    obtain rfl : back = [] := encode_injective hback
    simp
  | cons b bs =>
    have hb := not_continues_of_encode hback
    simp only [List.getElem?_cons_zero, Bool.or_eq_true, decide_eq_true_eq]
    rw [Continues] at hb
    omega

theorem exists_of_isBoundary {cs : List Char} {n : Nat} (h : isBoundary cs n) :
    ∃ front back, cs = front ++ back ∧ size front = n := by
  induction cs generalizing n with
  | nil =>
    have hn : n = 0 := by simpa [isBoundary, encode, size] using h
    exact ⟨[], [], rfl, hn.symm⟩
  | cons c cs ih =>
    obtain rfl | hpos := Nat.eq_zero_or_pos n
    · exact ⟨[], c :: cs, rfl, rfl⟩
    by_cases hn : n < (encodeChar c).length
    · -- the place is within a character, whose bytes behind the first go on with it
      obtain ⟨b, bs, hc, -, hbs⟩ := encodeChar_eq_cons c
      obtain ⟨m, rfl⟩ := Nat.exists_eq_succ_of_ne_zero (Nat.ne_of_gt hpos)
      rw [hc, List.length_cons] at hn
      have hm : m < bs.length := by omega
      have hbyte : (encode (c :: cs))[m + 1]? = some bs[m] := by
        rw [encode_cons, hc, List.cons_append, List.getElem?_cons_succ,
          List.getElem?_append_left hm, List.getElem?_eq_getElem hm]
      have hcontinues := hbs bs[m] (List.getElem_mem hm)
      rw [isBoundary, hbyte] at h
      simp only [Bool.or_eq_true, decide_eq_true_eq] at h
      rw [Continues] at hcontinues
      omega
    · have hrest : isBoundary cs (n - (encodeChar c).length) := by
        rw [isBoundary, encode_cons, List.getElem?_append_right (Nat.le_of_not_lt hn),
          size_cons] at h
        rw [isBoundary]
        split at h
        · next b hb =>
          rw [hb]
          exact h
        · next hnone =>
          rw [hnone]
          simp only [decide_eq_true_eq] at h ⊢
          omega
      obtain ⟨front, back, rfl, hsize⟩ := ih hrest
      refine ⟨c :: front, back, rfl, ?_⟩
      rw [size_cons, hsize]
      omega

/-- A text can be cut exactly behind some of its characters. -/
theorem isBoundary_iff {cs : List Char} {n : Nat} :
    isBoundary cs n ↔ ∃ front, front <+: cs ∧ size front = n := by
  constructor
  · intro h
    obtain ⟨front, back, rfl, hsize⟩ := exists_of_isBoundary h
    exact ⟨front, List.prefix_append front back, hsize⟩
  · rintro ⟨front, ⟨back, rfl⟩, rfl⟩
    exact isBoundary_size front back

/-! ### Prefixes that fit -/

theorem size_append (front back : List Char) : size (front ++ back) = size front + size back := by
  rw [size, encode_append, List.length_append, size, size]

theorem takeBytes_isPrefix (limit : Nat) (cs : List Char) : takeBytes limit cs <+: cs := by
  induction cs generalizing limit with
  | nil => exact List.nil_prefix
  | cons c cs ih =>
    rw [takeBytes]
    split
    · exact (List.prefix_cons_inj c).mpr (ih _)
    · exact List.nil_prefix

theorem size_takeBytes_le (limit : Nat) (cs : List Char) : size (takeBytes limit cs) ≤ limit := by
  induction cs generalizing limit with
  | nil => exact Nat.zero_le limit
  | cons c cs ih =>
    rw [takeBytes]
    split
    · next hfits =>
      have hrest := ih (limit - (encodeChar c).length)
      rw [size_cons]
      omega
    · exact Nat.zero_le limit

/-- Whatever fits is in front of what is taken. -/
theorem prefix_takeBytes {front cs : List Char} {limit : Nat} (h : front <+: cs)
    (hfits : size front ≤ limit) : front <+: takeBytes limit cs := by
  induction front generalizing cs limit with
  | nil => exact List.nil_prefix
  | cons c front ih =>
    obtain ⟨back, rfl⟩ := h
    rw [size_cons] at hfits
    rw [List.cons_append, takeBytes, if_pos (by omega)]
    exact (List.prefix_cons_inj c).mpr (ih (List.prefix_append front back) (by omega))

theorem length_encodeChar_le (c : Char) : (encodeChar c).length ≤ 4 := by
  rw [encodeChar]
  repeat' split
  all_goals simp

/-- What is taken of a longer text falls short of the limit by less than a character. -/
theorem limit_le_size_takeBytes {cs : List Char} {limit : Nat} (h : limit < size cs) :
    limit ≤ size (takeBytes limit cs) + 3 := by
  induction cs generalizing limit with
  | nil => exact (Nat.not_lt_zero limit h).elim
  | cons c cs ih =>
    rw [size_cons] at h
    rw [takeBytes]
    split
    · next hfits =>
      have hrest : limit - (encodeChar c).length ≤
          size (takeBytes (limit - (encodeChar c).length) cs) + 3 := ih (by omega)
      rw [size_cons]
      omega
    · have hc := length_encodeChar_le c
      omega

theorem takeBytes_size {front cs : List Char} (h : front <+: cs) :
    takeBytes (size front) cs = front := by
  obtain ⟨rest, hrest⟩ := prefix_takeBytes h (Nat.le_refl _)
  have hsize := size_takeBytes_le (size front) cs
  rw [← hrest, size_append] at hsize
  cases rest with
  | nil => rw [← hrest, List.append_nil]
  | cons c rest =>
    have hpos := size_cons_pos c rest
    omega

/-! ### Going back -/

/-- Whether going back byte by byte from a place stops at a boundary. From the start of a text there
is no way back. -/
inductive BacksTo (cs : List Char) : Nat → Nat → Prop where
  | stop {n : Nat} (h : isBoundary cs n) : BacksTo cs n n
  | back {n m : Nat} (h : isBoundary cs (n + 1) = false) (hback : BacksTo cs n m) :
      BacksTo cs (n + 1) m

section
variable {cs : List Char} {n m : Nat}

theorem backsTo_floorBoundary (cs : List Char) (n : Nat) : BacksTo cs n (floorBoundary cs n) := by
  induction n with
  | zero => exact .stop (isBoundary_iff.mpr ⟨[], List.nil_prefix, rfl⟩)
  | succ n ih =>
    rw [floorBoundary]
    split
    · next h => exact .stop h
    · next h => exact .back (Bool.eq_false_iff.mpr h) ih

theorem BacksTo.isBoundary (h : BacksTo cs n m) : isBoundary cs m := by
  induction h with
  | stop h => exact h
  | back _ _ ih => exact ih

/-- Every boundary up to the place is met. -/
theorem BacksTo.le_of_isBoundary (h : BacksTo cs n m) {k : Nat} (hk : k ≤ n)
    (hboundary : Utf8.isBoundary cs k) : k ≤ m := by
  induction h with
  | stop _ => exact hk
  | @back n _ h _ ih =>
    refine ih (Nat.le_of_lt_succ (Nat.lt_of_le_of_ne hk ?_))
    rintro rfl
    rw [h] at hboundary
    cases hboundary

theorem BacksTo.le (h : BacksTo cs n m) : m ≤ n := by
  induction h with
  | stop _ => exact Nat.le_refl _
  | back _ _ ih => exact Nat.le_succ_of_le ih

theorem BacksTo.eq_size_takeBytes (h : BacksTo cs n m) : m = size (takeBytes n cs) := by
  obtain ⟨front, hfront, rfl⟩ := isBoundary_iff.mp h.isBoundary
  obtain ⟨rest, hrest⟩ := prefix_takeBytes hfront h.le
  have hle : size (takeBytes n cs) ≤ size front :=
    h.le_of_isBoundary (size_takeBytes_le n cs)
      (isBoundary_iff.mpr ⟨_, takeBytes_isPrefix n cs, rfl⟩)
  rw [← hrest, size_append] at hle ⊢
  omega

/-- In front of the last boundary is the longest run of characters that fits. -/
theorem takeBytes_floorBoundary (cs : List Char) (n : Nat) :
    takeBytes (floorBoundary cs n) cs = takeBytes n cs := by
  rw [(backsTo_floorBoundary cs n).eq_size_takeBytes]
  exact takeBytes_size (takeBytes_isPrefix n cs)

end

end StoreClient.Utf8
