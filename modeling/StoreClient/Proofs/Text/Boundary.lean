import StoreClient.Proofs.Text.Utf8

/-!
Where the bytes of a text can be cut, and how they compare. A byte that goes on with a character is
told from one that begins it (`encodeChar_eq_cons`), so bytes at either end of a text that spell a
text themselves are the ends of its characters (`exists_of_encode_eq_append`,
`exists_of_encode_append_eq`), and whether a text can be cut after some bytes is told by the bytes
on one side. UTF-8 also keeps the order of texts (`ofString_lt`).
-/

namespace StoreClient.Utf8

/-! ### The first byte of a character -/

/-- Whether a byte goes on with a character that another byte began. -/
def Continues (b : UInt8) : Prop := 0x80 ≤ b.toNat ∧ b.toNat < 0xC0

theorem continues_toUInt8 (n : Nat) : Continues (0x80 + n % 0x40).toUInt8 := by
  rw [Continues, toNat_toUInt8 (by omega)]
  omega

theorem not_continues_toUInt8 {n : Nat} (h : n < 0x80 ∨ 0xC0 ≤ n) (hn : n < 0x100) :
    ¬ Continues n.toUInt8 := by
  rw [Continues, toNat_toUInt8 hn]
  omega

theorem encodeChar_eq_cons (c : Char) : ∃ b bs, encodeChar c = b :: bs ∧ ¬ Continues b ∧
    ∀ b' ∈ bs, Continues b' := by
  have hc := code_bounds c
  rw [encodeChar]
  split
  · exact ⟨_, _, rfl, not_continues_toUInt8 (by omega) (by omega), List.forall_mem_nil _⟩
  split
  · refine ⟨_, _, rfl, not_continues_toUInt8 (by omega) (by omega), ?_⟩
    exact List.forall_mem_singleton.mpr (continues_toUInt8 _)
  split
  · refine ⟨_, _, rfl, not_continues_toUInt8 (by omega) (by omega), ?_⟩
    refine List.forall_mem_cons.mpr ⟨continues_toUInt8 _, ?_⟩
    exact List.forall_mem_singleton.mpr (continues_toUInt8 _)
  · refine ⟨_, _, rfl, not_continues_toUInt8 (by omega) (by omega), ?_⟩
    refine List.forall_mem_cons.mpr ⟨continues_toUInt8 _, ?_⟩
    refine List.forall_mem_cons.mpr ⟨continues_toUInt8 _, ?_⟩
    exact List.forall_mem_singleton.mpr (continues_toUInt8 _)

theorem encode_cons (c : Char) (cs : List Char) : encode (c :: cs) = encodeChar c ++ encode cs :=
  List.flatMap_cons

theorem size_cons_pos (c : Char) (cs : List Char) : 0 < size (c :: cs) := by
  obtain ⟨b, bs, hc, -⟩ := encodeChar_eq_cons c
  rw [size, encode_cons, hc]
  exact Nat.succ_pos _

/-- The first byte of a text begins a character. -/
theorem not_continues_of_encode {cs : List Char} {b : UInt8} {bs : Bytes}
    (h : encode cs = b :: bs) : ¬ Continues b := by
  cases cs with
  | nil => cases h
  | cons c cs =>
    obtain ⟨b', bs', hc, hb, -⟩ := encodeChar_eq_cons c
    rw [encode_cons, hc] at h
    exact (List.cons.inj h).1 ▸ hb

/-- The first character is read from the bytes of a text. -/
theorem decodeFirst_encode (c : Char) (cs : List Char) :
    decodeFirst (encode (c :: cs)) = some (c, encode cs) := by
  have hpieces := pieces_encode (c :: cs) []
  rw [List.append_nil, pieces, List.append_nil] at hpieces
  cases hbytes : encode (c :: cs) with
  | nil =>
    have hpos := size_cons_pos c cs
    rw [size, hbytes] at hpos
    exact (Nat.lt_irrefl 0 hpos).elim
  | cons b s =>
    rw [hbytes, pieces] at hpieces
    rw [decodeFirst]
    cases hlead : lead b with
    | char c' =>
      rw [hlead] at hpieces
      obtain ⟨hc, hs⟩ := List.cons.inj hpieces
      rw [Piece.char.inj hc, eq_encode_of_chars hs]
    | bad =>
      rw [hlead] at hpieces
      cases (List.cons.inj hpieces).1
    | more p =>
      rw [hlead] at hpieces
      obtain ⟨c', cs', rest, hcs, hfinish, hrest⟩ := finish_of_chars hpieces
      cases hcs
      rw [eq_encode_of_chars hrest] at hfinish
      exact hfinish

/-! ### Cutting -/

/-- Bytes in front of a text that spell a text are its first characters. -/
theorem exists_of_encode_eq_append {cs front : List Char} {rest : Bytes}
    (h : encode cs = encode front ++ rest) : ∃ back, cs = front ++ back ∧ rest = encode back := by
  have hpieces := pieces_encode cs []
  rw [List.append_nil, h, pieces_encode, pieces, List.append_nil] at hpieces
  obtain ⟨front', back, rfl, hfront, hback⟩ := List.map_eq_append_iff.mp hpieces.symm
  obtain rfl := (List.map_inj_right fun _ _ => Piece.char.inj).mp hfront
  exact ⟨back, rfl, eq_encode_of_chars hback.symm⟩

/-- Bytes at the end of a text that spell a text are its last characters. -/
theorem exists_of_encode_append_eq {cs back : List Char} {rest : Bytes}
    (h : encode cs = rest ++ encode back) : ∃ front, cs = front ++ back ∧ rest = encode front := by
  induction cs generalizing rest with
  | nil =>
    obtain ⟨rfl, hback⟩ := List.append_eq_nil_iff.mp h.symm
    exact ⟨[], encode_injective hback.symm, rfl⟩
  | cons c cs ih =>
    cases rest with
    | nil => exact ⟨[], encode_injective h, rfl⟩
    | cons b rest =>
      rw [encode_cons] at h
      obtain ⟨tail, hrest, htail⟩ | ⟨tail, hc, htail⟩ := List.append_eq_append_iff.mp h
      · obtain ⟨front, rfl, rfl⟩ := ih htail
        refine ⟨c :: front, rfl, ?_⟩
        rw [hrest, encode_cons]
      · cases tail with
        | nil =>
          refine ⟨[c], ?_, ?_⟩
          · rw [encode_injective htail]
            rfl
          · rw [List.append_nil] at hc
            rw [← hc, encode_cons]
            exact (List.append_nil _).symm
        | cons b' tail =>
          -- the character would be cut before a byte that goes on with it
          obtain ⟨b'', bs, hbytes, -, hbs⟩ := encodeChar_eq_cons c
          rw [hbytes] at hc
          have hcontinues : Continues b' := hbs b' (by simp [(List.cons.inj hc).2])
          exact (not_continues_of_encode htail hcontinues).elim

theorem size_cons (c : Char) (cs : List Char) :
    size (c :: cs) = (encodeChar c).length + size cs := by
  rw [size, encode_cons, List.length_append, size]

theorem length_le_size (cs : List Char) : cs.length ≤ size cs := by
  induction cs with
  | nil => exact Nat.le_refl 0
  | cons c cs ih =>
    obtain ⟨b, bs, hc, -⟩ := encodeChar_eq_cons c
    rw [size_cons, hc, List.length_cons, List.length_cons]
    omega

theorem splitBytes?_append (front back : List Char) :
    splitBytes? (size front) (front ++ back) = some (front, back) := by
  induction front with
  | nil =>
    rw [List.nil_append, show size [] = 0 from rfl, splitBytes?]
  | cons c front ih =>
    have hpos := size_cons_pos c front
    obtain ⟨n, hn⟩ := Nat.exists_eq_succ_of_ne_zero (Nat.ne_of_gt hpos)
    have hsize := size_cons c front
    rw [hn, Nat.succ_eq_add_one] at hsize
    rw [hn, List.cons_append, splitBytes?, if_pos (by omega), hsize, Nat.add_sub_cancel_left, ih]
    rfl

theorem eq_append_of_splitBytes? {n : Nat} {cs front back : List Char}
    (h : splitBytes? n cs = some (front, back)) : cs = front ++ back ∧ size front = n := by
  induction cs generalizing n front with
  | nil =>
    cases n with
    | zero =>
      cases h
      exact ⟨rfl, rfl⟩
    | succ n => cases h
  | cons c cs ih =>
    cases n with
    | zero =>
      rw [splitBytes?] at h
      cases h
      exact ⟨rfl, rfl⟩
    | succ n =>
      rw [splitBytes?] at h
      split at h
      · next hle =>
        obtain ⟨⟨front', back'⟩, hsplit, hpair⟩ := Option.map_eq_some_iff.mp h
        obtain ⟨rfl, rfl⟩ := Prod.mk.inj hpair
        obtain ⟨rfl, hfront⟩ := ih hsplit
        refine ⟨rfl, ?_⟩
        rw [size_cons, hfront]
        omega
      · cases h

/-- A text is split after some bytes exactly where they are the bytes of its first characters. -/
theorem splitBytes?_eq_some_iff {n : Nat} {cs front back : List Char} :
    splitBytes? n cs = some (front, back) ↔ cs = front ++ back ∧ size front = n := by
  refine ⟨eq_append_of_splitBytes?, ?_⟩
  rintro ⟨rfl, rfl⟩
  exact splitBytes?_append front back

/-! ### Order -/

theorem toUInt8_cons_lt_iff {a b : Nat} {s t : Bytes} (ha : a < 0x100) (hb : b < 0x100) :
    a.toUInt8 :: s < b.toUInt8 :: t ↔ a < b ∨ a = b ∧ s < t := by
  rw [List.cons_lt_cons_iff, UInt8.lt_iff_toNat_lt, ← UInt8.toNat_inj, toNat_toUInt8 ha,
    toNat_toUInt8 hb]

/-- The first byte tells how long a sequence is, and longer ones have greater first bytes; among
those of one length the digits of the numbers decide. -/
theorem encodeChar_append_lt {c d : Char} (h : c < d) (s t : Bytes) :
    encodeChar c ++ s < encodeChar d ++ t := by
  have hlt : c.toNat < d.toNat := UInt32.lt_iff_toNat_lt.mp h
  have hc := code_bounds c
  have hd := code_bounds d
  simp only [encodeChar]
  repeat' split
  all_goals
    simp (disch := omega) only [List.cons_append, List.nil_append, toUInt8_cons_lt_iff]
    omega

theorem encode_lt {cs ds : List Char} (h : cs < ds) : encode cs < encode ds := by
  induction h with
  | @nil d ds =>
    obtain ⟨b, bs, hd, -⟩ := encodeChar_eq_cons d
    rw [encode_cons, hd]
    exact .nil
  | @cons c cs ds _ ih =>
    rw [encode_cons, encode_cons]
    exact List.append_left_lt ih
  | @rel c cs d ds h =>
    rw [encode_cons, encode_cons]
    exact encodeChar_append_lt h _ _

theorem ofString_lt {s t : String} (h : s < t) : ofString s < ofString t := encode_lt h

end StoreClient.Utf8
