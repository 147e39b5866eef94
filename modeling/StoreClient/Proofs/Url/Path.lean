import StoreClient.Url.Basic
import StoreClient.Proofs.Text.Ascii
import StoreClient.Proofs.Text.Percent

/-!
Which path is read. A path whose segments hold no slash is cut into these segments again
(`segments_render`); those that spell no dots stay where they are (`resolve_append_of_plain`). A
percent-encoded segment spells dots exactly if the text it encodes does (`isSingleDot_encode_iff`,
`isDoubleDot_encode_iff`), since the escapes of dots count as dots.
-/

namespace StoreClient.Url

/-! ### Cutting -/

theorem splitAtChar_append {mark : Char} {cs : List Char} (hcs : ∀ c ∈ cs, c ≠ mark)
    (rest : List Char) : splitAtChar mark (cs ++ mark :: rest) = cs :: splitAtChar mark rest := by
  induction cs with
  | nil => rw [List.nil_append, splitAtChar, if_pos rfl]
  | cons c cs ih =>
    obtain ⟨hc, hcs⟩ := List.forall_mem_cons.mp hcs
    rw [List.cons_append, splitAtChar, if_neg hc, ih hcs]

theorem splitAtChar_of_forall {mark : Char} {cs : List Char} (hcs : ∀ c ∈ cs, c ≠ mark) :
    splitAtChar mark cs = [cs] := by
  induction cs with
  | nil => rfl
  | cons c cs ih =>
    obtain ⟨hc, hcs⟩ := List.forall_mem_cons.mp hcs
    rw [splitAtChar, if_neg hc, ih hcs]

namespace Path

theorem render_cons (s : List Char) (ss : List (List Char)) :
    render (s :: ss) = '/' :: s ++ render ss :=
  List.flatMap_cons

/-- A path is read back from its text, after the empty text before the first slash. -/
theorem splitAtChar_render {front : List Char} {ss : List (List Char)}
    (hss : ∀ s ∈ front :: ss, ∀ c ∈ s, c ≠ '/') :
    splitAtChar '/' (front ++ render ss) = front :: ss := by
  induction ss generalizing front with
  | nil =>
    rw [render, List.flatMap_nil, List.append_nil]
    exact splitAtChar_of_forall (hss front List.mem_cons_self)
  | cons s ss ih =>
    obtain ⟨hfront, hss⟩ := List.forall_mem_cons.mp hss
    rw [render_cons, List.cons_append, splitAtChar_append hfront, ih hss]

/-- Where nothing but a slash ends a segment, the segments lie between slashes. -/
theorem segments_eq_splitAtChar {special : Bool} {cs : List Char}
    (hcs : ∀ c ∈ cs, isSlash special c → c = '/') : segments special cs = splitAtChar '/' cs := by
  induction cs with
  | nil => rfl
  | cons c cs ih =>
    obtain ⟨hc, hcs⟩ := List.forall_mem_cons.mp hcs
    have hslash : isSlash special c ↔ c = '/' := by
      refine ⟨hc, ?_⟩
      rintro rfl
      rfl
    rw [segments, splitAtChar, ih hcs]
    exact ite_congr (propext hslash) (fun _ => rfl) (fun _ => rfl)

theorem segments_render {special : Bool} {s : List Char} {ss : List (List Char)}
    (hss : ∀ t ∈ s :: ss, ∀ c ∈ t, isSlash special c = false) :
    segments special (s ++ render ss) = s :: ss := by
  have hmarks : ∀ t ∈ s :: ss, ∀ c ∈ t, c ≠ '/' := by
    rintro t ht c hc rfl
    cases hss t ht _ hc
  have hslash : ∀ c ∈ s ++ render ss, isSlash special c → c = '/' := by
    intro c hc hends
    rcases List.mem_append.mp hc with hc | hc
    · rw [hss s List.mem_cons_self c hc] at hends
      cases hends
    · obtain ⟨t, ht, hc⟩ := List.mem_flatMap.mp hc
      rcases List.mem_cons.mp hc with rfl | hc
      · rfl
      · rw [hss t (List.mem_cons_of_mem s ht) c hc] at hends
        cases hends
  rw [segments_eq_splitAtChar hslash]
  exact splitAtChar_render hmarks

/-! ### Dots -/

/-- A segment that spells neither one dot nor two. -/
def IsPlain (s : List Char) : Prop := isSingleDot s = false ∧ isDoubleDot s = false

theorem resolve_cons_of_plain {s : List Char} (hs : IsPlain s) (done rest : List (List Char)) :
    resolve done (s :: rest) = resolve (s :: done) rest := by
  cases rest with
  | nil =>
    simp only [resolve, hs.1, hs.2, Bool.false_eq_true, if_false]
  | cons t rest =>
    rw [resolve, hs.1, hs.2]
    · rfl
    · exact fun h => nomatch h

theorem resolve_append_of_plain {ss : List (List Char)} (hss : ∀ s ∈ ss, IsPlain s)
    (done rest : List (List Char)) :
    resolve done (ss ++ rest) = resolve (ss.reverse ++ done) rest := by
  induction ss generalizing done with
  | nil => rfl
  | cons s ss ih =>
    obtain ⟨hs, hss⟩ := List.forall_mem_cons.mp hss
    rw [List.cons_append, resolve_cons_of_plain hs, ih hss, List.reverse_cons, List.append_assoc]
    rfl

theorem isSingleDot_iff {s : List Char} : isSingleDot s = true ↔
    s.map Char.toLower = ['.'] ∨ s.map Char.toLower = ['%', '2', 'e'] := by
  rw [isSingleDot]
  split <;> simp_all

theorem isDoubleDot_iff {s : List Char} : isDoubleDot s = true ↔
    s.map Char.toLower = ['.', '.'] ∨ s.map Char.toLower = ['.', '%', '2', 'e'] ∨
    s.map Char.toLower = ['%', '2', 'e', '.'] ∨
    s.map Char.toLower = ['%', '2', 'e', '%', '2', 'e'] := by
  rw [isDoubleDot]
  split <;> simp_all

/-- Dots are spelled with points and percent signs. -/
theorem isPlain_of_forall {s : List Char} (hs : ∀ c ∈ s, c ≠ '.' ∧ c ≠ '%') : IsPlain s := by
  have hhead : ∀ d ds, d = '.' ∨ d = '%' → s.map Char.toLower ≠ d :: ds := by
    intro d ds hd h
    obtain ⟨c, tail, rfl, hc, -⟩ := List.map_eq_cons_iff.mp h
    obtain ⟨hpoint, hpercent⟩ := hs c List.mem_cons_self
    rcases hd with rfl | rfl
    · exact hpoint (eq_of_toLower_eq hc (by decide))
    · exact hpercent (eq_of_toLower_eq hc (by decide))
  constructor
  · apply Bool.eq_false_iff.mpr
    intro h
    rcases isSingleDot_iff.mp h with h | h
    · exact hhead _ _ (.inl rfl) h
    · exact hhead _ _ (.inr rfl) h
  · apply Bool.eq_false_iff.mpr
    intro h
    rcases isDoubleDot_iff.mp h with h | h | h | h
    · exact hhead _ _ (.inl rfl) h
    · exact hhead _ _ (.inl rfl) h
    · exact hhead _ _ (.inr rfl) h
    · exact hhead _ _ (.inr rfl) h

/-- Nothing but a point is a point in lower case. -/
theorem point_not_mem_map_toLower {s : List Char} (h : ∀ c ∈ s, c ≠ '.') :
    '.' ∉ s.map Char.toLower := by
  intro hmem
  obtain ⟨c, hc, hpoint⟩ := List.mem_map.mp hmem
  exact h c hc (eq_of_toLower_eq hpoint (by decide))

theorem digitValue?_of_toLower {c : Char} (h : c.toLower = 'e') :
    Percent.digitValue? c = some 14 := by
  have hn := toNat_toLower c
  rw [h] at hn
  have hc : c = 'e' ∨ c = 'E' := by
    split at hn
    · exact .inr (Char.toNat_inj.mp (Nat.add_right_cancel hn.symm))
    · exact .inl (Char.toNat_inj.mp hn.symm)
  rcases hc with rfl | rfl <;> decide

/-- The escape of a point stands for it in either case. -/
theorem decode_of_map_toLower {s ds : List Char}
    (h : s.map Char.toLower = '%' :: '2' :: 'e' :: ds) :
    ∃ tail, tail.map Char.toLower = ds ∧ Percent.decode s = 0x2E :: Percent.decode tail := by
  obtain ⟨a, s₁, rfl, ha, h₁⟩ := List.map_eq_cons_iff.mp h
  obtain ⟨b, s₂, rfl, hb, h₂⟩ := List.map_eq_cons_iff.mp h₁
  obtain ⟨c, s₃, rfl, hc, h₃⟩ := List.map_eq_cons_iff.mp h₂
  cases eq_of_toLower_eq ha (by decide)
  cases eq_of_toLower_eq hb (by decide)
  refine ⟨s₃, h₃, ?_⟩
  rw [Percent.decode, digitValue?_of_toLower hc]
  rfl

section
variable {cs : List Char}

/-- An encoded text that keeps letters and digits only holds no point. -/
theorem point_not_mem_encode : '.' ∉ (Percent.encode Char.isAlphanum cs).map Char.toLower := by
  apply point_not_mem_map_toLower
  intro c hc
  rintro rfl
  rcases Percent.of_mem_encode hc with h | h | h <;> cases h

theorem eq_of_decode_eq {ds : List Char}
    (h : Percent.decode (Percent.encode Char.isAlphanum cs) = Utf8.encode ds) : cs = ds :=
  Utf8.encode_injective ((Percent.decode_encode rfl cs).symm.trans h)

theorem isSingleDot_encode_iff : isSingleDot (Percent.encode Char.isAlphanum cs) ↔ cs = ['.'] := by
  constructor
  · intro h
    rcases isSingleDot_iff.mp h with h | h
    · exact (point_not_mem_encode (h ▸ List.mem_cons_self)).elim
    · obtain ⟨tail, htail, hdecode⟩ := decode_of_map_toLower h
      rw [List.map_eq_nil_iff.mp htail] at hdecode
      exact eq_of_decode_eq hdecode
  · rintro rfl
    decide

theorem isDoubleDot_encode_iff :
    isDoubleDot (Percent.encode Char.isAlphanum cs) ↔ cs = ['.', '.'] := by
  constructor
  · intro h
    have hpoint := @point_not_mem_encode cs
    rcases isDoubleDot_iff.mp h with h | h | h | h
    · rw [h] at hpoint
      exact (hpoint (by decide)).elim
    · rw [h] at hpoint
      exact (hpoint (by decide)).elim
    · rw [h] at hpoint
      exact (hpoint (by decide)).elim
    · obtain ⟨tail, htail, hdecode⟩ := decode_of_map_toLower h
      obtain ⟨tail', htail', hdecode'⟩ := decode_of_map_toLower htail
      rw [hdecode', List.map_eq_nil_iff.mp htail'] at hdecode
      exact eq_of_decode_eq hdecode
  · rintro rfl
    decide

end

end Path

/-! ### Whole paths -/

/-- A path is read as its segments, but for their dots. -/
theorem parsePath_render {special : Bool} {ss : List (List Char)} (hne : ss ≠ [])
    (hss : ∀ s ∈ ss, ∀ c ∈ s, Path.isSlash special c = false ∧ Path.isSafe c) :
    parsePath special (Path.render ss) = Path.resolve [] ss := by
  cases ss with
  | nil => exact (hne rfl).elim
  | cons s ss =>
    have hsegments := Path.segments_render fun t ht c hc => (hss t ht c hc).1
    have hencode : (s :: ss).map (Percent.encode Path.isSafe) = s :: ss := by
      rw [List.map_congr_left fun t ht => Percent.encode_of_forall fun c hc => (hss t ht c hc).2]
      exact List.map_id _
    have hslash : Path.isSlash special '/' := rfl
    rw [Path.render_cons, List.cons_append, parsePath, if_pos hslash, Path.parse, hsegments,
      hencode]

end StoreClient.Url
