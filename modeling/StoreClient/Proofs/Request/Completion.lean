import StoreClient.Proofs.Request.Replacing

/-!
Placeholders that only come about when values are filled in. Braces around other placeholders are
none themselves, but may become one once the values stand in them (`Completes`). Filling in one
value first does not bring such braces about: what they then hold was there before, the values of
the placeholders within aside, or these were completed placeholders already
(`Completes.of_replaceAll`).
-/

namespace StoreClient.PathTemplate

variable {σ τ : String → Option (List Char)} {ps : List Piece} {name : String} {value : List Char}

/-! ### Substitution in some of the names -/

theorem substitute_congr (h : ∀ n ∈ names ps, σ n = τ n) : substitute σ ps = substitute τ ps := by
  apply List.flatMap_congr
  intro p hp
  cases p with
  | char c => rfl
  | slot n => rw [Piece.substitute, Piece.substitute, h n (mem_names.mpr hp)]

theorem substitute_of_eq_none (h : ∀ n ∈ names ps, σ n = none) : substitute σ ps = ps :=
  (substitute_congr h).trans (substitute_none ps)

theorem substitute_of_names_eq_nil (h : names ps = []) : substitute σ ps = ps :=
  substitute_of_eq_none (by simp [h])

theorem mem_names_substitute {n : String} :
    n ∈ names (substitute σ ps) ↔ n ∈ names ps ∧ σ n = none := by
  rw [mem_names, mem_names, substitute, List.mem_flatMap]
  constructor
  · rintro ⟨p, hp, h⟩
    cases p with
    | char c => cases List.mem_singleton.mp h
    | slot m =>
      rw [Piece.substitute] at h
      split at h
      · simp at h
      · next hnone =>
        cases List.mem_singleton.mp h
        exact ⟨hp, hnone⟩
  · rintro ⟨hp, hnone⟩
    refine ⟨.slot n, hp, ?_⟩
    rw [Piece.substitute, hnone]
    exact List.mem_singleton_self _

theorem mem_render_substitute_of_char {c : Char} (h : .char c ∈ ps) :
    c ∈ render (substitute σ ps) := by
  refine List.mem_flatMap.mpr ⟨.char c, List.mem_flatMap.mpr ⟨.char c, h, ?_⟩, ?_⟩
  all_goals exact List.mem_singleton_self _

/-! ### Completed placeholders -/

/-- Whether some pieces become a name once the values of their placeholders are filled in. -/
structure Spells (σ : String → Option (List Char)) (ps : List Piece) (name : String) : Prop where
  valid : ∀ p ∈ ps, p.Valid
  slots : names ps ≠ []
  bound : ∀ n ∈ names ps, n ≠ name ∧ (σ n).isSome
  spelled : render (substitute σ ps) = name.toList

/-- Whether somewhere in a text a name is spelled between braces. -/
def Encloses (σ : String → Option (List Char)) (text : List Char) (name : String) : Prop :=
  ∃ front ps rest, text = front ++ braced (render ps) ++ rest ∧ Spells σ ps name

/-- Whether values of other names complete the placeholder of a name that has a value itself. -/
def Completes (σ : String → Option (List Char)) (text : List Char) (name : String) : Prop :=
  (σ name).isSome ∧ Encloses σ text name

section
variable {text : List Char}

theorem Spells.mono (h : Spells σ ps name) (hστ : ∀ n, (σ n).isSome → τ n = σ n) :
    Spells τ ps name where
  valid := h.valid
  slots := h.slots
  bound n hn := ⟨(h.bound n hn).1, hστ n (h.bound n hn).2 ▸ (h.bound n hn).2⟩
  spelled := by
    rw [← h.spelled, substitute_congr fun n hn => hστ n (h.bound n hn).2]

/-- A name that is spelled is made of the values that spell it. -/
theorem Spells.subset (h : Spells σ ps name) {n : String} (hn : n ∈ names ps) {cs : List Char}
    (hcs : σ n = some cs) : cs ⊆ name.toList := by
  intro c hc
  rw [← h.spelled]
  refine List.mem_flatMap.mpr ⟨.char c, ?_, List.mem_singleton_self _⟩
  refine List.mem_flatMap.mpr ⟨.slot n, mem_names.mp hn, ?_⟩
  rw [Piece.substitute, hcs]
  exact List.mem_map_of_mem hc

theorem Encloses.mono (h : Encloses σ text name) (hστ : ∀ n, (σ n).isSome → τ n = σ n) :
    Encloses τ text name := by
  obtain ⟨front, ps, rest, htext, hps⟩ := h
  exact ⟨front, ps, rest, htext, hps.mono hστ⟩

theorem Encloses.append (h : Encloses σ text name) (before after : List Char) :
    Encloses σ (before ++ text ++ after) name := by
  obtain ⟨front, ps, rest, rfl, hps⟩ := h
  exact ⟨before ++ front, ps, rest ++ after, by simp, hps⟩

end

/-! ### Before a value is filled in -/

theorem eq_char_of_render {c : Char} {rest : List Char} (hc : c ≠ '\x7b')
    (h : c :: rest = render ps) : ∃ ps', ps = .char c :: ps' ∧ rest = render ps' := by
  cases ps with
  | nil => cases h
  | cons p ps =>
    cases p with
    | char d =>
      obtain ⟨rfl, hrest⟩ := List.cons.inj h
      exact ⟨ps, rfl, hrest⟩
    | slot n => exact (hc (List.cons.inj h).1).elim

theorem eq_slot_of_render {rest : List Char} (hps : ∀ p ∈ ps, p.Valid)
    (h : '\x7b' :: rest = render ps) :
    ∃ n ps', ps = .slot n :: ps' ∧ rest = n.toList ++ '\x7d' :: render ps' := by
  cases ps with
  | nil => cases h
  | cons p ps =>
    cases p with
    | char d => exact ((hps _ List.mem_cons_self).1 (List.cons.inj h).1.symm).elim
    | slot n =>
      refine ⟨n, ps, rfl, ?_⟩
      rw [render_cons] at h
      have h : '\x7b' :: rest = braced n.toList ++ render ps := h
      rw [braced_append] at h
      exact (List.cons.inj h).2

theorem eq_map_char_of_render {cs rest : List Char} (hcs : Braceless cs)
    (h : cs ++ rest = render ps) : ∃ ps', ps = cs.map .char ++ ps' ∧ rest = render ps' := by
  induction cs generalizing ps with
  | nil => exact ⟨ps, rfl, h⟩
  | cons c cs ih =>
    obtain ⟨hc, hcs⟩ := List.forall_mem_cons.mp hcs
    obtain ⟨ps, rfl, htail⟩ := eq_char_of_render hc.1 h
    obtain ⟨ps', rfl, hrest⟩ := ih hcs htail
    exact ⟨ps', rfl, hrest⟩

/-- What became a word has no brace but those of its placeholders. -/
theorem valid_of_render_substitute (hname : (Piece.slot name).Valid)
    (hps : ∀ n ∈ names ps, n = name)
    (h : Braceless (render (substitute (only name value) ps))) : ∀ p ∈ ps, p.Valid := by
  intro p hp
  cases p with
  | char c => exact h c (mem_render_substitute_of_char hp)
  | slot n =>
    cases hps n (mem_names.mpr hp)
    exact hname

/-- Where another name ends at a brace once a value is filled in, the name was there before, or else
the value completes it. -/
theorem exists_of_render_substitute_close (hname : (Piece.slot name).Valid)
    (hvalue : Braceless value) {qs : List Piece} (hqs : ∀ m ∈ names qs, m = name) {n : String}
    (hn : Braceless n.toList) (hne : name ≠ n) {rest : List Char}
    (h : render (substitute (only name value) qs) = n.toList ++ '\x7d' :: rest) :
    ∃ ps qs', '\x7b' :: render qs = braced (render ps) ++ render qs' ∧ qs'.length < qs.length ∧
      (∀ m ∈ names qs', m = name) ∧ render (substitute (only name value) qs') = rest ∧
      (render ps = n.toList ∨ Spells (only name value) ps n) := by
  obtain ⟨ps, qs', rfl, hword, hrest⟩ :=
    eq_append_of_render_substitute hqs hvalue.close_not_mem h
  rw [names_append] at hqs
  obtain ⟨hps, hqs'⟩ : (∀ m ∈ names ps, m = name) ∧ ∀ m ∈ names qs', m = name :=
    List.forall_mem_append.mp hqs
  refine ⟨ps, qs', open_render_close ps qs', by simp; omega, hqs', hrest, ?_⟩
  by_cases hnames : names ps = []
  · rw [substitute_of_names_eq_nil hnames] at hword
    exact .inl hword
  · refine .inr ⟨valid_of_render_substitute hname hps (hword ▸ hn), hnames, ?_, hword⟩
    intro m hm
    cases hps m hm
    exact ⟨hne, by simp [only]⟩

/-- Whether some pieces are what a text becomes when a value is filled in, or have a placeholder
that the value completes. -/
def Arises (name : String) (value text : List Char) (ps : List Piece) : Prop :=
  (∃ ps', (∀ p ∈ ps', p.Valid) ∧ render ps' = text ∧ substitute (only name value) ps' = ps) ∨
    ∃ n ∈ names ps, Encloses (only name value) text n

theorem Arises.cons {text : List Char} {p : Piece} (hp : p.Valid)
    (h : Arises name value text ps) :
    Arises name value (p.render ++ text) (p.substitute (only name value) ++ ps) := by
  obtain ⟨ps', hvalid, rfl, rfl⟩ | ⟨n, hn, h⟩ := h
  · exact .inl ⟨p :: ps', List.forall_mem_cons.mpr ⟨hp, hvalid⟩, rfl, rfl⟩
  · refine .inr ⟨n, ?_, by simpa using h.append p.render []⟩
    exact mem_names.mpr (List.mem_append_right _ (mem_names.mp hn))

/-- What are pieces once a value is filled in have been pieces before, or else the value completes
one of the placeholders. -/
theorem arises_of_render_substitute (hname : (Piece.slot name).Valid) (hvalue : Braceless value)
    {qs : List Piece} (hqs : ∀ n ∈ names qs, n = name)
    (hps : ∀ p ∈ ps, p.Valid ∧ p ≠ .slot name)
    (h : render (substitute (only name value) qs) = render ps) :
    Arises name value (render qs) ps := by
  -- behind a placeholder of `ps` the pieces go on where its closing brace comes from
  induction hlen : qs.length using Nat.strongRecOn generalizing qs ps with
  | ind len ih =>
    cases qs with
    | nil =>
      cases ps with
      | nil => exact .inl ⟨[], fun _ hp => (List.not_mem_nil hp).elim, rfl, rfl⟩
      | cons p ps => cases p <;> cases h
    | cons q qs =>
      have hlt : qs.length < len := hlen ▸ Nat.lt_succ_self qs.length
      cases q with
      | slot n =>
        obtain ⟨rfl, hqs⟩ := List.forall_mem_cons.mp hqs
        rw [render_substitute_slot] at h
        obtain ⟨ps, rfl, htail⟩ := eq_map_char_of_render hvalue h
        have hrest := ih _ hlt hqs (fun p hp => hps p (List.mem_append_right _ hp)) htail rfl
        have hcons := hrest.cons hname
        rwa [Piece.substitute, only, if_pos rfl] at hcons
      | char c =>
        have hrest : ∀ n ∈ names qs, n = name := hqs
        rw [render_substitute_char] at h
        by_cases hc : c = '\x7b'
        · subst hc
          obtain ⟨n, ps, rfl, htail⟩ := eq_slot_of_render (fun p hp => (hps p hp).1) h
          obtain ⟨⟨hn, hne⟩, hps⟩ := List.forall_mem_cons.mp hps
          have hne : n ≠ name := fun h => hne (h ▸ rfl)
          obtain ⟨inner, qs', htext, hshort, hqs', htail, hinner⟩ :=
            exists_of_render_substitute_close hname hvalue hrest hn.braceless hne.symm htail
          change Arises name value ('\x7b' :: render qs) _
          rw [htext]
          rcases hinner with hinner | hinner
          · have hcons := (ih _ (Nat.lt_trans hshort hlt) hqs' hps htail rfl).cons hn
            rw [Piece.substitute, only, if_neg hne] at hcons
            rw [hinner]
            exact hcons
          · exact .inr ⟨n, mem_names.mpr List.mem_cons_self, [], inner, render qs', rfl, hinner⟩
        · obtain ⟨ps, rfl, htail⟩ := eq_char_of_render hc h
          obtain ⟨⟨hp, -⟩, hps⟩ := List.forall_mem_cons.mp hps
          exact (ih _ hlt hrest hps htail rfl).cons hp

/-- Of what is completed after one value was filled in, some was completed before. -/
theorem Completes.of_replaceAll (hname : (Piece.slot name).Valid) (hvalue : Braceless value)
    (hσ : σ name = none) {text : List Char} {n : String}
    (h : Completes σ (replaceAll (placeholder name) value text) n) :
    ∃ n', Completes (fun m => (only name value m).or (σ m)) text n' := by
  have hmono : ∀ m, (only name value m).isSome →
      (only name value m).or (σ m) = only name value m := by
    intro m hm
    obtain ⟨cs, hcs⟩ := Option.isSome_iff_exists.mp hm
    rw [hcs, Option.some_or]
  have hother : ∀ m, (σ m).isSome → m ≠ name ∧ ((only name value m).or (σ m)).isSome := by
    intro m hm
    refine ⟨?_, by simp [hm]⟩
    rintro rfl
    rw [hσ] at hm
    cases hm
  obtain ⟨hn, front, ps, rest, hregion, hps⟩ := h
  obtain ⟨front, inner, rest, rfl, -, hinner⟩ := exists_of_replaceAll_eq_braced hvalue hregion
  obtain ⟨qs, hqs, rfl, hput⟩ := exists_pieces name value inner
  rw [hput] at hinner
  have hslots : ∀ p ∈ ps, p.Valid ∧ p ≠ .slot name := by
    intro p hp
    refine ⟨hps.valid p hp, ?_⟩
    rintro rfl
    exact (hother name (hps.bound name (mem_names.mpr hp)).2).1 rfl
  obtain ⟨ps', hvalid, htext, rfl⟩ | ⟨m, hm, h⟩ :=
    arises_of_render_substitute hname hvalue hqs hslots hinner
  · refine ⟨n, (hother n hn).2, front, ps', rest, by rw [htext], hvalid, ?_, ?_, ?_⟩
    · intro hnil
      rw [substitute_of_names_eq_nil hnil] at hps
      exact hps.slots hnil
    · intro m hm
      by_cases h : m = name
      · subst h
        exact ⟨(hother n hn).1.symm, by simp [only]⟩
      · have hbound := hps.bound m (mem_names_substitute.mpr ⟨hm, if_neg h⟩)
        exact ⟨hbound.1, (hother m hbound.2).2⟩
    · rw [← substitute_substitute]
      exact hps.spelled
  · refine ⟨m, (hother m (hps.bound m hm).2).2, ?_⟩
    have hregion := (h.mono hmono).append (front ++ ['\x7b']) ('\x7d' :: rest)
    simpa [braced] using hregion

end StoreClient.PathTemplate
