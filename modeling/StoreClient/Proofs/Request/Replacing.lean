import StoreClient.Proofs.Request.Substitution

/-!
Replacing a placeholder in any text, whatever its braces belong to. A placeholder has a brace at
either end and none between, so that no occurrence reaches over an opening brace
(`replaceAll_append_open`), and braces around pieces with a placeholder among them are none
themselves (`replaceAll_braced`). Seen from the outcome, the text is made of characters that are
still there and of placeholders that gave way to the value (`exists_pieces`); since values hold no
brace, each brace of the outcome is one of the text (`eq_append_of_render_substitute`).
-/

namespace StoreClient.PathTemplate

/-- Characters without a brace. -/
def Braceless (cs : List Char) : Prop := ∀ c ∈ cs, c ≠ '\x7b' ∧ c ≠ '\x7d'

/-- A text in braces. A placeholder is its name in braces. -/
def braced (cs : List Char) : List Char := '\x7b' :: cs ++ ['\x7d']

theorem Piece.Valid.braceless {name : String} (h : (Piece.slot name).Valid) :
    Braceless name.toList :=
  fun c hc => ⟨ne_openBrace_of_isWord (h.2 c hc), ne_closeBrace_of_isWord (h.2 c hc)⟩

theorem braceless_encodeValue (text : String) : Braceless (encodeValue text) :=
  fun _ hc => ne_brace_of_mem_encodeValue hc

theorem braced_append (cs rest : List Char) :
    braced cs ++ rest = '\x7b' :: (cs ++ '\x7d' :: rest) := by simp [braced]

/-! ### Braces around a word -/

/-- Where a text goes on with a character that its front does not hold. -/
theorem exists_of_append_eq_append_cons {d : Char} {cs rest front rest' : List Char} (hd : d ∉ cs)
    (h : cs ++ rest = front ++ d :: rest') :
    ∃ front', front = cs ++ front' ∧ rest = front' ++ d :: rest' := by
  obtain ⟨front', hfront, hrest⟩ | ⟨tail, rfl, htail⟩ := List.append_eq_append_iff.mp h
  · exact ⟨front', hfront, hrest⟩
  · cases tail with
    | nil => exact ⟨[], by simp, htail.symm⟩
    | cons c tail =>
      cases (List.cons.inj htail).1
      exact (hd (by simp)).elim

section
variable {w w' x y r r' : List Char}

theorem Braceless.open_not_mem (h : Braceless w) : '\x7b' ∉ w := fun hc => (h _ hc).1 rfl

theorem Braceless.close_not_mem (h : Braceless w) : '\x7d' ∉ w := fun hc => (h _ hc).2 rfl

theorem braced_append_inj (hw : Braceless w) (hw' : Braceless w')
    (h : braced w ++ r = braced w' ++ r') : w = w' ∧ r = r' := by
  rw [braced_append, braced_append] at h
  obtain ⟨tail, rfl, htail⟩ :=
    exists_of_append_eq_append_cons hw.close_not_mem (List.cons.inj h).2
  cases tail with
  | nil => exact ⟨(List.append_nil w).symm, (List.cons.inj htail).2⟩
  | cons c tail =>
    cases (List.cons.inj htail).1
    exact (hw'.close_not_mem (by simp)).elim

/-- A word in braces does not reach over an opening brace. -/
theorem braced_prefix_of_append_open (hw : Braceless w) (hx : x ≠ [])
    (h : braced w <+: x ++ '\x7b' :: y) : braced w <+: x := by
  obtain ⟨t, ht⟩ := h
  cases x with
  | nil => exact (hx rfl).elim
  | cons c x =>
    have hopen : '\x7b' ∉ w ++ ['\x7d'] := by
      intro hmem
      rcases List.mem_append.mp hmem with hmem | hmem
      · exact hw.open_not_mem hmem
      · cases List.mem_singleton.mp hmem
    obtain ⟨rfl, htail⟩ := List.cons.inj ht
    obtain ⟨front, rfl, -⟩ := exists_of_append_eq_append_cons hopen htail
    exact ⟨front, rfl⟩

/-- A word in braces does not begin with a text that goes on behind a closing brace. -/
theorem braced_prefix_of_close_mem (hw : Braceless w) (hx : '\x7d' ∈ x)
    (h : braced w <+: x ++ y) : braced w <+: x := by
  obtain ⟨t, ht⟩ := h
  obtain ⟨front, rest, rfl⟩ := List.append_of_mem hx
  cases front with
  | nil => cases (List.cons.inj ht).1
  | cons c front =>
    rw [braced_append, List.append_assoc] at ht
    obtain ⟨rfl, hfront⟩ := List.cons.inj ht
    obtain ⟨tail, rfl, htail⟩ := exists_of_append_eq_append_cons hw.close_not_mem hfront
    cases tail with
    | nil => exact ⟨rest, by simp [braced]⟩
    | cons c tail =>
      obtain ⟨rfl, -⟩ := List.cons.inj htail
      exact ⟨tail ++ '\x7d' :: rest, by simp [braced]⟩

/-- Up to the first placeholder of some pieces no word is closed. -/
theorem append_close_ne_render_append {ps : List Piece} (hps : ∀ p ∈ ps, p.Valid)
    (hne : names ps ≠ []) (hw : Braceless w) : w ++ '\x7d' :: r ≠ render ps ++ r' := by
  induction ps generalizing w with
  | nil => exact (hne rfl).elim
  | cons p ps ih =>
    obtain ⟨hp, hvalid⟩ := List.forall_mem_cons.mp hps
    rw [render_cons]
    intro h
    cases p with
    | char c =>
      cases w with
      | nil => exact hp.2 (List.cons.inj h).1.symm
      | cons d w =>
        have hw : Braceless w := fun e he => hw e (List.mem_cons_of_mem d he)
        exact ih hvalid hne hw (List.cons.inj h).2
    | slot name =>
      cases w with
      | nil => cases (List.cons.inj h).1
      | cons d w => exact (hw d List.mem_cons_self).1 (List.cons.inj h).1

end

section
variable {name : String} {value : List Char}

/-! ### Occurrences -/

theorem replaceAll_cons {c : Char} {rest : List Char}
    (h : ¬ placeholder name <+: c :: rest) :
    replaceAll (placeholder name) value (c :: rest) =
      c :: replaceAll (placeholder name) value rest := by
  rw [replaceAll, replaceFrom, if_neg (mt List.isPrefixOf_iff_prefix.mp h), replaceAll]

/-- A text is read from left to right: a placeholder is taken whole, any other character alone. -/
@[elab_as_elim]
theorem placeholder_induction {motive : List Char → Prop} (name : String) (nil : motive [])
    (slot : ∀ rest, motive rest → motive (placeholder name ++ rest))
    (char : ∀ c rest, ¬ placeholder name <+: c :: rest → motive rest → motive (c :: rest))
    (text : List Char) : motive text := by
  induction h : text.length using Nat.strongRecOn generalizing text with
  | ind n ih =>
    cases text with
    | nil => exact nil
    | cons c rest =>
      by_cases hpre : placeholder name <+: c :: rest
      · obtain ⟨rest', hrest⟩ := hpre
        have hlen : (placeholder name).length + rest'.length = n := by
          rw [← List.length_append, hrest, h]
        have hpos : 0 < (placeholder name).length := Nat.succ_pos _
        rw [← hrest]
        exact slot rest' (ih rest'.length (by omega) rest' rfl)
      · exact char c rest hpre (ih rest.length (by simp [← h]) rest rfl)

section
variable (hname : (Piece.slot name).Valid)
include hname

/-- A text is cut before an opening brace without an occurrence being cut. -/
theorem replaceAll_append_open (front rest : List Char) :
    replaceAll (placeholder name) value (front ++ '\x7b' :: rest) =
      replaceAll (placeholder name) value front ++
        replaceAll (placeholder name) value ('\x7b' :: rest) := by
  induction front using placeholder_induction name with
  | nil => rfl
  | slot front ih =>
    rw [List.append_assoc, replaceAll_placeholder, ih, replaceAll_placeholder, List.append_assoc]
  | char c front hpre ih =>
    have hpre' : ¬ placeholder name <+: c :: (front ++ '\x7b' :: rest) := fun h =>
      hpre (braced_prefix_of_append_open hname.braceless (List.cons_ne_nil c front) h)
    rw [List.cons_append, replaceAll_cons hpre', ih,
      replaceAll_cons hpre, List.cons_append]

/-- Braces around a placeholder stay, and what is between them is replaced piece by piece. -/
theorem replaceAll_braced {ps : List Piece} (hps : ∀ p ∈ ps, p.Valid) (hne : names ps ≠ [])
    (rest : List Char) :
    replaceAll (placeholder name) value (braced (render ps) ++ rest) =
      braced (render (substitute (only name value) ps)) ++
        replaceAll (placeholder name) value rest := by
  have hpre : ¬ placeholder name <+: '\x7b' :: (render ps ++ '\x7d' :: rest) := by
    rintro ⟨t, ht⟩
    have ht : braced name.toList ++ t = '\x7b' :: (render ps ++ '\x7d' :: rest) := ht
    rw [braced_append] at ht
    exact append_close_ne_render_append hps hne hname.braceless (List.cons.inj ht).2
  rw [braced_append, replaceAll_cons hpre, replaceAll_render_append hps hname,
    replaceAll_char (by decide), braced_append]

end

/-! ### Where the outcome comes from -/

theorem names_append (ps qs : List Piece) : names (ps ++ qs) = names ps ++ names qs :=
  List.filterMap_append

theorem open_render_close (ps qs : List Piece) :
    '\x7b' :: render (ps ++ .char '\x7d' :: qs) = braced (render ps) ++ render qs := by
  rw [braced_append, render_append, render_cons]
  rfl

theorem render_substitute_char (σ : String → Option (List Char)) (c : Char) (ps : List Piece) :
    render (substitute σ (.char c :: ps)) = c :: render (substitute σ ps) := rfl

theorem render_substitute_slot (name : String) (value : List Char) (ps : List Piece) :
    render (substitute (only name value) (.slot name :: ps)) =
      value ++ render (substitute (only name value) ps) := by
  rw [substitute_cons, render_append, Piece.substitute, only, if_pos rfl, render_map_char]

/-- A text consists of characters that stay and of the placeholders that are replaced. -/
theorem exists_pieces (name : String) (value text : List Char) :
    ∃ ps, (∀ n ∈ names ps, n = name) ∧ render ps = text ∧
      replaceAll (placeholder name) value text = render (substitute (only name value) ps) := by
  induction text using placeholder_induction name with
  | nil => exact ⟨[], fun _ h => (List.not_mem_nil h).elim, rfl, rfl⟩
  | slot rest ih =>
    obtain ⟨ps, hnames, rfl, hrest⟩ := ih
    refine ⟨.slot name :: ps, List.forall_mem_cons.mpr ⟨rfl, hnames⟩, rfl, ?_⟩
    rw [replaceAll_placeholder, hrest, render_substitute_slot]
  | char c rest hpre ih =>
    obtain ⟨ps, hnames, rfl, hrest⟩ := ih
    refine ⟨.char c :: ps, hnames, rfl, ?_⟩
    rw [replaceAll_cons hpre, hrest, render_substitute_char]

/-- A character of the outcome that no value holds is one of the text. -/
theorem eq_append_of_render_substitute {ps : List Piece} (hps : ∀ n ∈ names ps, n = name)
    {d : Char} (hd : d ∉ value) {front rest : List Char}
    (h : render (substitute (only name value) ps) = front ++ d :: rest) :
    ∃ ps₁ ps₂, ps = ps₁ ++ .char d :: ps₂ ∧
      render (substitute (only name value) ps₁) = front ∧
      render (substitute (only name value) ps₂) = rest := by
  induction ps generalizing front with
  | nil =>
    have h : ([] : List Char) = front ++ d :: rest := h
    simp at h
  | cons p ps ih =>
    cases p with
    | char c =>
      rw [render_substitute_char] at h
      cases front with
      | nil =>
        obtain ⟨rfl, hrest⟩ := List.cons.inj h
        exact ⟨[], ps, rfl, rfl, hrest⟩
      | cons e front =>
        obtain ⟨rfl, htail⟩ := List.cons.inj h
        obtain ⟨ps₁, ps₂, rfl, hfront, hrest⟩ := ih hps htail
        exact ⟨.char c :: ps₁, ps₂, rfl, congrArg _ hfront, hrest⟩
    | slot n =>
      obtain ⟨rfl, hps⟩ := List.forall_mem_cons.mp hps
      rw [render_substitute_slot] at h
      obtain ⟨front, rfl, htail⟩ := exists_of_append_eq_append_cons hd h
      obtain ⟨ps₁, ps₂, rfl, hfront, hrest⟩ := ih hps htail
      exact ⟨.slot n :: ps₁, ps₂, rfl, by rw [render_substitute_slot, hfront], hrest⟩

/-- Where the outcome has a closing brace, the text has it behind what became the front. -/
theorem exists_of_replaceAll_eq_close (hvalue : Braceless value) {text front rest : List Char}
    (h : replaceAll (placeholder name) value text = front ++ '\x7d' :: rest) :
    ∃ front' rest', text = front' ++ '\x7d' :: rest' ∧
      replaceAll (placeholder name) value front' = front := by
  induction text using placeholder_induction name generalizing front with
  | nil => exact (List.append_ne_nil_of_right_ne_nil front (List.cons_ne_nil _ _) h.symm).elim
  | slot text ih =>
    rw [replaceAll_placeholder] at h
    obtain ⟨front, rfl, htail⟩ := exists_of_append_eq_append_cons hvalue.close_not_mem h
    obtain ⟨front', rest', rfl, hfront⟩ := ih htail
    refine ⟨placeholder name ++ front', rest', (List.append_assoc ..).symm, ?_⟩
    rw [replaceAll_placeholder, hfront]
  | char c text hpre ih =>
    rw [replaceAll_cons hpre] at h
    cases front with
    | nil =>
      obtain ⟨rfl, -⟩ := List.cons.inj h
      exact ⟨[], text, rfl, rfl⟩
    | cons d front =>
      obtain ⟨rfl, htail⟩ := List.cons.inj h
      obtain ⟨front', rest', rfl, hfront⟩ := ih htail
      refine ⟨c :: front', rest', rfl, ?_⟩
      rw [replaceAll_cons fun hpre' => hpre (hpre'.trans (List.prefix_append _ _)), hfront]

/-- Where the outcome has a text in braces, these stand in the text around what became it, and they
are not those of the placeholder. -/
theorem exists_of_replaceAll_eq_braced (hvalue : Braceless value)
    {text front inner rest : List Char}
    (h : replaceAll (placeholder name) value text = front ++ braced inner ++ rest) :
    ∃ front' inner' rest', text = front' ++ braced inner' ++ rest' ∧ inner' ≠ name.toList ∧
      replaceAll (placeholder name) value inner' = inner := by
  rw [List.append_assoc, braced_append] at h
  induction text using placeholder_induction name generalizing front with
  | nil => exact (List.append_ne_nil_of_right_ne_nil front (List.cons_ne_nil _ _) h.symm).elim
  | slot text ih =>
    rw [replaceAll_placeholder] at h
    obtain ⟨front, rfl, htail⟩ := exists_of_append_eq_append_cons hvalue.open_not_mem h
    obtain ⟨front', inner', rest', rfl, hinner⟩ := ih htail
    exact ⟨placeholder name ++ front', inner', rest', by simp only [List.append_assoc], hinner⟩
  | char c text hpre ih =>
    rw [replaceAll_cons hpre] at h
    cases front with
    | nil =>
      obtain ⟨rfl, htail⟩ := List.cons.inj h
      obtain ⟨inner', rest', rfl, hinner⟩ := exists_of_replaceAll_eq_close hvalue htail
      refine ⟨[], inner', rest', (braced_append ..).symm, ?_, hinner⟩
      rintro rfl
      exact hpre ⟨rest', braced_append name.toList rest'⟩
    | cons d front =>
      obtain ⟨rfl, htail⟩ := List.cons.inj h
      obtain ⟨front', inner', rest', rfl, hinner⟩ := ih htail
      exact ⟨c :: front', inner', rest', rfl, hinner⟩

end

end StoreClient.PathTemplate
