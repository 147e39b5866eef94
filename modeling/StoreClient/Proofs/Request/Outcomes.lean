import StoreClient.Proofs.Request.Completion
import StoreClient.Proofs.Request.Filling

/-!
Two values filled in, in one order and in the other. The outcomes are the same but where one value
completed the placeholder of the other, which then is filled in only if it comes second
(`exists_outcomes`).
-/

namespace StoreClient.PathTemplate

/-- A path with the value of one name in the places of its placeholders. -/
def put (x : String × List Char) (text : List Char) : List Char :=
  replaceAll (placeholder x.1) x.2 text

/-- Whether a name can stand in a placeholder and its value holds no brace. -/
structure Fillable (x : String × List Char) : Prop where
  name : (Piece.slot x.1).Valid
  value : Braceless x.2

theorem fillable_of_mem_fillings {template : String} {args : List (String × Param)}
    {x : String × List Char} (h : x ∈ fillings (placeholders template) args) : Fillable x := by
  obtain ⟨arg, -, hname, text, -, rfl⟩ := mem_fillings.mp h
  exact ⟨valid_of_mem_placeholders hname, braceless_encodeValue text⟩

/-- What two values leave of a path, the first filled in before the second and the other way round.
Here and there one value completed the placeholder of the other, `n` times in all. -/
inductive Outcomes (x y : String × List Char) : Nat → List Char → List Char → Prop where
  | nil : Outcomes x y 0 [] []
  | same (c : Char) : Outcomes x y n s t → Outcomes x y n (c :: s) (c :: t)
  | first : Outcomes x y n s t → Outcomes x y (n + 1) (placeholder x.1 ++ s) (x.2 ++ t)
  | second : Outcomes x y n s t → Outcomes x y (n + 1) (y.2 ++ s) (placeholder y.1 ++ t)

namespace Outcomes

variable {x y : String × List Char} {n m : Nat} {s s' t t' : List Char}

theorem symm (h : Outcomes x y n s t) : Outcomes y x n t s := by
  induction h with
  | nil => exact .nil
  | same c _ ih => exact .same c ih
  | first _ ih => exact .second ih
  | second _ ih => exact .first ih

theorem refl (cs : List Char) : Outcomes x y 0 cs cs := by
  induction cs with
  | nil => exact .nil
  | cons c cs ih => exact .same c ih

theorem completed : Outcomes x y 1 y.2 (placeholder y.1) := by
  simpa using Outcomes.nil.second (x := x) (y := y)

theorem append (h : Outcomes x y n s t) (h' : Outcomes x y m s' t') :
    Outcomes x y (n + m) (s ++ s') (t ++ t') := by
  induction h with
  | nil => rwa [Nat.zero_add]
  | same c _ ih => exact .same c ih
  | first _ ih =>
    rw [List.append_assoc, List.append_assoc, Nat.add_right_comm]
    exact .first ih
  | second _ ih =>
    rw [List.append_assoc, List.append_assoc, Nat.add_right_comm]
    exact .second ih

theorem eq_of_zero (h : Outcomes x y 0 s t) : s = t := by
  generalize hn : 0 = n at h
  induction h with
  | nil => rfl
  | same c _ ih => rw [ih hn]
  | first | second => cases hn

end Outcomes

/-! ### The steps of two values -/

/-- What two values make of the front of a text that is not empty. -/
structure Step (x y : String × List Char) (front rest : List Char) (n : Nat)
    (s t : List Char) : Prop where
  nonempty : front ≠ []
  outcomes : Outcomes x y n s t
  first : put y (put x (front ++ rest)) = s ++ put y (put x rest)
  second : put x (put y (front ++ rest)) = t ++ put x (put y rest)
  completed : 0 < n → Encloses (only x.1 x.2) (front ++ rest) y.1 ∨
    Encloses (only y.1 y.2) (front ++ rest) x.1

section
variable {x y : String × List Char} {rest : List Char}

theorem Step.symm {front s t : List Char} {n : Nat} (h : Step x y front rest n s t) :
    Step y x front rest n t s :=
  ⟨h.nonempty, h.outcomes.symm, h.second, h.first, fun hn => (h.completed hn).symm⟩

theorem put_placeholder (x : String × List Char) (rest : List Char) :
    put x (placeholder x.1 ++ rest) = x.2 ++ put x rest :=
  replaceAll_placeholder rest

theorem put_append_braced (hx : Fillable x) (front cs rest : List Char) :
    put x (front ++ (braced cs ++ rest)) = put x front ++ put x (braced cs ++ rest) := by
  rw [braced_append]
  exact replaceAll_append_open hx.name front _

theorem put_braced (hx : Fillable x) {ps : List Piece} {name : String}
    (hps : Spells (only x.1 x.2) ps name) (rest : List Char) :
    put x (braced (render ps) ++ rest) = braced name.toList ++ put x rest := by
  rw [put, replaceAll_braced hx.name hps.valid hps.slots, hps.spelled]
  rfl

theorem put_braced_other (hy : Fillable y) {ps : List Piece}
    (hps : Spells (only x.1 x.2) ps y.1) (rest : List Char) :
    put y (braced (render ps) ++ rest) = braced (render ps) ++ put y rest := by
  have hkeep : substitute (only y.1 y.2) ps = ps :=
    substitute_of_eq_none fun n hn => if_neg (hps.bound n hn).1
  rw [put, replaceAll_braced hy.name hps.valid hps.slots, hkeep]
  rfl

variable (hx : Fillable x) (hy : Fillable y)
include hx hy

theorem Step.slot (hne : x.1 ≠ y.1) (rest : List Char) :
    Step x y (placeholder x.1) rest 0 x.2 x.2 where
  nonempty := List.cons_ne_nil _ _
  outcomes := .refl x.2
  first := by
    rw [put_placeholder]
    exact replaceAll_chars (fun c hc => (hx.value c hc).1) _
  second := by
    rw [put.eq_1 y, replaceAll_other hy.name hx.name hne.symm]
    exact put_placeholder x _
  completed hn := (Nat.lt_irrefl 0 hn).elim

/-- Where `x` completes the placeholder of `y`, `y` is filled in if it comes second. -/
theorem Step.completion {ps : List Piece} (hps : Spells (only x.1 x.2) ps y.1)
    (rest : List Char) : Step x y (braced (render ps)) rest 1 y.2 (placeholder y.1) where
  nonempty := List.cons_ne_nil _ _
  outcomes := .completed
  first := by
    rw [put_braced hx hps]
    exact put_placeholder y _
  second := by
    rw [put_braced_other hy hps, put_braced hx hps]
    rfl
  completed _ := .inl ⟨[], ps, rest, rfl, hps⟩

/-- A character stays if no placeholder begins with it and none is completed there. -/
theorem put_put_cons (hne : x.1 ≠ y.1) {c : Char} (hxc : ¬ placeholder x.1 <+: c :: rest)
    (hyc : ¬ placeholder y.1 <+: c :: rest)
    (hxy : ∀ ps rest', c :: rest = braced (render ps) ++ rest' → ¬ Spells (only x.1 x.2) ps y.1) :
    put y (put x (c :: rest)) = c :: put y (put x rest) := by
  have hput : put x (c :: rest) = c :: put x rest := replaceAll_cons hxc
  have hpre : ¬ placeholder y.1 <+: c :: put x rest := by
    rintro ⟨tail, htail⟩
    have htail : braced y.1.toList ++ tail = c :: put x rest := htail
    rw [braced_append] at htail
    obtain ⟨rfl, hrest⟩ := List.cons.inj htail
    obtain ⟨ps, hps, rfl, htext⟩ := exists_pieces x.1 x.2 rest
    obtain ⟨inner, rest', htext, -, -, -, hinner | hinner⟩ := exists_of_render_substitute_close
      hx.name hx.value hps hy.name.braceless hne (htext.symm.trans hrest.symm)
    · rw [htext, hinner] at hyc
      exact hyc ⟨render rest', rfl⟩
    · exact hxy inner (render rest') htext hinner
  rw [hput]
  exact replaceAll_cons hpre

theorem exists_step (hne : x.1 ≠ y.1) (c : Char) (text : List Char) :
    ∃ front rest n s t, c :: text = front ++ rest ∧ Step x y front rest n s t := by
  by_cases hxc : placeholder x.1 <+: c :: text
  · obtain ⟨rest, hrest⟩ := hxc
    exact ⟨_, rest, _, _, _, hrest.symm, .slot hx hy hne rest⟩
  by_cases hyc : placeholder y.1 <+: c :: text
  · obtain ⟨rest, hrest⟩ := hyc
    exact ⟨_, rest, _, _, _, hrest.symm, (Step.slot hy hx hne.symm rest).symm⟩
  by_cases hxy : ∃ ps rest, c :: text = braced (render ps) ++ rest ∧ Spells (only x.1 x.2) ps y.1
  · obtain ⟨ps, rest, hrest, hps⟩ := hxy
    exact ⟨_, rest, _, _, _, hrest, .completion hx hy hps rest⟩
  by_cases hyx : ∃ ps rest, c :: text = braced (render ps) ++ rest ∧ Spells (only y.1 y.2) ps x.1
  · obtain ⟨ps, rest, hrest, hps⟩ := hyx
    exact ⟨_, rest, _, _, _, hrest, (Step.completion hy hx hps rest).symm⟩
  · refine ⟨[c], text, 0, [c], [c], rfl, List.cons_ne_nil _ _, .refl [c], ?_, ?_, ?_⟩
    · exact put_put_cons hx hy hne hxc hyc fun ps rest h hps => hxy ⟨ps, rest, h, hps⟩
    · exact put_put_cons hy hx hne.symm hyc hxc fun ps rest h hps => hyx ⟨ps, rest, h, hps⟩
    · exact fun hn => (Nat.lt_irrefl 0 hn).elim

/-- The order of two values is told from the outcome at most where one of them completes the
placeholder of the other. -/
theorem exists_outcomes (hne : x.1 ≠ y.1) (text : List Char) :
    ∃ n, Outcomes x y n (put y (put x text)) (put x (put y text)) ∧
      (0 < n → Encloses (only x.1 x.2) text y.1 ∨ Encloses (only y.1 y.2) text x.1) := by
  induction hlen : text.length using Nat.strongRecOn generalizing text with
  | ind len ih =>
    cases text with
    | nil => exact ⟨0, .nil, fun h => (Nat.lt_irrefl 0 h).elim⟩
    | cons c text =>
      obtain ⟨front, rest, n, s, t, htext, hstep⟩ := exists_step hx hy hne c text
      rw [htext] at hlen ⊢
      have hlt : rest.length < len := by
        rw [← hlen, List.length_append]
        exact Nat.lt_add_of_pos_left (List.length_pos_iff.mpr hstep.nonempty)
      obtain ⟨m, hm, hcompleted⟩ := ih rest.length hlt rest rfl
      refine ⟨n + m, ?_, fun hpos => ?_⟩
      · rw [hstep.first, hstep.second]
        exact hstep.outcomes.append hm
      · obtain hpos | hpos := Nat.add_pos_iff_pos_or_pos.mp hpos
        · exact hstep.completed hpos
        · exact (hcompleted hpos).imp (by simpa using ·.append front [])
            (by simpa using ·.append front [])

end

end StoreClient.PathTemplate
