import StoreClient.Proofs.Request.Delimiter
import StoreClient.Proofs.Request.Label
import StoreClient.Proofs.Request.Occurrence

/-!
Templates that leave braces standing. Only names are filled in or reported missing, so a template
should hold nothing but names in braces. Where it holds something else, it does so from the
beginning: filling in a value puts nothing into braces that was not there (`Misfit.of_substitute`,
`hasBraced_isMisfit_of_put`). Hence no arguments whatever leave a label in a resolved path exactly if
the braces of the template hold names only (`resolve_hasLabel_iff`).
-/

namespace StoreClient.PathTemplate

/-- Characters and placeholders within a segment that are not just a name. -/
structure Misfit (ps : List Piece) : Prop where
  ne_nil : ps ≠ []
  valid : ∀ p ∈ ps, p.Valid
  slash_not_mem : .char '/' ∉ ps
  ne_name : ∀ name, IsName name → render ps ≠ name.toList

def IsMisfit (inner : List Char) : Prop := ∃ ps, Misfit ps ∧ render ps = inner

/-! ### Misfits and values -/

section
variable {ps : List Piece} {name : String} {inner : List Char}

theorem slash_not_mem_of_isName (h : IsName name) : '/' ∉ name.toList :=
  fun hslash => absurd (h.2 _ hslash) (by decide)

theorem openBrace_mem_render (hps : names ps ≠ []) : '\x7b' ∈ render ps := by
  obtain ⟨n, hn⟩ := List.exists_mem_of_ne_nil _ hps
  exact List.mem_flatMap.mpr ⟨.slot n, mem_names.mp hn, List.mem_cons_self⟩

/-- Braces around placeholders hold no name, whatever name the values make of it. -/
theorem Misfit.of_spelled {σ : String → Option (List Char)} (hname : IsName name)
    (hps : ∀ p ∈ ps, p.Valid) (hslots : names ps ≠ [])
    (h : render (substitute σ ps) = name.toList) : Misfit ps where
  ne_nil := by
    rintro rfl
    exact hslots rfl
  valid := hps
  slash_not_mem hslash :=
    slash_not_mem_of_isName hname (h ▸ mem_render_substitute_of_char hslash)
  ne_name n hn hrender := hn.braceless.open_not_mem (hrender ▸ openBrace_mem_render hslots)

theorem Misfit.of_isLabel (h : IsLabel inner) (hname : ¬ IsName (String.ofList inner)) :
    Misfit (inner.map .char) where
  ne_nil := by simpa using h.ne_nil
  valid p hp := by
    obtain ⟨c, hc, rfl⟩ := List.mem_map.mp hp
    exact h.braceless c hc
  slash_not_mem hslash := by
    obtain ⟨c, hc, hslash⟩ := List.mem_map.mp hslash
    cases hslash
    exact h.slash_not_mem hc
  ne_name name hn hrender := by
    rw [render_map_char] at hrender
    exact hname (hrender ▸ String.ofList_toList.symm ▸ hn)

/-- What is just a name once values are filled in was one before. -/
theorem Misfit.of_substitute {σ : String → Option (List Char)} (h : Misfit (substitute σ ps))
    (hps : ∀ p ∈ ps, p.Valid) : Misfit ps where
  ne_nil := by
    rintro rfl
    exact h.ne_nil rfl
  valid := hps
  slash_not_mem hslash :=
    h.slash_not_mem (List.mem_flatMap.mpr ⟨_, hslash, List.mem_singleton_self _⟩)
  ne_name name hname hrender := by
    have hnil : names ps = [] := by
      by_contra hnil
      exact hname.braceless.open_not_mem (hrender ▸ openBrace_mem_render hnil)
    exact h.ne_name name hname
      ((congrArg render (substitute_of_names_eq_nil hnil)).trans hrender)

theorem mem_or_of_mem_substitute_only {value : List Char} {p : Piece}
    (h : p ∈ substitute (only name value) ps) : p ∈ ps ∨ ∃ c ∈ value, p = .char c := by
  obtain ⟨q, hq, hp⟩ := List.mem_flatMap.mp h
  cases q with
  | char c =>
    cases List.mem_singleton.mp hp
    exact .inl hq
  | slot n =>
    rw [Piece.substitute, only] at hp
    split at hp
    · next hvalue =>
      split at hvalue
      · cases hvalue
        obtain ⟨c, hc, rfl⟩ := List.mem_map.mp hp
        exact .inr ⟨c, hc, rfl⟩
      · cases hvalue
    · cases List.mem_singleton.mp hp
      exact .inl hq

/-- Values that are no part of a name leave it so. -/
theorem Misfit.substitute (h : Misfit ps) {x : String × List Char} (hx : Fillable x)
    (hpercent : '%' ∈ x.2) (hslash : '/' ∉ x.2) :
    Misfit (PathTemplate.substitute (only x.1 x.2) ps) := by
  by_cases hslot : x.1 ∈ names ps
  · have hmem : .char '%' ∈ PathTemplate.substitute (only x.1 x.2) ps := by
      refine List.mem_flatMap.mpr ⟨_, mem_names.mp hslot, ?_⟩
      rw [Piece.substitute, only, if_pos rfl]
      exact List.mem_map_of_mem hpercent
    refine ⟨List.ne_nil_of_mem hmem, fun p hp => ?_, fun hmem => ?_, fun name hname hrender => ?_⟩
    · obtain hp | ⟨c, hc, rfl⟩ := mem_or_of_mem_substitute_only hp
      · exact h.valid p hp
      · exact hx.value c hc
    · obtain hp | ⟨c, hc, hmem⟩ := mem_or_of_mem_substitute_only hmem
      · exact h.slash_not_mem hp
      · cases hmem
        exact hslash hc
    · have hpercent : '%' ∈ name.toList :=
        hrender ▸ List.mem_flatMap.mpr ⟨_, hmem, List.mem_singleton_self _⟩
      exact absurd (hname.2 _ hpercent) (by decide)
  · have hkeep : PathTemplate.substitute (only x.1 x.2) ps = ps := by
      refine substitute_of_eq_none fun n hn => if_neg ?_
      rintro rfl
      exact hslot hn
    rwa [hkeep]

theorem Misfit.isLabel_render (h : Misfit ps) (hslots : names ps = []) : IsLabel (render ps) := by
  have hchar : ∀ p ∈ ps, ∃ c, p = .char c := by
    intro p hp
    cases p with
    | char c => exact ⟨c, rfl⟩
    | slot n => exact (List.ne_nil_of_mem (mem_names.mpr hp) hslots).elim
  have hmem : ∀ c ∈ render ps, .char c ∈ ps := by
    intro c hc
    obtain ⟨p, hp, hc⟩ := List.mem_flatMap.mp hc
    obtain ⟨d, rfl⟩ := hchar p hp
    cases List.mem_singleton.mp hc
    exact hp
  refine ⟨?_, fun c hc => h.valid _ (hmem c hc), fun hslash => h.slash_not_mem (hmem _ hslash)⟩
  obtain ⟨p, hp⟩ := List.exists_mem_of_ne_nil _ h.ne_nil
  obtain ⟨c, rfl⟩ := hchar p hp
  exact List.ne_nil_of_mem (List.mem_flatMap.mpr ⟨_, hp, List.mem_singleton_self c⟩)

/-- What is not just a name outlasts all values that are no part of a name. -/
theorem Misfit.outlasts {values : List (String × List Char)} (h : Misfit ps)
    (hvalues : ∀ x ∈ values, Fillable x ∧ '%' ∈ x.2 ∧ '/' ∉ x.2)
    (hslots : ∀ n ∈ names ps, n ∈ values.map (·.1)) : Outlasts values (render ps) := by
  induction values generalizing ps with
  | nil => exact h.isLabel_render (List.eq_nil_iff_forall_not_mem.mpr fun n hn =>
      List.not_mem_nil (hslots n hn))
  | cons x values ih =>
    obtain ⟨⟨hx, hpercent, hslash⟩, hvalues⟩ := List.forall_mem_cons.mp hvalues
    refine ⟨h.ne_name x.1 hx.name, ?_⟩
    rw [put, replaceAll_render h.valid hx.name]
    refine ih (h.substitute hx hpercent hslash) hvalues fun n hn => ?_
    obtain ⟨hn, hnone⟩ := mem_names_substitute.mp hn
    refine (List.mem_cons.mp (hslots n hn)).resolve_left ?_
    rintro rfl
    simp [only] at hnone

end

section
variable {x : String × List Char} (hx : Fillable x) {text : List Char}
include hx

/-- A placeholder that is there once a value is filled in was there before, or the value stands in
braces around something else. -/
theorem hasBraced_of_put_name {name : String} (hname : IsName name)
    (h : HasBraced (· = name.toList) (put x text)) :
    HasBraced IsMisfit text ∨ name ≠ x.1 ∧ HasBraced (· = name.toList) text := by
  obtain ⟨front, _, rest, htext, rfl⟩ := h
  obtain ⟨front', inner, rest', rfl, hne, hinner⟩ := exists_of_replaceAll_eq_braced hx.value htext
  obtain ⟨qs, hqs, rfl, hput⟩ := exists_pieces x.1 x.2 inner
  rw [hput] at hinner
  by_cases hslots : names qs = []
  · rw [substitute_of_names_eq_nil hslots] at hinner
    refine .inr ⟨?_, front', render qs, rest', rfl, hinner⟩
    rintro rfl
    exact hne hinner
  · have hvalid := valid_of_render_substitute hx.name hqs (hinner ▸ hname.braceless)
    exact .inl ⟨front', _, rest', rfl, qs, .of_spelled hname hvalid hslots hinner, rfl⟩

/-- What braces hold besides names they held before a value was filled in. -/
theorem hasBraced_isMisfit_of_put (h : HasBraced IsMisfit (put x text)) :
    HasBraced IsMisfit text := by
  obtain ⟨front, _, rest, htext, ps, hps, rfl⟩ := h
  by_cases hself : .slot x.1 ∈ ps
  · -- the placeholder of the value itself was filled in, so it was not there before
    have hplaceholder : HasBraced (· = x.1.toList) (put x text) :=
      htext ▸ (hasBraced_of_mem_names (mem_names.mpr hself)).braced front rest
    exact (hasBraced_of_put_name hx hx.name hplaceholder).resolve_right fun h => h.1 rfl
  · obtain ⟨front', inner, rest', rfl, -, hinner⟩ :=
      exists_of_replaceAll_eq_braced hx.value htext
    obtain ⟨qs, hqs, rfl, hput⟩ := exists_pieces x.1 x.2 inner
    rw [hput] at hinner
    have hslots : ∀ p ∈ ps, p.Valid ∧ p ≠ .slot x.1 := by
      refine fun p hp => ⟨hps.valid p hp, ?_⟩
      rintro rfl
      exact hself hp
    obtain ⟨ps', hvalid, hrender, rfl⟩ | ⟨n, hn, front, qs', rest, hregion, hspells⟩ :=
      arises_of_render_substitute hx.name hx.value hqs hslots hinner
    · exact ⟨front', _, rest', rfl, ps', hps.of_substitute hvalid, hrender⟩
    · have hname : IsName n := hps.valid _ (mem_names.mp hn)
      have hmisfit : HasBraced IsMisfit (render qs) := ⟨front, _, rest, hregion, qs',
        .of_spelled hname hspells.valid hspells.slots hspells.spelled, rfl⟩
      exact hmisfit.braced front' rest'

end

/-- A label is only left by a template in which braces hold something else than a name, or a name
that has no value. -/
theorem hasBraced_of_hasLabel_replaceEach {values : List (String × List Char)}
    (hfill : ∀ x ∈ values, Fillable x) {text : List Char}
    (h : HasBraced IsLabel (replaceEach values text)) :
    HasBraced IsMisfit text ∨
      ∃ name, IsName name ∧ name ∉ values.map (·.1) ∧ HasBraced (· = name.toList) text := by
  induction values generalizing text with
  | nil =>
    obtain ⟨front, inner, rest, htext, hinner⟩ := h
    by_cases hname : IsName (String.ofList inner)
    · refine .inr ⟨_, hname, List.not_mem_nil, front, inner, rest, htext, ?_⟩
      exact String.toList_ofList.symm
    · exact .inl ⟨front, inner, rest, htext, _, .of_isLabel hinner hname, render_map_char inner⟩
  | cons x values ih =>
    obtain ⟨hx, hfill⟩ := List.forall_mem_cons.mp hfill
    obtain hmisfit | ⟨name, hname, hvalues, hplaceholder⟩ := ih hfill h
    · exact .inl (hasBraced_isMisfit_of_put hx hmisfit)
    · refine (hasBraced_of_put_name hx hname hplaceholder).imp_right fun ⟨hne, h⟩ => ?_
      exact ⟨name, hname, by simp [hne, hvalues], h⟩

/-! ### Resolving -/

section
variable {template : String} {args : Bindings}

theorem mem_placeholders_of_hasBraced {name : String} (hname : IsName name)
    (h : HasBraced (· = name.toList) template.toList) : name ∈ placeholders template := by
  obtain ⟨front, _, rest, htext, rfl⟩ := h
  obtain ⟨found, hfound, -⟩ := exists_found 0 template.toList
  have hplace := hfound.mem_of_eq_append hname (htext.trans (List.append_assoc ..))
  exact hfound.mem_placeholders_iff.mpr (List.mem_map_of_mem hplace)

theorem mem_fillings_of_resolve {resolved : String}
    (h : (PathTemplate.mk template args).resolve.result = .ok resolved) {name : String}
    (hname : name ∈ placeholders template) :
    name ∈ (fillings (placeholders template) args.entries).map (·.1) := by
  obtain ⟨param, hparam, hsend⟩ := resolve_isOk_iff.mp ⟨resolved, h⟩ name hname
  obtain ⟨text, htext⟩ := Param.text_isOk_iff.mpr hsend
  exact List.mem_map_of_mem (mem_fillings.mpr
    ⟨(name, param), NameMap.get?_eq_some_iff.mp hparam, hname, text, htext, rfl⟩)

end

/-- The same text for every placeholder of a template. -/
def bindEach (template text : String) : Bindings :=
  .ofList ((placeholders template).map (·, .ofText text))

theorem entries_bindEach (template text : String) : (bindEach template text).entries =
    (placeholders template).map (·, .ofText text) := by
  refine NameMap.entries_ofList ?_
  rw [List.map_map]
  exact (List.map_id (placeholders template)).symm ▸ nodup_placeholders template

theorem exists_resolve_bindEach (template text : String) :
    ∃ resolved, (PathTemplate.mk template (bindEach template text)).resolve.result =
      .ok resolved := by
  refine resolve_isOk_iff.mpr fun name hname => ⟨.ofText text, ?_, rfl⟩
  rw [NameMap.get?_eq_some_iff, entries_bindEach]
  exact List.mem_map_of_mem hname

theorem eq_of_mem_fillings_bindEach {template text : String} {x : String × List Char}
    (h : x ∈ fillings (placeholders template) (bindEach template text).entries) :
    x.2 = encodeValue text := by
  obtain ⟨arg, harg, -, value, hvalue, rfl⟩ := mem_fillings.mp h
  rw [entries_bindEach] at harg
  obtain ⟨name, -, rfl⟩ := List.mem_map.mp harg
  exact congrArg encodeValue (Except.ok.inj hvalue).symm

/-- Labels in braces are left in a resolved path exactly where a text in braces outlasts the values
that are filled in. A template leaves none, whatever the arguments, exactly if braces that hold
characters and placeholders within a segment hold nothing but a name. -/
theorem resolve_hasLabel_iff (template : String) :
    (∀ (args : Bindings) (resolved : String),
      (PathTemplate.mk template args).resolve.result = .ok resolved →
      (HasBraced IsLabel resolved.toList ↔
        HasBraced (fun inner => isClosed 0 inner ∧
          Outlasts (fillings (placeholders template) args.entries) inner) template.toList)) ∧
    ((∀ (args : Bindings) (resolved : String),
      (PathTemplate.mk template args).resolve.result = .ok resolved →
        ¬ HasBraced IsLabel resolved.toList) ↔
      ¬ HasBraced IsMisfit template.toList) := by
  have hfill {args : List (String × Param)} :
      ∀ x ∈ fillings (placeholders template) args, Fillable x :=
    fun x hx => fillable_of_mem_fillings hx
  have hfilled {args : Bindings} {resolved : String}
      (h : (PathTemplate.mk template args).resolve.result = .ok resolved) :
      resolved.toList = replaceEach (fillings (placeholders template) args.entries)
        template.toList := by
    rw [eq_filled_of_resolve (.inl h), filled, String.toList_ofList]
  refine ⟨fun args resolved h => ?_, ?_, ?_⟩
  · rw [hfilled h]
    exact hasLabel_replaceEach_iff hfill
  · rintro hnone ⟨front, _, rest, htext, ps, hps, rfl⟩
    -- a value with an escape leaves what braces hold besides names
    obtain ⟨resolved, h⟩ := exists_resolve_bindEach template "-"
    refine hnone _ resolved h ?_
    rw [hfilled h, hasLabel_replaceEach_iff hfill]
    refine ⟨front, _, rest, htext, isClosed_render hps.valid, hps.outlasts ?_ fun n hn => ?_⟩
    · intro x hx
      rw [eq_of_mem_fillings_bindEach hx]
      exact ⟨hfill x hx, by decide, by decide⟩
    · have hname : IsName n := hps.valid _ (mem_names.mp hn)
      refine mem_fillings_of_resolve h (mem_placeholders_of_hasBraced hname ?_)
      exact htext ▸ (hasBraced_of_mem_names hn).braced front rest
  · intro hmisfit args resolved h hlabel
    rw [hfilled h] at hlabel
    obtain h' | ⟨name, hname, hvalues, hplaceholder⟩ :=
      hasBraced_of_hasLabel_replaceEach hfill hlabel
    · exact hmisfit h'
    · exact hvalues (mem_fillings_of_resolve h
        (mem_placeholders_of_hasBraced hname hplaceholder))

/-- The value of `a` makes a placeholder when its own value has been filled in. -/
theorem resolve_hasLabel_late :
    (PathTemplate.mk "/\x7bx\x7ba\x7dy\x7d\x7bxby\x7d" (.ofList
      [("xby", .ofText "v"), ("a", .ofText "b")])).resolve.result = .ok "/\x7bxby\x7dv" ∧
    HasBraced IsLabel "/\x7bxby\x7dv".toList ∧
    HasBraced IsMisfit "/\x7bx\x7ba\x7dy\x7d\x7bxby\x7d".toList := by
  have hresolve : (PathTemplate.mk "/\x7bx\x7ba\x7dy\x7d\x7bxby\x7d" (.ofList
      [("xby", .ofText "v"), ("a", .ofText "b")])).resolve.result = .ok "/\x7bxby\x7dv" := rfl
  obtain ⟨hlabel, hmisfit⟩ := resolve_hasLabel_iff "/\x7bx\x7ba\x7dy\x7d\x7bxby\x7d"
  have hleft : HasBraced IsLabel "/\x7bxby\x7dv".toList := by
    refine (hlabel _ _ hresolve).mpr ⟨['/'], "x\x7ba\x7dy".toList, "\x7bxby\x7d".toList, ?_⟩
    refine ⟨by decide, by decide, by decide, by decide, by decide, ?_, by decide⟩
    exact List.forall_iff_forall_mem.mp (by decide)
  refine ⟨hresolve, hleft, Classical.not_not.mp fun hnone => ?_⟩
  exact hmisfit.mpr hnone _ _ hresolve hleft

/-- A name with a hyphen is neither filled in nor reported missing. -/
theorem resolve_hyphenated :
    (ofString "/users/\x7buser-id\x7d").resolve.result = .ok "/users/\x7buser-id\x7d" ∧
    ((ofString "/users/\x7buser-id\x7d").insert "user-id" (.ofText "1")).resolve =
      ⟨[.unusedArgument "user-id"], .ok "/users/\x7buser-id\x7d"⟩ ∧
    HasBraced IsLabel "/users/\x7buser-id\x7d".toList := by
  refine ⟨rfl, rfl, "/users/".toList, "user-id".toList, [], by decide, by decide, ?_, by decide⟩
  exact List.forall_iff_forall_mem.mp (by decide)

end StoreClient.PathTemplate
