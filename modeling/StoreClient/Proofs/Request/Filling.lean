import StoreClient.Proofs.Request.Substitution

/-!
Filling in the arguments of a path. Only arguments that the path asks for take part. The first of
these that has no text fails the whole (`fill_eq_error_iff`); if all have one, each takes the place of
its placeholder in the path as it is by then, and what is left over are the names that no argument
was given for (`fill_eq_ok`).
-/

namespace StoreClient.PathTemplate

/-- The arguments that are asked for, each with the characters that it is written as. -/
def fillings (names : List String) (args : List (String × Param)) : List (String × List Char) :=
  args.filterMap fun arg =>
    if arg.1 ∈ names then arg.2.text.toOption.map fun text => (arg.1, encodeValue text) else none

/-- A path in which values take the places of placeholders, one name after another. -/
def replaceEach (values : List (String × List Char)) (path : List Char) : List Char :=
  values.foldl (fun path value => replaceAll (placeholder value.1) value.2 path) path

section
variable {names : List String} {name : String} {args args' : List (String × Param)}
  {x : String × List Char}

theorem mem_fillings : x ∈ fillings names args ↔
    ∃ arg ∈ args, arg.1 ∈ names ∧ ∃ text, arg.2.text = .ok text ∧ (arg.1, encodeValue text) = x := by
  rw [fillings, List.mem_filterMap]
  refine exists_congr fun arg => and_congr_right fun _ => ?_
  by_cases h : arg.1 ∈ names
  · cases htext : arg.2.text <;> simp [h, Except.toOption]
  · simp [h]

theorem fillings_append_pair {a b : String × Param} {s t : String} (ha : a.1 ∈ names)
    (hs : a.2.text = .ok s) (hb : b.1 ∈ names) (ht : b.2.text = .ok t)
    (args : List (String × Param)) :
    fillings names (args ++ [a, b]) =
      fillings names args ++ [(a.1, encodeValue s), (b.1, encodeValue t)] := by
  rw [fillings, List.filterMap_append]
  simp [fillings, ha, hs, hb, ht, Except.toOption]

theorem fillings_perm (h : args.Perm args') : (fillings names args).Perm (fillings names args') :=
  h.filterMap _

theorem nodup_fillings (h : (args.map (·.1)).Nodup) : ((fillings names args).map (·.1)).Nodup := by
  rw [List.Nodup, List.pairwise_map] at h ⊢
  refine h.filterMap _ fun arg arg' hne x hx x' hx' => ?_
  have hname {arg : String × Param} {x : String × List Char}
      (hx : x ∈ fillings names [arg]) : x.1 = arg.1 := by
    obtain ⟨arg', harg, -, text, -, rfl⟩ := mem_fillings.mp hx
    rw [List.mem_singleton.mp harg]
  rw [hname (List.mem_filterMap.mpr ⟨arg, List.mem_singleton_self _, hx⟩),
    hname (List.mem_filterMap.mpr ⟨arg', List.mem_singleton_self _, hx'⟩)]
  exact hne

theorem mem_erase_iff_of_not_mem (hname : name ∉ args.map (·.1)) {arg : String × Param}
    (harg : arg ∈ args) : arg.1 ∈ names.erase name ↔ arg.1 ∈ names := by
  refine List.mem_erase_of_ne ?_
  rintro rfl
  exact hname (List.mem_map_of_mem harg)

theorem filter_mem_erase (hname : name ∉ args.map (·.1)) :
    args.filter (·.1 ∈ names.erase name) = args.filter (·.1 ∈ names) :=
  List.filter_congr fun _ harg => decide_eq_decide.mpr (mem_erase_iff_of_not_mem hname harg)

theorem fillings_erase (hname : name ∉ args.map (·.1)) :
    fillings (names.erase name) args = fillings names args := by
  rw [fillings, fillings]
  apply List.filterMap_congr
  intro arg harg
  simp only [mem_erase_iff_of_not_mem hname harg]

/-- Filling in fails with the first argument that is asked for and has no text. -/
theorem fill_eq_error_iff (hargs : (args.map (·.1)).Nodup) {path : List Char} {e : Error} :
    (fill path names args).result = .error e ↔
      ∃ cause, FirstError (fun arg => arg.2.text) (args.filter (·.1 ∈ names)) cause ∧
        e = .param cause := by
  induction args generalizing path names with
  | nil =>
    constructor
    · intro h
      cases h
    · rintro ⟨_, h, -⟩
      cases h
  | cons arg args ih =>
    obtain ⟨name, param⟩ := arg
    obtain ⟨hname, hargs⟩ := List.nodup_cons.mp hargs
    rw [fill]
    by_cases h : name ∈ names
    · rw [if_pos h, Logged.result_bind, Logged.result_ofExcept, bind_eq_error,
        List.filter_cons_of_pos (by simpa using h)]
      simp only [mapError_eq_error, mapError_eq_ok, ih hargs, filter_mem_erase hname]
      constructor
      · rintro (⟨cause, hcause, rfl⟩ | ⟨_, htext, cause, hcause, rfl⟩)
        · exact ⟨cause, .here hcause, rfl⟩
        · exact ⟨cause, .there htext hcause, rfl⟩
      · rintro ⟨cause, hcause, rfl⟩
        cases hcause with
        | here hcause => exact .inl ⟨cause, hcause, rfl⟩
        | there htext hcause => exact .inr ⟨_, htext, cause, hcause, rfl⟩
    · rw [if_neg h, Logged.result_bind, Logged.result_warn,
        List.filter_cons_of_neg (by simpa using h)]
      exact ih hargs

/-- Filling in arguments that all have a text replaces one placeholder after another. -/
theorem fill_eq_ok (hargs : (args.map (·.1)).Nodup) (hnames : names.Nodup)
    (htexts : ∀ arg ∈ args, arg.1 ∈ names → arg.2.isSendable) (path : List Char) :
    (fill path names args).result =
      .ok (replaceEach (fillings names args) path, names.filter (· ∉ args.map (·.1))) := by
  induction args generalizing path names with
  | nil => simp [fill, fillings, replaceEach]
  | cons arg args ih =>
    obtain ⟨name, param⟩ := arg
    obtain ⟨hname, hargs⟩ := List.nodup_cons.mp hargs
    obtain ⟨htext, hrest⟩ := List.forall_mem_cons.mp htexts
    rw [fill]
    by_cases h : name ∈ names
    · obtain ⟨text, htext⟩ := Param.text_isOk_iff.mpr (htext h)
      have hcons : fillings names ((name, param) :: args) =
          (name, encodeValue text) :: fillings names args := by
        rw [fillings, List.filterMap_cons_some (b := (name, encodeValue text))]
        · rfl
        · rw [if_pos h, htext]
          rfl
      rw [if_pos h, Logged.result_bind, Logged.result_ofExcept, htext, hcons,
        ← filter_erase_not_mem hnames, ← fillings_erase hname]
      refine ih hargs (hnames.erase name) ?_ _
      exact fun arg harg hn => hrest arg harg (List.mem_of_mem_erase hn)
    · have hcons : fillings names ((name, param) :: args) = fillings names args := by
        rw [fillings, List.filterMap_cons_none]
        · rfl
        · exact if_neg h
      rw [if_neg h, Logged.result_bind, Logged.result_warn, hcons,
        ← filter_not_mem_cons h]
      exact ih hargs hnames hrest path

end

/-! ### Resolving -/

/-- The placeholders of a path that no argument is given for, in order. -/
def unbound (path : PathTemplate) : List String :=
  ((placeholders path.template).filter (· ∉ path.args.names)).mergeSort (· ≤ ·)

/-- The path with every argument filled in that it asks for. -/
def filled (path : PathTemplate) : String :=
  String.ofList
    (replaceEach (fillings (placeholders path.template) path.args.entries) path.template.toList)

/-- Whether every argument that the path asks for has a text. -/
def IsWritable (path : PathTemplate) : Prop :=
  ∀ arg ∈ path.args.entries, arg.1 ∈ placeholders path.template → arg.2.isSendable

variable {path : PathTemplate}

theorem unbound_eq_nil_iff : path.unbound = [] ↔
    ∀ name ∈ placeholders path.template, name ∈ path.args.names := by
  rw [unbound, ← List.length_eq_zero_iff, List.length_mergeSort, List.length_eq_zero_iff,
    List.filter_eq_nil_iff]
  simp

/-- A path whose arguments have texts is resolved unless one is missing. -/
theorem resolve_of_isWritable (h : path.IsWritable) :
    path.resolve.result =
      if path.unbound = [] then .ok path.filled
      else .error (.unresolvedPath path.filled path.unbound) := by
  have hfill := fill_eq_ok path.args.distinct (nodup_placeholders path.template) h
    path.template.toList
  have hempty : path.unbound = [] ↔
      ((placeholders path.template).filter (· ∉ path.args.entries.map (·.1))).isEmpty := by
    rw [unbound_eq_nil_iff, List.isEmpty_iff, List.filter_eq_nil_iff]
    simp [NameMap.names]
  rw [resolve, Logged.result_bind, hfill]
  simp only [hempty]
  change (if _ then _ else _ : Logged String).result = _
  split <;> rfl

theorem isWritable_iff : path.IsWritable ↔
    ∀ cause, ¬ FirstError (fun arg => arg.2.text)
      (path.args.entries.filter (·.1 ∈ placeholders path.template)) cause := by
  rw [← forall_isOk_iff, IsWritable]
  simp only [List.mem_filter, decide_eq_true_iff, and_imp, Param.text_isOk_iff]

/-- Resolving fails with the first argument that is asked for and has no text, and if there is none,
with the names that are left over. -/
theorem resolve_eq_error_iff {e : Error} :
    path.resolve.result = .error e ↔
      (∃ cause, FirstError (fun arg => arg.2.text)
        (path.args.entries.filter (·.1 ∈ placeholders path.template)) cause ∧ e = .param cause) ∨
      (path.IsWritable ∧ path.unbound ≠ [] ∧ e = .unresolvedPath path.filled path.unbound) := by
  by_cases h : path.IsWritable
  · have hnone := isWritable_iff.mp h
    rw [resolve_of_isWritable h]
    by_cases hunbound : path.unbound = []
    · simp [hunbound, hnone]
    · simp [hunbound, hnone, h, eq_comm]
  · simp only [h, false_and, or_false]
    have hfail {e : Error} : (fill path.template.toList (placeholders path.template)
        path.args.entries).result = .error e ↔ _ := fill_eq_error_iff path.args.distinct
    rw [← hfail]
    cases hfill : (fill path.template.toList (placeholders path.template)
        path.args.entries).result with
    | error e' =>
      have hresolve : path.resolve.result = .error e' := by
        rw [resolve, Logged.result_bind, hfill]
        rfl
      rw [hresolve, Except.error.injEq, Except.error.injEq]
    | ok filled =>
      refine (h (isWritable_iff.mpr fun cause hcause => ?_)).elim
      rw [(fill_eq_error_iff path.args.distinct).mpr ⟨cause, hcause, rfl⟩] at hfill
      cases hfill

/-- A path is resolved exactly if each of its placeholders has an argument with a text. -/
theorem resolve_isOk_iff : (∃ resolved, path.resolve.result = .ok resolved) ↔
    ∀ name ∈ placeholders path.template,
      ∃ param, path.args.get? name = some param ∧ param.isSendable := by
  constructor
  · rintro ⟨resolved, h⟩
    have hwritable : path.IsWritable := by
      refine isWritable_iff.mpr fun cause hcause => ?_
      rw [resolve_eq_error_iff.mpr (.inl ⟨cause, hcause, rfl⟩)] at h
      cases h
    rw [resolve_of_isWritable hwritable] at h
    split at h
    · next hunbound =>
      intro name hname
      have hbound := unbound_eq_nil_iff.mp hunbound name hname
      obtain ⟨param, hparam⟩ := NameMap.mem_names_iff.mp hbound
      exact ⟨param, hparam, hwritable (name, param) (NameMap.get?_eq_some_iff.mp hparam) hname⟩
    · cases h
  · intro h
    have hwritable : path.IsWritable := by
      intro arg harg hname
      obtain ⟨param, hparam, hs⟩ := h arg.1 hname
      cases hparam.symm.trans (NameMap.get?_eq_some_iff.mpr harg)
      exact hs
    have hunbound : path.unbound = [] := unbound_eq_nil_iff.mpr fun name hname =>
      let ⟨param, hparam, _⟩ := h name hname
      NameMap.mem_names_iff.mpr ⟨param, hparam⟩
    exact ⟨path.filled, by rw [resolve_of_isWritable hwritable, if_pos hunbound]⟩

end StoreClient.PathTemplate
