import StoreClient.Proofs.Request.Filling
import StoreClient.Proofs.Request.Occurrence
import StoreClient.Proofs.Text.Boundary

/-!
What resolving a path comes to. The names that count are those of the placeholders that a search
finds in the template. An argument of such a name that has no text is reported even if others are
missing; then the names without an argument are reported, sorted by their bytes; and only then is
the path resolved (`Settles`). Arguments of other names play no part, whatever they are.
-/

namespace StoreClient.PathTemplate

/-- What comes of the arguments for some names. -/
inductive Settles (names : List String) (args : Bindings) : Except Error String → Prop where
  /-- The first argument of one of the names that has no text. -/
  | unsupported {front rest : List (String × Param)} {name : String} {param : Param}
      {cause : Param.Unsupported} (hargs : args.entries = front ++ (name, param) :: rest)
      (hfront : ∀ arg ∈ front, arg.1 ∈ names → ∃ text, arg.2.text = .ok text)
      (hname : name ∈ names) (htext : param.text = .error cause) :
      Settles names args (.error (.param cause))
  /-- The names that have no argument, where those that have one have its text. -/
  | unbound {missing : List String} (path : String)
      (htexts : ∀ arg ∈ args.entries, arg.1 ∈ names → ∃ text, arg.2.text = .ok text)
      (hmissing : ∀ name, name ∈ missing ↔ name ∈ names ∧ name ∉ args.names)
      (hsorted : missing.Pairwise fun name name' => Utf8.ofString name < Utf8.ofString name')
      (hne : missing ≠ []) : Settles names args (.error (.unresolvedPath path missing))
  /-- Each name has an argument with a text. -/
  | resolved (path : String)
      (htexts : ∀ arg ∈ args.entries, arg.1 ∈ names → ∃ text, arg.2.text = .ok text)
      (hbound : ∀ name ∈ names, name ∈ args.names) : Settles names args (.ok path)

theorem Settles.congr {names names' : List String} {args : Bindings}
    {outcome : Except Error String} (h : Settles names args outcome)
    (hnames : ∀ name, name ∈ names ↔ name ∈ names') : Settles names' args outcome := by
  cases h with
  | unsupported hargs hfront hname htext =>
    exact .unsupported hargs (fun arg harg hn => hfront arg harg ((hnames _).mpr hn))
      ((hnames _).mp hname) htext
  | unbound path htexts hmissing hsorted hne =>
    refine .unbound path (fun arg harg hn => htexts arg harg ((hnames _).mpr hn)) ?_ hsorted hne
    intro name
    rw [hmissing, hnames]
  | resolved path htexts hbound =>
    exact .resolved path (fun arg harg hn => htexts arg harg ((hnames _).mpr hn))
      fun name hn => hbound name ((hnames name).mpr hn)

/-! ### What is missing -/

section
variable {path : PathTemplate}

theorem mem_unbound_iff {name : String} :
    name ∈ path.unbound ↔ name ∈ placeholders path.template ∧ name ∉ path.args.names := by
  rw [unbound, List.mem_mergeSort, List.mem_filter, decide_eq_true_iff]

theorem pairwise_unbound (path : PathTemplate) :
    path.unbound.Pairwise fun name name' => Utf8.ofString name < Utf8.ofString name' := by
  have hnodup : path.unbound.Nodup :=
    List.nodup_mergeSort.mpr ((nodup_placeholders path.template).filter _)
  have hsorted : path.unbound.Pairwise fun name name' => decide (name ≤ name') = true := by
    apply List.pairwise_mergeSort
    · intro a b c hab hbc
      rw [decide_eq_true_iff] at hab hbc ⊢
      exact String.le_trans hab hbc
    · intro a b
      simpa using String.le_total a b
  refine (List.pairwise_and_iff.mpr ⟨hsorted, hnodup⟩).imp fun {name name'} h => ?_
  have hlt : name < name' := by
    refine Decidable.by_contra fun hlt => h.2 ?_
    exact String.le_antisymm (of_decide_eq_true h.1) (String.not_lt.mp hlt)
  exact Utf8.ofString_lt hlt

theorem settles_resolve (path : PathTemplate) :
    Settles (placeholders path.template) path.args path.resolve.result := by
  by_cases h : path.IsWritable
  · have htexts : ∀ arg ∈ path.args.entries, arg.1 ∈ placeholders path.template →
        ∃ text, arg.2.text = .ok text :=
      fun arg harg hname => Param.text_isOk_iff.mpr (h arg harg hname)
    rw [resolve_of_isWritable h]
    by_cases hunbound : path.unbound = []
    · rw [if_pos hunbound]
      exact .resolved _ htexts (unbound_eq_nil_iff.mp hunbound)
    · rw [if_neg hunbound]
      exact .unbound _ htexts (fun _ => mem_unbound_iff) (pairwise_unbound path) hunbound
  · rw [isWritable_iff] at h
    obtain ⟨cause, hcause⟩ := Classical.not_forall_not.mp h
    rw [resolve_eq_error_iff.mpr (.inl ⟨cause, hcause, rfl⟩)]
    obtain ⟨front', arg, rest', hfilter, hfront, htext⟩ := firstError_iff.mp hcause
    obtain ⟨front, behind, hargs, rfl, hbehind⟩ := List.filter_eq_append_iff.mp hfilter
    obtain ⟨others, rest, rfl, hothers, hname, -⟩ := List.filter_eq_cons_iff.mp hbehind
    rw [← List.append_assoc] at hargs
    refine .unsupported hargs (fun arg' harg' hname' => ?_) (of_decide_eq_true hname) htext
    obtain harg' | harg' := List.mem_append.mp harg'
    · exact hfront arg' (List.mem_filter.mpr ⟨harg', decide_eq_true hname'⟩)
    · exact (hothers arg' harg' (decide_eq_true hname')).elim

end

/-! ### What plays no part -/

/-- Filling in passes over the arguments that are not asked for. -/
theorem fill_filter {args : List (String × Param)} (hargs : (args.map (·.1)).Nodup)
    (path : List Char) (names : List String) :
    (fill path names (args.filter (·.1 ∈ names))).result = (fill path names args).result := by
  induction args generalizing path names with
  | nil => rfl
  | cons arg args ih =>
    obtain ⟨name, param⟩ := arg
    obtain ⟨hname, hargs⟩ := List.nodup_cons.mp hargs
    by_cases h : name ∈ names
    · rw [List.filter_cons_of_pos (by simpa using h), fill, fill, if_pos h, if_pos h,
        Logged.result_bind, Logged.result_bind, ← filter_mem_erase hname]
      exact congrArg _ (funext fun text => ih hargs _ _)
    · rw [List.filter_cons_of_neg (by simpa using h), fill, if_neg h, Logged.result_bind,
        Logged.result_warn, ih hargs]
      rfl

theorem resolve_congr {path path' : PathTemplate} (htemplate : path.template = path'.template)
    (hargs : path.args.entries.filter (·.1 ∈ placeholders path.template) =
      path'.args.entries.filter (·.1 ∈ placeholders path.template)) :
    path.resolve.result = path'.resolve.result := by
  rw [resolve, resolve, Logged.result_bind, Logged.result_bind, ← htemplate,
    ← fill_filter path.args.distinct, ← fill_filter path'.args.distinct, hargs]

/-- The outcome of resolving a path, for every template and all arguments. One search finds the
placeholders of the template, and finds each of them wherever it occurs. The names that it finds and
the arguments settle the outcome, and the arguments of other names do not change it. -/
theorem resolve_outcome (path : PathTemplate) :
    ∃ found : List (Nat × String),
      (∀ found', Found 0 path.template.toList found' ↔ found' = found) ∧
      (∀ front name rest, path.template.toList = front ++ (placeholder name ++ rest) →
        name ∈ found.map (·.2) → (front.length, name) ∈ found) ∧
      Settles (found.map (·.2)) path.args path.resolve.result ∧
      ∀ args : Bindings,
        args.entries.filter (·.1 ∈ found.map (·.2)) =
          path.args.entries.filter (·.1 ∈ found.map (·.2)) →
        { path with args }.resolve.result = path.resolve.result := by
  obtain ⟨found, hfound, -⟩ := exists_found 0 path.template.toList
  have hmem {name : String} : name ∈ placeholders path.template ↔ name ∈ found.map (·.2) :=
    hfound.mem_placeholders_iff
  refine ⟨found, fun _ => hfound.eq_iff, ?_, ?_, ?_⟩
  · intro front name rest htext hname
    have hplace := hfound.mem_of_eq_append (valid_of_mem_placeholders (hmem.mpr hname)) htext
    rwa [Nat.zero_add] at hplace
  · exact (settles_resolve path).congr fun _ => hmem
  · intro args hargs
    simp only [← hmem] at hargs
    exact resolve_congr rfl hargs

end StoreClient.PathTemplate
