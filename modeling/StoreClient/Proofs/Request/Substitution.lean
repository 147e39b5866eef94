import StoreClient.Proofs.NameMap
import StoreClient.Proofs.Param.Sendable
import StoreClient.Proofs.Request.Pieces
import StoreClient.Proofs.Text.Percent

/-!
Resolving a path is one substitution. Arguments are filled in one after another, each over the whole
path as it is by then. As long as all braces of the path belong to placeholders, what has been
filled in holds no brace, so that no later step finds anything in it (`fill_render`), and the
outcome is the path with every placeholder replaced at once, in whatever order the arguments come.
-/

namespace StoreClient.PathTemplate

/-- The text of a piece when every placeholder has a value. -/
def Piece.fill (value : String → String) : Piece → List Char
  | .char c => [c]
  | .slot name => encodeValue (value name)

/-- What an argument is written as: letters and digits, and percent signs to escape with. -/
theorem of_mem_encodeValue {text : String} {c : Char} (h : c ∈ encodeValue text) :
    c = '%' ∨ c.isAlphanum := by
  rcases Percent.of_mem_encode h with h | h | h
  · exact .inr h
  · exact .inl h
  · exact .inr h

theorem ne_brace_of_mem_encodeValue {text : String} {c : Char} (h : c ∈ encodeValue text) :
    c ≠ '\x7b' ∧ c ≠ '\x7d' := by
  rcases of_mem_encodeValue h with rfl | h
  · decide
  · constructor <;> (rintro rfl; cases h)

/-! ### Substitution -/

theorem substitute_none (ps : List Piece) : substitute (fun _ => none) ps = ps := by
  induction ps with
  | nil => rfl
  | cons p ps ih =>
    rw [substitute_cons, ih]
    cases p <;> rfl

/-- What has been filled in stays as it is under the next substitution. -/
theorem substitute_substitute (σ τ : String → Option (List Char)) (ps : List Piece) :
    substitute τ (substitute σ ps) = substitute (fun name => (σ name).or (τ name)) ps := by
  induction ps with
  | nil => rfl
  | cons p ps ih =>
    rw [substitute_cons, substitute_cons, substitute, List.flatMap_append]
    refine congrArg₂ (· ++ ·) ?_ ih
    cases p with
    | char c => rfl
    | slot name =>
      cases h : σ name with
      | none => simp [Piece.substitute, h]
      | some cs =>
        simp only [Piece.substitute, h, Option.some_or, List.flatMap_map]
        exact (List.map_eq_flatMap).symm

theorem valid_of_mem_substitute {ps : List Piece} (hps : ∀ p ∈ ps, p.Valid)
    {σ : String → Option (List Char)} (hσ : ∀ name cs, σ name = some cs →
      ∀ c ∈ cs, c ≠ '\x7b' ∧ c ≠ '\x7d') {q : Piece} (hq : q ∈ substitute σ ps) : q.Valid := by
  obtain ⟨p, hp, hq⟩ := List.mem_flatMap.mp hq
  cases p with
  | char c =>
    cases List.mem_singleton.mp hq
    exact hps _ hp
  | slot name =>
    rw [Piece.substitute] at hq
    split at hq
    · next cs h =>
      obtain ⟨c, hc, rfl⟩ := List.mem_map.mp hq
      exact hσ name cs h c hc
    · cases List.mem_singleton.mp hq
      exact hps _ hp

theorem render_substitute_all {ps : List Piece} {value : String → String}
    {σ : String → Option (List Char)}
    (hσ : ∀ name ∈ names ps, σ name = some (encodeValue (value name))) :
    render (substitute σ ps) = ps.flatMap (Piece.fill value) := by
  induction ps with
  | nil => rfl
  | cons p ps ih =>
    rw [substitute_cons, render_append, List.flatMap_cons]
    refine congrArg₂ (· ++ ·) ?_ (ih fun name hname => hσ name ?_)
    · cases p with
      | char c => rfl
      | slot name =>
        rw [Piece.substitute, hσ name (mem_names.mpr List.mem_cons_self)]
        exact render_map_char _
    · exact mem_names.mpr (List.mem_cons_of_mem _ (mem_names.mp hname))

/-! ### Filling in -/

/-- The values that a list of arguments gives to the names that are asked for. -/
def given (value : String → String) (names : List String) (args : List (String × Param))
    (name : String) : Option (List Char) :=
  if name ∈ names ∧ name ∈ args.map (·.1) then some (encodeValue (value name)) else none

section
variable {value : String → String} {ns : List String} {name : String} {param : Param}
  {args : List (String × Param)}

theorem given_cons (hname : name ∈ ns) (hns : ns.Nodup) :
    given value ns ((name, param) :: args) = fun n =>
      (only name (encodeValue (value name)) n).or (given value (ns.erase name) args n) := by
  funext n
  by_cases h : n = name
  · subst h
    simp [given, only, hname]
  · simp only [given, only, List.map_cons, List.mem_cons, h, hns.mem_erase_iff, false_or, if_false,
      Option.none_or, ne_eq, not_false_eq_true, true_and]

theorem given_cons_of_not_mem (hname : name ∉ ns) :
    given value ns ((name, param) :: args) = given value ns args := by
  funext n
  by_cases h : n = name
  · subst h
    simp [given, hname]
  · simp only [given, List.map_cons, List.mem_cons, h, false_or]

theorem filter_erase_not_mem (hns : ns.Nodup) :
    (ns.erase name).filter (· ∉ args.map (·.1)) =
      ns.filter (· ∉ ((name, param) :: args).map (·.1)) := by
  rw [hns.erase_eq_filter, List.filter_filter]
  apply List.filter_congr
  intro n _
  by_cases h : n = name
  · simp [h]
  · rw [bne_iff_ne.mpr h, Bool.and_true]
    simp only [List.map_cons, List.mem_cons, h, false_or]

theorem filter_not_mem_cons (hname : name ∉ ns) :
    ns.filter (· ∉ args.map (·.1)) = ns.filter (· ∉ ((name, param) :: args).map (·.1)) := by
  apply List.filter_congr
  intro n hn
  have h : n ≠ name := fun h => hname (h ▸ hn)
  simp [h]

end

/-- Filling in arguments in turn substitutes all of their values at once, and leaves the names over
that none of them has. -/
theorem fill_render (value : String → String) {args : List (String × Param)} {ns : List String}
    {ps : List Piece} (hps : ∀ p ∈ ps, p.Valid) (hns : ns.Nodup)
    (hslots : ∀ name ∈ ns, (Piece.slot name).Valid)
    (htext : ∀ arg ∈ args, arg.1 ∈ ns → arg.2.text = .ok (value arg.1)) :
    (fill (render ps) ns args).result =
      .ok (render (substitute (given value ns args) ps), ns.filter (· ∉ args.map (·.1))) := by
  induction args generalizing ps ns with
  | nil =>
    have hgiven : given value ns [] = fun _ => none := by
      funext name
      simp [given]
    rw [fill, Logged.result_pure, hgiven, substitute_none]
    simp
  | cons arg args ih =>
    obtain ⟨name, param⟩ := arg
    obtain ⟨htext, hrest⟩ := List.forall_mem_cons.mp htext
    rw [fill]
    by_cases hname : name ∈ ns
    · rw [if_pos hname, Logged.result_bind, Logged.result_ofExcept, htext hname]
      simp only [Except.mapError, bind, Except.bind]
      rw [replaceAll_render hps (hslots name hname), ih _ (hns.erase name),
        substitute_substitute, ← given_cons hname hns, filter_erase_not_mem hns]
      · exact fun n hn => hslots n (List.mem_of_mem_erase hn)
      · exact fun arg harg hn => hrest arg harg (List.mem_of_mem_erase hn)
      · intro q hq
        apply valid_of_mem_substitute hps _ hq
        intro n cs hcs c hc
        rw [only] at hcs
        split at hcs
        · cases hcs
          exact ne_brace_of_mem_encodeValue hc
        · cases hcs
    · rw [if_neg hname, Logged.result_bind, Logged.result_warn]
      simp only [bind, Except.bind]
      rw [ih hps hns hslots hrest, given_cons_of_not_mem hname, filter_not_mem_cons hname]

/-! ### Resolving -/

theorem resolve_eq_ok {path : PathTemplate} {ps : List Piece} {value : String → String}
    (hps : ∀ p ∈ ps, p.Valid) (ht : path.template.toList = render ps)
    (hargs : ∀ name ∈ names ps, ∃ param, path.args.get? name = some param ∧
      param.text = .ok (value name)) :
    path.resolve.result = .ok (String.ofList (ps.flatMap (Piece.fill value))) := by
  have hmem : ∀ {name}, name ∈ placeholders path.template ↔ name ∈ names ps :=
    mem_placeholders hps ht
  have hbound : ∀ name ∈ names ps, name ∈ path.args.entries.map (·.1) := by
    intro name hname
    obtain ⟨param, hparam, -⟩ := hargs name hname
    exact NameMap.mem_names_iff.mpr ⟨param, hparam⟩
  have hslots : ∀ name ∈ placeholders path.template, (Piece.slot name).Valid := by
    intro name hname
    exact hps _ (mem_names.mp (hmem.mp hname))
  have htexts : ∀ arg ∈ path.args.entries, arg.1 ∈ placeholders path.template →
      arg.2.text = .ok (value arg.1) := by
    intro arg harg hname
    obtain ⟨param, hparam, htext⟩ := hargs _ (hmem.mp hname)
    cases hparam.symm.trans (NameMap.get?_eq_some_iff.mpr harg)
    exact htext
  have hfill := fill_render value hps (nodup_placeholders path.template) hslots htexts
  have hgiven : ∀ name ∈ names ps, given value (placeholders path.template) path.args.entries name =
      some (encodeValue (value name)) := by
    intro name hname
    exact if_pos ⟨hmem.mpr hname, hbound name hname⟩
  have hnone : (placeholders path.template).filter (· ∉ path.args.entries.map (·.1)) = [] := by
    apply List.filter_eq_nil_iff.mpr
    intro name hname
    simpa using hbound name (hmem.mp hname)
  rw [resolve, Logged.result_bind, ht, hfill, hnone, render_substitute_all hgiven]
  rfl

theorem ne_brace_of_mem_fill {ps : List Piece} (hps : ∀ p ∈ ps, p.Valid) {value : String → String}
    {c : Char} (hc : c ∈ ps.flatMap (Piece.fill value)) : c ≠ '\x7b' ∧ c ≠ '\x7d' := by
  obtain ⟨p, hp, hc⟩ := List.mem_flatMap.mp hc
  cases p with
  | char d =>
    cases List.mem_singleton.mp hc
    exact hps _ hp
  | slot name => exact ne_brace_of_mem_encodeValue hc

/-- Resolving succeeds as soon as every placeholder is bound to a value that can be sent, whatever
else is bound and in whatever order, and gives the path with all placeholders replaced at once. No
brace is left. -/
theorem resolve_eq_substitution {path : PathTemplate} {ps : List Piece}
    (hps : ∀ p ∈ ps, p.Valid) (ht : path.template.toList = render ps)
    (hargs : ∀ name ∈ names ps, ∃ param, path.args.get? name = some param ∧ param.isSendable) :
    ∃ value : String → String,
      (∀ name ∈ names ps, ∃ param, path.args.get? name = some param ∧
        param.text = .ok (value name)) ∧
      path.resolve.result = .ok (String.ofList (ps.flatMap (Piece.fill value))) ∧
      ∀ c ∈ ps.flatMap (Piece.fill value), c ≠ '\x7b' ∧ c ≠ '\x7d' := by
  have htext : ∀ name, ∃ text, name ∈ names ps →
      ∃ param, path.args.get? name = some param ∧ param.text = .ok text := by
    intro name
    by_cases hname : name ∈ names ps
    · obtain ⟨param, hparam, hs⟩ := hargs name hname
      obtain ⟨text, htext⟩ := Param.text_isOk_iff.mpr hs
      exact ⟨text, fun _ => ⟨param, hparam, htext⟩⟩
    · exact ⟨"", fun h => (hname h).elim⟩
  choose value hvalue using htext
  exact ⟨value, hvalue, resolve_eq_ok hps ht hvalue, fun c hc => ne_brace_of_mem_fill hps hc⟩

/-- One name begins the other, the values spell placeholders, and an object is bound beside them. -/
theorem resolve_nested_names :
    (PathTemplate.mk "/\x7bx\x7d/\x7bxy\x7d/\x7bx\x7d" (.ofList
      [("xy", .ofText "\x7bx\x7d"), ("z", .ofValue (.object [])),
        ("x", .ofList [.text "\x7bxy\x7d", .null])])).resolve.result =
      .ok "/%7Bxy%7D%2C/%7Bx%7D/%7Bxy%7D%2C" := by
  obtain ⟨value, hvalue, h, -⟩ := @resolve_eq_substitution
    (PathTemplate.mk "/\x7bx\x7d/\x7bxy\x7d/\x7bx\x7d" (.ofList
      [("xy", .ofText "\x7bx\x7d"), ("z", .ofValue (.object [])),
        ("x", .ofList [.text "\x7bxy\x7d", .null])]))
    [.char '/', .slot "x", .char '/', .slot "xy", .char '/', .slot "x"]
    (by decide) (by decide) (by
      intro name hname
      have hname : "x" = name ∨ "xy" = name ∨ "x" = name := by
        simpa [names, Piece.name?] using hname
      rcases hname with rfl | rfl | rfl <;> exact ⟨_, rfl, rfl⟩)
  have hx : value "x" = "\x7bxy\x7d," := by
    obtain ⟨param, hparam, htext⟩ := hvalue "x" (by decide)
    cases hparam
    exact (Except.ok.inj htext).symm
  have hxy : value "xy" = "\x7bx\x7d" := by
    obtain ⟨param, hparam, htext⟩ := hvalue "xy" (by decide)
    cases hparam
    exact (Except.ok.inj htext).symm
  rw [h]
  simp only [List.flatMap_cons, List.flatMap_nil, Piece.fill, hx, hxy]
  exact congrArg Except.ok (by decide)

end StoreClient.PathTemplate
