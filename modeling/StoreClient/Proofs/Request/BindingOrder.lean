import StoreClient.Proofs.Request.Lag

/-!
The order in which arguments are bound. Whether it is told from the resolved path depends on a single
thing: whether the values of some arguments complete the placeholder of another, which then is filled
in only if it comes behind them (`resolve_bindAll_perm_iff`).
-/

namespace StoreClient.PathTemplate

/-! ### Values of names -/

/-- The value that a list gives to a name. -/
def valueOf (values : List (String × List Char)) (name : String) : Option (List Char) :=
  (values.find? (·.1 = name)).map (·.2)

section
variable {x y : String × List Char} {xs ys : List (String × List Char)} {name : String}

theorem valueOf_nil : valueOf [] = fun _ => none := rfl

theorem valueOf_cons (x : String × List Char) (xs : List (String × List Char)) :
    valueOf (x :: xs) = fun n => (only x.1 x.2 n).or (valueOf xs n) := by
  funext n
  by_cases h : x.1 = n
  · simp [valueOf, only, h]
  · simp [valueOf, only, h, Ne.symm h]

theorem valueOf_append (xs ys : List (String × List Char)) :
    valueOf (xs ++ ys) = fun n => (valueOf xs n).or (valueOf ys n) := by
  funext n
  rw [valueOf, List.find?_append, Option.map_or]
  rfl

theorem valueOf_eq_none_iff : valueOf xs name = none ↔ name ∉ xs.map (·.1) := by
  rw [valueOf, Option.map_eq_none_iff, List.find?_eq_none]
  constructor
  · intro h hname
    obtain ⟨x, hx, rfl⟩ := List.mem_map.mp hname
    exact h x hx (decide_eq_true rfl)
  · intro h x hx heq
    exact h (of_decide_eq_true heq ▸ List.mem_map_of_mem hx)

theorem valueOf_eq_some_iff (hdistinct : (xs.map (·.1)).Nodup) {value : List Char} :
    valueOf xs name = some value ↔ (name, value) ∈ xs :=
  NameMap.get?_eq_some_iff (m := ⟨xs, hdistinct⟩)

theorem valueOf_perm (h : xs.Perm ys) (hdistinct : (xs.map (·.1)).Nodup) :
    valueOf xs = valueOf ys := by
  funext name
  apply Option.ext
  intro value
  rw [valueOf_eq_some_iff hdistinct, valueOf_eq_some_iff ((h.map _).nodup hdistinct), h.mem_iff]

theorem mem_of_valueOf {value : List Char} (h : valueOf xs name = some value) :
    (name, value) ∈ xs := by
  obtain ⟨⟨n, cs⟩, hfind, rfl⟩ := Option.map_eq_some_iff.mp h
  have hn : n = name := by simpa using List.find?_some hfind
  exact hn ▸ List.mem_of_find?_eq_some hfind

theorem braceless_of_valueOf (hfill : ∀ x ∈ xs, Fillable x) {value : List Char}
    (h : valueOf xs name = some value) : Braceless value :=
  (hfill _ (mem_of_valueOf h)).value

theorem completes_of_encloses (hdistinct : (xs.map (·.1)).Nodup) (hx : x ∈ xs) (hy : y ∈ xs)
    {text : List Char} (h : Encloses (only x.1 x.2) text y.1) :
    Completes (valueOf xs) text y.1 := by
  have hvalue {z : String × List Char} (hz : z ∈ xs) : valueOf xs z.1 = some z.2 :=
    (valueOf_eq_some_iff hdistinct).mpr hz
  refine ⟨by simp [hvalue hy], h.mono fun n hn => ?_⟩
  by_cases hname : n = x.1
  · subst hname
    rw [hvalue hx, only, if_pos rfl]
  · rw [only, if_neg hname] at hn
    cases hn

/-! ### Values filled in in any order -/

/-- Unless a placeholder is completed, values may be filled in in any order. -/
theorem replaceEach_perm (h : xs.Perm ys) (hdistinct : (xs.map (·.1)).Nodup)
    (hfill : ∀ x ∈ xs, Fillable x) {text : List Char}
    (hnone : ∀ name, ¬ Completes (valueOf xs) text name) :
    replaceEach xs text = replaceEach ys text := by
  induction h generalizing text with
  | nil => rfl
  | @cons x xs ys _ ih =>
    obtain ⟨hx, hdistinct⟩ := List.nodup_cons.mp hdistinct
    obtain ⟨hfillx, hfill⟩ := List.forall_mem_cons.mp hfill
    have hrest : ∀ name, ¬ Completes (valueOf xs) (put x text) name := by
      intro name h
      obtain ⟨n, hn⟩ := h.of_replaceAll hfillx.name hfillx.value (valueOf_eq_none_iff.mpr hx)
      rw [← valueOf_cons] at hn
      exact hnone n hn
    exact ih hdistinct hfill hrest
  | swap x y xs =>
    obtain ⟨hfilly, hfillx, -⟩ := by simpa only [List.forall_mem_cons] using hfill
    have hne : y.1 ≠ x.1 := by
      rintro h
      simp [h] at hdistinct
    obtain ⟨n, houtcomes, hcompleted⟩ := exists_outcomes hfilly hfillx hne text
    have hzero : n = 0 := by
      refine Nat.eq_zero_of_not_pos fun hpos => ?_
      rcases hcompleted hpos with h | h
      · exact hnone _ (completes_of_encloses hdistinct (by simp) (by simp) h)
      · exact hnone _ (completes_of_encloses hdistinct (by simp) (by simp) h)
    subst hzero
    exact congrArg (replaceEach xs) houtcomes.eq_of_zero
  | trans hxy _ ih₁ ih₂ =>
    refine (ih₁ hdistinct hfill hnone).trans (ih₂ ((hxy.map _).nodup hdistinct) ?_ ?_)
    · exact fun x hx => hfill x (hxy.mem_iff.mpr hx)
    · rwa [← valueOf_perm hxy hdistinct]

/-- Braces around pieces stay until the last of their placeholders is filled in. -/
theorem replaceEach_braced (hfill : ∀ x ∈ xs, Fillable x) {ps : List Piece}
    (hps : ∀ p ∈ ps, p.Valid) (hmem : name ∈ names ps) (hname : name ∉ xs.map (·.1))
    (front rest : List Char) :
    ∃ front' rest', replaceEach xs (front ++ braced (render ps) ++ rest) =
      front' ++ braced (render (substitute (valueOf xs) ps)) ++ rest' := by
  induction xs generalizing ps front rest with
  | nil =>
    refine ⟨front, rest, ?_⟩
    rw [valueOf_nil, substitute_none]
    rfl
  | cons x xs ih =>
    obtain ⟨hx, hfill⟩ := List.forall_mem_cons.mp hfill
    obtain ⟨hnamex, hname⟩ := not_or.mp (mt List.mem_cons.mpr hname)
    have hput : put x (front ++ braced (render ps) ++ rest) =
        put x front ++ braced (render (substitute (only x.1 x.2) ps)) ++ put x rest := by
      rw [List.append_assoc, List.append_assoc, put_append_braced hx]
      exact congrArg _ (replaceAll_braced hx.name hps (List.ne_nil_of_mem hmem) rest)
    have hvalid : ∀ p ∈ substitute (only x.1 x.2) ps, p.Valid := by
      refine fun p hp => valid_of_mem_substitute hps (fun n cs h => ?_) hp
      rw [only] at h
      split at h
      · cases h
        exact hx.value
      · cases h
    have hmem : name ∈ names (substitute (only x.1 x.2) ps) :=
      mem_names_substitute.mpr ⟨hmem, if_neg hnamex⟩
    obtain ⟨front', rest', hrest⟩ := ih hfill hvalid hmem hname (put x front) (put x rest)
    refine ⟨front', rest', ?_⟩
    rw [valueOf_cons, ← substitute_substitute, ← hrest, ← hput]
    rfl

/-- Where a placeholder is completed, it matters whether the last value that completes it comes
before or after its own. -/
theorem replaceEach_swap_ne (hdistinct : ((xs ++ [x, y]).map (·.1)).Nodup)
    (hfill : ∀ z ∈ xs ++ [x, y], Fillable z) {front rest : List Char} {ps : List Piece}
    (hps : Spells (valueOf (xs ++ [x, y])) ps y.1) (hx : x.1 ∈ names ps) :
    replaceEach (xs ++ [x, y]) (front ++ braced (render ps) ++ rest) ≠
      replaceEach (xs ++ [y, x]) (front ++ braced (render ps) ++ rest) := by
  obtain ⟨hfillxs, hfill⟩ := List.forall_mem_append.mp hfill
  obtain ⟨hfillx, hfilly, -⟩ := by simpa only [List.forall_mem_cons] using hfill
  have hne : x.1 ≠ y.1 := (hps.bound _ hx).1
  have hnamex : x.1 ∉ xs.map (·.1) := by
    intro hmem
    rw [List.map_append] at hdistinct
    exact (List.nodup_append.mp hdistinct).2.2 _ hmem _ List.mem_cons_self rfl
  have hvalue {n : String} (hn : n ≠ y.1) :
      valueOf (xs ++ [x, y]) n = (valueOf xs n).or (only x.1 x.2 n) := by
    have hy : only y.1 y.2 n = none := if_neg hn
    simp only [valueOf_append, valueOf_cons, valueOf_nil, hy, Option.or_none]
  obtain ⟨front', rest', hrest⟩ := replaceEach_braced hfillxs hps.valid hx hnamex front rest
  have hspells : Spells (only x.1 x.2) (substitute (valueOf xs) ps) y.1 := by
    refine ⟨?_, ?_, ?_, ?_⟩
    · exact fun p hp =>
        valid_of_mem_substitute hps.valid (fun _ _ h => braceless_of_valueOf hfillxs h) hp
    · exact List.ne_nil_of_mem (mem_names_substitute.mpr ⟨hx, valueOf_eq_none_iff.mpr hnamex⟩)
    · intro n hn
      obtain ⟨hn, hnone⟩ := mem_names_substitute.mp hn
      obtain ⟨hny, hsome⟩ := hps.bound n hn
      rw [hvalue hny, hnone, Option.none_or] at hsome
      exact ⟨hny, hsome⟩
    · rw [substitute_substitute, ← hps.spelled]
      exact congrArg render (substitute_congr fun n hn => (hvalue (hps.bound n hn).1).symm)
  rw [replaceEach, List.foldl_append, replaceEach, List.foldl_append]
  have hne := put_put_ne hfillx hfilly hne ⟨front', _, rest', rfl, hspells⟩
  rw [← hrest] at hne
  exact hne

end

/-! ### Arguments bound in any order -/

/-- A path with arguments bound in turn. -/
def bindAll (template : String) (args : List (String × Param)) : PathTemplate :=
  args.foldl (fun path arg => path.insert arg.1 arg.2) (ofString template)

section
variable {template : String} {args args' : List (String × Param)} {ns : List String}
  {x : String × List Char}

theorem foldl_insert (path : PathTemplate) (args : List (String × Param)) :
    args.foldl (fun path arg => path.insert arg.1 arg.2) path =
      ⟨path.template, path.args.insertAll args⟩ := by
  induction args generalizing path with
  | nil => rfl
  | cons arg args ih => exact ih (path.insert arg.1 arg.2)

theorem bindAll_eq (template : String) (args : List (String × Param)) :
    bindAll template args = ⟨template, .ofList args⟩ :=
  foldl_insert (ofString template) args

theorem entries_bindAll (hdistinct : (args.map (·.1)).Nodup) :
    (bindAll template args).args.entries = args := by
  rw [bindAll_eq]
  exact NameMap.entries_ofList hdistinct

theorem template_bindAll : (bindAll template args).template = template := by rw [bindAll_eq]

theorem isWritable_bindAll (hdistinct : (args.map (·.1)).Nodup)
    (hsend : ∀ arg ∈ args, arg.2.isSendable) : (bindAll template args).IsWritable := by
  intro arg harg _
  rw [entries_bindAll hdistinct] at harg
  exact hsend arg harg

theorem filled_bindAll (hdistinct : (args.map (·.1)).Nodup) :
    (bindAll template args).filled =
      String.ofList (replaceEach (fillings (placeholders template) args) template.toList) := by
  rw [filled, entries_bindAll hdistinct, template_bindAll]

theorem unbound_bindAll_perm (h : args.Perm args') (hdistinct : (args.map (·.1)).Nodup) :
    (bindAll template args).unbound = (bindAll template args').unbound := by
  have hnames (name : String) : name ∈ args.map (·.1) ↔ name ∈ args'.map (·.1) :=
    (h.map _).mem_iff
  simp only [unbound, NameMap.names, entries_bindAll hdistinct,
    entries_bindAll ((h.map _).nodup hdistinct), template_bindAll, hnames]

/-- Two orders lead to the same answer exactly if they lead to the same path, since they leave the
same names over. -/
theorem resolve_bindAll_eq_iff (h : args.Perm args') (hdistinct : (args.map (·.1)).Nodup)
    (hsend : ∀ arg ∈ args, arg.2.isSendable) :
    (bindAll template args).resolve.result = (bindAll template args').resolve.result ↔
      replaceEach (fillings (placeholders template) args) template.toList =
        replaceEach (fillings (placeholders template) args') template.toList := by
  have hdistinct' := (h.map _).nodup hdistinct
  have hsend' : ∀ arg ∈ args', arg.2.isSendable := fun arg harg => hsend arg (h.mem_iff.mpr harg)
  rw [resolve_of_isWritable (isWritable_bindAll hdistinct hsend),
    resolve_of_isWritable (isWritable_bindAll hdistinct' hsend'), unbound_bindAll_perm h hdistinct,
    filled_bindAll hdistinct, filled_bindAll hdistinct']
  split
  · rw [Except.ok.injEq, String.ofList_inj]
  · rw [Except.error.injEq, Error.unresolvedPath.injEq, String.ofList_inj, and_iff_left rfl]

theorem exists_perm_append_pair {α : Type} {xs : List α} {x y : α} (hx : x ∈ xs) (hy : y ∈ xs)
    (hne : x ≠ y) : ∃ others, (others ++ [x, y]).Perm xs := by
  obtain ⟨us, vs, rfl⟩ := List.append_of_mem hx
  have hy : y ∈ us ++ vs := by simpa [hne.symm] using hy
  obtain ⟨us', vs', hsplit⟩ := List.append_of_mem hy
  refine ⟨us' ++ vs', ?_⟩
  have hpair : (y :: (us' ++ vs')).Perm (us ++ vs) := hsplit ▸ List.perm_middle.symm
  exact List.perm_append_comm.trans ((hpair.cons x).trans List.perm_middle.symm)

end

/-- Arguments may be bound in any order exactly if none of them has its placeholder completed by the
values of others. Where one has, some order puts its value there and some other leaves its
placeholder. -/
theorem resolve_bindAll_perm_iff {template : String} {args : List (String × Param)}
    (hdistinct : (args.map (·.1)).Nodup) (hsend : ∀ arg ∈ args, arg.2.isSendable) :
    (∀ args₁ args₂, args₁.Perm args → args₂.Perm args →
      (bindAll template args₁).resolve.result = (bindAll template args₂).resolve.result) ↔
    ∀ name, ¬ Completes (valueOf (fillings (placeholders template) args)) template.toList name := by
  have hdistinct' {args' : List (String × Param)} (h : args'.Perm args) :
      (args'.map (·.1)).Nodup := (h.map _).nodup_iff.mpr hdistinct
  have hvalueOf {args' : List (String × Param)} (h : args'.Perm args) :
      valueOf (fillings (placeholders template) args') =
        valueOf (fillings (placeholders template) args) :=
    valueOf_perm (fillings_perm h) (nodup_fillings (hdistinct' h))
  have hiff {args₁ args₂ : List (String × Param)} (h₁ : args₁.Perm args) (h₂ : args₂.Perm args) :
      (bindAll template args₁).resolve.result = (bindAll template args₂).resolve.result ↔ _ :=
    resolve_bindAll_eq_iff (h₁.trans h₂.symm) (hdistinct' h₁)
      fun arg harg => hsend arg (h₁.mem_iff.mp harg)
  constructor
  · rintro h name ⟨hname, front, ps, rest, htext, hps⟩
    obtain ⟨n, hn⟩ := List.exists_mem_of_ne_nil _ hps.slots
    obtain ⟨hne, hsome⟩ := hps.bound n hn
    obtain ⟨_, hx⟩ := Option.isSome_iff_exists.mp hsome
    obtain ⟨x, hxargs, hxname, xtext, hxtext, hxeq⟩ := mem_fillings.mp (mem_of_valueOf hx)
    obtain ⟨_, hy⟩ := Option.isSome_iff_exists.mp hname
    obtain ⟨y, hyargs, hyname, ytext, hytext, hyeq⟩ := mem_fillings.mp (mem_of_valueOf hy)
    cases hxeq
    cases hyeq
    obtain ⟨others, hperm⟩ := exists_perm_append_pair hxargs hyargs fun h => hne (h ▸ rfl)
    have hswap : (others ++ [y, x]).Perm args :=
      (List.Perm.append_left others (.swap x y [])).trans hperm
    have hxy := fillings_append_pair hxname hxtext hyname hytext others
    have hyx := fillings_append_pair hyname hytext hxname hxtext others
    have heq := (hiff hperm hswap).mp (h _ _ hperm hswap)
    rw [htext, hxy, hyx] at heq
    refine replaceEach_swap_ne ?_ ?_ ?_ hn heq
    · rw [← hxy]
      exact nodup_fillings (hdistinct' hperm)
    · rw [← hxy]
      exact fun z hz => fillable_of_mem_fillings hz
    · rwa [← hxy, hvalueOf hperm]
  · intro hnone args₁ args₂ h₁ h₂
    rw [hiff h₁ h₂]
    refine replaceEach_perm (fillings_perm (h₁.trans h₂.symm)) (nodup_fillings (hdistinct' h₁))
      (fun x hx => fillable_of_mem_fillings hx) fun name h => ?_
    rw [hvalueOf h₁] at h
    exact hnone name h

/-- Braces that are nested and unbalanced, but values that no name is made of. -/
theorem resolve_bindAll_nested :
    (bindAll "/\x7bx\x7ba\x7dy\x7d/\x7bb\x7d\x7d\x7b"
      [("a", .ofText "c"), ("b", .ofText "d")]).resolve.result =
    (bindAll "/\x7bx\x7ba\x7dy\x7d/\x7bb\x7d\x7d\x7b"
      [("b", .ofText "d"), ("a", .ofText "c")]).resolve.result := by
  refine (resolve_bindAll_perm_iff (by decide) (by decide)).mpr ?_ _ _ (.refl _) (.swap _ _ [])
  rintro name ⟨hname, -, ps, -, -, hps⟩
  have hvalues : fillings (placeholders "/\x7bx\x7ba\x7dy\x7d/\x7bb\x7d\x7d\x7b")
      [("a", .ofText "c"), ("b", .ofText "d")] = [("a", ['c']), ("b", ['d'])] := rfl
  rw [hvalues] at hname hps
  obtain ⟨n, hn⟩ := List.exists_mem_of_ne_nil _ hps.slots
  obtain ⟨_, hvalue⟩ := Option.isSome_iff_exists.mp (hps.bound n hn).2
  have hsubset := hps.subset hn hvalue
  obtain ⟨_, hnamevalue⟩ := Option.isSome_iff_exists.mp hname
  have hn := mem_of_valueOf hvalue
  have hname := mem_of_valueOf hnamevalue
  simp only [List.mem_cons, Prod.mk.injEq, List.not_mem_nil, or_false] at hn hname
  rcases hname with ⟨rfl, -⟩ | ⟨rfl, -⟩ <;> rcases hn with ⟨-, rfl⟩ | ⟨-, rfl⟩ <;>
    exact absurd (hsubset List.mem_cons_self) (by decide)

/-- The value of `a` completes the placeholder of `xby`. -/
theorem resolve_bindAll_completed :
    (bindAll "/\x7bx\x7ba\x7dy\x7d\x7bxby\x7d"
      [("a", .ofText "b"), ("xby", .ofText "v")]).resolve.result = .ok "/vv" ∧
    (bindAll "/\x7bx\x7ba\x7dy\x7d\x7bxby\x7d"
      [("xby", .ofText "v"), ("a", .ofText "b")]).resolve.result = .ok "/\x7bxby\x7dv" :=
  ⟨rfl, rfl⟩

end StoreClient.PathTemplate
