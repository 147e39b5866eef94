import Mathlib.Data.List.Nodup
import StoreClient.NameMap

/-!
What a map of names holds. A name has the value that it is listed with (`get?_eq_some_iff`), since
no name is listed twice. In a merge the names of the first map keep their places and take their
values from the second where it has one; the names that only the second binds follow in its order
(`entries_merge`). Whatever is bound in turn, each name keeps its first place and its last value
(`accumulates_insertAll`).
-/

namespace StoreClient

/-- The first of the items with a key is the only one where no key occurs twice. -/
theorem find?_of_nodup {α κ : Type} [DecidableEq κ] {key : α → κ} {xs : List α}
    (hdistinct : (xs.map key).Nodup) {x : α} (hx : x ∈ xs) :
    xs.find? (key · = key x) = some x := by
  have hsome : (xs.find? (key · = key x)).isSome :=
    List.find?_isSome.mpr ⟨x, hx, decide_eq_true rfl⟩
  obtain ⟨y, hy⟩ := Option.isSome_iff_exists.mp hsome
  have hkey : key y = key x := by simpa using List.find?_some hy
  rw [hy, List.inj_on_of_nodup_map hdistinct (List.mem_of_find?_eq_some hy) hx hkey]

theorem nodup_eraseDups {α : Type} [BEq α] [LawfulBEq α] (xs : List α) : xs.eraseDups.Nodup := by
  -- the rest of the result comes from a filtered list, which is no tail of `xs`
  induction h : xs.length using Nat.strongRecOn generalizing xs with
  | ind n ih =>
    cases xs with
    | nil => exact .nil
    | cons x xs =>
      rw [List.eraseDups_cons, List.nodup_cons, List.mem_eraseDups]
      have hlt : (xs.filter fun y => !y == x).length < n :=
        h ▸ Nat.lt_succ_of_le (List.length_filter_le ..)
      exact ⟨by simp, ih _ hlt _ rfl⟩

namespace NameMap

variable {α : Type} {m : NameMap α} {name : String} {a : α}

/-! ### Looking up -/

theorem mem_entries_of_get? (h : m.get? name = some a) : (name, a) ∈ m.entries := by
  obtain ⟨⟨n, b⟩, he, rfl⟩ := Option.map_eq_some_iff.mp h
  have hn : n = name := by simpa using List.find?_some he
  exact hn ▸ List.mem_of_find?_eq_some he

theorem get?_eq_some_iff : m.get? name = some a ↔ (name, a) ∈ m.entries := by
  constructor
  · exact mem_entries_of_get?
  · intro h
    rw [get?, find?_of_nodup m.distinct h]
    rfl

theorem forall_get?_iff {P : String × α → Prop} :
    (∀ name a, m.get? name = some a → P (name, a)) ↔ ∀ e ∈ m.entries, P e := by
  simp only [get?_eq_some_iff, Prod.forall]

theorem mem_names_iff : name ∈ m.names ↔ ∃ a, m.get? name = some a := by
  simp only [get?_eq_some_iff]
  rw [names]
  simp

theorem get?_eq_none_iff : m.get? name = none ↔ name ∉ m.names := by
  rw [mem_names_iff, Option.eq_none_iff_forall_ne_some, not_exists]

/-! ### Binding -/

/-- A name that is bound already changes its value, a new one comes last. -/
theorem insertEntry_eq (name : String) (a : α) {entries : List (String × α)}
    (hdistinct : (entries.map (·.1)).Nodup) :
    insertEntry name a entries =
      if name ∈ entries.map (·.1) then entries.map fun e => if e.1 = name then (name, a) else e
      else entries ++ [(name, a)] := by
  induction entries with
  | nil => rfl
  | cons e entries ih =>
    obtain ⟨n, b⟩ := e
    obtain ⟨hn, hdistinct⟩ := List.nodup_cons.mp hdistinct
    rw [insertEntry]
    by_cases h : n = name
    · subst h
      have hrest : entries.map (fun e => if e.1 = n then (n, a) else e) = entries := by
        refine (List.map_congr_left fun e he => if_neg fun h => hn ?_).trans (List.map_id' _)
        exact List.mem_map.mpr ⟨e, he, h⟩
      have hmem : n ∈ ((n, b) :: entries).map (·.1) := List.mem_cons_self
      rw [if_pos rfl, if_pos hmem, List.map_cons, if_pos rfl, hrest]
    · rw [if_neg h, ih hdistinct]
      simp only [List.map_cons, List.mem_cons, Ne.symm h, false_or, if_neg h, List.cons_append]
      split <;> rfl

/-- An entry with the value that a list gives to its name, if it gives one. -/
def override (es : List (String × α)) (e : String × α) : String × α :=
  (e.1, ((es.find? (·.1 = e.1)).map (·.2)).getD e.2)

theorem override_of_not_mem {es : List (String × α)} {e : String × α} (h : e.1 ∉ es.map (·.1)) :
    override es e = e := by
  have hnone : es.find? (·.1 = e.1) = none := by
    apply List.find?_eq_none.mpr
    intro x hx hname
    exact h (of_decide_eq_true hname ▸ List.mem_map_of_mem hx)
  rw [override, hnone]
  rfl

theorem override_cons (x : String × α) (es : List (String × α)) (e : String × α) :
    override (x :: es) e = if x.1 = e.1 then (e.1, x.2) else override es e := by
  by_cases h : x.1 = e.1 <;> simp [override, h]

/-- What is bound in turn: old names in their places, new ones behind them. -/
theorem entries_insertAll (m : NameMap α) {es : List (String × α)} (hes : (es.map (·.1)).Nodup) :
    (m.insertAll es).entries = m.entries.map (override es) ++ es.filter (·.1 ∉ m.names) := by
  induction es generalizing m with
  | nil =>
    have hmap : m.entries.map (override []) = m.entries :=
      (List.map_congr_left fun e _ => rfl).trans (List.map_id' _)
    rw [hmap, List.filter_nil, List.append_nil]
    rfl
  | cons e es ih =>
    obtain ⟨he, hes⟩ := List.nodup_cons.mp hes
    have hinsert : (m.insert e.1 e.2).entries = if e.1 ∈ m.names then
        m.entries.map (fun x => if x.1 = e.1 then e else x) else m.entries ++ [e] :=
      insertEntry_eq e.1 e.2 m.distinct
    have hnames : (m.insert e.1 e.2).names = if e.1 ∈ m.names then m.names else m.names ++ [e.1] :=
      map_fst_insertEntry e.1 e.2 m.entries
    have hself : override es e = e := override_of_not_mem he
    refine (ih (m.insert e.1 e.2) hes).trans ?_
    rw [hinsert, hnames]
    by_cases hname : e.1 ∈ m.names
    · rw [if_pos hname, if_pos hname, List.map_map,
        List.filter_cons_of_neg (by simpa using hname)]
      refine congrArg (· ++ _) (List.map_congr_left fun x _ => ?_)
      rw [Function.comp_apply, override_cons]
      by_cases h : x.1 = e.1
      · rw [if_pos h, if_pos h.symm, hself, h]
      · rw [if_neg h, if_neg (Ne.symm h)]
    · have hold : m.entries.map (override es) = m.entries.map (override (e :: es)) := by
        apply List.map_congr_left
        intro x hx
        rw [override_cons, if_neg]
        exact fun h => hname (h ▸ List.mem_map_of_mem hx)
      have hnew : es.filter (·.1 ∉ m.names ++ [e.1]) = es.filter (·.1 ∉ m.names) := by
        apply List.filter_congr
        intro x hx
        have h : x.1 ≠ e.1 := fun h => he (List.mem_map.mpr ⟨x, hx, h⟩)
        simp [h]
      rw [if_neg hname, if_neg hname, List.map_append, List.append_assoc, hold, hnew,
        List.filter_cons_of_pos (by simpa using hname), List.map_singleton, hself]
      rfl

theorem entries_ofList {es : List (String × α)} (hes : (es.map (·.1)).Nodup) :
    (ofList es).entries = es := by
  refine (entries_insertAll empty hes).trans ?_
  rw [empty, List.map_nil, List.nil_append]
  exact List.filter_eq_self.mpr (by simp [names])

/-- A merge keeps the places of the first map and takes the values of the second. -/
theorem entries_merge (m other : NameMap α) :
    (m.merge other).entries =
      m.entries.map (fun e => (e.1, (other.get? e.1).getD e.2)) ++
        other.entries.filter (·.1 ∉ m.names) :=
  entries_insertAll m other.distinct

/-! ### Binding in turn -/

/-- A list of names with one more, unless it is there already. -/
def addName (names : List String) (name : String) : List String :=
  if name ∈ names then names else names ++ [name]

/-- Of the names added in turn, the new ones come last, each where it first occurs. -/
theorem foldl_addName (names added : List String) :
    added.foldl addName names = names ++ (added.filter (· ∉ names)).eraseDups := by
  induction added generalizing names with
  | nil => simp
  | cons name added ih =>
    rw [List.foldl_cons, ih, addName]
    by_cases h : name ∈ names
    · rw [if_pos h, List.filter_cons_of_neg (by simpa using h)]
    · have hrest : added.filter (· ∉ names ++ [name]) =
          (added.filter (· ∉ names)).filter (!· == name) := by
        rw [List.filter_filter]
        apply List.filter_congr
        intro n _
        by_cases hn : n = name <;> simp [hn]
      rw [if_neg h, List.filter_cons_of_pos (by simpa using h), List.eraseDups_cons, hrest,
        List.append_assoc, List.singleton_append]

theorem insertAll_append (m : NameMap α) (es es' : List (String × α)) :
    m.insertAll (es ++ es') = (m.insertAll es).insertAll es' :=
  List.foldl_append

theorem names_insert (m : NameMap α) (name : String) (a : α) :
    (m.insert name a).names = addName m.names name :=
  map_fst_insertEntry name a m.entries

theorem names_insertAll (m : NameMap α) (es : List (String × α)) :
    (m.insertAll es).names = (es.map (·.1)).foldl addName m.names := by
  induction es generalizing m with
  | nil => rfl
  | cons e es ih =>
    refine (ih (m.insert e.1 e.2)).trans ?_
    rw [names_insert, List.map_cons, List.foldl_cons]

theorem find?_insertEntry (name : String) (a : α) (es : List (String × α)) (n : String) :
    (insertEntry name a es).find? (·.1 = n) =
      if name = n then some (name, a) else es.find? (·.1 = n) := by
  induction es with
  | nil => by_cases h : name = n <;> simp [insertEntry, h]
  | cons e es ih =>
    obtain ⟨k, b⟩ := e
    rw [insertEntry]
    by_cases hk : k = name
    · subst hk
      by_cases h : k = n <;> simp [h]
    · rw [if_neg hk, List.find?_cons, List.find?_cons, ih]
      by_cases h : k = n
      · subst h
        simp [Ne.symm hk]
      · simp [h]

theorem get?_insert (m : NameMap α) (name : String) (a : α) (n : String) :
    (m.insert name a).get? n = if name = n then some a else m.get? n := by
  rw [get?, insert, find?_insertEntry]
  by_cases h : name = n
  · rw [if_pos h, if_pos h]
    rfl
  · rw [if_neg h, if_neg h]
    rfl

theorem get?_insertAll (m : NameMap α) (es : List (String × α)) (n : String) :
    (m.insertAll es).get? n = ((es.reverse.find? (·.1 = n)).map (·.2)).or (m.get? n) := by
  induction es generalizing m with
  | nil => rfl
  | cons e es ih =>
    refine (ih (m.insert e.1 e.2)).trans ?_
    rw [get?_insert, List.reverse_cons, List.find?_append, Option.map_or, Option.or_assoc]
    refine congrArg _ ?_
    by_cases h : e.1 = n <;> simp [h]

/-- What becomes of a map when some bindings are added in turn: the names that it has stay in their
places, new ones follow where they first occur, and the last value of each name counts. -/
structure Accumulates (m : NameMap α) (es : List (String × α)) (m' : NameMap α) : Prop where
  names : m'.names = m.names ++ ((es.map (·.1)).filter (· ∉ m.names)).eraseDups
  get? : ∀ n, m'.get? n = ((es.reverse.find? (·.1 = n)).map (·.2)).or (m.get? n)

theorem accumulates_insertAll (m : NameMap α) (es : List (String × α)) :
    m.Accumulates es (m.insertAll es) :=
  ⟨(names_insertAll m es).trans (foldl_addName ..), get?_insertAll m es⟩

theorem get?_merge (m other : NameMap α) (n : String) :
    (m.merge other).get? n = (other.get? n).or (m.get? n) := by
  rw [merge, get?_insertAll]
  refine congrArg (Option.or · _) ?_
  cases h : other.get? n with
  | none =>
    rw [Option.map_eq_none_iff, List.find?_eq_none]
    intro e he hn
    rw [get?_eq_none_iff] at h
    exact h (of_decide_eq_true hn ▸ List.mem_map_of_mem (List.mem_reverse.mp he))
  | some a =>
    have hmem := List.mem_reverse.mpr (get?_eq_some_iff.mp h)
    have hdistinct : (other.entries.reverse.map (·.1)).Nodup := by
      rw [List.map_reverse]
      exact List.nodup_reverse.mpr other.distinct
    rw [find?_of_nodup hdistinct hmem]
    rfl

/-! ### Merging -/

theorem names_merge (m other : NameMap α) :
    (m.merge other).names = m.names ++ other.names.filter (· ∉ m.names) := by
  rw [names, entries_merge, List.map_append, List.map_map, names, names, List.filter_map]
  rfl

/-- The entries of a map are its names with what they are bound to. -/
theorem entries_eq_filterMap (m : NameMap α) :
    m.entries = m.names.filterMap fun name => (m.get? name).map (name, ·) := by
  have hentries : m.entries.filterMap (fun e => (m.get? e.1).map (e.1, ·)) =
      m.entries.filterMap some := by
    apply List.filterMap_congr
    intro e he
    rw [get?_eq_some_iff.mpr he]
    rfl
  rw [names, List.filterMap_map]
  exact (List.filterMap_some.symm.trans hentries.symm)

/-- Maps agree if they bind the same names in the same order to the same values. -/
theorem ext_get? {m m' : NameMap α} (hnames : m.names = m'.names)
    (hget : ∀ name, m.get? name = m'.get? name) : m = m' := by
  have hentries : m.entries = m'.entries := by
    simp only [entries_eq_filterMap, hnames, hget]
  cases m
  cases m'
  cases hentries
  rfl

theorem merge_insert (m other : NameMap α) (name : String) (a : α) :
    m.merge (other.insert name a) = (m.merge other).insert name a := by
  apply ext_get?
  · simp only [names_merge, names_insert, addName]
    by_cases hother : name ∈ other.names <;> by_cases hm : name ∈ m.names <;> simp [hother, hm]
  · intro n
    simp only [get?_merge, get?_insert]
    split <;> rfl

theorem merge_insertAll (m other : NameMap α) (es : List (String × α)) :
    m.merge (other.insertAll es) = (m.merge other).insertAll es := by
  induction es generalizing other with
  | nil => rfl
  | cons e es ih =>
    refine (ih (other.insert e.1 e.2)).trans ?_
    rw [merge_insert]
    rfl

theorem merge_ofList (m : NameMap α) (es : List (String × α)) :
    m.merge (ofList es) = m.insertAll es :=
  merge_insertAll m .empty es

theorem merge_assoc (m m' m'' : NameMap α) : (m.merge m').merge m'' = m.merge (m'.merge m'') :=
  (merge_insertAll m m' m''.entries).symm

@[simp] theorem merge_empty (m : NameMap α) : m.merge .empty = m := rfl

@[simp] theorem empty_merge (m : NameMap α) : NameMap.empty.merge m = m := by
  apply ext_get?
  · rw [names_merge]
    exact List.filter_eq_self.mpr fun name _ => decide_eq_true (List.not_mem_nil)
  · intro n
    rw [get?_merge]
    exact Option.or_none

end NameMap

end StoreClient
