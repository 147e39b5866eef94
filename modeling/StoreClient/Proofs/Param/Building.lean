import Mathlib.Data.Finset.Dedup
import Mathlib.Data.Finset.Card
import StoreClient.Proofs.Param.Bindings

/-!
Maps as they are built up, one binding at a time or by taking over a whole map. However that is
done, a map shows of everything that was ever bound in it each name once, where it was first bound,
with its last value (`Building.reflects_map`). Taking over a map is binding again, in turn, all that
was ever bound in it (`Building.merge_map`), so that it does not matter how merges are bracketed. What
is sent follows the order of the names (`Bindings.sentInOrder`).
-/

namespace StoreClient

/-- How a map has come about. -/
inductive Building (α : Type) where
  | empty
  | add (b : Building α) (name : String) (a : α)
  | merge (b other : Building α)

namespace Building

variable {α : Type}

def map : Building α → NameMap α
  | empty => .empty
  | add b name a => b.map.insert name a
  | merge b other => b.map.merge other.map

/-- Everything that was bound on the way, the oldest binding first. -/
def history : Building α → List (String × α)
  | empty => []
  | add b name a => b.history ++ [(name, a)]
  | merge b other => b.history ++ other.history

end Building

namespace NameMap

variable {α : Type}

/-- What a map has to show of the bindings that were made in it. -/
structure Reflects (m : NameMap α) (es : List (String × α)) : Prop where
  /-- A name has the last of the values that it was bound to. -/
  get? : ∀ name, m.get? name = (es.reverse.find? (·.1 = name)).map (·.2)
  /-- Names stand where they were first bound. -/
  names : m.names = (es.map (·.1)).eraseDups
  mem_names : ∀ name, name ∈ m.names ↔ name ∈ es.map (·.1)
  nodup : m.names.Nodup
  size : m.size = (es.map (·.1)).toFinset.card

theorem reflects_ofList (es : List (String × α)) : (ofList es).Reflects es := by
  have hacc := accumulates_insertAll empty es
  have hnames : (ofList es).names = (es.map (·.1)).eraseDups := by
    have hall : (es.map (·.1)).filter (· ∉ (empty : NameMap α).names) = es.map (·.1) :=
      List.filter_eq_self.mpr fun _ _ => decide_eq_true List.not_mem_nil
    exact hacc.names.trans (congrArg List.eraseDups hall)
  have hmem : ∀ name, name ∈ (ofList es).names ↔ name ∈ es.map (·.1) := by
    intro name
    rw [hnames, List.mem_eraseDups]
  refine ⟨fun name => ?_, hnames, hmem, (ofList es).distinct, ?_⟩
  · exact (hacc.get? name).trans Option.or_none
  · have hset : (es.map (·.1)).toFinset = (ofList es).names.toFinset := by
      ext name
      rw [List.mem_toFinset, List.mem_toFinset, hmem]
    rw [hset, List.toFinset_card_of_nodup (l := (ofList es).names) (ofList es).distinct]
    exact (List.length_map _).symm

/-- What becomes of a map when another is merged into it. -/
structure Takes (m other merged : NameMap α) : Prop where
  /-- The bindings of the other map are added one by one. -/
  inTurn : merged = other.entries.foldl (fun m e => m.insert e.1 e.2) m
  /-- Names keep their places; those that only the other map binds follow in its order. -/
  names : merged.names = m.names ++ other.names.filter (· ∉ m.names)
  /-- The other map wins where both bind a name. -/
  get? : ∀ name, merged.get? name = (other.get? name).or (m.get? name)

theorem takes_merge (m other : NameMap α) : m.Takes other (m.merge other) :=
  ⟨rfl, names_merge m other, get?_merge m other⟩

end NameMap

namespace Building

variable {α : Type}

/-- However a map is built, it is the map of all that was bound on the way. -/
theorem map_eq_ofList (b : Building α) : b.map = .ofList b.history := by
  induction b with
  | empty => rfl
  | add b name a ih =>
    rw [map, ih]
    exact (NameMap.insertAll_append .empty b.history [(name, a)]).symm
  | merge b other ih ihother =>
    rw [map, ih, ihother, NameMap.merge_ofList]
    exact (NameMap.insertAll_append .empty b.history other.history).symm

theorem reflects_map (b : Building α) : b.map.Reflects b.history :=
  b.map_eq_ofList ▸ NameMap.reflects_ofList b.history

/-- Taking over a map is binding again all that was ever bound in it. -/
theorem merge_map (m : NameMap α) (b : Building α) : m.merge b.map = m.insertAll b.history := by
  rw [map_eq_ofList, NameMap.merge_ofList]

end Building

namespace Bindings

/-- Pairs are sent in the order of the names, each with what its name is bound to. -/
structure SentInOrder (bindings : Bindings) : Prop where
  query : ∀ text, bindings.formText = .ok text → ∃ groups,
    List.Forall₂ (fun name group => ∃ param, bindings.get? name = some param ∧
      ∃ texts, param.queryTexts = .ok texts ∧ group = texts.map (name, ·)) bindings.names groups ∧
    text = String.ofList (Form.encode groups.flatten)
  headers : ∀ fields, bindings.textPairs = .ok fields →
    List.Forall₂ (fun name field => ∃ param, bindings.get? name = some param ∧
      field.1 = name ∧ param.text = .ok field.2) bindings.names fields

/-- What goes along with the entries goes along with the names and what they are bound to. -/
theorem forall₂_names {γ : Type} {bindings : Bindings} {R : String × Param → γ → Prop}
    {ys : List γ} (h : List.Forall₂ R bindings.entries ys) :
    List.Forall₂ (fun name y => ∃ param, bindings.get? name = some param ∧ R (name, param) y)
      bindings.names ys := by
  have hbound : ∀ e ∈ bindings.entries, bindings.get? e.1 = some e.2 :=
    fun e he => NameMap.get?_eq_some_iff.mpr he
  rw [NameMap.names, List.forall₂_map_left_iff]
  exact ((List.forall₂_and_left _ _).mpr ⟨hbound, h⟩).imp fun e y he => ⟨e.2, he⟩

theorem sentInOrder (bindings : Bindings) : bindings.SentInOrder where
  query := by
    intro text h
    obtain ⟨pairs, hpairs, htext⟩ := bind_eq_ok.mp h
    obtain ⟨groups, hgroups, h⟩ := bind_eq_ok.mp hpairs
    cases h
    cases htext
    refine ⟨groups, (forall₂_names (mapM_eq_ok.mp hgroups)).imp ?_, rfl⟩
    rintro name group ⟨param, hparam, hgroup⟩
    obtain ⟨texts, htexts, h⟩ := bind_eq_ok.mp hgroup
    cases h
    exact ⟨param, hparam, texts, htexts, rfl⟩
  headers fields h := forall₂_names (textPairs_eq_ok h)

end Bindings

/-- Whatever is bound and merged, each name keeps its first place and its last value, and each is
listed once. To merge a map is to add its bindings in turn: names keep their places, the values of
the map that is merged win, brackets do not matter and the empty map changes nothing. What is sent
follows the order of the names. -/
theorem Building.keeps_first_place (b : Building Param) (m m' m'' : Bindings) :
    b.map.Reflects b.history ∧ Bindings.SentInOrder b.map ∧
    m.Takes m' (m.merge m') ∧ m.merge b.map = m.insertAll b.history ∧
    (m.merge m').merge m'' = m.merge (m'.merge m'') ∧
    NameMap.empty.merge m = m ∧ m.merge .empty = m :=
  ⟨b.reflects_map, Bindings.sentInOrder b.map, m.takes_merge m', b.merge_map m,
    NameMap.merge_assoc m m' m'', NameMap.empty_merge m, NameMap.merge_empty m⟩

example : (Building.merge ((Building.empty.add "a" 1).add "b" 2)
    ((Building.empty.add "c" 3).add "a" 4)).map.entries = [("a", 4), ("b", 2), ("c", 3)] := by
  decide

end StoreClient
