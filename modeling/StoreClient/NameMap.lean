/-!
Finite maps from names that remember the order in which the names were first bound. Binding a name
again changes its value and keeps its place.
-/

namespace StoreClient

/-- A map from names; no name is bound twice. -/
structure NameMap (α : Type) where
  entries : List (String × α)
  distinct : (entries.map (·.1)).Nodup

namespace NameMap

variable {α : Type}

def empty : NameMap α := ⟨[], .nil⟩

def insertEntry (name : String) (a : α) : List (String × α) → List (String × α)
  | [] => [(name, a)]
  | (n, b) :: rest => if n = name then (n, a) :: rest else (n, b) :: insertEntry name a rest

/-- A name that is bound already keeps its place, a new one comes last. -/
theorem map_fst_insertEntry (name : String) (a : α) (entries : List (String × α)) :
    (insertEntry name a entries).map (·.1) =
      if name ∈ entries.map (·.1) then entries.map (·.1) else entries.map (·.1) ++ [name] := by
  induction entries with
  | nil => rfl
  | cons e rest ih =>
    by_cases h : e.1 = name
    · simp [insertEntry, h]
    · simp only [insertEntry, if_neg h, List.map_cons, ih, List.mem_cons, Ne.symm h, false_or]
      split <;> rfl

theorem nodup_insertEntry (name : String) (a : α) {entries : List (String × α)}
    (h : (entries.map (·.1)).Nodup) : ((insertEntry name a entries).map (·.1)).Nodup := by
  rw [map_fst_insertEntry]
  split
  · exact h
  · next hn => exact List.nodup_append.2 ⟨h, by simp, by rintro x hx y hy rfl; simp_all⟩

def insert (m : NameMap α) (name : String) (a : α) : NameMap α :=
  ⟨insertEntry name a m.entries, nodup_insertEntry name a m.distinct⟩

def insertAll (m : NameMap α) (entries : List (String × α)) : NameMap α :=
  entries.foldl (fun m e => m.insert e.1 e.2) m

/-- The map of a list, of which the last entry of each name counts. -/
def ofList (entries : List (String × α)) : NameMap α := empty.insertAll entries

/-- Both maps; where both bind a name, `other` counts. -/
def merge (m other : NameMap α) : NameMap α := m.insertAll other.entries

def get? (m : NameMap α) (name : String) : Option α :=
  (m.entries.find? (·.1 = name)).map (·.2)

/-- The names in the order in which they were first bound. -/
def names (m : NameMap α) : List String := m.entries.map (·.1)

def size (m : NameMap α) : Nat := m.entries.length

def isEmpty (m : NameMap α) : Bool := m.entries.isEmpty

end NameMap

end StoreClient
