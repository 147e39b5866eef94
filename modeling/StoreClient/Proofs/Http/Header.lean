import StoreClient.Http.Header

/-!
Headers as they are built up. Giving a name a value replaces what it had and leaves every other name
alone, so that no name ever has two values (`nodup_insertAll`) and the last value given to a name is
the one that it has (`get?_insertAll`).
-/

namespace StoreClient

namespace Header

/-- The form in which names are compared. -/
def lower (name : String) : String := String.ofList (name.toList.map Char.toLower)

theorem parseName_eq_ok {text name : String} (h : parseName text = .ok name) :
    name = lower text := by
  rw [parseName] at h
  split at h
  · cases h
  · exact (Except.ok.inj h).symm

/-- A name is made of token characters, of which there are up to 65535. -/
def IsName (text : String) : Prop :=
  text ≠ "" ∧ text.length ≤ 65535 ∧ ∀ c ∈ text.toList, isTokenChar c

/-- A value is made of visible characters, spaces and tabs, and of whatever is not ASCII. -/
def IsValue (text : String) : Prop := ∀ c ∈ text.toList, isValueChar c

theorem isName_iff {text : String} : IsName text ↔
    (text.isEmpty || maxNameLength < text.length || !text.toList.all isTokenChar) = false := by
  rw [Bool.or_eq_false_iff, Bool.or_eq_false_iff, decide_eq_false_iff_not, Nat.not_lt]
  simp [IsName, maxNameLength, and_assoc]

theorem parseName_eq_error_iff {text : String} {e : Error} :
    parseName text = .error e ↔ ¬ IsName text ∧ e = .name := by
  rw [parseName, isName_iff]
  cases text.isEmpty || maxNameLength < text.length || !text.toList.all isTokenChar <;>
    simp [eq_comm]

theorem parseValue_eq_error_iff {text : String} {e : Error} :
    parseValue text = .error e ↔ ¬ IsValue text ∧ e = .value := by
  rw [parseValue, IsValue, ← List.all_eq_true]
  cases text.toList.all isValueChar <;> simp [eq_comm]

theorem isName_of_parseName {text name : String} (h : parseName text = .ok name) :
    IsName text := by
  refine Classical.byContradiction fun hname => ?_
  rw [parseName_eq_error_iff.mpr ⟨hname, rfl⟩] at h
  cases h

theorem parseValue_eq_ok_iff {text value : String} :
    parseValue text = .ok value ↔ IsValue text ∧ value = text := by
  rw [parseValue, IsValue, ← List.all_eq_true]
  cases text.toList.all isValueChar <;> simp [eq_comm]

theorem parseValue_eq_ok {text value : String} (h : parseValue text = .ok value) :
    value = text :=
  (parseValue_eq_ok_iff.mp h).2

theorem isValue_of_parseValue {text value : String} (h : parseValue text = .ok value) :
    IsValue value := by
  obtain ⟨hvalue, rfl⟩ := parseValue_eq_ok_iff.mp h
  exact hvalue

end Header

namespace Headers

theorem get?_insert (headers : Headers) (name value n : String) :
    (headers.insert name value).get? n = if n = name then some value else headers.get? n := by
  rw [get?, insert, List.find?_append]
  by_cases h : n = name
  · subst h
    have hnone : (headers.filter (·.1 ≠ n)).find? (·.1 = n) = none := by
      apply List.find?_eq_none.mpr
      intro e he hname
      exact of_decide_eq_true (List.mem_filter.mp he).2 (of_decide_eq_true hname)
    rw [if_pos rfl, hnone]
    simp
  · have hfind : (headers.filter (·.1 ≠ name)).find? (·.1 = n) = headers.find? (·.1 = n) := by
      rw [List.find?_filter]
      refine congrArg (headers.find? ·) (funext fun e => ?_)
      by_cases he : e.1 = n <;> simp [he, h]
    rw [if_neg h, hfind, get?]
    simp [Ne.symm h]

theorem nodup_insert {headers : Headers} (h : (headers.map (·.1)).Nodup) (name value : String) :
    ((headers.insert name value).map (·.1)).Nodup := by
  rw [insert, List.map_append, List.map_singleton, List.nodup_append]
  refine ⟨h.sublist (List.filter_sublist.map _), by simp, ?_⟩
  intro n hn m hm
  obtain ⟨e, he, rfl⟩ := List.mem_map.mp hn
  cases List.mem_singleton.mp hm
  exact of_decide_eq_true (List.mem_filter.mp he).2

/-- Gives each name of a list its value, in turn. -/
def insertAll (headers : Headers) (fields : List (String × String)) : Headers :=
  fields.foldl (fun headers field => headers.insert field.1 field.2) headers

/-- The last value that a list gives to a name. -/
def last? (fields : List (String × String)) (n : String) : Option String :=
  (fields.filter (·.1 = n)).getLast?.map (·.2)

theorem last?_cons (field : String × String) (fields : List (String × String)) (n : String) :
    last? (field :: fields) n =
      (last? fields n).or (if field.1 = n then some field.2 else none) := by
  by_cases h : field.1 = n
  · rw [last?, last?, List.filter_cons_of_pos (by simpa using h), List.getLast?_cons, if_pos h]
    cases (fields.filter (·.1 = n)).getLast? <;> rfl
  · rw [last?, last?, List.filter_cons_of_neg (by simpa using h), if_neg h, Option.or_none]

theorem last?_append (fields fields' : List (String × String)) (n : String) :
    last? (fields ++ fields') n = (last? fields' n).or (last? fields n) := by
  rw [last?, List.filter_append, List.getLast?_append, Option.map_or]
  rfl

theorem get?_insertAll (headers : Headers) (fields : List (String × String)) (n : String) :
    (headers.insertAll fields).get? n = (last? fields n).or (headers.get? n) := by
  induction fields generalizing headers with
  | nil => rfl
  | cons field fields ih =>
    refine (ih (headers.insert field.1 field.2)).trans ?_
    rw [last?_cons, get?_insert, Option.or_assoc]
    refine congrArg _ ?_
    by_cases h : field.1 = n
    · rw [if_pos h, if_pos h.symm, Option.some_or]
    · rw [if_neg h, if_neg (Ne.symm h), Option.none_or]

theorem nodup_insertAll {headers : Headers} (h : (headers.map (·.1)).Nodup)
    (fields : List (String × String)) : ((headers.insertAll fields).map (·.1)).Nodup := by
  induction fields generalizing headers with
  | nil => exact h
  | cons field fields ih => exact ih (nodup_insert h field.1 field.2)

end Headers

end StoreClient
