import StoreClient.Proofs.Json.Array
import StoreClient.Proofs.Json.String

/-!
Objects are read back as records. A member whose name the record knows makes the change that its
value stands for; the members come one after another, each name once, so that all of these changes
are made in the order of the text.
-/

namespace StoreClient.Json

/-- A member as it is written: its name, and its value behind a colon. -/
def memberText (m : String × List Char) : List Char := quote m.1 ++ ':' :: m.2

theorem renderMembers_eq_map (members : List (String × Value)) :
    renderMembers members = members.map fun m => (m.1, m.2.render) := by
  induction members with
  | nil => rfl
  | cons m members ih =>
    obtain ⟨name, value⟩ := m
    rw [renderMembers, ih, List.map_cons]

/-- The change that the text of a value makes under a name. -/
def Changes {α : Type} (members : List (Member α)) (m : String × List Char)
    (change : α → α) : Prop :=
  ∃ member, members.find? (·.name = m.1) = some member ∧ Reads member.read (Utf8.encode m.2) change

theorem nextMember_first (rest : Bytes) :
    nextMember true (Ascii.quote :: rest) = .ok (some rest) := rfl

theorem nextMember_comma (rest : Bytes) :
    nextMember false (Ascii.comma :: Ascii.quote :: rest) = .ok (some rest) := rfl

theorem encode_memberText (m : String × List Char) :
    Utf8.encode (memberText m) = Ascii.quote :: (Utf8.encode (m.1.toList.flatMap escapeChar) ++
      Ascii.quote :: Ascii.colon :: Utf8.encode m.2) := by
  have hcolon : Utf8.encode (':' :: m.2) = Ascii.colon :: Utf8.encode m.2 := rfl
  rw [memberText, Utf8.encode_append, encode_quote, hcolon, List.cons_append, List.append_assoc]
  rfl

section
variable {α : Type} {members : List (Member α)}

/-- One member is read, and then the others. -/
theorem readMembers_cons {m : String × List Char} {change : α → α} (h : Changes members m change)
    {s rest s' : Bytes} {first : Bool} {seen : List String} {fuel : Nat} {a a' : α}
    (hnext : nextMember first s = .ok (some (Utf8.encode (m.1.toList.flatMap escapeChar) ++
      Ascii.quote :: Ascii.colon :: (Utf8.encode m.2 ++ rest))))
    (hseen : m.1 ∉ seen) (hrest : Ended rest)
    (hms : readMembers members fuel false (m.1 :: seen) (change a) rest = .ok (a', s')) :
    readMembers members (fuel + 1) first seen a s = .ok (a', s') := by
  obtain ⟨member, hfind, hread⟩ := h
  have hany : members.any (·.name = m.1) = true := by
    refine List.any_eq_true.mpr ⟨member, List.mem_of_find?_eq_some hfind, ?_⟩
    simpa using List.find?_some hfind
  have hvalue : readMemberValue members m.1 (Utf8.encode m.2 ++ rest) = .ok (change, rest) := by
    have hread' := (hread.under (.member m.1)).reads rest hrest
    rw [readMemberValue, hfind]
    exact hread'
  have hname : Reader.under .unknown stringTail (Utf8.encode (m.1.toList.flatMap escapeChar) ++
      Ascii.quote :: Ascii.colon :: (Utf8.encode m.2 ++ rest)) =
      .ok (m.1, Ascii.colon :: (Utf8.encode m.2 ++ rest)) := by
    rw [Reader.under, stringTail_escapeChars]
    rfl
  have hcolon : readColon (Ascii.colon :: (Utf8.encode m.2 ++ rest)) =
      .ok (Utf8.encode m.2 ++ rest) := rfl
  rw [readMembers, hnext]
  simp only [hname, if_neg hseen, hcolon, bind, Except.bind, hvalue, hany, if_true]
  exact hms

theorem readMembers_rest {ms : List (String × List Char)} {changes : List (α → α)}
    (h : List.Forall₂ (Changes members) ms changes) (hdistinct : (ms.map (·.1)).Nodup)
    (rest : Bytes) {seen : List String} (hseen : ∀ m ∈ ms, m.1 ∉ seen) {fuel : Nat}
    (hfuel : ms.length < fuel) (a : α) :
    readMembers members fuel false seen a
        (Utf8.encode ((ms.map memberText).flatMap (',' :: ·)) ++ Ascii.closeBrace :: rest) =
      .ok (changes.foldl (fun a change => change a) a, Ascii.closeBrace :: rest) := by
  induction h generalizing seen fuel a with
  | nil =>
    obtain ⟨fuel, rfl⟩ := Nat.exists_eq_succ_of_ne_zero (Nat.ne_zero_of_lt hfuel)
    rfl
  | @cons m change ms changes hm _ ih =>
    obtain ⟨fuel, rfl⟩ := Nat.exists_eq_succ_of_ne_zero (Nat.ne_zero_of_lt hfuel)
    obtain ⟨hname, hdistinct⟩ := List.nodup_cons.mp hdistinct
    obtain ⟨hmseen, hseen⟩ := List.forall_mem_cons.mp hseen
    have hrest := ended_items (ms.map memberText)
      (ended_cons (b := Ascii.closeBrace) (by decide) rest)
    have hseen' : ∀ m' ∈ ms, m'.1 ∉ m.1 :: seen := by
      intro m' hm' hmem
      rcases List.mem_cons.mp hmem with heq | hmem
      · exact hname (List.mem_map.mpr ⟨m', hm', heq⟩)
      · exact hseen m' hm' hmem
    refine readMembers_cons hm ?_ hmseen hrest
      (ih hdistinct hseen' (Nat.lt_of_succ_lt_succ hfuel) (change a))
    have hcomma : Utf8.encode (',' :: memberText m) =
        Ascii.comma :: Utf8.encode (memberText m) := rfl
    rw [List.map_cons, List.flatMap_cons, Utf8.encode_append, List.append_assoc, hcomma,
      encode_memberText, List.cons_append, List.cons_append, nextMember_comma]
    simp only [List.append_assoc, List.cons_append]

/-- A record is read from the texts of its members. -/
theorem reads_record {ms : List (String × List Char)} {changes : List (α → α)}
    (h : List.Forall₂ (Changes members) ms changes) (hdistinct : (ms.map (·.1)).Nodup)
    (type : String) (blank : α) :
    Reads (Reader.record type blank members) (Utf8.encode (renderObject ms))
      (changes.foldl (fun a change => change a) blank) := by
  have hbytes : Utf8.encode (renderObject ms) = Ascii.openBrace ::
      (Utf8.encode (commaSeparated (ms.map memberText)) ++ [Ascii.closeBrace]) :=
    encode_between rfl rfl _
  rw [hbytes]
  refine ⟨⟨Ascii.openBrace, rfl, by decide⟩, fun rest _ => ?_⟩
  have hmembers : readMembers members
      ((Utf8.encode (commaSeparated (ms.map memberText)) ++ Ascii.closeBrace :: rest).length + 1)
      true [] blank
      (Utf8.encode (commaSeparated (ms.map memberText)) ++ Ascii.closeBrace :: rest) =
      .ok (changes.foldl (fun a change => change a) blank, Ascii.closeBrace :: rest) := by
    cases h with
    | nil => rfl
    | @cons m change ms changes hm hms =>
      obtain ⟨hname, hdistinct⟩ := List.nodup_cons.mp hdistinct
      have hrest := ended_items (ms.map memberText)
        (ended_cons (b := Ascii.closeBrace) (by decide) rest)
      have hseen : ∀ m' ∈ ms, m'.1 ∉ [m.1] := by
        intro m' hm' hmem
        exact hname (List.mem_map.mpr ⟨m', hm', List.mem_singleton.mp hmem⟩)
      have hlength := length_le_encode (ms.map memberText)
      rw [List.map_cons, commaSeparated_cons, Utf8.encode_append, List.append_assoc]
      refine readMembers_cons hm ?_ List.not_mem_nil hrest
        (readMembers_rest hms hdistinct rest hseen ?_ (change blank))
      · rw [encode_memberText, List.cons_append, nextMember_first]
        simp only [List.append_assoc, List.cons_append]
      · simp only [List.length_append, List.length_cons, List.length_map] at hlength ⊢
        omega
  rw [List.cons_append, List.append_assoc, List.singleton_append, Reader.record,
    withLead_cons (by decide), if_pos rfl, hmembers]
  rfl

end

end StoreClient.Json
