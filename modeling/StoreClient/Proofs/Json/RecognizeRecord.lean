import Mathlib.Data.List.Nodup
import StoreClient.Proofs.Json.RecognizeList

/-!
Objects and arrays are recognized as records. An object is read member by member, in any order and
with others among them, whose values are skipped; an array holds the values of the first members in
their order. Either way what is read is what the changes of the members make of a blank record
(`Recognizes.record`).
-/

namespace StoreClient.Json

/-! ### Reading members -/

theorem nextMember_eq_none_iff {first : Bool} {s : Bytes} : nextMember first s = .ok none ↔
    ∃ l rest, Blank l ∧ s = l ++ Ascii.closeBrace :: rest := by
  constructor
  · intro h
    rw [nextMember] at h
    split at h
    · cases h
    · next b rest hspace =>
      obtain ⟨-, l, hl, rfl⟩ := skipSpace_eq_cons_iff.mp hspace
      split at h
      · next hb => exact ⟨l, rest, hl, by rw [hb]⟩
      · repeat' split at h
        all_goals cases h
  · rintro ⟨l, rest, hl, rfl⟩
    rw [nextMember, skipSpace_eq_cons_iff.mpr ⟨by decide, l, hl, rfl⟩]
    rfl

theorem nextMember_eq_some_iff {first : Bool} {s s' : Bytes} : nextMember first s = .ok (some s') ↔
    ∃ l, Lead first l ∧ s = l ++ Ascii.quote :: s' := by
  constructor
  · intro h
    rw [nextMember] at h
    split at h
    · cases h
    · next b t hspace =>
      obtain ⟨-, l, hl, rfl⟩ := skipSpace_eq_cons_iff.mp hspace
      split at h
      · cases h
      split at h
      · next hfirst =>
        subst hfirst
        split at h
        · next hb =>
          subst hb
          cases h
          exact ⟨l, .first hl, rfl⟩
        · cases h
      · next hfirst =>
        rw [Bool.not_eq_true] at hfirst
        subst hfirst
        split at h
        · next hcomma =>
          subst hcomma
          split at h
          · cases h
          · next c t' hspace' =>
            obtain ⟨-, m, hm, rfl⟩ := skipSpace_eq_cons_iff.mp hspace'
            split at h
            · next hc =>
              subst hc
              cases h
              exact ⟨_, .next hl hm, by rw [List.append_assoc, List.cons_append]⟩
            · split at h
              · cases h
              · cases h
        · cases h
  · rintro ⟨l, hlead, rfl⟩
    cases hlead with
    | first hl =>
      rw [nextMember, skipSpace_eq_cons_iff.mpr ⟨by decide, l, hl, rfl⟩]
      rfl
    | @next l m hl hm =>
      rw [nextMember, List.append_assoc, List.cons_append,
        skipSpace_eq_cons_iff.mpr ⟨by decide, l, hl, rfl⟩]
      simp only [if_true, skipSpace_eq_cons_iff.mpr ⟨(by decide : isSpace Ascii.quote = false),
        m, hm, rfl⟩]
      rfl

theorem readColon_eq_ok_iff {s rest : Bytes} : readColon s = .ok rest ↔
    ∃ m, Blank m ∧ s = m ++ Ascii.colon :: rest := by
  rw [← skipSpace_eq_byte_iff (by decide), readColon]
  generalize skipSpace s = t
  constructor
  · intro h
    split at h
    · cases h
    · split at h
      · next hb =>
        cases h
        rw [hb]
      · cases h
  · rintro rfl
    rfl

theorem closeObject_eq_ok_iff {s rest : Bytes} : closeObject s = .ok rest ↔
    ∃ l, Blank l ∧ s = l ++ Ascii.closeBrace :: rest := by
  rw [← skipSpace_eq_byte_iff (by decide), closeObject]
  generalize skipSpace s = t
  constructor
  · intro h
    split at h
    · cases h
    · split at h
      · next hb =>
        cases h
        rw [hb]
      · repeat' split at h
        all_goals cases h
  · rintro rfl
    rfl

/-- What the documents of a member's value make of a record. -/
structure MemberMeaning (α : Type) where
  name : String
  Means : Bytes → (α → α) → Prop

section
variable {α : Type}

/-- What a value makes of a record under a name: that of a member that the record knows makes the
change of this member, any other makes none and may be any document. -/
inductive ValueMeans (known : List (MemberMeaning α)) (name : String) :
    Bytes → (α → α) → Prop where
  | known {m : MemberMeaning α} {text : Bytes} {change : α → α}
      (hfind : known.find? (·.name = name) = some m) (h : m.Means text change) :
      ValueMeans known name text change
  | other {text : Bytes} (hfind : known.find? (·.name = name) = none) (h : Document text) :
      ValueMeans known name text id

/-- What an entry makes of a record, with the name that it spells. -/
def EntryMeans (known : List (MemberMeaning α)) (e : Bytes × Bytes) (c : String × (α → α)) : Prop :=
  Spells e.1 (Utf8.ofString c.1) ∧ ValueMeans known c.1 e.2 c.2

/-- The names among these that a record knows. -/
def knownNames (known : List (MemberMeaning α)) (names : List String) : List String :=
  names.filter fun name => known.any (·.name = name)

/-- What the values in an array make of a record: they are those of its first members. -/
inductive PositionsMean : List (MemberMeaning α) → List Bytes → List (α → α) → Prop where
  | nil {known : List (MemberMeaning α)} : PositionsMean known [] []
  | cons {m : MemberMeaning α} {known : List (MemberMeaning α)} {value : Bytes} {change : α → α}
      {values : List Bytes} {changes : List (α → α)} (h : m.Means value change)
      (hs : PositionsMean known values changes) :
      PositionsMean (m :: known) (value :: values) (change :: changes)

/-- The documents of records. A record is made out of a blank one by the members of an object, of
which it knows each at most once, or by the values of an array. -/
inductive RecordMeans (blank : α) (known : List (MemberMeaning α)) : Bytes → α → Prop where
  | object {body : Bytes} {entries : List (Bytes × Bytes)} {changes : List (String × (α → α))}
      (hbody : Listed Entry true body entries)
      (hentries : List.Forall₂ (EntryMeans known) entries changes)
      (hdistinct : (knownNames known (changes.map (·.1))).Nodup) :
      RecordMeans blank known (Ascii.openBrace :: (body ++ [Ascii.closeBrace]))
        (changes.foldl (fun a c => c.2 a) blank)
  | array {body : Bytes} {values : List Bytes} {changes : List (α → α)}
      (hbody : Listed Frame.array.Piece true body values)
      (hvalues : PositionsMean known values changes) :
      RecordMeans blank known (Ascii.openBracket :: (body ++ [Ascii.closeBracket]))
        (changes.foldl (fun a change => change a) blank)

/-- A member that is read as what is known of it. -/
structure Member.Recognizes (member : Member α) (m : MemberMeaning α) : Prop where
  name_eq : member.name = m.name
  read : Json.Recognizes member.read m.Means

/-- A name that is known is one more that has been seen. -/
theorem knownNames_cons_perm {known : List (MemberMeaning α)} {name : String}
    {names seen : List String} : (knownNames known (name :: names) ++ seen).Perm
      (knownNames known names ++ if known.any (·.name = name) then name :: seen else seen) := by
  by_cases hany : known.any (·.name = name)
  · rw [knownNames, List.filter_cons, if_pos hany, if_pos hany]
    exact List.perm_middle.symm
  · rw [knownNames, List.filter_cons, if_neg hany, if_neg hany]
    exact .refl _

theorem Entry.length_pos {p : Bytes} {e : Bytes × Bytes} (h : Entry p e) : 0 < p.length := by
  cases h with
  | mk => exact Nat.succ_pos _

/-! ### Values of members -/

variable {members : List (Member α)} {known : List (MemberMeaning α)}
  (h : List.Forall₂ Member.Recognizes members known)
include h

/-- A name finds a member where it finds what is known of it. -/
theorem find?_members (name : String) :
    Option.Rel Member.Recognizes (members.find? (·.name = name)) (known.find? (·.name = name)) := by
  induction h with
  | nil => exact .none
  | @cons member m members known hm _ ih =>
    by_cases hname : m.name = name
    · rw [List.find?_cons_of_pos (by simp [hm.name_eq, hname]),
        List.find?_cons_of_pos (by simp [hname])]
      exact .some hm
    · rw [List.find?_cons_of_neg (by simp [hm.name_eq, hname]),
        List.find?_cons_of_neg (by simp [hname])]
      exact ih

theorem any_members (name : String) :
    members.any (·.name = name) = known.any (·.name = name) := by
  rw [← List.isSome_find?, ← List.isSome_find?]
  have hfind := find?_members h name
  generalize members.find? (·.name = name) = member at hfind ⊢
  generalize known.find? (·.name = name) = m at hfind ⊢
  cases hfind with
  | none => rfl
  | some _ => rfl

theorem means_of_readMemberValue {name : String} {s rest : Bytes} {change : α → α}
    (hread : readMemberValue members name s = .ok (change, rest)) :
    ∃ l text, Blank l ∧ s = l ++ (text ++ rest) ∧ ValueMeans known name text change := by
  have hread := mapError_eq_ok.mp hread
  have hfind := find?_members h name
  generalize members.find? (·.name = name) = member at hfind hread
  generalize hknown : known.find? (·.name = name) = found at hfind
  cases hfind with
  | none =>
    obtain ⟨rest', hskip, heq⟩ := map_eq_ok.mp hread
    cases heq
    obtain ⟨l, text, hl, hs, htext⟩ := document_of_skipValue hskip
    exact ⟨l, text, hl, hs, .other hknown htext⟩
  | some hm =>
    obtain ⟨l, text, hl, hs, htext, -⟩ := hm.read.sound hread
    exact ⟨l, text, hl, hs, .known hknown htext⟩

theorem readMemberValue_of_means {name : String} {l text rest : Bytes} {change : α → α}
    (hl : Blank l) (hmeans : ValueMeans known name text change) (hrest : Delimited text rest) :
    readMemberValue members name (l ++ (text ++ rest)) = .ok (change, rest) := by
  refine mapError_eq_ok.mpr ?_
  have hfind := find?_members h name
  generalize members.find? (·.name = name) = member at hfind ⊢
  cases hmeans with
  | known hknown hmeans =>
    rw [hknown] at hfind
    cases hfind with
    | some hm => exact hm.read.complete hl hmeans hrest
  | other hknown htext =>
    rw [hknown] at hfind
    cases hfind
    exact map_eq_ok.mpr ⟨rest, skipValue_of_document hl htext hrest, rfl⟩

theorem ValueMeans.document {name : String} {text : Bytes} {change : α → α}
    (hmeans : ValueMeans known name text change) : Document text := by
  cases hmeans with
  | known hknown hmeans =>
    have hfind := find?_members h name
    rw [hknown] at hfind
    generalize members.find? (·.name = name) = member at hfind
    cases hfind with
    | some hm => exact hm.read.document hmeans
  | other _ htext => exact htext

/-! ### Objects -/

theorem listed_of_readMembers {fuel : Nat} {first : Bool} {seen : List String} {a a' : α}
    {s r rest : Bytes} (hseen : seen.Nodup)
    (hread : readMembers members fuel first seen a s = .ok (a', r))
    (hclose : closeObject r = .ok rest) :
    ∃ body entries changes, s = body ++ Ascii.closeBrace :: rest ∧ Listed Entry first body entries ∧
      List.Forall₂ (EntryMeans known) entries changes ∧
      (knownNames known (changes.map (·.1)) ++ seen).Nodup ∧
      a' = changes.foldl (fun a c => c.2 a) a := by
  -- the known names that were seen so far are no names of what is left
  induction fuel generalizing first seen a s with
  | zero => cases hread
  | succ fuel ih =>
    rw [readMembers] at hread
    split at hread
    · cases hread
    · cases hread
      obtain ⟨l, hl, rfl⟩ := closeObject_eq_ok_iff.mp hclose
      exact ⟨l, [], [], rfl, .nil hl, .nil, hseen, rfl⟩
    · next s' hnext =>
      obtain ⟨l, hl, rfl⟩ := nextMember_eq_some_iff.mp hnext
      split at hread
      · cases hread
      · next name s'' hname =>
        obtain ⟨raw, rfl, hraw⟩ := stringTail_eq_ok_iff.mp (mapError_eq_ok.mp hname)
        split at hread
        · cases hread
        · next hmem =>
          split at hread
          · cases hread
          · next change s₃ hread' =>
            obtain ⟨s₄, hcolon, hvalue⟩ := bind_eq_ok.mp hread'
            obtain ⟨m, hm, rfl⟩ := readColon_eq_ok_iff.mp hcolon
            obtain ⟨n, value, hn, rfl, hmeans⟩ := means_of_readMemberValue h hvalue
            simp only [any_members h] at hread
            have hseen' : (if known.any (·.name = name) then name :: seen else seen).Nodup := by
              split
              · exact List.nodup_cons.mpr ⟨hmem, hseen⟩
              · exact hseen
            obtain ⟨body, entries, changes, rfl, hbody, hentries, hdistinct, rfl⟩ :=
              ih hseen' hread
            refine ⟨_, _, (name, change) :: changes, ?_, .cons hl (.mk hm hn) hbody,
              .cons ⟨hraw, hmeans⟩ hentries, knownNames_cons_perm.nodup_iff.mpr hdistinct, rfl⟩
            simp only [quoted, List.append_assoc, List.cons_append, List.nil_append]

omit h in
/-- An entry is read up to its value, on which the rest depends. -/
theorem readMembers_name (members : List (Member α)) {first : Bool} {l p : Bytes}
    {e : Bytes × Bytes} {name : String} {seen : List String} (hl : Lead first l) (hp : Entry p e)
    (hname : Spells e.1 (Utf8.ofString name)) (hseen : name ∉ seen) (fuel : Nat) (a : α)
    (rest : Bytes) :
    ∃ n, Blank n ∧ readMembers members (fuel + 1) first seen a (l ++ (p ++ rest)) =
      readMemberValue members name (n ++ (e.2 ++ rest)) >>= fun r =>
        readMembers members fuel false (if members.any (·.name = name) then name :: seen else seen)
          (r.1 a) r.2 := by
  cases hp with
  | @mk raw m n value hm hn =>
    have hnext : nextMember first
        (l ++ (quoted raw ++ (m ++ Ascii.colon :: (n ++ value)) ++ rest)) =
          .ok (some (raw ++ Ascii.quote :: (m ++ Ascii.colon :: (n ++ (value ++ rest))))) := by
      refine nextMember_eq_some_iff.mpr ⟨l, hl, ?_⟩
      simp only [quoted, List.append_assoc, List.cons_append, List.nil_append]
    have hraw : Reader.under .unknown stringTail (raw ++ Ascii.quote ::
        (m ++ Ascii.colon :: (n ++ (value ++ rest)))) =
          .ok (name, m ++ Ascii.colon :: (n ++ (value ++ rest))) :=
      mapError_eq_ok.mpr (stringTail_eq_ok_iff.mpr ⟨raw, rfl, hname⟩)
    have hcolon : readColon (m ++ Ascii.colon :: (n ++ (value ++ rest))) =
        .ok (n ++ (value ++ rest)) := readColon_eq_ok_iff.mpr ⟨m, hm, rfl⟩
    refine ⟨n, hn, ?_⟩
    rw [readMembers, hnext]
    simp only [hraw, if_neg hseen, hcolon, bind, Except.bind]
    cases readMemberValue members name (n ++ (value ++ rest)) <;> rfl

/-- One entry is read, and then the others. -/
theorem readMembers_entry {first : Bool} {l p rest : Bytes} {e : Bytes × Bytes}
    {c : String × (α → α)} {seen : List String} (hl : Lead first l) (hp : Entry p e)
    (he : EntryMeans known e c) (hseen : c.1 ∉ seen) (hrest : Ended rest) (fuel : Nat) (a : α) :
    readMembers members (fuel + 1) first seen a (l ++ (p ++ rest)) =
      readMembers members fuel false (if known.any (·.name = c.1) then c.1 :: seen else seen)
        (c.2 a) rest := by
  obtain ⟨n, hn, hread⟩ := readMembers_name members hl hp he.1 hseen fuel a rest
  rw [hread, readMemberValue_of_means h hn he.2 (delimited_of_ended hrest), any_members h]
  rfl

/-- Entries are read one after another, and then whatever is listed behind them. -/
theorem readMembers_append {first : Bool} {body rest : Bytes}
    {entries others : List (Bytes × Bytes)} {changes : List (String × (α → α))}
    {seen : List String} (a : α) (hrest : Ended rest)
    (hbody : Listed Entry first body (entries ++ others))
    (hentries : List.Forall₂ (EntryMeans known) entries changes)
    (hdistinct : (knownNames known (changes.map (·.1)) ++ seen).Nodup)
    (hseen : ∀ name ∈ seen, known.any (·.name = name))
    {fuel : Nat} (hfuel : (body ++ rest).length < fuel) :
    ∃ first' body' seen' fuel', Listed Entry first' body' others ∧
      (body' ++ rest).length < fuel' ∧
      (∀ name ∈ seen', name ∈ knownNames known (changes.map (·.1)) ++ seen) ∧
      readMembers members fuel first seen a (body ++ rest) =
        readMembers members fuel' first' seen' (changes.foldl (fun a c => c.2 a) a)
          (body' ++ rest) := by
  -- every entry takes a byte, so the fuel lasts for all of them
  induction hentries generalizing first body seen a fuel with
  | nil => exact ⟨first, body, seen, fuel, hbody, hfuel, fun _ hname => hname, rfl⟩
  | @cons e c entries changes he hentries ih =>
    obtain ⟨fuel, rfl⟩ := Nat.exists_eq_succ_of_ne_zero (Nat.ne_zero_of_lt hfuel)
    cases hbody with
    | @cons _ l p s _ _ hl hp hs =>
      have hmem : c.1 ∉ seen := by
        intro hmem
        have hknown : c.1 ∈ knownNames known ((c :: changes).map (·.1)) :=
          List.mem_filter.mpr ⟨List.mem_cons_self, hseen c.1 hmem⟩
        exact List.disjoint_of_nodup_append hdistinct hknown hmem
      have hseen' : ∀ name ∈ if known.any (·.name = c.1) then c.1 :: seen else seen,
          known.any (·.name = name) := by
        split
        · next hname => exact List.forall_mem_cons.mpr ⟨hname, hseen⟩
        · exact hseen
      have hfuel' : (s ++ rest).length < fuel := by
        have hlength := hp.length_pos
        simp only [List.length_append] at hfuel ⊢
        omega
      rw [List.map_cons] at hdistinct
      obtain ⟨first', body', seen', fuel', hbody', hlength, hsub, hrun⟩ :=
        ih (c.2 a) hs (knownNames_cons_perm.nodup_iff.mp hdistinct) hseen' hfuel'
      refine ⟨first', body', seen', fuel', hbody', hlength, ?_, ?_⟩
      · exact fun name hname => knownNames_cons_perm.mem_iff.mpr (hsub name hname)
      · rw [List.append_assoc, List.append_assoc,
          readMembers_entry h hl hp he hmem (hs.ended hrest), hrun]
        rfl

theorem readMembers_of_listed {first : Bool} {body : Bytes} (rest : Bytes)
    {entries : List (Bytes × Bytes)} {changes : List (String × (α → α))} {seen : List String}
    (a : α) (hbody : Listed Entry first body entries)
    (hentries : List.Forall₂ (EntryMeans known) entries changes)
    (hdistinct : (knownNames known (changes.map (·.1)) ++ seen).Nodup)
    (hseen : ∀ name ∈ seen, known.any (·.name = name))
    {fuel : Nat} (hfuel : (body ++ Ascii.closeBrace :: rest).length < fuel) : ∃ r,
      readMembers members fuel first seen a (body ++ Ascii.closeBrace :: rest) =
          .ok (changes.foldl (fun a c => c.2 a) a, r) ∧
        closeObject r = .ok rest := by
  have hend : Ended (Ascii.closeBrace :: rest) := Frame.object.ended_close rest
  rw [← List.append_nil entries] at hbody
  obtain ⟨first', body', seen', fuel', hbody', hfuel', -, hrun⟩ :=
    readMembers_append h a hend hbody hentries hdistinct hseen hfuel
  obtain ⟨fuel', rfl⟩ := Nat.exists_eq_succ_of_ne_zero (Nat.ne_zero_of_lt hfuel')
  cases hbody' with
  | nil hs =>
    refine ⟨_, ?_, closeObject_eq_ok_iff.mpr ⟨body', hs, rfl⟩⟩
    rw [hrun, readMembers, nextMember_eq_none_iff.mpr ⟨body', rest, hs, rfl⟩]

/-! ### Arrays -/

theorem listed_of_readPositions {i : Nat} {a a' : α} {s r rest : Bytes}
    (hread : readPositions members i a s = .ok (a', r)) (hclose : closeArray r = .ok rest) :
    ∃ body values changes, s = body ++ Ascii.closeBracket :: rest ∧
      Listed Frame.array.Piece (i = 0) body values ∧ PositionsMean known values changes ∧
      a' = changes.foldl (fun a change => change a) a := by
  induction h generalizing i a s with
  | nil =>
    cases hread
    obtain ⟨l, hl, rfl⟩ := closeArray_eq_ok_iff.mp hclose
    exact ⟨l, [], [], rfl, .nil hl, .nil, rfl⟩
  | @cons member m members known hm _ ih =>
    rw [readPositions] at hread
    split at hread
    · cases hread
    · cases hread
      obtain ⟨l, hl, rfl⟩ := closeArray_eq_ok_iff.mp hclose
      exact ⟨l, [], [], rfl, .nil hl, .nil, rfl⟩
    · next s' hnext =>
      obtain ⟨l, b, t, hl, rfl, -⟩ := nextItem_eq_some_iff.mp hnext
      split at hread
      · cases hread
      · next change s'' hvalue =>
        obtain ⟨body, values, changes, rfl, hlisted, hvalues, rfl⟩ := ih hread
        obtain ⟨l', text, hl', heq, hmeans, -⟩ := (hm.read.under (.item i)).sound hvalue
        rw [decide_eq_false (Nat.succ_ne_zero i)] at hlisted
        refine ⟨_, _, _, ?_, .cons (hl.append hl') .item hlisted, .cons hmeans hvalues, rfl⟩
        rw [heq]
        simp only [List.append_assoc]

theorem readPositions_of_listed {i : Nat} {body : Bytes} (rest : Bytes) {values : List Bytes}
    {changes : List (α → α)} (a : α) (hbody : Listed Frame.array.Piece (i = 0) body values)
    (hvalues : PositionsMean known values changes) : ∃ r,
      readPositions members i a (body ++ Ascii.closeBracket :: rest) =
          .ok (changes.foldl (fun a change => change a) a, r) ∧
        closeArray r = .ok rest := by
  induction hvalues generalizing members i body a with
  | nil =>
    cases hbody with
    | nil hs =>
      refine ⟨_, ?_, closeArray_eq_ok_iff.mpr ⟨body, hs, rfl⟩⟩
      cases h with
      | nil => rfl
      | cons =>
        rw [readPositions, nextItem_eq_none_iff.mpr ⟨body, rest, hs, rfl⟩]
        rfl
  | @cons m known value change values changes hmeans hvalues ih =>
    cases hbody with
    | @cons _ l p s _ _ hl hp hs =>
      cases hp
      cases h with
      | @cons member _ members _ hm h =>
        have hend : Delimited value (s ++ Ascii.closeBracket :: rest) :=
          delimited_of_ended (hs.ended (Frame.array.ended_close rest))
        have hread := (hm.read.under (.item i)).complete blank_nil hmeans hend
        rw [List.nil_append] at hread
        have hs' : Listed Frame.array.Piece (i + 1 = 0) s values := by
          rwa [decide_eq_false (Nat.succ_ne_zero i)]
        obtain ⟨r, hrest, hclose⟩ := ih h (change a) hs'
        refine ⟨r, ?_, hclose⟩
        rw [List.append_assoc, List.append_assoc, readPositions,
          nextItem_document hl (hm.read.document hmeans)]
        simp only [hread]
        exact hrest

/-! ### Records -/

theorem documents_of_entries {first : Bool} {body : Bytes} {entries : List (Bytes × Bytes)}
    {changes : List (String × (α → α))} (hbody : Listed Entry first body entries)
    (hentries : List.Forall₂ (EntryMeans known) entries changes) :
    Listed Frame.object.Piece first body (entries.map (·.2)) ∧
      ∀ v ∈ entries.map (·.2), Document v := by
  induction hbody generalizing changes with
  | nil hs => exact ⟨.nil hs, List.forall_mem_nil _⟩
  | cons hl hp _ ih =>
    cases hentries with
    | cons he hentries =>
      obtain ⟨hlisted, hdocuments⟩ := ih hentries
      exact ⟨.cons hl (.member he.1.quotable hp) hlisted,
        List.forall_mem_cons.mpr ⟨he.2.document h, hdocuments⟩⟩

theorem documents_of_positions {values : List Bytes} {changes : List (α → α)}
    (hvalues : PositionsMean known values changes) : ∀ v ∈ values, Document v := by
  induction hvalues generalizing members with
  | nil => exact List.forall_mem_nil _
  | cons hmeans _ ih =>
    cases h with
    | cons hm h => exact List.forall_mem_cons.mpr ⟨hm.read.document hmeans, ih h⟩

theorem Recognizes.record (type : String) (blank : α) :
    Recognizes (Reader.record type blank members) (RecordMeans blank known) where
  document hmeans := by
    cases hmeans with
    | object hbody hentries hdistinct =>
      obtain ⟨hlisted, hdocuments⟩ := documents_of_entries h hbody hentries
      exact .frame hlisted hdocuments
    | array hbody hvalues => exact .frame hbody (documents_of_positions h hvalues)
  sound {s rest a} hrecord := by
    obtain ⟨b, t, hb, ⟨l, hl, rfl⟩, hread⟩ := withLead_eq_ok_iff.mp hrecord
    split at hread
    · next hopen =>
      subst hopen
      split at hread
      · cases hread
      · next a' r hmembers =>
        obtain ⟨rest', hclose, heq⟩ := map_eq_ok.mp hread
        cases heq
        obtain ⟨body, entries, changes, rfl, hbody, hentries, hdistinct, rfl⟩ :=
          listed_of_readMembers h List.nodup_nil hmembers hclose
        rw [List.append_nil] at hdistinct
        refine ⟨l, _, hl, ?_, .object hbody hentries hdistinct,
          delimited_concat (by decide) (Ascii.openBrace :: body) rest⟩
        simp
    · split at hread
      · next hopen =>
        subst hopen
        split at hread
        · cases hread
        · next a' r hpositions =>
          obtain ⟨rest', hclose, heq⟩ := map_eq_ok.mp hread
          cases heq
          obtain ⟨body, values, changes, rfl, hbody, hvalues, rfl⟩ :=
            listed_of_readPositions h hpositions hclose
          refine ⟨l, _, hl, ?_, .array hbody hvalues,
            delimited_concat (by decide) (Ascii.openBracket :: body) rest⟩
          simp
      · cases hread
  complete {l text rest a} hl hmeans _ := by
    cases hmeans with
    | @object body entries changes hbody hentries hdistinct =>
      obtain ⟨r, hread, hclose⟩ := readMembers_of_listed h rest blank hbody hentries
        (by rwa [List.append_nil]) (List.forall_mem_nil _) (Nat.lt_succ_self _)
      refine withLead_eq_ok_iff.mpr ⟨Ascii.openBrace, body ++ Ascii.closeBrace :: rest,
        by decide, ⟨l, hl, by simp⟩, ?_⟩
      simp only [if_true, hread, hclose]
      rfl
    | @array body values changes hbody hvalues =>
      obtain ⟨r, hread, hclose⟩ := readPositions_of_listed h (i := 0) rest blank hbody hvalues
      refine withLead_eq_ok_iff.mpr ⟨Ascii.openBracket, body ++ Ascii.closeBracket :: rest,
        by decide, ⟨l, hl, by simp⟩, ?_⟩
      simp only [if_neg (by decide : ¬ Ascii.openBracket = Ascii.openBrace), if_true, hread, hclose]
      rfl

end

end StoreClient.Json
