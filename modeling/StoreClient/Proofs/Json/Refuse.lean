import StoreClient.Proofs.Json.Flat
import StoreClient.Proofs.Json.RecognizeRecord

/-!
What readers refuse, and where. A reader refuses a text at a path if it fails on it with a fault
that lies there, wherever white space leads to the text and whatever comes after it
(`Refuses`). A document that stands for none of its values is refused at the value itself
(`Recognizes.refuses`). A list whose items are recognized up to the one that is refused is refused
at this item, and a record whose members are recognized up to the one that is refused at this
member; what comes before leaves no trace in the path, nor is what comes after ever read.
-/

namespace StoreClient.Json

/-- The reader fails on the text, in the part of it that the path leads to. -/
structure Refuses {α : Type} (read : Reader α) (text : Bytes) (path : List Step) : Prop where
  opens : ∃ b bs, text = b :: bs ∧ opensDocument b
  fails {l rest : Bytes} (hl : Blank l) (hrest : Delimited text rest) :
    ∃ f, read (l ++ (text ++ rest)) = .error f ∧ f.path = path

section
variable {α : Type} {read : Reader α} {Means : Bytes → α → Prop}

theorem Refuses.under {text : Bytes} {path : List Step} (h : Refuses read text path) (step : Step) :
    Refuses (Reader.under step read) text (step :: path) where
  opens := h.opens
  fails hl hrest := by
    obtain ⟨f, hf, rfl⟩ := h.fails hl hrest
    exact ⟨f.under step, mapError_eq_error.mpr ⟨f, hf, rfl⟩, rfl⟩

/-- A document that stands for no value is refused as a whole. -/
theorem Recognizes.refuses (h : Recognizes read Means) (hflat : read.IsFlat) {text : Bytes}
    (htext : Document text) (hnone : ∀ a, ¬ Means text a) : Refuses read text [] where
  opens := htext.exists_cons
  fails {l rest} hl hrest := by
    cases hread : read (l ++ (text ++ rest)) with
    | error f => exact ⟨f, rfl, hflat _ f hread⟩
    | ok r =>
      obtain ⟨l', text', hl', heq, ha, hrest'⟩ := h.sound hread
      cases htext.front_unique hl hl' (h.document ha) hrest hrest' heq
      exact (hnone _ ha).elim

/-! ### Lists -/

/-- A list is refused at the first item that is refused. -/
theorem Refuses.list (h : Recognizes read Means) {body text : Bytes} {before after : List Bytes}
    {as : List α} {path : List Step}
    (hbody : Listed Frame.array.Piece true body (before ++ text :: after))
    (hbefore : List.Forall₂ Means before as) (htext : Refuses read text path) :
    Refuses (Reader.list read) (Ascii.openBracket :: (body ++ [Ascii.closeBracket]))
      (.item before.length :: path) where
  opens := ⟨_, _, rfl, by decide⟩
  fails {l rest} hl _ := by
    have hend : Ended (Ascii.closeBracket :: rest) := Frame.array.ended_close rest
    obtain ⟨body', fuel, hbody', hfuel, hrun⟩ := readItems_append h (i := 0) hend hbody hbefore
      (Nat.lt_succ_self _)
    obtain ⟨fuel, rfl⟩ := Nat.exists_eq_succ_of_ne_zero (Nat.ne_zero_of_lt hfuel)
    simp only [Nat.zero_add] at hbody' hrun
    cases hbody' with
    | @cons _ l' p s _ _ hlead hp hs =>
      cases hp
      obtain ⟨b, bs, rfl, hb⟩ := htext.opens
      obtain ⟨f, hf, hpath⟩ := (htext.under (.item before.length)).fails blank_nil
        (delimited_of_ended (hs.ended hend))
      rw [List.nil_append, List.cons_append] at hf
      have hitems : readItems read ((body ++ Ascii.closeBracket :: rest).length + 1) 0
          (body ++ Ascii.closeBracket :: rest) = .error f := by
        rw [hrun, readItems, List.append_assoc, List.append_assoc, List.cons_append,
          nextItem_opens hlead hb]
        simp only [hf]
        rfl
      refine ⟨f, ?_, hpath⟩
      rw [List.cons_append, List.append_assoc, List.singleton_append, Reader.list, withLead,
        skipSpace_eq_cons_iff.mpr ⟨by decide, l, hl, rfl⟩]
      simp only [if_true, hitems]

end

/-! ### Records -/

/-- A record whose member of a name is a misfit: the value is a document, but stands for none that
the member takes. The members before it are in order, and none has its name; what comes after it may
be anything. -/
inductive Misfit {α : Type} (known : List (MemberMeaning α)) (name : String) : Bytes → Prop where
  | mk {body key value : Bytes} {before after : List (Bytes × Bytes)}
      {changes : List (String × (α → α))} {m : MemberMeaning α}
      (hbody : Listed Entry true body (before ++ (key, value) :: after))
      (hbefore : List.Forall₂ (EntryMeans known) before changes)
      (hkey : Spells key (Utf8.ofString name))
      (hdistinct : (knownNames known (name :: changes.map (·.1))).Nodup)
      (hknown : known.find? (·.name = name) = some m) (hvalue : Document value)
      (hnone : ∀ change, ¬ m.Means value change) :
      Misfit known name (Ascii.openBrace :: (body ++ [Ascii.closeBrace]))

section
variable {α : Type} {members : List (Member α)} {known : List (MemberMeaning α)}
  (h : List.Forall₂ Member.Recognizes members known)
include h

/-- The value of a misfit is refused under its name. -/
theorem refuses_value (hflat : ∀ member ∈ members, member.read.IsFlat) {name : String}
    {value : Bytes} {m : MemberMeaning α} (hknown : known.find? (·.name = name) = some m)
    (hvalue : Document value) (hnone : ∀ change, ¬ m.Means value change) :
    Refuses (readMemberValue members name) value [.member name] := by
  have hfind := find?_members h name
  rw [hknown] at hfind
  cases hmember : members.find? (·.name = name) with
  | none =>
    rw [hmember] at hfind
    cases hfind
  | some member =>
    rw [hmember] at hfind
    cases hfind with
    | some hm =>
      have hrefuses := hm.read.refuses (hflat member (List.mem_of_find?_eq_some hmember)) hvalue
        hnone
      simp only [readMemberValue, hmember]
      exact hrefuses.under (.member name)

/-- A record is refused at its misfit. -/
theorem Misfit.refuses (hflat : ∀ member ∈ members, member.read.IsFlat) {name : String}
    {text : Bytes} (hmisfit : Misfit known name text) (type : String) (blank : α) :
    Refuses (Reader.record type blank members) text [.member name] := by
  obtain @⟨body, key, value, before, after, changes, m, hbody, hbefore, hkey, hdistinct, hknown,
    hvalue, hnone⟩ := hmisfit
  refine ⟨⟨_, _, rfl, by decide⟩, fun {l rest} hl _ => ?_⟩
  have hend : Ended (Ascii.closeBrace :: rest) := Frame.object.ended_close rest
  have hany : known.any (·.name = name) := by
    rw [← List.isSome_find?, hknown]
    rfl
  rw [knownNames, List.filter_cons, if_pos hany, List.nodup_cons] at hdistinct
  obtain ⟨first, body', seen, fuel, hbody', hfuel, hseen, hrun⟩ :=
    readMembers_append h blank hend hbody hbefore
      (by rw [List.append_nil]; exact hdistinct.2) (List.forall_mem_nil _) (Nat.lt_succ_self _)
  obtain ⟨fuel, rfl⟩ := Nat.exists_eq_succ_of_ne_zero (Nat.ne_zero_of_lt hfuel)
  -- the names that were seen are those of the members before
  have hnew : name ∉ seen := by
    intro hmem
    have hmem := hseen name hmem
    rw [List.append_nil] at hmem
    exact hdistinct.1 hmem
  cases hbody' with
  | @cons _ l' p s _ _ hlead hp hs =>
    obtain ⟨n, hn, hread⟩ := readMembers_name members hlead hp hkey hnew fuel
      (changes.foldl (fun a c => c.2 a) blank) (s ++ Ascii.closeBrace :: rest)
    obtain ⟨f, hf, hpath⟩ := (refuses_value h hflat hknown hvalue hnone).fails hn
      (delimited_of_ended (hs.ended hend))
    refine ⟨f, ?_, hpath⟩
    have hmembers : readMembers members ((body ++ Ascii.closeBrace :: rest).length + 1) true []
        blank (body ++ Ascii.closeBrace :: rest) = .error f := by
      rw [hrun, List.append_assoc, List.append_assoc, hread, hf]
      rfl
    rw [List.cons_append, List.append_assoc, List.singleton_append, Reader.record, withLead,
      skipSpace_eq_cons_iff.mpr ⟨by decide, l, hl, rfl⟩]
    simp only [if_true, hmembers]

end

end StoreClient.Json
