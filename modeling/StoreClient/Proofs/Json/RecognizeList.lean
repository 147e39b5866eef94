import Mathlib.Data.List.Forall2
import StoreClient.Proofs.Json.Recognize

/-!
Arrays are recognized as lists. The items are read one after another, each where a comma or the
opening bracket leads to it, and every piece of an array is read as an item (`Recognizes.list`).
-/

namespace StoreClient.Json

theorem nextItem_eq_none_iff {first : Bool} {s : Bytes} : nextItem first s = .ok none ↔
    ∃ l rest, Blank l ∧ s = l ++ Ascii.closeBracket :: rest := by
  constructor
  · intro h
    rw [nextItem] at h
    split at h
    · cases h
    · next b rest hspace =>
      obtain ⟨-, l, hl, rfl⟩ := skipSpace_eq_cons_iff.mp hspace
      split at h
      · next hb => exact ⟨l, rest, hl, by rw [hb]⟩
      · -- whatever else comes next is an item or a fault
        repeat' split at h
        all_goals cases h
  · rintro ⟨l, rest, hl, rfl⟩
    rw [nextItem, skipSpace_eq_cons_iff.mpr ⟨by decide, l, hl, rfl⟩]
    rfl

theorem nextItem_eq_some_iff {first : Bool} {s s' : Bytes} : nextItem first s = .ok (some s') ↔
    ∃ l b rest, Lead first l ∧ s = l ++ s' ∧ s' = b :: rest ∧ isSpace b = false ∧
      b ≠ Ascii.closeBracket := by
  constructor
  · intro h
    rw [nextItem] at h
    split at h
    · cases h
    · next b t hspace =>
      obtain ⟨hb, l, hl, rfl⟩ := skipSpace_eq_cons_iff.mp hspace
      split at h
      · cases h
      · next hclose =>
        split at h
        · next hfirst =>
          subst hfirst
          cases h
          exact ⟨l, b, t, .first hl, rfl, rfl, hb, hclose⟩
        · next hfirst =>
          split at h
          · next hcomma =>
            subst hcomma
            split at h
            · cases h
            · next c t' hspace' =>
              obtain ⟨hc, m, hm, rfl⟩ := skipSpace_eq_cons_iff.mp hspace'
              split at h
              · cases h
              · next hclose' =>
                cases h
                rw [Bool.not_eq_true] at hfirst
                subst hfirst
                refine ⟨_, c, t', .next hl hm, ?_, rfl, hc, hclose'⟩
                rw [List.append_assoc, List.cons_append]
          · cases h
  · rintro ⟨l, b, rest, hlead, rfl, rfl, hb, hclose⟩
    cases hlead with
    | first hl =>
      rw [nextItem, skipSpace_eq_cons_iff.mpr ⟨hb, l, hl, rfl⟩]
      exact if_neg hclose
    | @next l m hl hm =>
      rw [nextItem, List.append_assoc, List.cons_append,
        skipSpace_eq_cons_iff.mpr ⟨by decide, l, hl, rfl⟩]
      simp only [if_true, skipSpace_eq_cons_iff.mpr ⟨hb, m, hm, rfl⟩, if_neg hclose]
      rfl

theorem nextItem_opens {first : Bool} {l : Bytes} {b : UInt8} (hl : Lead first l)
    (hb : opensDocument b) (rest : Bytes) :
    nextItem first (l ++ b :: rest) = .ok (some (b :: rest)) :=
  nextItem_eq_some_iff.mpr
    ⟨l, b, rest, hl, rfl, rfl, isSpace_of_opensDocument hb, not_of_opensDocument hb (by decide)⟩

theorem nextItem_document {first : Bool} {l text : Bytes} (hl : Lead first l) (h : Document text)
    (rest : Bytes) : nextItem first (l ++ (text ++ rest)) = .ok (some (text ++ rest)) := by
  obtain ⟨b, bs, rfl, hb⟩ := h.exists_cons
  exact nextItem_opens hl hb (bs ++ rest)

theorem closeArray_eq_ok_iff {s rest : Bytes} : closeArray s = .ok rest ↔
    ∃ l, Blank l ∧ s = l ++ Ascii.closeBracket :: rest := by
  rw [← skipSpace_eq_byte_iff (by decide), closeArray]
  generalize skipSpace s = t
  constructor
  · intro h
    split at h
    · cases h
    · split at h
      · next hb =>
        cases h
        rw [hb]
      · repeat' split at h
        all_goals cases h
  · rintro rfl
    rfl

/-- The documents of lists. -/
def ListMeans {α : Type} (Means : Bytes → α → Prop) (text : Bytes) (as : List α) : Prop :=
  ∃ body items, text = Ascii.openBracket :: (body ++ [Ascii.closeBracket]) ∧
    Listed Frame.array.Piece true body items ∧ List.Forall₂ Means items as

section
variable {α : Type} {read : Reader α} {Means : Bytes → α → Prop} (h : Recognizes read Means)
include h

theorem listed_of_readItems {fuel i : Nat} {s r rest : Bytes} {as : List α}
    (hread : readItems read fuel i s = .ok (as, r)) (hclose : closeArray r = .ok rest) :
    ∃ body items, s = body ++ Ascii.closeBracket :: rest ∧
      Listed Frame.array.Piece (i = 0) body items ∧ List.Forall₂ Means items as := by
  induction fuel generalizing i s as with
  | zero => cases hread
  | succ fuel ih =>
    rw [readItems] at hread
    split at hread
    · cases hread
    · cases hread
      obtain ⟨l, hl, rfl⟩ := closeArray_eq_ok_iff.mp hclose
      exact ⟨l, [], rfl, .nil hl, .nil⟩
    · next s' hnext =>
      obtain ⟨l, b, t, hl, rfl, -⟩ := nextItem_eq_some_iff.mp hnext
      split at hread
      · cases hread
      · next a s'' hitem =>
        obtain ⟨⟨as', r'⟩, hread, heq⟩ := map_eq_ok.mp hread
        cases heq
        obtain ⟨body, items, rfl, hlisted, hitems⟩ := ih hread
        obtain ⟨l', text, hl', heq, ha, -⟩ := (h.under (.item i)).sound hitem
        rw [decide_eq_false (Nat.succ_ne_zero i)] at hlisted
        refine ⟨_, _, ?_, .cons (hl.append hl') .item hlisted, .cons ha hitems⟩
        rw [heq]
        simp only [List.append_assoc]

/-- Items are read one after another, and then whatever is listed behind them. -/
theorem readItems_append {i : Nat} {body rest : Bytes} {items others : List Bytes} {as : List α}
    (hrest : Ended rest) (hlisted : Listed Frame.array.Piece (i = 0) body (items ++ others))
    (hitems : List.Forall₂ Means items as) {fuel : Nat} (hfuel : (body ++ rest).length < fuel) :
    ∃ body' fuel', Listed Frame.array.Piece (i + items.length = 0) body' others ∧
      (body' ++ rest).length < fuel' ∧
      readItems read fuel i (body ++ rest) =
        (readItems read fuel' (i + items.length) (body' ++ rest)).map fun r =>
          (as ++ r.1, r.2) := by
  -- every item takes a byte, so the fuel lasts for all of them
  induction hitems generalizing i body fuel with
  | nil =>
    refine ⟨body, fuel, hlisted, hfuel, ?_⟩
    cases readItems read fuel i (body ++ rest) <;> rfl
  | @cons text a items as ha hitems ih =>
    obtain ⟨fuel, rfl⟩ := Nat.exists_eq_succ_of_ne_zero (Nat.ne_zero_of_lt hfuel)
    cases hlisted with
    | @cons _ l p s _ _ hl hp hs =>
      cases hp
      have hread := (h.under (.item i)).complete blank_nil ha (delimited_of_ended (hs.ended hrest))
      rw [List.nil_append] at hread
      have hlength := (h.document ha).length_pos
      have hfuel' : (s ++ rest).length < fuel := by
        simp only [List.length_append] at hfuel ⊢
        omega
      have hs' : Listed Frame.array.Piece (i + 1 = 0) s (items ++ others) := by
        rwa [decide_eq_false (Nat.succ_ne_zero i)]
      obtain ⟨body', fuel', hlisted', hbody', hrun⟩ := ih hs' hfuel'
      have hindex : i + (text :: items).length = i + 1 + items.length := by
        rw [List.length_cons]
        omega
      refine ⟨body', fuel', by rwa [hindex], hbody', ?_⟩
      rw [List.append_assoc, List.append_assoc, readItems, nextItem_document hl (h.document ha),
        hindex]
      simp only [hread, hrun]
      cases readItems read fuel' (i + 1 + items.length) (body' ++ rest) <;> rfl

theorem readItems_of_listed {i : Nat} {body : Bytes} (rest : Bytes) {items : List Bytes}
    {as : List α} (hlisted : Listed Frame.array.Piece (i = 0) body items)
    (hitems : List.Forall₂ Means items as) {fuel : Nat}
    (hfuel : (body ++ Ascii.closeBracket :: rest).length < fuel) : ∃ r,
      readItems read fuel i (body ++ Ascii.closeBracket :: rest) = .ok (as, r) ∧
        closeArray r = .ok rest := by
  have hend : Ended (Ascii.closeBracket :: rest) := Frame.array.ended_close rest
  rw [← List.append_nil items] at hlisted
  obtain ⟨body', fuel', hlisted', hfuel', hrun⟩ := readItems_append h hend hlisted hitems hfuel
  obtain ⟨fuel', rfl⟩ := Nat.exists_eq_succ_of_ne_zero (Nat.ne_zero_of_lt hfuel')
  cases hlisted' with
  | nil hs =>
    refine ⟨_, ?_, closeArray_eq_ok_iff.mpr ⟨body', hs, rfl⟩⟩
    rw [hrun, readItems, nextItem_eq_none_iff.mpr ⟨body', rest, hs, rfl⟩, Except.map,
      List.append_nil]

theorem documents_of_forall₂ {items : List Bytes} {as : List α}
    (hitems : List.Forall₂ Means items as) : ∀ t ∈ items, Document t := by
  induction hitems with
  | nil => exact List.forall_mem_nil _
  | cons ha _ ih => exact List.forall_mem_cons.mpr ⟨h.document ha, ih⟩

theorem Recognizes.list : Recognizes (Reader.list read) (ListMeans Means) where
  document := by
    rintro _ as ⟨body, items, rfl, hlisted, hitems⟩
    exact .frame hlisted (documents_of_forall₂ h hitems)
  sound {s rest as} hlist := by
    obtain ⟨b, t, hb, ⟨l, hl, rfl⟩, hread⟩ := withLead_eq_ok_iff.mp hlist
    split at hread
    · next hopen =>
      subst hopen
      split at hread
      · cases hread
      · next as' r hitems =>
        obtain ⟨rest', hclose, heq⟩ := map_eq_ok.mp hread
        cases heq
        obtain ⟨body, items, rfl, hlisted, hitems⟩ := listed_of_readItems h hitems hclose
        refine ⟨l, _, hl, ?_, ⟨body, items, rfl, hlisted, hitems⟩,
          delimited_concat (by decide) (Ascii.openBracket :: body) rest⟩
        simp
    · cases hread
  complete := by
    rintro l _ rest as hl ⟨body, items, rfl, hlisted, hitems⟩ -
    obtain ⟨r, hread, hclose⟩ := readItems_of_listed h (i := 0) rest hlisted hitems
      (Nat.lt_succ_self _)
    refine withLead_eq_ok_iff.mpr ⟨Ascii.openBracket, body ++ Ascii.closeBracket :: rest,
      by decide, ⟨l, hl, by simp⟩, ?_⟩
    simp only [if_true, hread, hclose]
    rfl

end

end StoreClient.Json
