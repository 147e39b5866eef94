import Mathlib.Data.List.Forall2
import StoreClient.Proofs.Json.Reads

/-!
Arrays are read back. Every item ends where a comma or the closing bracket follows it, so the items
are read one after another as they were written, as many as there are.
-/

namespace StoreClient.Json

theorem commaSeparated_cons (t : List Char) (ts : List (List Char)) :
    commaSeparated (t :: ts) = t ++ ts.flatMap (',' :: ·) := by
  induction ts generalizing t with
  | nil => exact (List.append_nil t).symm
  | cons u ts ih =>
    rw [commaSeparated, ih]
    rfl

theorem renderItems_eq_map (items : List Value) : renderItems items = items.map Value.render := by
  induction items with
  | nil => rfl
  | cons item items ih => rw [renderItems, ih, List.map_cons]

/-- What follows an item is a comma or the end. -/
theorem ended_items (ts : List (List Char)) {rest : Bytes} (hrest : Ended rest) :
    Ended (Utf8.encode (ts.flatMap (',' :: ·)) ++ rest) := by
  cases ts with
  | nil => exact hrest
  | cons t ts => exact ended_cons (by decide) _

section
variable {b : UInt8} (hb : startsValue b)
include hb

theorem nextItem_first (rest : Bytes) : nextItem true (b :: rest) = .ok (some (b :: rest)) := by
  have hclose : b ≠ Ascii.closeBracket := ne_of_startsValue hb (by decide)
  rw [nextItem, skipSpace_cons (isSpace_of_startsValue hb)]
  exact (if_neg hclose).trans (if_pos rfl)

theorem nextItem_comma (rest : Bytes) :
    nextItem false (Ascii.comma :: b :: rest) = .ok (some (b :: rest)) := by
  have hclose : b ≠ Ascii.closeBracket := ne_of_startsValue hb (by decide)
  rw [nextItem, skipSpace_cons (by decide)]
  refine (if_neg (by decide)).trans ((if_neg Bool.false_ne_true).trans ((if_pos rfl).trans ?_))
  rw [skipSpace_cons (isSpace_of_startsValue hb)]
  exact if_neg hclose

end

section
variable {α : Type} {read : Reader α} {ts : List (List Char)} {as : List α}

/-- One item is read, and then the others. -/
theorem readItems_cons {t : List Char} {a : α} (h : Reads read (Utf8.encode t) a)
    {s rest s' : Bytes} {fuel i : Nat}
    (hnext : nextItem (i = 0) s = .ok (some (Utf8.encode t ++ rest)))
    (hrest : Ended rest) (has : readItems read fuel (i + 1) rest = .ok (as, s')) :
    readItems read (fuel + 1) i s = .ok (a :: as, s') := by
  have hread := (h.under (.item i)).reads rest hrest
  rw [readItems, hnext]
  simp only [hread, has]
  rfl

theorem readItems_rest (h : List.Forall₂ (fun t a => Reads read (Utf8.encode t) a) ts as)
    (rest : Bytes) {fuel i : Nat} (hfuel : ts.length < fuel) (hi : i ≠ 0) :
    readItems read fuel i (Utf8.encode (ts.flatMap (',' :: ·)) ++ Ascii.closeBracket :: rest) =
      .ok (as, Ascii.closeBracket :: rest) := by
  induction h generalizing fuel i with
  | nil =>
    obtain ⟨fuel, rfl⟩ := Nat.exists_eq_succ_of_ne_zero (Nat.ne_zero_of_lt hfuel)
    rfl
  | @cons t a ts as ht _ ih =>
    obtain ⟨fuel, rfl⟩ := Nat.exists_eq_succ_of_ne_zero (Nat.ne_zero_of_lt hfuel)
    have hrest := ended_items ts (ended_cons (b := Ascii.closeBracket) (by decide) rest)
    refine readItems_cons ht ?_ hrest (ih (Nat.lt_of_succ_lt_succ hfuel) (Nat.succ_ne_zero i))
    obtain ⟨b, bs, hbs, hb⟩ := ht.exists_cons
    have hcomma : Utf8.encode (',' :: t) = Ascii.comma :: Utf8.encode t := rfl
    rw [decide_eq_false hi, List.flatMap_cons, Utf8.encode_append, List.append_assoc, hcomma, hbs]
    exact nextItem_comma hb _

/-- The number of items is at most the number of bytes. -/
theorem length_le_encode (ts : List (List Char)) :
    ts.length ≤ (Utf8.encode (ts.flatMap (',' :: ·))).length := by
  induction ts with
  | nil => exact Nat.le_refl 0
  | cons t ts ih =>
    rw [List.flatMap_cons, Utf8.encode_append, List.length_append, List.length_cons]
    have hcomma : 0 < (Utf8.encode (',' :: t)).length := by
      rw [Utf8.encode, List.flatMap_cons, List.length_append]
      exact Nat.lt_of_lt_of_le (by decide) (Nat.le_add_right _ _)
    omega

/-- A list is read from the texts of its items. -/
theorem reads_list (h : List.Forall₂ (fun t a => Reads read (Utf8.encode t) a) ts as) :
    Reads (Reader.list read) (Utf8.encode (renderArray ts)) as := by
  have hbytes : Utf8.encode (renderArray ts) =
      Ascii.openBracket :: (Utf8.encode (commaSeparated ts) ++ [Ascii.closeBracket]) :=
    encode_between rfl rfl _
  rw [hbytes]
  refine ⟨⟨Ascii.openBracket, rfl, by decide⟩, fun rest _ => ?_⟩
  have hitems : readItems read
      ((Utf8.encode (commaSeparated ts) ++ Ascii.closeBracket :: rest).length + 1) 0
      (Utf8.encode (commaSeparated ts) ++ Ascii.closeBracket :: rest) =
      .ok (as, Ascii.closeBracket :: rest) := by
    cases h with
    | nil => rfl
    | @cons t a ts as ht hts =>
      rw [commaSeparated_cons, Utf8.encode_append, List.append_assoc]
      have hrest := ended_items ts (ended_cons (b := Ascii.closeBracket) (by decide) rest)
      refine readItems_cons ht ?_ hrest (readItems_rest hts rest ?_ Nat.one_ne_zero)
      · obtain ⟨b, bs, hbs, hb⟩ := ht.exists_cons
        rw [hbs]
        exact nextItem_first hb _
      · have hlength := length_le_encode ts
        simp only [List.length_append, List.length_cons]
        omega
  rw [List.cons_append, List.append_assoc, List.singleton_append, Reader.list,
    withLead_cons (by decide), if_pos rfl, hitems]
  rfl

end

end StoreClient.Json
