import Mathlib.Data.List.TakeWhile
import StoreClient.Media

/-!
Which texts are media types. In lower case such a text is a type, a slash, a name and perhaps
parameters (`parse?_eq_some_iff`); the suffix of the name begins behind its last plus sign, unless
nothing is before it (`splitSuffix_eq_some_iff`). Only the names `json+xml` and `xml+json` belong to
both formats (`namesBoth_iff`).
-/

namespace StoreClient.Media

/-! ### Suffixes -/

theorem takeWhile_of_not_mem {cs : List Char} (h : '+' ∉ cs) (rest : List Char) :
    (cs ++ rest).takeWhile (· ≠ '+') = cs ++ rest.takeWhile (· ≠ '+') := by
  apply List.takeWhile_append_of_pos
  intro c hc
  apply decide_eq_true
  rintro rfl
  exact h hc

theorem splitSuffix_append (before : List Char) {suffix : List Char} (hsuffix : '+' ∉ suffix) :
    splitSuffix (before ++ '+' :: suffix) =
      if before.isEmpty then (before ++ '+' :: suffix, none) else (before, some suffix) := by
  have htake : (before ++ '+' :: suffix).reverse.takeWhile (· ≠ '+') = suffix.reverse := by
    rw [List.reverse_append, List.reverse_cons, List.append_assoc,
      takeWhile_of_not_mem (mt List.mem_reverse.mp hsuffix), List.singleton_append,
      List.takeWhile_cons_of_neg (by decide), List.append_nil]
  have hlength : (before ++ '+' :: suffix).length - suffix.length - 1 = before.length := by
    rw [List.length_append, List.length_cons]
    omega
  rw [splitSuffix, htake, List.reverse_reverse, hlength, List.take_left]

theorem splitSuffix_of_not_mem {name : List Char} (h : '+' ∉ name) :
    splitSuffix name = (name, none) := by
  have htake : name.reverse.takeWhile (· ≠ '+') = name.reverse := by
    apply List.takeWhile_eq_self_iff.mpr
    rintro c hc
    apply decide_eq_true
    rintro rfl
    exact h (List.mem_reverse.mp hc)
  rw [splitSuffix, htake, List.reverse_reverse, Nat.sub_self]
  rfl

/-- The suffix begins behind the last plus sign, and something is before that sign. -/
theorem splitSuffix_eq_some_iff {name before suffix : List Char} :
    splitSuffix name = (before, some suffix) ↔
      name = before ++ '+' :: suffix ∧ before ≠ [] ∧ '+' ∉ suffix := by
  constructor
  · intro h
    by_cases hplus : '+' ∈ name
    · obtain ⟨s, b, hname, hs⟩ := List.eq_append_cons_of_mem (List.mem_reverse.mpr hplus)
      have hname : name = b.reverse ++ '+' :: s.reverse := by
        rw [← List.reverse_reverse name, hname, List.reverse_append, List.reverse_cons,
          List.append_assoc, List.singleton_append]
      have hs : '+' ∉ s.reverse := mt List.mem_reverse.mp hs
      rw [hname, splitSuffix_append _ hs] at h
      split at h
      · cases h
      · next hb =>
        cases h
        exact ⟨hname, fun h => hb (List.isEmpty_iff.mpr h), hs⟩
    · rw [splitSuffix_of_not_mem hplus] at h
      cases h
  · rintro ⟨rfl, hbefore, hsuffix⟩
    rw [splitSuffix_append before hsuffix, if_neg]
    rwa [List.isEmpty_iff]

/-! ### Media types -/

theorem token_append {token rest : List Char} (htoken : ∀ c ∈ token, isTokenChar c)
    (hrest : ∀ c ∈ rest.head?, isTokenChar c = false) :
    (token ++ rest).takeWhile isTokenChar = token ∧
      (token ++ rest).dropWhile isTokenChar = rest := by
  rw [List.takeWhile_append_of_pos htoken, List.dropWhile_append_of_pos htoken]
  cases rest with
  | nil => exact ⟨List.append_nil _, rfl⟩
  | cons c rest =>
    have hc : ¬ isTokenChar c := by simp [hrest c rfl]
    rw [List.takeWhile_cons_of_neg hc, List.dropWhile_cons_of_neg hc]
    exact ⟨List.append_nil _, rfl⟩

theorem exists_token (cs : List Char) : ∃ token rest, cs = token ++ rest ∧
    (∀ c ∈ token, isTokenChar c) ∧ ∀ c ∈ rest.head?, isTokenChar c = false := by
  refine ⟨cs.takeWhile isTokenChar, cs.dropWhile isTokenChar,
    List.takeWhile_append_dropWhile.symm, fun c hc => List.mem_takeWhile_imp hc, ?_⟩
  intro c hc
  have h := List.head?_dropWhile_not isTokenChar cs
  rw [Option.mem_def.mp hc] at h
  exact h

/-- What may follow the name of a media type: nothing, or parameters behind a semicolon. -/
inductive IsTail (name : List Char) : List Char → Prop
  | nil : IsTail name []
  | params {params : List Char} (hname : name ≠ []) (hparams : areParams params) :
      IsTail name (';' :: params)

theorem IsTail.head? {name tail : List Char} (h : IsTail name tail) :
    ∀ c ∈ tail.head?, isTokenChar c = false := by
  cases h with
  | nil => exact fun c hc => nomatch hc
  | params =>
    intro c hc
    cases hc
    decide

/-- A media type is a type, a slash, a name and perhaps parameters. -/
theorem parse?_eq_some_iff {text : List Char} {media : Media} :
    parse? text = some media ↔ ∃ name tail,
      text.map Char.toLower = media.type ++ '/' :: (name ++ tail) ∧ media.type ≠ [] ∧
      (∀ c ∈ media.type, isTokenChar c) ∧ (∀ c ∈ name, isTokenChar c) ∧ IsTail name tail ∧
      splitSuffix name = (media.subtype, media.suffix) := by
  rw [parse?]
  constructor
  · intro h
    obtain ⟨type, after, htext, htype, hafter⟩ := exists_token (text.map Char.toLower)
    obtain ⟨htake, hdrop⟩ := token_append htype hafter
    simp only [htext, htake, hdrop] at h
    split at h
    · next rest =>
      obtain ⟨name, tail, rfl, hname, htail⟩ := exists_token rest
      obtain ⟨htake, hdrop⟩ := token_append hname htail
      simp only [htake, hdrop] at h
      split at h
      · cases h
      · next hempty =>
        have hne : type ≠ [] := fun h => hempty (List.isEmpty_iff.mpr h)
        split at h
        · cases h
          exact ⟨name, [], htext, hne, htype, hname, .nil, rfl⟩
        · split at h
          · next hparams =>
            obtain ⟨rfl, hempty, hparams⟩ := hparams
            cases h
            refine ⟨name, _, htext, hne, htype, hname, .params ?_ hparams, rfl⟩
            rintro rfl
            cases hempty
          · cases h
    · cases h
  · rintro ⟨name, tail, htext, hne, htype, hname, htail, hsplit⟩
    have hslash : ∀ c ∈ ('/' :: (name ++ tail)).head?, isTokenChar c = false := by
      intro c hc
      cases hc
      decide
    obtain ⟨htake, hdrop⟩ := token_append htype hslash
    obtain ⟨htake', hdrop'⟩ := token_append hname htail.head?
    simp only [htext, htake, hdrop, htake', hdrop', hsplit]
    rw [if_neg (mt List.isEmpty_iff.mp hne)]
    cases htail with
    | nil => rfl
    | params hname hparams =>
      refine if_pos ⟨rfl, ?_, hparams⟩
      simpa using hname

/-! ### Formats -/

theorem isOf_eq_true_iff {format : Format} {text : String} :
    isOf format text = true ↔ ∃ media, parse? text.toList = some media ∧
      (media.subtype = format.name ∨ media.suffix = some format.name) := by
  rw [isOf, Option.any_eq_true]
  simp only [has, Bool.or_eq_true, decide_eq_true_eq]

/-- A media type that names both formats, one as its subtype and the other as its suffix. -/
def NamesBoth (text : String) : Prop :=
  ∃ first second : Format, first ≠ second ∧ ∃ type tail, text.toList.map Char.toLower =
      type ++ '/' :: (first.name ++ '+' :: second.name ++ tail) ∧ type ≠ [] ∧
    (∀ c ∈ type, isTokenChar c) ∧ (tail = [] ∨ ∃ params, tail = ';' :: params ∧ areParams params)

/-- The name of such a media type, and its parts. -/
theorem splitSuffix_name (first second : Format) :
    splitSuffix (first.name ++ '+' :: second.name) = (first.name, some second.name) := by
  cases first <;> cases second <;> decide

theorem name_injective {first second : Format} (h : first.name = second.name) :
    first = second := by
  cases first <;> cases second <;> first | rfl | cases h

theorem namesBoth_iff {text : String} :
    NamesBoth text ↔ isOf .json text ∧ isOf .xml text := by
  simp only [isOf_eq_true_iff]
  constructor
  · rintro ⟨first, second, hne, type, tail, htext, htype, htoken, htail⟩
    have hmedia : parse? text.toList = some ⟨type, first.name, some second.name⟩ := by
      refine parse?_eq_some_iff.mpr ⟨_, tail, htext, htype, htoken, ?_, ?_, splitSuffix_name _ _⟩
      · exact List.all_eq_true.mp (by cases first <;> cases second <;> rfl)
      · rcases htail with rfl | ⟨params, rfl, hparams⟩
        · exact .nil
        · exact .params (by simp) hparams
    cases first <;> cases second
    · exact (hne rfl).elim
    · exact ⟨⟨_, hmedia, .inl rfl⟩, ⟨_, hmedia, .inr rfl⟩⟩
    · exact ⟨⟨_, hmedia, .inr rfl⟩, ⟨_, hmedia, .inl rfl⟩⟩
    · exact (hne rfl).elim
  · rintro ⟨⟨media, hmedia, hjson⟩, ⟨media', hmedia', hxml⟩⟩
    cases hmedia.symm.trans hmedia'
    have hboth : ∃ first second : Format, first ≠ second ∧ media.subtype = first.name ∧
        media.suffix = some second.name := by
      rcases hjson with hjson | hjson <;> rcases hxml with hxml | hxml
      · cases name_injective (hjson.symm.trans hxml)
      · exact ⟨.json, .xml, by decide, hjson, hxml⟩
      · exact ⟨.xml, .json, by decide, hxml, hjson⟩
      · cases name_injective (Option.some.inj (hjson.symm.trans hxml))
    obtain ⟨first, second, hne, hfirst, hsecond⟩ := hboth
    obtain ⟨name, tail, htext, htype, htoken, -, htail, hsplit⟩ := parse?_eq_some_iff.mp hmedia
    rw [hfirst, hsecond] at hsplit
    obtain ⟨rfl, -, -⟩ := splitSuffix_eq_some_iff.mp hsplit
    refine ⟨first, second, hne, media.type, tail, htext, htype, htoken, ?_⟩
    cases htail with
    | nil => exact .inl rfl
    | params _ hparams => exact .inr ⟨_, rfl, hparams⟩

end StoreClient.Media
