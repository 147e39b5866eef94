import StoreClient.Proofs.NameMap
import StoreClient.Request.PathTemplate

/-!
Paths as pieces. A path whose braces all belong to placeholders is a list of pieces, each a
character that is no brace or a placeholder (`Piece`). Scanning such a path finds the placeholders
and nothing else (`scan_render`), and replacing a placeholder everywhere in its text is substitution
in the list of its pieces (`replaceAll_render`): no occurrence begins inside another piece or
reaches into the next.
-/

namespace StoreClient.PathTemplate

/-- What a path is made of. -/
inductive Piece where
  | char (c : Char)
  | slot (name : String)
  deriving DecidableEq

namespace Piece

/-- A character stands alone only if it is no brace, and names are made of word characters. -/
def Valid : Piece → Prop
  | .char c => c ≠ '\x7b' ∧ c ≠ '\x7d'
  | .slot name => name.toList ≠ [] ∧ ∀ c ∈ name.toList, CharSet.isWord c

instance : DecidablePred Valid
  | .char _ => inferInstanceAs (Decidable (_ ∧ _))
  | .slot name =>
    decidable_of_iff (name.toList ≠ [] ∧ name.toList.all CharSet.isWord)
      (and_congr_right fun _ => List.all_eq_true)

def render : Piece → List Char
  | .char c => [c]
  | .slot name => placeholder name

def name? : Piece → Option String
  | .char _ => none
  | .slot name => some name

/-- The pieces after each placeholder that has a value is replaced by the characters of it. -/
def substitute (value : String → Option (List Char)) : Piece → List Piece
  | .char c => [.char c]
  | .slot name =>
    match value name with
    | some cs => cs.map .char
    | none => [.slot name]

end Piece

/-- The text of some pieces. -/
def render (ps : List Piece) : List Char := ps.flatMap Piece.render

/-- The names of the placeholders among some pieces. -/
def names (ps : List Piece) : List String := ps.filterMap Piece.name?

/-- Some pieces after every placeholder that has a value is replaced by it. -/
def substitute (value : String → Option (List Char)) (ps : List Piece) : List Piece :=
  ps.flatMap (Piece.substitute value)

theorem render_cons (p : Piece) (ps : List Piece) : render (p :: ps) = p.render ++ render ps :=
  List.flatMap_cons

theorem render_append (ps qs : List Piece) : render (ps ++ qs) = render ps ++ render qs :=
  List.flatMap_append

theorem render_map_char (cs : List Char) : render (cs.map .char) = cs := by
  rw [render, List.flatMap_map]
  exact List.flatMap_singleton' cs

theorem substitute_cons (value : String → Option (List Char)) (p : Piece) (ps : List Piece) :
    substitute value (p :: ps) = p.substitute value ++ substitute value ps :=
  List.flatMap_cons

theorem mem_names {ps : List Piece} {name : String} : name ∈ names ps ↔ .slot name ∈ ps := by
  rw [names, List.mem_filterMap]
  constructor
  · rintro ⟨_ | n, hp, h⟩
    · cases h
    · cases h
      exact hp
  · exact fun h => ⟨_, h, rfl⟩

/-! ### Scanning -/

theorem not_isWord_openBrace : CharSet.isWord '\x7b' = false := rfl

theorem not_isWord_closeBrace : CharSet.isWord '\x7d' = false := rfl

theorem ne_openBrace_of_isWord {c : Char} (h : CharSet.isWord c) : c ≠ '\x7b' := by
  rintro rfl
  rw [not_isWord_openBrace] at h
  cases h

theorem ne_closeBrace_of_isWord {c : Char} (h : CharSet.isWord c) : c ≠ '\x7d' := by
  rintro rfl
  rw [not_isWord_closeBrace] at h
  cases h

/-- The scan collects the rest of a name, last character first, and gives it out at the brace. -/
theorem scan_name {seen cs : List Char} (rest : List Char) (hne : seen ≠ [] ∨ cs ≠ [])
    (hcs : ∀ c ∈ cs, CharSet.isWord c) :
    scan (some seen) (cs ++ '\x7d' :: rest) = (seen.reverse ++ cs) :: scan none rest := by
  induction cs generalizing seen with
  | nil =>
    have hseen : seen.isEmpty = false := by simpa using hne
    rw [List.nil_append, scan, if_neg (by decide)]
    simp only [if_true, hseen, List.append_nil, Bool.false_eq_true, if_false]
  | cons c cs ih =>
    obtain ⟨hc, hcs⟩ := List.forall_mem_cons.mp hcs
    rw [List.cons_append, scan, if_neg (ne_openBrace_of_isWord hc)]
    simp only [if_neg (ne_closeBrace_of_isWord hc), if_pos hc]
    rw [ih (.inl (List.cons_ne_nil _ _)) hcs]
    simp

theorem scan_piece {p : Piece} (hp : p.Valid) (rest : List Char) :
    scan none (p.render ++ rest) = (p.name?.map String.toList).toList ++ scan none rest := by
  cases p with
  | char c =>
    rw [Piece.render, List.singleton_append, scan, if_neg hp.1]
    rfl
  | slot name =>
    rw [Piece.render, placeholder, List.append_assoc, List.cons_append, scan, if_pos rfl,
      List.singleton_append, scan_name rest (.inr hp.1) hp.2]
    rfl

theorem scan_render {ps : List Piece} (hps : ∀ p ∈ ps, p.Valid) :
    scan none (render ps) = (names ps).map String.toList := by
  induction ps with
  | nil => rfl
  | cons p ps ih =>
    obtain ⟨hp, hps⟩ := List.forall_mem_cons.mp hps
    rw [render_cons, scan_piece hp, ih hps, names, names]
    cases p <;> rfl

theorem mem_placeholders {template : String} {ps : List Piece} (hps : ∀ p ∈ ps, p.Valid)
    (ht : template.toList = render ps) {name : String} :
    name ∈ placeholders template ↔ name ∈ names ps := by
  rw [placeholders, List.mem_eraseDups, ht, scan_render hps, List.map_map]
  simp

/-- Whatever the text, what a scan gives out are names. -/
theorem isName_of_mem_scan {seen : Option (List Char)} {text cs : List Char}
    (hseen : ∀ ds, seen = some ds → ∀ c ∈ ds, CharSet.isWord c) (h : cs ∈ scan seen text) :
    cs ≠ [] ∧ ∀ c ∈ cs, CharSet.isWord c := by
  fun_induction scan seen text with
  | case1 => cases h
  | case2 seen rest ih => exact ih (by simp) h
  | case3 c rest hc ih => exact ih (by simp) h
  | case4 rest ds hds hopen ih => exact ih (by simp) h
  | case5 rest ds hds hopen ih =>
    rcases List.mem_cons.mp h with rfl | h
    · exact ⟨by simpa using hds, fun c hc => hseen ds rfl c (List.mem_reverse.mp hc)⟩
    · exact ih (by simp) h
  | case6 c rest hopen ds hclose hword ih =>
    refine ih (fun ds' hds' => ?_) h
    cases hds'
    exact List.forall_mem_cons.mpr ⟨hword, hseen ds rfl⟩
  | case7 c rest hopen ds hclose hword ih => exact ih (by simp) h

theorem valid_of_mem_placeholders {template name : String} (h : name ∈ placeholders template) :
    (Piece.slot name).Valid := by
  rw [placeholders, List.mem_eraseDups] at h
  obtain ⟨cs, hcs, rfl⟩ := List.mem_map.mp h
  rw [Piece.Valid, String.toList_ofList]
  exact isName_of_mem_scan (by simp) hcs

theorem nodup_placeholders (template : String) : (placeholders template).Nodup :=
  nodup_eraseDups _

/-! ### Replacing -/

theorem replaceFrom_skip (pattern value : List Char) (skipped rest : List Char) :
    replaceFrom pattern value skipped.length (skipped ++ rest) =
      replaceFrom pattern value 0 rest := by
  induction skipped with
  | nil => rfl
  | cons c cs ih => exact ih

variable {name : String} {value : List Char}

theorem replaceAll_char {c : Char} (hc : c ≠ '\x7b') (rest : List Char) :
    replaceAll (placeholder name) value (c :: rest) =
      c :: replaceAll (placeholder name) value rest := by
  rw [replaceAll, replaceFrom, placeholder, List.cons_append, List.isPrefixOf_cons_cons]
  simp [hc.symm, replaceAll]

theorem replaceAll_chars {cs : List Char} (hcs : ∀ c ∈ cs, c ≠ '\x7b') (rest : List Char) :
    replaceAll (placeholder name) value (cs ++ rest) =
      cs ++ replaceAll (placeholder name) value rest := by
  induction cs with
  | nil => rfl
  | cons c cs ih =>
    obtain ⟨hc, hcs⟩ := List.forall_mem_cons.mp hcs
    rw [List.cons_append, replaceAll_char hc, ih hcs, List.cons_append]

theorem replaceAll_placeholder (rest : List Char) :
    replaceAll (placeholder name) value (placeholder name ++ rest) =
      value ++ replaceAll (placeholder name) value rest := by
  have hpre : (placeholder name).isPrefixOf (placeholder name ++ rest) := by simp
  rw [placeholder, List.cons_append] at hpre ⊢
  rw [List.cons_append] at hpre ⊢
  rw [replaceAll, replaceFrom, if_pos hpre, List.length_cons, Nat.add_sub_cancel, replaceFrom_skip,
    replaceAll]

/-- A placeholder does not begin with another one. -/
theorem eq_of_placeholder_isPrefix {name other : String} {rest : List Char}
    (hn : (Piece.slot name).Valid) (ho : (Piece.slot other).Valid)
    (h : placeholder name <+: placeholder other ++ rest) : name = other := by
  obtain ⟨t, ht⟩ := h
  have hopen : ∀ {n : String}, (Piece.slot n).Valid → ∀ c ∈ n.toList, (c != '\x7d') = true :=
    fun hv c hc => bne_iff_ne.mpr (ne_closeBrace_of_isWord (hv.2 c hc))
  -- both names end at the first closing brace
  have hname := congrArg (fun cs => (cs.drop 1).takeWhile (· != '\x7d')) ht
  simp only [placeholder, List.cons_append, List.append_assoc, List.drop_succ_cons, List.drop_zero,
    List.nil_append, List.takeWhile_append_of_pos (hopen hn),
    List.takeWhile_append_of_pos (hopen ho), List.takeWhile_cons, bne_self_eq_false,
    Bool.false_eq_true, if_false, List.append_nil] at hname
  exact String.toList_injective hname

theorem replaceAll_other {other : String} (hn : (Piece.slot name).Valid)
    (ho : (Piece.slot other).Valid) (hne : name ≠ other) (rest : List Char) :
    replaceAll (placeholder name) value (placeholder other ++ rest) =
      placeholder other ++ replaceAll (placeholder name) value rest := by
  have hpre : ¬ (placeholder name).isPrefixOf (placeholder other ++ rest) := by
    intro h
    exact hne (eq_of_placeholder_isPrefix hn ho (List.isPrefixOf_iff_prefix.mp h))
  have hrest : ∀ c ∈ other.toList ++ ['\x7d'], c ≠ '\x7b' := by
    intro c hc
    rcases List.mem_append.mp hc with hc | hc
    · exact ne_openBrace_of_isWord (ho.2 c hc)
    · rw [List.mem_singleton.mp hc]
      decide
  rw [placeholder.eq_1 other, List.cons_append, List.cons_append] at hpre ⊢
  rw [replaceAll, replaceFrom, if_neg hpre]
  exact congrArg _ (replaceAll_chars hrest rest)

/-- A value for one name alone. -/
def only (name : String) (value : List Char) (n : String) : Option (List Char) :=
  if n = name then some value else none

/-- Replacing a placeholder in the text of some pieces is substitution in the pieces, whatever
follows them. -/
theorem replaceAll_render_append {ps : List Piece} (hps : ∀ p ∈ ps, p.Valid)
    (hn : (Piece.slot name).Valid) (rest : List Char) :
    replaceAll (placeholder name) value (render ps ++ rest) =
      render (substitute (only name value) ps) ++ replaceAll (placeholder name) value rest := by
  induction ps with
  | nil => rfl
  | cons p ps ih =>
    obtain ⟨hp, hps⟩ := List.forall_mem_cons.mp hps
    rw [render_cons, substitute_cons, render_append, List.append_assoc, List.append_assoc,
      ← ih hps]
    cases p with
    | char c => exact replaceAll_char hp.1 _
    | slot other =>
      by_cases h : other = name
      · subst h
        rw [Piece.render, replaceAll_placeholder, Piece.substitute, only, if_pos rfl,
          render_map_char]
      · rw [Piece.render, replaceAll_other hn hp (Ne.symm h), Piece.substitute, only, if_neg h]
        rw [render_cons]
        simp [render, Piece.render]

theorem replaceAll_render {ps : List Piece} (hps : ∀ p ∈ ps, p.Valid)
    (hn : (Piece.slot name).Valid) :
    replaceAll (placeholder name) value (render ps) =
      render (substitute (only name value) ps) := by
  have h : replaceAll (placeholder name) value (render ps ++ []) = _ :=
    replaceAll_render_append hps hn []
  rwa [List.append_nil, show replaceAll (placeholder name) value [] = [] from rfl,
    List.append_nil] at h

end StoreClient.PathTemplate
