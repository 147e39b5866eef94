import Mathlib.Data.List.Forall2
import StoreClient.Proofs.Xml.Tag

/-!
Text within an element. A scanner may hold back characters that could begin a mark, but all of them
are given out before the next mark (`Mode.Holds`), so that a draft is known by the text that has
been read since the last one (`Draft.After`). A text that is escaped is read as it was before,
without the white space in front of it (`Draft.After.exists_take_escape`), unless it has a character that
no document may hold, which is where reading ends (`Draft.After.leads_none`).
-/

namespace StoreClient.Xml

/-! ### Scanning a text -/

/-- The characters that a scanner holds back, which begin no mark as it turns out. -/
inductive Mode.Holds : Mode → List Char → Prop where
  | ground : Holds .ground []
  | slash : Holds .slash ['/']
  | bracket : Holds .bracket [']']
  | brackets : Holds .brackets [']', ']']

/-- Tokens that stand for a character in a text. -/
inductive Token.Spells : Token → Char → Prop where
  | char (c : Char) : Spells (.char c) c
  | equals : Spells .equals '='
  | semicolon : Spells .semicolon ';'
  | singleQuote : Spells .singleQuote '\''
  | doubleQuote : Spells .doubleQuote '"'

/-- A character that begins and ends no mark in a text. -/
def IsUnmarked (c : Char) : Prop := c ≠ '<' ∧ c ≠ '>' ∧ c ≠ '&'

/-- Whether a document can hold a text. -/
def IsText (text : List Char) : Prop := ∀ c ∈ text, Version.v10.isChar c

instance (text : List Char) : Decidable (IsText text) := List.decidableBAll _ _

theorem IsUnmarked.escapeChar {c : Char} (hc : IsUnmarked c) : escapeChar c = [c] := by
  rw [Xml.escapeChar, if_neg hc.1, if_neg hc.2.1, if_neg hc.2.2]

theorem ne_of_not_isChar {c d : Char} (hc : ¬ Version.v10.isChar c) (hd : Version.v10.isChar d) :
    c ≠ d := by
  rintro rfl
  exact hc hd

theorem spells_map_char (cs : List Char) : List.Forall₂ Token.Spells (cs.map .char) cs :=
  List.forall₂_map_left_iff.mpr (List.forall₂_same.mpr fun c _ => .char c)

theorem spells_single? {c : Char} (hc : IsUnmarked c) :
    ((Token.single? c).getD (.char c)).Spells c := by
  rw [Token.single?.eq_def]
  split
  · exact (hc.2.1 rfl).elim
  · exact (hc.2.2 rfl).elim
  · exact .semicolon
  · exact .doubleQuote
  · exact .singleQuote
  · exact .char c

section
variable {mode : Mode} {held : List Char} {c : Char}

theorem Mode.Holds.isText (h : mode.Holds held) : IsText held := by
  cases h <;> decide

/-- Every character but a bracket lets go what is held back. -/
theorem Mode.Holds.feed (h : mode.Holds held) (hend : c ≠ '>') (hbracket : c ≠ ']') :
    ({ mode } : Scanner).feed c =
      some (Scanner.after (held.map .char) (({} : Scanner).ground c)) := by
  cases h with
  | ground => rfl
  | slash => exact if_neg hend
  | bracket => exact if_neg hbracket
  | brackets => exact (if_neg hend).trans (if_neg hbracket)

theorem exists_ground_eq (hc : IsUnmarked c) : ∃ mode held ts cs,
    ({} : Scanner).ground c = ({ mode }, ts) ∧ mode.Holds held ∧
      List.Forall₂ Token.Spells ts cs ∧ [c] = cs ++ held := by
  by_cases hslash : c = '/'
  · subst hslash
    exact ⟨.slash, ['/'], [], [], rfl, .slash, .nil, rfl⟩
  by_cases hbracket : c = ']'
  · subst hbracket
    exact ⟨.bracket, [']'], [], [], rfl, .bracket, .nil, rfl⟩
  by_cases hequals : c = '='
  · subst hequals
    exact ⟨.ground, [], [.equals], ['='], rfl, .ground, .cons .equals .nil, rfl⟩
  refine ⟨.ground, [], [(Token.single? c).getD (.char c)], [c], ?_, .ground,
    .cons (spells_single? hc) .nil, rfl⟩
  simp [Scanner.ground, Scanner.enter, hc.1, hslash, hbracket, hequals]

/-- A character of a text is held back or given out behind what was. -/
theorem Mode.Holds.exists_feed_eq (h : mode.Holds held) (hc : IsUnmarked c) :
    ∃ mode' held' ts cs, ({ mode } : Scanner).feed c = some ({ mode := mode' }, ts) ∧
      mode'.Holds held' ∧ List.Forall₂ Token.Spells ts cs ∧ held ++ [c] = cs ++ held' := by
  by_cases hbracket : c = ']'
  · subst hbracket
    cases h with
    | ground => exact ⟨.bracket, [']'], [], [], rfl, .bracket, .nil, rfl⟩
    | slash =>
      exact ⟨.bracket, [']'], [.char '/'], ['/'], rfl, .bracket, .cons (.char _) .nil, rfl⟩
    | bracket => exact ⟨.brackets, [']', ']'], [], [], rfl, .brackets, .nil, rfl⟩
    | brackets =>
      exact ⟨.brackets, [']', ']'], [.char ']'], [']'], rfl, .brackets, .cons (.char _) .nil, rfl⟩
  · obtain ⟨mode', held', ts, cs, hground, hholds, hspells, hcs⟩ := exists_ground_eq hc
    refine ⟨mode', held', held.map .char ++ ts, held ++ cs, ?_, hholds,
      List.rel_append (spells_map_char held) hspells, ?_⟩
    · rw [h.feed hc.2.1 hbracket, hground]
      rfl
    · rw [List.append_assoc, ← hcs]

end

/-! ### Reading a text -/

theorem reverse_dropWhile_concat (read : List Char) (c : Char) :
    ((read ++ [c]).dropWhile isSpace).reverse =
      if isSpace c && (read.dropWhile isSpace).isEmpty then []
      else c :: (read.dropWhile isSpace).reverse := by
  rw [List.dropWhile_append]
  cases hread : read.dropWhile isSpace with
  | nil => cases hc : isSpace c <;> simp [hc]
  | cons d ds => simp

namespace Draft

variable {elements : List Open} {text : List Char} {document : Draft} {c : Char}

/-- A draft within some elements, after a text since the last mark. -/
inductive After (elements : List Open) : List Char → Draft → Prop where
  | intro {mode : Mode} {held : List Char} (h : mode.Holds held) (read : List Char) :
      After elements (read ++ held)
        (plain .root mode .content elements (read.dropWhile isSpace).reverse)

theorem after_nil (elements : List Open) :
    After elements [] (plain .root .ground .content elements []) := .intro .ground []

theorem After.isUtf8 (h : After elements text document) : document.encoding.isUtf8 := by
  cases h
  rfl

theorem steps_append {document' : Draft} {ts us : List Token}
    (h : document.steps ts = some (.next document')) :
    document.steps (ts ++ us) = document'.steps us := by
  induction ts generalizing document with
  | nil =>
    cases h
    rfl
  | cons t ts ih =>
    rw [steps] at h
    rw [List.cons_append, steps]
    cases hstep : document.step t with
    | none =>
      rw [hstep] at h
      cases h
    | some outcome =>
      rw [hstep] at h
      cases outcome with
      | next => exact ih h
      | insert | root => cases h

section
variable (helements : elements ≠ [])
include helements

theorem step_char (mode : Mode) (read : List Char) (c : Char) :
    (plain .root mode .content elements (read.dropWhile isSpace).reverse).step (.char c) =
      if Version.v10.isChar c then
        some (.next (plain .root mode .content elements ((read ++ [c]).dropWhile isSpace).reverse))
      else none := by
  have hroot : (!elements.isEmpty) = true := by simpa using helements
  have hstep :
      (plain .root mode .content elements (read.dropWhile isSpace).reverse).step (.char c) =
      if isSpace c && (read.dropWhile isSpace).reverse.isEmpty then
        some (.next (plain .root mode .content elements (read.dropWhile isSpace).reverse))
      else if !elements.isEmpty && Version.v10.isChar c then
        some (.next (plain .root mode .content elements (c :: (read.dropWhile isSpace).reverse)))
      else none := rfl
  rw [hstep, List.isEmpty_reverse, hroot, Bool.true_and, reverse_dropWhile_concat]
  split
  · next hspace =>
    obtain ⟨hc, hread⟩ := (Bool.and_eq_true _ _).mp hspace
    have hchar : Version.v10.isChar c := by simp [Version.isChar, hc]
    rw [if_pos hchar, List.isEmpty_iff.mp hread]
    rfl
  · rfl

/-- A token that stands for a character adds it to the text. -/
theorem step_of_spells {t : Token} (h : t.Spells c) (hc : Version.v10.isChar c) (mode : Mode)
    (read : List Char) :
    (plain .root mode .content elements (read.dropWhile isSpace).reverse).step t =
      some (.next
        (plain .root mode .content elements ((read ++ [c]).dropWhile isSpace).reverse)) := by
  obtain ⟨element, outer, rfl⟩ := List.exists_cons_of_ne_nil helements
  cases h with
  | char => rw [step_char helements, if_pos hc]
  | equals | semicolon | singleQuote | doubleQuote =>
    rw [reverse_dropWhile_concat]
    rfl

theorem steps_of_spells {ts : List Token} {cs : List Char} (h : List.Forall₂ Token.Spells ts cs)
    (hcs : IsText cs) (mode : Mode) (read : List Char) :
    (plain .root mode .content elements (read.dropWhile isSpace).reverse).steps ts =
      some (.next
        (plain .root mode .content elements ((read ++ cs).dropWhile isSpace).reverse)) := by
  induction h generalizing read with
  | nil => rw [List.append_nil, steps]
  | @cons t c ts cs hspells _ ih =>
    obtain ⟨hc, hcs⟩ := List.forall_mem_cons.mp hcs
    have hrest := ih hcs (read ++ [c])
    rw [List.append_assoc, List.singleton_append] at hrest
    rw [steps, step_of_spells helements hspells hc]
    exact hrest

end

section
variable (h : After elements text document) (helements : elements ≠ [])
include h helements

/-- A character of a text is read into it. -/
theorem After.exists_feed_eq (hc : Version.v10.isChar c) (hunmarked : IsUnmarked c) :
    ∃ document', document.feed c = some (.next document') ∧
      After elements (text ++ [c]) document' := by
  obtain ⟨hholds, read⟩ := h
  obtain ⟨mode', held', ts, cs, hfeed, hholds', hspells, hcs⟩ := hholds.exists_feed_eq hunmarked
  have hchars : IsText cs := by
    intro d hd
    have hmem := List.mem_append_left held' hd
    rw [← hcs] at hmem
    obtain hmem | hmem := List.mem_append.mp hmem
    · exact hholds.isText d hmem
    · exact List.mem_singleton.mp hmem ▸ hc
  refine ⟨plain .root mode' .content elements ((read ++ cs).dropWhile isSpace).reverse, ?_, ?_⟩
  · rw [feed, show (plain _ _ _ _ _).scanner.feed c = _ from hfeed]
    exact steps_of_spells helements hspells hchars mode' read
  · rw [List.append_assoc, hcs, ← List.append_assoc]
    exact .intro hholds' _

/-- What a character that lets go what is held back comes to after the text. -/
theorem After.feed_eq (hend : c ≠ '>') (hbracket : c ≠ ']') {mode : Mode} {ts : List Token}
    (hground : ({} : Scanner).ground c = ({ mode }, ts)) :
    document.feed c =
      (plain .root mode .content elements (text.dropWhile isSpace).reverse).steps ts := by
  obtain ⟨hholds, read⟩ := h
  have hsteps := steps_of_spells helements (spells_map_char _) hholds.isText mode read
  rw [feed, show (plain _ _ _ _ _).scanner.feed c = _ from hholds.feed hend hbracket, hground]
  exact steps_append hsteps

theorem After.feed_none (hc : ¬ Version.v10.isChar c) : document.feed c = none := by
  have hne {d : Char} (hd : Version.v10.isChar d) : c ≠ d := ne_of_not_isChar hc hd
  have hsingle : Token.single? c = none := by rw [Token.single?] <;> exact hne (by decide)
  have hground : ({} : Scanner).ground c = ({}, [.char c]) := by
    simp [Scanner.ground, Scanner.enter, hsingle, hne (d := '<') (by decide),
      hne (d := '/') (by decide), hne (d := ']') (by decide), hne (d := '=') (by decide)]
  rw [h.feed_eq helements (hne (by decide)) (hne (by decide)) hground, steps,
    step_char helements, if_neg hc]

/-! ### Escaped texts -/

/-- What stands for a character in a text is read as the character. -/
theorem After.exists_take_escapeChar (hc : Version.v10.isChar c) :
    ∃ document', document.take (escapeChar c) = some document' ∧
      After elements (text ++ [c]) document' := by
  have hreference {name : List Char}
      (htake : (plain .root .ground (.reference []) elements (text.dropWhile isSpace).reverse).take
          name = some (plain .root .ground .content elements
            (c :: (text.dropWhile isSpace).reverse)))
      (hspace : isSpace c = false) : ∃ document', document.take ('&' :: name) = some document' ∧
        After elements (text ++ [c]) document' := by
    have hfeed : document.feed '&' = some (.next
        (plain .root .ground (.reference []) elements (text.dropWhile isSpace).reverse)) := by
      obtain ⟨element, outer, rfl⟩ := List.exists_cons_of_ne_nil helements
      exact h.feed_eq (c := '&') helements (by decide) (by decide) rfl
    refine ⟨_, (take_cons h.isUtf8 hfeed).trans htake, ?_⟩
    have hread := reverse_dropWhile_concat text c
    rw [hspace, Bool.false_and, if_neg Bool.false_ne_true] at hread
    rw [← hread, ← List.append_nil (text ++ [c])]
    simpa using After.intro .ground (text ++ [c])
  rw [escapeChar]
  split
  · next hc => exact hreference (by subst hc; rfl) (by subst hc; rfl)
  split
  · next hc => exact hreference (by subst hc; rfl) (by subst hc; rfl)
  split
  · next hc => exact hreference (by subst hc; rfl) (by subst hc; rfl)
  · next hopen hend hreference =>
    obtain ⟨document', hfeed, hafter⟩ := h.exists_feed_eq helements hc ⟨hopen, hend, hreference⟩
    exact ⟨document', take_cons h.isUtf8 hfeed, hafter⟩

end

theorem After.exists_take_escape (h : After elements text document) (helements : elements ≠ [])
    {cs : List Char} (hcs : IsText cs) :
    ∃ document', document.take (escape cs) = some document' ∧
      After elements (text ++ cs) document' := by
  induction cs generalizing text document with
  | nil =>
    rw [List.append_nil]
    exact ⟨document, rfl, h⟩
  | cons c cs ih =>
    obtain ⟨hc, hcs⟩ := List.forall_mem_cons.mp hcs
    obtain ⟨document₁, htake₁, h₁⟩ := h.exists_take_escapeChar helements hc
    obtain ⟨document₂, htake₂, h₂⟩ := ih h₁ hcs
    refine ⟨document₂, ?_, by simpa using h₂⟩
    rw [escape, List.flatMap_cons, take_append, htake₁]
    exact htake₂

/-- A character that no document may hold ends the reading. -/
theorem After.leads_none (h : After elements text document) (helements : elements ≠ [])
    {cs : List Char} (hcs : ¬ IsText cs) (rest : List Char) :
    document.Leads (escape cs ++ rest) none := by
  induction cs generalizing text document with
  | nil => exact (hcs fun _ hc => nomatch hc).elim
  | cons c cs ih =>
    rw [escape, List.flatMap_cons, List.append_assoc]
    by_cases hc : Version.v10.isChar c
    · obtain ⟨document', htake, h'⟩ := h.exists_take_escapeChar helements hc
      exact (ih h' fun hall => hcs (List.forall_mem_cons.mpr ⟨hc, hall⟩)).of_take htake
    · have hunmarked : IsUnmarked c := ⟨ne_of_not_isChar hc (by decide),
        ne_of_not_isChar hc (by decide), ne_of_not_isChar hc (by decide)⟩
      rw [hunmarked.escapeChar]
      exact Draft.leads_none h.isUtf8 (h.feed_none helements hc)

end Draft

end StoreClient.Xml
