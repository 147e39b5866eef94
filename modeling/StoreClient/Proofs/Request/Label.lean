import StoreClient.Proofs.Request.Outcomes

/-!
Braces that values leave standing. A reader takes any text in braces for the name of a placeholder
(`IsLabel`), and such a text is there once values are filled in exactly if one that was there
before, with its own braces in pairs, outlasts the values: what braces hold is filled in by itself,
unless it is the name whose value comes next (`hasBraced_put_iff`, `hasLabel_replaceEach_iff`).
-/

namespace StoreClient.PathTemplate

/-- What a reader takes for the name of a placeholder: any text within a segment. -/
structure IsLabel (inner : List Char) : Prop where
  ne_nil : inner ≠ []
  braceless : Braceless inner
  slash_not_mem : '/' ∉ inner

/-- Whether somewhere in a text braces hold something. -/
def HasBraced (P : List Char → Prop) (text : List Char) : Prop :=
  ∃ front inner rest, text = front ++ braced inner ++ rest ∧ P inner

/-- Whether the braces of a text that stands within `depth` others are in pairs. -/
def isClosed : Nat → List Char → Bool
  | depth, [] => depth == 0
  | depth, c :: rest =>
    if c = '\x7b' then isClosed (depth + 1) rest
    else if c = '\x7d' then depth ≠ 0 && isClosed (depth - 1) rest
    else isClosed depth rest

/-- Whether a text in braces is left when values are filled in: it is never the name whose value
comes next, and in the end it is a label. -/
def Outlasts : List (String × List Char) → List Char → Prop
  | [], inner => IsLabel inner
  | x :: values, inner => inner ≠ x.1.toList ∧ Outlasts values (put x inner)

/-! ### What braces hold -/

section
variable {P : List Char → Prop} {text : List Char}

theorem HasBraced.append (h : HasBraced P text) (before after : List Char) :
    HasBraced P (before ++ text ++ after) := by
  obtain ⟨front, inner, rest, rfl, hinner⟩ := h
  exact ⟨before ++ front, inner, rest ++ after, by simp, hinner⟩

theorem HasBraced.braced (h : HasBraced P text) (front rest : List Char) :
    HasBraced P (front ++ braced text ++ rest) := by
  simpa [PathTemplate.braced] using h.append (front ++ ['\x7b']) ('\x7d' :: rest)

theorem hasBraced_of_mem_names {ps : List Piece} {name : String} (h : name ∈ names ps) :
    HasBraced (· = name.toList) (render ps) := by
  obtain ⟨ps₁, ps₂, rfl⟩ := List.append_of_mem (mem_names.mp h)
  refine ⟨render ps₁, name.toList, render ps₂, ?_, rfl⟩
  rw [render_append, render_cons, List.append_assoc]
  rfl

end

/-! ### Braces in pairs -/

section
variable {depth : Nat} {cs rest : List Char}

theorem isClosed_append (hcs : Braceless cs) (depth : Nat) (rest : List Char) :
    isClosed depth (cs ++ rest) = isClosed depth rest := by
  induction cs with
  | nil => rfl
  | cons c cs ih =>
    obtain ⟨hc, hcs⟩ := List.forall_mem_cons.mp hcs
    rw [List.cons_append, isClosed, if_neg hc.1, if_neg hc.2, ih hcs]

theorem isClosed_of_braceless (hcs : Braceless cs) (depth : Nat) :
    isClosed depth cs = (depth == 0) := by
  have h := isClosed_append hcs depth []
  rwa [List.append_nil] at h

theorem isClosed_placeholder {name : String} (hname : (Piece.slot name).Valid) (depth : Nat)
    (rest : List Char) : isClosed depth (placeholder name ++ rest) = isClosed depth rest := by
  have h := isClosed_append hname.braceless (depth + 1) ('\x7d' :: rest)
  rw [placeholder, List.append_assoc, List.cons_append, isClosed, if_pos rfl]
  exact h

theorem isClosed_render {ps : List Piece} (hps : ∀ p ∈ ps, p.Valid) : isClosed 0 (render ps) := by
  induction ps with
  | nil => rfl
  | cons p ps ih =>
    obtain ⟨hp, htail⟩ := List.forall_mem_cons.mp hps
    rw [render_cons]
    cases p with
    | char c =>
      rw [Piece.render, isClosed_append (List.forall_mem_singleton.mpr hp)]
      exact ih htail
    | slot name =>
      rw [Piece.render, isClosed_placeholder hp]
      exact ih htail

end

section
variable {x : String × List Char} (hx : Fillable x)
include hx

theorem isClosed_put (depth : Nat) (text : List Char) :
    isClosed depth (put x text) = isClosed depth text := by
  induction text using placeholder_induction x.1 generalizing depth with
  | nil => rfl
  | slot rest ih =>
    rw [put_placeholder, isClosed_append hx.value, isClosed_placeholder hx.name, ih]
  | char c rest hpre ih =>
    have hput : put x (c :: rest) = c :: put x rest := replaceAll_cons hpre
    simp only [hput, isClosed, ih]

/-- A text whose braces are in pairs is filled in by itself. -/
theorem put_append {text : List Char} (h : isClosed depth text) (rest : List Char) :
    put x (text ++ rest) = put x text ++ put x rest := by
  induction text using placeholder_induction x.1 generalizing depth with
  | nil => rfl
  | slot text ih =>
    rw [isClosed_placeholder hx.name] at h
    rw [List.append_assoc, put_placeholder, put_placeholder, ih h, List.append_assoc]
  | char c text hpre ih =>
    have hpre' : ¬ placeholder x.1 <+: c :: (text ++ rest) := by
      intro hlong
      have htext : c :: text <+: c :: (text ++ rest) := List.prefix_append (c :: text) rest
      -- otherwise the text would break off within the name, and its first brace be left open
      obtain hshort | hshort := List.prefix_or_prefix_of_prefix hlong htext
      · exact hpre hshort
      · obtain ⟨rfl, htail⟩ := List.cons_prefix_cons.mp hshort
        obtain rfl | hname := List.prefix_concat_iff.mp htail
        · exact hpre (List.prefix_refl _)
        · have hbraceless : Braceless text := fun d hd =>
            hx.name.braceless d (hname.subset hd)
          rw [isClosed, if_pos rfl, isClosed_of_braceless hbraceless] at h
          cases h
    have hput : put x (c :: text) = c :: put x text := replaceAll_cons hpre
    have hput' : put x (c :: (text ++ rest)) = c :: put x (text ++ rest) := replaceAll_cons hpre'
    obtain ⟨depth', h⟩ : ∃ depth', isClosed depth' text := by
      rw [isClosed] at h
      split at h
      · exact ⟨_, h⟩
      split at h
      · exact ⟨_, (Bool.and_eq_true_iff.mp h).2⟩
      · exact ⟨_, h⟩
    rw [List.cons_append, hput', hput, ih h, List.cons_append]

/-- Braces that are not those of the placeholder stay where they are. -/
theorem put_braced_of_isClosed {inner : List Char} (hclosed : isClosed 0 inner)
    (hne : inner ≠ x.1.toList) (rest : List Char) :
    put x (braced inner ++ rest) = braced (put x inner) ++ put x rest := by
  have hpre : ¬ placeholder x.1 <+: '\x7b' :: (inner ++ '\x7d' :: rest) := by
    rintro ⟨tail, htail⟩
    have htail : braced x.1.toList ++ tail = '\x7b' :: (inner ++ '\x7d' :: rest) := htail
    rw [braced_append] at htail
    obtain ⟨front, rfl, hfront⟩ := exists_of_append_eq_append_cons
      hx.name.braceless.close_not_mem (List.cons.inj htail.symm).2.symm
    cases front with
    | nil => exact hne (List.append_nil _)
    | cons c front =>
      obtain ⟨rfl, -⟩ := List.cons.inj hfront
      rw [isClosed_append hx.name.braceless] at hclosed
      cases hclosed
  have hopen : put x ('\x7b' :: (inner ++ '\x7d' :: rest)) =
      '\x7b' :: put x (inner ++ '\x7d' :: rest) := replaceAll_cons hpre
  have hclose : put x ('\x7d' :: rest) = '\x7d' :: put x rest := replaceAll_char (by decide) rest
  rw [braced_append, hopen, put_append hx hclosed, hclose, braced_append]

/-- What braces hold once a value is filled in is what they held before, filled in by itself. -/
theorem hasBraced_put_iff {P : List Char → Prop} {text : List Char} :
    HasBraced (fun inner => isClosed 0 inner ∧ P inner) (put x text) ↔
      HasBraced (fun inner => isClosed 0 inner ∧ inner ≠ x.1.toList ∧ P (put x inner)) text := by
  constructor
  · rintro ⟨front, inner, rest, htext, hclosed, hinner⟩
    obtain ⟨front', inner', rest', rfl, hne, rfl⟩ :=
      exists_of_replaceAll_eq_braced hx.value htext
    refine ⟨front', inner', rest', rfl, ?_, hne, hinner⟩
    rw [← isClosed_put hx]
    exact hclosed
  · rintro ⟨front, inner, rest, rfl, hclosed, hne, hinner⟩
    refine ⟨put x front, put x inner, put x rest, ?_, ?_, hinner⟩
    · rw [List.append_assoc, put_append_braced hx, put_braced_of_isClosed hx hclosed hne,
        List.append_assoc]
    · rw [isClosed_put hx]
      exact hclosed

end

/-- A label is left exactly where a text in braces outlasts the values. -/
theorem hasLabel_replaceEach_iff {values : List (String × List Char)}
    (hfill : ∀ x ∈ values, Fillable x) {text : List Char} :
    HasBraced IsLabel (replaceEach values text) ↔
      HasBraced (fun inner => isClosed 0 inner ∧ Outlasts values inner) text := by
  induction values generalizing text with
  | nil =>
    have hlabel {inner : List Char} : IsLabel inner ↔ isClosed 0 inner ∧ IsLabel inner :=
      ⟨fun h => ⟨isClosed_of_braceless h.braceless 0, h⟩, And.right⟩
    simp only [replaceEach, List.foldl_nil, Outlasts, ← hlabel]
  | cons x values ih =>
    obtain ⟨hx, hfill⟩ := List.forall_mem_cons.mp hfill
    exact (ih hfill).trans (hasBraced_put_iff hx)

end StoreClient.PathTemplate
