import Mathlib.Data.List.Rotate
import StoreClient.Proofs.Request.Outcomes

/-!
Values that complete each other's placeholders are told from the outcome. Suppose the two outcomes of
two orders were the same text, and take the first place where they were made differently. The value
there is empty, since it stands where the other outcome has a brace, so that the one outcome is ahead
of the other by a placeholder from there on. Whatever follows, it stays ahead by a text that has no
word in braces but this placeholder, the text read in a circle (`Lag`), and so the outcomes never
meet again (`Outcomes.ne_append`).
-/

namespace StoreClient.PathTemplate

/-! ### Words in braces around a circle -/

section
variable {u v w q rest : List Char}

theorem exists_append_of_isRotated {α : Type} {xs ys : List α} (h : xs.IsRotated ys) :
    ∃ us vs, xs = us ++ vs ∧ ys = vs ++ us := by
  obtain ⟨n, rfl⟩ := h
  refine ⟨xs.take (n % xs.length), xs.drop (n % xs.length), ?_, ?_⟩
  · exact (List.take_append_drop _ _).symm
  · exact List.rotate_eq_drop_append_take_mod

/-- A word in braces comes before another, or is the same. -/
theorem eq_or_prefix_of_append_braced (hv : Braceless v) (hw : Braceless w)
    (h : braced v ++ rest = q ++ (braced w ++ u)) : v = w ∨ braced v <+: q := by
  by_cases hq : q = []
  · subst hq
    exact .inl (braced_append_inj hv hw h).1
  · rw [braced_append w] at h
    exact .inr (braced_prefix_of_append_open hv hq ⟨rest, h⟩)

/-- Around a circle that a word in braces is put into, the words in braces are this one and those
that there were. -/
theorem eq_or_isRotated_of_append_braced (hv : Braceless v) (hw : Braceless w)
    (h : (braced v ++ rest).IsRotated (q ++ braced w)) :
    v = w ∨ ∃ rest', (braced v ++ rest').IsRotated q := by
  obtain ⟨us, vs, hleft, hright⟩ := exists_append_of_isRotated h
  obtain ⟨zs, rfl, hus⟩ | ⟨zs, rfl, rfl⟩ := List.append_eq_append_iff.mp hright
  · -- the circle is cut within the new word in braces, so at one of its ends
    cases us with
    | nil =>
      rw [List.append_nil] at hus
      rw [← hus, List.nil_append, ← List.append_nil (braced w)] at hleft
      obtain hword | ⟨tail, rfl⟩ := eq_or_prefix_of_append_braced hv hw hleft
      · exact .inl hword
      · exact .inr ⟨tail, .refl _⟩
    | cons c us =>
      obtain ⟨rfl, -⟩ := List.cons.inj hleft
      cases zs with
      | nil =>
        rw [List.nil_append] at hus
        rw [← hus, List.append_nil] at hleft
        exact .inl (braced_append_inj hv hw hleft).1
      | cons z zs =>
        obtain ⟨tail, htail⟩ := braced_prefix_of_append_open hw (List.cons_ne_nil z zs)
          ⟨[], (List.append_nil _).trans hus⟩
        have hlen := congrArg List.length hus
        rw [← htail, List.length_append, List.length_append, List.length_cons] at hlen
        omega
  · rw [List.append_assoc] at hleft
    obtain hword | ⟨tail, rfl⟩ := eq_or_prefix_of_append_braced hv hw hleft
    · exact .inl hword
    · refine .inr ⟨tail ++ vs, ?_⟩
      rw [← List.append_assoc]
      exact List.isRotated_append

end

/-! ### Falling behind -/

/-- Whether a text has a closing brace and, read in a circle, no word in braces but one. -/
structure Lag (word text : List Char) : Prop where
  close_mem : '\x7d' ∈ text
  eq_word : ∀ {v rest}, Braceless v → (braced v ++ rest).IsRotated text → v = word

namespace Lag

variable {word text text' : List Char}

theorem rotate (h : Lag word text) (hr : text.IsRotated text') : Lag word text' where
  close_mem := hr.mem_iff.mp h.close_mem
  eq_word hv hrest := h.eq_word hv (hrest.trans hr.symm)

theorem append_braced (hword : Braceless word) (h : Lag word text) :
    Lag word (text ++ braced word) where
  close_mem := List.mem_append_left _ h.close_mem
  eq_word hv hrest := by
    obtain rfl | ⟨rest', hrest'⟩ := eq_or_isRotated_of_append_braced hv hword hrest
    · rfl
    · exact h.eq_word hv hrest'

theorem braced (hword : Braceless word) : Lag word (braced word) where
  close_mem := by simp [PathTemplate.braced]
  eq_word hv hrest := by
    obtain rfl | ⟨rest', hrest'⟩ := eq_or_isRotated_of_append_braced (q := []) hv hword hrest
    · rfl
    · cases List.isRotated_nil_iff.mp hrest'

end Lag

namespace Outcomes

variable {x y : String × List Char} {n : Nat} {s t : List Char}

/-- An outcome that is ahead by placeholders of `y` stays ahead. -/
theorem ne_append (hx : Fillable x) (hy : Fillable y) (hne : x.1 ≠ y.1) (hempty : y.2 = [])
    (h : Outcomes x y n s t) {ahead : List Char} (hlag : Lag y.1.toList ahead) :
    s ≠ ahead ++ t := by
  induction h generalizing ahead with
  | nil =>
    intro h
    rw [(List.append_eq_nil_iff.mp h.symm).1] at hlag
    exact List.not_mem_nil hlag.close_mem
  | @same _ s t c _ ih =>
    intro h
    cases ahead with
    | nil => exact List.not_mem_nil hlag.close_mem
    | cons d ahead =>
      -- the character is the first of what `s` is ahead by, and in `t` it joins that at its end
      obtain ⟨rfl, hrest⟩ := List.cons.inj h
      refine ih (hlag.rotate .cons_append_singleton) ?_
      rw [hrest, List.append_assoc]
      rfl
  | first _ ih =>
    -- what `s` is ahead by would begin with the placeholder of `x`
    intro h
    obtain ⟨rest, rfl⟩ := braced_prefix_of_close_mem hx.name.braceless hlag.close_mem ⟨_, h⟩
    exact hne (String.toList_injective (hlag.eq_word hx.name.braceless (.refl _)))
  | @second _ s t _ ih =>
    -- `s` gets ahead by one more placeholder of `y`
    rw [hempty, List.nil_append, ← List.append_assoc]
    exact ih (hlag.append_braced hy.name.braceless)

theorem eq_nil_of_append_eq_placeholder {x : String × List Char} (hx : Fillable x) {name : String}
    {u v : List Char} (h : x.2 ++ u = placeholder name ++ v) : x.2 = [] := by
  cases hvalue : x.2 with
  | nil => rfl
  | cons c cs =>
    rw [hvalue] at h
    exact absurd (List.cons.inj h).1 (hx.value c (hvalue ▸ List.mem_cons_self)).1

/-- Outcomes that are the same text have been made in the same way. -/
theorem eq_zero_of_eq (hx : Fillable x) (hy : Fillable y) (hne : x.1 ≠ y.1)
    (h : Outcomes x y n s t) (hst : s = t) : n = 0 := by
  induction h with
  | nil => rfl
  | same c _ ih => exact ih (List.cons.inj hst).2
  | first h _ =>
    have hempty := eq_nil_of_append_eq_placeholder hx hst.symm
    rw [hempty, List.nil_append] at hst
    exact (ne_append hy hx hne.symm hempty h.symm (.braced hx.name.braceless) hst.symm).elim
  | second h _ =>
    have hempty := eq_nil_of_append_eq_placeholder hy hst
    rw [hempty, List.nil_append] at hst
    exact (ne_append hx hy hne hempty h (.braced hy.name.braceless) hst).elim

end Outcomes

/-- Wherever one value completes the placeholder of another, their order is told from the outcome. -/
theorem put_put_ne {x y : String × List Char} (hx : Fillable x) (hy : Fillable y)
    (hne : x.1 ≠ y.1) {text : List Char} (h : Encloses (only x.1 x.2) text y.1) :
    put y (put x text) ≠ put x (put y text) := by
  obtain ⟨front, ps, rest, rfl, hps⟩ := h
  obtain ⟨n, hfront, -⟩ := exists_outcomes hx hy hne front
  obtain ⟨m, hrest, -⟩ := exists_outcomes hx hy hne rest
  have hfirst : put y (put x (front ++ braced (render ps) ++ rest)) =
      put y (put x front) ++ (y.2 ++ put y (put x rest)) := by
    rw [List.append_assoc, put_append_braced hx, put_braced hx hps, put_append_braced hy]
    exact congrArg _ (put_placeholder y _)
  have hsecond : put x (put y (front ++ braced (render ps) ++ rest)) =
      put x (put y front) ++ (placeholder y.1 ++ put x (put y rest)) := by
    rw [List.append_assoc, put_append_braced hy, put_braced_other hy hps, put_append_braced hx,
      put_braced hx hps]
    rfl
  have houtcomes := hfront.append (Outcomes.completed.append hrest)
  rw [← hfirst, ← hsecond] at houtcomes
  intro heq
  have hzero := houtcomes.eq_zero_of_eq hx hy hne heq
  omega

end StoreClient.PathTemplate
