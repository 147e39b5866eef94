import Mathlib.Data.List.Basic
import Mathlib.Data.List.TakeWhile
import StoreClient.Client.Wire
import StoreClient.Proofs.Logged
import StoreClient.Proofs.Url.Path

/-!
Which address is read. What is put behind an authority that a client may have is the path and
nothing but the path: however it is spelled, scheme, user, host and port come from what stands
before it (`parse_append_path`).
-/

namespace StoreClient

theorem Url.isBlank_of_isAlphanum {c : Char} (h : c.isAlphanum) : isBlank c = false := by
  have hbounds := toNat_of_isAlphanum h
  exact decide_eq_false (by omega)

/-! ### Authorities -/

namespace Authority

/-- Characters that may occur in an authority. -/
def isAllowed (c : Char) : Bool := isPlain c || [':', '[', ']', '@', '%'].elem c

theorem isAllowed_of_step {st st' : State} {c : Char} (h : st.step c = .ok st') : isAllowed c := by
  rw [isAllowed, Bool.or_eq_true]
  by_cases hc : c ∈ [':', '[', ']', '@', '%']
  · exact .inr (List.elem_eq_true_of_mem hc)
  · simp only [List.mem_cons, List.not_mem_nil, or_false, not_or] at hc
    obtain ⟨h₁, h₂, h₃, h₄, h₅⟩ := hc
    rw [State.step, if_neg h₁, if_neg h₂, if_neg h₃, if_neg h₄, if_neg h₅] at h
    split at h
    · next hplain => exact .inl hplain
    · cases h

theorem forall_isAllowed_of_foldlM {cs : List Char} {st st' : State}
    (h : cs.foldlM State.step st = .ok st') : ∀ c ∈ cs, isAllowed c := by
  induction cs generalizing st with
  | nil => exact fun c hc => nomatch hc
  | cons c cs ih =>
    rw [List.foldlM_cons, bind_eq_ok] at h
    obtain ⟨_, hc, hcs⟩ := h
    exact List.forall_mem_cons.mpr ⟨isAllowed_of_step hc, ih hcs⟩

/-- A text that is an authority holds nothing that could end one. -/
theorem forall_isAllowed_of_check {text : List Char} (h : check text = .ok ()) :
    ∀ c ∈ text, isAllowed c := by
  rw [check, bind_eq_ok] at h
  obtain ⟨st, hfold, h⟩ := h
  cases hends : text.any endsHere with
  | true =>
    rw [hends] at h
    cases hfinal : st.isFinal <;> rw [hfinal] at h <;> cases h
  | false =>
    have hall : ∀ c ∈ text, !endsHere c := by simpa using hends
    rw [List.takeWhile_eq_self_iff.mpr hall] at hfold
    exact forall_isAllowed_of_foldlM hfold

theorem isBlank_of_isAllowed {c : Char} (h : isAllowed c) : Url.isBlank c = false := by
  have hmarks : ∀ d ∈
      ['!', '$', '&', '\'', '(', ')', '*', '+', ',', '-', '.', ';', '=', '_', '~'] ++
        [':', '[', ']', '@', '%'], Url.isBlank d = false :=
    List.forall_iff_forall_mem.mp (by decide)
  rw [isAllowed, isPlain, Bool.or_eq_true, Bool.or_eq_true] at h
  rcases h with (h | h) | h
  · exact Url.isBlank_of_isAlphanum h
  · exact hmarks c (List.mem_append_left _ (List.mem_of_elem_eq_true h))
  · exact hmarks c (List.mem_append_right _ (List.mem_of_elem_eq_true h))

theorem endsAuthority_of_isAllowed {special : Bool} {c : Char} (h : isAllowed c) :
    Url.endsAuthority special c = false := by
  rw [Bool.eq_false_iff]
  intro hc
  simp only [Url.endsAuthority, Url.Path.isSlash, Bool.or_eq_true, Bool.and_eq_true, beq_iff_eq]
    at hc
  rcases hc with ((rfl | ⟨-, rfl⟩) | rfl) | rfl <;> cases h

end Authority

namespace Url

/-! ### Reading -/

theorem splitBefore_append {p : Char → Bool} {front rest : List Char}
    (hfront : ∀ c ∈ front, p c = false) (hrest : ∀ c ∈ rest.head?, p c) :
    splitBefore p (front ++ rest) = (front, rest) := by
  have hnot : ∀ c ∈ front, !p c := by
    intro c hc
    rw [hfront c hc]
    rfl
  rw [splitBefore, List.takeWhile_append_of_pos hnot, List.dropWhile_append_of_pos hnot]
  cases rest with
  | nil => rw [List.takeWhile_nil, List.dropWhile_nil, List.append_nil]
  | cons c rest => simp [hrest c rfl]

theorem splitBefore_of_forall {p : Char → Bool} {cs : List Char} (hcs : ∀ c ∈ cs, p c = false) :
    splitBefore p cs = (cs, []) := by
  have h := splitBefore_append hcs (fun c hc => nomatch hc : ∀ c ∈ [].head?, p c)
  rwa [List.append_nil] at h

theorem dropWhile_eq_self {p : Char → Bool} {cs : List Char} (hcs : ∀ c ∈ cs.head?, p c = false) :
    cs.dropWhile p = cs := by
  cases cs with
  | nil => rfl
  | cons c cs => rw [List.dropWhile_cons_of_neg (by simp [hcs c rfl])]

theorem clean_of_forall {cs : List Char} (hcs : ∀ c ∈ cs, isBlank c = false) : clean cs = cs := by
  have hrev : ∀ c ∈ cs.reverse, isBlank c = false := fun c hc => hcs c (List.mem_reverse.mp hc)
  rw [clean, dropWhile_eq_self fun c hc => hcs c (List.mem_of_head? hc),
    dropWhile_eq_self fun c hc => hrev c (List.mem_of_head? hc), List.reverse_reverse, dropBreaks,
    List.filter_eq_self]
  intro c hc
  rw [Bool.not_eq_true', Bool.eq_false_iff]
  intro hbreak
  have hblank := hcs c hc
  have hmem : c ∈ ['\t', '\n', '\r'] := List.mem_of_elem_eq_true hbreak
  simp only [List.mem_cons, List.not_mem_nil, or_false] at hmem
  rcases hmem with rfl | rfl | rfl <;> cases hblank

/-- A name that a client has for its scheme is neither surrounded by anything nor ended early. -/
theorem not_ends_of_mem_scheme {scheme : Scheme} {c : Char} (hc : c ∈ scheme.name) :
    isBlank c = false ∧ c ≠ ':' := by
  have hname := List.all_eq_true.mp scheme.isName c hc
  rw [Scheme.isNameChar, Bool.or_eq_true] at hname
  rcases hname with halnum | hmark
  · refine ⟨isBlank_of_isAlphanum halnum, ?_⟩
    rintro rfl
    cases halnum
  · have hmarks : ∀ d ∈ ['+', '-', '.', '~'], isBlank d = false ∧ d ≠ ':' :=
      List.forall_iff_forall_mem.mp (by decide)
    exact hmarks c (List.mem_of_elem_eq_true hmark)

theorem splitScheme?_name (scheme : Scheme) (rest : List Char) :
    splitScheme? (scheme.name ++ ':' :: rest) = (Scheme.read? scheme.name).map (·, rest) := by
  have hname : ∀ c ∈ scheme.name, (c == ':') = false :=
    fun c hc => beq_false_of_ne (not_ends_of_mem_scheme hc).2
  rw [splitScheme?, splitBefore_append hname (by simp)]

/-- The characters that a path may have behind an authority. -/
def IsPathText (text : List Char) : Prop :=
  text.head? = some '/' ∧ ∀ c ∈ text, isBlank c = false ∧ c ≠ '?' ∧ c ≠ '#'

/-- Letters, digits and percent signs stand for themselves in a path and end no segment. -/
theorem Path.isSafe_of_isAlphanum {special : Bool} {c : Char} (h : c = '%' ∨ c.isAlphanum) :
    isSlash special c = false ∧ isSafe c := by
  have hbounds : 0x20 ≤ c.toNat ∧ c.toNat < 0x7F := by
    rcases h with rfl | h
    · decide
    · have hc := toNat_of_isAlphanum h
      exact ⟨by omega, by omega⟩
  have hmarks : ∀ d ∈ [' ', '"', '#', '<', '>', '?', '\x60', '\x7b', '\x7d', '/', '\\'],
      ¬ (d = '%' ∨ d.isAlphanum) := List.forall_iff_forall_mem.mp (by decide)
  have hcontrol : isControl c = false :=
    Bool.or_eq_false_iff.mpr ⟨decide_eq_false (by omega), decide_eq_false (by omega)⟩
  constructor
  · apply Bool.eq_false_iff.mpr
    intro hslash
    rw [isSlash, Bool.or_eq_true, Bool.and_eq_true, beq_iff_eq, beq_iff_eq] at hslash
    rcases hslash with rfl | ⟨-, rfl⟩ <;> exact hmarks _ (by decide) h
  · rw [isSafe, hcontrol, Bool.not_false, Bool.true_and, Bool.not_eq_true', Bool.eq_false_iff]
    intro hmark
    exact hmarks c (List.mem_append_left ['/', '\\'] (List.mem_of_elem_eq_true hmark)) h

/-- Characters that a base path may have neither surround an address nor end a path. -/
theorem not_ends_of_isPathChar {c : Char} (h : BasePath.isPathChar c) :
    isBlank c = false ∧ c ≠ '?' ∧ c ≠ '#' := by
  refine ⟨?_, ?_, ?_⟩
  · have hlow : ∀ n ≤ 0x20, BasePath.isPathChar (Char.ofNat n) = false := by decide
    refine decide_eq_false fun hc => ?_
    have hchar := hlow c.toNat hc
    rw [Char.ofNat_toNat, h] at hchar
    cases hchar
  · rintro rfl
    cases h
  · rintro rfl
    cases h

theorem isPathChar_of_isAlphanum {c : Char} (h : c = '/' ∨ c = '%' ∨ c.isAlphanum) :
    BasePath.isPathChar c := by
  rcases h with rfl | rfl | halnum
  · rfl
  · rfl
  simp only [BasePath.isPathChar, Bool.or_eq_true, Bool.and_eq_true, decide_eq_true_eq, isLower_iff]
  rcases (Bool.or_eq_true _ _).mp halnum with halpha | hdigit
  · rcases (Bool.or_eq_true _ _).mp halpha with hupper | hlower
    · have hbounds := isUpper_iff.mp hupper
      omega
    · have hbounds := isLower_iff.mp hlower
      omega
  · have hbounds := toNat_of_isDigit hdigit
    omega

theorem isPathText_render {ss : List (List Char)} (hne : ss ≠ [])
    (hss : ∀ s ∈ ss, ∀ c ∈ s, c = '%' ∨ c.isAlphanum) : IsPathText (Path.render ss) := by
  constructor
  · cases ss with
    | nil => exact (hne rfl).elim
    | cons s ss => rfl
  · intro c hc
    obtain ⟨s, hs, hc⟩ := List.mem_flatMap.mp hc
    refine not_ends_of_isPathChar (isPathChar_of_isAlphanum ?_)
    rcases List.mem_cons.mp hc with rfl | hc
    · exact .inl rfl
    · exact .inr (hss s hs c hc)

theorem splitBefore_pathText {path : List Char} (hpath : IsPathText path) :
    splitBefore (· == '#') path = (path, []) ∧ splitBefore (· == '?') path = (path, []) :=
  ⟨splitBefore_of_forall fun c hc => beq_false_of_ne (hpath.2 c hc).2.2,
    splitBefore_of_forall fun c hc => beq_false_of_ne (hpath.2 c hc).2.1⟩

section
variable (scheme : Scheme) {authority path : List Char}
  (hauth : ∀ c ∈ authority, Authority.isAllowed c) (hpath : IsPathText path)
include hauth

theorem dropSlashes_authority (hne : authority ≠ []) (path : List Char) :
    dropSlashes scheme ('/' :: '/' :: (authority ++ path)) = authority ++ path := by
  rw [dropSlashes]
  split
  · rw [List.dropWhile_cons_of_pos rfl, List.dropWhile_cons_of_pos rfl]
    apply dropWhile_eq_self
    intro c hc
    rw [List.head?_append_of_ne_nil _ hne] at hc
    have hends := @Authority.endsAuthority_of_isAllowed scheme.isSpecial c
      (hauth c (List.mem_of_head? hc))
    rw [endsAuthority, Bool.or_eq_false_iff, Bool.or_eq_false_iff] at hends
    exact hends.1.1
  · rfl

include hpath

theorem clean_address :
    clean (scheme.name ++ ':' :: '/' :: '/' :: authority ++ path) =
      scheme.name ++ ':' :: '/' :: '/' :: (authority ++ path) := by
  have hmarks : ∀ c ∈ [':', '/', '/'], isBlank c = false :=
    List.forall_iff_forall_mem.mp (by decide)
  have h : ∀ c ∈ scheme.name ++ ([':', '/', '/'] ++ (authority ++ path)), isBlank c = false := by
    intro c hc
    rcases List.mem_append.mp hc with hc | hc
    · exact (not_ends_of_mem_scheme hc).1
    rcases List.mem_append.mp hc with hc | hc
    · exact hmarks c hc
    rcases List.mem_append.mp hc with hc | hc
    · exact Authority.isBlank_of_isAllowed (hauth c hc)
    · exact (hpath.2 c hc).1
  have hclean := clean_of_forall h
  simpa only [List.append_assoc, List.cons_append, List.nil_append] using hclean

theorem splitBefore_authority (special : Bool) :
    splitBefore (endsAuthority special) (authority ++ path) = (authority, path) := by
  refine splitBefore_append (fun c hc => Authority.endsAuthority_of_isAllowed (hauth c hc)) ?_
  intro c hc
  rw [hpath.1] at hc
  cases hc
  rfl

/-- What is put behind an authority is the path and nothing else. -/
theorem parse_append_path (hne : authority ≠ []) :
    parse (scheme.name ++ ':' :: '/' :: '/' :: authority ++ path) =
      (parse (scheme.name ++ ':' :: '/' :: '/' :: authority ++ ['/'])).map fun url =>
        { url with path := parsePath url.scheme.isSpecial path } := by
  have hroot : IsPathText ['/'] := ⟨rfl, List.forall_iff_forall_mem.mp (by decide)⟩
  simp only [parse, clean_address scheme hauth hpath, clean_address scheme hauth hroot,
    splitScheme?_name]
  cases Scheme.read? scheme.name with
  | none => rfl
  | some read =>
    simp only [Option.map_some, dropSlashes_authority read hauth hne,
      splitBefore_authority hauth hpath, splitBefore_authority hauth hroot,
      splitBefore_pathText hpath, splitBefore_pathText hroot]
    generalize splitAuthority read authority = parts
    cases Host.parse read.isSpecial parts.2.1 with
    | error e => rfl
    | ok host =>
      cases parsePort read (parts.2.2.getD []) with
      | error e => rfl
      | ok port => rfl

end

end Url

end StoreClient
