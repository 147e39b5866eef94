import StoreClient.Proofs.Request.Filling
import StoreClient.Proofs.Request.Replacing

/-!
What gives a path its structure. Neither the braces and names of placeholders nor the values that
take their places hold a delimiter, so that filling in a value leaves the delimiters of a path as
they are (`filter_replaceAll`), and with it any number of values (`filter_replaceEach`). Whether a
path is resolved or lacks arguments, its delimiters are those of the template, in their order
(`filter_isDelimiter_resolve`).
-/

namespace StoreClient.PathTemplate

/-- The characters that Unicode counts as white space. -/
def blanks : List Char :=
  ['\t', '\n', '\x0b', '\x0c', '\r', ' ', '\x85', '\xa0', '\u1680', '\u2000', '\u2001', '\u2002',
    '\u2003', '\u2004', '\u2005', '\u2006', '\u2007', '\u2008', '\u2009', '\u200a', '\u2028',
    '\u2029', '\u202f', '\u205f', '\u3000']

/-- The marks between the parts of an address. -/
def marks : List Char := ['/', '?', '#', '\\', ';', ':', '@', '&', '=']

def isDelimiter (c : Char) : Bool := marks.elem c || blanks.elem c

theorem isDelimiter_iff {c : Char} : isDelimiter c ↔ c ∈ marks ++ blanks := by
  simp [isDelimiter]

/-- What a template loses and what it gets in return holds no delimiter. -/
theorem not_isDelimiter {c : Char}
    (h : CharSet.isWord c ∨ c.isAlphanum ∨ c = '%' ∨ c = '\x7b' ∨ c = '\x7d') :
    isDelimiter c = false := by
  have hnone : ∀ d ∈ marks ++ blanks, CharSet.isWord d = false ∧ d.isAlphanum = false ∧
      d ≠ '%' ∧ d ≠ '\x7b' ∧ d ≠ '\x7d' :=
    List.forall_iff_forall_mem.mp (by decide +kernel)
  rw [Bool.eq_false_iff]
  intro hc
  obtain ⟨hword, halnum, hpercent, hopen, hclose⟩ := hnone c (isDelimiter_iff.mp hc)
  simp [hword, halnum, hpercent, hopen, hclose] at h

theorem not_isDelimiter_of_mem_placeholder {name : String} (hname : (Piece.slot name).Valid)
    {c : Char} (hc : c ∈ placeholder name) : isDelimiter c = false := by
  rw [placeholder, List.cons_append, List.mem_cons, List.mem_append, List.mem_singleton] at hc
  rcases hc with hc | hc | hc
  · exact not_isDelimiter (.inr (.inr (.inr (.inl hc))))
  · exact not_isDelimiter (.inl (hname.2 c hc))
  · exact not_isDelimiter (.inr (.inr (.inr (.inr hc))))

theorem not_isDelimiter_of_mem_encodeValue {text : String} {c : Char} (hc : c ∈ encodeValue text) :
    isDelimiter c = false := by
  rcases of_mem_encodeValue hc with hc | hc
  · exact not_isDelimiter (.inr (.inr (.inl hc)))
  · exact not_isDelimiter (.inr (.inl hc))

/-! ### Filling in -/

/-- Characters that are neither in a placeholder nor in its value stay when it is filled in. -/
theorem filter_replaceAll {p : Char → Bool} {name : String} {value : List Char}
    (hname : ∀ c ∈ placeholder name, p c = false) (hvalue : ∀ c ∈ value, p c = false)
    (text : List Char) :
    (replaceAll (placeholder name) value text).filter p = text.filter p := by
  have hnone {cs : List Char} (hcs : ∀ c ∈ cs, p c = false) : cs.filter p = [] :=
    List.filter_eq_nil_iff.mpr fun c hc => by simp [hcs c hc]
  induction text using placeholder_induction name with
  | nil => rfl
  | slot rest ih =>
    rw [replaceAll_placeholder, List.filter_append, List.filter_append, hnone hname, hnone hvalue,
      ih]
  | char c rest hpre ih => rw [replaceAll_cons hpre, List.filter_cons, List.filter_cons, ih]

theorem filter_replaceEach {p : Char → Bool} {values : List (String × List Char)}
    (hvalues : ∀ x ∈ values, (∀ c ∈ placeholder x.1, p c = false) ∧ ∀ c ∈ x.2, p c = false)
    (text : List Char) : (replaceEach values text).filter p = text.filter p := by
  induction values generalizing text with
  | nil => rfl
  | cons x values ih =>
    obtain ⟨⟨hname, hvalue⟩, hvalues⟩ := List.forall_mem_cons.mp hvalues
    exact (ih hvalues _).trans (filter_replaceAll hname hvalue text)

theorem filter_isDelimiter_filled (path : PathTemplate) :
    path.filled.toList.filter isDelimiter = path.template.toList.filter isDelimiter := by
  rw [filled, String.toList_ofList]
  refine filter_replaceEach (fun x hx => ?_) _
  obtain ⟨arg, -, hname, text, -, rfl⟩ := mem_fillings.mp hx
  exact ⟨fun c hc => not_isDelimiter_of_mem_placeholder (valid_of_mem_placeholders hname) hc,
    fun c hc => not_isDelimiter_of_mem_encodeValue hc⟩

/-! ### Resolving -/

theorem eq_filled_of_resolve {path : PathTemplate} {text : String}
    (h : path.resolve.result = .ok text ∨
      ∃ missing, path.resolve.result = .error (.unresolvedPath text missing)) :
    text = path.filled := by
  by_cases hwritable : path.IsWritable
  · rw [resolve_of_isWritable hwritable] at h
    split at h
    · rcases h with h | ⟨missing, h⟩
      · exact (Except.ok.inj h).symm
      · cases h
    · rcases h with h | ⟨missing, h⟩
      · cases h
      · cases h
        rfl
  · obtain ⟨cause, hcause⟩ := Classical.not_forall_not.mp (mt isWritable_iff.mpr hwritable)
    rw [resolve_eq_error_iff.mpr (.inl ⟨cause, hcause, rfl⟩)] at h
    rcases h with h | ⟨missing, h⟩ <;> cases h

/-- No argument adds a delimiter to a path, takes one away or moves one, whether the path is
resolved or lacks other arguments. -/
theorem filter_isDelimiter_resolve {path : PathTemplate} {text : String}
    (h : path.resolve.result = .ok text ∨
      ∃ missing, path.resolve.result = .error (.unresolvedPath text missing)) :
    text.toList.filter isDelimiter = path.template.toList.filter isDelimiter := by
  rw [eq_filled_of_resolve h]
  exact filter_isDelimiter_filled path

/-- Braces that are left open, and values that are made of delimiters. -/
def unclosed : PathTemplate where
  template := "/a;\x7bx/\x7bids\x7d?\x7bx\x7by\x7dz\x7d\\ \x7bq"
  args := .ofList [("y", .ofText "&=\u2028"), ("z", .ofValue (.object [])),
    ("ids", (Param.ofList [.text "/", .text ":?"]).withStyle .pipeDelimited)]

theorem filter_isDelimiter_resolve_unclosed :
    unclosed.resolve.result = .ok "/a;\x7bx/%2F%7C%3A%3F?\x7bx%26%3D%E2%80%A8z\x7d\\ \x7bq" ∧
    "/a;\x7bx/%2F%7C%3A%3F?\x7bx%26%3D%E2%80%A8z\x7d\\ \x7bq".toList.filter isDelimiter =
      ['/', ';', '/', '?', '\\', ' '] :=
  ⟨rfl, (filter_isDelimiter_resolve (.inl (show unclosed.resolve.result = _ from rfl))).trans
    (by decide)⟩

end StoreClient.PathTemplate
