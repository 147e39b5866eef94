import StoreClient.Proofs.Request.Occurrence

/-!
Reading a resolved path back. Where each segment of a template is literal text or a single
placeholder, a value fills a segment and nothing else: it is written without a slash, so that the
resolved path has the segments of the template, and each of them, with its escapes resolved, spells
the literal text or the value (`readSegments_resolve`). Hence different values are never written as
one path.
-/

namespace StoreClient.PathTemplate

/-- A part of a template between slashes. -/
inductive Segment where
  | literal (text : String)
  | slot (name : String)

namespace Segment

/-- Literal text holds no slash, and nothing that escapes or placeholders are written with. -/
def Valid : Segment → Prop
  | .literal text => ∀ c ∈ text.toList, c ≠ '/' ∧ c ≠ '%' ∧ c ≠ '\x7b' ∧ c ≠ '\x7d'
  | .slot name => IsName name

/-- A segment as it stands in a template. -/
def render : Segment → List Char
  | .literal text => text.toList
  | .slot name => placeholder name

/-- What a segment says, given the values of the placeholders. -/
def read (value : String → String) : Segment → String
  | .literal text => text
  | .slot name => value name

/-- A segment as it stands in a resolved path. -/
def written (value : String → String) : Segment → List Char
  | .literal text => text.toList
  | .slot name => encodeValue (value name)

def pieces : Segment → List Piece
  | .literal text => text.toList.map .char
  | .slot name => [.slot name]

end Segment

/-- The segments of a path, each with its escapes resolved. -/
def readSegments (path : String) : List (Except Utf8.Error (List Char)) :=
  (path.toList.splitOn '/').map fun segment => Utf8.decode (Percent.decode segment)

/-- Whether the placeholders of some segments are bound to parameters with the given texts. -/
def Binds (args : Bindings) (segs : List Segment) (value : String → String) : Prop :=
  ∀ name, .slot name ∈ segs →
    ∃ param, args.get? name = some param ∧ param.text = .ok (value name)

/-! ### Single segments -/

namespace Segment

variable {seg : Segment} {value : String → String}

theorem render_pieces (seg : Segment) : PathTemplate.render seg.pieces = seg.render := by
  cases seg with
  | literal text => exact render_map_char text.toList
  | slot name => exact List.flatMap_singleton ..

theorem fill_pieces (value : String → String) (seg : Segment) :
    seg.pieces.flatMap (Piece.fill value) = seg.written value := by
  cases seg with
  | literal text =>
    rw [pieces, List.flatMap_map]
    exact List.flatMap_singleton' text.toList
  | slot name => exact List.flatMap_singleton ..

theorem Valid.pieces (h : seg.Valid) : ∀ p ∈ seg.pieces, p.Valid := by
  intro p hp
  cases seg with
  | literal text =>
    obtain ⟨c, hc, rfl⟩ := List.mem_map.mp hp
    exact (h c hc).2.2
  | slot name =>
    cases List.mem_singleton.mp hp
    exact h

theorem Valid.slash_not_mem (h : seg.Valid) : '/' ∉ seg.written value := by
  intro hslash
  cases seg with
  | literal text => exact (h _ hslash).1 rfl
  | slot name => rcases of_mem_encodeValue hslash with h | h <;> cases h

/-- A segment is read back. -/
theorem Valid.decode_written (h : seg.Valid) :
    Utf8.decode (Percent.decode (seg.written value)) = .ok (seg.read value).toList := by
  rw [Utf8.decode_eq_ok_iff]
  cases seg with
  | literal text => exact Percent.decode_of_not_mem fun hpercent => (h _ hpercent).2.1 rfl
  | slot name => exact Percent.decode_encode rfl _

end Segment

/-! ### Paths -/

theorem flatMap_intercalate {α β : Type} (f : α → List β) (mark : List α) (xs : List (List α)) :
    (mark.intercalate xs).flatMap f = (mark.flatMap f).intercalate (xs.map (·.flatMap f)) := by
  induction xs with
  | nil => rfl
  | cons x xs ih =>
    cases xs with
    | nil => simp
    | cons y ys =>
      rw [List.intercalate_cons_cons, List.flatMap_append, List.flatMap_append, ih, List.map_cons,
        List.map_cons, List.map_cons, List.intercalate_cons_cons]

section
variable {segs : List Segment} {value : String → String}

theorem mem_intercalate_pieces {p : Piece}
    (h : p ∈ [Piece.char '/'].intercalate (segs.map Segment.pieces)) :
    p = .char '/' ∨ ∃ seg ∈ segs, p ∈ seg.pieces := by
  induction segs with
  | nil => cases h
  | cons seg segs ih =>
    cases segs with
    | nil =>
      rw [List.map_singleton, List.intercalate_singleton] at h
      exact .inr ⟨seg, List.mem_singleton_self _, h⟩
    | cons seg' segs =>
      rw [List.map_cons, List.map_cons, List.intercalate_cons_cons, List.append_assoc,
        List.mem_append, List.mem_append, List.mem_singleton] at h
      rcases h with h | h | h
      · exact .inr ⟨seg, List.mem_cons_self, h⟩
      · exact .inl h
      · refine (ih h).imp_right fun ⟨s, hs, hp⟩ => ⟨s, List.mem_cons_of_mem _ hs, hp⟩

theorem resolve_segments {template : String} (hsegs : ∀ seg ∈ segs, seg.Valid)
    (htemplate : template.toList = ['/'].intercalate (segs.map Segment.render)) {args : Bindings}
    (hargs : Binds args segs value) :
    (PathTemplate.mk template args).resolve.result =
      .ok (String.ofList (['/'].intercalate (segs.map (Segment.written value)))) := by
  have hjoin (f : Piece → List Char) (hf : f (.char '/') = ['/']) :
      ([Piece.char '/'].intercalate (segs.map Segment.pieces)).flatMap f =
        ['/'].intercalate (segs.map fun seg => seg.pieces.flatMap f) := by
    rw [flatMap_intercalate, List.flatMap_singleton, hf, List.map_map]
    rfl
  have hrender := hjoin Piece.render rfl
  have hfill := hjoin (Piece.fill value) rfl
  simp only [Segment.fill_pieces] at hfill
  rw [← hfill]
  refine @resolve_eq_ok ⟨template, args⟩ _ value (fun p hp => ?_) ?_ fun name hname => ?_
  · obtain rfl | ⟨seg, hseg, hp⟩ := mem_intercalate_pieces hp
    · exact ⟨by decide, by decide⟩
    · exact (hsegs seg hseg).pieces p hp
  · rw [htemplate, render, hrender]
    exact congrArg _ (List.map_congr_left fun seg _ => (Segment.render_pieces seg).symm)
  · obtain hp | ⟨seg, hseg, hp⟩ := mem_intercalate_pieces (mem_names.mp hname)
    · cases hp
    · refine hargs name ?_
      cases seg with
      | literal text => simp [Segment.pieces] at hp
      | slot n =>
        cases List.mem_singleton.mp hp
        exact hseg

theorem readSegments_written (hne : segs ≠ []) (hsegs : ∀ seg ∈ segs, seg.Valid) :
    readSegments (String.ofList (['/'].intercalate (segs.map (Segment.written value)))) =
      segs.map fun seg => .ok (seg.read value).toList := by
  have hslash : ∀ written ∈ segs.map (Segment.written value), '/' ∉ written := by
    intro written hwritten
    obtain ⟨seg, hseg, rfl⟩ := List.mem_map.mp hwritten
    exact (hsegs seg hseg).slash_not_mem
  rw [readSegments, String.toList_ofList,
    List.splitOn_intercalate '/' hslash (by simpa using hne), List.map_map]
  exact List.map_congr_left fun seg hseg => (hsegs seg hseg).decode_written

end

/-- Where each segment of a template is literal text or a placeholder, and all placeholders are
bound to values that have a text, the resolved path is read back segment by segment as the template
with these texts in it. No arguments with another text resolve to the same path. -/
theorem readSegments_resolve {template : String} {segs : List Segment} (hne : segs ≠ [])
    (hsegs : ∀ seg ∈ segs, seg.Valid)
    (htemplate : template.toList = ['/'].intercalate (segs.map Segment.render)) {args : Bindings}
    {value : String → String} (hargs : Binds args segs value) :
    ∃ resolved, (PathTemplate.mk template args).resolve.result = .ok resolved ∧
      readSegments resolved = segs.map (fun seg => .ok (seg.read value).toList) ∧
      ∀ args' value', Binds args' segs value' →
        (∃ name, .slot name ∈ segs ∧ value' name ≠ value name) →
        (PathTemplate.mk template args').resolve.result ≠ .ok resolved := by
  refine ⟨_, resolve_segments hsegs htemplate hargs, readSegments_written hne hsegs, ?_⟩
  rintro args' value' hargs' ⟨name, hname, hvalue⟩ hsame
  rw [resolve_segments hsegs htemplate hargs'] at hsame
  have hread := congrArg readSegments (Except.ok.inj hsame)
  rw [readSegments_written hne hsegs, readSegments_written hne hsegs] at hread
  have hslot := List.map_inj_left.mp hread (.slot name) hname
  exact hvalue (String.toList_injective (Except.ok.inj hslot))

/-- A value that looks like an escape, a slash and a placeholder, and another value beside it. -/
def escaped (param : Param) : PathTemplate where
  template := "/a b/\x7bx\x7d/\x7by\x7d/\x7bx\x7d"
  args := .ofList [("y", param), ("x", .ofText "%41/\x7by\x7dé")]

theorem readSegments_resolve_escaped :
    (escaped (.ofValue .null)).resolve.result =
      .ok "/a b/%2541%2F%7By%7D%C3%A9//%2541%2F%7By%7D%C3%A9" ∧
    readSegments "/a b/%2541%2F%7By%7D%C3%A9//%2541%2F%7By%7D%C3%A9" =
      ["", "a b", "%41/\x7by\x7dé", "", "%41/\x7by\x7dé"].map (fun s => .ok s.toList) ∧
    (escaped (.ofText " ")).resolve.result ≠
      .ok "/a b/%2541%2F%7By%7D%C3%A9//%2541%2F%7By%7D%C3%A9" := by
  let segs : List Segment := [.literal "", .literal "a b", .slot "x", .slot "y", .slot "x"]
  let value (y name : String) := if name = "x" then "%41/\x7by\x7dé" else y
  have hsegs : ∀ seg ∈ segs, seg.Valid := by
    have hab : (Segment.literal "a b").Valid := List.forall_iff_forall_mem.mp (by decide)
    have hx : (Piece.slot "x").Valid := by decide
    have hy : (Piece.slot "y").Valid := by decide
    simp only [segs, List.forall_mem_cons]
    exact ⟨List.forall_mem_nil _, hab, hx, hy, hx, List.forall_mem_nil _⟩
  have hbinds (y : Param) {text : String} (hy : y.text = .ok text) :
      Binds (escaped y).args segs (value text) := by
    intro name hname
    have hname : "x" = name ∨ "y" = name ∨ "x" = name := by simpa [segs, eq_comm] using hname
    rcases hname with rfl | rfl | rfl
    · exact ⟨_, rfl, rfl⟩
    · exact ⟨_, rfl, hy⟩
    · exact ⟨_, rfl, rfl⟩
  have htemplate : "/a b/\x7bx\x7d/\x7by\x7d/\x7bx\x7d".toList =
      ['/'].intercalate (segs.map Segment.render) := by decide
  have hresolve : (escaped (.ofValue .null)).resolve.result =
      .ok "/a b/%2541%2F%7By%7D%C3%A9//%2541%2F%7By%7D%C3%A9" := rfl
  obtain ⟨resolved, hresolved, hread, hother⟩ :=
    readSegments_resolve (List.cons_ne_nil _ _) hsegs htemplate (hbinds (.ofValue .null) rfl)
  cases hresolved.symm.trans hresolve
  exact ⟨hresolve, hread, hother _ _ (hbinds (.ofText " ") rfl) ⟨"y", by simp, by decide⟩⟩

end StoreClient.PathTemplate
