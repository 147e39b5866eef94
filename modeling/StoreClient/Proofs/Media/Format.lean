import StoreClient.Proofs.Media.Syntax
import StoreClient.Request.Payload
import StoreClient.Response.Basic

/-!
Which format bodies are written and read in. A content type of one format is written and read in
that format; one that names both is written as XML and read as JSON (`writes_iff_reads`).
-/

namespace StoreClient.Media

namespace Format

/-- The text of an entity in a format. -/
def write {β : Type} [Record β] (format : Format) (e : β) : String :=
  match format with
  | .json => String.ofList (Record.schema.codec.toJson e).render
  | .xml => String.ofList (Record.schema.renderXml e)

/-- What a body in a format is decoded to. -/
def read {α : Type} [Decodable α] (format : Format) (body : Bytes) : Except Error α :=
  match format with
  | .json => decodeJson body
  | .xml => decodeXml body

end Format

/-- Every entity that is sent as the content type is written in the format. -/
def Writes (contentType : String) (format : Format) : Prop :=
  ∀ (β : Type) [Record β] (e : β),
    (Payload.entity e).encode contentType = .ok (some (format.write e))

/-- Every body of the content type is read in the format, unless nothing is expected or sent. -/
def Reads (contentType : String) (format : Format) : Prop :=
  ∀ (α : Type) [Decodable α] (returnType : ReturnType) (body : Bytes),
    returnType ≠ .nothing → body ≠ [] →
      decodeBody (α := α) returnType (some contentType) body = format.read body

section
variable {contentType : String}

theorem writes_xml (h : isOf .xml contentType) : Writes contentType .xml := by
  intro β _ e
  rw [Payload.encode, h]
  rfl

theorem writes_json (h : isOf .xml contentType = false) : Writes contentType .json := by
  intro β _ e
  rw [Payload.encode, h]
  rfl

theorem reads_json (h : isOf .json contentType) : Reads contentType .json := by
  intro α _ returnType body hreturn hbody
  rw [decodeBody, if_neg, Option.any_some, if_pos h]
  · rfl
  · rintro (h | h)
    · exact hreturn h
    · exact hbody (List.isEmpty_iff.mp h)

theorem reads_xml (hjson : isOf .json contentType = false) (hxml : isOf .xml contentType) :
    Reads contentType .xml := by
  intro α _ returnType body hreturn hbody
  rw [decodeBody, if_neg, Option.any_some, hjson, if_neg Bool.false_ne_true, Option.any_some,
    if_pos hxml]
  · rfl
  · rintro (h | h)
    · exact hreturn h
    · exact hbody (List.isEmpty_iff.mp h)

/-- No entity has the same text in both formats. -/
theorem Writes.unique {format format' : Format} (h : Writes contentType format)
    (h' : Writes contentType format') : format = format' := by
  have htext := Option.some.inj (Except.ok.inj ((h User {}).symm.trans (h' User {})))
  cases format <;> cases format'
  · rfl
  · exact absurd htext (by decide)
  · exact absurd htext (by decide)
  · rfl

theorem decodeXml_ne_json {α : Type} [Decodable α] (body : Bytes) (e : Json.Error)
    (text : String) : decodeXml (α := α) body ≠ .error (.json e text) := by
  rw [decodeXml]
  cases Decodable.decodeXml (α := α) body <;> exact fun h => nomatch h

/-- No reader refuses all bodies alike in both formats. -/
theorem Reads.unique {format format' : Format} (h : Reads contentType format)
    (h' : Reads contentType format') : format = format' := by
  have hread : format.read (α := User) [0] = format'.read [0] :=
    (h User (.model "User") [0] (by decide) (by decide)).symm.trans (h' User _ [0] (by decide)
      (by decide))
  cases format <;> cases format'
  · rfl
  · exact (decodeXml_ne_json _ _ _ hread.symm).elim
  · exact (decodeXml_ne_json _ _ _ hread).elim
  · rfl

/-- A content type of a format has one format for writing and for reading, unless it names both:
then entities are written as XML and bodies are read as JSON. -/
theorem writes_iff_reads (h : isOf .json contentType ∨ isOf .xml contentType) :
    ((∀ format, Writes contentType format ↔ Reads contentType format) ↔ ¬ NamesBoth contentType) ∧
    (¬ NamesBoth contentType →
      ∃ format, Writes contentType format ∧ Reads contentType format) ∧
    (NamesBoth contentType → Writes contentType .xml ∧ Reads contentType .json) := by
  have hboth : NamesBoth contentType → Writes contentType .xml ∧ Reads contentType .json := by
    intro hnames
    obtain ⟨hjson, hxml⟩ := namesBoth_iff.mp hnames
    exact ⟨writes_xml hxml, reads_json hjson⟩
  have hone : ¬ NamesBoth contentType →
      ∃ format, Writes contentType format ∧ Reads contentType format := by
    intro hnames
    rw [namesBoth_iff] at hnames
    cases hjson : isOf .json contentType with
    | true =>
      have hxml : isOf .xml contentType = false :=
        Bool.eq_false_iff.mpr fun hxml => hnames ⟨hjson, hxml⟩
      exact ⟨.json, writes_json hxml, reads_json hjson⟩
    | false =>
      have hxml : isOf .xml contentType := h.resolve_left (by simp [hjson])
      exact ⟨.xml, writes_xml hxml, reads_xml hjson hxml⟩
  refine ⟨⟨?_, ?_⟩, hone, hboth⟩
  · intro hsame hnames
    obtain ⟨hwrites, hreads⟩ := hboth hnames
    cases hreads.unique ((hsame .xml).mp hwrites)
  · intro hnames format
    obtain ⟨format', hwrites, hreads⟩ := hone hnames
    constructor
    · intro h
      cases h.unique hwrites
      exact hreads
    · intro h
      cases h.unique hreads
      exact hwrites

end

/-- The subtype has a part that names a format, but is not that name. -/
theorem writes_iff_reads_vendor :
    isOf .xml "text/vnd.JSON+xml; q=\"a;b\"" ∧
      ∀ format, Writes "text/vnd.JSON+xml; q=\"a;b\"" format ↔
        Reads "text/vnd.JSON+xml; q=\"a;b\"" format := by
  have hxml : isOf .xml "text/vnd.JSON+xml; q=\"a;b\"" := by decide
  have hnames : ¬ NamesBoth "text/vnd.JSON+xml; q=\"a;b\"" := by
    rw [namesBoth_iff]
    decide
  exact ⟨hxml, (writes_iff_reads (.inr hxml)).1.mpr hnames⟩

/-- A user who is sent as this type is written as XML, and the body is refused as JSON. -/
theorem written_not_read :
    ¬ (∀ format, Writes "application/json+xml" format ↔ Reads "application/json+xml" format) ∧
      ∃ body, (Payload.entity (User.named "user1")).encode "application/json+xml" =
          .ok (some body) ∧
        decodeBody (α := User) (.model "User") (some "application/json+xml") (Utf8.ofString body) =
          .error (.json ⟨.valueExpected, [], 1, 1⟩ body) := by
  refine ⟨?_, "<?xml version=\"1.0\" encoding=\"UTF-8\"?><User><username>user1</username></User>",
    rfl, rfl⟩
  intro h
  have hxml := (h .xml).mp (writes_xml (by decide))
  cases hxml.unique (reads_json (by decide))

end StoreClient.Media
