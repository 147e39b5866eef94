import StoreClient.Operation.Call
import StoreClient.Proofs.Client.ContentType
import StoreClient.Proofs.Media.Format

/-!
Whether a payload is what its content type says. A payload is written as XML where the content type
is XML and as JSON everywhere else, so its text is in a format of the content type exactly if that is
of any (`wireRequest_payload_format`). Of a content type that is of none, nothing is asked but that it
fits into a header, and the payload goes out as JSON under it.
-/

namespace StoreClient

namespace Media

/-- A content type is selected that is of a format exactly if nothing is to choose from, there is a
JSON type to choose, or the first type is XML. -/
theorem exists_isOf_selectContentType_iff {contentTypes : List String} :
    (∃ format, isOf format (selectContentType contentTypes)) ↔
      contentTypes = [] ∨ (∃ contentType ∈ contentTypes, isOf .json contentType) ∨
        ∃ first rest, contentTypes = first :: rest ∧ isOf .xml first := by
  cases contentTypes with
  | nil => exact ⟨fun _ => .inl rfl, fun _ => ⟨.json, by decide⟩⟩
  | cons first rest =>
    rw [selectContentType]
    cases hfind : (first :: rest).find? (isOf .json) with
    | some contentType =>
      have hjson := List.find?_some hfind
      have hmem := List.mem_of_find?_eq_some hfind
      exact ⟨fun _ => .inr (.inl ⟨contentType, hmem, hjson⟩), fun _ => ⟨.json, hjson⟩⟩
    | none =>
      have hnone := List.find?_eq_none.mp hfind
      rw [Option.getD_none]
      constructor
      · rintro ⟨format, hformat⟩
        cases format with
        | json => exact (hnone first List.mem_cons_self hformat).elim
        | xml => exact .inr (.inr ⟨first, rest, rfl, hformat⟩)
      · rintro (h | ⟨contentType, hmem, hjson⟩ | ⟨first', rest', h, hxml⟩)
        · cases h
        · exact (hnone contentType hmem hjson).elim
        · cases h
          exact ⟨.xml, hxml⟩

/-- The format that a payload is written in. -/
def writtenFormat (contentType : String) : Format := if isOf .xml contentType then .xml else .json

/-- The format that a payload is written in is that of its content type, if it is of any. -/
theorem isOf_writtenFormat_iff {contentType : String} :
    isOf (writtenFormat contentType) contentType ↔ ∃ format, isOf format contentType := by
  constructor
  · exact fun h => ⟨_, h⟩
  · rintro ⟨format, h⟩
    rw [writtenFormat]
    split
    · next hxml => exact hxml
    · next hxml =>
      cases format with
      | json => exact h
      | xml => exact (hxml h).elim

end Media

namespace Payload

variable {β : Type} [Record β]

/-- The text of a payload in a format. A list has none in XML, where it would have no root. -/
def textIn? (format : Media.Format) : Payload β → Option String
  | .none => Option.none
  | .entity e => some (format.write e)
  | .entities es =>
    match format with
    | .json => some (String.ofList (Json.Value.array (es.map Record.schema.codec.toJson)).render)
    | .xml => Option.none

theorem encode_eq_ok_some_iff {payload : Payload β} {contentType text : String} :
    payload.encode contentType = .ok (some text) ↔
      payload.textIn? (Media.writtenFormat contentType) = some text := by
  rw [Media.writtenFormat]
  cases payload with
  | none => simp [encode, textIn?]
  | entity e =>
    cases hxml : Media.isOf .xml contentType <;> simp [encode, textIn?, hxml, Media.Format.write]
  | entities es => cases hxml : Media.isOf .xml contentType <;> simp [encode, textIn?, hxml]

/-- A record is written in braces as JSON, and begins with a declaration as XML. -/
theorem write_json_ne_write_xml (e : β) :
    Media.Format.json.write e ≠ Media.Format.xml.write e := by
  intro h
  have hjson : (Record.schema.codec.toJson e).render.head? = some '\x7b' := by
    change (Json.Value.render (.object _)).head? = _
    rw [Json.Value.render]
    rfl
  have hxml : (Record.schema.renderXml e).head? = some '<' := by
    rw [Schema.renderXml, Xml.document, List.head?_append_of_ne_nil _ (by decide)]
    rfl
  rw [String.ofList_injective h, hxml] at hjson
  cases hjson

/-- A text tells the format that a payload is written in. -/
theorem eq_of_textIn? {payload : Payload β} {format format' : Media.Format} {text : String}
    (h : payload.textIn? format = some text) (h' : payload.textIn? format' = some text) :
    format = format' := by
  cases payload with
  | none => cases h
  | entity e =>
    have heq : format.write e = format'.write e := Option.some.inj (h.trans h'.symm)
    cases format <;> cases format'
    · rfl
    · exact (write_json_ne_write_xml e heq).elim
    · exact (write_json_ne_write_xml e heq.symm).elim
    · rfl
  | entities es =>
    cases format <;> cases format'
    · rfl
    · cases h'
    · cases h
    · rfl

end Payload

namespace Headers

theorem insert_insert (headers : Headers) (name value value' : String) :
    (headers.insert name value).insert name value' = headers.insert name value' := by
  simp [insert, List.filter_append, List.filter_filter]

end Headers

namespace Client

variable {β : Type} [Record β] {client : Client} {request : Request β}

/-- What is written of a request whose body is its payload. -/
theorem wireRequest_payload_eq_ok_iff (hform : request.form.isEmpty)
    (hpayload : request.payload.isNone = false) {w : WireRequest} :
    (client.wireRequest request).result = .ok w ↔
      w.method = request.method ∧ (client.url request).result = .ok w.url ∧
      ∃ headers text, (client.writtenHeaders request).result = .ok headers ∧
        request.payload.textIn?
          (Media.writtenFormat (Media.selectContentType request.contentTypes)) = some text ∧
        Header.IsValue (Media.selectContentType request.contentTypes) ∧ w.body = some text ∧
        w.headers =
          headers.insert "content-type" (Media.selectContentType request.contentTypes) := by
  have hne : request.payload.encode (Media.selectContentType request.contentTypes) ≠ .ok none := by
    rw [ne_eq, Payload.encode_eq_none_iff, hpayload]
    exact Bool.false_ne_true
  rw [wireRequest_eq_ok_iff]
  simp only [addBody_payload_eq_ok_iff hform, hne, false_and, false_or,
    Payload.encode_eq_ok_some_iff, Header.parseValue_eq_ok_iff]
  constructor
  · rintro ⟨hmethod, hurl, headers, hwritten, text, _, htext, ⟨hvalue, rfl⟩, hbody, hheaders⟩
    exact ⟨hmethod, hurl, headers, text, hwritten, htext, hvalue, hbody, hheaders⟩
  · rintro ⟨hmethod, hurl, headers, text, hwritten, htext, hvalue, hbody, hheaders⟩
    exact ⟨hmethod, hurl, headers, hwritten, text, _, htext, ⟨hvalue, rfl⟩, hbody, hheaders⟩

/-- Of a content type that is of no format nothing is asked but that it fits into a header. The
request is then the one that goes without content types, under another label. -/
theorem wireRequest_payload_of_no_format (hform : request.form.isEmpty)
    (hpayload : request.payload.isNone = false)
    (hnone : ∀ format, Media.isOf format (Media.selectContentType request.contentTypes) = false)
    {w : WireRequest} :
    (client.wireRequest request).result = .ok w ↔
      Header.IsValue (Media.selectContentType request.contentTypes) ∧ ∃ w',
        (client.wireRequest { request with contentTypes := [] }).result = .ok w' ∧
        w = { w' with headers :=
          w'.headers.insert "content-type" (Media.selectContentType request.contentTypes) } := by
  have hformat : Media.writtenFormat (Media.selectContentType request.contentTypes) = .json := by
    rw [Media.writtenFormat, hnone, if_neg Bool.false_ne_true]
  have hplain (w' : WireRequest) :=
    @wireRequest_payload_eq_ok_iff β _ client { request with contentTypes := [] } hform hpayload w'
  have hjson : Media.writtenFormat (Media.selectContentType []) = .json := by decide
  have hvalueJson : Header.IsValue Media.applicationJson := List.all_eq_true.mp rfl
  simp only [wireRequest_payload_eq_ok_iff hform hpayload, hplain, hformat, hjson]
  constructor
  · rintro ⟨hmethod, hurl, headers, text, hwritten, htext, hvalue, hbody, hheaders⟩
    refine ⟨hvalue, { w with headers := headers.insert "content-type" Media.applicationJson },
      ⟨hmethod, hurl, headers, text, hwritten, htext, hvalueJson, hbody, rfl⟩, ?_⟩
    rw [Headers.insert_insert, ← hheaders]
  · rintro ⟨hvalue, w', ⟨hmethod, hurl, headers, text, hwritten, htext, -, hbody, hheaders⟩, rfl⟩
    refine ⟨hmethod, hurl, headers, text, hwritten, htext, hvalue, hbody, ?_⟩
    rw [hheaders, Headers.insert_insert]

/-- A request whose body is its payload. Whatever the content types, one is selected and sent, and
the payload is written as XML if it is XML and as JSON if not. So the text is of a format of the
content type exactly if there is nothing to select from, a JSON type to select, or an XML type at
the front. Any other content type is refused only where it does not fit into a header, and else what
is sent under it is the JSON text that is sent without content types. -/
theorem wireRequest_payload_format (hform : request.form.isEmpty)
    (hpayload : request.payload.isNone = false) :
    (∀ w, (client.wireRequest request).result = .ok w → ∃ text, w.body = some text ∧
      w.headers.values "content-type" = [Media.selectContentType request.contentTypes] ∧
      request.payload.textIn? (if Media.isOf .xml (Media.selectContentType request.contentTypes)
        then .xml else .json) = some text ∧
      ((∀ format, request.payload.textIn? format = some text →
          Media.isOf format (Media.selectContentType request.contentTypes)) ↔
        request.contentTypes = [] ∨
        (∃ contentType ∈ request.contentTypes, Media.isOf .json contentType) ∨
        ∃ first rest, request.contentTypes = first :: rest ∧ Media.isOf .xml first)) ∧
    ((∀ format, Media.isOf format (Media.selectContentType request.contentTypes) = false) →
      ∀ w, (client.wireRequest request).result = .ok w ↔
        Header.IsValue (Media.selectContentType request.contentTypes) ∧ ∃ w',
          (client.wireRequest { request with contentTypes := [] }).result = .ok w' ∧
          w = { w' with headers :=
            w'.headers.insert "content-type" (Media.selectContentType request.contentTypes) }) := by
  refine ⟨fun w hw => ?_, fun hnone w => wireRequest_payload_of_no_format hform hpayload hnone⟩
  obtain ⟨-, -, headers, text, -, htext, -, hbody, hheaders⟩ :=
    (wireRequest_payload_eq_ok_iff hform hpayload).mp hw
  refine ⟨text, hbody, ?_, htext, ?_⟩
  · rw [hheaders, Headers.values_insert_self]
  · rw [← Media.exists_isOf_selectContentType_iff, ← Media.isOf_writtenFormat_iff]
    constructor
    · exact fun h => h _ htext
    · intro h format hformat
      rwa [Payload.eq_of_textIn? hformat htext]

/-- A request to create a user that is to be sent as the given content types. -/
def creating (contentTypes : List String) : Request User where
  operation := "createUser"
  method := .post
  path := .ofString "/user"
  payload := .entity (.named "user1")
  contentTypes

example : (Call.createUser (some (.named "user1"))).request.map
    (·.withContentType "text/plain") = .ok (creating ["text/plain"]) := rfl

/-- What is sent for it as a content type with a body. -/
def created (contentType body : String) : WireRequest where
  method := .post
  url := .preset ["v2".toList, "user".toList]
  headers := [("content-type", contentType)]
  body := some body

/-- The first type is XML, and no other is JSON. -/
theorem wireRequest_payload_format_atom :
    (preset.wireRequest (creating ["application/atom+xml; q=1", "text/plain"])).result =
        .ok (created "application/atom+xml; q=1" (Media.Format.xml.write (User.named "user1"))) ∧
      ∀ format, (creating []).payload.textIn? format =
          some (Media.Format.xml.write (User.named "user1")) →
        Media.isOf format "application/atom+xml; q=1" := by
  have hw : (preset.wireRequest (creating ["application/atom+xml; q=1", "text/plain"])).result =
      .ok (created "application/atom+xml; q=1" (Media.Format.xml.write (User.named "user1"))) := by
    rfl
  obtain ⟨text, hbody, -, -, hlabel⟩ := (wireRequest_payload_format rfl rfl).1 _ hw
  cases hbody
  exact ⟨hw, hlabel.mpr (.inr (.inr ⟨_, _, rfl, by decide⟩))⟩

/-- A user goes out as JSON under the name of plain text. -/
theorem wireRequest_payload_plain :
    (preset.wireRequest (creating ["text/plain"])).result =
        .ok (created "text/plain" "\x7b\"username\":\"user1\"\x7d") ∧
      (creating ["text/plain"]).payload.textIn? .json = some "\x7b\"username\":\"user1\"\x7d" ∧
      (created "text/plain" "\x7b\"username\":\"user1\"\x7d").headers.values "content-type" =
        ["text/plain"] ∧
      Media.isOf .json "text/plain" = false ∧ Media.isOf .xml "text/plain" = false :=
  ⟨by rfl, by rfl, by decide, by decide, by decide⟩

end Client

end StoreClient
