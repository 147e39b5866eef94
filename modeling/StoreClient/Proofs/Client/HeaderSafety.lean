import StoreClient.Proofs.Client.ContentType
import StoreClient.Proofs.Text.Ascii
import StoreClient.Proofs.Text.Utf8

/-!
Headers cannot be smuggled in. Whatever a client and a request bind, each header of what is sent has
a name made of token characters without capital letters and a value without control characters, and
no name is sent twice. A text that does not fit is refused and not made to fit: each value is, byte
for byte, the text of what it was rendered from (`Source`). Headers are written one after another,
and every step keeps what is known of those that were written before (`Rendered`).
-/

namespace StoreClient

namespace Header

/-- A name as it is sent, made of token characters without capital letters. -/
def IsSentName (name : String) : Prop :=
  name ≠ "" ∧ ∀ c ∈ name.toList, isTokenChar c ∧ c.isUpper = false

instance (name : String) : Decidable (IsSentName name) :=
  haveI := List.decidableBAll (fun c => isTokenChar c ∧ c.isUpper = false) name.toList
  inferInstanceAs (Decidable (_ ∧ _))

/-- A value as it is sent: of the control characters of ASCII it has the tab alone. -/
def IsSentValue (value : String) : Prop :=
  ∀ b ∈ Utf8.ofString value, b = 9 ∨ 0x20 ≤ b ∧ b ≠ 0x7F

instance (value : String) : Decidable (IsSentValue value) := List.decidableBAll _ _

theorem isUpper_toLower (c : Char) : c.toLower.isUpper = false := by
  rw [Bool.eq_false_iff]
  intro h
  have hupper := isUpper_iff.mp h
  rw [toNat_toLower] at hupper
  split at hupper <;> omega

theorem isTokenChar_toLower {c : Char} (h : isTokenChar c) : isTokenChar c.toLower := by
  have hn := toNat_toLower c
  split at hn
  · have hlower : c.toLower.isLower := isLower_iff.mpr (by omega)
    have halpha : c.toLower.isAlpha := (Bool.or_eq_true _ _).mpr (.inr hlower)
    rw [isTokenChar, Char.isAlphanum, halpha]
    rfl
  · rwa [Char.toNat_inj.mp hn]

theorem isSentName_lower {text : String} (h : IsName text) : IsSentName (lower text) := by
  refine ⟨fun hempty => h.1 ?_, fun c hc => ?_⟩
  · have htext : text.toList.map Char.toLower = [] := by
      rw [← String.toList_ofList (l := text.toList.map Char.toLower), ← lower, hempty]
      rfl
    exact String.toList_eq_nil_iff.mp (List.map_eq_nil_iff.mp htext)
  · rw [lower, String.toList_ofList] at hc
    obtain ⟨d, hd, rfl⟩ := List.mem_map.mp hc
    exact ⟨isTokenChar_toLower (h.2.2 d hd), isUpper_toLower d⟩

theorem isSentValue_of_isValue {value : String} (h : IsValue value) : IsSentValue value := by
  intro b hb
  obtain ⟨c, hc, hb⟩ := List.mem_flatMap.mp hb
  have hc : c = '\t' ∨ 0x20 ≤ c.toNat ∧ c.toNat ≠ 0x7F := by simpa [isValueChar] using h c hc
  rw [← UInt8.toNat_inj, UInt8.le_iff_toNat_le, ne_eq, ← UInt8.toNat_inj]
  change b.toNat = 9 ∨ 0x20 ≤ b.toNat ∧ b.toNat ≠ 0x7F
  obtain hb | hb := Utf8.of_mem_encodeChar hb
  · obtain rfl | hc := hc
    · exact .inl hb
    · rw [hb]
      exact .inr hc
  · omega

theorem isSentValue_of_parseValue {text value : String} (h : parseValue text = .ok value) :
    IsSentValue value :=
  isSentValue_of_isValue (isValue_of_parseValue h)

end Header

namespace Credential

/-- The header that credentials are written as, whether or not it is legal. -/
def rendered : Credential → String × String
  | .bearer token => (authorization, "Bearer " ++ token.value)
  | .basic username password =>
    (authorization, "Basic " ++ encodeBasic username password.value)
  | .apiKey headerName key => (Header.lower headerName, key.value)

theorem isSentName_authorization : Header.IsSentName authorization := by decide

theorem header_eq_ok {credential : Credential} {field : String × String}
    (h : credential.header = .ok field) :
    field = credential.rendered ∧ Header.IsSentName field.1 ∧ Header.IsSentValue field.2 := by
  have hvalue {name text : String} {e : Error}
      (h : (do return (name, ← (Header.parseValue text).mapError fun _ => e)) =
        Except.ok (ε := Error) field) :
      field = (name, text) ∧ Header.IsSentValue field.2 := by
    obtain ⟨value, hvalue, h⟩ := bind_eq_ok.mp h
    cases h
    have hvalue := mapError_eq_ok.mp hvalue
    exact ⟨congrArg _ (Header.parseValue_eq_ok hvalue), Header.isSentValue_of_parseValue hvalue⟩
  cases credential with
  | bearer token =>
    obtain ⟨rfl, h⟩ := hvalue h
    exact ⟨rfl, isSentName_authorization, h⟩
  | basic username password =>
    rw [header] at h
    split at h
    · cases h
    · obtain ⟨rfl, h⟩ := hvalue h
      exact ⟨rfl, isSentName_authorization, h⟩
  | apiKey headerName key =>
    obtain ⟨name, hname, h⟩ := bind_eq_ok.mp h
    have hname := mapError_eq_ok.mp hname
    obtain ⟨rfl, h⟩ := hvalue h
    cases Header.parseName_eq_ok hname
    exact ⟨rfl, Header.isSentName_lower (Header.isName_of_parseName hname), h⟩

end Credential

namespace Client

variable {β : Type} {client : Client} {request : Request β}

/-- What a header is rendered from. The value is the text of its source as it stands. -/
inductive Source (client : Client) (request : Request β) : String × String → Prop where
  | accept {value : String} (h : Media.selectAccept request.accepts = some value) :
      Source client request ("accept", value)
  | credential {scheme : String} {credential : Credential} (hscheme : scheme ∈ request.authNames)
      (h : client.credentials.get? scheme = some credential) :
      Source client request credential.rendered
  | call {name value : String} {param : Param} (h : request.headers.get? name = some param)
      (htext : param.text = .ok value) : Source client request (Header.lower name, value)
  | default {name value : String} {param : Param} (hcall : request.headers.get? name = none)
      (h : client.headers.get? name = some param) (htext : param.text = .ok value) :
      Source client request (Header.lower name, value)
  | payload (hform : request.form.isEmpty) (h : request.payload.isNone = false) :
      Source client request ("content-type", Media.selectContentType request.contentTypes)
  | form (h : request.form.isEmpty = false) :
      Source client request ("content-type", Media.applicationForm)

theorem source_of_mem_texts {fields : List (String × String)}
    (hfields : Bindings.textPairs (client.headers.merge request.headers) = .ok fields)
    {field : String × String} (h : field ∈ fields) :
    client.Source request (Header.lower field.1, field.2) := by
  obtain ⟨⟨name, param⟩, he, hpair⟩ := exists_of_mem_mapM hfields h
  obtain ⟨value, htext, hpair⟩ := bind_eq_ok.mp hpair
  cases hpair
  have hmerge := NameMap.get?_eq_some_iff.mpr he
  rw [NameMap.get?_merge] at hmerge
  cases hcall : request.headers.get? name with
  | some param' =>
    rw [hcall, Option.some_or] at hmerge
    cases hmerge
    exact .call hcall htext
  | none =>
    rw [hcall, Option.none_or] at hmerge
    exact .default hcall hmerge htext

/-- Headers of distinct names, each of which can be sent and is as it was rendered. -/
structure Rendered (client : Client) (request : Request β) (headers : Headers) : Prop where
  distinct : (headers.map (·.1)).Nodup
  names : ∀ field ∈ headers, Header.IsSentName field.1
  values : ∀ field ∈ headers, Header.IsSentValue field.2
  sources : ∀ field ∈ headers, client.Source request field

namespace Rendered

variable {headers headers' : Headers}

theorem nil : Rendered client request [] :=
  ⟨.nil, fun _ h => (nomatch h), fun _ h => (nomatch h), fun _ h => (nomatch h)⟩

theorem insert (h : Rendered client request headers) {name value : String}
    (hname : Header.IsSentName name) (hvalue : Header.IsSentValue value)
    (hsource : client.Source request (name, value)) :
    Rendered client request (headers.insert name value) := by
  have hmem {P : String × String → Prop} (hall : ∀ field ∈ headers, P field)
      (hnew : P (name, value)) :
      ∀ field ∈ headers.insert name value, P field := by
    intro field hfield
    obtain hfield | hfield := List.mem_append.mp hfield
    · exact hall field (List.mem_filter.mp hfield).1
    · exact List.mem_singleton.mp hfield ▸ hnew
  exact ⟨Headers.nodup_insert h.distinct name value, hmem h.names hname, hmem h.values hvalue,
    hmem h.sources hsource⟩

theorem addAccept (h : Rendered client request headers)
    (hadd : (addAccept request.accepts headers).result = .ok headers') :
    Rendered client request headers' := by
  rw [Client.addAccept] at hadd
  cases haccept : Media.selectAccept request.accepts with
  | none =>
    rw [haccept] at hadd
    cases hadd
    exact h
  | some accept =>
    rw [haccept] at hadd
    obtain ⟨value, hvalue, hadd⟩ := Logged.result_bind_eq_ok.mp hadd
    cases hadd
    have hvalue := mapError_eq_ok.mp hvalue
    cases Header.parseValue_eq_ok hvalue
    exact h.insert (by decide) (Header.isSentValue_of_parseValue hvalue) (.accept haccept)

theorem addCredentials (h : Rendered client request headers) {schemes : List String}
    (hschemes : ∀ scheme ∈ schemes, scheme ∈ request.authNames)
    (hadd : (client.addCredentials schemes headers).result = .ok headers') :
    Rendered client request headers' := by
  induction schemes generalizing headers with
  | nil =>
    cases hadd
    exact h
  | cons scheme schemes ih =>
    obtain ⟨hscheme, hschemes⟩ := List.forall_mem_cons.mp hschemes
    rw [Client.addCredentials] at hadd
    cases hcredential : client.credentials.get? scheme with
    | none =>
      rw [hcredential] at hadd
      obtain ⟨_, -, hadd⟩ := Logged.result_bind_eq_ok.mp hadd
      exact ih h hschemes hadd
    | some credential =>
      rw [hcredential] at hadd
      obtain ⟨field, hheader, hadd⟩ := Logged.result_bind_eq_ok.mp hadd
      obtain ⟨rfl, hname, hvalue⟩ := Credential.header_eq_ok (mapError_eq_ok.mp hheader)
      exact ih (h.insert hname hvalue (.credential hscheme hcredential)) hschemes hadd

theorem addBound (h : Rendered client request headers) {fields : List (String × String)}
    (hfields : ∀ field ∈ fields, client.Source request (Header.lower field.1, field.2))
    (hadd : (addBound fields headers).result = .ok headers') :
    Rendered client request headers' := by
  induction fields generalizing headers with
  | nil =>
    cases hadd
    exact h
  | cons field fields ih =>
    obtain ⟨text, value⟩ := field
    obtain ⟨hsource, hfields⟩ := List.forall_mem_cons.mp hfields
    obtain ⟨name, hname, hadd⟩ := Logged.result_bind_eq_ok.mp hadd
    obtain ⟨value', hvalue, hadd⟩ := Logged.result_bind_eq_ok.mp hadd
    have hname := mapError_eq_ok.mp hname
    have hvalue := mapError_eq_ok.mp hvalue
    cases Header.parseName_eq_ok hname
    cases Header.parseValue_eq_ok hvalue
    exact ih (h.insert (Header.isSentName_lower (Header.isName_of_parseName hname))
      (Header.isSentValue_of_parseValue hvalue) hsource) hfields hadd

theorem addBody [Record β] (h : Rendered client request headers) {body : Option String}
    (hadd : (addBody request headers).result = .ok (headers', body)) :
    Rendered client request headers' := by
  cases hform : request.form.isEmpty with
  | false =>
    obtain ⟨text, -, -, rfl⟩ := (addBody_form_eq_ok_iff hform).mp hadd
    exact h.insert (by decide) (by decide) (.form hform)
  | true =>
    obtain ⟨-, -, rfl⟩ | ⟨text, value, hencode, hvalue, -, rfl⟩ :=
      (addBody_payload_eq_ok_iff hform).mp hadd
    · exact h
    · have hpayload : request.payload.isNone = false := by
        rw [Bool.eq_false_iff]
        intro hnone
        rw [Payload.encode_eq_none_iff.mpr hnone] at hencode
        cases hencode
      cases Header.parseValue_eq_ok hvalue
      exact h.insert (by decide) (Header.isSentValue_of_parseValue hvalue)
        (.payload hform hpayload)

end Rendered

theorem rendered_writtenHeaders {headers : Headers}
    (h : (client.writtenHeaders request).result = .ok headers) :
    Rendered client request headers := by
  obtain ⟨accepted, haccept, h⟩ := Logged.result_bind_eq_ok.mp h
  obtain ⟨credited, hcredentials, h⟩ := Logged.result_bind_eq_ok.mp h
  obtain ⟨fields, hfields, h⟩ := Logged.result_bind_eq_ok.mp h
  have haccepted : Rendered client request accepted := Rendered.nil.addAccept haccept
  have hcredited := haccepted.addCredentials (fun _ hscheme => hscheme) hcredentials
  exact hcredited.addBound (fun _ => source_of_mem_texts (mapError_eq_ok.mp hfields)) h

/-- The headers of a request that is written, for every client and every request. No name has two
values. Names are made of token characters without capital letters, values have no control character
but the tab, and each value is the whole text of what it was rendered from. -/
theorem wireRequest_headers_legal [Record β] {w : WireRequest}
    (hw : (client.wireRequest request).result = .ok w) :
    (w.headers.map (·.1)).Nodup ∧
    ∀ name value, (name, value) ∈ w.headers →
      Header.IsSentName name ∧ Header.IsSentValue value ∧
      (∀ b ∈ ([0, 10, 13] : Bytes), b ∉ Utf8.ofString value) ∧
      client.Source request (name, value) := by
  obtain ⟨-, -, headers, hwritten, hadd⟩ := wireRequest_eq_ok_iff.mp hw
  have h : Rendered client request w.headers := (rendered_writtenHeaders hwritten).addBody hadd
  refine ⟨h.distinct, fun name value hmem => ?_⟩
  have hvalue := h.values _ hmem
  refine ⟨h.names _ hmem, hvalue, fun b hb hmem' => ?_, h.sources _ hmem⟩
  have hcontrol : ∀ b ∈ ([0, 10, 13] : Bytes), ¬ (b = 9 ∨ 0x20 ≤ b ∧ b ≠ 0x7F) := by simp
  exact hcontrol b hb (hvalue b hmem')

/-- A client that has a key and always sends a list. -/
def tagging : Client :=
  { preset with
    credentials := .ofList [("api", .apiKey "Api_Key" ⟨"sp\u00e9cial\tkey"⟩)]
    headers := .ofList [("X-Tags", .ofList [.text "a", .text "b c"])] }

/-- What that client sends for a request that asks for the key. -/
def taggedRequest : WireRequest where
  method := .get
  url := .preset ["v2".toList, "x".toList]
  headers := [("api_key", "sp\u00e9cial\tkey"), ("x-tags", "a,b c")]
  body := none

/-- The key is sent with its tab and what is not ASCII, and the list with its items joined. -/
theorem wireRequest_headers_legal_tagging :
    (tagging.wireRequest (asking "api")).result = .ok taggedRequest ∧
      tagging.Source (asking "api") ("api_key", "sp\u00e9cial\tkey") ∧
      tagging.Source (asking "api") ("x-tags", "a,b c") := by
  have hw : (tagging.wireRequest (asking "api")).result = .ok taggedRequest := by rfl
  obtain ⟨-, hheaders⟩ := wireRequest_headers_legal hw
  obtain ⟨-, -, -, hkey⟩ := hheaders "api_key" "sp\u00e9cial\tkey" (by decide)
  obtain ⟨-, -, -, htags⟩ := hheaders "x-tags" "a,b c" (by decide)
  exact ⟨hw, hkey, htags⟩

end Client

end StoreClient
