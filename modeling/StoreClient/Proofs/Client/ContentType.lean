import StoreClient.Proofs.Client.HeaderPrecedence

/-!
The content type of a request belongs to its body. The body is written last and gives the header its
only value, whatever else gave it one before; and where form fields make the body, neither payload
nor content types leave a trace. A request without a body has the header only where it was bound, or
where an API key goes by its name (`wireRequest_contentType`).
-/

namespace StoreClient

/-! ### Values of a name -/

namespace Headers

/-- The values of a name in their order. -/
def values (headers : Headers) (name : String) : List String :=
  (headers.filter (·.1 = name)).map (·.2)

@[simp] theorem values_insert_self (headers : Headers) (name value : String) :
    (headers.insert name value).values name = [value] := by
  simp [values, insert, List.filter_filter]

theorem values_insert_of_ne (headers : Headers) {name n : String} (h : n ≠ name) (value : String) :
    (headers.insert name value).values n = headers.values n := by
  have hkept : (headers.filter (·.1 ≠ name)).filter (·.1 = n) = headers.filter (·.1 = n) := by
    rw [List.filter_filter]
    refine List.filter_congr fun e _ => ?_
    by_cases he : e.1 = n <;> simp [he, h]
  rw [values, insert, List.filter_append, hkept, List.filter_singleton,
    decide_eq_false (Ne.symm h)]
  exact congrArg _ (List.append_nil _)

theorem values_insertAll (headers : Headers) (fields : List (String × String)) (n : String) :
    (headers.insertAll fields).values n =
      (last? fields n).elim (headers.values n) ([·]) := by
  induction fields generalizing headers with
  | nil => rfl
  | cons field fields ih =>
    refine (ih (headers.insert field.1 field.2)).trans ?_
    rw [last?_cons]
    cases last? fields n with
    | some value => rfl
    | none =>
      by_cases h : field.1 = n
      · subst h
        rw [if_pos rfl]
        exact values_insert_self headers field.1 field.2
      · rw [if_neg h]
        exact values_insert_of_ne headers (Ne.symm h) field.2

theorem exists_mem_of_values_ne_nil {headers : Headers} {name : String}
    (h : headers.values name ≠ []) : ∃ e ∈ headers, e.1 = name := by
  obtain ⟨value, hvalue⟩ := List.exists_mem_of_ne_nil _ h
  obtain ⟨e, he, -⟩ := List.mem_map.mp hvalue
  obtain ⟨he, hname⟩ := List.mem_filter.mp he
  exact ⟨e, he, of_decide_eq_true hname⟩

theorem of_mem_insertAll {headers : Headers} {fields : List (String × String)}
    {e : String × String} (h : e ∈ headers.insertAll fields) : e ∈ headers ∨ e ∈ fields := by
  induction fields generalizing headers with
  | nil => exact .inl h
  | cons field fields ih =>
    rcases ih h with h | h
    · rcases List.mem_append.mp h with h | h
      · exact .inl (List.mem_filter.mp h).1
      · exact .inr (List.mem_cons.mpr (.inl (List.mem_singleton.mp h)))
    · exact .inr (List.mem_cons_of_mem field h)

end Headers

/-- Only an API key can go by another name than that of authorization. -/
theorem Credential.eq_apiKey_of_header {credential : Credential} {name value : String}
    (h : credential.header = .ok (name, value)) (hname : name ≠ authorization) :
    ∃ headerName key, credential = .apiKey headerName key ∧ Header.lower headerName = name := by
  cases credential with
  | bearer token =>
    obtain ⟨_, -, h⟩ := bind_eq_ok.mp h
    cases h
    exact (hname rfl).elim
  | basic username password =>
    rw [header] at h
    split at h
    · cases h
    · obtain ⟨_, -, h⟩ := bind_eq_ok.mp h
      cases h
      exact (hname rfl).elim
  | apiKey headerName key =>
    obtain ⟨parsed, hparsed, h⟩ := bind_eq_ok.mp h
    obtain ⟨_, -, h⟩ := bind_eq_ok.mp h
    cases h
    exact ⟨headerName, key, rfl, (Header.parseName_eq_ok (mapError_eq_ok.mp hparsed)).symm⟩

/-- Every payload has a body but the one that carries nothing. -/
theorem Payload.encode_eq_none_iff {β : Type} [Record β] {payload : Payload β}
    {contentType : String} : payload.encode contentType = .ok Option.none ↔ payload.isNone := by
  cases payload with
  | none => exact ⟨fun _ => rfl, fun _ => rfl⟩
  | entity e => simp [encode, isNone]
  | entities es => cases h : Media.isOf .xml contentType <;> simp [encode, isNone, h]

namespace Client

section
variable {β : Type} {client : Client} {request : Request β} {n : String}

/-- What gives a request a header before its body is written, unless it is what is accepted: a
binding under some spelling of the name, or an API key that goes by it. -/
inductive Gives (client : Client) (request : Request β) (n : String) : Prop where
  | default (h : client.headers.spelled n ≠ [])
  | call (h : request.headers.spelled n ≠ [])
  | apiKey {scheme headerName : String} {key : Secret} (hscheme : scheme ∈ request.authNames)
    (hkey : client.credentials.get? scheme = some (.apiKey headerName key))
    (hname : Header.lower headerName = n)

theorem gives_of_mem_credentials {value : String} (hauthorization : n ≠ Credential.authorization)
    (h : (n, value) ∈ request.authNames.filterMap client.credentialHeader?) :
    client.Gives request n := by
  obtain ⟨scheme, hscheme, h⟩ := List.mem_filterMap.mp h
  obtain ⟨credential, hcredential, h⟩ := Option.bind_eq_some_iff.mp h
  cases hheader : credential.header with
  | error e =>
    rw [hheader] at h
    cases h
  | ok header =>
    rw [hheader] at h
    cases h
    obtain ⟨headerName, key, rfl, hname⟩ :=
      Credential.eq_apiKey_of_header hheader hauthorization
    exact .apiKey hscheme hcredential hname

theorem gives_of_mem_texts {fields : List (String × String)}
    (hfields : Bindings.textPairs (client.headers.merge request.headers) = .ok fields)
    {field : String × String} (h : field ∈ fields) :
    client.Gives request (Header.lower field.1) := by
  obtain ⟨e, he, htext⟩ := exists_of_mem_mapM hfields h
  obtain ⟨text, -, htext⟩ := bind_eq_ok.mp htext
  cases htext
  have hmerged : e ∈ Bindings.spelled (client.headers.merge request.headers)
      (Header.lower e.1) := mem_spelled.mpr ⟨he, rfl⟩
  rw [spelled_merge] at hmerged
  rcases List.mem_append.mp hmerged with hmerged | hmerged
  · obtain ⟨e', he', -⟩ := List.mem_map.mp hmerged
    exact .default (List.ne_nil_of_mem he')
  · exact .call (List.ne_nil_of_mem (List.mem_filter.mp hmerged).1)

theorem gives_of_mem_written {headers : Headers}
    (hwritten : (client.writtenHeaders request).result = .ok headers) (haccept : n ≠ "accept")
    (hauthorization : n ≠ Credential.authorization) (h : headers.values n ≠ []) :
    client.Gives request n := by
  obtain ⟨fields, hfields, rfl⟩ := writtenHeaders_eq_ok hwritten
  obtain ⟨⟨name, value⟩, he, rfl⟩ := Headers.exists_mem_of_values_ne_nil h
  rcases Headers.of_mem_insertAll he with he | he
  · cases he
  rcases List.mem_append.mp he with he | he
  · rcases List.mem_append.mp he with he | he
    · obtain ⟨accept, -, h⟩ := List.mem_map.mp he
      cases h
      exact (haccept rfl).elim
    · exact gives_of_mem_credentials hauthorization he
  · obtain ⟨field, hfield, h⟩ := List.mem_map.mp he
    cases h
    exact gives_of_mem_texts hfields hfield

end

section
variable {β : Type} [Record β] {client : Client} {request : Request β} {w : WireRequest}
  (hw : (client.wireRequest request).result = .ok w)
include hw

/-- Neither the payload nor its content types count where there are form fields. -/
theorem wireRequest_of_form (hform : request.form.isEmpty = false) (payload : Payload β)
    (contentTypes : List String) :
    (client.wireRequest { request with payload, contentTypes }).result = .ok w := by
  obtain ⟨hmethod, hurl, headers, hwritten, hadd⟩ := wireRequest_eq_ok_iff.mp hw
  refine wireRequest_eq_ok_iff.mpr ⟨hmethod, hurl, headers, hwritten, ?_⟩
  refine (addBody_form_eq_ok_iff ?_).mpr ((addBody_form_eq_ok_iff hform).mp hadd)
  exact hform

/-- The content type of a request goes with its body. Form fields make the body and are said to be
a form, and the rest of the body does not count; else a payload is written as what the request says
that it is. Either way the header has no other value. Where there is no body, the header is there
only if client or request bind it or an API key goes by its name. -/
theorem wireRequest_contentType :
    (request.form.isEmpty = false →
      (∃ text, request.form.formText = .ok text ∧ w.body = some text) ∧
      w.headers.values "content-type" = [Media.applicationForm] ∧
      ∀ (payload : Payload β) (contentTypes : List String),
        (client.wireRequest { request with payload, contentTypes }).result = .ok w) ∧
    (request.form.isEmpty → request.payload.isNone = false →
      (∃ text,
        request.payload.encode (Media.selectContentType request.contentTypes) = .ok (some text) ∧
        w.body = some text) ∧
      w.headers.values "content-type" = [Media.selectContentType request.contentTypes]) ∧
    (request.form.isEmpty → request.payload.isNone →
      w.body = none ∧
      (w.headers.values "content-type" ≠ [] → client.Gives request "content-type")) := by
  obtain ⟨-, -, headers, hwritten, hadd⟩ := wireRequest_eq_ok_iff.mp hw
  refine ⟨?_, ?_, ?_⟩
  · intro hform
    obtain ⟨text, htext, hbody, hheaders⟩ := (addBody_form_eq_ok_iff hform).mp hadd
    refine ⟨⟨text, htext, hbody⟩, ?_, wireRequest_of_form hw hform⟩
    rw [hheaders, Headers.values_insert_self]
  · intro hform hpayload
    rcases (addBody_payload_eq_ok_iff hform).mp hadd with
      ⟨hencode, -⟩ | ⟨text, value, hencode, hvalue, hbody, hheaders⟩
    · rw [Payload.encode_eq_none_iff.mp hencode] at hpayload
      cases hpayload
    · refine ⟨⟨text, hencode, hbody⟩, ?_⟩
      rw [hheaders, Headers.values_insert_self, Header.parseValue_eq_ok hvalue]
  · intro hform hpayload
    have hencode :
        request.payload.encode (Media.selectContentType request.contentTypes) = .ok none :=
      Payload.encode_eq_none_iff.mpr hpayload
    have hplain : w.body = none ∧ w.headers = headers := by
      rcases (addBody_payload_eq_ok_iff hform).mp hadd with ⟨-, h⟩ | ⟨text, value, h, -⟩
      · exact h
      · rw [hencode] at h
        cases h
    obtain ⟨hbody, hheaders⟩ := hplain
    refine ⟨hbody, ?_⟩
    rw [hheaders]
    exact gives_of_mem_written hwritten (by decide) (by decide)

end

/-- A request that binds content types of its own and has a payload besides the given form. -/
def posting (form : Bindings) : Request User where
  operation := "sample"
  method := .post
  path := .ofString "/x"
  headers := .ofList [("Content-type", .ofText "text/plain"), ("CONTENT-TYPE", .ofText "text/css")]
  form
  payload := .entity (.named "user1")
  contentTypes := ["text/xml"]

/-- What is sent for it when the body is the given one. -/
def posted (contentType body : String) : WireRequest where
  method := .post
  url := .preset ["v2".toList, "x".toList]
  headers := [("content-type", contentType)]
  body := some body

/-- A request for the credentials of a scheme. -/
def asking (scheme : String) : Request User where
  operation := "sample"
  method := .get
  path := .ofString "/x"
  authNames := [scheme]

/-- A client whose API key goes by the name of the content type. -/
def keyed : Client :=
  { preset with credentials := .ofList [("api", .apiKey "Content-Type" ⟨"text/plain"⟩)] }

/-- What that client sends for a request that asks for the key. -/
def keyedRequest : WireRequest where
  method := .get
  url := .preset ["v2".toList, "x".toList]
  headers := [("content-type", "text/plain")]
  body := none

/-- Bound content types yield to that of the form or of the payload, and stand without a body. -/
theorem wireRequest_contentType_posting :
    (∃ w, (preset.wireRequest (posting (.ofList [("a", .ofText "b c")]))).result = .ok w ∧
      w.headers.values "content-type" = [Media.applicationForm] ∧
      (preset.wireRequest ({ posting (.ofList [("a", .ofText "b c")]) with
        payload := .none
        contentTypes := [] } : Request User)).result = .ok w) ∧
    (∃ w, (preset.wireRequest (posting .empty)).result = .ok w ∧
      w.headers.values "content-type" = ["text/xml"]) ∧
    keyed.Gives (asking "api") "content-type" := by
  have hform : (preset.wireRequest (posting (.ofList [("a", .ofText "b c")]))).result =
      .ok (posted "application/x-www-form-urlencoded" "a=b+c") := by rfl
  have hpayload : (preset.wireRequest (posting .empty)).result = .ok
      (posted "text/xml" (String.ofList (User.schema.renderXml (.named "user1")))) := by rfl
  have hkeyed : (keyed.wireRequest (asking "api")).result = .ok keyedRequest := by rfl
  obtain ⟨-, hvalues, hagain⟩ := (wireRequest_contentType hform).1 rfl
  obtain ⟨-, hvalues'⟩ := (wireRequest_contentType hpayload).2.1 rfl rfl
  obtain ⟨-, hgives⟩ := (wireRequest_contentType hkeyed).2.2 rfl rfl
  exact ⟨⟨_, hform, hvalues, hagain .none []⟩, ⟨_, hpayload, hvalues'⟩, hgives (by decide)⟩

/-- An API key gives a content type to a request that neither has a body nor binds the header. -/
theorem wireRequest_contentType_apiKey :
    (keyed.wireRequest (asking "api")).result = .ok keyedRequest ∧ keyedRequest.body = none ∧
      keyedRequest.headers.values "content-type" = ["text/plain"] ∧
      keyed.headers.spelled "content-type" = [] ∧
      (asking "api").headers.spelled "content-type" = [] :=
  ⟨by rfl, rfl, by decide, by decide, by decide⟩

end Client

end StoreClient
