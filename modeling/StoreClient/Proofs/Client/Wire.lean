import StoreClient.Client.Wire
import StoreClient.Proofs.Http.Header
import StoreClient.Proofs.Logged

/-!
What a request is written down as. Its address, its headers and its body are written one after
another, and the body goes only by the form, the payload and the content types
(`wireRequest_eq_ok_iff`). Form fields make the body where there are any, and else the payload
(`addBody_form_eq_ok_iff`, `addBody_payload_eq_ok_iff`).
-/

namespace StoreClient

namespace Client

/-- The header of a scheme that the client has credentials for. -/
def credentialHeader? (client : Client) (scheme : String) : Option (String × String) :=
  (client.credentials.get? scheme).bind (·.header.toOption)

/-! ### Writing headers -/

section
variable {client : Client} {headers headers' : Headers}

theorem addAccept_eq_ok {accepts : List String}
    (h : (addAccept accepts headers).result = .ok headers') :
    headers' = headers.insertAll ((Media.selectAccept accepts).toList.map ("accept", ·)) := by
  rw [addAccept] at h
  cases haccept : Media.selectAccept accepts with
  | none =>
    rw [haccept] at h
    cases h
    rfl
  | some accept =>
    rw [haccept] at h
    obtain ⟨value, hvalue, h⟩ := Logged.result_bind_eq_ok.mp h
    cases h
    cases Header.parseValue_eq_ok (mapError_eq_ok.mp hvalue)
    rfl

theorem addCredentials_eq_ok {authNames : List String}
    (h : (client.addCredentials authNames headers).result = .ok headers') :
    headers' = headers.insertAll (authNames.filterMap client.credentialHeader?) := by
  induction authNames generalizing headers with
  | nil =>
    cases h
    rfl
  | cons name authNames ih =>
    rw [addCredentials] at h
    cases hcredential : client.credentials.get? name with
    | none =>
      rw [hcredential] at h
      obtain ⟨_, -, h⟩ := Logged.result_bind_eq_ok.mp h
      have hnone : client.credentialHeader? name = none := by
        rw [credentialHeader?, hcredential]
        rfl
      rw [List.filterMap_cons_none hnone]
      exact ih h
    | some credential =>
      rw [hcredential] at h
      obtain ⟨⟨field, value⟩, hheader, h⟩ := Logged.result_bind_eq_ok.mp h
      have hsome : client.credentialHeader? name = some (field, value) := by
        rw [credentialHeader?, hcredential, Option.bind_some, mapError_eq_ok.mp hheader]
        rfl
      rw [List.filterMap_cons_some hsome]
      exact ih h

theorem addBound_eq_ok {fields : List (String × String)}
    (h : (addBound fields headers).result = .ok headers') :
    headers' = headers.insertAll (fields.map fun field => (Header.lower field.1, field.2)) := by
  induction fields generalizing headers with
  | nil =>
    cases h
    rfl
  | cons field fields ih =>
    obtain ⟨text, value⟩ := field
    rw [addBound] at h
    obtain ⟨name, hname, h⟩ := Logged.result_bind_eq_ok.mp h
    obtain ⟨value', hvalue, h⟩ := Logged.result_bind_eq_ok.mp h
    cases Header.parseName_eq_ok (mapError_eq_ok.mp hname)
    cases Header.parseValue_eq_ok (mapError_eq_ok.mp hvalue)
    exact ih h

end

/-! ### Writing bodies -/

section
variable {β : Type} [Record β] {request : Request β} {headers headers' : Headers}
  {body : Option String}

theorem addBody_form_eq_ok_iff (hform : request.form.isEmpty = false) :
    (addBody request headers).result = .ok (headers', body) ↔ ∃ text,
      request.form.formText = .ok text ∧ body = some text ∧
      headers' = headers.insert "content-type" Media.applicationForm := by
  have hresult : (addBody request headers).result =
      (request.form.formText.mapError Error.param).map fun text =>
        (headers.insert "content-type" Media.applicationForm, some text) := by
    rw [addBody, hform, if_neg Bool.false_ne_true]
    cases request.payload.isNone <;> cases request.form.formText <;> rfl
  rw [hresult, map_eq_ok]
  simp only [mapError_eq_ok, Prod.mk.injEq]
  constructor
  · rintro ⟨text, htext, rfl, rfl⟩
    exact ⟨text, htext, rfl, rfl⟩
  · rintro ⟨text, htext, rfl, rfl⟩
    exact ⟨text, htext, rfl, rfl⟩

theorem addBody_payload_eq_ok_iff (hform : request.form.isEmpty) :
    (addBody request headers).result = .ok (headers', body) ↔
      (request.payload.encode (Media.selectContentType request.contentTypes) = .ok none ∧
        body = none ∧ headers' = headers) ∨
      ∃ text value,
        request.payload.encode (Media.selectContentType request.contentTypes) = .ok (some text) ∧
        Header.parseValue (Media.selectContentType request.contentTypes) = .ok value ∧
        body = some text ∧ headers' = headers.insert "content-type" value := by
  rw [addBody, hform, if_pos rfl, Logged.result_bind_eq_ok]
  simp only [Logged.result_ofExcept]
  cases request.payload.encode (Media.selectContentType request.contentTypes) with
  | error e => simp
  | ok encoded =>
    cases encoded with
    | none => simp [eq_comm, and_comm]
    | some text =>
      simp only [Except.ok.injEq, Option.some.injEq, reduceCtorEq, false_and, false_or,
        exists_eq_left']
      rw [Logged.result_bind_eq_ok]
      constructor
      · rintro ⟨value, hvalue, h⟩
        cases h
        exact ⟨text, value, rfl, mapError_eq_ok.mp hvalue, rfl, rfl⟩
      · rintro ⟨_, value, rfl, hvalue, rfl, rfl⟩
        exact ⟨value, mapError_eq_ok.mpr hvalue, rfl⟩

theorem addBody_none_eq_ok (h : (addBody request headers).result = .ok (headers', none)) :
    headers' = headers := by
  cases hform : request.form.isEmpty with
  | false =>
    obtain ⟨text, -, hbody, -⟩ := (addBody_form_eq_ok_iff hform).mp h
    cases hbody
  | true =>
    rcases (addBody_payload_eq_ok_iff hform).mp h with ⟨-, -, h⟩ | ⟨text, value, -, -, hbody, -⟩
    · exact h
    · cases hbody

end

/-! ### Writing requests -/

/-- The headers of a request before its body is written. -/
def writtenHeaders {β : Type} (client : Client) (request : Request β) : Logged Headers := do
  let headers ← addAccept request.accepts []
  let headers ← client.addCredentials request.authNames headers
  let bound : Bindings := client.headers.merge request.headers
  addBound (← .ofExcept (bound.textPairs.mapError .param)) headers

section
variable {β : Type} {client : Client} {request : Request β}

theorem writtenHeaders_eq_ok {headers : Headers}
    (h : (client.writtenHeaders request).result = .ok headers) : ∃ fields,
    Bindings.textPairs (client.headers.merge request.headers) = .ok fields ∧
      headers = Headers.insertAll []
        ((Media.selectAccept request.accepts).toList.map ("accept", ·) ++
          request.authNames.filterMap client.credentialHeader? ++
          fields.map fun field => (Header.lower field.1, field.2)) := by
  obtain ⟨accepted, haccept, h⟩ := Logged.result_bind_eq_ok.mp h
  obtain ⟨credited, hcredentials, h⟩ := Logged.result_bind_eq_ok.mp h
  obtain ⟨fields, hfields, h⟩ := Logged.result_bind_eq_ok.mp h
  refine ⟨fields, mapError_eq_ok.mp hfields, ?_⟩
  rw [addBound_eq_ok h, addCredentials_eq_ok hcredentials, addAccept_eq_ok haccept]
  simp only [Headers.insertAll, List.foldl_append]

theorem wireRequest_eq_ok_iff [Record β] {w : WireRequest} :
    (client.wireRequest request).result = .ok w ↔
      w.method = request.method ∧ (client.url request).result = .ok w.url ∧
      ∃ headers, (client.writtenHeaders request).result = .ok headers ∧
        (addBody request headers).result = .ok (w.headers, w.body) := by
  simp only [wireRequest, writtenHeaders, Logged.result_bind_eq_ok]
  constructor
  · rintro ⟨url, hurl, accepted, haccept, credited, hcredentials, fields, hfields, headers, hbound,
      ⟨headers', body⟩, hbody, h⟩
    cases h
    exact ⟨rfl, hurl, headers, ⟨accepted, haccept, credited, hcredentials, fields, hfields, hbound⟩,
      hbody⟩
  · rintro ⟨hmethod, hurl, headers, ⟨accepted, haccept, credited, hcredentials, fields, hfields,
      hbound⟩, hbody⟩
    refine ⟨w.url, hurl, accepted, haccept, credited, hcredentials, fields, hfields, headers,
      hbound, (w.headers, w.body), hbody, ?_⟩
    rw [← hmethod]
    rfl

end

/-! ### The client that nothing is set for -/

/-- The client of a configuration in which nothing is set. -/
def preset : Client := ⟨"http://petstore.swagger.io:80/v2", .empty, .empty⟩

end Client

/-- The address of a path at the host of that client. -/
def Url.preset (path : List (List Char)) : Url where
  scheme := .http
  user := []
  password := []
  host := .domain "petstore.swagger.io".toList
  port := none
  path
  query := none
  fragment := none

end StoreClient
