import StoreClient.Proofs.Client.Destination

/-!
Calls are written down, whatever their arguments are. A call that has its required arguments makes a
request whose path resolves, whose bindings have texts and whose payload can be written, so that no
client without headers of its own refuses it, and there is nothing in it to warn of
(`Call.wireRequest_isOk`).
-/

namespace StoreClient

/-- Every payload can be written as JSON, and makes a body if there is one. -/
theorem Payload.encode_json {β : Type} [Record β] (payload : Payload β) :
    ∃ body, payload.encode Media.applicationJson = .ok body ∧
      (body.isSome ↔ payload.isNone = false) := by
  have hxml : Media.isOf .xml Media.applicationJson = false := by decide
  cases payload with
  | none => exact ⟨Option.none, rfl, by simp [isNone]⟩
  | entity e => exact ⟨some _, rfl, iff_of_true rfl rfl⟩
  | entities es =>
    rw [encode, hxml, if_neg Bool.false_ne_true]
    exact ⟨some _, rfl, iff_of_true rfl rfl⟩

namespace Call.Describes

variable {call : Call} {request : Request User} (h : call.Describes request)
include h

/-- There is nothing to warn of. -/
theorem skipped (client : Client) :
    client.skipped request (PathTemplate.placeholders request.path.template) = [] := by
  rw [Client.skipped, h.path.noneUnused, h.authNames, Client.ignoredPayload, h.form]
  rfl

theorem resolve : ∃ path, request.path.resolve = ⟨[], .ok path⟩ := by
  obtain ⟨path, hresolve, -⟩ := h.path.resolves
  have hwarnings := request.path.resolve_raises.eq_of_ok path hresolve
  rw [h.path.noneUnused] at hwarnings
  exact ⟨path, congrArg₂ Logged.mk hwarnings hresolve⟩

/-- The headers of a call are those that its operation accepts. -/
theorem writtenHeaders {client : Client} (hclient : client.headers = .empty) :
    ∃ headers, (client.writtenHeaders request).result = .ok headers := by
  have haccept : ∃ headers, (Client.addAccept request.accepts []).result = .ok headers := by
    rw [Client.addAccept]
    cases hselected : Media.selectAccept request.accepts with
    | none => exact ⟨_, rfl⟩
    | some accept =>
      have hvalue : Header.parseValue accept = .ok accept :=
        Header.parseValue_eq_ok_iff.mpr ⟨h.accepts accept hselected, rfl⟩
      exact ⟨_, Logged.result_bind_eq_ok.mpr ⟨accept, mapError_eq_ok.mpr hvalue, rfl⟩⟩
  obtain ⟨headers, haccept⟩ := haccept
  refine ⟨headers, Logged.result_bind_eq_ok.mpr ⟨headers, haccept, ?_⟩⟩
  rw [h.authNames, hclient, h.headers]
  rfl

/-- The body is the payload as JSON. -/
theorem addBody (headers : Headers) : ∃ headers' body,
    (Client.addBody request headers).result = .ok (headers', body) ∧
      (body.isSome ↔ "body" ∈ call.operation.required) := by
  have hform : request.form.isEmpty := by
    rw [h.form]
    rfl
  have hselected : Media.selectContentType request.contentTypes = Media.applicationJson := by
    rw [h.contentTypes]
    rfl
  have hvalue : Header.parseValue Media.applicationJson = .ok Media.applicationJson := by rfl
  obtain ⟨body, hencode, hbody⟩ := request.payload.encode_json
  rw [h.payload] at hbody
  cases body with
  | none =>
    refine ⟨headers, none, (Client.addBody_payload_eq_ok_iff hform).mpr (.inl ?_), hbody⟩
    rw [hselected]
    exact ⟨hencode, rfl, rfl⟩
  | some text =>
    refine ⟨headers.insert "content-type" Media.applicationJson, some text,
      (Client.addBody_payload_eq_ok_iff hform).mpr (.inr ?_), hbody⟩
    rw [hselected]
    exact ⟨text, _, hencode, hvalue, rfl, rfl⟩

end Call.Describes

/-- A call with its required arguments, whatever they are, is written down without a warning by a
client of any port and credentials at the host and the base path that are preset, whose scheme is
`http`, `https` or any other with ports. It has the method of its operation, and a body exactly if
the operation requires one. -/
theorem Call.wireRequest_isOk {call : Call} (hcall : call.IsComplete) {scheme : Scheme}
    (hscheme : scheme.hasPort) (port : UInt16) (credentials : NameMap Credential) :
    ∃ client request path w,
      ({ scheme, port, credentials } : Client.Config).build = .ok client ∧
      call.request = .ok request ∧ request.path.resolve = ⟨[], .ok path⟩ ∧
      client.wireRequest request = ⟨[], .ok w⟩ ∧ w.method = call.operation.method ∧
      (w.body.isSome ↔ "body" ∈ call.operation.required) := by
  obtain ⟨read, hread, hfile⟩ := Scheme.hasPort_iff.mp hscheme
  have hhost := Client.Config.hasHost_preset hread hfile port ['/', 'v', '2'] credentials .empty
  obtain ⟨client, hclient⟩ := hhost.build
  obtain ⟨request, hrequest⟩ := exists_request hcall
  have h := describes_request hrequest
  obtain ⟨path, hresolve⟩ := h.resolve
  have hheaders : client.headers = .empty := by
    obtain ⟨_, -, hclient⟩ := bind_eq_ok.mp hclient
    cases hclient
    rfl
  obtain ⟨headers, hwritten⟩ := h.writtenHeaders hheaders
  obtain ⟨headers', body, haddBody, hbody⟩ := h.addBody headers
  have hurl : ∃ url, (client.url request).result = .ok url := by
    have hbase : Url.IsPathText ['/', 'v', '2'] := ⟨rfl, List.forall_iff_forall_mem.mp (by decide)⟩
    obtain ⟨text, query?, hchars, hurl⟩ := h.url_eq client
    obtain ⟨segments, haddress⟩ := hhost.addressOf hclient hbase hchars
    rw [haddress] at hurl
    exact ⟨_, hurl⟩
  obtain ⟨url, hurl⟩ := hurl
  have hresult : (client.wireRequest request).result =
      .ok { method := request.method, url, headers := headers', body } :=
    Client.wireRequest_eq_ok_iff.mpr ⟨rfl, hurl, headers, hwritten, haddBody⟩
  have hwarnings : (client.wireRequest request).warnings = [] :=
    ((client.wireRequest_raises request).eq_of_ok _ hresult).trans (h.skipped client)
  exact ⟨client, request, path, _, hclient, hrequest, hresolve,
    congrArg₂ Logged.mk hwarnings hresult, h.method, hbody⟩

/-- A name that looks like a path and like a placeholder, and a user without anything. -/
theorem Call.wireRequest_isOk_updateUser :
    (updateUser (some "../\x7busername\x7d?#") (some {})).IsComplete ∧ Scheme.https.hasPort ∧
    ∃ client request path w,
      ({ scheme := .https, port := 8443 } : Client.Config).build = .ok client ∧
      (updateUser (some "../\x7busername\x7d?#") (some {})).request = .ok request ∧
      request.path.resolve = ⟨[], .ok path⟩ ∧ client.wireRequest request = ⟨[], .ok w⟩ ∧
      w.method = .put ∧ w.body.isSome := by
  have hcall : (updateUser (some "../\x7busername\x7d?#") (some {})).IsComplete := by decide
  have hscheme : Scheme.https.hasPort := by decide
  obtain ⟨client, request, path, w, hclient, hrequest, hresolve, hw, hmethod, hbody⟩ :=
    wireRequest_isOk hcall hscheme 8443 .empty
  exact ⟨hcall, hscheme, client, request, path, w, hclient, hrequest, hresolve, hw, hmethod,
    hbody.mpr (by decide)⟩

end StoreClient
