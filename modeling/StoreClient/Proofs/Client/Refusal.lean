import StoreClient.Proofs.Client.Wire
import StoreClient.Proofs.NameMap
import StoreClient.Proofs.Param.Bindings
import StoreClient.Proofs.Request.Filling

/-!
When a request is refused. Eight things are asked of a request before it is written down (`Demand`),
each of all the bindings, schemes or headers that it is about and of nothing else. They are asked one
after another: a request is written down exactly if it meets them all, and else the failure is that of
the first which it does not meet (`wireRequest_outcome`). What is skipped is not asked for: arguments
that the path does not mention, schemes without credentials, defaults that the request binds as well,
and a payload behind form fields.
-/

namespace StoreClient

namespace Client

variable {β : Type}

/-! ### Demands -/

/-- What is asked of a request. -/
inductive Demand where
  /-- Every placeholder of the path has an argument that has a text. -/
  | path
  /-- Base and path make an address. -/
  | address
  /-- What the query binds has texts. -/
  | query
  /-- What is accepted is a header value. -/
  | accept
  /-- Credentials that are asked for fit into headers. -/
  | credentials
  /-- The headers that are sent have texts. -/
  | headerTexts
  /-- Their names and texts are names and values of headers. -/
  | headerFields
  /-- What the form binds has texts; without a form, the payload can be written and its content type
  is a header value. -/
  | body
  deriving DecidableEq

/-- The demands in the order in which they are asked. -/
def Demand.all : List Demand :=
  [.path, .address, .query, .accept, .credentials, .headerTexts, .headerFields, .body]

/-- The binding of a header that is sent: that of the request before that of the client. -/
def effective? (client : Client) (request : Request β) (name : String) : Option Param :=
  (request.headers.get? name).or (client.headers.get? name)

/-- Where a request is sent if its path resolves to the given one. -/
def addressOf (client : Client) (path : String) : Except Url.Error Url :=
  Url.parse (join client.baseUri.toList path.toList)

/-- The headers that are sent, in the order in which they are written. -/
def bound (client : Client) (request : Request β) : Bindings :=
  client.headers.merge request.headers

/-- Whether a binding is a header if it has a text at all. -/
def IsField (e : String × Param) : Prop :=
  ∀ text, e.2.text = .ok text → Header.IsName e.1 ∧ Header.IsValue text

/-- Whether a request meets a demand. -/
def Demand.Holds [Record β] (client : Client) (request : Request β) : Demand → Prop
  | .path => ∀ name ∈ PathTemplate.placeholders request.path.template,
      ∃ param, request.path.args.get? name = some param ∧ param.isSendable
  | .address => ∀ resolved, request.path.resolve.result = .ok resolved →
      ∃ url, client.addressOf resolved = .ok url
  | .query => ∀ name param, request.query.get? name = some param → param.isSendable
  | .accept => ∀ accept, Media.selectAccept request.accepts = some accept → Header.IsValue accept
  | .credentials => ∀ scheme ∈ request.authNames, ∀ credential,
      client.credentials.get? scheme = some credential → ∃ field, credential.header = .ok field
  | .headerTexts => ∀ name param, client.effective? request name = some param → param.isSendable
  | .headerFields => ∀ name param, client.effective? request name = some param →
      IsField (name, param)
  | .body =>
      (request.form.isEmpty = false →
        ∀ name param, request.form.get? name = some param → param.isSendable) ∧
      (request.form.isEmpty → ∃ body,
        request.payload.encode (Media.selectContentType request.contentTypes) = .ok body ∧
        (body.isSome → Header.IsValue (Media.selectContentType request.contentTypes)))

/-- How a request fails that does not meet a demand. Where several things are to blame, the first
of them is. -/
def Demand.Blames [Record β] (client : Client) (request : Request β) (e : Error) : Demand → Prop
  | .path =>
      (∃ cause, FirstError (fun arg => arg.2.text) (request.path.args.entries.filter
        (·.1 ∈ PathTemplate.placeholders request.path.template)) cause ∧ e = .param cause) ∨
      (request.path.IsWritable ∧ request.path.unbound ≠ [] ∧
        e = .unresolvedPath request.path.filled request.path.unbound)
  | .address => ∃ resolved cause, request.path.resolve.result = .ok resolved ∧
      client.addressOf resolved = .error cause ∧ e = .url cause
  | .query => ∃ cause,
      FirstError (fun e => e.2.queryTexts) request.query.entries cause ∧ e = .param cause
  | .accept => (∃ accept, Media.selectAccept request.accepts = some accept ∧
      ¬ Header.IsValue accept) ∧ e = .header .value
  | .credentials => ∃ cause, FirstError Credential.header
      (request.authNames.filterMap client.credentials.get?) cause ∧ e = .credential cause
  | .headerTexts => ∃ cause,
      FirstError (fun e => e.2.text) (client.bound request).entries cause ∧ e = .param cause
  | .headerFields => ∃ front field rest text,
      (client.bound request).entries = front ++ field :: rest ∧ (∀ e ∈ front, IsField e) ∧
      field.2.text = .ok text ∧
      ((¬ Header.IsName field.1 ∧ e = .header .name) ∨
        (Header.IsName field.1 ∧ ¬ Header.IsValue text ∧ e = .header .value))
  | .body =>
      (request.form.isEmpty = false ∧ ∃ cause,
        FirstError (fun e => e.2.queryTexts) request.form.entries cause ∧ e = .param cause) ∨
      (request.form.isEmpty ∧
        (request.payload.encode (Media.selectContentType request.contentTypes) = .error e ∨
          (∃ body, request.payload.encode (Media.selectContentType request.contentTypes) =
            .ok (some body)) ∧
          ¬ Header.IsValue (Media.selectContentType request.contentTypes) ∧ e = .header .value))

/-! ### Asking one thing at a time -/

/-- Asks whether a text is a header name. -/
def checkName (text : String) : Except Error Unit :=
  verdict ((Header.parseName text).mapError .header)

/-- Asks whether a text is a header value. -/
def checkValue (text : String) : Except Error Unit :=
  verdict ((Header.parseValue text).mapError .header)

/-- Asks whether a binding is a header. -/
def checkField (e : String × Param) : Except Error Unit :=
  match e.2.text with
  | .ok text => do
    checkName e.1
    checkValue text
  | .error _ => .ok ()

/-- Asks for one thing and for nothing that is asked for before. -/
def Demand.check [Record β] (client : Client) (request : Request β) : Demand → Except Error Unit
  | .path => verdict request.path.resolve.result
  | .address =>
    match request.path.resolve.result with
    | .ok resolved => verdict ((client.addressOf resolved).mapError .url)
    | .error _ => .ok ()
  | .query => verdict (request.query.formText.mapError .param)
  | .accept =>
    match Media.selectAccept request.accepts with
    | some value => checkValue value
    | none => .ok ()
  | .credentials =>
    verdict (((request.authNames.filterMap client.credentials.get?).mapM
      Credential.header).mapError .credential)
  | .headerTexts => verdict ((client.bound request).textPairs.mapError .param)
  | .headerFields => verdict ((client.bound request).entries.mapM checkField)
  | .body =>
    if request.form.isEmpty then do
      match ← request.payload.encode (Media.selectContentType request.contentTypes) with
      | some _ => checkValue (Media.selectContentType request.contentTypes)
      | none => .ok ()
    else verdict (request.form.formText.mapError .param)

section
variable {client : Client} {request : Request β}

theorem verdict_headerValue (text : String) :
    verdict (headerValue text).result = checkValue text := rfl

theorem verdict_url [Record β] : verdict (client.url request).result =
    (do
      Demand.path.check client request
      Demand.address.check client request
      Demand.query.check client request) := by
  have hquery : ∀ url : Url, verdict (if request.query.isEmpty then pure url else do
      let query ← .ofExcept (request.query.formText.mapError .param)
      return url.setQuery query.toList : Logged Url).result =
        Demand.query.check client request := by
    intro url
    rw [Demand.check]
    by_cases hquery : request.query.isEmpty
    · have hempty : request.query.entries = [] := List.isEmpty_iff.mp hquery
      rw [if_pos hquery, Bindings.formText, Bindings.queryPairs, hempty]
      rfl
    · rw [if_neg hquery, Logged.result_bind, Logged.result_ofExcept]
      cases request.query.formText <;> rfl
  rw [url]
  refine Logged.verdict_result_bind fun resolved hresolved => ?_
  rw [Logged.verdict_result_bind fun url _ => hquery url, Logged.result_ofExcept]
  refine congrArg (· >>= _) ?_
  rw [Demand.check, hresolved]
  rfl

theorem verdict_addAccept [Record β] (headers : Headers) :
    verdict (addAccept request.accepts headers).result = Demand.accept.check client request := by
  rw [addAccept, Demand.check]
  cases Media.selectAccept request.accepts with
  | none => rfl
  | some accept =>
    refine (Logged.verdict_result_bind (y := .ok ()) fun _ _ => rfl).trans ?_
    rw [verdict_headerValue]
    change _ = checkValue accept
    cases checkValue accept <;> rfl

theorem verdict_addCredentials (authNames : List String) (headers : Headers) :
    verdict (client.addCredentials authNames headers).result =
      verdict (((authNames.filterMap client.credentials.get?).mapM
        Credential.header).mapError .credential) := by
  induction authNames generalizing headers with
  | nil => rfl
  | cons name authNames ih =>
    rw [addCredentials]
    cases hcredential : client.credentials.get? name with
    | none =>
      rw [List.filterMap_cons_none hcredential]
      exact ih headers
    | some credential =>
      rw [List.filterMap_cons_some hcredential, verdict_mapError, verdict_mapM_cons]
      refine (Logged.verdict_result_bind fun field _ => ih _).trans ?_
      rw [Logged.result_ofExcept, verdict_mapError, verdict_mapError]
      cases credential.header <;> rfl

/-- Headers are written if all the bindings that they are the texts of are headers. -/
theorem verdict_addBound {es : List (String × Param)} {fields : List (String × String)}
    (h : List.Forall₂ (fun e field => field.1 = e.1 ∧ e.2.text = .ok field.2) es fields)
    (headers : Headers) :
    verdict (addBound fields headers).result = verdict (es.mapM checkField) := by
  induction h generalizing headers with
  | nil => rfl
  | @cons e field es fields hfield _ ih =>
    obtain ⟨name, text⟩ := field
    obtain ⟨rfl, htext⟩ := hfield
    rw [addBound, verdict_mapM_cons, checkField, htext, verdict_unit]
    refine (Logged.verdict_result_bind fun name _ =>
      Logged.verdict_result_bind fun value _ => ih _).trans ?_
    rw [bind_assoc]
    rfl

theorem verdict_addBody [Record β] (headers : Headers) :
    verdict (addBody request headers).result = Demand.body.check client request := by
  rw [addBody, Demand.check]
  by_cases hform : request.form.isEmpty
  · rw [if_pos hform, if_pos hform]
    rw [Logged.result_bind, Logged.result_ofExcept]
    cases request.payload.encode (Media.selectContentType request.contentTypes) with
    | error e => rfl
    | ok body =>
      cases body with
      | none => rfl
      | some text =>
        refine (Logged.verdict_result_bind (y := .ok ()) fun _ _ => rfl).trans ?_
        rw [verdict_headerValue]
        change _ = checkValue _
        cases checkValue _ <;> rfl
  · rw [if_neg hform, if_neg hform]
    cases request.payload.isNone <;> cases request.form.formText <;> rfl

theorem verdict_addBody_return [Record β] (url : Url) (headers : Headers) : verdict (do
    let (headers, body) ← addBody request headers
    return { method := request.method, url, headers, body } : Logged WireRequest).result =
      Demand.body.check client request := by
  refine (Logged.verdict_result_bind (y := .ok ()) fun _ _ => rfl).trans ?_
  rw [verdict_addBody]
  cases Demand.body.check client request <;> rfl

theorem verdict_addBound_addBody [Record β] (url : Url) (headers : Headers) : verdict (do
    let headers ← addBound
      (← .ofExcept ((client.bound request).textPairs.mapError .param)) headers
    let (headers, body) ← addBody request headers
    return { method := request.method, url, headers, body } : Logged WireRequest).result =
      (do
        Demand.headerTexts.check client request
        Demand.headerFields.check client request
        Demand.body.check client request) := by
  refine Logged.verdict_result_bind fun fields hfields => ?_
  have htexts := Bindings.textPairs_eq_ok (mapError_eq_ok.mp hfields)
  rw [Logged.verdict_result_bind fun headers _ => verdict_addBody_return url headers,
    verdict_addBound htexts]
  rfl

/-- Writing a request down is asking for one thing after another. -/
theorem verdict_wireRequest [Record β] : verdict (client.wireRequest request).result =
    verdict (Demand.all.mapM (Demand.check client request)) := by
  have hwritten : verdict (client.wireRequest request).result =
      (do
        verdict (client.url request).result
        Demand.accept.check client request
        Demand.credentials.check client request
        Demand.headerTexts.check client request
        Demand.headerFields.check client request
        Demand.body.check client request) := by
    refine Logged.verdict_result_bind fun url _ => ?_
    rw [← verdict_addAccept []]
    refine Logged.verdict_result_bind fun headers _ => ?_
    rw [Demand.check, ← verdict_addCredentials request.authNames headers]
    refine Logged.verdict_result_bind fun headers _ => ?_
    exact verdict_addBound_addBody url headers
  have hlast : verdict (pure [] : Except Error (List Unit)) = pure () := rfl
  rw [hwritten, verdict_url]
  simp only [Demand.all, verdict_mapM_cons, verdict_unit, List.mapM_nil, hlast, bind_assoc]
  simp

end

/-! ### What each failure says -/

section
variable {client : Client} {request : Request β} {e : Error}

theorem checkName_eq_ok_iff {text : String} : checkName text = .ok () ↔ Header.IsName text := by
  rw [checkName, verdict_mapError_eq_ok_iff, isOk_iff_forall_ne]
  simp [Header.parseName_eq_error_iff]

theorem checkName_eq_error_iff {text : String} :
    checkName text = .error e ↔ ¬ Header.IsName text ∧ e = .header .name := by
  rw [checkName, verdict_mapError_eq_error_iff]
  simp [Header.parseName_eq_error_iff]

theorem checkValue_eq_ok_iff {text : String} :
    checkValue text = .ok () ↔ Header.IsValue text := by
  rw [checkValue, verdict_mapError_eq_ok_iff, isOk_iff_forall_ne]
  simp [Header.parseValue_eq_error_iff]

theorem checkValue_eq_error_iff {text : String} :
    checkValue text = .error e ↔ ¬ Header.IsValue text ∧ e = .header .value := by
  rw [checkValue, verdict_mapError_eq_error_iff]
  simp [Header.parseValue_eq_error_iff]

theorem checkField_eq_ok_iff {field : String × Param} :
    checkField field = .ok () ↔ IsField field := by
  rw [checkField, IsField]
  cases field.2.text with
  | error _ => simp
  | ok text =>
    rw [bind_eq_ok]
    simp [exists_eq_ok_unit, checkName_eq_ok_iff, checkValue_eq_ok_iff]

theorem checkField_eq_error_iff {field : String × Param} :
    checkField field = .error e ↔ ∃ text, field.2.text = .ok text ∧
      ((¬ Header.IsName field.1 ∧ e = .header .name) ∨
        (Header.IsName field.1 ∧ ¬ Header.IsValue text ∧ e = .header .value)) := by
  rw [checkField]
  cases field.2.text with
  | error _ => simp
  | ok text =>
    rw [bind_eq_error]
    simp [exists_eq_ok_unit, checkName_eq_ok_iff, checkName_eq_error_iff, checkValue_eq_error_iff]

theorem get?_bound (name : String) :
    (client.bound request).get? name = client.effective? request name :=
  NameMap.get?_merge ..

theorem check_eq_ok_iff [Record β] (demand : Demand) :
    demand.check client request = .ok () ↔ demand.Holds client request := by
  cases demand with
  | path => exact verdict_eq_ok_iff.trans PathTemplate.resolve_isOk_iff
  | address =>
    rw [Demand.check, Demand.Holds]
    cases request.path.resolve.result with
    | error _ => simp
    | ok resolved => simp [verdict_mapError_eq_ok_iff]
  | query =>
    rw [Demand.check, Demand.Holds, verdict_mapError_eq_ok_iff, Bindings.formText_isOk_iff]
    exact Bindings.forall_isSendable_iff.symm
  | accept =>
    rw [Demand.check, Demand.Holds]
    cases Media.selectAccept request.accepts with
    | none => simp
    | some accept => simp [checkValue_eq_ok_iff]
  | credentials =>
    rw [Demand.check, Demand.Holds, verdict_mapError_eq_ok_iff, mapM_isOk_iff]
    constructor
    · intro h scheme hscheme credential hcredential
      exact h credential (List.mem_filterMap.mpr ⟨scheme, hscheme, hcredential⟩)
    · intro h credential hcredential
      obtain ⟨scheme, hscheme, hcredential⟩ := List.mem_filterMap.mp hcredential
      exact h scheme hscheme credential hcredential
  | headerTexts =>
    rw [Demand.check, Demand.Holds, verdict_mapError_eq_ok_iff, Bindings.textPairs_isOk_iff]
    simp only [← get?_bound]
    exact Bindings.forall_isSendable_iff.symm
  | headerFields =>
    rw [Demand.check, Demand.Holds, verdict_eq_ok_iff, mapM_isOk_iff]
    simp only [← get?_bound]
    rw [NameMap.forall_get?_iff]
    simp only [exists_eq_ok_unit, checkField_eq_ok_iff]
  | body =>
    rw [Demand.check, Demand.Holds]
    by_cases hform : request.form.isEmpty
    · rw [if_pos hform, bind_eq_ok]
      simp only [hform, Bool.true_eq_false, false_implies, true_and, true_implies]
      refine exists_congr fun body => and_congr_right fun _ => ?_
      cases body with
      | none => simp
      | some _ => simp [checkValue_eq_ok_iff]
    · rw [if_neg hform, verdict_mapError_eq_ok_iff, Bindings.formText_isOk_iff,
        ← Bindings.forall_isSendable_iff]
      simp [hform]

theorem check_eq_error_iff [Record β] (demand : Demand) :
    demand.check client request = .error e ↔ demand.Blames client request e := by
  cases demand with
  | path => exact verdict_eq_error_iff.trans PathTemplate.resolve_eq_error_iff
  | address =>
    rw [Demand.check, Demand.Blames]
    cases request.path.resolve.result with
    | error _ => simp
    | ok resolved => simp [verdict_mapError_eq_error_iff]
  | query =>
    rw [Demand.check, Demand.Blames, verdict_mapError_eq_error_iff]
    simp only [Bindings.formText_eq_error_iff]
  | accept =>
    rw [Demand.check, Demand.Blames]
    cases Media.selectAccept request.accepts with
    | none => simp
    | some accept => simp [checkValue_eq_error_iff]
  | credentials =>
    rw [Demand.check, Demand.Blames, verdict_mapError_eq_error_iff]
    simp only [mapM_eq_error_iff]
  | headerTexts =>
    rw [Demand.check, Demand.Blames, verdict_mapError_eq_error_iff]
    simp only [Bindings.textPairs_eq_error_iff]
  | headerFields =>
    rw [Demand.check, Demand.Blames, verdict_eq_error_iff, mapM_eq_error_iff, firstError_iff]
    simp only [exists_eq_ok_unit, checkField_eq_ok_iff, checkField_eq_error_iff]
    constructor
    · rintro ⟨front, field, rest, hfields, hfront, text, htext, h⟩
      exact ⟨front, field, rest, text, hfields, hfront, htext, h⟩
    · rintro ⟨front, field, rest, text, hfields, hfront, htext, h⟩
      exact ⟨front, field, rest, hfields, hfront, text, htext, h⟩
  | body =>
    rw [Demand.check, Demand.Blames]
    by_cases hform : request.form.isEmpty
    · rw [if_pos hform, bind_eq_error]
      simp only [hform, Bool.true_eq_false, false_and, false_or, true_and]
      refine or_congr_right ?_
      constructor
      · rintro ⟨body, hencode, h⟩
        cases body with
        | none => cases h
        | some text => exact ⟨⟨text, hencode⟩, checkValue_eq_error_iff.mp h⟩
      · rintro ⟨⟨text, hencode⟩, h⟩
        exact ⟨some text, hencode, checkValue_eq_error_iff.mpr h⟩
    · rw [if_neg hform, verdict_mapError_eq_error_iff]
      simp [hform, Bindings.formText_eq_error_iff]

/-- A request is written down exactly if it meets every demand; else it fails as the first demand
says that it does not meet. -/
theorem wireRequest_outcome [Record β] (client : Client) (request : Request β) :
    ((∃ w, (client.wireRequest request).result = .ok w) ↔
      ∀ demand : Demand, demand.Holds client request) ∧
    ∀ e, (client.wireRequest request).result = .error e ↔ ∃ front demand rest,
      Demand.all = front ++ demand :: rest ∧ (∀ d ∈ front, d.Holds client request) ∧
      ¬ demand.Holds client request ∧ demand.Blames client request e := by
  have hall : ∀ demand : Demand, demand ∈ Demand.all := fun demand => by cases demand <;> decide
  constructor
  · rw [← verdict_eq_ok_iff, verdict_wireRequest, verdict_eq_ok_iff, mapM_isOk_iff]
    constructor
    · intro h demand
      obtain ⟨_, h⟩ := h demand (hall demand)
      exact (check_eq_ok_iff demand).mp h
    · intro h demand _
      exact ⟨(), (check_eq_ok_iff demand).mpr (h demand)⟩
  · intro e
    rw [← verdict_eq_error_iff, verdict_wireRequest, verdict_eq_error_iff, mapM_eq_error_iff,
      firstError_iff]
    constructor
    · rintro ⟨front, demand, rest, hdemands, hfront, h⟩
      refine ⟨front, demand, rest, hdemands, ?_, ?_, (check_eq_error_iff demand).mp h⟩
      · intro d hd
        obtain ⟨_, h⟩ := hfront d hd
        exact (check_eq_ok_iff d).mp h
      · intro hholds
        rw [(check_eq_ok_iff demand).mpr hholds] at h
        cases h
    · rintro ⟨front, demand, rest, hdemands, hfront, -, h⟩
      refine ⟨front, demand, rest, hdemands, ?_, (check_eq_error_iff demand).mpr h⟩
      exact fun d hd => ⟨(), (check_eq_ok_iff d).mpr (hfront d hd)⟩

end

end Client

end StoreClient
