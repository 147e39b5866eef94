import StoreClient.Model.User
import StoreClient.Proofs.Client.Wire
import StoreClient.Proofs.Param.Sendable
import StoreClient.Proofs.Text.Form

/-!
Queries and forms are received as they were bound. Bindings that can be sent have a text from which
each name is read back with each of the texts of its parameter, whatever the names and texts are
(`Bindings.decode_formText`). A query stands in the address as this text, since none of its
characters is escaped there (`Url.setQuery_encode`); a form is the body as it is
(`Client.decode_query_and_form`).
-/

namespace StoreClient

/-! ### Bindings -/

namespace Bindings

/-- The pairs that one binding is sent as. -/
def pairsOf (e : String × Param) : List (String × String) :=
  (e.2.queryTexts.toOption.getD []).map (e.1, ·)

theorem eq_pairsOf_iff {e : String × Param} {pairs : List (String × String)} :
    (do return (← e.2.queryTexts).map fun text => (e.1, text)) = Except.ok pairs ↔
      e.2.isSendable ∧ pairs = pairsOf e := by
  rw [← Param.queryTexts_isOk_iff, bind_eq_ok]
  constructor
  · rintro ⟨texts, htexts, h⟩
    cases h
    refine ⟨⟨texts, htexts⟩, ?_⟩
    rw [pairsOf, htexts]
    rfl
  · rintro ⟨⟨texts, htexts⟩, rfl⟩
    refine ⟨texts, htexts, ?_⟩
    rw [pairsOf, htexts]
    rfl

section
variable {bindings : Bindings}

/-- Bindings that can all be sent give the pairs of each, one after another. -/
theorem queryPairs_eq_ok_iff {pairs : List (String × String)} :
    bindings.queryPairs = .ok pairs ↔
      (∀ e ∈ bindings.entries, e.2.isSendable) ∧ pairs = bindings.entries.flatMap pairsOf := by
  have hgroups : ∀ groups, (bindings.entries.mapM fun e => do
      return (← e.2.queryTexts).map fun text => (e.1, text)) = Except.ok groups ↔
        (∀ e ∈ bindings.entries, e.2.isSendable) ∧ groups = bindings.entries.map pairsOf := by
    intro groups
    have hown : ∀ {es : List (String × Param)} {groups : List (List (String × String))},
        List.Forall₂ (fun e pairs => pairs = pairsOf e) es groups ↔ groups = es.map pairsOf := by
      intro es groups
      induction es generalizing groups with
      | nil => simp
      | cons e es ih => cases groups <;> simp [ih]
    rw [mapM_eq_ok]
    simp only [eq_pairsOf_iff, List.forall₂_and_left, hown]
  rw [queryPairs, bind_eq_ok]
  constructor
  · rintro ⟨groups, h, hpairs⟩
    obtain ⟨hsendable, rfl⟩ := (hgroups groups).mp h
    cases hpairs
    exact ⟨hsendable, rfl⟩
  · rintro ⟨hsendable, rfl⟩
    exact ⟨_, (hgroups _).mpr ⟨hsendable, rfl⟩, rfl⟩

theorem formText_eq_ok_iff {text : String} : bindings.formText = .ok text ↔
    ∃ pairs, bindings.queryPairs = .ok pairs ∧ text = String.ofList (Form.encode pairs) := by
  rw [formText, bind_eq_ok]
  constructor
  · rintro ⟨pairs, hpairs, h⟩
    cases h
    exact ⟨pairs, hpairs, rfl⟩
  · rintro ⟨pairs, hpairs, rfl⟩
    exact ⟨pairs, hpairs, rfl⟩

/-- A text that bindings are sent as, from which the pairs of each binding are read back and nothing
else. -/
structure Conveys (bindings : Bindings) (text : String) : Prop where
  formText_eq : bindings.formText = .ok text
  queryPairs_eq : bindings.queryPairs = .ok (bindings.entries.flatMap pairsOf)
  decode_eq : Form.decode text.toList = .ok (bindings.entries.flatMap pairsOf)

theorem conveys_iff {text : String} : bindings.Conveys text ↔ bindings.formText = .ok text := by
  constructor
  · intro h
    exact h.formText_eq
  · intro h
    obtain ⟨pairs, hpairs, rfl⟩ := formText_eq_ok_iff.mp h
    obtain ⟨-, rfl⟩ := queryPairs_eq_ok_iff.mp hpairs
    refine ⟨h, hpairs, ?_⟩
    rw [String.toList_ofList]
    exact Form.decode_encode _

theorem exists_conveys (h : ∀ e ∈ bindings.entries, e.2.isSendable) :
    ∃ text, bindings.Conveys text :=
  ⟨_, conveys_iff.mpr (formText_eq_ok_iff.mpr ⟨_, queryPairs_eq_ok_iff.mpr ⟨h, rfl⟩, rfl⟩)⟩

end

end Bindings

/-! ### Addresses -/

namespace Url

theorem isQuerySafe_of_isWritten (special : Bool) {c : Char} (h : Form.isWritten c) :
    isQuerySafe special c ∧ ['\t', '\n', '\r'].elem c = false := by
  rcases (Bool.or_eq_true _ _).mp h with halnum | hmark
  · have hne : ∀ d, d.isAlphanum = false → c ≠ d := by
      rintro d hd rfl
      rw [hd] at halnum
      cases halnum
    have hbounds := toNat_of_isAlphanum halnum
    simp [isQuerySafe, isControl, hne]
    omega
  · have hmarks : ['*', '-', '.', '_', '+', '%', '=', '&'].all (fun d =>
        isQuerySafe special d && !(['\t', '\n', '\r'].elem d)) := by cases special <;> rfl
    simpa using List.all_eq_true.mp hmarks c (List.mem_of_elem_eq_true hmark)

/-- A form is the query of an address as it is. -/
theorem setQuery_encode (url : Url) (pairs : List (String × String)) :
    url.setQuery (Form.encode pairs) = { url with query := some (Form.encode pairs) } := by
  have hwritten : ∀ c ∈ Form.encode pairs, Form.isWritten c :=
    fun c hc => Form.isWritten_of_mem_encode hc
  have hbreaks : dropBreaks (Form.encode pairs) = Form.encode pairs := by
    apply List.filter_eq_self.mpr
    intro c hc
    rw [(isQuerySafe_of_isWritten url.scheme.isSpecial (hwritten c hc)).2]
    rfl
  have hsafe : ∀ c ∈ Form.encode pairs, isQuerySafe url.scheme.isSpecial c :=
    fun c hc => (isQuerySafe_of_isWritten _ (hwritten c hc)).1
  rw [setQuery, hbreaks, Percent.encode_of_forall hsafe]

end Url

namespace Client

section
variable {β : Type} {client : Client} {request : Request β}

theorem query_of_url {url : Url} (hurl : (client.url request).result = .ok url)
    (hquery : request.query.isEmpty = false) :
    ∃ text, request.query.formText = .ok text ∧ url.query = some text.toList := by
  rw [Client.url, Logged.result_bind_eq_ok] at hurl
  obtain ⟨path, -, hurl⟩ := hurl
  rw [Logged.result_bind_eq_ok] at hurl
  obtain ⟨url', -, hurl⟩ := hurl
  rw [hquery, if_neg Bool.false_ne_true, Logged.result_bind_eq_ok] at hurl
  obtain ⟨text, htext, hurl⟩ := hurl
  rw [Logged.result_ofExcept, mapError_eq_ok] at htext
  cases hurl
  refine ⟨text, htext, ?_⟩
  obtain ⟨pairs, -, rfl⟩ := Bindings.formText_eq_ok_iff.mp htext
  rw [String.toList_ofList, Url.setQuery_encode]

/-- Bindings whose values can all be sent have a text, and their pairs are read back from it: each
name with each text of its value, in the order of the bindings. The query of an address and the body
that a form makes are this text. -/
theorem decode_query_and_form [Record β] (client : Client) (request : Request β) :
    (∀ bindings : Bindings, (∀ e ∈ bindings.entries, e.2.isSendable) →
      ∃ text, bindings.Conveys text) ∧
    (∀ url, (client.url request).result = .ok url → request.query.isEmpty = false →
      ∃ text, request.query.Conveys text ∧ url.query = some text.toList) ∧
    (∀ w, (client.wireRequest request).result = .ok w → request.form.isEmpty = false →
      ∃ text, request.form.Conveys text ∧ w.body = some text) := by
  refine ⟨?_, ?_, ?_⟩
  · intro bindings h
    exact Bindings.exists_conveys h
  · intro url hurl hquery
    obtain ⟨text, htext, hurl⟩ := query_of_url hurl hquery
    exact ⟨text, Bindings.conveys_iff.mpr htext, hurl⟩
  · intro w hw hform
    obtain ⟨-, -, headers, -, hadd⟩ := wireRequest_eq_ok_iff.mp hw
    obtain ⟨text, htext, hbody, -⟩ := (addBody_form_eq_ok_iff hform).mp hadd
    exact ⟨text, Bindings.conveys_iff.mpr htext, hbody⟩

end

/-- A request in which names and values are made of the marks of a form. -/
def marked : Request User where
  operation := "sample"
  method := .post
  path := .ofString "/x"
  query := .ofList [("a&b=c", .ofText "1+1=2 & é😀"), ("", .ofText ""),
    ("tags", .ofList [.text "&", .text "+"])]
  form := .ofList [("", .ofText "=&%"), ("none", .ofList [])]

/-- The address of that request. -/
def markedUrl : Url :=
  { Url.preset ["v2".toList, "x".toList] with
    query := some
      "a%26b%3Dc=1%2B1%3D2+%26+%C3%A9%F0%9F%98%80&=&tags=%26&tags=%2B".toList }

/-- Marks in names and values neither end a pair nor start one. -/
theorem decode_query_and_form_marked :
    (∃ text, marked.query.Conveys text) ∧
    (∃ url text, (preset.url marked).result = .ok url ∧ url.query = some text ∧
      Form.decode text =
        .ok [("a&b=c", "1+1=2 & é😀"), ("", ""), ("tags", "&"), ("tags", "+")]) ∧
    ∃ w text, (preset.wireRequest marked).result = .ok w ∧ w.body = some text ∧
      Form.decode text.toList = .ok [("", "=&%")] := by
  have hurl : (preset.url marked).result = .ok markedUrl := by rfl
  have hw : (preset.wireRequest marked).result = .ok {
      method := .post
      url := markedUrl
      headers := [("content-type", Media.applicationForm)]
      body := some "=%3D%26%25" } :=
    wireRequest_eq_ok_iff.mpr ⟨rfl, hurl, [], rfl, by rfl⟩
  obtain ⟨hsendable, hquery, hform⟩ := decode_query_and_form preset marked
  obtain ⟨text, htext, htexts⟩ := hquery _ hurl rfl
  obtain ⟨body, hbody, hbodies⟩ := hform _ hw rfl
  refine ⟨hsendable marked.query (by decide), ?_, ?_⟩
  · exact ⟨_, _, hurl, htexts, htext.decode_eq⟩
  · exact ⟨_, _, hw, hbodies, hbody.decode_eq⟩

end Client

end StoreClient
