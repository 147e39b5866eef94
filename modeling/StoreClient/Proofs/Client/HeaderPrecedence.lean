import StoreClient.Model.User
import StoreClient.Proofs.Client.Wire
import StoreClient.Proofs.NameMap
import StoreClient.Proofs.Param.Bindings

/-!
Which value a header of a request has. Headers are written one after another, each over those of its
name: first what is accepted, then the credentials, then what client and request bind. The last two
are merged before, and a merge goes by how a name is spelled: what a request binds takes the place
of what the client binds under the same spelling, and comes behind all of it under a new one. So the
client still decides where it binds several spellings of a name and the request does not bind the
last of them (`wireRequest_header`).
-/

namespace StoreClient

/-- The bindings of a header in their order, however it is spelled. -/
def Bindings.spelled (bindings : Bindings) (n : String) : List (String × Param) :=
  bindings.entries.filter (Header.lower ·.1 = n)

namespace Client

/-- What a request binds under a name decides: it binds a spelling that the client does not, or the
last of those that the client binds. -/
def Prevails (defaults called : Bindings) (n : String) : Prop :=
  (∃ e ∈ called.spelled n, e.1 ∉ defaults.names) ∨
    ∃ e, (defaults.spelled n).getLast? = some e ∧ e.1 ∈ called.names

/-- The value that the last scheme with a header gives to it. -/
def credentialValue? (client : Client) (authNames : List String) (n : String) : Option String :=
  Headers.last? (authNames.filterMap client.credentialHeader?) n

/-! ### Merging bindings -/

/-- The last value of a header is the text of its last binding. -/
theorem last?_of_texts {es : List (String × Param)} {fields : List (String × String)}
    (h : List.Forall₂ (fun e field => field.1 = e.1 ∧ e.2.text = .ok field.2) es fields)
    (n : String) :
    Option.Rel (fun e value => e.2.text = .ok value) (es.filter (Header.lower ·.1 = n)).getLast?
      (Headers.last? (fields.map fun field => (Header.lower field.1, field.2)) n) := by
  induction h with
  | nil => exact .none
  | @cons e field es fields hfield _ ih =>
    obtain ⟨hname, htext⟩ := hfield
    rw [List.map_cons, Headers.last?_cons, hname]
    by_cases h : Header.lower e.1 = n
    · rw [List.filter_cons_of_pos (by simpa using h), List.getLast?_cons, if_pos h]
      generalize (es.filter (Header.lower ·.1 = n)).getLast? = last at ih ⊢
      generalize Headers.last? (fields.map _) n = value at ih ⊢
      cases ih with
      | none => exact .some htext
      | some htext' => exact .some htext'
    · rw [List.filter_cons_of_neg (by simpa using h), if_neg h, Option.or_none]
      exact ih

section
variable {defaults called : Bindings} {n : String}

theorem mem_spelled {bindings : Bindings} {e : String × Param} :
    e ∈ bindings.spelled n ↔ e ∈ bindings.entries ∧ Header.lower e.1 = n := by
  rw [Bindings.spelled, List.mem_filter, decide_eq_true_iff]

theorem spelled_merge (defaults called : Bindings) (n : String) :
    Bindings.spelled (defaults.merge called) n =
      (defaults.spelled n).map (fun e => (e.1, (called.get? e.1).getD e.2)) ++
        (called.spelled n).filter (·.1 ∉ defaults.names) := by
  rw [Bindings.spelled, NameMap.entries_merge, List.filter_append, List.filter_map,
    List.filter_filter]
  refine congrArg₂ (· ++ ·) rfl ?_
  rw [Bindings.spelled, List.filter_filter]
  exact List.filter_congr fun e _ => Bool.and_comm _ _

/-- Where the request prevails, the last binding is one of its own. -/
theorem getLast?_merge_of_prevails (h : Prevails defaults called n) :
    ∃ e ∈ called.spelled n, (Bindings.spelled (defaults.merge called) n).getLast? = some e := by
  rw [spelled_merge, List.getLast?_append]
  cases hnew : ((called.spelled n).filter (·.1 ∉ defaults.names)).getLast? with
  | some e => exact ⟨e, (List.mem_filter.mp (List.mem_of_getLast? hnew)).1, rfl⟩
  | none =>
    rcases h with ⟨e, he, hname⟩ | ⟨e, hlast, hname⟩
    · rw [List.getLast?_eq_none_iff, List.filter_eq_nil_iff] at hnew
      exact (hnew e he (decide_eq_true hname)).elim
    · obtain ⟨param, hparam⟩ := NameMap.mem_names_iff.mp hname
      have hspelled := mem_spelled.mp (List.mem_of_getLast? hlast)
      refine ⟨(e.1, param), mem_spelled.mpr ⟨NameMap.get?_eq_some_iff.mp hparam, hspelled.2⟩, ?_⟩
      rw [Option.none_or, List.getLast?_map, hlast, Option.map_some, hparam, Option.getD_some]

/-- Where it does not, the last binding is that of the client. -/
theorem getLast?_merge_of_not_prevails (h : ¬ Prevails defaults called n) :
    (Bindings.spelled (defaults.merge called) n).getLast? = (defaults.spelled n).getLast? := by
  have hold : (called.spelled n).filter (·.1 ∉ defaults.names) = [] :=
    List.filter_eq_nil_iff.mpr fun e he hname => h (.inl ⟨e, he, of_decide_eq_true hname⟩)
  rw [spelled_merge, hold, List.append_nil, List.getLast?_map]
  cases hlast : (defaults.spelled n).getLast? with
  | none => rfl
  | some e =>
    have hname : e.1 ∉ called.names := fun hname => h (.inr ⟨e, hlast, hname⟩)
    rw [Option.map_some, NameMap.get?_eq_none_iff.mpr hname]
    rfl

/-- A request that binds a header and does not prevail binds only what the client binds as well. -/
theorem spelled_ne_nil_of_not_prevails (h : ¬ Prevails defaults called n)
    (hcalled : called.spelled n ≠ []) : defaults.spelled n ≠ [] := by
  obtain ⟨e, he⟩ := List.exists_mem_of_ne_nil _ hcalled
  have hname : e.1 ∈ defaults.names := by
    by_contra hname
    exact h (.inl ⟨e, he, hname⟩)
  obtain ⟨param, hparam⟩ := NameMap.mem_names_iff.mp hname
  refine List.ne_nil_of_mem (a := (e.1, param)) (mem_spelled.mpr ⟨?_, (mem_spelled.mp he).2⟩)
  exact NameMap.get?_eq_some_iff.mp hparam

theorem not_prevails_of_spelled_eq_nil (hcalled : called.spelled n = []) :
    ¬ Prevails defaults called n := by
  intro h
  obtain ⟨e, he, -⟩ := getLast?_merge_of_prevails h
  rw [hcalled] at he
  cases he

end

/-! ### The value of a header -/

theorem last?_writtenHeaders {β : Type} {client : Client} {request : Request β} {headers : Headers}
    (h : (client.writtenHeaders request).result = .ok headers) (n : String) : ∃ fields bound,
    headers = Headers.insertAll [] fields ∧
    Option.Rel (fun e value => e.2.text = .ok value)
      (Bindings.spelled (client.headers.merge request.headers) n).getLast? bound ∧
    Headers.last? fields n = bound.or ((client.credentialValue? request.authNames n).or
      (if n = "accept" then Media.selectAccept request.accepts else none)) := by
  obtain ⟨fields, hfields, hheaders⟩ := writtenHeaders_eq_ok h
  have htexts : List.Forall₂ (fun e field => field.1 = e.1 ∧ e.2.text = .ok field.2)
      (client.headers.merge request.headers).entries fields := Bindings.textPairs_eq_ok hfields
  have haccept : Headers.last? ((Media.selectAccept request.accepts).toList.map ("accept", ·)) n =
      if n = "accept" then Media.selectAccept request.accepts else none := by
    cases Media.selectAccept request.accepts with
    | none => exact (ite_self _).symm
    | some accept =>
      by_cases h : n = "accept"
      · simp [Headers.last?, h]
      · simp [Headers.last?, h, Ne.symm h]
  refine ⟨_, _, hheaders, last?_of_texts htexts n, ?_⟩
  rw [Headers.last?_append, Headers.last?_append, haccept]
  rfl

section
variable {β : Type} [Record β] {client : Client} {request : Request β} {w : WireRequest}
  (hw : (client.wireRequest request).result = .ok w) (hbody : w.body = none)
include hw hbody

theorem writtenHeaders_of_body_eq_none :
    (client.writtenHeaders request).result = .ok w.headers := by
  obtain ⟨-, -, headers, hwritten, hadd⟩ := wireRequest_eq_ok_iff.mp hw
  rw [hbody] at hadd
  rw [addBody_none_eq_ok hadd]
  exact hwritten

theorem get?_wireRequest (n : String) : ∃ bound,
    Option.Rel (fun e value => e.2.text = .ok value)
      (Bindings.spelled (client.headers.merge request.headers) n).getLast? bound ∧
    w.headers.get? n = bound.or ((client.credentialValue? request.authNames n).or
      (if n = "accept" then Media.selectAccept request.accepts else none)) := by
  obtain ⟨fields, bound, hheaders, hbound, hlast⟩ :=
    last?_writtenHeaders (writtenHeaders_of_body_eq_none hw hbody) n
  refine ⟨bound, hbound, ?_⟩
  rw [hheaders, Headers.get?_insertAll, hlast]
  exact Option.or_none

/-- The value of a header in a request without a body. What the request binds under the name is sent
where it prevails, and else what the client binds under a spelling that the request does not bind.
A header that neither binds has the value of the last scheme that gives it one, or is what is
accepted. No header has two values. -/
theorem wireRequest_header (n : String) :
    (Prevails client.headers request.headers n → ∃ e ∈ request.headers.spelled n, ∃ value,
      e.2.text = .ok value ∧ w.headers.get? n = some value) ∧
    (request.headers.spelled n ≠ [] → ¬ Prevails client.headers request.headers n →
      ∃ e ∈ client.headers.spelled n, e.1 ∉ request.headers.names ∧ ∃ value,
        e.2.text = .ok value ∧ w.headers.get? n = some value) ∧
    (request.headers.spelled n = [] → client.headers.spelled n ≠ [] →
      ∃ e ∈ client.headers.spelled n, ∃ value,
        e.2.text = .ok value ∧ w.headers.get? n = some value) ∧
    (request.headers.spelled n = [] → client.headers.spelled n = [] →
      w.headers.get? n = (client.credentialValue? request.authNames n).or
        (if n = "accept" then Media.selectAccept request.accepts else none)) ∧
    (w.headers.map (·.1)).Nodup := by
  obtain ⟨bound, hbound, hvalue⟩ := get?_wireRequest hw hbody n
  have hsome : ∀ {e},
      (Bindings.spelled (client.headers.merge request.headers) n).getLast? = some e →
      ∃ value, e.2.text = .ok value ∧ w.headers.get? n = some value := by
    intro e he
    rw [he] at hbound
    cases hbound with
    | some htext => exact ⟨_, htext, hvalue⟩
  have hdefault : ¬ Prevails client.headers request.headers n → client.headers.spelled n ≠ [] →
      ∃ e ∈ client.headers.spelled n, e.1 ∉ request.headers.names ∧ ∃ value,
        e.2.text = .ok value ∧ w.headers.get? n = some value := by
    intro hprevails hdefaults
    have hlast := List.getLast?_eq_some_getLast hdefaults
    refine ⟨_, List.getLast_mem hdefaults, fun hname => hprevails (.inr ⟨_, hlast, hname⟩), ?_⟩
    exact hsome ((getLast?_merge_of_not_prevails hprevails).trans hlast)
  refine ⟨?_, ?_, ?_, ?_, ?_⟩
  · intro h
    obtain ⟨e, he, hlast⟩ := getLast?_merge_of_prevails h
    exact ⟨e, he, hsome hlast⟩
  · intro hcalled h
    exact hdefault h (spelled_ne_nil_of_not_prevails h hcalled)
  · intro hcalled hdefaults
    obtain ⟨e, he, -, h⟩ := hdefault (not_prevails_of_spelled_eq_nil hcalled) hdefaults
    exact ⟨e, he, h⟩
  · intro hcalled hdefaults
    have hprevails : ¬ Prevails client.headers request.headers n :=
      not_prevails_of_spelled_eq_nil hcalled
    rw [getLast?_merge_of_not_prevails hprevails, hdefaults] at hbound
    cases hbound
    exact hvalue
  · obtain ⟨_, _, hheaders, -⟩ :=
      last?_writtenHeaders (writtenHeaders_of_body_eq_none hw hbody) n
    rw [hheaders]
    exact @Headers.nodup_insertAll [] List.nodup_nil _

end

/-- A request that binds a header once. -/
def binding (name text : String) : Request User where
  operation := "sample"
  method := .get
  path := .ofString "/x"
  headers := .ofList [(name, .ofText text)]

/-- A client that binds headers to texts. -/
def sending (fields : List (String × String)) : Client where
  baseUri := "http://petstore.swagger.io:80/v2"
  credentials := .empty
  headers := .ofList (fields.map fun field => (field.1, .ofText field.2))

/-- What is sent when the only header is the given one. -/
def sent (name text : String) : WireRequest where
  method := .get
  url := {
    scheme := .http
    user := []
    password := []
    host := .domain "petstore.swagger.io".toList
    port := none
    path := ["v2".toList, "x".toList]
    query := none
    fragment := none }
  headers := [(name, text)]
  body := none

/-- A new spelling of the request prevails over that of the client. -/
theorem wireRequest_header_respelled :
    ((sending [("x-a", "default")]).wireRequest (binding "X-A" "call")).result =
        .ok (sent "x-a" "call") ∧
      ∃ e ∈ (binding "X-A" "call").headers.spelled "x-a", e.2.text = .ok "call" := by
  have hw : ((sending [("x-a", "default")]).wireRequest (binding "X-A" "call")).result =
      .ok (sent "x-a" "call") := by rfl
  have hprevails : Prevails (sending [("x-a", "default")]).headers (binding "X-A" "call").headers
      "x-a" := .inl ⟨("X-A", .ofText "call"), List.mem_singleton_self _, by decide⟩
  obtain ⟨e, he, value, htext, hvalue⟩ := (wireRequest_header hw rfl "x-a").1 hprevails
  cases hvalue
  exact ⟨hw, e, he, htext⟩

/-- What the client binds under its last spelling is sent although the request binds the first. -/
theorem wireRequest_header_displaced :
    ((sending [("X-A", "first"), ("x-a", "last")]).wireRequest (binding "X-A" "call")).result =
        .ok (sent "x-a" "last") ∧
      ∀ e ∈ (binding "X-A" "call").headers.spelled "x-a", e.2.text ≠ .ok "last" := by
  refine ⟨by rfl, ?_⟩
  intro e he
  cases List.mem_singleton.mp he
  exact fun h => absurd (Except.ok.inj h) (by decide)

end Client

end StoreClient
