import StoreClient.Proofs.Client.UserAddress
import StoreClient.Proofs.Client.Warnings
import StoreClient.Proofs.Operation.Arguments

/-!
The requests that calls make. A call binds arguments of its path, a query or a payload, and leaves
all else as its operation has it (`Call.describes_request`). Its path has an argument for every
placeholder and no other, so that it resolves, and resolves into slashes, letters, digits and
escapes, whatever the arguments are (`PathTemplate.IsSettled`).
-/

namespace StoreClient

/-! ### Paths -/

/-- Slashes, letters, digits and the percent signs of escapes. -/
def PathTemplate.IsPathChar (c : Char) : Prop := c = '/' ∨ c = '%' ∨ c.isAlphanum

/-- A path that resolves, in which every argument takes part. -/
structure PathTemplate.IsSettled (path : PathTemplate) : Prop where
  resolves : ∃ text, path.resolve.result = .ok text ∧ ∀ c ∈ text.toList, IsPathChar c
  noneUnused : path.unusedArguments (placeholders path.template) = []

namespace PathTemplate

/-- A path without placeholders is its own text. -/
theorem isSettled_ofString {template : String}
    (h : template.toList.all fun c => c == '/' || c.isAlphanum) :
    (ofString template).IsSettled := by
  have h : ∀ c ∈ template.toList, c = '/' ∨ c.isAlphanum := by simpa using h
  let ps := template.toList.map Piece.char
  have hps : ∀ p ∈ ps, p.Valid := by
    intro p hp
    obtain ⟨c, hc, rfl⟩ := List.mem_map.mp hp
    have hbraces : ∀ d, (d = '/' ∨ d.isAlphanum) → d ≠ '\x7b' ∧ d ≠ '\x7d' := by
      rintro d hd
      constructor <;> (rintro rfl; revert hd; decide)
    exact hbraces c (h c hc)
  have hnames : names ps = [] := by
    rw [names, List.filterMap_map, List.filterMap_eq_nil_iff]
    exact fun _ _ => rfl
  have htext : ps.flatMap (Piece.fill id) = template.toList := by
    rw [List.flatMap_map]
    exact List.flatMap_singleton' _
  have hresolve := @resolve_eq_ok (ofString template) ps id hps (render_map_char _).symm
    (fun name hname => (List.not_mem_nil (hnames ▸ hname)).elim)
  rw [htext, String.ofList_toList] at hresolve
  exact ⟨⟨template, hresolve, fun c hc => (h c hc).imp_right .inr⟩, rfl⟩

theorem isSettled_user (username : String) :
    ((ofString "/user/\x7busername\x7d").insert "username" (.ofText username)).IsSettled where
  resolves := by
    refine ⟨_, resolve_user username, fun c hc => ?_⟩
    have huser : ∀ c ∈ "/user/".toList, IsPathChar c :=
      List.forall_iff_forall_mem.mp (by simp [IsPathChar])
    rw [String.toList_ofList] at hc
    rcases List.mem_append.mp hc with hc | hc
    · exact huser c hc
    · exact .inr (of_mem_encodeValue hc)
  noneUnused := by
    have hname : "username" ∈ placeholders "/user/\x7busername\x7d" := by decide
    have hunused : ["username"].filter (· ∉ placeholders "/user/\x7busername\x7d") = [] :=
      List.filter_cons_of_neg (by simpa using hname)
    exact congrArg (List.map Warning.unusedArgument) hunused

end PathTemplate

/-! ### Requests -/

theorem Bindings.isSendable_insert {bindings : Bindings} {name : String} {param : Param}
    (h : ∀ name param, bindings.get? name = some param → param.isSendable)
    (hparam : param.isSendable) :
    ∀ n p, (bindings.insert name param).get? n = some p → p.isSendable := by
  intro n p hp
  rw [NameMap.get?_insert] at hp
  split at hp
  · cases hp
    exact hparam
  · exact h n p hp

namespace Call

/-- What the request of a call consists of. -/
structure Describes (call : Call) (request : Request User) : Prop where
  method : request.method = call.operation.method
  path : request.path.IsSettled
  query : ∀ name param, request.query.get? name = some param → param.isSendable
  headers : request.headers = .empty
  form : request.form = .empty
  payload : request.payload.isNone = false ↔ "body" ∈ call.operation.required
  contentTypes : request.contentTypes = []
  accepts : ∀ accept, Media.selectAccept request.accepts = some accept → Header.IsValue accept
  authNames : request.authNames = []

theorem isValue_of_selectAccept (call : Call) {accept : String}
    (h : Media.selectAccept call.operation.accepts = some accept) : Header.IsValue accept := by
  have hnone : call.operation.accepts = [] ∨
      Media.selectAccept call.operation.accepts = some Media.applicationJson := by
    cases call with
    | getUserByName _ | loginUser _ _ | fooGet => exact .inr rfl
    | _ => exact .inl rfl
  rcases hnone with hnone | hjson
  · rw [hnone] at h
    cases h
  · cases hjson.symm.trans h
    exact List.all_eq_true.mp rfl

/-- A path, a query and a payload are all that a call adds to what its operation fixes. -/
theorem describes_of {call : Call} (path : PathTemplate) (query : Bindings)
    (payload : Payload User) (hpath : path.IsSettled)
    (hquery : ∀ name param, query.get? name = some param → param.isSendable)
    (hpayload : payload.isNone = false ↔ "body" ∈ call.operation.required) :
    call.Describes
      { (call.operation.request call.returnType : Request User) with path, query, payload } where
  method := rfl
  path := hpath
  query := hquery
  headers := rfl
  form := rfl
  payload := hpayload
  contentTypes := by cases call <;> rfl
  accepts _ h := call.isValue_of_selectAccept h
  authNames := by cases call <;> rfl

theorem isSettled_path {call : Call}
    (h : call.operation.path.toList.all fun c => c == '/' || c.isAlphanum) :
    (PathTemplate.ofString call.operation.path).IsSettled :=
  PathTemplate.isSettled_ofString h

theorem describes_request {call : Call} {request : Request User}
    (h : call.request = .ok request) : call.Describes request := by
  have hempty : ∀ name param, (NameMap.empty : Bindings).get? name = some param →
      param.isSendable := fun _ _ h => nomatch h
  cases call with
  | logoutUser | fooGet =>
    cases h
    exact describes_of _ _ .none (isSettled_path (by rfl)) hempty (by decide)
  | createUser body | createUsersWithArrayInput body | createUsersWithListInput body =>
    cases body <;> cases h
    exact describes_of _ _ _ (isSettled_path (by dsimp only [operation]; rfl)) hempty
      (iff_of_true rfl List.mem_cons_self)
  | deleteUser username | getUserByName username =>
    cases username <;> cases h
    exact describes_of _ _ .none (PathTemplate.isSettled_user _) hempty
      (by dsimp only [operation]; decide)
  | loginUser username password =>
    cases username <;> cases password <;> cases h
    exact describes_of _ _ .none (isSettled_path (by dsimp only [operation]; rfl))
      (Bindings.isSendable_insert (Bindings.isSendable_insert hempty rfl) rfl)
      (by dsimp only [operation]; decide)
  | updateUser username body =>
    cases username <;> cases body <;> cases h
    exact describes_of _ _ _ (PathTemplate.isSettled_user _) hempty
      (iff_of_true rfl (List.mem_cons_of_mem _ List.mem_cons_self))

end Call

end StoreClient
