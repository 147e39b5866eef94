import StoreClient.Proofs.NameMap
import StoreClient.Proofs.Operation.Request

/-!
What callers add to a request. Each extra belongs to one category and leaves every other part of the
request alone, so that a list of extras amounts to one list for each category (`extendAll_eq`): it
does not matter how the categories are interleaved, only how each of them is ordered in itself
(`request_extendAll`).
-/

namespace StoreClient

namespace Request

namespace Extra

/-! ### Categories -/

def header? : Extra → Option (String × Param)
  | .header name param => some (name, param)
  | _ => none

def query? : Extra → Option (String × Param)
  | .query name param => some (name, param)
  | _ => none

def form? : Extra → Option (String × Param)
  | .form name param => some (name, param)
  | _ => none

def auth? : Extra → Option String
  | .auth name => some name
  | _ => none

def contentType? : Extra → Option String
  | .contentType name => some name
  | _ => none

/-- Whether two lists hold the same extras of each category in the same order. -/
structure Interleaved (extras extras' : List Extra) : Prop where
  headers : extras.filterMap header? = extras'.filterMap header?
  query : extras.filterMap query? = extras'.filterMap query?
  form : extras.filterMap form? = extras'.filterMap form?
  authNames : extras.filterMap auth? = extras'.filterMap auth?
  contentTypes : extras.filterMap contentType? = extras'.filterMap contentType?

end Extra

variable {β : Type}

/-- One list of extras is one list for each category. -/
theorem extendAll_eq (base : Request β) (extras : List Extra) :
    base.extendAll extras = { base with
      headers := base.headers.insertAll (extras.filterMap Extra.header?)
      query := base.query.insertAll (extras.filterMap Extra.query?)
      form := base.form.insertAll (extras.filterMap Extra.form?)
      authNames := (extras.filterMap Extra.auth?).foldl NameMap.addName base.authNames
      contentTypes := (extras.filterMap Extra.contentType?).foldl (fun _ contentType =>
        [contentType]) base.contentTypes } := by
  induction extras generalizing base with
  | nil => rfl
  | cons extra extras ih =>
    refine (ih (base.extend extra)).trans ?_
    cases extra with
    | auth name =>
      have hauth : base.withAuth name =
          { base with authNames := NameMap.addName base.authNames name } := by
        rw [withAuth, NameMap.addName]
        split <;> rfl
      rw [extend, hauth]
      rfl
    | _ => rfl

/-- What has become of a request that some extras have been added to. -/
structure Extends (base : Request β) (extras : List Extra) (request : Request β) : Prop where
  operation : request.operation = base.operation
  method : request.method = base.method
  path : request.path = base.path
  payload : request.payload = base.payload
  accepts : request.accepts = base.accepts
  returnType : request.returnType = base.returnType
  headers : base.headers.Accumulates (extras.filterMap Extra.header?) request.headers
  query : base.query.Accumulates (extras.filterMap Extra.query?) request.query
  form : base.form.Accumulates (extras.filterMap Extra.form?) request.form
  /-- Schemes that are new come last, each where it is first asked for. -/
  authNames : request.authNames = base.authNames ++
    ((extras.filterMap Extra.auth?).filter (· ∉ base.authNames)).eraseDups
  /-- The last content type is the only one. -/
  contentTypes : request.contentTypes =
    match (extras.filterMap Extra.contentType?).getLast? with
    | some contentType => [contentType]
    | none => base.contentTypes

theorem foldl_last (first : List String) (added : List String) :
    added.foldl (fun _ a => [a]) first =
      match added.getLast? with
      | some a => [a]
      | none => first := by
  induction added generalizing first with
  | nil => rfl
  | cons a added ih =>
    rw [List.foldl_cons, ih, List.getLast?_cons]
    cases added.getLast? <;> rfl

theorem extends_extendAll (base : Request β) (extras : List Extra) :
    base.Extends extras (base.extendAll extras) := by
  rw [extendAll_eq]
  exact {
    operation := rfl
    method := rfl
    path := rfl
    payload := rfl
    accepts := rfl
    returnType := rfl
    headers := NameMap.accumulates_insertAll ..
    query := NameMap.accumulates_insertAll ..
    form := NameMap.accumulates_insertAll ..
    authNames := NameMap.foldl_addName ..
    contentTypes := foldl_last .. }

theorem extendAll_congr (base : Request β) {extras extras' : List Extra}
    (h : Extra.Interleaved extras extras') : base.extendAll extras = base.extendAll extras' := by
  rw [extendAll_eq, extendAll_eq, h.headers, h.query, h.form, h.authNames, h.contentTypes]

end Request

namespace Call

open Request (Extra)

/-- No call asks for credentials of its own accord. -/
theorem authNames_request {call : Call} {base : Request User} (h : call.request = .ok base) :
    base.authNames = [] :=
  (describes_request h).authNames

/-- A call with all required arguments is a request, and extras change only what they are for:
bindings are added to the headers, the query or the form, schemes are appended once each, and the
last content type replaces all others. How extras of different categories are interleaved makes no
difference. -/
theorem request_extendAll {call : Call} (h : call.IsComplete) :
    ∃ base, call.request = .ok base ∧ ∀ extras : List Extra,
      base.Extends extras (base.extendAll extras) ∧ (base.extendAll extras).authNames.Nodup ∧
      ∀ extras', Extra.Interleaved extras extras' →
        base.extendAll extras = base.extendAll extras' := by
  have hcall := call.request_eq
  rw [missing?_eq_none_iff.mpr h] at hcall
  obtain ⟨base, hbase⟩ := hcall
  refine ⟨base, hbase, fun extras => ?_⟩
  have hextends := base.extends_extendAll extras
  refine ⟨hextends, ?_, fun extras' => base.extendAll_congr⟩
  rw [hextends.authNames, authNames_request hbase]
  exact nodup_eraseDups _

/-- Extras of all categories in a muddle: a name twice, schemes asked for twice, two content types. -/
def muddled : List Extra := [
  .auth "b", .query "page" (.ofText "2"), .contentType "text/xml", .auth "a",
  .header "X-A" (.ofText "1"), .query "username" (.ofText "user2"), .auth "b",
  .contentType "text/plain", .query "page" (.ofText "3")]

/-- The same extras, category by category. -/
def sorted : List Extra := [
  .header "X-A" (.ofText "1"), .query "page" (.ofText "2"), .query "username" (.ofText "user2"),
  .query "page" (.ofText "3"), .auth "b", .auth "a", .auth "b", .contentType "text/xml",
  .contentType "text/plain"]

theorem request_extendAll_muddled : ∃ base,
    (loginUser (some "user1") (some "secret")).request = .ok base ∧
    (base.extendAll muddled).query.names = ["username", "password", "page"] ∧
    (base.extendAll muddled).query.get? "page" = some (.ofText "3") ∧
    (base.extendAll muddled).authNames = ["b", "a"] ∧
    (base.extendAll muddled).contentTypes = ["text/plain"] ∧
    base.extendAll muddled = base.extendAll sorted := by
  obtain ⟨base, hbase, h⟩ :=
    @request_extendAll (loginUser (some "user1") (some "secret")) (by decide)
  obtain ⟨hextends, -, hsorted⟩ := h muddled
  refine ⟨base, hbase, ?_⟩
  cases hbase
  exact ⟨hextends.query.names.trans (by decide), (hextends.query.get? "page").trans (by rfl),
    hextends.authNames.trans (by decide), hextends.contentTypes,
    hsorted sorted ⟨rfl, rfl, rfl, rfl, rfl⟩⟩

end Call

end StoreClient
