import StoreClient.Client.Wire
import StoreClient.Proofs.Logged
import StoreClient.Proofs.Request.Filling
import StoreClient.Proofs.Request.Occurrence

/-!
What a caller is told of a request. While a request is written down there is one warning for each
thing that it binds in vain: arguments of which no placeholder is found in its path, schemes that
the client has no credentials for, and a payload behind form fields, in this order and nothing else.
A request that is refused has raised those that come before the point where it is refused
(`Client.wireRequest_warnings`).
-/

namespace StoreClient

namespace PathTemplate

/-- A warning for each argument whose name is none of those that the path asks for. -/
def unusedArguments (path : PathTemplate) (names : List String) : List Warning :=
  (path.args.names.filter (· ∉ names)).map .unusedArgument

theorem unusedArguments_congr (path : PathTemplate) {names names' : List String}
    (h : ∀ {name}, name ∈ names ↔ name ∈ names') :
    path.unusedArguments names = path.unusedArguments names' := by
  simp only [unusedArguments, h]

theorem fill_raises {args : List (String × Param)} (hargs : (args.map (·.1)).Nodup)
    (path : List Char) (names : List String) :
    (fill path names args).Raises
      (((args.map (·.1)).filter (· ∉ names)).map .unusedArgument) := by
  induction args generalizing path names with
  | nil => exact .of_pure _
  | cons arg args ih =>
    obtain ⟨name, param⟩ := arg
    obtain ⟨hname, hargs⟩ := List.nodup_cons.mp hargs
    rw [fill, List.map_cons]
    by_cases h : name ∈ names
    · -- the name is not asked for any more, and no argument after it has it
      have hrest : (args.map (·.1)).filter (· ∉ names.erase name) =
          (args.map (·.1)).filter (· ∉ names) := by
        apply List.filter_congr
        intro n hn
        have hne : n ≠ name := fun h => hname (h ▸ hn)
        simp only [List.mem_erase_of_ne hne]
      rw [if_pos h, List.filter_cons_of_neg (by simpa using h), ← hrest]
      exact .bind_left (.of_ofExcept _) fun text _ => ih hargs _ _
    · rw [if_neg h, List.filter_cons_of_pos (by simpa using h), List.map_cons]
      exact .bind (.of_warn (.unusedArgument name)) fun _ _ => ih hargs path names

theorem resolve_raises (path : PathTemplate) :
    path.resolve.Raises (path.unusedArguments (placeholders path.template)) := by
  refine .bind_right (fill_raises path.args.distinct _ _) fun (text, missing) => ?_
  dsimp only
  by_cases h : missing.isEmpty
  · rw [if_pos h]
    exact .of_pure _
  · rw [if_neg h]
    exact .of_ofExcept _

end PathTemplate

namespace Client

variable {β : Type}

/-- A warning for each scheme without credentials, as often as it is asked for. -/
def unknownSchemes (client : Client) (authNames : List String) : List Warning :=
  (authNames.filter fun scheme => (client.credentials.get? scheme).isNone).map .unknownScheme

/-- A warning for a payload behind form fields. -/
def ignoredPayload (request : Request β) : List Warning :=
  if request.form.isEmpty || request.payload.isNone then [] else [.ignoredPayload]

theorem url_raises (client : Client) (request : Request β) : (client.url request).Raises
    (request.path.unusedArguments (PathTemplate.placeholders request.path.template)) := by
  refine .bind_right request.path.resolve_raises fun path => ?_
  refine .bind_left (.of_ofExcept _) fun url _ => ?_
  by_cases h : request.query.isEmpty
  · rw [if_pos h]
    exact .of_pure url
  · rw [if_neg h]
    exact .bind_left (.of_ofExcept _) fun _ _ => .of_pure _

theorem headerValue_raises (text : String) : (headerValue text).Raises [] := .of_ofExcept _

theorem addAccept_raises (accepts : List String) (headers : Headers) :
    (addAccept accepts headers).Raises [] := by
  rw [addAccept]
  cases Media.selectAccept accepts with
  | none => exact .of_pure headers
  | some accept => exact .bind_left (headerValue_raises accept) fun _ _ => .of_pure _

theorem addCredentials_raises (client : Client) (authNames : List String) (headers : Headers) :
    (client.addCredentials authNames headers).Raises (client.unknownSchemes authNames) := by
  induction authNames generalizing headers with
  | nil => exact .of_pure headers
  | cons scheme rest ih =>
    rw [addCredentials, unknownSchemes]
    cases hcredential : client.credentials.get? scheme with
    | none =>
      rw [List.filter_cons_of_pos (by rw [hcredential]; rfl), List.map_cons]
      exact .bind (.of_warn (.unknownScheme scheme)) fun _ _ => ih headers
    | some credential =>
      rw [List.filter_cons_of_neg (by rw [hcredential]; exact Bool.false_ne_true)]
      exact .bind_left (.of_ofExcept _) fun (_, _) _ => ih _

theorem addBound_raises (fields : List (String × String)) (headers : Headers) :
    (addBound fields headers).Raises [] := by
  induction fields generalizing headers with
  | nil => exact .of_pure headers
  | cons field rest ih =>
    exact .bind_left (.of_ofExcept _) fun _ _ =>
      .bind_left (headerValue_raises field.2) fun _ _ => ih _

theorem addBody_raises [Record β] (request : Request β) (headers : Headers) :
    (addBody request headers).Raises (ignoredPayload request) := by
  rw [addBody, ignoredPayload]
  by_cases hform : request.form.isEmpty
  · rw [if_pos hform, hform, Bool.true_or, if_pos rfl]
    refine .bind_left (.of_ofExcept _) fun body _ => ?_
    cases body with
    | none => exact .of_pure _
    | some body => exact .bind_left (headerValue_raises _) fun _ _ => .of_pure _
  · rw [if_neg hform, Bool.eq_false_iff.mpr hform, Bool.false_or]
    cases request.payload.isNone with
    | true => exact .bind_left (.of_ofExcept _) fun _ _ => .of_pure _
    | false =>
      exact .bind_right (.of_warn .ignoredPayload) fun _ =>
        .bind_left (.of_ofExcept _) fun _ _ => .of_pure _

/-- A warning for each thing that a request binds in vain whose path asks for some names. -/
def skipped (client : Client) (request : Request β) (names : List String) : List Warning :=
  request.path.unusedArguments names ++ client.unknownSchemes request.authNames ++
    ignoredPayload request

theorem wireRequest_raises [Record β] (client : Client) (request : Request β) :
    (client.wireRequest request).Raises
      (client.skipped request (PathTemplate.placeholders request.path.template)) := by
  rw [skipped, List.append_assoc]
  refine .bind (client.url_raises request) fun url _ => ?_
  refine .bind_left (addAccept_raises _ _) fun headers _ => ?_
  refine .bind (client.addCredentials_raises _ _) fun headers _ => ?_
  refine .bind_left (.of_ofExcept _) fun fields _ => ?_
  refine .bind_left (addBound_raises _ _) fun headers _ => ?_
  exact .bind_right (addBody_raises _ _) fun (_, _) => .of_pure _

/-- Each thing that a request binds in vain is reported once, and nothing else is: all of them in
their order if the request is written down, and else those before the point where it is refused. The
names that its path asks for are those that the one search finds in it. -/
theorem wireRequest_warnings [Record β] (client : Client) (request : Request β) :
    ∃ found : List (Nat × String),
      (∀ found', PathTemplate.Found 0 request.path.template.toList found' ↔ found' = found) ∧
      (∀ w, (client.wireRequest request).result = .ok w →
        (client.wireRequest request).warnings = client.skipped request (found.map (·.2))) ∧
      ∀ e, (client.wireRequest request).result = .error e →
        (client.wireRequest request).warnings <+: client.skipped request (found.map (·.2)) := by
  obtain ⟨found, hfound, -⟩ := PathTemplate.exists_found 0 request.path.template.toList
  have hraises := client.wireRequest_raises request
  rw [skipped, request.path.unusedArguments_congr hfound.mem_placeholders_iff, ← skipped] at hraises
  exact ⟨found, fun _ => hfound.eq_iff, hraises.eq_of_ok, fun _ _ => hraises.isPrefix⟩

example : skipped ⟨"http://petstore.swagger.io", .ofList [("key", .bearer ⟨"t"⟩)], .empty⟩ {
      operation := "sample", method := .post, path := ⟨"/x", .ofList [("id", .ofText "1")]⟩
      form := .ofList [("a", .ofText "b")], payload := .entity ()
      authNames := ["api", "key", "api"] } [] =
    [.unusedArgument "id", .unknownScheme "api", .unknownScheme "api", .ignoredPayload] := by
  decide

end Client

end StoreClient
