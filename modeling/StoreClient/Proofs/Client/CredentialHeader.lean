import StoreClient.Proofs.Client.ContentType

/-!
The header of a scheme. A request that asks for a scheme has its header written before the headers
that are bound, so that a default of the client takes its place, in whatever spelling it is bound.
Where nothing else gives the header, it is that of the scheme exactly if the client binds no default
under the name, or the last of them says the same (`wireRequest_credential`).
-/

namespace StoreClient

/-- A name that is given one value only has that value. -/
theorem Headers.last?_eq_some_of_unique {fields : List (String × String)} {n value : String}
    (hmem : (n, value) ∈ fields) (hunique : ∀ value', (n, value') ∈ fields → value' = value) :
    last? fields n = some value := by
  have hne : fields.filter (·.1 = n) ≠ [] :=
    List.ne_nil_of_mem (List.mem_filter.mpr ⟨hmem, decide_eq_true rfl⟩)
  obtain ⟨⟨name, value'⟩, hlast⟩ : ∃ e, (fields.filter (·.1 = n)).getLast? = some e :=
    ⟨_, List.getLast?_eq_some_getLast hne⟩
  obtain ⟨hmem', hname⟩ := List.mem_filter.mp (List.mem_of_getLast? hlast)
  cases of_decide_eq_true hname
  rw [last?, hlast, Option.map_some, hunique value' hmem']

namespace Client

section
variable {β : Type} {client : Client} {request : Request β} {n : String}

/-- The one scheme that has a header gives it its value, however often it is asked for. -/
theorem credentialValue?_eq_some {authNames : List String} {scheme value : String}
    (hscheme : scheme ∈ authNames) (hheader : client.credentialHeader? scheme = some (n, value))
    (hother : ∀ other ∈ authNames, other ≠ scheme →
      ∀ value', client.credentialHeader? other ≠ some (n, value')) :
    client.credentialValue? authNames n = some value := by
  refine Headers.last?_eq_some_of_unique (List.mem_filterMap.mpr ⟨scheme, hscheme, hheader⟩) ?_
  intro value' hvalue'
  obtain ⟨other, hmem, hvalue'⟩ := List.mem_filterMap.mp hvalue'
  have hsame : other = scheme := by
    by_contra hne
    exact hother other hmem hne value' hvalue'
  subst hsame
  rw [hheader] at hvalue'
  cases hvalue'
  rfl

/-- A body gives no header but the content type. -/
theorem values_addBody [Record β] {headers headers' : Headers} {body : Option String}
    (hadd : (addBody request headers).result = .ok (headers', body)) (hn : n ≠ "content-type") :
    headers'.values n = headers.values n := by
  cases hform : request.form.isEmpty with
  | false =>
    obtain ⟨text, -, -, rfl⟩ := (addBody_form_eq_ok_iff hform).mp hadd
    exact Headers.values_insert_of_ne headers hn _
  | true =>
    obtain ⟨-, -, rfl⟩ | ⟨text, value, -, -, -, rfl⟩ := (addBody_payload_eq_ok_iff hform).mp hadd
    · rfl
    · exact Headers.values_insert_of_ne headers hn value

end

section
variable {β : Type} [Record β] {client : Client} {request : Request β} {w : WireRequest}
  {scheme n value : String}

/-- The header that a scheme has, in a request that asks for it. No other scheme that the request
asks for has that header, and the request neither binds it nor has its body give it. The header is
then that of the scheme exactly if no default of the client is bound under the name, in whatever
spelling, or the last of them has the same text; a default of another text is sent in its place. -/
theorem wireRequest_credential (hw : (client.wireRequest request).result = .ok w)
    (hscheme : scheme ∈ request.authNames)
    (hheader : client.credentialHeader? scheme = some (n, value))
    (hother : ∀ other ∈ request.authNames, other ≠ scheme →
      ∀ value', client.credentialHeader? other ≠ some (n, value'))
    (hcall : request.headers.spelled n = []) (hn : n ≠ "content-type") :
    (w.headers.values n = [value] ↔
      ∀ e, (client.headers.spelled n).getLast? = some e → e.2.text = .ok value) ∧
    ∀ e, (client.headers.spelled n).getLast? = some e →
      ∃ text, e.2.text = .ok text ∧ w.headers.values n = [text] := by
  obtain ⟨-, -, headers, hwritten, hadd⟩ := wireRequest_eq_ok_iff.mp hw
  obtain ⟨fields, bound, rfl, hbound, hlast⟩ := last?_writtenHeaders hwritten n
  rw [getLast?_merge_of_not_prevails (not_prevails_of_spelled_eq_nil hcall)] at hbound
  have hvalues : w.headers.values n = [bound.getD value] := by
    rw [values_addBody hadd hn, Headers.values_insertAll, hlast,
      credentialValue?_eq_some hscheme hheader hother]
    cases bound <;> rfl
  rw [hvalues]
  generalize (client.headers.spelled n).getLast? = last at hbound ⊢
  cases hbound with
  | none => simp
  | @some e text htext =>
    simp only [Option.getD_some, Option.some.injEq, forall_eq', htext, Except.ok.injEq,
      List.cons.injEq, and_true, true_and]
    exact ⟨text, rfl, rfl⟩

end

/-- A client that has a token and a key, and always sends a header that the token has as well. -/
def covering : Client :=
  { preset with
    credentials := .ofList [("oauth", .bearer ⟨"t"⟩), ("api", .apiKey "X-Key" ⟨"k"⟩)]
    headers := .ofList [("Authorization", .ofText "default")] }

/-- A request that asks for the token and the key. -/
def askingBoth : Request User := { asking "oauth" with authNames := ["oauth", "api"] }

/-- What that client sends for that request. -/
def coveredRequest : WireRequest where
  method := .get
  url := .preset ["v2".toList, "x".toList]
  headers := [("x-key", "k"), ("authorization", "default")]
  body := none

/-- The key is sent, since the client binds no default of its name. -/
theorem wireRequest_credential_key :
    (covering.wireRequest askingBoth).result = .ok coveredRequest ∧
      coveredRequest.headers.values "x-key" = ["k"] := by
  have hw : (covering.wireRequest askingBoth).result = .ok coveredRequest := by rfl
  have hother : ∀ other ∈ askingBoth.authNames, other ≠ "api" →
      ∀ value', covering.credentialHeader? other ≠ some ("x-key", value') := by
    intro other hmem hne value' h
    obtain rfl | h' := List.mem_cons.mp hmem
    · have hname : Credential.authorization = "x-key" := congrArg Prod.fst (Option.some.inj h)
      exact absurd hname (by decide)
    · exact hne (List.mem_singleton.mp h')
  have hdefault : ∀ e, (covering.headers.spelled "x-key").getLast? = some e →
      e.2.text = .ok "k" := fun _ h => nomatch h
  exact ⟨hw, (wireRequest_credential hw (by decide) rfl hother (by decide) (by decide)).1.mpr
    hdefault⟩

/-- The default is sent in place of the token, although only the token has that header. -/
theorem wireRequest_credential_covered :
    (covering.wireRequest askingBoth).result = .ok coveredRequest ∧
      "oauth" ∈ askingBoth.authNames ∧
      covering.credentialHeader? "oauth" = some ("authorization", "Bearer t") ∧
      (∀ other ∈ askingBoth.authNames, other ≠ "oauth" →
        (covering.credentialHeader? other).map (·.1) ≠ some "authorization") ∧
      askingBoth.headers.spelled "authorization" = [] ∧
      coveredRequest.headers.values "authorization" = ["default"] :=
  ⟨by rfl, by decide, by rfl, by decide, by decide, by decide⟩

end Client

end StoreClient
