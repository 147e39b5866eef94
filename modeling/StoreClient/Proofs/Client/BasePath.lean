import StoreClient.Proofs.Client.Destination

/-!
Which base paths can be used. What is accepted as a base path begins with a slash and holds nothing
that ends a path, so that it stands behind host and port as a path whatever is appended to it
(`Client.parse_join`), and every call has an address at the host. The one exception is `*`, which is
accepted without a slash: it becomes a part of the port, and no call has an address
(`Call.url_withBasePath_iff`).
-/

namespace StoreClient

namespace BasePath

/-- What stands before a query or a fragment is a path if it begins with a slash or not at all. -/
theorem isPathText_of_forall {c : Char} {rest : List Char} (hslash : c ≠ '?' → c ≠ '#' → c = '/')
    (hchars : ∀ d ∈ (c :: rest).takeWhile (fun c => c ≠ '?' && c ≠ '#'), isPathChar d) :
    Url.IsPathText (if ((c :: rest).takeWhile fun c => c ≠ '?' && c ≠ '#').isEmpty then ['/']
      else (c :: rest).takeWhile fun c => c ≠ '?' && c ≠ '#') := by
  split
  · exact ⟨rfl, List.forall_mem_singleton.mpr (by decide)⟩
  · next hne =>
    refine ⟨?_, fun d hd => Url.not_ends_of_isPathChar (hchars d hd)⟩
    by_cases hc : c ≠ '?' ∧ c ≠ '#'
    · rw [List.takeWhile_cons_of_pos (by simpa using hc), List.head?_cons, hslash hc.1 hc.2]
    · rw [List.takeWhile_cons_of_neg (by simpa using hc)] at hne
      exact (hne rfl).elim

/-- What is accepted is a path, unless it is `*`. -/
theorem of_parse {text path : List Char} (h : parse text = .ok path) :
    (text = ['*'] ∧ path = ['*']) ∨ (text ≠ ['*'] ∧ Url.IsPathText path) := by
  rw [parse.eq_def] at h
  split at h
  · cases h
  · cases h
    exact .inl ⟨rfl, rfl⟩
  · next c rest hstar =>
    refine .inr ⟨fun h => hstar (List.cons.inj h).1 (List.cons.inj h).2, ?_⟩
    rw [ite_error_eq_ok, ite_error_eq_ok] at h
    obtain ⟨hstart, hbad, h⟩ := h
    cases h
    have hslash : c ≠ '?' → c ≠ '#' → c = '/' := fun hquery hfragment =>
      Decidable.not_not.mp fun hc => hstart ⟨hc, hquery, hfragment⟩
    have hchars : ∀ d ∈ (c :: rest).takeWhile (fun c => c ≠ '?' && c ≠ '#'), isPathChar d := by
      rw [Bool.or_eq_true, not_or, Bool.not_eq_true', Bool.not_eq_false] at hbad
      exact List.all_eq_true.mp hbad.1
    exact isPathText_of_forall hslash hchars

/-- What is accepted holds no query and no fragment. -/
theorem ne_of_mem_parse {text path : List Char} (h : parse text = .ok path) :
    ∀ c ∈ path, c ≠ '?' ∧ c ≠ '#' := by
  rcases of_parse h with ⟨-, rfl⟩ | ⟨-, hpath⟩
  · exact List.forall_mem_singleton.mpr (by decide)
  · exact fun c hc => (hpath.2 c hc).2

end BasePath

/-! ### Base paths that are accepted -/

section
variable {basePath : List Char} {credentials : NameMap Credential} {headers : Bindings}
  {text : String} {config : Client.Config}

theorem Client.Config.withBasePath_eq_ok
    (h : ({ basePath, credentials, headers } : Config).withBasePath text = .ok config) :
    BasePath.parse text.toList = .ok config.basePath ∧
      config = { basePath := config.basePath, credentials, headers } := by
  obtain ⟨path, hpath, h⟩ := bind_eq_ok.mp h
  cases h
  exact ⟨mapError_eq_ok.mp hpath, rfl⟩

/-- Whatever the base path is, the client is built, and its base is the host with this path. -/
theorem Client.Config.build_withBasePath
    (h : ({ basePath, credentials, headers } : Config).withBasePath text = .ok config) :
    ∃ client, config.build = .ok client ∧
      client.baseUri.toList = ({} : Config).origin ++ config.basePath := by
  obtain ⟨-, hconfig⟩ := withBasePath_eq_ok h
  obtain ⟨client, hclient⟩ := (hasHost_preset_http config.basePath credentials headers).build
  rw [← hconfig] at hclient
  have horigin : config.origin = ({} : Config).origin := by
    rw [hconfig]
    rfl
  exact ⟨client, hclient, horigin ▸ (baseUri_of_build hclient).1⟩

/-- Behind what is accepted, `*` apart, there is an address at the host for every path. -/
theorem Client.addressOf_withBasePath
    (h : ({ basePath, credentials, headers } : Config).withBasePath text = .ok config)
    {client : Client} (hclient : config.build = .ok client)
    (hbase : Url.IsPathText config.basePath) {path : String}
    (hpath : ∀ c ∈ path.toList, PathTemplate.IsPathChar c) :
    ∃ segments, client.addressOf path = .ok (.preset segments) := by
  obtain ⟨-, hconfig⟩ := Config.withBasePath_eq_ok h
  rw [hconfig] at hclient
  exact (Config.hasHost_preset_http config.basePath credentials headers).addressOf hclient
    hbase hpath

/-- A `*` behind the port is read as a part of it. -/
theorem Client.addressOf_star {client : Client} {path : String}
    (hclient : client.baseUri.toList = ({} : Config).origin ++ ['*'])
    (hpath : ∀ c ∈ path.toList, PathTemplate.IsPathChar c) :
    client.addressOf path = .error .port := by
  have hauth : ∀ c ∈ ({} : Config).authority.toList ++ ['*'], Authority.isAllowed c :=
    List.all_eq_true.mp rfl
  have hport : Url.parse (Scheme.http.name ++ ':' :: '/' :: '/' ::
      (({} : Config).authority.toList ++ ['*']) ++ ['/']) = .error .port := by rfl
  obtain ⟨segments, hparse⟩ := @parse_join [] path.toList (fun c hc => nomatch hc)
    (fun c hc => nomatch hc) hpath .http _ (List.concat_ne_nil '*' _) hauth
  rw [hport, List.append_nil] at hparse
  rw [addressOf, hclient]
  refine Eq.trans ?_ hparse
  simp [Config.origin]

/-- With a base path that is accepted, at the host and the port that are preset, the client is built
and its base has no query. Every call has an address at the host, unless the base path is `*`: then
none has one. -/
theorem Call.url_withBasePath_iff
    (h : ({ basePath, credentials, headers } : Client.Config).withBasePath text = .ok config) :
    ∃ client, config.build = .ok client ∧ (∀ c ∈ client.baseUri.toList, c ≠ '?' ∧ c ≠ '#') ∧
      ∀ call : Call, call.IsComplete →
        ((∃ path query, call.url client = .ok { Url.preset path with query }) ↔ text ≠ "*") ∧
        (text = "*" → call.url client = .error (.url .port)) := by
  obtain ⟨hparse, -⟩ := Client.Config.withBasePath_eq_ok h
  obtain ⟨client, hclient, hbase⟩ := Client.Config.build_withBasePath h
  have horigin : ∀ c ∈ ({} : Client.Config).origin, c ≠ '?' ∧ c ≠ '#' :=
    List.forall_iff_forall_mem.mp (by decide)
  refine ⟨client, hclient, ?_, fun call hcall => ?_⟩
  · rw [hbase]
    exact List.forall_mem_append.mpr ⟨horigin, BasePath.ne_of_mem_parse hparse⟩
  · obtain ⟨path, query?, hchars, hurl⟩ := hcall.url_eq client
    rw [hurl]
    rcases BasePath.of_parse hparse with ⟨hstar, hpath⟩ | ⟨hstar, hpath⟩
    · have htext : text = "*" := String.toList_inj.mp hstar
      rw [hpath] at hbase
      rw [Client.addressOf_star hbase hchars, htext]
      simp [Except.mapError, Except.map]
    · have htext : text ≠ "*" := fun h => hstar (h ▸ rfl)
      obtain ⟨segments, haddress⟩ := Client.addressOf_withBasePath h hclient hpath hchars
      rw [haddress]
      exact ⟨iff_of_true ⟨segments, _, rfl⟩ htext, fun h => (htext h).elim⟩

end

/-- Doubled slashes, a segment of two dots, a query and a fragment are no hindrance. -/
theorem Call.url_withBasePath_tangled : ∃ config client,
    ({} : Client.Config).withBasePath "//api/..?debug#top" = .ok config ∧
    config.build = .ok client ∧ (∀ c ∈ client.baseUri.toList, c ≠ '?' ∧ c ≠ '#') ∧
    ∃ path query, (loginUser (some "..") (some "a&b#c")).url client =
      .ok { Url.preset path with query } := by
  have haccepted : ({} : Client.Config).withBasePath "//api/..?debug#top" =
      .ok { basePath := "//api/..".toList } := by rfl
  obtain ⟨client, hclient, hchars, hurl⟩ := url_withBasePath_iff haccepted
  exact ⟨_, client, haccepted, hclient, hchars, (hurl _ (by decide)).1.mpr (by decide)⟩

/-- The base path `*` is accepted, and the client is built; then there is no address. -/
theorem Call.url_withBasePath_star : ∃ config client,
    ({} : Client.Config).withBasePath "*" = .ok config ∧ config.build = .ok client ∧
    logoutUser.IsComplete ∧ logoutUser.url client = .error (.url .port) :=
  ⟨{ basePath := ['*'] }, ⟨"http://petstore.swagger.io:80*", .empty, .empty⟩, by rfl, by rfl,
    by decide, by rfl⟩

end StoreClient
