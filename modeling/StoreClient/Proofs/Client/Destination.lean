import Mathlib.Data.List.DropRight
import StoreClient.Proofs.Client.FormText
import StoreClient.Proofs.Client.Refusal
import StoreClient.Proofs.Operation.Request
import StoreClient.Proofs.Url.Origin

/-!
Where requests go. A path that is put behind a base path stands behind the authority as a path,
whatever slashes there are between them (`Client.parse_join`). With a host that is a plain name a
client is built, whatever its port is, and with a scheme that has ports it has an address for every
path (`Client.Config.HasHost.addressOf`), which a call's query is added to
(`Call.Describes.url_eq`).
-/

namespace StoreClient

namespace Client

open PathTemplate (IsPathChar)

/-- One slash is left between a base and a path, whatever slashes the base ends with. -/
theorem join_append {front : List Char} (hfront : ∀ c ∈ front.getLast?, c ≠ '/')
    (base path : List Char) :
    join (front ++ base) path =
      front ++ (base.rdropWhile (· = '/') ++ '/' :: path.dropWhile (· = '/')) := by
  have htrim : (front ++ base).rdropWhile (· = '/') = front ++ base.rdropWhile (· = '/') := by
    induction base using List.reverseRecOn with
    | nil =>
      rw [List.rdropWhile_nil, List.append_nil, List.rdropWhile_eq_self_iff]
      intro hne hlast
      exact hfront _ (List.getLast?_eq_getLast_of_ne_nil hne) (of_decide_eq_true hlast)
    | append_singleton base c ih =>
      rw [← List.append_assoc, List.rdropWhile_concat, List.rdropWhile_concat, ih]
      split <;> simp
  change (front ++ base).rdropWhile (· = '/') ++ _ = _
  rw [htrim, List.append_assoc]

section
variable {base path : List Char} (hhead : ∀ c ∈ base.head?, c = '/')
  (hbase : ∀ c ∈ base, Url.isBlank c = false ∧ c ≠ '?' ∧ c ≠ '#')
  (hpath : ∀ c ∈ path, IsPathChar c)
include hhead hbase hpath

theorem isPathText_join :
    Url.IsPathText (base.rdropWhile (· = '/') ++ '/' :: path.dropWhile (· = '/')) := by
  have hfront := List.rdropWhile_prefix (· = '/') base
  constructor
  · cases htrim : base.rdropWhile (· = '/') with
    | nil => rfl
    | cons c cs =>
      obtain ⟨rest, hrest⟩ := htrim ▸ hfront
      rw [← hrest] at hhead
      exact congrArg some (hhead c rfl)
  · intro c hc
    rcases List.mem_append.mp hc with hc | hc
    · exact hbase c (hfront.subset hc)
    rcases List.mem_cons.mp hc with rfl | hc
    · decide
    · have hchar := hpath c ((List.dropWhile_sublist _).subset hc)
      exact Url.not_ends_of_isPathChar (Url.isPathChar_of_isAlphanum hchar)

/-- What is read from an authority with a base path and a path behind it. -/
theorem parse_join (scheme : Scheme) {authority : List Char} (hne : authority ≠ [])
    (hauth : ∀ c ∈ authority, Authority.isAllowed c) :
    ∃ text, Url.parse (join (scheme.name ++ ':' :: '/' :: '/' :: authority ++ base) path) =
      (Url.parse (scheme.name ++ ':' :: '/' :: '/' :: authority ++ ['/'])).map fun root =>
        { root with path := Url.parsePath root.scheme.isSpecial text } := by
  have hlast : ∀ c ∈ (scheme.name ++ ':' :: '/' :: '/' :: authority).getLast?, c ≠ '/' := by
    have hcons : scheme.name ++ ':' :: '/' :: '/' :: authority =
        scheme.name ++ [':', '/', '/'] ++ authority := by simp
    rw [hcons, List.getLast?_append_of_ne_nil _ hne]
    intro c hc
    have hallowed := hauth c (List.mem_of_getLast? hc)
    rintro rfl
    cases hallowed
  rw [join_append hlast]
  exact ⟨_, Url.parse_append_path scheme hauth (isPathText_join hhead hbase hpath) hne⟩

end

end Client

namespace Call

open PathTemplate (IsPathChar)

/-- The address of a request that a call makes is that of its path, with its query. -/
theorem Describes.url_eq {call : Call} {request : Request User} (h : call.Describes request)
    (client : Client) : ∃ (path : String) (query? : Option (List Char)),
      (∀ c ∈ path.toList, IsPathChar c) ∧
      (client.url request).result = ((client.addressOf path).mapError .url).map fun url =>
        { url with query := query?.or url.query } := by
  obtain ⟨path, hresolve, hchars⟩ := h.path.resolves
  obtain ⟨text, htext⟩ := Bindings.formText_isOk_iff.mpr (Bindings.forall_isSendable_iff.mp h.query)
  have hurl : (client.url request).result = ((client.addressOf path).mapError .url).map fun url =>
      if request.query.isEmpty then url else url.setQuery text.toList := by
    have hok (f : String → Except Error Url) : (Except.ok path >>= f) = f path := rfl
    rw [Client.url, Logged.result_bind, hresolve, hok, ← Client.addressOf, Logged.result_bind,
      Logged.result_ofExcept]
    cases client.addressOf path with
    | error e => rfl
    | ok url => cases request.query.isEmpty <;> rw [htext] <;> rfl
  obtain ⟨pairs, -, rfl⟩ := Bindings.formText_eq_ok_iff.mp htext
  simp only [String.toList_ofList, Url.setQuery_encode] at hurl
  cases hquery : request.query.isEmpty with
  | true => exact ⟨path, none, hchars, by rw [hurl, hquery]; rfl⟩
  | false => exact ⟨path, some _, hchars, by rw [hurl, hquery]; rfl⟩

/-- Whether a call has an address depends on nothing but the client and its path. -/
theorem IsComplete.url_eq {call : Call} (h : call.IsComplete) (client : Client) :
    ∃ (path : String) (query? : Option (List Char)), (∀ c ∈ path.toList, IsPathChar c) ∧
      call.url client = ((client.addressOf path).mapError .url).map fun url =>
        { url with query := query?.or url.query } := by
  obtain ⟨request, hrequest⟩ := exists_request h
  have hurl : call.url client = (client.url request).result := by
    rw [Call.url, hrequest]
    rfl
  rw [hurl]
  exact (describes_request hrequest).url_eq client

end Call

/-! ### Hosts -/

namespace Client.Config

/-- The scheme of a configuration is read as the given one, which is not that of files, and its host
is a name in plain characters, which is read as the given host. -/
structure HasHost (config : Config) (scheme : Scheme) (host : Url.Host) : Prop where
  read : Scheme.read? config.scheme.name = some scheme
  ne_file : scheme ≠ .file
  plain : ∀ c ∈ config.host.toList, Authority.isPlain c
  parse : Url.Host.parse scheme.isSpecial config.host.toList = .ok host

theorem toList_authority (config : Config) : config.authority.toList =
    config.host.toList ++ ':' :: Nat.toDigits 10 config.port.toNat := by
  have hport : (toString config.port.toNat).toList = Nat.toDigits 10 config.port.toNat :=
    Nat.toList_repr
  rw [authority, String.toList_append, String.toList_append, hport, List.append_assoc]
  rfl

namespace HasHost

variable {config : Config} {scheme : Scheme} {host : Url.Host} (h : config.HasHost scheme host)
include h

theorem build : ∃ client, config.build = .ok client := by
  have hcheck : Authority.check config.authority.toList = .ok () := by
    rw [toList_authority]
    exact Authority.check_eq_ok h.plain (Authority.forall_isPlain_toDigits _)
  rw [Config.build, hcheck]
  exact ⟨_, rfl⟩

/-- Whatever base path and path are, the address has scheme, host and port as they are set. -/
theorem addressOf {client : Client} (hclient : config.build = .ok client)
    (hbase : Url.IsPathText config.basePath) {path : String}
    (hpath : ∀ c ∈ path.toList, PathTemplate.IsPathChar c) :
    ∃ segments, client.addressOf path =
      .ok (.ofOrigin scheme host config.port.toNat segments) := by
  have hhead : ∀ c ∈ config.basePath.head?, c = '/' := by
    intro c hc
    rw [hbase.1] at hc
    exact (Option.some.inj hc).symm
  obtain ⟨huri, hauth⟩ := baseUri_of_build hclient
  obtain ⟨text, hparse⟩ := parse_join hhead hbase.2 hpath config.scheme
    config.authority_ne_nil hauth
  have hport : config.port.toNat ≤ 65535 := Nat.le_of_lt_succ config.port.toNat_lt
  refine ⟨Url.parsePath scheme.isSpecial text, ?_⟩
  rw [Client.addressOf, huri, origin, hparse, toList_authority,
    Url.parse_origin h.plain h.read h.ne_file h.parse hport]
  rfl

end HasHost

/-- The host that is preset, with any scheme but that of files. -/
theorem hasHost_preset {scheme read : Scheme} (hread : Scheme.read? scheme.name = some read)
    (hfile : read ≠ .file) (port : UInt16) (basePath : List Char)
    (credentials : NameMap Credential) (headers : Bindings) :
    ({ scheme, port, basePath, credentials, headers } : Config).HasHost read
      (.domain "petstore.swagger.io".toList) := by
  have hplain : "petstore.swagger.io".toList.all Authority.isPlain := by rfl
  have hparse (special : Bool) : Url.Host.parse special "petstore.swagger.io".toList =
      .ok (.domain "petstore.swagger.io".toList) := by cases special <;> rfl
  exact ⟨hread, hfile, List.all_eq_true.mp hplain, hparse _⟩

/-- The host and the scheme that are preset. -/
theorem hasHost_preset_http (basePath : List Char) (credentials : NameMap Credential)
    (headers : Bindings) : ({ basePath, credentials, headers } : Config).HasHost .http
      (.domain "petstore.swagger.io".toList) :=
  hasHost_preset rfl (by decide) 80 basePath credentials headers

end Client.Config

end StoreClient
