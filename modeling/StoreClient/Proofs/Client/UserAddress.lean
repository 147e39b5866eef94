import StoreClient.Operation.Call
import StoreClient.Proofs.Client.Wire
import StoreClient.Proofs.Request.Substitution
import StoreClient.Proofs.Url.Address

/-!
Which user a request addresses. The name of a user is the last segment of the path, with everything
escaped but letters and digits. Reading the address leaves such a segment alone, unless the name is
`.` or `..`: their escapes still count as dots. So the path names the user of every other call, no
name but `..` leads out of the users, and no two names share an address but the empty one and `.`
(`url_addresses_user_iff`).
-/

namespace StoreClient

/-- The segments of the path of an address, each with its escapes resolved. -/
def Url.readSegments (url : Url) : List Bytes :=
  (Url.splitAtChar '/' (Url.Path.render url.path)).tail.map Percent.decode

namespace Call

/-- The user whom the path of a call names. -/
def addressee? : Call → Option String
  | deleteUser username | getUserByName username | updateUser username _ => username
  | _ => none

/-- The address of a call. -/
def url (call : Call) (client : Client) : Except Error Url := do
  (client.url (← call.request)).result

theorem request_of_addressee? {call : Call} {request : Request User} {username : String}
    (hcall : call.addressee? = some username) (hrequest : call.request = .ok request) :
    request.path = (PathTemplate.ofString "/user/\x7busername\x7d").insert "username"
        (.ofText username) ∧
      request.query = .empty := by
  cases call with
  | deleteUser username' | getUserByName username' =>
    cases hcall
    cases hrequest
    exact ⟨rfl, rfl⟩
  | updateUser username' body =>
    cases hcall
    cases body with
    | none => cases hrequest
    | some body =>
      cases hrequest
      exact ⟨rfl, rfl⟩
  | _ => cases hcall

end Call

theorem PathTemplate.resolve_user (username : String) :
    ((ofString "/user/\x7busername\x7d").insert "username" (.ofText username)).resolve.result =
      .ok (String.ofList ("/user/".toList ++ encodeValue username)) := by
  let path := (ofString "/user/\x7busername\x7d").insert "username" (.ofText username)
  let ps := "/user/".toList.map Piece.char ++ [.slot "username"]
  have hps : ∀ p ∈ ps, p.Valid := by decide
  have htemplate : "/user/\x7busername\x7d".toList = render ps := by decide
  have hargs : ∀ name ∈ names ps, ∃ param, path.args.get? name = some param ∧
      param.text = .ok username := by
    intro name hname
    have hnames : ∀ n ∈ names ps, n = "username" := by decide
    rw [hnames name hname]
    exact ⟨.ofText username, rfl, rfl⟩
  rw [@resolve_eq_ok path ps (fun _ => username) hps htemplate hargs]
  apply congrArg (fun cs => Except.ok (String.ofList cs))
  exact congrArg ("/user/".toList ++ ·) (List.append_nil (encodeValue username))

namespace Client

/-! ### Base paths -/

namespace Config

/-- The base path of a configuration consists of segments of letters and digits, behind which
slashes may stand. -/
structure HasBase (config : Config) (base : List (List Char)) : Prop where
  plain : ∀ s ∈ base, s ≠ [] ∧ ∀ c ∈ s, c.isAlphanum
  path : ∃ n, config.basePath = Url.Path.render base ++ List.replicate n '/'

/-- Scheme, host and port of the addresses of a configuration. -/
def origin (config : Config) : List Char :=
  config.scheme.name ++ ':' :: '/' :: '/' :: config.authority.toList

theorem baseUri_of_build {config : Config} {client : Client} (hclient : config.build = .ok client) :
    client.baseUri.toList = config.origin ++ config.basePath ∧
      ∀ c ∈ config.authority.toList, Authority.isAllowed c := by
  rw [build, bind_eq_ok] at hclient
  obtain ⟨_, hcheck, hclient⟩ := hclient
  cases hclient
  refine ⟨?_, Authority.forall_isAllowed_of_check (mapError_eq_ok.mp hcheck)⟩
  simp [origin]

theorem authority_ne_nil (config : Config) : config.authority.toList ≠ [] := by
  simp [authority]

end Config

/-- One slash is left between two texts, however many the first ends with. -/
theorem join_slashes {front rest : List Char} (hfront : ∀ c ∈ front.getLast?, c ≠ '/')
    (hrest : ∀ c ∈ rest.head?, c ≠ '/') (n : Nat) :
    join (front ++ List.replicate n '/') ('/' :: rest) = front ++ '/' :: rest := by
  have hslashes : ∀ c ∈ List.replicate n '/', decide (c = '/') := by
    intro c hc
    exact decide_eq_true (List.eq_of_mem_replicate hc)
  have hback : ∀ c ∈ front.reverse.head?, decide (c = '/') = false := by
    intro c hc
    exact decide_eq_false (hfront c (List.head?_reverse ▸ hc))
  rw [join, List.reverse_append, List.reverse_replicate, List.dropWhile_append_of_pos hslashes,
    Url.dropWhile_eq_self hback, List.reverse_reverse, List.dropWhile_cons_of_pos (by decide),
    Url.dropWhile_eq_self fun c hc => decide_eq_false (hrest c hc)]

end Client

/-! ### Paths of users -/

namespace Url.Path

/-- The name that is left of the name of a user once dots are resolved. -/
def settledName (username : String) : String := if username = "." then "" else username

/-- The path that is left of the path of a user once dots are resolved. -/
def userPath (base : List (List Char)) (username : String) : List (List Char) :=
  if username = ".." then base ++ [[]]
  else base ++ ["user".toList, PathTemplate.encodeValue (settledName username)]

theorem isPlain_encodeValue {username : String} (hone : username ≠ ".") (htwo : username ≠ "..") :
    IsPlain (PathTemplate.encodeValue username) := by
  constructor
  · apply Bool.eq_false_iff.mpr
    intro h
    exact hone (String.toList_inj.mp (isSingleDot_encode_iff.mp h))
  · apply Bool.eq_false_iff.mpr
    intro h
    exact htwo (String.toList_inj.mp (isDoubleDot_encode_iff.mp h))

theorem isPlain_of_isAlphanum {s : List Char} (hs : ∀ c ∈ s, c.isAlphanum) : IsPlain s := by
  apply isPlain_of_forall
  intro c hc
  constructor
  · rintro rfl
    cases hs _ hc
  · rintro rfl
    cases hs _ hc

theorem resolve_user {base : List (List Char)} (hbase : ∀ s ∈ base, ∀ c ∈ s, c.isAlphanum)
    (username : String) :
    resolve [] (base ++ ["user".toList, PathTemplate.encodeValue username]) =
      userPath base username := by
  have hplain : ∀ s ∈ base, IsPlain s := fun s hs => isPlain_of_isAlphanum (hbase s hs)
  have huser : IsPlain "user".toList := by constructor <;> decide
  rw [resolve_append_of_plain hplain, resolve_cons_of_plain huser, List.append_nil]
  by_cases htwo : username = ".."
  · subst htwo
    have hdots : isDoubleDot (PathTemplate.encodeValue "..") = true := by decide
    rw [resolve, if_pos hdots, shorten, if_neg (by decide), userPath, if_pos rfl]
    simp
  by_cases hone : username = "."
  · subst hone
    have hnot : ¬ isDoubleDot (PathTemplate.encodeValue ".") = true := by decide
    have hdot : isSingleDot (PathTemplate.encodeValue ".") = true := by decide
    rw [resolve, if_neg hnot, if_pos hdot, userPath, if_neg (by decide), settledName, if_pos rfl]
    simp [PathTemplate.encodeValue, Percent.encode]
  · rw [resolve_cons_of_plain (isPlain_encodeValue hone htwo), resolve, userPath, if_neg htwo,
      settledName, if_neg hone]
    simp

theorem isAlphanum_of_mem_user {base : List (List Char)} (hbase : ∀ s ∈ base, ∀ c ∈ s, c.isAlphanum)
    (username : String) : ∀ s ∈ base ++ ["user".toList, PathTemplate.encodeValue username],
      ∀ c ∈ s, c = '%' ∨ c.isAlphanum := by
  have huser : ∀ c ∈ "user".toList, c.isAlphanum :=
    List.forall_iff_forall_mem.mp (by decide)
  intro s hs c hc
  rcases List.mem_append.mp hs with hs | hs
  · exact .inr (hbase s hs c hc)
  rcases List.mem_cons.mp hs with rfl | hs
  · exact .inr (huser c hc)
  · cases List.mem_singleton.mp hs
    exact PathTemplate.of_mem_encodeValue hc

theorem settledName_eq_iff {username username' : String} :
    settledName username = settledName username' ↔ username = username' ∨
      (username = "" ∨ username = ".") ∧ (username' = "" ∨ username' = ".") := by
  rw [settledName, settledName]
  split <;> split <;> grind

theorem of_mem_userPath {base : List (List Char)} (hbase : ∀ s ∈ base, ∀ c ∈ s, c.isAlphanum)
    {username : String} {s : List Char} (hs : s ∈ userPath base username) {c : Char} (hc : c ∈ s) :
    c = '%' ∨ c.isAlphanum := by
  rw [userPath] at hs
  split at hs
  · rcases List.mem_append.mp hs with hs | hs
    · exact .inr (hbase s hs c hc)
    · cases List.mem_singleton.mp hs
      cases hc
  · exact isAlphanum_of_mem_user hbase _ s hs c hc

/-- Names that are left the same have the same path. -/
theorem userPath_congr {base : List (List Char)} {username username' : String}
    (h : settledName username = settledName username') :
    userPath base username = userPath base username' := by
  have htwo : username = ".." ↔ username' = ".." := by
    rw [settledName, settledName] at h
    grind
  simp only [userPath, htwo, h]

/-- What is written in letters and digits stands for itself. -/
theorem decode_of_isAlphanum {s : List Char} (hs : ∀ c ∈ s, c.isAlphanum) :
    Percent.decode s = Utf8.encode s :=
  Percent.decode_of_not_mem fun h => absurd (hs _ h) (by decide)

theorem map_decode_userPath {base : List (List Char)} (hbase : ∀ s ∈ base, ∀ c ∈ s, c.isAlphanum)
    (username : String) :
    (userPath base username).map Percent.decode =
      if username = ".." then base.map Utf8.encode ++ [[]]
      else base.map Utf8.encode ++
        [Utf8.ofString "user", Utf8.ofString (settledName username)] := by
  have hdecode : base.map Percent.decode = base.map Utf8.encode :=
    List.map_congr_left fun s hs => decode_of_isAlphanum (hbase s hs)
  have huser : Percent.decode "user".toList = Utf8.ofString "user" :=
    decode_of_isAlphanum (List.forall_iff_forall_mem.mp (by decide))
  rw [userPath]
  split
  · rw [List.map_append, hdecode]
    rfl
  · rw [List.map_append, hdecode, List.map_cons, huser, List.map_singleton]
    exact congrArg (fun bs => base.map Utf8.encode ++ [Utf8.ofString "user", bs])
      (Percent.decode_encode rfl (settledName username).toList)

end Url.Path

/-! ### Addresses of users -/

theorem Url.readSegments_eq_map {url : Url} (hpath : ∀ s ∈ url.path, ∀ c ∈ s, c ≠ '/') :
    url.readSegments = url.path.map Percent.decode := by
  have hsplit : splitAtChar '/' ([] ++ Path.render url.path) = [] :: url.path :=
    Path.splitAtChar_render (List.forall_mem_cons.mpr ⟨fun c hc => (nomatch hc), hpath⟩)
  rw [List.nil_append] at hsplit
  rw [readSegments, hsplit, List.tail_cons]

section
variable {config : Client.Config} {client : Client} {base : List (List Char)}
  (hclient : config.build = .ok client) (hbase : config.HasBase base)
include hclient hbase

theorem Client.Config.HasBase.getLast?_origin :
    ∀ c ∈ (config.origin ++ Url.Path.render base).getLast?, c ≠ '/' := by
  intro c hc
  rcases List.eq_nil_or_concat base with rfl | ⟨ss, s, rfl⟩
  · have horigin : config.origin =
        config.scheme.name ++ [':', '/', '/'] ++ config.authority.toList := by
      simp [Config.origin]
    rw [Url.Path.render, List.flatMap_nil, List.append_nil, horigin,
      List.getLast?_append_of_ne_nil _ config.authority_ne_nil] at hc
    have hc := (Config.baseUri_of_build hclient).2 c (List.mem_of_getLast? hc)
    rintro rfl
    cases hc
  · obtain ⟨hs, halnum⟩ := hbase.plain s (by simp)
    have hrender : Url.Path.render (ss.concat s) = Url.Path.render ss ++ ['/'] ++ s := by
      simp [Url.Path.render]
    rw [hrender, ← List.append_assoc, List.getLast?_append_of_ne_nil _ hs] at hc
    have hc := halnum c (List.mem_of_getLast? hc)
    rintro rfl
    cases hc

theorem Client.Config.HasBase.join_user (username : String) :
    Client.join client.baseUri.toList ("/user/".toList ++ PathTemplate.encodeValue username) =
      config.origin ++
        Url.Path.render (base ++ ["user".toList, PathTemplate.encodeValue username]) := by
  obtain ⟨n, hpath⟩ := hbase.path
  have hrest : ∀ d ∈ ("user/".toList ++ PathTemplate.encodeValue username).head?, d ≠ '/' := by
    intro d hd
    cases hd
    decide
  have hjoin := Client.join_slashes (hbase.getLast?_origin hclient) hrest n
  rw [(Client.Config.baseUri_of_build hclient).1, hpath, ← List.append_assoc]
  refine hjoin.trans ?_
  simp [Url.Path.render]

/-- The address of a call that names a user, from what stands before its path. -/
theorem Call.url_eq_ok {call : Call} {username : String} {url : Url}
    (hcall : call.addressee? = some username) (hurl : call.url client = .ok url) :
    ∃ root, Url.parse (config.origin ++ ['/']) = .ok root ∧
      url = { root with path := Url.Path.userPath base username } := by
  rw [Call.url, bind_eq_ok] at hurl
  obtain ⟨request, hrequest, hurl⟩ := hurl
  obtain ⟨hpath, hquery⟩ := request_of_addressee? hcall hrequest
  rw [Client.url, hpath, Logged.result_bind_eq_ok] at hurl
  obtain ⟨path, hresolve, hurl⟩ := hurl
  rw [PathTemplate.resolve_user] at hresolve
  cases hresolve
  rw [String.toList_ofList, hbase.join_user hclient, Logged.result_bind_eq_ok] at hurl
  obtain ⟨url', hparse, hurl⟩ := hurl
  rw [hquery] at hurl
  cases hurl
  rw [Logged.result_ofExcept, mapError_eq_ok] at hparse
  have hbase' : ∀ s ∈ base, ∀ c ∈ s, c.isAlphanum := fun s hs => (hbase.plain s hs).2
  have hchars := Url.Path.isAlphanum_of_mem_user hbase' username
  have happend := Url.parse_append_path config.scheme (Client.Config.baseUri_of_build hclient).2
    (Url.isPathText_render (by simp) hchars) config.authority_ne_nil
  rw [← Client.Config.origin, hparse] at happend
  obtain ⟨root, hroot, hurl⟩ := map_eq_ok.mp happend.symm
  refine ⟨root, hroot, hurl.symm.trans ?_⟩
  have hpath := @Url.parsePath_render root.scheme.isSpecial _ (by simp) fun t ht c hc =>
    Url.Path.isSafe_of_isAlphanum (hchars t ht c hc)
  rw [hpath, Url.Path.resolve_user hbase']

theorem Call.readSegments_url {call : Call} {username : String} {url : Url}
    (hcall : call.addressee? = some username) (hurl : call.url client = .ok url) :
    url.readSegments =
      if username = ".." then base.map Utf8.encode ++ [[]]
      else base.map Utf8.encode ++
        [Utf8.ofString "user", Utf8.ofString (Url.Path.settledName username)] := by
  have hbase' : ∀ s ∈ base, ∀ c ∈ s, c.isAlphanum := fun s hs => (hbase.plain s hs).2
  obtain ⟨root, -, rfl⟩ := Call.url_eq_ok hclient hbase hcall hurl
  rw [Url.readSegments_eq_map, Url.Path.map_decode_userPath hbase']
  intro s hs c hc
  rcases Url.Path.of_mem_userPath hbase' hs hc with rfl | halnum
  · decide
  · rintro rfl
    cases halnum

theorem Call.readSegments_url_eq_iff {call : Call} {username : String} {url : Url}
    (hcall : call.addressee? = some username) (hurl : call.url client = .ok url) :
    url.readSegments = base.map Utf8.encode ++ [Utf8.ofString "user", Utf8.ofString username] ↔
      username ≠ "." ∧ username ≠ ".." := by
  rw [readSegments_url hclient hbase hcall hurl]
  by_cases htwo : username = ".."
  · rw [if_pos htwo]
    simp [htwo]
  · rw [if_neg htwo, List.append_cancel_left_eq, List.cons_inj_right, List.singleton_inj]
    have hsettled : Utf8.ofString (Url.Path.settledName username) = Utf8.ofString username ↔
        username ≠ "." := by
      constructor
      · rintro h rfl
        exact absurd (Utf8.ofString_injective h) (by decide)
      · intro hone
        rw [Url.Path.settledName, if_neg hone]
    simp [hsettled, htwo]

theorem Call.users_isPrefix_iff {call : Call} {username : String} {url : Url}
    (hcall : call.addressee? = some username) (hurl : call.url client = .ok url) :
    base.map Utf8.encode ++ [Utf8.ofString "user"] <+: url.readSegments ↔ username ≠ ".." := by
  rw [readSegments_url hclient hbase hcall hurl]
  by_cases htwo : username = ".."
  · have hempty : ¬ [Utf8.ofString "user"] <+: [([] : Bytes)] := by decide
    rw [if_pos htwo, List.prefix_append_right_inj]
    exact iff_of_false hempty (not_not_intro htwo)
  · rw [if_neg htwo, List.prefix_append_right_inj]
    simp [htwo]

theorem Call.url_eq_iff {call call' : Call} {username username' : String} {url url' : Url}
    (hcall : call.addressee? = some username) (hurl : call.url client = .ok url)
    (hcall' : call'.addressee? = some username') (hurl' : call'.url client = .ok url') :
    url = url' ↔ username = username' ∨
      (username = "" ∨ username = ".") ∧ (username' = "" ∨ username' = ".") := by
  constructor
  · rintro rfl
    have h := (readSegments_url hclient hbase hcall hurl).symm.trans
      (readSegments_url hclient hbase hcall' hurl')
    by_cases htwo : username = ".." <;> by_cases htwo' : username' = ".."
    · exact .inl (htwo.trans htwo'.symm)
    · simp [htwo, htwo'] at h
    · simp [htwo, htwo'] at h
    · rw [if_neg htwo, if_neg htwo', List.append_cancel_left_eq, List.cons_inj_right,
        List.singleton_inj] at h
      exact Url.Path.settledName_eq_iff.mp (Utf8.ofString_injective h)
  · intro h
    obtain ⟨root, hroot, rfl⟩ := url_eq_ok hclient hbase hcall hurl
    obtain ⟨root', hroot', rfl⟩ := url_eq_ok hclient hbase hcall' hurl'
    cases hroot.symm.trans hroot'
    rw [Url.Path.userPath_congr (Url.Path.settledName_eq_iff.mpr h)]

/-- The address of a call that names a user spells the base path, `user` and the name, unless the
name is `.` or `..`. It stays among the users unless the name is `..`. The addresses of two calls
agree exactly if the names do or are both one of the empty name and `.`. -/
theorem Call.url_addresses_user_iff {call call' : Call} {username username' : String}
    {url url' : Url} (hcall : call.addressee? = some username) (hurl : call.url client = .ok url)
    (hcall' : call'.addressee? = some username') (hurl' : call'.url client = .ok url') :
    (url.readSegments = base.map Utf8.encode ++ [Utf8.ofString "user", Utf8.ofString username] ↔
      username ≠ "." ∧ username ≠ "..") ∧
    (base.map Utf8.encode ++ [Utf8.ofString "user"] <+: url.readSegments ↔ username ≠ "..") ∧
    (url = url' ↔ username = username' ∨
      (username = "" ∨ username = ".") ∧ (username' = "" ∨ username' = ".")) := by
  refine ⟨?_, ?_, ?_⟩
  · exact readSegments_url_eq_iff hclient hbase hcall hurl
  · exact users_isPrefix_iff hclient hbase hcall hurl
  · exact url_eq_iff hclient hbase hcall hurl hcall' hurl'

end

theorem Client.Config.hasBase_preset : ({} : Config).HasBase ["v2".toList] where
  plain := List.forall_mem_singleton.mpr ⟨by decide, List.forall_iff_forall_mem.mp (by decide)⟩
  path := ⟨0, by decide⟩

/-- A slash in a name stays within its segment, two dots lead out of the users. -/
theorem Call.url_addresses_user_slash :
    ∃ url url', (getUserByName (some "a/b")).url .preset = .ok url ∧
      (deleteUser (some "..")).url .preset = .ok url' ∧
      url.readSegments = ["v2", "user", "a/b"].map Utf8.ofString ∧
      ¬ ["v2", "user"].map Utf8.ofString <+: url'.readSegments := by
  have hbuild : ({} : Client.Config).build = .ok .preset := by rfl
  have hurl : (getUserByName (some "a/b")).url .preset =
      .ok (.preset ["v2".toList, "user".toList, "a%2Fb".toList]) := by rfl
  have hurl' : (deleteUser (some "..")).url .preset = .ok (.preset ["v2".toList, []]) := by rfl
  obtain ⟨hsegments, -, -⟩ :=
    url_addresses_user_iff hbuild Client.Config.hasBase_preset rfl hurl rfl hurl'
  obtain ⟨-, hprefix, -⟩ :=
    url_addresses_user_iff hbuild Client.Config.hasBase_preset rfl hurl' rfl hurl
  exact ⟨_, _, hurl, hurl', hsegments.mpr (by decide), fun h => hprefix.mp h rfl⟩

/-- The name `.` is lost from its address, which is that of the empty name. -/
theorem Call.url_user_dot :
    ∃ url, ({} : Client.Config).build = .ok .preset ∧
      (deleteUser (some ".")).url .preset = .ok url ∧ (deleteUser (some "")).url .preset = .ok url ∧
      url.readSegments ≠ ["v2", "user", "."].map Utf8.ofString :=
  ⟨.preset ["v2".toList, "user".toList, []], by rfl, by rfl, by rfl, by decide⟩

end StoreClient
