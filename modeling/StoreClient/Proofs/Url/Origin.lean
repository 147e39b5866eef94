import StoreClient.Proofs.Url.Address

/-!
Hosts with ports. A host name written in plain characters and a port are an authority
(`Authority.check_eq_ok`), from which an address is read with this host and this port
(`Url.parse_origin`); the port of the scheme need not be named.
-/

namespace StoreClient

/-! ### Authorities -/

namespace Authority

theorem ne_of_isPlain {c : Char} (h : isPlain c) :
    c ≠ ':' ∧ c ≠ '[' ∧ c ≠ ']' ∧ c ≠ '@' ∧ c ≠ '%' := by
  refine ⟨?_, ?_, ?_, ?_, ?_⟩ <;> (rintro rfl; cases h)

theorem forall_isPlain_toDigits (n : Nat) : ∀ c ∈ Nat.toDigits 10 n, isPlain c := by
  intro c hc
  rw [isPlain, Char.isAlphanum, isDigit_of_mem_toDigits c hc, Bool.or_true, Bool.true_or]

theorem step_of_isPlain {st : State} {c : Char} (h : isPlain c) :
    st.step c = .ok { st with userEnded := false } := by
  obtain ⟨hcolon, hopen, hclose, hat, hpercent⟩ := ne_of_isPlain h
  rw [State.step, if_neg hcolon, if_neg hopen, if_neg hclose, if_neg hat, if_neg hpercent, if_pos h,
    decide_eq_false hat]

/-- Plain characters change nothing but that an `@` may have come last. -/
theorem foldlM_of_isPlain {cs : List Char} (hcs : ∀ c ∈ cs, isPlain c) {st : State}
    (hst : st.userEnded = false) : cs.foldlM State.step st = .ok st := by
  induction cs with
  | nil => rfl
  | cons c cs ih =>
    obtain ⟨hc, hcs⟩ := List.forall_mem_cons.mp hcs
    have hstep : st.step c = .ok st := by
      rw [step_of_isPlain hc, ← hst]
    rw [List.foldlM_cons, hstep]
    exact ih hcs

section
variable {host port : List Char} (hhost : ∀ c ∈ host, isPlain c) (hport : ∀ c ∈ port, isPlain c)
include hhost hport

theorem isAllowed_of_mem_authority : ∀ c ∈ host ++ ':' :: port, isAllowed c := by
  have hplain : ∀ c, isPlain c → isAllowed c := fun c hc => by rw [isAllowed, hc, Bool.true_or]
  intro c hc
  rcases List.mem_append.mp hc with hc | hc
  · exact hplain c (hhost c hc)
  · rcases List.mem_cons.mp hc with rfl | hc
    · rfl
    · exact hplain c (hport c hc)

/-- A host and a port with a colon between them are an authority. -/
theorem check_eq_ok : check (host ++ ':' :: port) = .ok () := by
  have hends : ∀ c ∈ host ++ ':' :: port, endsHere c = false := by
    intro c hc
    have hallowed := isAllowed_of_mem_authority hhost hport c hc
    rw [Bool.eq_false_iff]
    intro hend
    simp only [endsHere, Bool.or_eq_true, beq_iff_eq] at hend
    rcases hend with (rfl | rfl) | rfl <;> cases hallowed
  have hall : (host ++ ':' :: port).takeWhile (fun c => !endsHere c) = host ++ ':' :: port :=
    List.takeWhile_eq_self_iff.mpr fun c hc => by rw [hends c hc]; rfl
  have hany : (host ++ ':' :: port).any endsHere = false :=
    List.any_eq_false.mpr fun c hc => Bool.eq_false_iff.mp (hends c hc)
  have hfold : (host ++ ':' :: port).foldlM State.step State.initial =
      .ok { State.initial with colons := 1 } := by
    rw [List.foldlM_append, @foldlM_of_isPlain host hhost State.initial rfl]
    exact @foldlM_of_isPlain port hport { State.initial with colons := 1 } rfl
  rw [check, hall, hany, hfold]
  rfl

end

end Authority

/-! ### Schemes -/

namespace Scheme

/-- Whether addresses of a scheme have a host and a port: its name begins with a letter and is not
that of files. -/
def hasPort (scheme : Scheme) : Bool := (read? scheme.name).any (· ≠ .file)

theorem hasPort_iff {scheme : Scheme} :
    scheme.hasPort ↔ ∃ read, read? scheme.name = some read ∧ read ≠ .file := by
  rw [hasPort]
  cases read? scheme.name <;> simp

example : [http, https, ws, wss, ftp].all hasPort ∧ ¬ file.hasPort := by decide

end Scheme

namespace Url

/-! ### Ports -/

/-- A port is read from its digits. -/
theorem parsePort_toDigits (scheme : Scheme) {n : Nat} (hn : n ≤ 65535) :
    parsePort scheme (Nat.toDigits 10 n) =
      .ok (if scheme.defaultPort? = some n then none else some n) := by
  have hdigits : (Nat.toDigits 10 n).all Char.isDigit :=
    List.all_eq_true.mpr isDigit_of_mem_toDigits
  have hne : (Nat.toDigits 10 n).isEmpty = false := by simp [Nat.toDigits_ne_nil]
  rw [parsePort, hdigits, Bool.not_true, if_neg Bool.false_ne_true]
  simp only [foldl_toDigits]
  rw [if_neg (by omega), hne, Bool.false_or]
  simp only [decide_eq_true_eq]

theorem splitPort_append {host : List Char} (hhost : ∀ c ∈ host, Authority.isPlain c)
    (port : List Char) : splitPort false (host ++ ':' :: port) = (host, some port) := by
  induction host with
  | nil => rfl
  | cons c host ih =>
    obtain ⟨hc, hhost⟩ := List.forall_mem_cons.mp hhost
    obtain ⟨hcolon, hopen, hclose, -, -⟩ := Authority.ne_of_isPlain hc
    rw [List.cons_append, splitPort, if_neg (fun h => hcolon h.1), if_neg hopen, if_neg hclose]
    simp only [ih hhost]

/-- Without an `@` there is no user. -/
theorem splitUser_of_forall {authority : List Char} (h : ∀ c ∈ authority, c ≠ '@') :
    splitUser authority = (none, authority) := by
  have hsplit : splitBefore (· == '@') authority.reverse = (authority.reverse, []) :=
    splitBefore_of_forall fun c hc => beq_false_of_ne (h c (List.mem_reverse.mp hc))
  rw [splitUser, hsplit]

/-- The address of a path at a host and a port. -/
def ofOrigin (scheme : Scheme) (host : Host) (port : Nat) (path : List (List Char)) : Url where
  scheme
  user := []
  password := []
  host
  port := if scheme.defaultPort? = some port then none else some port
  path
  query := none
  fragment := none

section
variable {name : List Char} (hname : ∀ c ∈ name, Authority.isPlain c)
include hname

/-- What is read as an authority of a host and a port, unless it is that of a file. -/
theorem splitAuthority_origin {scheme : Scheme} (hfile : scheme ≠ .file) (n : Nat) :
    splitAuthority scheme (name ++ ':' :: Nat.toDigits 10 n) =
      (none, name, some (Nat.toDigits 10 n)) := by
  have hport := Authority.forall_isPlain_toDigits n
  have huser : ∀ c ∈ name ++ ':' :: Nat.toDigits 10 n, c ≠ '@' := by
    intro c hc
    rcases List.mem_append.mp hc with hc | hc
    · exact (Authority.ne_of_isPlain (hname c hc)).2.2.2.1
    rcases List.mem_cons.mp hc with rfl | hc
    · decide
    · exact (Authority.ne_of_isPlain (hport c hc)).2.2.2.1
  rw [splitAuthority, if_neg hfile, splitUser_of_forall huser]
  exact congrArg (none, ·) (splitPort_append hname _)

/-- What is read from a scheme, a host and a port. -/
theorem parse_origin {scheme read : Scheme} (hread : Scheme.read? scheme.name = some read)
    (hfile : read ≠ .file) {host : Host} (hhost : Host.parse read.isSpecial name = .ok host)
    {n : Nat} (hn : n ≤ 65535) :
    parse (scheme.name ++ ':' :: '/' :: '/' :: (name ++ ':' :: Nat.toDigits 10 n) ++ ['/']) =
      .ok (ofOrigin read host n [[]]) := by
  have hroot : IsPathText ['/'] := ⟨rfl, List.forall_iff_forall_mem.mp (by decide)⟩
  have hauth := Authority.isAllowed_of_mem_authority hname (Authority.forall_isPlain_toDigits n)
  have hne : name ++ ':' :: Nat.toDigits 10 n ≠ [] :=
    List.append_ne_nil_of_right_ne_nil _ (List.cons_ne_nil _ _)
  simp only [parse, clean_address scheme hauth hroot, splitScheme?_name, hread, Option.map_some,
    dropSlashes_authority read hauth hne, splitBefore_authority hauth hroot,
    splitAuthority_origin hname hfile, hhost, splitBefore_pathText hroot]
  change (parsePort read (Nat.toDigits 10 n) >>= _) = _
  rw [parsePort_toDigits read hn]
  rfl

end

end Url

end StoreClient
