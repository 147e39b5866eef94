import StoreClient.Credential.Basic
import StoreClient.Proofs.Logged
import StoreClient.Proofs.Text.Boundary

/-!
What texts tell about a secret. Two credentials that differ in their secret alone are described
alike and are refused alike, since a refusal follows from what is public of them
(`eq_refusal_of_header_eq_error`). A mask tells the first and the last four bytes of a long secret
at most: whether they are whole characters, and which, can be read off these bytes alone
(`Secret.Shown.unique`), for a character begins at a byte that continues none.
-/

namespace StoreClient

namespace Secret

def bytes (secret : Secret) : Bytes := Utf8.ofString secret.value

/-- What is shown of some bytes of a secret: their characters, or nothing if they cut one. -/
def Shown (bytes : Bytes) (cs : List Char) : Prop :=
  Utf8.encode cs = bytes ∨ cs = [] ∧ ∀ cs', Utf8.encode cs' ≠ bytes

/-- Whether two secrets are both short, or both long with the same four bytes at either end. -/
def LookAlike (s t : Secret) : Prop :=
  s.bytes.length ≤ 8 ∧ t.bytes.length ≤ 8 ∨
    (8 < s.bytes.length ∧ 8 < t.bytes.length) ∧ s.bytes.take 4 = t.bytes.take 4 ∧
      s.bytes.drop (s.bytes.length - 4) = t.bytes.drop (t.bytes.length - 4)

instance (s t : Secret) : Decidable (LookAlike s t) := inferInstanceAs (Decidable (_ ∨ _))

/-! ### The ends of a secret -/

theorem Shown.unique {bytes : Bytes} {cs ds : List Char} (h : Shown bytes cs)
    (h' : Shown bytes ds) : cs = ds := by
  obtain h | ⟨rfl, h⟩ := h
  · obtain h' | ⟨-, h'⟩ := h'
    · exact Utf8.encode_injective (h.trans h'.symm)
    · exact (h' cs h).elim
  · obtain h' | ⟨rfl, -⟩ := h'
    · exact (h ds h').elim
    · rfl

section
variable {front back cs : List Char}

theorem take_encode_append (front back : List Char) :
    (Utf8.encode (front ++ back)).take (Utf8.size front) = Utf8.encode front := by
  rw [Utf8.encode_append, Utf8.size, List.take_left']
  rfl

theorem drop_encode_append (front back : List Char) :
    (Utf8.encode (front ++ back)).drop (Utf8.size front) = Utf8.encode back := by
  rw [Utf8.encode_append, Utf8.size, List.drop_left']
  rfl

theorem shown_head (h : 4 ≤ Utf8.size cs) : Shown ((Utf8.encode cs).take 4) (head cs) := by
  rw [head]
  cases hsplit : Utf8.splitBytes? 4 cs with
  | some split =>
    obtain ⟨rfl, hsize⟩ := Utf8.splitBytes?_eq_some_iff.mp hsplit
    rw [← hsize]
    exact .inl (take_encode_append _ _).symm
  | none =>
    refine .inr ⟨rfl, fun front hfront => ?_⟩
    have hbytes : Utf8.encode cs = Utf8.encode front ++ (Utf8.encode cs).drop 4 := by
      rw [hfront, List.take_append_drop]
    obtain ⟨back, rfl, -⟩ := Utf8.exists_of_encode_eq_append hbytes
    have hsize : Utf8.size front = 4 := by
      rw [Utf8.size, hfront, List.length_take]
      exact Nat.min_eq_left h
    rw [Utf8.splitBytes?_eq_some_iff.mpr ⟨rfl, hsize⟩] at hsplit
    cases hsplit

theorem shown_tail (h : 4 ≤ Utf8.size cs) :
    Shown ((Utf8.encode cs).drop (Utf8.size cs - 4)) (tail cs) := by
  rw [tail]
  cases hsplit : Utf8.splitBytes? (Utf8.size cs - 4) cs with
  | some split =>
    obtain ⟨hcs, hsize⟩ := Utf8.splitBytes?_eq_some_iff.mp hsplit
    rw [← hsize, hcs]
    exact .inl (drop_encode_append _ _).symm
  | none =>
    refine .inr ⟨rfl, fun back hback => ?_⟩
    have hbytes : Utf8.encode cs =
        (Utf8.encode cs).take (Utf8.size cs - 4) ++ Utf8.encode back := by
      rw [hback, List.take_append_drop]
    obtain ⟨front, rfl, hfront⟩ := Utf8.exists_of_encode_append_eq hbytes
    have hsize : Utf8.size front = Utf8.size (front ++ back) - 4 := by
      rw [Utf8.size, ← hfront, List.length_take]
      exact Nat.min_eq_left (Nat.sub_le _ _)
    rw [Utf8.splitBytes?_eq_some_iff.mpr ⟨rfl, hsize⟩] at hsplit
    cases hsplit

theorem head_prefix (cs : List Char) : head cs <+: cs := by
  rw [head]
  split
  · next front back h => exact ⟨back, (Utf8.splitBytes?_eq_some_iff.mp h).1.symm⟩
  · exact List.nil_prefix

theorem tail_suffix (cs : List Char) : tail cs <:+ cs := by
  rw [tail]
  split
  · next front back h => exact ⟨front, (Utf8.splitBytes?_eq_some_iff.mp h).1.symm⟩
  · exact List.nil_suffix

end

theorem mask_of_length_le {s : Secret} (h : s.bytes.length ≤ 8) : s.mask = "***" := if_pos h

theorem mask_of_lt_length {s : Secret} (h : 8 < s.bytes.length) : s.mask =
    String.ofList (head s.value.toList ++ ['.', '.', '.'] ++ tail s.value.toList) :=
  if_neg (Nat.not_le_of_lt h)

theorem mask_congr {s t : Secret} (h : LookAlike s t) : s.mask = t.mask := by
  obtain ⟨hs, ht⟩ | ⟨⟨hs, ht⟩, hhead, htail⟩ := h
  · rw [mask_of_length_le hs, mask_of_length_le ht]
  · have hs' : 4 ≤ Utf8.size s.value.toList := Nat.le_trans (by decide) (Nat.le_of_lt hs)
    have ht' : 4 ≤ Utf8.size t.value.toList := Nat.le_trans (by decide) (Nat.le_of_lt ht)
    have hhead : head s.value.toList = head t.value.toList :=
      (shown_head hs').unique (hhead ▸ shown_head ht')
    have htail : tail s.value.toList = tail t.value.toList :=
      (shown_tail hs').unique (htail ▸ shown_tail ht')
    rw [mask_of_lt_length hs, mask_of_lt_length ht, hhead, htail]

/-- The mask of a long secret shows whole characters from its ends, or nothing of an end. -/
theorem exists_mask_eq {s : Secret} (h : 8 < s.bytes.length) :
    ∃ front middle back head tail, s.bytes = front ++ middle ++ back ∧
      front.length = 4 ∧ back.length = 4 ∧ Shown front head ∧ Shown back tail ∧
      head <+: s.value.toList ∧ tail <:+ s.value.toList ∧
      s.mask = String.ofList (head ++ ['.', '.', '.'] ++ tail) := by
  have hlong : 4 ≤ Utf8.size s.value.toList := Nat.le_trans (by decide) (Nat.le_of_lt h)
  refine ⟨s.bytes.take 4, (s.bytes.drop 4).take (s.bytes.length - 8),
    s.bytes.drop (s.bytes.length - 4), head s.value.toList, tail s.value.toList, ?_, ?_, ?_,
    shown_head hlong, shown_tail hlong, head_prefix _, tail_suffix _, mask_of_lt_length h⟩
  · have hdrop : s.bytes.drop (s.bytes.length - 4) =
        (s.bytes.drop 4).drop (s.bytes.length - 8) := by
      rw [List.drop_drop]
      congr 1
      omega
    rw [hdrop, List.append_assoc, List.take_append_drop, List.take_append_drop]
  · rw [List.length_take]
    omega
  · rw [List.length_drop]
    omega

end Secret

namespace Credential

/-- Whether two credentials are of one scheme and differ in nothing but their secret. -/
inductive AgreeButSecret : Credential → Credential → Prop where
  | bearer (token token' : Secret) : AgreeButSecret (.bearer token) (.bearer token')
  | basic (username : String) (password password' : Secret) :
      AgreeButSecret (.basic username password) (.basic username password')
  | apiKey (headerName : String) (key key' : Secret) :
      AgreeButSecret (.apiKey headerName key) (.apiKey headerName key')

def secret : Credential → Secret
  | .bearer token => token
  | .basic _ password => password
  | .apiKey _ key => key

/-- Why credentials are refused, if they are: it depends on what is public of them. -/
def refusal : Credential → Error
  | .bearer _ => .bearerToken
  | .basic username _ => if username.toList.elem ':' then .usernameColon else .password
  | .apiKey headerName _ =>
    match Header.parseName headerName with
    | .ok _ => .apiKey
    | .error _ => .headerName headerName

theorem eq_refusal_of_header_eq_error {credential : Credential} {e : Error}
    (h : credential.header = .error e) : e = credential.refusal := by
  have hvalue {text : String} {e' : Error} {k : String → String × String}
      (h : (do return k (← (Header.parseValue text).mapError fun _ => e')) =
        Except.error e) : e = e' := by
    obtain ⟨_, -, rfl⟩ := mapError_eq_error.mp (bind_pure_eq_error_iff.mp h)
    rfl
  cases credential with
  | bearer token => exact hvalue h
  | basic username password =>
    rw [header] at h
    rw [refusal]
    split
    · next hcolon =>
      rw [if_pos hcolon] at h
      cases h
      rfl
    · next hcolon =>
      rw [if_neg hcolon] at h
      exact hvalue h
  | apiKey headerName key =>
    rw [header] at h
    rw [refusal]
    cases hname : Header.parseName headerName with
    | error cause =>
      rw [hname] at h
      cases h
      rfl
    | ok name =>
      rw [hname] at h
      exact hvalue h

/-- Credentials that differ in their secret alone cannot be told apart by what is written about
them. Their descriptions are equal, and so are their refusals, with their messages. Their displays
are equal if the secrets are both short or have the same ends, for a name and a password in any
case. The display of a long secret shows four bytes at either end, and where these do not spell
characters, nothing. -/
theorem texts_eq_of_agreeButSecret {a b : Credential} (h : AgreeButSecret a b) :
    a.describe = b.describe ∧
    (∀ e e', a.header = .error e → b.header = .error e' → e = e' ∧ e.message = e'.message) ∧
    (a.secret.LookAlike b.secret → a.display = b.display) ∧
    (∀ username password, a = .basic username password → a.display = b.display) ∧
    (8 < a.secret.bytes.length →
      ∃ front middle back head tail, a.secret.bytes = front ++ middle ++ back ∧
        front.length = 4 ∧ back.length = 4 ∧ Secret.Shown front head ∧ Secret.Shown back tail ∧
        head <+: a.secret.value.toList ∧ tail <:+ a.secret.value.toList ∧
        a.secret.mask = String.ofList (head ++ ['.', '.', '.'] ++ tail)) := by
  refine ⟨?_, fun e e' he he' => ?_, fun hlook => ?_, fun username password ha => ?_,
    Secret.exists_mask_eq⟩
  · cases h <;> rfl
  · have hrefusal : a.refusal = b.refusal := by cases h <;> rfl
    have heq : e = e' := by
      rw [eq_refusal_of_header_eq_error he, eq_refusal_of_header_eq_error he', hrefusal]
    exact ⟨heq, congrArg _ heq⟩
  · have hmask : a.secret.mask = b.secret.mask := Secret.mask_congr hlook
    cases h with
    | bearer => exact congrArg ("Bearer " ++ ·) hmask
    | basic => rfl
    | apiKey headerName =>
      exact congrArg (fun mask => "ApiKey (" ++ headerName ++ ": " ++ mask ++ ")") hmask
  · subst ha
    cases h
    rfl

/-- Two keys that differ between their ends, of which the first four bytes are three characters. -/
theorem texts_eq_of_agreeButSecret_keys :
    AgreeButSecret (.apiKey "api_key" ⟨"übe-one-1234"⟩) (.apiKey "api_key" ⟨"übe-other-1234"⟩) ∧
      (Credential.apiKey "api_key" ⟨"übe-one-1234"⟩).display =
        (Credential.apiKey "api_key" ⟨"übe-other-1234"⟩).display :=
  have h : AgreeButSecret (.apiKey "api_key" ⟨"übe-one-1234"⟩)
    (.apiKey "api_key" ⟨"übe-other-1234"⟩) := .apiKey ..
  ⟨h, (texts_eq_of_agreeButSecret h).2.2.1 (by decide)⟩

end Credential

end StoreClient
