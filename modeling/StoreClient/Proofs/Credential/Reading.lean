import Mathlib.Data.List.TakeWhile
import StoreClient.Credential.Basic
import StoreClient.Proofs.Http.Header
import StoreClient.Proofs.Logged
import StoreClient.Proofs.Text.Base64

/-!
A name and a password are read back from their header. Whoever decodes what follows the scheme and
cuts it at the first colon has the bytes of both, for no name with a colon becomes a header; and any
other name and password always do, since the digits of Base64 are legal in a header whatever they
stand for (`header_basic`).
-/

namespace StoreClient.Credential

/-! ### Cutting at the colon -/

/-- The bytes before the first colon, and those after it. -/
def splitAtColon (bs : Bytes) : Option (Bytes × Bytes) :=
  match bs.dropWhile (· ≠ 0x3A) with
  | [] => none
  | _ :: back => some (bs.takeWhile (· ≠ 0x3A), back)

/-- The name and the password that a text spells. -/
def readBasic (text : String) : Option (Bytes × Bytes) :=
  (Base64.decode text.toList).bind splitAtColon

theorem splitAtColon_append {front : Bytes} (h : 0x3A ∉ front) (back : Bytes) :
    splitAtColon (front ++ 0x3A :: back) = some (front, back) := by
  have hfront : ∀ b ∈ front, decide (b ≠ 0x3A) = true := by
    intro b hb
    apply decide_eq_true
    rintro rfl
    exact h hb
  rw [splitAtColon, List.dropWhile_append_of_pos hfront, List.takeWhile_append_of_pos hfront,
    List.dropWhile_cons_of_neg (by decide), List.takeWhile_cons_of_neg (by decide),
    List.append_nil]

theorem splitAtColon_eq_some_iff {bs front back : Bytes} :
    splitAtColon bs = some (front, back) ↔ bs = front ++ 0x3A :: back ∧ 0x3A ∉ front := by
  constructor
  · intro h
    by_cases hcolon : 0x3A ∈ bs
    · obtain ⟨front', back', rfl, hfront'⟩ := List.eq_append_cons_of_mem hcolon
      rw [splitAtColon_append hfront'] at h
      cases h
      exact ⟨rfl, hfront'⟩
    · have hdrop : bs.dropWhile (· ≠ 0x3A) = [] := by
        apply List.dropWhile_eq_nil_iff.mpr
        intro b hb
        apply decide_eq_true
        rintro rfl
        exact hcolon hb
      rw [splitAtColon, hdrop] at h
      cases h
  · rintro ⟨rfl, hfront⟩
    exact splitAtColon_append hfront back

/-- The byte of a colon is that of no other character. -/
theorem colon_mem_encode_iff {cs : List Char} : 0x3A ∈ Utf8.encode cs ↔ ':' ∈ cs := by
  constructor
  · intro h
    obtain ⟨c, hc, hb⟩ := List.mem_flatMap.mp h
    have hn : c.toNat = 0x3A := by
      rcases Utf8.of_mem_encodeChar hb with hn | hn
      · exact hn.symm
      · exact absurd hn (by decide)
    have hcolon : c = ':' := Char.toNat_inj.mp hn
    rwa [← hcolon]
  · intro h
    exact List.mem_flatMap.mpr ⟨':', h, by decide⟩

theorem ofString_joined (username password : String) :
    Utf8.ofString (username ++ ":" ++ password) =
      Utf8.ofString username ++ 0x3A :: Utf8.ofString password := by
  rw [Utf8.ofString, String.toList_append, String.toList_append, Utf8.encode_append,
    Utf8.encode_append, List.append_assoc]
  rfl

/-- A text spells a name and a password exactly if it is what they are written as and no colon is in
the name. -/
theorem readBasic_eq_some_iff {text username password : String} :
    readBasic text = some (Utf8.ofString username, Utf8.ofString password) ↔
      ':' ∉ username.toList ∧ text = encodeBasic username password := by
  have htext (bs : Bytes) : text.toList = Base64.encode bs ↔
      text = String.ofList (Base64.encode bs) := by
    rw [← String.toList_inj, String.toList_ofList]
  simp only [readBasic, Option.bind_eq_some_iff, Base64.decode_eq_some_iff,
    splitAtColon_eq_some_iff]
  rw [encodeBasic, ofString_joined, ← htext, Utf8.ofString, colon_mem_encode_iff]
  constructor
  · rintro ⟨bs, hbs, rfl, hcolon⟩
    exact ⟨hcolon, hbs⟩
  · rintro ⟨hcolon, hbs⟩
    exact ⟨_, hbs, rfl, hcolon⟩

/-! ### The header -/

theorem isValueChar_of_mem_encode {bs : Bytes} {c : Char} (h : c ∈ Base64.encode bs) :
    Header.isValueChar c := by
  have hdigit : ∀ n < 64, Header.isValueChar (Base64.digit n) := by decide
  rcases Base64.of_mem_encode h with rfl | ⟨n, hn, rfl⟩
  · rfl
  · exact hdigit n hn

theorem toList_encodeBasic (username password : String) :
    (encodeBasic username password).toList =
      Base64.encode (Utf8.ofString (username ++ ":" ++ password)) :=
  String.toList_ofList

theorem parseValue_basic (username password : String) :
    Header.parseValue ("Basic " ++ encodeBasic username password) =
      .ok ("Basic " ++ encodeBasic username password) := by
  have hscheme : Header.IsValue "Basic " := List.all_eq_true.mp rfl
  refine Header.parseValue_eq_ok_iff.mpr ⟨?_, rfl⟩
  rw [Header.IsValue, String.toList_append, toList_encodeBasic]
  intro c hc
  rcases List.mem_append.mp hc with hc | hc
  · exact hscheme c hc
  · exact isValueChar_of_mem_encode hc

theorem header_of_colon {username : String} (h : ':' ∈ username.toList) (password : Secret) :
    (basic username password).header = .error .usernameColon := by
  rw [header, if_pos (by simpa using h)]
  rfl

theorem header_of_not_colon {username : String} (h : ':' ∉ username.toList) (password : Secret) :
    (basic username password).header =
      .ok (authorization, "Basic " ++ encodeBasic username password.value) := by
  rw [header, if_neg (by simpa using h), parseValue_basic]
  rfl

/-- The header of a name and a password is the one whose value spells them. -/
theorem header_basic_eq_ok_iff {username : String} {password : Secret} {name value : String} :
    (basic username password).header = .ok (name, value) ↔
      name = authorization ∧ ∃ text, value = "Basic " ++ text ∧
        readBasic text = some (Utf8.ofString username, Utf8.ofString password.value) := by
  constructor
  · intro h
    by_cases hcolon : ':' ∈ username.toList
    · rw [header_of_colon hcolon] at h
      cases h
    · rw [header_of_not_colon hcolon] at h
      cases h
      exact ⟨rfl, _, rfl, readBasic_eq_some_iff.mpr ⟨hcolon, rfl⟩⟩
  · rintro ⟨rfl, text, rfl, htext⟩
    obtain ⟨hcolon, rfl⟩ := readBasic_eq_some_iff.mp htext
    exact header_of_not_colon hcolon password

theorem header_basic_inj {username username' : String} {password password' : Secret}
    {field : String × String} (h : (basic username password).header = .ok field)
    (h' : (basic username' password').header = .ok field) :
    username = username' ∧ password = password' := by
  obtain ⟨-, text, hvalue, htext⟩ := header_basic_eq_ok_iff.mp h
  obtain ⟨-, text', hvalue', htext'⟩ := header_basic_eq_ok_iff.mp h'
  obtain rfl : text = text' := String.append_right_inj _ |>.mp (hvalue.symm.trans hvalue')
  obtain ⟨husername, hpassword⟩ := Prod.mk.inj (Option.some.inj (htext.symm.trans htext'))
  refine ⟨Utf8.ofString_injective husername, ?_⟩
  cases password
  cases password'
  exact congrArg _ (Utf8.ofString_injective hpassword)

/-- A name and a password become a header exactly if no colon is in the name, and nothing else is
ever to blame. The header is the one whose value spells them in Base64, so different names or
passwords have different headers. -/
theorem header_basic (username : String) (password : Secret) :
    ((∃ field, (basic username password).header = .ok field) ↔ ':' ∉ username.toList) ∧
    (∀ e, (basic username password).header = .error e ↔
      ':' ∈ username.toList ∧ e = .usernameColon) ∧
    (∀ name value, (basic username password).header = .ok (name, value) ↔
      name = authorization ∧ ∃ text, value = "Basic " ++ text ∧
        readBasic text = some (Utf8.ofString username, Utf8.ofString password.value)) ∧
    ∀ username' password' field, (basic username password).header = .ok field →
      (basic username' password').header = .ok field →
      username = username' ∧ password = password' := by
  refine ⟨?_, ?_, fun name value => header_basic_eq_ok_iff, fun _ _ _ => header_basic_inj⟩
  · by_cases hcolon : ':' ∈ username.toList
    · simp [header_of_colon hcolon, hcolon]
    · simp [header_of_not_colon hcolon, hcolon]
  · intro e
    by_cases hcolon : ':' ∈ username.toList
    · simp [header_of_colon hcolon, hcolon, eq_comm]
    · simp [header_of_not_colon hcolon, hcolon]

example : (basic "user" ⟨"pass"⟩).header = .ok (authorization, "Basic dXNlcjpwYXNz") := by rfl

end StoreClient.Credential
