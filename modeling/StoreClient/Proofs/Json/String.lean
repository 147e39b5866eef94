import StoreClient.Proofs.Json.Reads

/-!
Strings are read back. Each character is written as itself or as an escape, and either way the
reader makes its bytes of it (`stringBytes_escapeChar`); after the last one the closing quote ends
the string.
-/

namespace StoreClient.Json

section
variable {rest value s : Bytes} (hrest : stringBytes 0 rest = .ok (value, s))
include hrest

/-- Bytes that are neither a quote nor a backslash nor below the space are taken as they are. -/
theorem stringBytes_plain {bs : Bytes}
    (hbs : ∀ b ∈ bs, b ≠ Ascii.quote ∧ b ≠ Ascii.backslash ∧ ¬ b < Ascii.space) :
    stringBytes 0 (bs ++ rest) = .ok (bs ++ value, s) := by
  induction bs with
  | nil => exact hrest
  | cons b bs ih =>
    obtain ⟨⟨hquote, hbackslash, hspace⟩, hbs⟩ := List.forall_mem_cons.mp hbs
    rw [List.cons_append, stringBytes, if_neg hquote, if_neg hbackslash, if_neg hspace, ih hbs]
    rfl

/-- An escape is taken for its character. -/
theorem stringBytes_escape {bs : Bytes} {c : Char}
    (h : escape (bs ++ rest) = .ok (c, bs.length)) :
    stringBytes 0 (Ascii.backslash :: bs ++ rest) = .ok (Utf8.encodeChar c ++ value, s) := by
  have hskip : stringBytes bs.length (bs ++ rest) = .ok (value, s) := by
    clear h
    induction bs with
    | nil => exact hrest
    | cons b bs ih => exact ih
  rw [List.cons_append, stringBytes, if_neg (by decide), if_pos rfl, h]
  simp only [hskip]
  rfl

end

theorem plain_of_mem_encodeChar {c : Char} (hquote : c ≠ '"') (hbackslash : c ≠ '\\')
    (hspace : 0x20 ≤ c.toNat) {b : UInt8} (hb : b ∈ Utf8.encodeChar c) :
    b ≠ Ascii.quote ∧ b ≠ Ascii.backslash ∧ ¬ b < Ascii.space := by
  have hquote : c.toNat ≠ 0x22 := fun h => hquote (Char.toNat_inj.mp h)
  have hbackslash : c.toNat ≠ 0x5C := fun h => hbackslash (Char.toNat_inj.mp h)
  have hbyte := Utf8.of_mem_encodeChar hb
  refine ⟨?_, ?_, ?_⟩
  · rintro rfl
    have hn : Ascii.quote.toNat = 0x22 := rfl
    omega
  · rintro rfl
    have hn : Ascii.backslash.toNat = 0x5C := rfl
    omega
  · have hn : Ascii.space.toNat = 0x20 := rfl
    rw [UInt8.lt_iff_toNat_lt]
    omega

theorem hexValue?_digitChar : ∀ n < 16,
    (Utf8.encodeChar n.digitChar).map Ascii.hexValue? = [some n] := by decide

theorem escape_short {b : UInt8} {c : Char} (hb : b ≠ Ascii.lowerU) (h : shortEscape? b = some c)
    (rest : Bytes) : escape ([b] ++ rest) = .ok (c, 1) := by
  rw [List.singleton_append, escape, if_neg hb, h]

/-- Control characters without an escape of their own are written by their code. -/
theorem escape_code {n : Nat} (hn : n < 0x20) (rest : Bytes) :
    let bs := Utf8.encode ['u', '0', '0', (n / 16).digitChar, (n % 16).digitChar]
    escape (bs ++ rest) = .ok (Char.ofNat n, bs.length) := by
  obtain ⟨high, hhigh, hhigh'⟩ :=
    List.map_eq_singleton_iff.mp (hexValue?_digitChar (n / 16) (by omega))
  obtain ⟨low, hlow, hlow'⟩ :=
    List.map_eq_singleton_iff.mp (hexValue?_digitChar (n % 16) (by omega))
  have hbytes : Utf8.encode ['u', '0', '0', (n / 16).digitChar, (n % 16).digitChar] =
      Ascii.lowerU :: Ascii.zero :: Ascii.zero :: high :: low :: [] := by
    simp only [Utf8.encode, List.flatMap_cons, List.flatMap_nil, hhigh, hlow]
    rfl
  have hzero : Ascii.hexValue? Ascii.zero = some 0 := by decide
  have hcode : ((0 * 16 + 0) * 16 + n / 16) * 16 + n % 16 = n := by omega
  have hunit : hexUnit (Ascii.zero :: Ascii.zero :: high :: low :: rest) = .ok n := by
    rw [hexUnit, hzero, hhigh', hlow']
    exact congrArg _ hcode
  simp only [hbytes, List.cons_append, List.nil_append]
  rw [escape, if_pos rfl, unicodeEscape, hunit]
  simp only [bind, Except.bind]
  rw [if_neg (by omega), if_pos (by omega)]
  rfl

/-- However a character is written, its bytes are read. -/
theorem stringBytes_escapeChar {c : Char} {rest value s : Bytes}
    (hrest : stringBytes 0 rest = .ok (value, s)) :
    stringBytes 0 (Utf8.encode (escapeChar c) ++ rest) = .ok (Utf8.encodeChar c ++ value, s) := by
  by_cases hmark : c = '"' ∨ c = '\\'
  · rw [escapeChar, if_pos hmark]
    rcases hmark with rfl | rfl
    · exact stringBytes_escape hrest (escape_short (by decide) rfl rest)
    · exact stringBytes_escape hrest (escape_short (by decide) rfl rest)
  rw [escapeChar, if_neg hmark]
  obtain ⟨hquote, hbackslash⟩ := not_or.mp hmark
  by_cases hspace : 0x20 ≤ c.toNat
  · rw [if_pos hspace, Utf8.encode, List.flatMap_singleton]
    exact stringBytes_plain hrest fun b hb => plain_of_mem_encodeChar hquote hbackslash hspace hb
  rw [if_neg hspace]
  split
  · next h =>
    subst h
    exact stringBytes_escape hrest (escape_short (by decide) rfl rest)
  split
  · next h =>
    subst h
    exact stringBytes_escape hrest (escape_short (by decide) rfl rest)
  split
  · next h =>
    subst h
    exact stringBytes_escape hrest (escape_short (by decide) rfl rest)
  split
  · next h =>
    have hc : c = '\x08' := Char.toNat_inj.mp h
    subst hc
    exact stringBytes_escape hrest (escape_short (by decide) rfl rest)
  split
  · next h =>
    have hc : c = '\x0C' := Char.toNat_inj.mp h
    subst hc
    exact stringBytes_escape hrest (escape_short (by decide) rfl rest)
  · have hcode := escape_code (by omega : c.toNat < 0x20) rest
    rw [Char.ofNat_toNat] at hcode
    exact stringBytes_escape hrest hcode

theorem stringBytes_escapeChars (cs : List Char) (rest : Bytes) :
    stringBytes 0 (Utf8.encode (cs.flatMap escapeChar) ++ Ascii.quote :: rest) =
      .ok (Utf8.encode cs, rest) := by
  induction cs with
  | nil => rfl
  | cons c cs ih =>
    rw [List.flatMap_cons, Utf8.encode_append, List.append_assoc, stringBytes_escapeChar ih]
    rfl

/-- A string is read up to its closing quote. -/
theorem stringTail_escapeChars (text : String) (rest : Bytes) :
    stringTail (Utf8.encode (text.toList.flatMap escapeChar) ++ Ascii.quote :: rest) =
      .ok (text, rest) := by
  rw [stringTail, stringBytes_escapeChars]
  simp only [bind, Except.bind, Utf8.decode_encode, String.ofList_toList]

theorem encode_quote (text : String) :
    Utf8.encode (quote text) =
      Ascii.quote :: (Utf8.encode (text.toList.flatMap escapeChar) ++ [Ascii.quote]) :=
  encode_between rfl rfl _

theorem reads_quote (text : String) : Reads Reader.text (Utf8.encode (quote text)) text where
  starts := ⟨Ascii.quote, by rw [encode_quote]; rfl, by decide⟩
  reads rest _ := by
    rw [encode_quote, List.cons_append, List.append_assoc, Reader.text, withLead_cons (by decide),
      if_pos rfl]
    exact stringTail_escapeChars text rest

end StoreClient.Json
