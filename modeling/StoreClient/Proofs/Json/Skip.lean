import StoreClient.Proofs.Json.Lexeme

/-!
What is skipped is a document. Skipping checks a string and a number in its own way, since it has no
use for what they write, and keeps arrays and objects that are open on a stack: what is left after a
value has to close them all (`Closes`). It takes a document whole, whatever the document holds
(`skipValue_of_document`), and nothing else (`document_of_skipValue`).
-/

namespace StoreClient.Json

/-! ### Strings -/

theorem quotable_of_skipString {skip : Nat} {s rest : Bytes} (h : skipString skip s = .ok rest) :
    skip ≤ s.length ∧ ∃ raw, s.drop skip = raw ++ Ascii.quote :: rest ∧ Quotable raw := by
  induction s generalizing skip with
  | nil => cases skip <;> cases h
  | cons b s ih =>
    cases skip with
    | succ skip =>
      obtain ⟨hle, hraw⟩ := ih h
      exact ⟨Nat.succ_le_succ hle, hraw⟩
    | zero =>
      refine ⟨Nat.zero_le _, ?_⟩
      unfold skipString at h
      split at h
      · next hb =>
        cases h
        exact ⟨[], congrArg (· :: rest) hb, .nil⟩
      · next hquote =>
        split at h
        · next hb =>
          subst hb
          split at h
          · cases h
          · next e more =>
            split at h
            · next he =>
              subst he
              split at h
              · cases h
              · next n hunit =>
                obtain ⟨u, after, rfl, hu⟩ := hexUnit_eq_ok_iff.mp hunit
                obtain ⟨a₁, a₂, a₃, a₄, rfl⟩ := hu.exists_four
                obtain ⟨-, raw, hdrop, hraw⟩ := ih h
                obtain rfl : after = raw ++ Ascii.quote :: rest := hdrop
                exact ⟨_, rfl, .unit hu hraw⟩
            · split at h
              · next hshort =>
                obtain ⟨-, raw, hdrop, hraw⟩ := ih h
                obtain rfl : more = raw ++ Ascii.quote :: rest := hdrop
                exact ⟨_, rfl, .short hshort hraw⟩
              · cases h
        · next hbackslash =>
          split at h
          · cases h
          · next hspace =>
            obtain ⟨-, raw, hdrop, hraw⟩ := ih h
            rw [List.drop_zero] at hdrop
            subst hdrop
            exact ⟨b :: raw, rfl, .plain ⟨hquote, hbackslash, hspace⟩ hraw⟩

theorem skipString_of_quotable {raw : Bytes} (h : Quotable raw) (rest : Bytes) :
    skipString 0 (raw ++ Ascii.quote :: rest) = .ok rest := by
  induction h with
  | nil => rfl
  | @plain b s hb hs ih =>
    obtain ⟨hquote, hbackslash, hspace⟩ := hb
    rw [List.cons_append]
    unfold skipString
    rw [if_neg hquote, if_neg hbackslash, if_neg hspace]
    exact ih
  | @short b s hb hs ih =>
    have hletter : b ≠ Ascii.lowerU := by
      rintro rfl
      cases hb
    rw [List.cons_append, List.cons_append]
    unfold skipString
    rw [if_neg (by decide), if_pos rfl]
    simp only [if_neg hletter, if_pos hb]
    exact ih
  | @unit u s n hu hs ih =>
    have hunit : hexUnit (u ++ (s ++ Ascii.quote :: rest)) = .ok n :=
      hexUnit_eq_ok_iff.mpr ⟨u, _, rfl, hu⟩
    rw [List.cons_append, List.cons_append, List.append_assoc]
    unfold skipString
    rw [if_neg (by decide), if_pos rfl]
    simp only [if_true, hunit]
    obtain ⟨a₁, a₂, a₃, a₄, rfl⟩ := hu.exists_four
    exact ih

/-! ### Numbers -/

/-- Skips digits, of which there must be one. -/
def skipDigits : Bytes → Except Fault Bytes
  | [] => .error (.here .badNumber [])
  | d :: rest =>
    if Ascii.isDigit d then .ok (rest.dropWhile Ascii.isDigit) else .error (.here .badNumber rest)

theorem digits_of_skipDigits {s rest : Bytes} (h : skipDigits s = .ok rest) :
    ∃ ds, s = ds ++ rest ∧ IsDigits ds := by
  cases s with
  | nil => cases h
  | cons d s =>
    rw [skipDigits] at h
    split at h
    · next hd =>
      cases h
      refine ⟨d :: s.takeWhile Ascii.isDigit, ?_, List.cons_ne_nil _ _, ?_⟩
      · rw [List.cons_append, List.takeWhile_append_dropWhile]
      · exact List.forall_mem_cons.mpr ⟨hd, fun _ hb => List.mem_takeWhile_imp hb⟩
    · cases h

theorem skipDigits_of_digits {ds rest : Bytes} (hds : IsDigits ds) (hrest : Ended rest) :
    skipDigits (ds ++ rest) = .ok rest := by
  obtain ⟨hne, hdigits⟩ := hds
  cases ds with
  | nil => exact (hne rfl).elim
  | cons d ds =>
    obtain ⟨hd, hdigits⟩ := List.forall_mem_cons.mp hdigits
    rw [List.cons_append, skipDigits, if_pos hd, (span_digits hdigits hrest.isDigit_head).2]

/-- Skips an exponent, if there is one. -/
def skipPower : Bytes → Except Fault Bytes
  | Ascii.lowerE :: rest | Ascii.upperE :: rest => skipExponent rest
  | s => .ok s

theorem exponent_of_skipPower {s rest : Bytes} (h : skipPower s = .ok rest) :
    ∃ e, s = e ++ rest ∧ IsExponent e := by
  have hsome : ∀ {e s}, e = Ascii.lowerE ∨ e = Ascii.upperE → skipExponent s = .ok rest →
      ∃ x, e :: s = x ++ rest ∧ IsExponent x := by
    intro e s he h
    obtain ⟨sign, digits, rfl, hsign, h⟩ : ∃ sign digits, s = sign ++ digits ∧
        sign ∈ [[], [Ascii.plus], [Ascii.minus]] ∧ skipDigits digits = .ok rest := by
      unfold skipExponent at h
      split at h
      · exact ⟨[Ascii.plus], _, rfl, by decide, h⟩
      · exact ⟨[Ascii.minus], _, rfl, by decide, h⟩
      · exact ⟨[], _, rfl, by decide, h⟩
    obtain ⟨ds, rfl, hds⟩ := digits_of_skipDigits h
    refine ⟨e :: (sign ++ ds), ?_, .some he hsign hds⟩
    rw [List.cons_append, List.append_assoc]
  unfold skipPower at h
  split at h
  · exact hsome (.inl rfl) h
  · exact hsome (.inr rfl) h
  · cases h
    exact ⟨[], rfl, .none⟩

theorem skipExponent_of_digits {sign ds rest : Bytes}
    (hsign : sign ∈ [[], [Ascii.plus], [Ascii.minus]]) (hds : IsDigits ds) (hrest : Ended rest) :
    skipExponent (sign ++ (ds ++ rest)) = .ok rest := by
  have hskip := skipDigits_of_digits hds hrest
  obtain ⟨hne, hdigits⟩ := hds
  cases ds with
  | nil => exact (hne rfl).elim
  | cons d ds =>
    have hd := hdigits d List.mem_cons_self
    simp only [List.mem_cons, List.not_mem_nil, or_false] at hsign
    rcases hsign with rfl | rfl | rfl
    · -- a digit is not taken for a sign
      unfold skipExponent
      split
      · next heq =>
        cases heq
        cases hd
      · next heq =>
        cases heq
        cases hd
      · exact hskip
    · exact hskip
    · exact hskip

theorem skipPower_of_exponent {e rest : Bytes} (he : IsExponent e) (hrest : Ended rest) :
    skipPower (e ++ rest) = .ok rest := by
  cases he with
  | none =>
    rw [List.nil_append]
    unfold skipPower
    split
    · exact ((hrest _ rfl).2.2.1 rfl).elim
    · exact ((hrest _ rfl).2.2.2 rfl).elim
    · rfl
  | @some e sign ds he hsign hds =>
    have hskip := skipExponent_of_digits hsign hds hrest
    rw [List.cons_append, List.append_assoc]
    rcases he with rfl | rfl
    · exact hskip
    · exact hskip

theorem skipPower_of_ne {s : Bytes} (hlower : ∀ rest, s = Ascii.lowerE :: rest → False)
    (hupper : ∀ rest, s = Ascii.upperE :: rest → False) : skipPower s = .ok s := by
  unfold skipPower
  split
  · exact (hlower _ rfl).elim
  · exact (hupper _ rfl).elim
  · rfl

theorem skipNumberTail_of_ne_point {s : Bytes} (h : s.head? ≠ some Ascii.point) :
    skipNumberTail s = skipPower s := by
  unfold skipNumberTail
  split
  · exact (h rfl).elim
  · rfl
  · rfl
  · next hlower hupper => rw [skipPower_of_ne hlower hupper]

theorem skipNumberTail_point (s : Bytes) : skipNumberTail (Ascii.point :: s) =
    if (s.dropWhile Ascii.isDigit).length = s.length then .error (.next .badNumber s)
    else skipPower (s.dropWhile Ascii.isDigit) := by
  unfold skipNumberTail
  refine congrArg (ite _ _) ?_
  generalize s.dropWhile Ascii.isDigit = after
  split
  · rfl
  · rfl
  · next hlower hupper => rw [skipPower_of_ne hlower hupper]

theorem length_dropWhile_eq_iff (s : Bytes) :
    (s.dropWhile Ascii.isDigit).length = s.length ↔ s.takeWhile Ascii.isDigit = [] := by
  have hlength := congrArg List.length
    (List.takeWhile_append_dropWhile (p := Ascii.isDigit) (l := s))
  rw [List.length_append] at hlength
  rw [← List.length_eq_zero_iff]
  omega

theorem fraction_of_skipNumberTail {s rest : Bytes} (h : skipNumberTail s = .ok rest) :
    ∃ f e, s = f ++ (e ++ rest) ∧ IsFraction f ∧ IsExponent e := by
  by_cases hpoint : s.head? = some Ascii.point
  · obtain ⟨s, rfl⟩ := List.head?_eq_some_iff.mp hpoint
    rw [skipNumberTail_point] at h
    split at h
    · cases h
    · next hlength =>
      have hdigits : IsDigits (s.takeWhile Ascii.isDigit) :=
        ⟨mt (length_dropWhile_eq_iff s).mpr hlength, fun b hb => List.mem_takeWhile_imp hb⟩
      obtain ⟨e, hs, he⟩ := exponent_of_skipPower h
      refine ⟨Ascii.point :: s.takeWhile Ascii.isDigit, e, ?_, .some hdigits, he⟩
      rw [List.cons_append, ← hs, List.takeWhile_append_dropWhile]
  · rw [skipNumberTail_of_ne_point hpoint] at h
    obtain ⟨e, rfl, he⟩ := exponent_of_skipPower h
    exact ⟨[], e, rfl, .none, he⟩

theorem head?_of_exponent {e rest : Bytes} (he : IsExponent e) (hrest : Ended rest) :
    ∀ b ∈ (e ++ rest).head?, Ascii.isDigit b = false ∧ b ≠ Ascii.point := by
  intro b hb
  cases he with
  | none => exact ⟨(hrest b hb).1, (hrest b hb).2.1⟩
  | some he =>
    cases hb
    rcases he with rfl | rfl <;> decide

theorem skipNumberTail_of_fraction {f e rest : Bytes} (hf : IsFraction f) (he : IsExponent e)
    (hrest : Ended rest) : skipNumberTail (f ++ (e ++ rest)) = .ok rest := by
  have hhead := head?_of_exponent he hrest
  cases hf with
  | none =>
    rw [List.nil_append, skipNumberTail_of_ne_point fun hb => (hhead _ hb).2 rfl]
    exact skipPower_of_exponent he hrest
  | @some ds hds =>
    obtain ⟨htake, hdrop⟩ := span_digits hds.2 fun b hb => (hhead b hb).1
    have hne : (ds ++ (e ++ rest)).takeWhile Ascii.isDigit ≠ [] := by
      rw [htake]
      exact hds.1
    rw [List.cons_append, skipNumberTail_point, if_neg (mt (length_dropWhile_eq_iff _).mp hne),
      hdrop]
    exact skipPower_of_exponent he hrest

theorem unsigned_of_skipUnsigned {s rest : Bytes} (h : skipUnsigned s = .ok rest) :
    ∃ text, s = text ++ rest ∧ IsUnsigned text := by
  have htail : ∀ {n s}, IsNatural n → skipNumberTail s = .ok rest →
      ∃ text, n ++ s = text ++ rest ∧ IsUnsigned text := by
    intro n s hn h
    obtain ⟨f, e, rfl, hf, he⟩ := fraction_of_skipNumberTail h
    exact ⟨n ++ (f ++ e), by simp only [List.append_assoc], .mk hn hf he⟩
  cases s with
  | nil => cases h
  | cons d s =>
    unfold skipUnsigned at h
    simp only at h
    by_cases hzero : d = Ascii.zero
    · rw [if_pos hzero] at h
      rw [hzero]
      cases s with
      | nil => exact htail isNatural_zero h
      | cons c s =>
        simp only at h
        split at h
        · cases h
        · exact htail isNatural_zero h
    · rw [if_neg hzero] at h
      split at h
      · next hd =>
        have hnatural : IsNatural (d :: s.takeWhile Ascii.isDigit) :=
          isNatural_of_ne_zero hzero hd fun b hb => List.mem_takeWhile_imp hb
        obtain ⟨text, htext, hunsigned⟩ := htail hnatural h
        rw [List.cons_append, List.takeWhile_append_dropWhile] at htext
        exact ⟨text, htext, hunsigned⟩
      · cases h

theorem skipUnsigned_of_unsigned {text rest : Bytes} (h : IsUnsigned text) (hrest : Ended rest) :
    skipUnsigned (text ++ rest) = .ok rest := by
  obtain @⟨n, f, e, hn, hf, he⟩ := h
  have htail := skipNumberTail_of_fraction hf he hrest
  have hdigit : ∀ b ∈ (f ++ (e ++ rest)).head?, Ascii.isDigit b = false := by
    cases hf with
    | none => exact fun b hb => (head?_of_exponent he hrest b hb).1
    | some hds =>
      intro b hb
      cases hb
      decide
  rw [List.append_assoc, List.append_assoc]
  obtain ⟨d, ds, rfl, hd⟩ := isDigit_head_of_isNatural hn
  rw [List.cons_append]
  unfold skipUnsigned
  by_cases hzero : d = Ascii.zero
  · cases hn.2 (congrArg some hzero)
    simp only [if_true, List.nil_append]
    generalize f ++ (e ++ rest) = s at htail hdigit ⊢
    cases s with
    | nil => exact htail
    | cons b s =>
      have hb := hdigit b rfl
      simp only [hb, if_neg Bool.false_ne_true]
      exact htail
  · have hds : ∀ b ∈ ds, Ascii.isDigit b := fun b hb => hn.1.2 b (List.mem_cons_of_mem d hb)
    simp only [if_neg hzero, if_pos hd, (span_digits hds hdigit).2]
    exact htail

/-! ### Scalars -/

theorem document_of_skipScalar {b : UInt8} {s rest : Bytes} (h : skipScalar b s = .ok rest) :
    ∃ text, b :: s = text ++ rest ∧ Document text := by
  unfold skipScalar at h
  split at h
  · rw [name_eq_ok_iff.mp h]
    exact ⟨_, rfl, .null⟩
  · rw [name_eq_ok_iff.mp h]
    exact ⟨_, rfl, .true⟩
  · rw [name_eq_ok_iff.mp h]
    exact ⟨_, rfl, .false⟩
  · obtain ⟨text, rfl, htext⟩ := unsigned_of_skipUnsigned h
    exact ⟨_, rfl, .number (.negative htext)⟩
  · obtain ⟨-, raw, hdrop, hraw⟩ := quotable_of_skipString h
    obtain rfl : s = raw ++ Ascii.quote :: rest := hdrop
    exact ⟨quoted raw, by simp [quoted], .string hraw⟩
  · split at h
    · obtain ⟨text, hs, htext⟩ := unsigned_of_skipUnsigned h
      exact ⟨text, hs, .number (.unsigned htext)⟩
    · cases h

/-- A text that is skipped in one step: it begins with no bracket. -/
def SkipsScalar (text : Bytes) : Prop := ∃ b bs, text = b :: bs ∧ isSpace b = false ∧
  ¬ (b = Ascii.openBracket ∨ b = Ascii.openBrace) ∧
    ∀ {rest}, Delimited text rest → skipScalar b (bs ++ rest) = .ok rest

theorem skipsScalar_number {text : Bytes} (h : IsNumber text) : SkipsScalar text := by
  have hend : ∀ {rest}, Delimited text rest → Ended rest := fun hrest => hrest h.endsInDigit
  cases h with
  | unsigned h =>
    obtain ⟨b, bs, rfl, hb⟩ := h.exists_cons
    have hne : ∀ c, Ascii.isDigit c = false → b ≠ c := by
      rintro c hc rfl
      rw [hb] at hc
      cases hc
    refine ⟨b, bs, rfl, isSpace_of_isDigit hb, ?_, fun {rest} hrest => ?_⟩
    · rintro (rfl | rfl) <;> cases hb
    · unfold skipScalar
      split
      · cases hb
      · cases hb
      · cases hb
      · cases hb
      · cases hb
      · rw [if_pos hb]
        exact skipUnsigned_of_unsigned h (hend hrest)
  | @negative s h =>
    refine ⟨Ascii.minus, s, rfl, by decide, by decide, fun hrest => ?_⟩
    exact skipUnsigned_of_unsigned h (hend hrest)

theorem skipsScalar_string {raw : Bytes} (h : Quotable raw) : SkipsScalar (quoted raw) := by
  refine ⟨Ascii.quote, _, rfl, by decide, by decide, fun {rest} _ => ?_⟩
  rw [List.append_assoc]
  exact skipString_of_quotable h rest

/-! ### Arrays and objects -/

/-- What is left after a value closes each frame that is open, from the innermost on. -/
def Closes : List Frame → Bytes → Bytes → Prop
  | [], s, rest => s = rest
  | frame :: frames, s, rest => ∃ tail values s', s = tail ++ frame.close :: s' ∧
      Listed frame.Piece false tail values ∧ (∀ v ∈ values, Document v) ∧ Closes frames s' rest

theorem skipKey_eq_ok_iff {s rest : Bytes} : skipKey s = .ok rest ↔ ∃ l key m, Blank l ∧
    Quotable key ∧ Blank m ∧ s = l ++ (quoted key ++ (m ++ Ascii.colon :: rest)) := by
  constructor
  · intro h
    rw [skipKey] at h
    split at h
    · cases h
    · next b s hspace =>
      obtain ⟨-, l, hl, rfl⟩ := skipSpace_eq_cons_iff.mp hspace
      split at h
      · next hb =>
        subst hb
        split at h
        · cases h
        · next s' hstring =>
          obtain ⟨-, key, hdrop, hkey⟩ := quotable_of_skipString hstring
          obtain rfl : s = key ++ Ascii.quote :: s' := hdrop
          split at h
          · cases h
          · next c s' hspace =>
            obtain ⟨-, m, hm, rfl⟩ := skipSpace_eq_cons_iff.mp hspace
            split at h
            · next hc =>
              subst hc
              cases h
              exact ⟨l, key, m, hl, hkey, hm, by simp [quoted]⟩
            · cases h
      · cases h
  · rintro ⟨l, key, m, hl, hkey, hm, rfl⟩
    have hcolon : skipSpace (m ++ Ascii.colon :: rest) = Ascii.colon :: rest :=
      skipSpace_eq_cons_iff.mpr ⟨by decide, m, hm, rfl⟩
    have hquote : skipSpace (l ++ (quoted key ++ (m ++ Ascii.colon :: rest))) =
        Ascii.quote :: (key ++ Ascii.quote :: (m ++ Ascii.colon :: rest)) := by
      refine skipSpace_eq_cons_iff.mpr ⟨by decide, l, hl, ?_⟩
      simp [quoted]
    rw [skipKey, hquote]
    simp only [if_true, skipString_of_quotable hkey, hcolon]

/-- A value that is entered stands in a piece of its frame. -/
theorem piece_of_enter {frame : Frame} {s l value rest : Bytes} (hl : Blank l)
    (h : frame.enter s = .ok (l ++ (value ++ rest))) :
    ∃ m p, Blank m ∧ s = m ++ (p ++ rest) ∧ frame.Piece p value := by
  cases frame with
  | array =>
    obtain rfl := Except.ok.inj h
    exact ⟨l, value, hl, rfl, .item⟩
  | object =>
    obtain ⟨m, key, n, hm, hkey, hn, rfl⟩ := skipKey_eq_ok_iff.mp h
    exact ⟨m, _, hm, by simp only [List.append_assoc, List.cons_append], .member hkey (.mk hn hl)⟩

theorem enter_of_piece {frame : Frame} {m p value : Bytes} (hm : Blank m)
    (hp : frame.Piece p value) (rest : Bytes) :
    ∃ l, Blank l ∧ frame.enter (m ++ (p ++ rest)) = .ok (l ++ (value ++ rest)) := by
  cases hp with
  | item => exact ⟨m, hm, rfl⟩
  | member hkey hp =>
    obtain ⟨hn, hl⟩ := hp
    exact ⟨_, hl, skipKey_eq_ok_iff.mpr
      ⟨m, _, _, hm, hkey, hn, by simp only [List.append_assoc, List.cons_append]⟩⟩

/-- A document comes next, and what is left after it closes the frames that are open. -/
def Fills (frames : List Frame) (s rest : Bytes) : Prop :=
  ∃ l text s', Blank l ∧ s = l ++ (text ++ s') ∧ Document text ∧ Closes frames s' rest

/-- What a frame holds from a piece on that is entered. -/
theorem listed_of_enter {frame : Frame} {frames : List Frame} {first : Bool} {l s s' rest : Bytes}
    (hl : Lead first l) (henter : frame.enter s = .ok s') (h : Fills (frame :: frames) s' rest) :
    ∃ body values s'', l ++ s = body ++ frame.close :: s'' ∧ Listed frame.Piece first body values ∧
      (∀ v ∈ values, Document v) ∧ Closes frames s'' rest := by
  obtain ⟨l', text, _, hl', rfl, htext, tail, values, s'', rfl, htail, hvalues, hcloses⟩ := h
  obtain ⟨m, p, hm, rfl, hp⟩ := piece_of_enter hl' henter
  refine ⟨_, text :: values, s'', ?_, .cons (hl.append hm) hp htail,
    List.forall_mem_cons.mpr ⟨htext, hvalues⟩, hcloses⟩
  simp only [List.append_assoc]

/-- Skipping takes a document, if a value comes next, and what closes the frames that are open. -/
theorem closes_of_skipFrames {fuel : Nat} {frames : List Frame} {s rest : Bytes} :
    (skipFrames fuel false frames s = .ok rest → Closes frames s rest) ∧
    (skipFrames fuel true frames s = .ok rest → Fills frames s rest) := by
  induction fuel generalizing frames s with
  | zero => exact ⟨fun h => (nomatch h), fun h => (nomatch h)⟩
  | succ fuel ih =>
    constructor
    · intro h
      cases frames with
      | nil =>
        cases h
        rfl
      | cons frame frames =>
        rw [skipFrames] at h
        split at h
        · cases h
        · next b t hspace =>
          obtain ⟨-, l, hl, rfl⟩ := skipSpace_eq_cons_iff.mp hspace
          split at h
          · next hcomma =>
            subst hcomma
            split at h
            · cases h
            · next s' henter =>
              obtain ⟨tail, values, s'', hs, hlisted⟩ :=
                listed_of_enter (.next hl blank_nil) henter (ih.2 h)
              rw [List.append_cons, hs]
              exact ⟨tail, values, s'', rfl, hlisted⟩
          · split at h
            · next hclose =>
              subst hclose
              exact ⟨l, [], t, rfl, .nil hl, List.forall_mem_nil _, ih.1 h⟩
            · cases h
    · intro h
      rw [skipFrames] at h
      split at h
      · cases h
      · next b t hspace =>
        obtain ⟨-, l, hl, rfl⟩ := skipSpace_eq_cons_iff.mp hspace
        split at h
        · next hopen =>
          have hopening : b = (if b = Ascii.openBracket then Frame.array else .object).opening := by
            rcases hopen with rfl | rfl <;> rfl
          simp only at h
          generalize (if b = Ascii.openBracket then Frame.array else .object) = frame at h hopening
          subst hopening
          split at h
          · cases h
          · next c after hspace =>
            obtain ⟨-, l', hl', rfl⟩ := skipSpace_eq_cons_iff.mp hspace
            -- either frame is closed at once or a first piece is entered
            have hframe : ∃ body values s'', l' ++ c :: after = body ++ frame.close :: s'' ∧
                Listed frame.Piece true body values ∧ (∀ v ∈ values, Document v) ∧
                  Closes frames s'' rest := by
              split at h
              · next hclose =>
                subst hclose
                exact ⟨l', [], after, rfl, .nil hl', List.forall_mem_nil _, ih.1 h⟩
              · split at h
                · cases h
                · next s' henter => exact listed_of_enter (.first hl') henter (ih.2 h)
            obtain ⟨body, values, s'', hs, hbody, hvalues, hcloses⟩ := hframe
            refine ⟨l, _, s'', hl, ?_, .frame hbody hvalues, hcloses⟩
            rw [hs]
            simp only [List.append_assoc, List.cons_append, List.nil_append]
        · split at h
          · cases h
          · next s' hscalar =>
            obtain ⟨text, htext, hdocument⟩ := document_of_skipScalar hscalar
            exact ⟨l, text, s', hl, congrArg (l ++ ·) htext, hdocument, ih.1 h⟩

/-! ### Skipping whole documents -/

/-- A text that is skipped whole where a value comes next, in front of what closes the frames. -/
def SkipsWhole (text : Bytes) : Prop :=
  ∀ {l rest : Bytes} (frames : List Frame) {fuel : Nat}, Blank l → Delimited text rest →
    (text ++ rest).length < fuel → ∃ fuel', rest.length < fuel' ∧
      skipFrames fuel true frames (l ++ (text ++ rest)) = skipFrames fuel' false frames rest

theorem skipsWhole_of_scalar {text : Bytes} (h : SkipsScalar text) : SkipsWhole text := by
  obtain ⟨b, bs, rfl, hspace, hopen, hskip⟩ := h
  intro l rest frames fuel hl hrest hfuel
  simp only [List.cons_append, List.length_cons, List.length_append] at hfuel ⊢
  obtain ⟨fuel, rfl⟩ := Nat.exists_eq_succ_of_ne_zero (Nat.ne_zero_of_lt hfuel)
  refine ⟨fuel, by omega, ?_⟩
  rw [skipFrames, skipSpace_append hl, skipSpace_cons hspace]
  simp only [if_neg hopen, hskip hrest]

/-- A piece is no shorter than its value, and begins with no white space and no closing bracket. -/
theorem Frame.Piece.exists_cons {frame : Frame} {p value : Bytes} (h : frame.Piece p value)
    (hvalue : Document value) : value.length ≤ p.length ∧
      ∃ b bs, p = b :: bs ∧ isSpace b = false ∧ b ≠ frame.close := by
  cases h with
  | item =>
    obtain ⟨b, bs, rfl, hb⟩ := hvalue.exists_cons
    exact ⟨Nat.le_refl _, b, bs, rfl, isSpace_of_opensDocument hb,
      not_of_opensDocument hb (by decide)⟩
  | member hkey h =>
    obtain ⟨hm, hn⟩ := h
    refine ⟨?_, Ascii.quote, _, rfl, by decide, by decide⟩
    simp only [List.length_append, List.length_cons]
    omega

theorem Frame.isSpace_close (frame : Frame) : isSpace frame.close = false := by
  cases frame <;> rfl

theorem Frame.close_ne_comma (frame : Frame) : frame.close ≠ Ascii.comma := by
  cases frame <;> decide

/-- What is left of a frame is skipped up to its closing bracket. -/
theorem skipFrames_of_listed {frame : Frame} {frames : List Frame} {tail : Bytes}
    {values : List Bytes} (h : Listed frame.Piece false tail values)
    (hvalues : ∀ v ∈ values, Document v ∧ SkipsWhole v) {rest : Bytes} {fuel : Nat}
    (hfuel : (tail ++ frame.close :: rest).length < fuel) : ∃ fuel', rest.length < fuel' ∧
      skipFrames fuel false (frame :: frames) (tail ++ frame.close :: rest) =
        skipFrames fuel' false frames rest := by
  generalize hfirst : false = first at h
  induction h generalizing fuel with
  | @nil first s hs =>
    subst hfirst
    simp only [List.length_append, List.length_cons] at hfuel
    obtain ⟨fuel, rfl⟩ := Nat.exists_eq_succ_of_ne_zero (Nat.ne_zero_of_lt hfuel)
    refine ⟨fuel, by omega, ?_⟩
    rw [skipFrames, skipSpace_append hs, skipSpace_cons frame.isSpace_close]
    simp only [if_neg frame.close_ne_comma, if_true]
  | @cons first l p s value values hlead hp hs ih =>
    subst hfirst
    cases hlead with | @next l m hl hm
    obtain ⟨⟨hdocument, hskip⟩, hvalues⟩ := List.forall_mem_cons.mp hvalues
    obtain ⟨hlength, -⟩ := hp.exists_cons hdocument
    obtain ⟨l', hl', henter⟩ := enter_of_piece hm hp (s ++ frame.close :: rest)
    simp only [List.append_assoc, List.cons_append, List.length_append, List.length_cons] at hfuel ⊢
    obtain ⟨fuel, rfl⟩ := Nat.exists_eq_succ_of_ne_zero (Nat.ne_zero_of_lt hfuel)
    have hrest : Delimited value (s ++ frame.close :: rest) :=
      delimited_of_ended (hs.ended (frame.ended_close rest))
    have hlength' : (value ++ (s ++ frame.close :: rest)).length < fuel := by
      simp only [List.length_append, List.length_cons]
      omega
    obtain ⟨fuel', hfuel', hwhole⟩ :=
      hskip (frame :: frames) hl' hrest hlength'
    obtain ⟨fuel'', hfuel'', htail⟩ := ih hvalues hfuel' rfl
    refine ⟨fuel'', hfuel'', ?_⟩
    rw [skipFrames, skipSpace_append hl, skipSpace_cons (by decide)]
    simp only [if_true, henter]
    rw [hwhole, htail]

theorem skipsWhole_of_document {text : Bytes} (h : Document text) : SkipsWhole text := by
  have hname : ∀ {b w}, isSpace b = false → ¬ (b = Ascii.openBracket ∨ b = Ascii.openBrace) →
      (∀ rest, skipScalar b (w ++ rest) = name w (w ++ rest)) → SkipsWhole (b :: w) := by
    intro b w hb hopen hscalar
    refine skipsWhole_of_scalar ⟨b, w, rfl, hb, hopen, fun {rest} _ => ?_⟩
    rw [hscalar, name_eq_ok_iff]
  induction h with
  | null => exact hname (by decide) (by decide) fun rest => rfl
  | true => exact hname (by decide) (by decide) fun rest => rfl
  | false => exact hname (by decide) (by decide) fun rest => rfl
  | number h => exact skipsWhole_of_scalar (skipsScalar_number h)
  | string h => exact skipsWhole_of_scalar (skipsScalar_string h)
  | @frame frame body values hbody hvalues ih =>
    intro l rest frames fuel hl hrest hfuel
    simp only [List.append_assoc, List.cons_append, List.length_append, List.length_cons,
      List.nil_append] at hfuel ⊢
    obtain ⟨fuel, rfl⟩ := Nat.exists_eq_succ_of_ne_zero (Nat.ne_zero_of_lt hfuel)
    have hopen : frame.opening = Ascii.openBracket ∨ frame.opening = Ascii.openBrace := by
      cases frame
      · exact .inl rfl
      · exact .inr rfl
    have hframe : (if frame.opening = Ascii.openBracket then Frame.array else .object) = frame := by
      cases frame <;> rfl
    have hspace : isSpace frame.opening = false := by
      cases frame <;> rfl
    rw [skipFrames, skipSpace_append hl, skipSpace_cons hspace]
    simp only [if_pos hopen, hframe]
    cases hbody with
    | nil hs =>
      refine ⟨fuel, by omega, ?_⟩
      rw [skipSpace_append hs, skipSpace_cons frame.isSpace_close]
      simp only [if_true]
    | @cons _ l' p s value values hlead hp hs =>
      cases hlead with | first hl' =>
      have hboth : ∀ v ∈ value :: values, Document v ∧ SkipsWhole v :=
        fun v hv => ⟨hvalues v hv, ih v hv⟩
      obtain ⟨⟨hdocument, hvalue⟩, hboth⟩ := List.forall_mem_cons.mp hboth
      obtain ⟨hlength, b, bs, rfl, hb, hclose⟩ := hp.exists_cons hdocument
      obtain ⟨m, hm, henter⟩ := enter_of_piece blank_nil hp (s ++ frame.close :: rest)
      rw [List.nil_append, List.cons_append] at henter
      have hended : Delimited value (s ++ frame.close :: rest) :=
        delimited_of_ended (hs.ended (frame.ended_close rest))
      simp only [List.length_append, List.length_cons] at hfuel hlength
      have hlength' : (value ++ (s ++ frame.close :: rest)).length < fuel := by
        simp only [List.length_append, List.length_cons]
        omega
      obtain ⟨fuel', hfuel', hwhole⟩ :=
        hvalue (frame :: frames) hm hended hlength'
      obtain ⟨fuel'', hfuel'', htail⟩ := skipFrames_of_listed hs hboth hfuel'
      refine ⟨fuel'', hfuel'', ?_⟩
      simp only [List.append_assoc, List.cons_append]
      rw [skipSpace_append hl', skipSpace_cons hb]
      simp only [if_neg hclose, henter]
      rw [hwhole, htail]

/-- A document is skipped whole. -/
theorem skipValue_of_document {l text rest : Bytes} (hl : Blank l) (h : Document text)
    (hrest : Delimited text rest) : skipValue (l ++ (text ++ rest)) = .ok rest := by
  have hfuel : (text ++ rest).length < (l ++ (text ++ rest)).length + 2 := by
    simp only [List.length_append]
    omega
  obtain ⟨fuel, hfuel, hskip⟩ := skipsWhole_of_document h [] hl hrest hfuel
  obtain ⟨fuel, rfl⟩ := Nat.exists_eq_succ_of_ne_zero (Nat.ne_zero_of_lt hfuel)
  exact hskip

/-- What is skipped is a document. -/
theorem document_of_skipValue {s rest : Bytes} (h : skipValue s = .ok rest) :
    ∃ l text, Blank l ∧ s = l ++ (text ++ rest) ∧ Document text := by
  obtain ⟨l, text, s', hl, hs, htext, rfl⟩ := closes_of_skipFrames.2 h
  exact ⟨l, text, hl, hs, htext⟩

/-- Where a document is at the front of a text and nothing goes on with it, no other one is. -/
theorem Document.front_unique {l l' text text' rest rest' : Bytes} (hl : Blank l) (hl' : Blank l')
    (h : Document text) (h' : Document text') (hrest : Delimited text rest)
    (hrest' : Delimited text' rest') (heq : l ++ (text ++ rest) = l' ++ (text' ++ rest')) :
    text = text' := by
  have hskip := skipValue_of_document hl h hrest
  rw [heq, skipValue_of_document hl' h' hrest'] at hskip
  obtain rfl := Except.ok.inj hskip
  -- the white space is the same, since a document begins with none
  have hspace := congrArg skipSpace heq
  obtain ⟨b, bs, rfl, hb⟩ := h.exists_cons
  obtain ⟨b', bs', rfl, hb'⟩ := h'.exists_cons
  rw [skipSpace_append hl, skipSpace_append hl', List.cons_append, List.cons_append,
    skipSpace_cons (isSpace_of_opensDocument hb),
    skipSpace_cons (isSpace_of_opensDocument hb')] at hspace
  exact List.append_cancel_right hspace

end StoreClient.Json
