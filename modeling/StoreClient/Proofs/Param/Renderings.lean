import StoreClient.Proofs.Param.Sendable

/-!
The one text of a parameter and its texts in a query. Either there is neither, and then both are
refused for the same value; or the one text is the others joined by the mark of the style in a path.
That the two styles of a list can differ does not show, for they do only where the mark is a comma
in both (`text_agrees_queryTexts`).
-/

namespace StoreClient.Param

/-- What a parameter without a text is refused for: the first of its items that is no scalar, or the
object that it is. -/
inductive Blames (param : Param) : Unsupported → Prop where
  | nested {front back : List Json.Value} {item : Json.Value}
      (hvalue : param.value = .array (front ++ item :: back))
      (hfront : ∀ value ∈ front, value.isScalar) (hitem : item.isScalar = false) :
      Blames param (.nested item)
  | object {members : List (String × Json.Value)} (hvalue : param.value = .object members) :
      Blames param (.object (.object members))

theorem scalarText_eq_error_iff {value : Json.Value} {e : Unsupported} :
    scalarText value = .error e ↔ value.isScalar = false ∧ e = .nested value := by
  cases value with
  | bool b => cases b <;> simp [scalarText, Json.Value.isScalar]
  | _ => simp [scalarText, Json.Value.isScalar, eq_comm]

theorem mapM_scalarText_eq_error_iff {items : List Json.Value} {e : Unsupported} :
    items.mapM scalarText = .error e ↔ ∃ front item back, items = front ++ item :: back ∧
      (∀ value ∈ front, value.isScalar) ∧ item.isScalar = false ∧ e = .nested item := by
  simp only [mapM_eq_error_iff, firstError_iff, scalarText_isOk_iff, scalarText_eq_error_iff]

/-! ### Failures -/

theorem text_eq_error_iff_blames {param : Param} {e : Unsupported} :
    param.text = .error e ↔ param.Blames e := by
  obtain ⟨value, style⟩ := param
  cases value with
  | array items =>
    simp only [text, bind_pure_eq_error_iff, mapM_scalarText_eq_error_iff]
    constructor
    · rintro ⟨front, item, back, rfl, hfront, hitem, rfl⟩
      exact .nested rfl hfront hitem
    · intro h
      cases h with
      | nested hvalue hfront hitem =>
        cases hvalue
        exact ⟨_, _, _, rfl, hfront, hitem, rfl⟩
      | object hvalue => cases hvalue
  | object members =>
    constructor
    · intro h
      cases h
      exact .object rfl
    · intro h
      cases h with
      | nested hvalue => cases hvalue
      | object hvalue =>
        cases hvalue
        rfl
  | _ =>
    simp only [text, scalarText_eq_error_iff]
    constructor
    · rintro ⟨h, -⟩
      cases h
    · intro h
      cases h with
      | nested hvalue => cases hvalue
      | object hvalue => cases hvalue

theorem queryTexts_eq_error_iff {param : Param} {e : Unsupported} :
    param.queryTexts = .error e ↔ param.text = .error e := by
  obtain ⟨value, style⟩ := param
  cases value with
  | object members => simp [text, queryTexts]
  | _ => simp only [text, queryTexts, bind_pure_eq_error_iff]

/-! ### Texts -/

/-- Texts that were joined for a query are not joined again for a path. -/
theorem intercalate_joined (param : Param) (texts : List String) :
    param.pathStyle.delimiter.intercalate
        (if param.queryStyle = .form then texts
          else [param.queryStyle.delimiter.intercalate texts]) =
      param.pathStyle.delimiter.intercalate texts := by
  by_cases hform : param.queryStyle = .form
  · rw [if_pos hform]
  · have hdefault : param.style ≠ .default := fun h => hform (queryStyle_eq_form_iff.mpr (.inl h))
    rw [if_neg hform, String.intercalate_singleton, queryStyle, pathStyle, if_neg hdefault,
      if_neg hdefault]

theorem text_eq_ok_iff {param : Param} {s : String} :
    param.text = .ok s ↔ ∃ texts, param.queryTexts = .ok texts ∧
      s = param.pathStyle.delimiter.intercalate texts := by
  have h := intercalate_joined param
  obtain ⟨value, style⟩ := param
  cases value with
  | array items =>
    simp only [text, queryTexts, bind_eq_ok]
    constructor
    · rintro ⟨texts, htexts, hs⟩
      cases hs
      exact ⟨_, ⟨texts, htexts, rfl⟩, (h texts).symm⟩
    · rintro ⟨_, ⟨texts, htexts, hjoined⟩, rfl⟩
      cases hjoined
      exact ⟨texts, htexts, congrArg _ (h texts).symm⟩
  | object members => simp [text, queryTexts]
  | _ =>
    simp only [text, queryTexts, bind_eq_ok]
    constructor
    · intro hs
      exact ⟨[s], ⟨s, hs, rfl⟩, String.intercalate_singleton.symm⟩
    · rintro ⟨_, ⟨s', hs', hsingle⟩, rfl⟩
      cases hsingle
      rw [String.intercalate_singleton]
      exact hs'

/-- The texts of a list that is set down item by item are those of its items; any other parameter
has a single text. -/
theorem queryTexts_cases {param : Param} {texts : List String} (h : param.queryTexts = .ok texts) :
    (∃ items, param.value = .array items ∧ param.queryStyle = .form ∧
      List.Forall₂ (fun item s => scalarText item = .ok s) items texts) ∨
    (∀ items, param.value = .array items → param.queryStyle ≠ .form) ∧ ∃ s, texts = [s] := by
  obtain ⟨value, style⟩ := param
  cases value with
  | array items =>
    obtain ⟨texts', htexts, h⟩ := bind_eq_ok.mp h
    cases h
    by_cases hform : queryStyle ⟨.array items, style⟩ = .form
    · rw [if_pos hform]
      exact .inl ⟨items, rfl, hform, mapM_eq_ok.mp htexts⟩
    · rw [if_neg hform]
      exact .inr ⟨fun _ _ => hform, _, rfl⟩
  | object members => cases h
  | _ =>
    obtain ⟨s, -, h⟩ := bind_eq_ok.mp h
    cases h
    exact .inr ⟨fun _ hvalue => (nomatch hvalue), s, rfl⟩

/-- A parameter has a text exactly if it has texts in a query, and what either is refused for is the
same: the first item that is no scalar, or the object. The text is then those texts joined; they are
the texts of the items of a list that is set down item by item, and a single text else. -/
theorem text_agrees_queryTexts (param : Param) :
    (∀ e, param.text = .error e ↔ param.queryTexts = .error e) ∧
    (∀ e, param.text = .error e ↔ param.Blames e) ∧
    (∀ s, param.text = .ok s ↔ ∃ texts, param.queryTexts = .ok texts ∧
      s = param.pathStyle.delimiter.intercalate texts) ∧
    ∀ texts, param.queryTexts = .ok texts →
      (∃ items, param.value = .array items ∧ param.queryStyle = .form ∧
        List.Forall₂ (fun item s => scalarText item = .ok s) items texts) ∨
      (∀ items, param.value = .array items → param.queryStyle ≠ .form) ∧ ∃ s, texts = [s] :=
  ⟨fun _ => queryTexts_eq_error_iff.symm, fun _ => text_eq_error_iff_blames,
    fun _ => text_eq_ok_iff, fun _ => queryTexts_cases⟩

end StoreClient.Param
