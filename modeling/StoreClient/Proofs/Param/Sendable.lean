import StoreClient.Param.Value
import StoreClient.Proofs.Logged

/-!
Which parameters have a text. A value can be sent exactly if it is no object and no list with a list
or an object in it (`Param.text_isOk_iff`, `Param.queryTexts_isOk_iff`); the style never matters.
-/

namespace StoreClient

/-- Values without a value inside. -/
def Json.Value.isScalar : Json.Value → Bool
  | .array _ | .object _ => false
  | _ => true

namespace Param

/-- Whether a parameter is a scalar or a list of scalars. -/
def isSendable (param : Param) : Bool :=
  match param.value with
  | .array items => items.all Json.Value.isScalar
  | value => value.isScalar

theorem scalarText_isOk_iff {value : Json.Value} :
    (∃ text, scalarText value = .ok text) ↔ value.isScalar := by
  cases value with
  | bool b => cases b <;> simp [scalarText, Json.Value.isScalar]
  | _ => simp [scalarText, Json.Value.isScalar]

theorem text_isOk_iff {param : Param} : (∃ text, param.text = .ok text) ↔ param.isSendable := by
  obtain ⟨value, style⟩ := param
  cases value with
  | array items =>
    simp only [text, isSendable, List.all_eq_true, ← scalarText_isOk_iff, ← mapM_isOk_iff,
      bind_eq_ok]
    -- joining the texts of the items cannot fail
    exact ⟨fun ⟨_, texts, h, _⟩ => ⟨texts, h⟩, fun ⟨texts, h⟩ => ⟨_, texts, h, rfl⟩⟩
  | object members => simp [text, isSendable, Json.Value.isScalar]
  | _ => simp only [text, isSendable, scalarText_isOk_iff]

theorem queryTexts_isOk_iff {param : Param} :
    (∃ texts, param.queryTexts = .ok texts) ↔ param.isSendable := by
  obtain ⟨value, style⟩ := param
  cases value with
  | array items =>
    simp only [queryTexts, isSendable, List.all_eq_true, ← scalarText_isOk_iff, ← mapM_isOk_iff,
      bind_eq_ok]
    exact ⟨fun ⟨_, texts, h, _⟩ => ⟨texts, h⟩, fun ⟨texts, h⟩ => ⟨_, texts, h, rfl⟩⟩
  | object members => simp [queryTexts, isSendable, Json.Value.isScalar]
  | _ =>
    simp only [queryTexts, isSendable, ← scalarText_isOk_iff, bind_eq_ok]
    exact ⟨fun ⟨_, text, h, _⟩ => ⟨text, h⟩, fun ⟨text, h⟩ => ⟨_, text, h, rfl⟩⟩

end Param

end StoreClient
