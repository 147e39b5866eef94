import StoreClient.Param.Bindings
import StoreClient.Proofs.NameMap
import StoreClient.Proofs.Param.Sendable

/-!
The texts of bindings. Each binding has its own text or fails on its own, so that all of them have
texts (`textPairs_eq_ok`) unless one is the first that has none (`textPairs_eq_error_iff`,
`formText_eq_error_iff`).
-/

namespace StoreClient.Bindings

variable {bindings : Bindings} {cause : Param.Unsupported}

theorem textPairs_eq_ok {fields : List (String × String)} (h : bindings.textPairs = .ok fields) :
    List.Forall₂ (fun e field => field.1 = e.1 ∧ e.2.text = .ok field.2)
      bindings.entries fields := by
  apply (mapM_eq_ok.mp h).imp
  intro e field h
  obtain ⟨text, htext, h⟩ := bind_eq_ok.mp h
  cases h
  exact ⟨rfl, htext⟩

theorem textPairs_eq_error_iff : bindings.textPairs = .error cause ↔
    FirstError (fun e => e.2.text) bindings.entries cause := by
  rw [textPairs, mapM_eq_error_iff]
  exact firstError_bind_iff

theorem formText_eq_error_iff : bindings.formText = .error cause ↔
    FirstError (fun e => e.2.queryTexts) bindings.entries cause := by
  rw [formText, queryPairs, bind_pure_eq_error_iff, bind_pure_eq_error_iff, mapM_eq_error_iff]
  exact firstError_bind_iff

theorem forall_isSendable_iff :
    (∀ name param, bindings.get? name = some param → param.isSendable) ↔
      ∀ e ∈ bindings.entries, e.2.isSendable :=
  NameMap.forall_get?_iff (P := fun e : String × Param => e.2.isSendable)

theorem textPairs_isOk_iff :
    (∃ fields, bindings.textPairs = .ok fields) ↔ ∀ e ∈ bindings.entries, e.2.isSendable := by
  rw [isOk_iff_forall_ne]
  simp only [ne_eq, textPairs_eq_error_iff, ← forall_isOk_iff, Param.text_isOk_iff]

theorem formText_isOk_iff :
    (∃ text, bindings.formText = .ok text) ↔ ∀ e ∈ bindings.entries, e.2.isSendable := by
  rw [isOk_iff_forall_ne]
  simp only [ne_eq, formText_eq_error_iff, ← forall_isOk_iff, Param.queryTexts_isOk_iff]

end StoreClient.Bindings
