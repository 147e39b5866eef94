import Mathlib.Data.List.Forall2
import StoreClient.Logged

/-!
When computations that may fail succeed. A sequence yields a value exactly if its first part does
and the rest yields that value from it (`bind_eq_ok`, `Logged.result_bind_eq_ok`), so that a program
is read off its outcome step by step. Where a list is gone through, the first item that fails is the
failure of the whole (`mapM_eq_error_iff`). What is warned of on the way comes in the order of the
steps, and as far as they are taken (`Logged.Raises`).
-/

namespace StoreClient

variable {ε ε' α β : Type}

theorem bind_eq_ok {x : Except ε α} {f : α → Except ε β} {b : β} :
    x >>= f = .ok b ↔ ∃ a, x = .ok a ∧ f a = .ok b := by
  cases x with
  | error e => exact ⟨fun h => (nomatch h), fun ⟨_, h, _⟩ => (nomatch h)⟩
  | ok a =>
    constructor
    · intro h
      exact ⟨a, rfl, h⟩
    · rintro ⟨a', h, h'⟩
      cases h
      exact h'

theorem ite_error_eq_ok {c : Prop} [Decidable c] {e : ε} {x : Except ε α} {a : α} :
    (if c then .error e else x) = .ok a ↔ ¬ c ∧ x = .ok a := by
  by_cases h : c <;> simp [h]

theorem map_eq_ok {x : Except ε α} {f : α → β} {b : β} :
    x.map f = .ok b ↔ ∃ a, x = .ok a ∧ f a = b := by
  cases x <;> simp [Except.map]

theorem mapError_eq_ok {x : Except ε α} {f : ε → ε'} {a : α} :
    x.mapError f = .ok a ↔ x = .ok a := by
  cases x <;> simp [Except.mapError]

theorem bind_eq_error {x : Except ε α} {f : α → Except ε β} {e : ε} :
    x >>= f = .error e ↔ x = .error e ∨ ∃ a, x = .ok a ∧ f a = .error e := by
  cases x with
  | error e' => simp [bind, Except.bind]
  | ok a => simp [bind, Except.bind]

theorem bind_pure_eq_error_iff {x : Except ε α} {k : α → β} {e : ε} :
    (x >>= fun a => pure (k a)) = .error e ↔ x = .error e := by
  cases x <;> simp [bind, Except.bind, pure, Except.pure]

theorem isOk_iff_forall_ne {x : Except ε α} : (∃ a, x = .ok a) ↔ ∀ e, x ≠ .error e := by
  cases x <;> simp

theorem exists_eq_ok_unit {x : Except ε Unit} : (∃ u, x = .ok u) ↔ x = .ok () :=
  ⟨fun ⟨_, h⟩ => h, fun h => ⟨(), h⟩⟩

theorem map_eq_error {x : Except ε α} {f : α → β} {e : ε} : x.map f = .error e ↔ x = .error e := by
  cases x <;> simp [Except.map]

theorem mapError_eq_error {x : Except ε α} {f : ε → ε'} {e' : ε'} :
    x.mapError f = .error e' ↔ ∃ e, x = .error e ∧ f e = e' := by
  cases x <;> simp [Except.mapError]

/-- The texts of a list are all there exactly if each item has its own. -/
theorem mapM_eq_ok {f : α → Except ε β} {xs : List α} {ys : List β} :
    xs.mapM f = .ok ys ↔ List.Forall₂ (fun x y => f x = .ok y) xs ys := by
  induction xs generalizing ys with
  | nil =>
    rw [List.mapM_nil]
    constructor
    · intro h
      cases h
      exact .nil
    · intro h
      cases h
      rfl
  | cons x xs ih =>
    simp only [List.mapM_cons, bind_eq_ok]
    constructor
    · rintro ⟨y, hy, ys', hys, h⟩
      cases h
      exact .cons hy (ih.mp hys)
    · intro h
      cases h with
      | cons hy hys => exact ⟨_, hy, _, ih.mpr hys, rfl⟩

theorem exists_of_mem_mapM {f : α → Except ε β} {xs : List α} {ys : List β}
    (h : xs.mapM f = .ok ys) {y : β} (hy : y ∈ ys) : ∃ x ∈ xs, f x = .ok y := by
  induction mapM_eq_ok.mp h with
  | nil => cases hy
  | cons hx hxs ih =>
    rcases List.mem_cons.mp hy with rfl | hy
    · exact ⟨_, List.mem_cons_self, hx⟩
    · obtain ⟨x, hmem, hx⟩ := ih (mapM_eq_ok.mpr hxs) hy
      exact ⟨x, List.mem_cons_of_mem _ hmem, hx⟩

theorem mapM_isOk_iff {f : α → Except ε β} {xs : List α} :
    (∃ ys, xs.mapM f = .ok ys) ↔ ∀ x ∈ xs, ∃ y, f x = .ok y := by
  induction xs with
  | nil => exact ⟨fun _ x hx => (nomatch hx), fun _ => ⟨[], rfl⟩⟩
  | cons x xs ih =>
    simp only [mapM_eq_ok, List.forall₂_cons_left_iff] at ih ⊢
    rw [List.forall_mem_cons, ← ih]
    constructor
    · rintro ⟨_, y, ys, hy, hys, -⟩
      exact ⟨⟨y, hy⟩, ys, hys⟩
    · rintro ⟨⟨y, hy⟩, ys, hys⟩
      exact ⟨_, y, ys, hy, hys, rfl⟩

/-- The failure of the first item for which a computation fails. -/
inductive FirstError (f : α → Except ε β) : List α → ε → Prop where
  | here {x : α} {xs : List α} {e : ε} (h : f x = .error e) : FirstError f (x :: xs) e
  | there {x : α} {xs : List α} {y : β} {e : ε} (h : f x = .ok y) (hrest : FirstError f xs e) :
      FirstError f (x :: xs) e

theorem mapM_eq_error_iff {f : α → Except ε β} {xs : List α} {e : ε} :
    xs.mapM f = .error e ↔ FirstError f xs e := by
  induction xs with
  | nil => exact ⟨fun h => (nomatch h), fun h => (nomatch h)⟩
  | cons x xs ih =>
    rw [List.mapM_cons, bind_eq_error]
    constructor
    · rintro (h | ⟨y, hy, h⟩)
      · exact .here h
      · rcases bind_eq_error.mp h with h | ⟨_, -, h⟩
        · exact .there hy (ih.mp h)
        · cases h
    · intro h
      cases h with
      | here h => exact .inl h
      | there hy h => exact .inr ⟨_, hy, bind_eq_error.mpr (.inl (ih.mpr h))⟩

/-- A list is gone through unless some item is the first to fail. -/
theorem forall_isOk_iff {f : α → Except ε β} {xs : List α} :
    (∀ x ∈ xs, ∃ y, f x = .ok y) ↔ ∀ e, ¬ FirstError f xs e := by
  rw [← mapM_isOk_iff, isOk_iff_forall_ne]
  simp only [ne_eq, mapM_eq_error_iff]

/-- What is done with the result of each item does not count. -/
theorem firstError_bind_iff {γ : Type} {f : α → Except ε β} {k : α → β → γ} {xs : List α} {e : ε} :
    FirstError (fun x => do return k x (← f x)) xs e ↔ FirstError f xs e := by
  constructor
  · intro h
    induction h with
    | here h => exact .here (bind_pure_eq_error_iff.mp h)
    | there h _ ih =>
      obtain ⟨_, h, -⟩ := bind_eq_ok.mp h
      exact .there h ih
  · intro h
    induction h with
    | here h => exact .here (bind_pure_eq_error_iff.mpr h)
    | there h _ ih => exact .there (bind_eq_ok.mpr ⟨_, h, rfl⟩) ih

theorem firstError_iff {f : α → Except ε β} {xs : List α} {e : ε} :
    FirstError f xs e ↔ ∃ front x rest,
      xs = front ++ x :: rest ∧ (∀ y ∈ front, ∃ b, f y = .ok b) ∧ f x = .error e := by
  constructor
  · intro h
    induction h with
    | here h => exact ⟨[], _, _, rfl, fun _ hy => (nomatch hy), h⟩
    | there hy _ ih =>
      obtain ⟨front, x, rest, rfl, hfront, hx⟩ := ih
      exact ⟨_ :: front, x, rest, rfl, List.forall_mem_cons.mpr ⟨⟨_, hy⟩, hfront⟩, hx⟩
  · rintro ⟨front, x, rest, rfl, hfront, hx⟩
    induction front with
    | nil => exact .here hx
    | cons y front ih =>
      obtain ⟨⟨_, hy⟩, hfront⟩ := List.forall_mem_cons.mp hfront
      exact .there hy (ih hfront)

/-! ### Verdicts -/

/-- Whether a computation succeeds, and else how it fails. -/
def verdict (x : Except ε α) : Except ε Unit := x.map fun _ => ()

theorem verdict_eq_ok_iff {x : Except ε α} : verdict x = .ok () ↔ ∃ a, x = .ok a := by
  cases x <;> simp [verdict, Except.map]

theorem verdict_mapError_eq_ok_iff {x : Except ε α} {f : ε → ε'} :
    verdict (x.mapError f) = .ok () ↔ ∃ a, x = .ok a := by
  simp only [verdict_eq_ok_iff, mapError_eq_ok]

theorem verdict_mapError_eq_error_iff {x : Except ε α} {f : ε → ε'} {e : ε'} :
    verdict (x.mapError f) = .error e ↔ ∃ cause, x = .error cause ∧ e = f cause := by
  rw [verdict, map_eq_error, mapError_eq_error]
  simp only [eq_comm]

theorem verdict_eq_error_iff {x : Except ε α} {e : ε} : verdict x = .error e ↔ x = .error e :=
  map_eq_error

/-- A second part whose verdict does not depend on what the first one yields. -/
theorem verdict_bind {x : Except ε α} {f : α → Except ε β} {y : Except ε Unit}
    (h : ∀ a, x = .ok a → verdict (f a) = y) :
    verdict (x >>= f) = verdict x >>= fun _ => y := by
  cases x with
  | error e => rfl
  | ok a => exact h a rfl

theorem verdict_mapM_cons {f : α → Except ε β} {x : α} {xs : List α} :
    verdict ((x :: xs).mapM f) = verdict (f x) >>= fun _ => verdict (xs.mapM f) := by
  rw [List.mapM_cons]
  refine verdict_bind fun y _ => ?_
  cases xs.mapM f <;> rfl

@[simp] theorem verdict_unit (x : Except ε Unit) : verdict x = x := by
  cases x <;> rfl

theorem verdict_mapError (x : Except ε α) (f : ε → ε') :
    verdict (x.mapError f) = (verdict x).mapError f := by
  cases x <;> rfl

namespace Logged

@[simp] theorem result_pure (a : α) : (pure a : Logged α).result = .ok a := rfl

@[simp] theorem result_ofExcept (x : Except Error α) : (ofExcept x).result = x := rfl

@[simp] theorem result_warn (w : Warning) : (warn w).result = .ok () := rfl

theorem result_bind (x : Logged α) (f : α → Logged β) :
    (x >>= f).result = x.result >>= fun a => (f a).result := by
  change (Logged.bind x f).result = _
  rw [Logged.bind]
  cases h : x.result <;> rfl

theorem result_bind_eq_ok {x : Logged α} {f : α → Logged β} {b : β} :
    (x >>= f).result = .ok b ↔ ∃ a, x.result = .ok a ∧ (f a).result = .ok b := by
  rw [result_bind, bind_eq_ok]

theorem verdict_result_bind {x : Logged α} {f : α → Logged β} {y : Except Error Unit}
    (h : ∀ a, x.result = .ok a → verdict (f a).result = y) :
    verdict (x >>= f).result = verdict x.result >>= fun _ => y := by
  rw [result_bind]
  exact verdict_bind h

/-! ### Warnings -/

theorem warnings_bind (x : Logged α) (f : α → Logged β) :
    (x >>= f).warnings = x.warnings ++
      match x.result with
      | .ok a => (f a).warnings
      | .error _ => [] := by
  change (Logged.bind x f).warnings = _
  rw [Logged.bind]
  cases x.result with
  | ok a => rfl
  | error e => exact (List.append_nil _).symm

/-- Whether a computation raises the warnings of a list in their order: all of them if it succeeds,
and else those before some point. -/
structure Raises (x : Logged α) (ws : List Warning) : Prop where
  isPrefix : x.warnings <+: ws
  eq_of_ok : ∀ a, x.result = .ok a → x.warnings = ws

namespace Raises

theorem of_pure (a : α) : (pure a : Logged α).Raises [] := ⟨List.prefix_rfl, fun _ _ => rfl⟩

theorem of_ofExcept (x : Except Error α) : (ofExcept x).Raises [] :=
  ⟨List.prefix_rfl, fun _ _ => rfl⟩

theorem of_warn (w : Warning) : (warn w).Raises [w] := ⟨List.prefix_rfl, fun _ _ => rfl⟩

/-- What the second part raises comes after what the first does. -/
theorem bind {x : Logged α} {f : α → Logged β} {ws ws' : List Warning} (hx : x.Raises ws)
    (hf : ∀ a, x.result = .ok a → (f a).Raises ws') : (x >>= f).Raises (ws ++ ws') := by
  cases hresult : x.result with
  | error e =>
    refine ⟨?_, fun b hb => ?_⟩
    · rw [warnings_bind, hresult, List.append_nil]
      exact hx.isPrefix.trans (List.prefix_append ..)
    · rw [result_bind, hresult] at hb
      cases hb
  | ok a =>
    have hwarnings : (x >>= f).warnings = ws ++ (f a).warnings := by
      rw [warnings_bind, hresult, hx.eq_of_ok a hresult]
    refine ⟨?_, fun b hb => ?_⟩
    · rw [hwarnings]
      exact (List.prefix_append_right_inj ws).mpr (hf a hresult).isPrefix
    · rw [result_bind, hresult] at hb
      rw [hwarnings, (hf a hresult).eq_of_ok b hb]

/-- A first part that raises nothing. -/
theorem bind_left {x : Logged α} {f : α → Logged β} {ws : List Warning} (hx : x.Raises [])
    (hf : ∀ a, x.result = .ok a → (f a).Raises ws) : (x >>= f).Raises ws :=
  hx.bind hf

/-- A second part that raises nothing. -/
theorem bind_right {x : Logged α} {f : α → Logged β} {ws : List Warning} (hx : x.Raises ws)
    (hf : ∀ a, (f a).Raises []) : (x >>= f).Raises ws :=
  List.append_nil ws ▸ hx.bind fun a _ => hf a

end Raises

end Logged

end StoreClient
