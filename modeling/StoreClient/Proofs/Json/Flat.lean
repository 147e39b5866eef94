import StoreClient.Proofs.Logged
import StoreClient.Json.Decode

/-!
Where the faults of scalars lie. A number, a text or a name has no parts, so that a fault in it lies
in no item and no member (`Flat`); nor does the refusal of a value for its type (`flat_mismatch`).
Hence the readers of integers and of texts report their faults at the value itself, also where the
value may be absent.
-/

namespace StoreClient.Json

/-- A fault, if there is one, lies in no item and no member. -/
def Flat {α : Type} (r : Except Fault α) : Prop := ∀ f, r = .error f → f.path = []

section
variable {α β : Type} {r : Except Fault α}

theorem flat_ok (a : α) : Flat (.ok a) := fun _ h => nomatch h

theorem flat_error {f : Fault} (h : f.path = []) : Flat (.error f : Except Fault α) := by
  intro f' hf
  cases hf
  exact h

theorem flat_here (reason : Reason) (rest : Bytes) :
    Flat (.error (.here reason rest) : Except Fault α) := flat_error rfl

theorem flat_next (reason : Reason) (rest : Bytes) :
    Flat (.error (.next reason rest) : Except Fault α) := flat_error rfl

theorem Flat.map (h : Flat r) (g : α → β) : Flat (r.map g) := fun f hf => h f (map_eq_error.mp hf)

theorem Flat.bind (h : Flat r) {k : α → Except Fault β} (hk : ∀ a, Flat (k a)) :
    Flat (r >>= k) := by
  intro f hf
  rcases bind_eq_error.mp hf with hr | ⟨a, -, ha⟩
  · exact h f hr
  · exact hk a f ha

end

/-! ### Names and numbers -/

theorem flat_name (w s : Bytes) : Flat (name w s) := by
  induction w generalizing s with
  | nil => exact flat_ok s
  | cons b w ih =>
    cases s with
    | nil => exact flat_here _ _
    | cons c s =>
      rw [name]
      split
      · exact ih s
      · exact flat_here _ _

theorem flat_exponent (negative : Bool) (n : Nat) (start : Int) (s : Bytes) :
    Flat (exponent negative n start s) := by
  unfold exponent
  -- the outcomes are floats and faults at this very place
  repeat' split
  all_goals first | exact flat_here _ _ | exact flat_ok _

theorem flat_fraction (negative : Bool) (n : Nat) (start : Int) (s : Bytes) :
    Flat (fraction negative n start s) := by
  unfold fraction
  simp only
  split
  · exact flat_next _ _
  split
  · exact flat_exponent _ _ _ _
  · exact flat_exponent _ _ _ _
  split
  · exact flat_ok _
  · exact flat_here _ _

theorem flat_numberTail (negative : Bool) (n excess : Nat) (s : Bytes) :
    Flat (numberTail negative n excess s) := by
  unfold numberTail
  split
  · exact flat_fraction _ _ _ _
  · exact flat_exponent _ _ _ _
  · exact flat_exponent _ _ _ _
  split
  · exact flat_ok _
  split
  · exact flat_ok _
  · exact flat_here _ _

theorem flat_unsignedNumber (negative : Bool) (s : Bytes) : Flat (unsignedNumber negative s) := by
  unfold unsignedNumber
  split
  · exact flat_here _ _
  split
  · split
    · split
      · exact flat_next _ _
      · exact flat_numberTail _ _ _ _
    · exact flat_numberTail _ _ _ _
  split
  · exact flat_numberTail _ _ _ _
  · exact flat_here _ _

theorem flat_number (s : Bytes) : Flat (number s) := by
  unfold number
  split
  · exact flat_unsignedNumber _ _
  · exact flat_unsignedNumber _ _

/-! ### Strings -/

theorem flat_hexUnit (s : Bytes) : Flat (hexUnit s) := by
  unfold hexUnit
  split
  · split
    · exact flat_ok _
    · exact flat_here _ _
  · exact flat_here _ _

theorem flat_escapeMark (mark : UInt8) (s : Bytes) : Flat (escapeMark mark s) := by
  unfold escapeMark
  split
  · exact flat_here _ _
  split
  · exact flat_ok _
  · exact flat_here _ _

theorem flat_unicodeEscape (s : Bytes) : Flat (unicodeEscape s) := by
  refine (flat_hexUnit s).bind fun first => ?_
  split
  · exact flat_here _ _
  split
  · exact flat_ok _
  refine (flat_escapeMark _ _).bind fun _ => (flat_escapeMark _ _).bind fun _ => ?_
  refine (flat_hexUnit _).bind fun second => ?_
  split
  · exact flat_ok _
  · exact flat_here _ _

theorem flat_escape (s : Bytes) : Flat (escape s) := by
  unfold escape
  split
  · exact flat_here _ _
  split
  · exact (flat_unicodeEscape _).map _
  split
  · exact flat_ok _
  · exact flat_here _ _

theorem flat_stringBytes (skip : Nat) (s : Bytes) : Flat (stringBytes skip s) := by
  induction s generalizing skip with
  | nil => cases skip <;> exact flat_here _ _
  | cons b s ih =>
    cases skip with
    | succ skip => exact ih skip
    | zero =>
      rw [stringBytes]
      split
      · exact flat_ok _
      split
      · split
        · next f hescape => exact flat_error (flat_escape s f hescape)
        · exact (ih _).map _
      split
      · exact flat_here _ _
      · exact (ih 0).map _

theorem flat_stringTail (s : Bytes) : Flat (stringTail s) := by
  refine (flat_stringBytes 0 s).bind fun r => ?_
  simp only
  split
  · exact flat_ok _
  · exact flat_error rfl

/-! ### Readers -/

/-- The refusal of a value for its type lies at the value. -/
theorem path_mismatch (expected : String) (s : Bytes) : (mismatch expected s).path = [] := by
  have hnamed : ∀ {w s : Bytes} {f : Fault}, name w s = .error f → f.path = [] :=
    fun hf => flat_name _ _ _ hf
  unfold mismatch
  simp only
  split
  · rfl
  split
  · split
    · rfl
    · next hf => exact hnamed hf
  · split
    · rfl
    · next hf => exact hnamed hf
  · split
    · rfl
    · next hf => exact hnamed hf
  · split
    · rfl
    · next hf => exact flat_stringTail _ _ hf
  · rfl
  · rfl
  split
  · split
    · rfl
    · next hf => exact flat_number _ _ hf
  · rfl

namespace Reader

/-- The reader refuses values, and no parts of them. -/
def IsFlat {α : Type} (read : Reader α) : Prop := ∀ s, Flat (read s)

theorem isFlat_withLead {α : Type} {read : UInt8 → Bytes → Except Fault (α × Bytes)}
    (h : ∀ b rest, Flat (read b rest)) : IsFlat (withLead read) := by
  intro s
  unfold withLead
  split
  · exact flat_next _ _
  · exact h _ _

theorem isFlat_int (low high : Int) (type : String) : IsFlat (int low high type) := by
  refine isFlat_withLead fun b rest => ?_
  split
  · split
    · next hf => exact flat_error (flat_number _ _ hf)
    · split
      · exact flat_ok _
      · exact flat_here _ _
    · exact flat_here _ _
  · exact flat_error (path_mismatch _ _)

theorem isFlat_text : IsFlat text := by
  refine isFlat_withLead fun b rest => ?_
  split
  · exact flat_stringTail rest
  · exact flat_error (path_mismatch _ _)

variable {α β : Type} {read : Reader α}

theorem IsFlat.map (h : IsFlat read) (g : α → β) : IsFlat (Reader.map g read) :=
  fun s => (h s).map _

theorem IsFlat.optional (h : IsFlat read) : IsFlat (Reader.optional read) := by
  intro s
  unfold Reader.optional
  split
  · exact (flat_name _ _).map _
  · exact (h _).map _

end Reader

end StoreClient.Json
