import Mathlib.Tactic.Common

namespace P3Portal.Foundation.Outcome
variable {Error A B : Type}

/-- A sequence succeeds exactly when both parts do. -/
theorem bind_eq_ok {first : Except Error A} {next : A → Except Error B} {value : B} :
    first >>= next = .ok value ↔ ∃ middle, first = .ok middle ∧ next middle = .ok value := by
  cases first with
  | error error =>
      constructor
      · intro impossible
        cases impossible
      · intro impossible
        obtain ⟨middle, absent, rest⟩ := impossible
        cases absent
  | ok middle =>
      constructor
      · intro rest
        exact ⟨middle, rfl, rest⟩
      · intro found
        obtain ⟨same, present, rest⟩ := found
        rw [Except.ok.inj present]
        exact rest

@[simp] theorem ok_bind (value : A) (next : A → Except Error B) : Except.ok value >>= next = next value := rfl

@[simp] theorem error_bind (error : Error) (next : A → Except Error B) :
    Except.error error >>= next = .error error := rfl

@[simp] theorem map_ok (change : A → B) (value : A) :
    change <$> (Except.ok value : Except Error A) = .ok (change value) := rfl

@[simp] theorem map_error (change : A → B) (error : Error) :
    change <$> (Except.error error : Except Error A) = .error error := rfl

end P3Portal.Foundation.Outcome
