import Mathlib.Init

/-!
# Steps that can fail

A reader is a row of steps each of which gives a result or ends it with an error. What the row comes
to is told by its first step and what follows it.

> `Attempt.bind_eq_ok_iff`, `Attempt.bind_eq_error_iff`: a row of two steps.
> `Attempt.map_eq_ok_iff`, `Attempt.map_eq_error_iff`: a step whose result is used further.
> `Attempt.mapError_eq_ok_iff`, `Attempt.mapError_eq_error_iff`: a step whose errors are told in other
> words.
-/

namespace ArgumentSchema.Attempt

variable {ε ε' α β : Type}

theorem bind_eq_ok_iff {m : Except ε α} {k : α → Except ε β} {b : β} :
    (m >>= k) = .ok b ↔ ∃ a, m = .ok a ∧ k a = .ok b := by
  cases m with
  | error e => exact ⟨fun h => (by cases h), fun ⟨_, h, _⟩ => (by cases h)⟩
  | ok a => exact ⟨fun h => ⟨a, rfl, h⟩, fun ⟨_, h, hk⟩ => Except.ok.inj h ▸ hk⟩

theorem bind_eq_error_iff {m : Except ε α} {k : α → Except ε β} {e : ε} :
    (m >>= k) = .error e ↔ m = .error e ∨ ∃ a, m = .ok a ∧ k a = .error e := by
  cases m with
  | error e' =>
    constructor
    · intro h
      cases h
      exact .inl rfl
    · rintro (h | ⟨_, h, _⟩)
      · cases h
        rfl
      · cases h
  | ok a =>
    constructor
    · intro h
      exact .inr ⟨a, rfl, h⟩
    · rintro (h | ⟨_, h, hk⟩)
      · cases h
      · cases h
        exact hk

theorem map_eq_ok_iff {m : Except ε α} {f : α → β} {b : β} :
    m.map f = .ok b ↔ ∃ a, m = .ok a ∧ f a = b := by
  cases m <;> simp [Except.map]

theorem map_eq_error_iff {m : Except ε α} {f : α → β} {e : ε} :
    m.map f = .error e ↔ m = .error e := by
  cases m <;> simp [Except.map]

theorem mapError_eq_ok_iff {m : Except ε α} {f : ε → ε'} {a : α} :
    m.mapError f = .ok a ↔ m = .ok a := by
  cases m with
  | error e => exact ⟨fun h => (by cases h), fun h => (by cases h)⟩
  | ok b =>
    constructor <;>
    · intro h
      cases h
      rfl

theorem mapError_eq_error_iff {m : Except ε α} {f : ε → ε'} {e' : ε'} :
    m.mapError f = .error e' ↔ ∃ e, m = .error e ∧ f e = e' := by
  cases m with
  | error e =>
    constructor
    · intro h
      exact ⟨e, rfl, Except.error.inj h⟩
    · rintro ⟨_, ⟨⟩, rfl⟩
      rfl
  | ok a => exact ⟨fun h => (by cases h), fun ⟨_, h, _⟩ => (by cases h)⟩

end ArgumentSchema.Attempt
