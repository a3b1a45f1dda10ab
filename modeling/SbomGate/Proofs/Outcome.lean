import Mathlib.Tactic.Common
/-!
# SbomGate.Proofs.Outcome

**Sequences of steps that can fail**, taken apart: a sequence succeeds when
every step of it does, and fails with the error of the first one that does
not. Everything else in the theory inverts its functions through these
lemmas.
-/

namespace SbomGate

variable {ε ε' α β : Type}

@[simp] theorem ok_bind (a : α) (f : α → Except ε β) : (Except.ok a >>= f) = f a := rfl

@[simp] theorem error_bind (e : ε) (f : α → Except ε β) :
    (Except.error e >>= f) = Except.error e := rfl

/-! ### Success -/

theorem bind_eq_ok_iff {x : Except ε α} {f : α → Except ε β} {b : β} :
    (x >>= f) = .ok b ↔ ∃ a, x = .ok a ∧ f a = .ok b := by
  cases x with
  | error e => simp
  | ok a => simp

theorem except_bind_eq_ok_iff {x : Except ε α} {f : α → Except ε β} {b : β} :
    x.bind f = .ok b ↔ ∃ a, x = .ok a ∧ f a = .ok b :=
  bind_eq_ok_iff

theorem map_eq_ok_iff {x : Except ε α} {f : α → β} {b : β} :
    x.map f = .ok b ↔ ∃ a, x = .ok a ∧ f a = b := by
  cases x <;> simp [Except.map]

@[simp] theorem mapError_eq_ok_iff {x : Except ε α} {f : ε → ε'} {a : α} :
    x.mapError f = .ok a ↔ x = .ok a := by
  cases x <;> simp [Except.mapError]

/-! ### Failure -/

theorem bind_eq_error_iff {x : Except ε α} {f : α → Except ε β} {e : ε} :
    (x >>= f) = .error e ↔ x = .error e ∨ ∃ a, x = .ok a ∧ f a = .error e := by
  cases x with
  | error e' => simp
  | ok a => simp

theorem map_eq_error_iff {x : Except ε α} {f : α → β} {e : ε} :
    x.map f = .error e ↔ x = .error e := by
  cases x <;> simp [Except.map]

theorem mapError_eq_error_iff {x : Except ε α} {f : ε → ε'} {e : ε'} :
    x.mapError f = .error e ↔ ∃ e', x = .error e' ∧ f e' = e := by
  cases x <;> simp [Except.mapError]

/-! ### Outcomes side by side -/

/-- Two outcomes of one kind: errors that `E` relates, or results that `R`
relates. -/
inductive Alike (E : ε → ε → Prop) (R : α → α → Prop) : Except ε α → Except ε α → Prop
  /-- Both fail. -/
  | error {e e' : ε} (h : E e e') : Alike E R (.error e) (.error e')
  /-- Both succeed. -/
  | ok {a a' : α} (h : R a a') : Alike E R (.ok a) (.ok a')

namespace Alike

variable {E : ε → ε → Prop} {R : α → α → Prop} {S : β → β → Prop}

theorem bind {x y : Except ε α} {f g : α → Except ε β} (h : Alike E R x y)
    (hstep : ∀ a a', R a a' → Alike E S (f a) (g a')) : Alike E S (x >>= f) (y >>= g) := by
  cases h with
  | error he => exact .error he
  | ok ha => exact hstep _ _ ha

/-- A step that both have in common. -/
theorem bind_same {x : Except ε α} {f g : α → Except ε β} (hE : ∀ e, E e e)
    (hstep : ∀ a, x = .ok a → Alike E S (f a) (g a)) : Alike E S (x >>= f) (x >>= g) := by
  cases x with
  | error e => exact .error (hE e)
  | ok a => exact hstep a rfl

theorem mapError {E' : ε' → ε' → Prop} {x y : Except ε α} {f g : ε → ε'} (h : Alike E R x y)
    (hE : ∀ e e', E e e' → E' (f e) (g e')) : Alike E' R (x.mapError f) (y.mapError g) := by
  cases h with
  | error he => exact .error (hE _ _ he)
  | ok ha => exact .ok ha

end Alike

end SbomGate
