import Mathlib.Tactic.Common

universe u v

namespace Except

variable {ε : Type u} {α β : Type v}

/-- A sequence succeeds when its first part does and the rest does on its result. -/
theorem bind_ok {x : Except ε α} {f : α → Except ε β} {b : β} :
    (x >>= f) = .ok b ↔ ∃ a, x = .ok a ∧ f a = .ok b := by
  cases x with
  | error e =>
    constructor
    · intro run
      cases run
    · rintro ⟨_, failed, _⟩
      cases failed
  | ok a =>
    constructor
    · exact fun run => ⟨a, rfl, run⟩
    · rintro ⟨_, same, run⟩
      cases Except.ok.inj same
      exact run

theorem pure_ok {a b : α} : (pure a : Except ε α) = .ok b ↔ a = b :=
  ⟨fun same => Except.ok.inj same, congrArg Except.ok⟩

theorem map_eq_ok {x : Except ε α} {f : α → β} {b : β} : f <$> x = .ok b ↔ ∃ a, x = .ok a ∧ f a = b := by
  cases x with
  | error e =>
    constructor
    · intro run
      cases run
    · rintro ⟨_, failed, _⟩
      cases failed
  | ok a =>
    constructor
    · exact fun run => ⟨a, rfl, Except.ok.inj run⟩
    · rintro ⟨_, same, rfl⟩
      cases Except.ok.inj same
      rfl

theorem throw_ok {e : ε} {a : α} : (throw e : Except ε α) ≠ .ok a := by
  intro failed
  cases failed

/-- A guard that throws passes exactly when its condition holds. -/
theorem guard_ok {p : Prop} [Decidable p] {e : ε} {x : Except ε α} {a : α} :
    (if p then x else throw e) = .ok a ↔ p ∧ x = .ok a := by
  by_cases holds : p
  · rw [if_pos holds]
    exact ⟨fun run => ⟨holds, run⟩, fun run => run.2⟩
  · rw [if_neg holds]
    exact ⟨fun run => absurd run throw_ok, fun run => absurd run.1 holds⟩

theorem reject_ok {p : Prop} [Decidable p] {e : ε} {x : Except ε α} {a : α} :
    (if p then throw e else x) = .ok a ↔ ¬p ∧ x = .ok a := by
  rw [← ite_not]
  exact guard_ok

theorem toOption_bind {x : Except ε α} {f : α → Except ε β} :
    (x >>= f).toOption = x.toOption.bind fun a => (f a).toOption := by
  cases x <;> rfl

end Except
