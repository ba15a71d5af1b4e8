import Mathlib.Logic.Function.Basic
import Mathlib.Tactic.Common

/-- A store's states so far, numbered by the changes that led to them. -/
structure Timeline (S : Type*) where
  states : Nat → S
  changes : Nat

namespace Timeline

variable {S V : Type*}

def start (s : S) : Timeline S where
  states _ := s
  changes := 0

def current (t : Timeline S) : S := t.states t.changes

def commit (t : Timeline S) (s : S) : Timeline S where
  states := Function.update t.states (t.changes + 1) s
  changes := t.changes + 1

/-- Some state since the `n`th change has shown the value. -/
def Since (t : Timeline S) (view : S → V) (n : Nat) (value : V) : Prop :=
  ∃ k, n ≤ k ∧ k ≤ t.changes ∧ view (t.states k) = value

variable {t : Timeline S} {view : S → V} {n : Nat} {value : V}

@[simp] theorem commit_current (t : Timeline S) (s : S) : (t.commit s).current = s := Function.update_self ..

theorem commit_states (s : S) {k : Nat} (old : k ≤ t.changes) : (t.commit s).states k = t.states k :=
  Function.update_of_ne (by omega) ..

theorem since_current (known : n ≤ t.changes) : t.Since view n (view t.current) :=
  ⟨t.changes, known, Nat.le_refl _, rfl⟩

theorem Since.mono {m : Nat} (since : t.Since view n value) (earlier : m ≤ n) : t.Since view m value := by
  obtain ⟨k, later, known, shown⟩ := since
  exact ⟨k, Nat.le_trans earlier later, known, shown⟩

/-- A change adds to what has been shown and takes nothing away. -/
theorem Since.commit (since : t.Since view n value) (s : S) : (t.commit s).Since view n value := by
  obtain ⟨k, later, known, shown⟩ := since
  exact ⟨k, later, Nat.le_succ_of_le known, by rw [commit_states s known, shown]⟩

/-- While no later change has touched what is viewed, it is what the `n`th left. -/
theorem Since.unchanged (since : t.Since view n value)
    (untouched : ∀ k, n < k → k ≤ t.changes → view (t.states k) = view (t.states (k - 1))) :
    value = view (t.states n) := by
  obtain ⟨k, later, known, rfl⟩ := since
  induction later with
  | refl => rfl
  | @step k later ih => rw [untouched (k + 1) (Nat.lt_succ_of_le later) known, Nat.add_sub_cancel, ih (by omega)]

end Timeline
