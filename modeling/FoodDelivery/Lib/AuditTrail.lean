import Mathlib.Tactic.Common

namespace AuditTrail

inductive AuditAction
  | create
  | update
  | delete
  deriving DecidableEq, Repr

/-- What was done to a row, with the row as it was before and as it is after. -/
structure Record (R : Type*) where
  action : AuditAction
  before : Option R
  after : Option R
  deriving DecidableEq, Repr

variable {R : Type*} {exact : Prop}

/-- The records of one row, newest first: it is created, every update starts
from what the record before it left and nothing but deletions follow a deletion.
Where exact, a deletion starts from it as well, so that there is only one. -/
inductive Trail (exact : Prop) : List (Record R) → Prop
  | empty : Trail exact []
  | created (row : R) : Trail exact [⟨.create, none, some row⟩]
  | updated {last : Record R} {trail : List (Record R)} (before after : R) : Trail exact (last :: trail) →
      last.after = some before → Trail exact (⟨.update, some before, some after⟩ :: last :: trail)
  | deleted {last : Record R} {trail : List (Record R)} (before : R) : Trail exact (last :: trail) →
      (exact → last.after = some before) → Trail exact (⟨.delete, some before, none⟩ :: last :: trail)

/-- What a record leaves behind is not left by a deletion. -/
theorem Trail.delete_shows {last : Record R} {trail : List (Record R)} {row : R} (whole : Trail exact (last :: trail))
    (shows : last.after = some row) : last.action ≠ .delete := by
  cases whole with
  | created | updated => exact nofun
  | deleted => cases shows

theorem Trail.delete_newest {trail : List (Record R)} (whole : Trail exact trail) (holds : exact) :
    ∀ record ∈ trail.tail, record.action ≠ .delete := by
  induction whole with
  | empty | created => exact nofun
  | updated before after older starts ih => exact List.forall_mem_cons.mpr ⟨older.delete_shows starts, ih⟩
  | deleted before older starts ih => exact List.forall_mem_cons.mpr ⟨older.delete_shows (starts holds), ih⟩

/-- A row and its records: the records make a trail, there are some as soon as
there is a row, and while it is not deleted the newest shows it as it stands. -/
structure Audited (exact : Prop) (gone : R → Prop) (stored : Option R) (trail : List (Record R)) : Prop where
  chained : Trail exact trail
  absent : stored = none → trail = []
  present : ∀ row, stored = some row → ∃ last rest, trail = last :: rest ∧ (¬gone row → last.after = some row)

namespace Audited

variable {gone : R → Prop} {old new : R} {trail : List (Record R)}

theorem empty : Audited exact gone none [] where
  chained := .empty
  absent _ := rfl
  present _ absurd := nomatch absurd

theorem create (audited : Audited exact gone none trail) :
    Audited exact gone (some new) (⟨.create, none, some new⟩ :: trail) := by
  cases audited.absent rfl
  refine ⟨.created new, nofun, ?_⟩
  rintro row ⟨⟩
  exact ⟨_, _, rfl, fun _ => rfl⟩

theorem update (audited : Audited exact gone (some old) trail) (live : ¬gone old) :
    Audited exact gone (some new) (⟨.update, some old, some new⟩ :: trail) := by
  obtain ⟨last, rest, rfl, shows⟩ := audited.present old rfl
  refine ⟨audited.chained.updated old new (shows live), nofun, ?_⟩
  rintro row ⟨⟩
  exact ⟨_, _, rfl, fun _ => rfl⟩

/-- Where exact, the row is still as it was when it was read, and not deleted. -/
theorem delete {before : R} (audited : Audited exact gone (some old) trail) (deleted : gone new)
    (current : exact → old = before ∧ ¬gone old) :
    Audited exact gone (some new) (⟨.delete, some before, none⟩ :: trail) := by
  obtain ⟨last, rest, rfl, shows⟩ := audited.present old rfl
  refine ⟨audited.chained.deleted before fun holds => ?_, nofun, ?_⟩
  · obtain ⟨rfl, live⟩ := current holds
    exact shows live
  · rintro row ⟨⟩
    exact ⟨_, _, rfl, fun live => absurd deleted live⟩

/-- The row is deleted and nothing is recorded. -/
theorem sweep (audited : Audited exact gone (some old) trail) (deleted : gone new) : Audited exact gone (some new) trail := by
  refine ⟨audited.chained, nofun, ?_⟩
  rintro row ⟨⟩
  obtain ⟨last, rest, rfl, -⟩ := audited.present old rfl
  exact ⟨last, rest, rfl, fun live => absurd deleted live⟩

end Audited

end AuditTrail
