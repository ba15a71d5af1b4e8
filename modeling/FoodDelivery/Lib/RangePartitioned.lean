import Mathlib.Data.List.Nodup
import Mathlib.Order.Lattice

/-- A part of a table's range, from its lower bound up to but without its upper one. -/
structure RangePartition (N K : Type*) where
  name : N
  lower : K
  upper : K
  deriving DecidableEq, Repr

/-- A table that is partitioned by range. Each row stands in the partition of
a name, or in the default partition. -/
structure RangePartitioned (N K R : Type*) where
  partitions : List (RangePartition N K)
  rows : List (Option N × R)

namespace RangePartition

variable {N K : Type*} [LinearOrder K]

def Holds (partition : RangePartition N K) (k : K) : Prop := partition.lower ≤ k ∧ k < partition.upper

instance (partition : RangePartition N K) (k : K) : Decidable (partition.Holds k) := inferInstanceAs (Decidable (_ ∧ _))

def Overlaps (partition other : RangePartition N K) : Prop := partition.lower < other.upper ∧ other.lower < partition.upper

instance (partition other : RangePartition N K) : Decidable (partition.Overlaps other) := inferInstanceAs (Decidable (_ ∧ _))

/-- Partitions without a value in common do not overlap, and the other way round. -/
theorem not_overlaps_iff {partition other : RangePartition N K} (proper : partition.lower < partition.upper)
    (properToo : other.lower < other.upper) : ¬ partition.Overlaps other ↔ ∀ k, partition.Holds k → ¬ other.Holds k := by
  constructor
  · intro apart k holds holdsToo
    exact apart ⟨holds.1.trans_lt holdsToo.2, holdsToo.1.trans_lt holds.2⟩
  · rintro apart ⟨left, right⟩
    rcases le_total partition.lower other.lower with before | after
    · exact apart other.lower ⟨before, right⟩ ⟨le_refl _, properToo⟩
    · exact apart partition.lower ⟨le_refl _, proper⟩ ⟨after, left⟩

end RangePartition

namespace RangePartitioned

variable {N K R : Type*} [LinearOrder K] (key : R → K)

inductive CreateError
  | emptyRange
  | overlap
  | defaultConstraint
  deriving DecidableEq, Repr

/-- `CREATE TABLE IF NOT EXISTS … PARTITION OF`. -/
def create [DecidableEq N] (table : RangePartitioned N K R) (partition : RangePartition N K) :
    Except CreateError (RangePartitioned N K R) :=
  if ∃ other ∈ table.partitions, other.name = partition.name then pure table
  else if ¬ partition.lower < partition.upper then throw .emptyRange
  else if ∃ other ∈ table.partitions, partition.Overlaps other then throw .overlap
  else if ∃ row ∈ table.rows, row.1 = none ∧ partition.Holds (key row.2) then throw .defaultConstraint
  else pure { table with partitions := table.partitions ++ [partition] }

/-- The partition into which a row goes. -/
def route (table : RangePartitioned N K R) (k : K) : Option N := (table.partitions.find? (·.Holds k)).map (·.name)

def insert (table : RangePartitioned N K R) (row : R) : RangePartitioned N K R :=
  { table with rows := table.rows ++ [(table.route (key row), row)] }

/-- Ranges have nothing in common, and each row stands where it would go now. -/
structure WellFormed (table : RangePartitioned N K R) : Prop where
  proper : ∀ partition ∈ table.partitions, partition.lower < partition.upper
  named : (table.partitions.map (·.name)).Nodup
  apart : ∀ first ∈ table.partitions, ∀ last ∈ table.partitions, first ≠ last → ¬ first.Overlaps last
  routed : ∀ row ∈ table.rows, row.1 = table.route (key row.2)

variable {key} {table table' : RangePartitioned N K R} {partition : RangePartition N K} {k : K}

theorem WellFormed.empty : WellFormed key (⟨[], []⟩ : RangePartitioned N K R) where
  proper _ member := absurd member List.not_mem_nil
  named := List.nodup_nil
  apart _ member := absurd member List.not_mem_nil
  routed _ member := absurd member List.not_mem_nil

theorem route_none (outside : ∀ partition ∈ table.partitions, ¬ partition.Holds k) : table.route k = none := by
  rw [route, Option.map_eq_none_iff, List.find?_eq_none]
  intro partition member
  simp only [decide_eq_true_eq]
  exact outside partition member

theorem route_some (table : RangePartitioned N K R) {name : N} (goes : table.route k = some name) :
    ∃ partition ∈ table.partitions, partition.name = name ∧ partition.Holds k := by
  obtain ⟨partition, found, same⟩ := Option.map_eq_some_iff.mp goes
  have holds := List.find?_some found
  simp only [decide_eq_true_eq] at holds
  exact ⟨partition, List.mem_of_find?_eq_some found, same, holds⟩

/-- A value goes into the partition that holds it. -/
theorem WellFormed.route_eq (formed : table.WellFormed key) (member : partition ∈ table.partitions)
    (holds : partition.Holds k) : table.route k = some partition.name := by
  cases goes : table.route k with
  | none =>
    rw [route, Option.map_eq_none_iff, List.find?_eq_none] at goes
    exact absurd (decide_eq_true holds) (goes partition member)
  | some name =>
    obtain ⟨other, memberToo, rfl, holdsToo⟩ := table.route_some goes
    by_contra different
    have apart : other ≠ partition := fun same => different (by rw [same])
    have separate := formed.apart other memberToo partition member apart
    rw [RangePartition.not_overlaps_iff (formed.proper other memberToo) (formed.proper partition member)] at separate
    exact separate k holdsToo holds

theorem WellFormed.insert (formed : table.WellFormed key) (row : R) : (table.insert key row).WellFormed key where
  proper := formed.proper
  named := formed.named
  apart := formed.apart
  routed other member := by
    rcases List.mem_append.mp member with old | new
    · exact formed.routed other old
    · cases List.mem_singleton.mp new
      rfl

variable [DecidableEq N]

/-- What a statement that succeeds has done. -/
theorem create_ok (run : table.create key partition = .ok table') :
    (∃ other ∈ table.partitions, other.name = partition.name) ∧ table' = table ∨
    (∀ other ∈ table.partitions, other.name ≠ partition.name) ∧ partition.lower < partition.upper ∧
      (∀ other ∈ table.partitions, ¬ partition.Overlaps other) ∧
      (∀ row ∈ table.rows, row.1 = none → ¬ partition.Holds (key row.2)) ∧
      table' = { table with partitions := table.partitions ++ [partition] } := by
  unfold create at run
  split at run
  · rename_i exists_
    cases run
    exact Or.inl ⟨exists_, rfl⟩
  · rename_i named
    split at run
    · cases run
    · rename_i proper
      split at run
      · cases run
      · rename_i apart
        split at run
        · cases run
        · rename_i unused
          cases run
          push Not at named apart unused proper
          exact Or.inr ⟨named, proper, apart, unused, rfl⟩

theorem create_rows (run : table.create key partition = .ok table') : table'.rows = table.rows := by
  rcases create_ok run with ⟨-, rfl⟩ | ⟨-, -, -, -, rfl⟩ <;> rfl

/-- A new partition takes no row from where it stands. -/
theorem WellFormed.create (formed : table.WellFormed key) (run : table.create key partition = .ok table') :
    table'.WellFormed key := by
  rcases create_ok run with ⟨-, rfl⟩ | ⟨named, proper, apart, unused, rfl⟩
  · exact formed
  · constructor
    · intro other member
      rcases List.mem_append.mp member with old | new
      · exact formed.proper other old
      · cases List.mem_singleton.mp new
        exact proper
    · rw [List.map_append, List.nodup_append]
      refine ⟨formed.named, List.nodup_singleton _, ?_⟩
      rintro name known other new rfl
      obtain ⟨earlier, member, same⟩ := List.mem_map.mp known
      exact named earlier member (same.trans (List.mem_singleton.mp new))
    · intro first member last memberToo different
      rcases List.mem_append.mp member with old | new <;> rcases List.mem_append.mp memberToo with oldToo | newToo
      · exact formed.apart first old last oldToo different
      · cases List.mem_singleton.mp newToo
        exact fun overlaps => apart first old ⟨overlaps.2, overlaps.1⟩
      · cases List.mem_singleton.mp new
        exact apart last oldToo
      · cases List.mem_singleton.mp new
        exact absurd (List.mem_singleton.mp newToo).symm different
    · intro row member
      rw [formed.routed row member, route, route, List.find?_append]
      cases found : table.partitions.find? (·.Holds (key row.2)) with
      | some other => rfl
      | none =>
        have alone : row.1 = none := by rw [formed.routed row member, route, found, Option.map_none]
        have outside := unused row member alone
        simp [outside]

end RangePartitioned
