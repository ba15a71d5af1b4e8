import Mathlib.Order.Basic
import Mathlib.Tactic.Common

/-- A table with a primary key: every row stands under its own key. -/
structure Table {K R : Type*} (key : R → K) where
  find : K → Option R
  keyed : ∀ k row, find k = some row → key row = k

namespace Table

variable {K R : Type*} {key : R → K}

def empty : Table key where
  find _ := none
  keyed _ _ absent := by cases absent

/-- An update of rows that leaves their keys alone. -/
def mapRows (t : Table key) (f : R → R) (keeps : ∀ row, key (f row) = key row) : Table key where
  find k := (t.find k).map f
  keyed k row found := by
    obtain ⟨old, atKey, rfl⟩ := Option.map_eq_some_iff.mp found
    rw [keeps, t.keyed k old atKey]

@[simp] theorem find_mapRows (t : Table key) (f : R → R) (keeps : ∀ row, key (f row) = key row) (k : K) :
    (t.mapRows f keeps).find k = (t.find k).map f := rfl

/-- An update leaves a key alone whose row it does not change. -/
theorem map_find_of_fixed {t : Table key} {f : R → R} {k : K} (fixed : ∀ row, t.find k = some row → f row = row) :
    (t.find k).map f = t.find k := by
  cases found : t.find k with
  | none => rfl
  | some row => exact congrArg some (fixed row found)

variable [DecidableEq K]

/-- Inserts a row, or replaces the one with the same key. -/
def put (t : Table key) (row : R) : Table key where
  find k := if k = key row then some row else t.find k
  keyed k r found := by
    split at found
    · rename_i same
      cases Option.some.inj found
      exact same.symm
    · exact t.keyed k r found

theorem find_put (t : Table key) (row : R) (k : K) :
    (t.put row).find k = if k = key row then some row else t.find k := rfl

@[simp] theorem find_put_self (t : Table key) (row : R) : (t.put row).find (key row) = some row :=
  if_pos rfl

theorem find_put_key {t : Table key} {row : R} {k : K} (same : key row = k) : (t.put row).find k = some row :=
  if_pos same.symm

theorem find_put_of_ne {t : Table key} {row : R} {k : K} (different : k ≠ key row) :
    (t.put row).find k = t.find k :=
  if_neg different

/-- An insert leaves the rows that stand in the table. -/
theorem find_put_of_absent {t : Table key} {row old : R} {k : K} (absent : t.find (key row) = none)
    (stored : t.find k = some old) : (t.put row).find k = some old := by
  have other : k ≠ key row := by
    rintro rfl
    cases absent.symm.trans stored
  exact (find_put_of_ne other).trans stored

/-- A row of the new table is the one written or stood there before. -/
theorem cases_put {t : Table key} {row found : R} {k : K} (atKey : (t.put row).find k = some found) :
    k = key row ∧ found = row ∨ k ≠ key row ∧ t.find k = some found := by
  by_cases same : k = key row
  · subst same
    exact Or.inl ⟨rfl, (Option.some.inj ((t.find_put_self row).symm.trans atKey)).symm⟩
  · exact Or.inr ⟨same, (find_put_of_ne same).symm.trans atKey⟩

/-- A column after a write. -/
theorem map_find_put {β : Type*} (t : Table key) (row : R) (column : R → β) (k : K) :
    ((t.put row).find k).map column = if k = key row then some (column row) else (t.find k).map column := by
  rw [find_put]
  split <;> rfl

/-- A write that keeps a column's value leaves the whole column alone. -/
theorem map_find_put_same {β : Type*} {t : Table key} {row row' : R} {column : R → β} {k : K} (other : K)
    (stands : t.find k = some row) (sameKey : key row' = key row) (same : column row' = column row) :
    ((t.put row').find other).map column = (t.find other).map column := by
  rw [map_find_put]
  split
  · rename_i here
    rw [here, sameKey, t.keyed k row stands, stands, same]
    rfl
  · rfl

end Table

namespace OptimisticLock

/-- Optimistic locking on a table: which column carries the version, which
part of a row it protects, and which part is never written again. -/
structure Versioned (R V C F : Type*) where
  version : R → V
  core : R → C
  fixed : R → F

variable {K R V C F : Type*} {key : R → K} [PartialOrder V] (v : Versioned R V C F)

/-- Later states of a row: the fixed part stays, the version only grows, and
while it has not moved the protected part stays as well. -/
structure Versioned.RowLater (row row' : R) : Prop where
  fixed : v.fixed row = v.fixed row'
  version : v.version row ≤ v.version row'
  core : v.version row = v.version row' → v.core row = v.core row'

/-- Later states of a table: no row is lost. -/
def Versioned.Later (old new : Table key) : Prop :=
  ∀ k row, old.find k = some row → ∃ row', new.find k = some row' ∧ v.RowLater row row'

variable {v}

theorem Versioned.RowLater.refl (row : R) : v.RowLater row row := ⟨rfl, le_rfl, fun _ => rfl⟩

theorem Versioned.RowLater.trans {a b c : R} (first : v.RowLater a b) (last : v.RowLater b c) : v.RowLater a c := by
  refine ⟨first.fixed.trans last.fixed, first.version.trans last.version, ?_⟩
  intro equal
  have stays : v.version a = v.version b := le_antisymm first.version (equal ▸ last.version)
  exact (first.core stays).trans (last.core (stays.symm.trans equal))

/-- A write that moves the version may change the protected part. -/
theorem Versioned.RowLater.moved {row row' : R} (moves : v.version row < v.version row')
    (fixed : v.fixed row = v.fixed row') : v.RowLater row row' :=
  ⟨fixed, moves.le, fun still => absurd still moves.ne⟩

theorem Versioned.Later.refl (t : Table key) : v.Later t t :=
  fun _ row atKey => ⟨row, atKey, .refl row⟩

theorem Versioned.Later.trans {a b c : Table key} (first : v.Later a b) (last : v.Later b c) :
    v.Later a c := by
  intro k row atKey
  obtain ⟨middle, atMiddle, grows⟩ := first k row atKey
  obtain ⟨final, atFinal, grows'⟩ := last k middle atMiddle
  exact ⟨final, atFinal, grows.trans grows'⟩

/-- What has become of a row read earlier. -/
theorem Versioned.Later.row {old new : Table key} {k : K} {row row' : R} (later : v.Later old new)
    (read : old.find k = some row) (stored : new.find k = some row') : v.RowLater row row' := by
  obtain ⟨final, atFinal, grows⟩ := later k row read
  cases Option.some.inj (atFinal.symm.trans stored)
  exact grows

/-- The guard of an optimistic update: a row read earlier whose version is
still the stored one has the protected part that is stored now. -/
theorem Versioned.Later.guard {old new : Table key} {k : K} {row row' : R} (later : v.Later old new)
    (read : old.find k = some row) (stored : new.find k = some row') (unmoved : v.version row' = v.version row) :
    v.core row = v.core row' :=
  (later.row read stored).core unmoved.symm

/-- A write of many rows at once. -/
theorem Versioned.Later.rows {old new : Table key}
    (rows : ∀ k row, old.find k = some row → ∃ row', new.find k = some row' ∧ (row' = row ∨ v.RowLater row row')) :
    v.Later old new := by
  intro k row atKey
  obtain ⟨row', stands, rfl | later⟩ := rows k row atKey
  · exact ⟨row', stands, .refl row'⟩
  · exact ⟨row', stands, later⟩

variable [DecidableEq K]

theorem Versioned.Later.insert {t : Table key} {row : R} (absent : t.find (key row) = none) :
    v.Later t (t.put row) := by
  intro k old atKey
  exact ⟨old, Table.find_put_of_absent absent atKey, .refl old⟩

theorem Versioned.Later.write {t : Table key} {row row' : R} {k : K} (stored : t.find k = some row)
    (sameKey : key row' = key row) (later : v.RowLater row row') : v.Later t (t.put row') := by
  have atKey : key row' = k := sameKey.trans (t.keyed k row stored)
  subst atKey
  intro k old atK
  by_cases same : k = key row'
  · subst same
    cases Option.some.inj (stored.symm.trans atK)
    exact ⟨row', t.find_put_self row', later⟩
  · exact ⟨old, (Table.find_put_of_ne same).trans atK, .refl old⟩

end OptimisticLock
