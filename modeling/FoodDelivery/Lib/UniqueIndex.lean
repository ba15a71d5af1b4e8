import Mathlib.Data.List.Nodup
import Mathlib.Tactic.Common

/-- The rows of a table with a primary key and a unique index. -/
structure IndexedRows {R I K : Type*} (id : R → I) (index : R → K) where
  rows : List R
  ids : (rows.map id).Nodup
  unique : (rows.map index).Nodup

namespace IndexedRows

variable {R I K : Type*} {id : R → I} {index : R → K} (t t' : IndexedRows id index) {row old : R} {k : K}

def empty : IndexedRows id index where
  rows := []
  ids := List.nodup_nil
  unique := List.nodup_nil

theorem same_of_id {a b : R} (first : a ∈ t.rows) (second : b ∈ t.rows) (same : id a = id b) : a = b :=
  List.inj_on_of_nodup_map t.ids first second same

theorem same_of_index {a b : R} (first : a ∈ t.rows) (second : b ∈ t.rows) (same : index a = index b) : a = b :=
  List.inj_on_of_nodup_map t.unique first second same

section find

variable [DecidableEq K]

def find (k : K) : Option R := t.rows.find? fun row => index row = k

variable {t t'}

theorem find_eq_some : t.find k = some row ↔ row ∈ t.rows ∧ index row = k := by
  constructor
  · intro found
    exact ⟨List.mem_of_find?_eq_some found, by simpa using List.find?_some found⟩
  · rintro ⟨member, here⟩
    cases found : t.find k with
    | none => exact absurd (decide_eq_true here) (List.find?_eq_none.mp found row member)
    | some other =>
      have stands := List.mem_of_find?_eq_some found
      have there : index other = k := by simpa using List.find?_some found
      exact congrArg some (t.same_of_index stands member (there.trans here.symm))

theorem find_eq_none : t.find k = none ↔ ∀ row ∈ t.rows, index row ≠ k := by
  simp only [find, List.find?_eq_none, decide_eq_true_eq, ne_eq]

/-- What is found does not depend on the order of the rows. -/
theorem find_congr (same : ∀ row, row ∈ t.rows ↔ row ∈ t'.rows) : t.find k = t'.find k := by
  refine Option.ext fun row => ?_
  rw [find_eq_some, find_eq_some, same]

end find

section replace

variable [DecidableEq I]

theorem nodup_replace {α : Type*} {f : R → α} (nodup : (t.rows.map f).Nodup)
    (others : ∀ old ∈ t.rows, f old = f row → id old = id row) :
    ((t.rows.map fun old => if id old = id row then row else old).map f).Nodup := by
  have apart := List.pairwise_map.mp nodup
  have distinct := List.pairwise_map.mp t.ids
  rw [List.map_map, List.Nodup, List.pairwise_map]
  refine (apart.and distinct).imp_of_mem ?_
  intro a b inA inB different
  simp only [Function.comp_apply]
  split
  · rename_i here
    split
    · rename_i there
      exact absurd (here.trans there.symm) different.2
    · rename_i there
      exact fun same => there (others b inB same.symm)
  · rename_i here
    split
    · exact fun same => here (others a inA same)
    · exact different.1

end replace

variable [DecidableEq I] [DecidableEq K]

/-- Rows that would break the index if a row were saved. -/
def Violates (row : R) : Prop := ∃ old ∈ t.rows, index old = index row ∧ id old ≠ id row

instance (row : R) : Decidable (t.Violates row) := inferInstanceAs (Decidable (∃ old ∈ t.rows, _ ∧ _))

/-- Replaces the row with the same primary key, or adds one; nothing where the
index forbids it. -/
def save (row : R) : Option (IndexedRows id index) :=
  if violates : t.Violates row then none
  else
    have kept : ∀ old ∈ t.rows, index old = index row → id old = id row := fun old member same =>
      Decidable.byContradiction fun other => violates ⟨old, member, same, other⟩
    if present : ∃ old ∈ t.rows, id old = id row then
      some
        { rows := t.rows.map fun old => if id old = id row then row else old
          ids := t.nodup_replace t.ids fun _ _ same => same
          unique := t.nodup_replace t.unique kept }
    else
      some
        { rows := row :: t.rows
          ids := List.nodup_cons.mpr ⟨fun member => present (List.mem_map.mp member), t.ids⟩
          unique := List.nodup_cons.mpr ⟨fun member => by
            obtain ⟨old, stands, same⟩ := List.mem_map.mp member
            exact present ⟨old, stands, kept old stands same⟩, t.unique⟩ }

variable {t t'}

theorem save_isSome (fits : ∀ old ∈ t.rows, index old = index row → id old = id row) : (t.save row).isSome := by
  have allowed : ¬t.Violates row := fun ⟨old, member, same, other⟩ => other (fits old member same)
  rw [save, dif_neg allowed]
  split <;> rfl

theorem mem_save (saved : t.save row = some t') : old ∈ t'.rows ↔ old = row ∨ old ∈ t.rows ∧ id old ≠ id row := by
  unfold save at saved
  split at saved
  · cases saved
  · split at saved
    · rename_i present
      obtain ⟨stands, member, same⟩ := present
      cases saved
      rw [List.mem_map]
      constructor
      · rintro ⟨before, inRows, rfl⟩
        split
        · exact Or.inl rfl
        · rename_i other
          exact Or.inr ⟨inRows, other⟩
      · rintro (rfl | ⟨inRows, other⟩)
        · exact ⟨stands, member, if_pos same⟩
        · exact ⟨old, inRows, if_neg other⟩
    · rename_i absent
      cases saved
      rw [List.mem_cons]
      refine or_congr_right ⟨fun inRows => ⟨inRows, fun same => absent ⟨old, inRows, same⟩⟩, And.left⟩

/-- A row saved under the index that it had, or a new one, is found there, and
all else is as it was. -/
theorem find_save (saved : t.save row = some t') (stays : ∀ old ∈ t.rows, id old = id row → index old = index row) :
    t'.find k = if k = index row then some row else t.find k := by
  split
  · rename_i here
    exact find_eq_some.mpr ⟨(mem_save saved).mpr (Or.inl rfl), here.symm⟩
  · rename_i other
    cases found : t.find k with
    | none =>
      rw [find_eq_none] at found ⊢
      intro old member
      rcases (mem_save saved).mp member with rfl | ⟨stands, -⟩
      · exact fun same => other same.symm
      · exact found old stands
    | some old =>
      rw [find_eq_some] at found ⊢
      obtain ⟨stands, here⟩ := found
      exact ⟨(mem_save saved).mpr (Or.inr ⟨stands, fun same => other (here.symm.trans (stays old stands same))⟩), here⟩

end IndexedRows
