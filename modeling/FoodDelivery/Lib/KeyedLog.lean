import Mathlib.Data.List.Sort
import Mathlib.Tactic.Common

namespace KeyedLog

variable {E K V : Type*} (write : K → E → Option V)

/-- What the value under a key ends as once the events of a log, each of which
overwrites the values of some keys, have been applied, oldest first. -/
def settle (k : K) (value : V) (log : List E) : V := log.foldl (fun value e => (write k e).getD value) value

variable {write} {k : K} {value : V} {log before after : List E} {e : E}

@[simp] theorem settle_nil : settle write k value [] = value := rfl

@[simp] theorem settle_cons : settle write k value (e :: log) = settle write k ((write k e).getD value) log := rfl

theorem settle_append : settle write k value (before ++ after) = settle write k (settle write k value before) after :=
  List.foldl_append ..

theorem settle_skip (silent : ∀ e ∈ log, write k e = none) : settle write k value log = value := by
  induction log with
  | nil => rfl
  | cons e log ih =>
    rw [settle_cons, silent e (List.mem_cons_self ..)]
    exact ih fun later member => silent later (List.mem_cons_of_mem _ member)

/-- Once an event of the log writes the key, it does not matter where it started. -/
theorem settle_written (member : e ∈ log) (writes : write k e ≠ none) (value' : V) :
    settle write k value log = settle write k value' log := by
  induction log generalizing value value' with
  | nil => cases member
  | cons head log ih =>
    rw [settle_cons, settle_cons]
    cases written : write k head with
    | some wrote => rfl
    | none =>
      rcases List.mem_cons.mp member with rfl | later
      · exact absurd written writes
      · exact ih later _

/-- The value under a key after an event that writes one key only. -/
theorem getD_single [DecidableEq K] (own : K) (wrote : V) :
    (if own = k then some wrote else none).getD value = if k = own then wrote else value := by
  by_cases same : own = k
  · rw [if_pos same, if_pos same.symm, Option.getD_some]
  · rw [if_neg same, if_neg (Ne.symm same), Option.getD_none]

/-- Taking the first event for its key out of the log and applying it at once
changes nothing in the end. -/
theorem settle_deliver (first : write k e ≠ none → ∀ earlier ∈ before, write k earlier = none) :
    settle write k ((write k e).getD value) (before ++ after) = settle write k value (before ++ e :: after) := by
  rw [settle_append, settle_append, settle_cons]
  cases written : write k e with
  | none => rfl
  | some wrote =>
    have silent := first (by simp [written])
    rw [settle_skip silent, settle_skip silent]

section ordered

variable {T : Type*} [LinearOrder T] {time : E → T} {rows order rest : List E}

/-- An order in which the rows of a table may be read by their time; rows of
one time come in any order. -/
def Ordered (time : E → T) (rows order : List E) : Prop :=
  order.Perm rows ∧ order.Pairwise fun first later => time first ≤ time later

instance [DecidableEq E] : Decidable (Ordered time rows order) := inferInstanceAs (Decidable (_ ∧ _))

theorem Ordered.exists (time : E → T) (rows : List E) : ∃ order, Ordered time rows order := by
  let earlier (first later : E) : Prop := time first ≤ time later
  have total : Std.Total earlier := ⟨fun first later => le_total (time first) (time later)⟩
  have trans : IsTrans E earlier := ⟨fun _ _ _ first later => le_trans first later⟩
  have decides : DecidableRel earlier := fun first later => inferInstanceAs (Decidable (time first ≤ time later))
  exact ⟨rows.insertionSort earlier, rows.perm_insertionSort earlier, rows.pairwise_insertionSort earlier⟩

/-- Reading some of the rows first and the others later is reading them all. -/
theorem Ordered.take {n : Nat} (all : Ordered time rows order) (later : Ordered time (order.drop n) rest) :
    Ordered time rows (order.take n ++ rest) := by
  obtain ⟨perm, sorted⟩ := all
  obtain ⟨permRest, sortedRest⟩ := later
  have whole : (order.take n ++ order.drop n).Pairwise fun first later => time first ≤ time later := by
    rwa [List.take_append_drop]
  obtain ⟨sortedTaken, -, across⟩ := List.pairwise_append.mp whole
  constructor
  · exact ((permRest.append_left _).trans (by rw [List.take_append_drop])).trans perm
  · refine List.pairwise_append.mpr ⟨sortedTaken, sortedRest, fun first taken later member => ?_⟩
    exact across first taken later (permRest.mem_iff.mp member)

/-- Where a row stands in the order, and the order of the others. -/
theorem Ordered.split (ordered : Ordered time (e :: rows) order) : ∃ before after, order = before ++ e :: after ∧
    Ordered time rows (before ++ after) ∧ ∀ later ∈ after, time e ≤ time later := by
  obtain ⟨perm, sorted⟩ := ordered
  obtain ⟨before, after, rfl⟩ := List.append_of_mem (perm.mem_iff.mpr (List.mem_cons_self ..))
  refine ⟨before, after, rfl, ⟨(List.perm_middle.symm.trans perm).cons_inv, ?_⟩, ?_⟩
  · exact sorted.sublist ((List.sublist_cons_self e after).append_left before)
  · exact (List.pairwise_cons.mp (List.pairwise_append.mp sorted).2.1).1

/-- The latest writer of a key has the last word. -/
theorem settle_latest {wrote : V} (ordered : Ordered time (e :: rows) order) (writes : write k e = some wrote)
    (latest : ∀ earlier ∈ rows, write k earlier ≠ none → time earlier < time e) : settle write k value order = wrote := by
  obtain ⟨before, after, rfl, ⟨perm, -⟩, later⟩ := ordered.split
  have silent : ∀ event ∈ after, write k event = none := by
    intro event member
    by_contra writesToo
    have row : event ∈ rows := perm.mem_iff.mp (List.mem_append_right _ member)
    exact absurd (later event member) (not_le.mpr (latest event row writesToo))
  rw [settle_append, settle_cons, writes, Option.getD_some, settle_skip silent]

theorem settle_silent (ordered : Ordered time (e :: rows) order) (silent : write k e = none) :
    ∃ rest, Ordered time rows rest ∧ settle write k value order = settle write k value rest := by
  obtain ⟨before, after, rfl, others, -⟩ := ordered.split
  refine ⟨before ++ after, others, ?_⟩
  rw [settle_append, settle_cons, silent, Option.getD_none, settle_append]

end ordered

end KeyedLog
