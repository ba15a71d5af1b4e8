import Mathlib.Algebra.BigOperators.Group.Finset.Piecewise
import Mathlib.Algebra.BigOperators.Ring.Finset
import Mathlib.Algebra.Ring.Nat

namespace Replacing

section final

variable {R K V C E : Type*} [LE V] {key : R → K} {version : R → V} {rows kept : List R}

/-- Of the rows of each key one is kept that none is newer than. -/
structure Final (key : R → K) (version : R → V) (rows kept : List R) : Prop where
  subset : ∀ row ∈ kept, row ∈ rows
  once : (kept.map key).Nodup
  newest : ∀ row ∈ rows, ∃ last ∈ kept, key last = key row ∧ version row ≤ version last

/-- Rows that say nothing but what their keys identify: however often each is
inserted, what is kept are the facts. -/
theorem Final.perm {content : R → C} {ident : C → K} {facts : Finset E} {fact : E → C} (final : Final key version rows kept)
    (keyed : ∀ row, key row = ident (content row)) (sound : ∀ row ∈ rows, ∃ e ∈ facts, content row = fact e)
    (complete : ∀ e ∈ facts, ∃ row ∈ rows, content row = fact e) (distinct : Set.InjOn (ident ∘ fact) facts) :
    (kept.map content).Perm (facts.toList.map fact) := by
  have once : (kept.map content).Nodup := by
    refine List.Nodup.of_map ident ?_
    rw [List.map_map]
    have keys : key = ident ∘ content := funext keyed
    exact keys ▸ final.once
  have apart : (facts.toList.map fact).Nodup := by
    refine List.Nodup.map_on ?_ facts.nodup_toList
    intro x inFacts y inFacts' same
    exact distinct (Finset.mem_toList.mp inFacts) (Finset.mem_toList.mp inFacts') (congrArg ident same)
  refine (List.perm_ext_iff_of_nodup once apart).mpr fun c => ?_
  simp only [List.mem_map, Finset.mem_toList]
  constructor
  · rintro ⟨row, member, rfl⟩
    obtain ⟨e, inFacts, same⟩ := sound row (final.subset row member)
    exact ⟨e, inFacts, same.symm⟩
  · rintro ⟨e, inFacts, rfl⟩
    obtain ⟨row, inRows, same⟩ := complete e inFacts
    obtain ⟨last, inKept, keys, -⟩ := final.newest row inRows
    refine ⟨last, inKept, ?_⟩
    obtain ⟨e', inFacts', same'⟩ := sound last (final.subset last inKept)
    rw [keyed, keyed, same, same'] at keys
    rw [same', distinct inFacts' inFacts keys]

end final

section executed

variable {R K V : Type*} [DecidableEq K] [LinearOrder V] (key : R → K) (version : R → V)

/-- A row takes the place of an older one of its key, and of one just as old. -/
def put (kept : List R) (row : R) : List R :=
  if kept.any fun last => key last = key row ∧ version row < version last then kept
  else kept.filter (key · ≠ key row) ++ [row]

def final (rows : List R) : List R := rows.foldl (put key version) []

variable {key version} {rows kept : List R}

theorem Final.put (final : Final key version rows kept) (row : R) : Final key version (rows ++ [row]) (put key version kept row) := by
  unfold Replacing.put
  split
  · next older =>
    obtain ⟨last, inKept, newer⟩ := List.any_eq_true.mp older
    obtain ⟨same, less⟩ := of_decide_eq_true newer
    refine ⟨fun row member => List.mem_append_left _ (final.subset row member), final.once, ?_⟩
    intro other member
    rcases List.mem_append.mp member with old | new
    · exact final.newest other old
    · cases List.mem_singleton.mp new
      exact ⟨last, inKept, same, less.le⟩
  · next newest =>
    have others {last : R} (inKept : last ∈ kept) (same : key last = key row) : version last ≤ version row := by
      by_contra less
      exact newest (List.any_eq_true.mpr ⟨last, inKept, decide_eq_true ⟨same, not_le.mp less⟩⟩)
    refine ⟨?_, ?_, ?_⟩
    · intro last member
      rcases List.mem_append.mp member with kept | new
      · exact List.mem_append_left _ (final.subset last (List.mem_of_mem_filter kept))
      · exact List.mem_append_right _ new
    · rw [List.map_append, List.map_singleton, List.nodup_append]
      refine ⟨final.once.sublist (List.filter_sublist.map _), List.nodup_singleton _, ?_⟩
      intro k inKept k' new same
      obtain ⟨last, member, rfl⟩ := List.mem_map.mp inKept
      exact of_decide_eq_true (List.mem_filter.mp member).2 (same.trans (List.mem_singleton.mp new))
    · intro other member
      by_cases same : key other = key row
      · refine ⟨row, List.mem_append_right _ (List.mem_singleton_self _), same.symm, ?_⟩
        rcases List.mem_append.mp member with old | new
        · obtain ⟨last, inKept, keys, less⟩ := final.newest other old
          exact less.trans (others inKept (keys.trans same))
        · rw [List.mem_singleton.mp new]
      · rcases List.mem_append.mp member with old | new
        · obtain ⟨last, inKept, keys, less⟩ := final.newest other old
          have kept' : last ∈ kept.filter (key · ≠ key row) := List.mem_filter.mpr ⟨inKept, decide_eq_true (keys.trans_ne same)⟩
          exact ⟨last, List.mem_append_left _ kept', keys, less⟩
        · exact absurd (congrArg key (List.mem_singleton.mp new)) same

theorem final_spec (rows : List R) : Final key version rows (final key version rows) := by
  have folded (before after kept : List R) (final : Final key version before kept) :
      Final key version (before ++ after) (after.foldl (put key version) kept) := by
    induction after generalizing before kept with
    | nil => rwa [List.append_nil]
    | cons row after ih =>
      have next := ih (before ++ [row]) _ (final.put row)
      rwa [List.append_assoc, List.singleton_append] at next
  exact folded [] rows [] ⟨nofun, List.nodup_nil, nofun⟩

end executed

section sums

variable {F E K M : Type*} [AddCommMonoid M] {facts : List F} {orders : Finset E} {fact : E → F}

theorem sum_filter_of_perm (perm : facts.Perm (orders.toList.map fact)) (p : F → Bool) (g : F → M) :
    ((facts.filter p).map g).sum = ∑ e ∈ orders with p (fact e), g (fact e) := by
  rw [((perm.filter p).map g).sum_eq, List.filter_map, List.map_map, Finset.sum, Finset.filter_val, ← Finset.coe_toList orders,
    Multiset.filter_coe, Multiset.map_coe, Multiset.sum_coe]
  simp only [Bool.decide_eq_true, Function.comp_def]

theorem length_filter_of_perm (perm : facts.Perm (orders.toList.map fact)) (p : F → Bool) :
    (facts.filter p).length = (orders.filter fun e => p (fact e)).card := by
  rw [Finset.card_eq_sum_ones, ← sum_filter_of_perm perm p fun _ => 1, List.map_const', List.sum_replicate_nat, mul_one]

variable [DecidableEq K] {key : F → K} {keys : List K}

/-- Rows grouped by a key are all in a group, and in one. -/
theorem sum_groups (nodup : keys.Nodup) (all : ∀ row ∈ facts, key row ∈ keys) (g : F → M) :
    (keys.map fun k => ((facts.filter (key · = k)).map g).sum).sum = (facts.map g).sum := by
  induction facts with
  | nil => simp
  | cons row rest ih =>
    obtain ⟨grouped, others⟩ := List.forall_mem_cons.mp all
    have split (k : K) : (((row :: rest).filter (key · = k)).map g).sum =
        (if key row = k then g row else 0) + ((rest.filter (key · = k)).map g).sum := by
      by_cases here : key row = k
      · rw [List.filter_cons, if_pos (decide_eq_true here), List.map_cons, List.sum_cons, if_pos here]
      · rw [List.filter_cons, if_neg (by simpa using here), if_neg here, zero_add]
    have own : (keys.map fun k => if key row = k then g row else 0).sum = g row := by
      rw [← List.sum_toFinset _ nodup, Finset.sum_ite_eq, if_pos (List.mem_toFinset.mpr grouped)]
    simp only [split]
    rw [List.sum_map_add, own, ih others, List.map_cons, List.sum_cons]

theorem length_groups (nodup : keys.Nodup) (all : ∀ row ∈ facts, key row ∈ keys) :
    (keys.map fun k => (facts.filter (key · = k)).length).sum = facts.length := by
  have ones (rows : List F) : (rows.map fun _ => 1).sum = rows.length := by
    rw [List.map_const', List.sum_replicate_nat, mul_one]
  have grouped := @sum_groups F K ℕ _ facts _ key keys nodup all fun _ => 1
  simpa only [ones] using grouped

end sums

end Replacing
