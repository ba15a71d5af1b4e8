import Mathlib.Data.List.Nodup
import Mathlib.Tactic.Common

namespace Redelivery

variable {α : Type*} {source log : List α} {k : Nat}

/-- A log of deliveries from an ordered source: each entry is the source's
next one, or repeats one delivered before. The number counts how far the
deliveries have got. -/
inductive Delivers (source : List α) : List α → Nat → Prop
  | start : Delivers source [] 0
  | again {log k x} : Delivers source log k → x ∈ source.take k → Delivers source (log ++ [x]) k
  | next {log k x} : Delivers source log k → source[k]? = some x → Delivers source (log ++ [x]) (k + 1)

namespace Delivers

theorem mem_iff (delivers : Delivers source log k) (x : α) : x ∈ log ↔ x ∈ source.take k := by
  induction delivers with
  | start => simp
  | again _ member ih =>
    rw [List.mem_append, ih, List.mem_singleton]
    exact ⟨fun known => known.elim id fun same => same ▸ member, Or.inl⟩
  | next _ at_ ih => rw [List.mem_append, ih, List.mem_singleton, List.take_add_one, at_, Option.toList_some,
      List.mem_append, List.mem_singleton]

theorem le_length (delivers : Delivers source log k) : k ≤ source.length := by
  induction delivers with
  | start => exact Nat.zero_le _
  | again _ _ ih => exact ih
  | next _ at_ _ => exact (List.getElem?_eq_some_iff.mp at_).1

/-- A longer source has delivered the same. -/
theorem grow (delivers : Delivers source log k) (more : List α) : Delivers (source ++ more) log k := by
  induction delivers with
  | start => exact .start
  | again previous member ih =>
    refine ih.again ?_
    rwa [List.take_append_of_le_length previous.le_length]
  | next _ at_ ih =>
    obtain ⟨bound, same⟩ := List.getElem?_eq_some_iff.mp at_
    exact ih.next (by rw [List.getElem?_append_left bound, at_])

/-- Delivering a piece of the source that starts at or before the point
reached repeats the entries before it and goes on after it. -/
theorem piece {first piece later : List α} (delivers : Delivers source log k)
    (whole : source = first ++ piece ++ later) (within : first.length ≤ k) :
    Delivers source (log ++ piece) (max k (first.length + piece.length)) := by
  induction piece generalizing first log k with
  | nil =>
    rw [List.append_nil, List.length_nil, Nat.add_zero, Nat.max_eq_left within]
    exact delivers
  | cons x piece ih =>
    have at_ : source[first.length]? = some x := by
      rw [whole, List.append_assoc, List.getElem?_append_right (Nat.le_refl _), Nat.sub_self]
      rfl
    have whole' : source = (first ++ [x]) ++ piece ++ later := by
      rw [whole, List.append_assoc first [x], List.singleton_append]
    have length' : (first ++ [x]).length = first.length + 1 := List.length_append
    have one : Delivers source (log ++ [x]) (max k (first.length + 1)) := by
      by_cases old : first.length < k
      · rw [Nat.max_eq_left old]
        exact delivers.again (List.mem_iff_getElem?.mpr ⟨first.length, by rw [List.getElem?_take_of_lt old, at_]⟩)
      · have point : k = first.length := by omega
        subst point
        rw [Nat.max_eq_right (Nat.le_succ _)]
        exact delivers.next at_
    have rest := ih one whole' (by omega)
    have reached : max (max k (first.length + 1)) ((first ++ [x]).length + piece.length) =
        max k (first.length + (x :: piece).length) := by
      rw [List.length_cons]
      omega
    rw [List.append_assoc, List.singleton_append, reached] at rest
    exact rest

/-- The first deliveries are the source in its order, as far as it has got. -/
theorem eraseDups_eq [BEq α] [LawfulBEq α] (delivers : Delivers source log k) (distinct : source.Nodup) :
    log.eraseDups = source.take k := by
  induction delivers with
  | start => rfl
  | @again log k x previous member ih =>
    have known : x ∈ log := (previous.mem_iff x).mpr member
    rw [List.eraseDups_append, ih]
    simp [List.removeAll, known]
  | @next log k x previous at_ ih =>
    have new : x ∉ log := by
      intro known
      obtain ⟨i, inside⟩ := List.mem_iff_getElem?.mp ((previous.mem_iff x).mp known)
      rw [List.getElem?_take] at inside
      split at inside
      · rename_i below
        have bound := (List.getElem?_eq_some_iff.mp inside).1
        have same := (List.getElem?_inj bound distinct).mp (inside.trans at_.symm)
        omega
      · cases inside
    have alone : [x].removeAll log = [x] := by simp [List.removeAll, new]
    rw [List.eraseDups_append, ih, alone, List.take_add_one, at_]
    rfl

theorem take_filter (source : List α) (k : ℕ) (p : α → Bool) :
    (source.filter p).take ((source.take k).filter p).length = (source.take k).filter p := by
  conv_lhs => rw [← List.take_append_drop k source, List.filter_append]
  rw [List.take_append_drop, List.take_left]

/-- The deliveries of a part of the source. -/
theorem filter (delivers : Delivers source log k) (p : α → Bool) :
    Delivers (source.filter p) (log.filter p) ((source.take k).filter p).length := by
  induction delivers with
  | start => exact .start
  | @again log k x _ member ih =>
    rw [List.filter_append]
    by_cases chosen : p x
    · rw [List.filter_cons_of_pos chosen, List.filter_nil]
      refine ih.again ?_
      rw [take_filter]
      exact List.mem_filter.mpr ⟨member, chosen⟩
    · rw [List.filter_cons_of_neg chosen, List.filter_nil, List.append_nil]
      exact ih
  | @next log k x previous at_ ih =>
    rw [List.filter_append, List.take_add_one, at_, Option.toList_some, List.filter_append, List.length_append]
    by_cases chosen : p x
    · rw [List.filter_cons_of_pos chosen, List.filter_nil]
      refine ih.next ?_
      have whole : source.filter p = (source.take k).filter p ++ x :: (source.drop (k + 1)).filter p := by
        conv_lhs => rw [← List.take_append_drop k source, List.filter_append]
        obtain ⟨bound, same⟩ := List.getElem?_eq_some_iff.mp at_
        rw [List.drop_eq_getElem_cons bound, same, List.filter_cons_of_pos chosen]
      rw [whole, List.getElem?_append_right (Nat.le_refl _), Nat.sub_self]
      rfl
    · rw [List.filter_cons_of_neg chosen, List.filter_nil, List.append_nil, List.length_nil, Nat.add_zero]
      exact ih

/-- Each entry comes after a prefix of the deliveries. -/
theorem entry (delivers : Delivers source log k) {i : ℕ} {x : α} (at_ : log[i]? = some x) :
    ∃ j, Delivers source (log.take i) j ∧ (x ∈ source.take j ∨ source[j]? = some x) := by
  have extend {log : List α} {k : ℕ} {y : α} (previous : Delivers source log k) (added : y ∈ source.take k ∨ source[k]? = some y)
      (ih : log[i]? = some x → ∃ j, Delivers source (log.take i) j ∧ (x ∈ source.take j ∨ source[j]? = some x))
      (at_ : (log ++ [y])[i]? = some x) :
      ∃ j, Delivers source ((log ++ [y]).take i) j ∧ (x ∈ source.take j ∨ source[j]? = some x) := by
    have bound := (List.getElem?_eq_some_iff.mp at_).1
    rw [List.length_append, List.length_singleton] at bound
    by_cases inside : i < log.length
    · rw [List.getElem?_append_left inside] at at_
      rw [List.take_append_of_le_length (Nat.le_of_lt inside)]
      exact ih at_
    · have last : i = log.length := by omega
      subst last
      rw [List.getElem?_append_right (Nat.le_refl _), Nat.sub_self] at at_
      cases at_
      rw [List.take_left]
      exact ⟨k, previous, added⟩
  induction delivers with
  | start => cases at_
  | again previous member ih => exact extend previous (Or.inl member) ih at_
  | next previous next ih => exact extend previous (Or.inr next) ih at_

/-- Where everything before an entry is among the first `n` of the source and
the entry is not, it is the one after them. -/
theorem new_entry (delivers : Delivers source log k) (distinct : source.Nodup) {i n : ℕ} {x : α} (at_ : log[i]? = some x)
    (known : ∀ y ∈ log.take i, y ∈ source.take n) (new : x ∉ source.take n) : source[n]? = some x := by
  obtain ⟨j, before, next⟩ := delivers.entry at_
  have within : source.take j ⊆ source.take n := fun y member => known y ((before.mem_iff y).mpr member)
  have bound : j ≤ n ∨ source.length ≤ n := by
    by_contra neither
    obtain ⟨beyond, short⟩ := not_or.mp neither
    have inside : source[n]? = some source[n] := List.getElem?_eq_getElem (Nat.lt_of_not_le short)
    have member : source[n] ∈ source.take n :=
      within (List.mem_iff_getElem?.mpr ⟨n, by rw [List.getElem?_take_of_lt (Nat.lt_of_not_le beyond), inside]⟩)
    obtain ⟨m, early⟩ := List.mem_iff_getElem?.mp member
    rw [List.getElem?_take] at early
    split at early
    · have same := (List.getElem?_inj (List.getElem?_eq_some_iff.mp early).1 distinct).mp (early.trans inside.symm)
      omega
    · cases early
  rcases next with old | first
  · exact absurd (within old) new
  · have inside := (List.getElem?_eq_some_iff.mp first).1
    rcases Nat.lt_trichotomy j n with earlier | same | later
    · exact absurd (List.mem_iff_getElem?.mpr ⟨j, by rw [List.getElem?_take_of_lt earlier, first]⟩) new
    · exact same ▸ first
    · omega

end Delivers

end Redelivery
