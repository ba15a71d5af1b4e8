import Mathlib.Algebra.Ring.Int.Defs
import FoodDelivery.Inventory.Books

namespace FoodDelivery.InventoryService

open Messaging ReadCommitted

namespace Inventory

/-- The available count of an item, nothing where it has no stock row. -/
def available (inventory : Inventory) (key : StockKey) : Int := ((inventory.stock.find key).map (·.available)).getD 0

/-- What the ACTIVE reservations of an item hold. -/
def reserved (inventory : Inventory) (key : StockKey) : Int :=
  ((inventory.reservations.filter fun row => row.status = .active ∧ row.stockKey = key).map (·.qty)).sum

end Inventory

/-- Stock is conserved and never oversold. -/
structure Books.Conserved (initial : Inventory) (books : Books) : Prop where
  nonneg : ∀ key row, books.inventory.stock.find key = some row → 0 ≤ row.available
  conserved : ∀ key, books.inventory.available key + books.inventory.reserved key = initial.available key
  single : ∀ key, (books.inventory.activeRows key).length ≤ 1
  once : books.returned.Nodup

/-- What a write adds to an item's stock and reservations together. -/
def Write.delta (key : StockKey) : Write → Int
  | .decrement key' qty => if key = key' then -qty else 0
  | .insert reservation => if reservation.stockKey = key then reservation.qty else 0
  | .release reservation => if reservation.stockKey = key then -reservation.qty else 0
  | .increase key' reservation => if key = key' then reservation.qty else 0

def Write.releases : Write → List Uuid
  | .release reservation => [reservation.id]
  | _ => []

/-- A transaction may commit: what it took it has reserved, what it released
it has returned, once each. -/
structure Balanced (writes : List Write) : Prop where
  even : ∀ key, (writes.map (Write.delta key)).sum = 0
  paired : writes.flatMap Write.returns = writes.flatMap Write.releases

/-- The tables are well formed, which every single write preserves. -/
structure Inventory.WellFormed (initial inventory : Inventory) : Prop where
  domain : ∀ key, (inventory.stock.find key).isSome = (initial.stock.find key).isSome
  nonneg : ∀ key row, inventory.stock.find key = some row → 0 ≤ row.available
  positive : ∀ row ∈ inventory.reservations, 0 < row.qty
  distinct : inventory.Distinct
  single : ∀ key, (inventory.activeRows key).length ≤ 1

/-- The reservation has been released. -/
def Inventory.Released (inventory : Inventory) (id : Uuid) : Prop :=
  ∃ row, inventory.findReservation id = some row ∧ row.status = .released

/-- What is true of every committed state. -/
structure Books.Sound (initial : Inventory) (books : Books) : Prop where
  wellFormed : initial.WellFormed books.inventory
  conserved : ∀ key, books.inventory.available key + books.inventory.reserved key = initial.available key
  once : books.returned.Nodup
  returned : ∀ id ∈ books.returned, books.inventory.Released id

/-- Later tables: no stock row is lost, and a reservation changes in its
status only. -/
structure Inventory.Later (first second : Inventory) : Prop where
  stock : ∀ key, (first.stock.find key).isSome → (second.stock.find key).isSome
  reservation : ∀ id row, first.findReservation id = some row →
    ∃ row', second.findReservation id = some row' ∧ row'.released = row.released

theorem Inventory.Later.refl (inventory : Inventory) : inventory.Later inventory :=
  ⟨fun _ some => some, fun _ row found => ⟨row, found, rfl⟩⟩

theorem Inventory.Later.trans {a b c : Inventory} (first : a.Later b) (last : b.Later c) : a.Later c := by
  refine ⟨fun key some => last.stock key (first.stock key some), ?_⟩
  intro id row found
  obtain ⟨middle, atMiddle, same⟩ := first.reservation id row found
  obtain ⟨final, atFinal, same'⟩ := last.reservation id middle atMiddle
  exact ⟨final, atFinal, same'.trans same⟩

instance : Preorder Books where
  le first second := first.inventory.Later second.inventory
  le_refl books := .refl books.inventory
  le_trans _ _ _ first last := first.trans last

namespace Inventory

variable {initial inventory : Inventory} {write : Write}

theorem stockAfter_isSome (write : Write) (key : StockKey) (row : Option Stock) :
    (stockAfter write key row).isSome = row.isSome := by
  unfold stockAfter
  split
  · split
    · exact Option.isSome_map
    · rfl
  · split
    · exact Option.isSome_map
    · rfl
  · rfl

theorem later_apply (inventory : Inventory) (write : Write) : inventory.Later (inventory.apply write) := by
  refine ⟨?_, ?_⟩
  · intro key some
    rw [apply_stock, stockAfter_isSome]
    exact some
  · intro id row found
    rw [apply_findReservation, found]
    cases write with
    | decrement key qty => exact ⟨row, rfl, rfl⟩
    | insert reservation => exact ⟨row, rfl, rfl⟩
    | release reservation =>
      refine ⟨_, rfl, ?_⟩
      dsimp only
      split <;> rfl
    | increase key reservation => exact ⟨row, rfl, rfl⟩

/-- A released reservation stays released. -/
theorem Released.apply {id : Uuid} (released : inventory.Released id) (write : Write) :
    (inventory.apply write).Released id := by
  obtain ⟨row, found, status⟩ := released
  rw [Released, apply_findReservation, found]
  cases write with
  | decrement key qty => exact ⟨row, rfl, status⟩
  | insert reservation => exact ⟨row, rfl, status⟩
  | release reservation =>
    refine ⟨_, rfl, ?_⟩
    dsimp only
    split
    · rfl
    · exact status
  | increase key reservation => exact ⟨row, rfl, status⟩

/-- Every legal write keeps the tables well formed. -/
theorem WellFormed.apply (wellFormed : initial.WellFormed inventory) (legal : inventory.LegalWrite write) :
    initial.WellFormed (inventory.apply write) := by
  refine ⟨?_, ?_, ?_, ?_, ?_⟩
  · intro key
    rw [apply_stock, stockAfter_isSome]
    exact wellFormed.domain key
  · intro key row found
    rw [apply_stock] at found
    cases write with
    | decrement key' qty =>
      rw [stockAfter] at found
      split at found
      · rename_i same
        obtain ⟨old, stood, rfl⟩ := Option.map_eq_some_iff.mp found
        rw [LegalWrite, covers, ← same, stood, Option.any_some, decide_eq_true_eq] at legal
        show 0 ≤ old.available - qty
        omega
      · exact wellFormed.nonneg key row found
    | insert reservation => exact wellFormed.nonneg key row found
    | release reservation => exact wellFormed.nonneg key row found
    | increase key' reservation =>
      rw [stockAfter] at found
      split at found
      · obtain ⟨old, stood, rfl⟩ := Option.map_eq_some_iff.mp found
        have before := wellFormed.nonneg key old stood
        have added := legal.2
        show 0 ≤ old.available + reservation.qty
        omega
      · exact wellFormed.nonneg key row found
  · intro row member
    cases write with
    | decrement key qty =>
      rw [decrement_reservations] at member
      exact wellFormed.positive row member
    | insert reservation =>
      rcases List.mem_append.mp member with old | new
      · exact wellFormed.positive row old
      · rw [List.mem_singleton.mp new]
        exact legal.2.1
    | release reservation =>
      obtain ⟨old, stood, same⟩ := List.mem_map.mp member
      have qty : row.qty = old.qty := by
        rw [← same]
        split <;> rfl
      rw [qty]
      exact wellFormed.positive old stood
    | increase key reservation =>
      rw [increase_reservations] at member
      exact wellFormed.positive row member
  · cases write with
    | decrement key qty =>
      rw [Distinct, decrement_reservations]
      exact wellFormed.distinct
    | insert reservation =>
      rw [Distinct, Inventory.apply, List.map_append]
      refine List.nodup_append.mpr ⟨wellFormed.distinct, List.nodup_singleton _, ?_⟩
      intro id known other new same
      obtain ⟨row, member, rfl⟩ := List.mem_map.mp known
      have absent := List.find?_eq_none.mp legal.2.2.1 row member
      exact absent (decide_eq_true (same.trans (List.mem_singleton.mp new)))
    | release reservation =>
      rw [Distinct, release_ids]
      exact wellFormed.distinct
    | increase key reservation =>
      rw [Distinct, increase_reservations]
      exact wellFormed.distinct
  · intro key
    have single := wellFormed.single key
    rw [apply_activeRows]
    cases write with
    | decrement key' qty => exact single
    | insert reservation =>
      rw [activeAfter]
      split
      · rename_i matched
        have free := legal.2.2.2
        rw [matched.2] at free
        rw [free]
        exact Nat.le_refl 1
      · rw [List.append_nil]
        exact single
    | release reservation => exact (List.length_filter_le _ _).trans single
    | increase key' reservation => exact single

theorem available_apply (inventory : Inventory) (legal : inventory.LegalWrite write) (key : StockKey) :
    (inventory.apply write).available key = inventory.available key + match write with
      | .decrement key' qty => if key = key' then -qty else 0
      | .increase key' reservation => if key = key' then reservation.qty else 0
      | _ => 0 := by
  rw [available, apply_stock]
  cases write with
  | decrement key' qty =>
    rw [stockAfter]
    by_cases same : key = key'
    · subst same
      rw [LegalWrite, covers] at legal
      rw [available]
      cases found : inventory.stock.find key with
      | none =>
        rw [found] at legal
        cases legal
      | some row => simp [Int.sub_eq_add_neg]
    · simp [same, available]
  | insert reservation => exact (Int.add_zero _).symm
  | release reservation => exact (Int.add_zero _).symm
  | increase key' reservation =>
    rw [stockAfter]
    by_cases same : key = key'
    · subst same
      obtain ⟨row, found⟩ := Option.isSome_iff_exists.mp legal.1
      simp [available, found]
    · simp [same, available]

/-- What the rows but one hold. -/
theorem sum_without {rows : List Reservation} {reservation : Reservation} (distinct : rows.Nodup)
    (member : reservation ∈ rows) :
    ((rows.filter fun row => row ≠ reservation).map (·.qty)).sum + reservation.qty = (rows.map (·.qty)).sum := by
  induction rows with
  | nil => cases member
  | cons first rest ih =>
    obtain ⟨absent, distinct'⟩ := List.nodup_cons.mp distinct
    by_cases same : first = reservation
    · subst same
      have others : (rest.filter fun row => row ≠ first) = rest := by
        refine List.filter_eq_self.mpr fun row other => decide_eq_true ?_
        rintro rfl
        exact absent other
      rw [List.filter_cons_of_neg (by simp), others, List.map_cons, List.sum_cons]
      omega
    · have old := (List.mem_cons.mp member).resolve_left (Ne.symm same)
      have tail := ih distinct' old
      have kept : ((first :: rest).filter fun row => row ≠ reservation) =
          first :: rest.filter fun row => row ≠ reservation := by simp [same]
      rw [kept, List.map_cons, List.sum_cons, List.map_cons, List.sum_cons]
      omega

theorem reserved_apply (inventory : Inventory) (distinct : inventory.Distinct) (legal : inventory.LegalWrite write)
    (key : StockKey) : (inventory.apply write).reserved key = inventory.reserved key + match write with
      | .insert reservation => if reservation.stockKey = key then reservation.qty else 0
      | .release reservation => if reservation.stockKey = key then -reservation.qty else 0
      | _ => 0 := by
  cases write with
  | decrement key' qty =>
    rw [reserved, decrement_reservations]
    exact (Int.add_zero _).symm
  | insert reservation =>
    rw [reserved, apply, List.filter_append, List.map_append, List.sum_append, reserved]
    by_cases same : reservation.stockKey = key
    · simp [legal.1, same]
    · simp [same]
  | release reservation =>
    obtain ⟨found, active⟩ := legal
    have member := (findReservation_some found).1
    rw [reserved, apply, release_filter _ fun matched => ReservationStatus.noConfusion matched.1, reserved]
    dsimp only
    split
    · rename_i same
      have selected : reservation ∈ inventory.reservations.filter fun row => row.status = .active ∧ row.stockKey = key :=
        List.mem_filter.mpr ⟨member, decide_eq_true ⟨active, same⟩⟩
      have total := sum_without ((List.filter_sublist).nodup distinct.of_map) selected
      omega
    · rename_i different
      rw [List.filter_eq_self.mpr, Int.add_zero]
      intro row selected
      refine decide_eq_true ?_
      rintro rfl
      have matched := of_decide_eq_true (List.mem_filter.mp selected).2
      exact different matched.2
  | increase key' reservation =>
    rw [reserved, increase_reservations]
    exact (Int.add_zero _).symm

/-- A legal write changes an item's stock and reservations together by its delta. -/
theorem total_apply (inventory : Inventory) (distinct : inventory.Distinct) (legal : inventory.LegalWrite write)
    (key : StockKey) : (inventory.apply write).available key + (inventory.apply write).reserved key =
      inventory.available key + inventory.reserved key + write.delta key := by
  rw [available_apply inventory legal, reserved_apply inventory distinct legal]
  cases write <;> dsimp only [Write.delta] <;> omega

end Inventory

section views

variable {initial : Inventory} {ledger : Books} {writes : List Write}

theorem later_view (ledger : Books) (writes : List Write) : ledger ≤ books.view writes ledger := by
  induction writes generalizing ledger with
  | nil => exact le_rfl
  | cons write rest ih =>
    have one : ledger ≤ ledger.apply write := ledger.inventory.later_apply write
    exact one.trans (ih (ledger.apply write))

theorem wellFormed_view (fits : Fits books rows writes ledger) (wellFormed : initial.WellFormed ledger.inventory) :
    initial.WellFormed (books.view writes ledger).inventory :=
  fits.view (I := fun ledger => initial.WellFormed ledger.inventory) (fun _ _ legal before => before.apply legal)
    wellFormed

theorem total_view (fits : Fits books rows writes ledger) (wellFormed : initial.WellFormed ledger.inventory)
    (key : StockKey) :
    (books.view writes ledger).inventory.available key + (books.view writes ledger).inventory.reserved key =
      ledger.inventory.available key + ledger.inventory.reserved key + (writes.map (Write.delta key)).sum := by
  induction writes generalizing ledger with
  | nil => exact (Int.add_zero _).symm
  | cons write rest ih =>
    have one := ledger.inventory.total_apply wellFormed.distinct fits.1 key
    have more := ih fits.2 (wellFormed.apply fits.1)
    rw [List.map_cons, List.sum_cons]
    have step : (books.apply write ledger).inventory = ledger.inventory.apply write := rfl
    rw [step] at more
    show (books.view rest (books.apply write ledger)).inventory.available key +
      (books.view rest (books.apply write ledger)).inventory.reserved key = _
    omega

theorem returned_view (ledger : Books) (writes : List Write) :
    (books.view writes ledger).returned = ledger.returned ++ writes.flatMap Write.returns := by
  induction writes generalizing ledger with
  | nil => exact (List.append_nil _).symm
  | cons write rest ih =>
    rw [List.flatMap_cons, ← List.append_assoc]
    exact ih (ledger.apply write)

theorem released_view {id : Uuid} (released : ledger.inventory.Released id) (writes : List Write) :
    (books.view writes ledger).inventory.Released id := by
  induction writes generalizing ledger with
  | nil => exact released
  | cons write rest ih =>
    have now : (ledger.apply write).inventory.Released id := released.apply write
    exact ih now

/-- A transaction releases each reservation once, and none released before. -/
theorem releases_view (fits : Fits books rows writes ledger) : (writes.flatMap Write.releases).Nodup ∧
    ∀ id ∈ writes.flatMap Write.releases,
      ¬ ledger.inventory.Released id ∧ (books.view writes ledger).inventory.Released id := by
  induction writes generalizing ledger with
  | nil => exact ⟨List.nodup_nil, fun id absent => absurd absent List.not_mem_nil⟩
  | cons write rest ih =>
    obtain ⟨nodup, all⟩ := ih fits.2
    have older {id : Uuid} (fresh : ¬ (ledger.apply write).inventory.Released id) : ¬ ledger.inventory.Released id :=
      fun released => fresh (released.apply write)
    have others : ∀ id ∈ rest.flatMap Write.releases,
        ¬ ledger.inventory.Released id ∧ (books.view (write :: rest) ledger).inventory.Released id :=
      fun id member => ⟨older (all id member).1, (all id member).2⟩
    cases write with
    | release reservation =>
      obtain ⟨found, active⟩ : ledger.inventory.findReservation reservation.id = some reservation ∧
        reservation.status = .active := fits.1
      have now : (ledger.apply (.release reservation)).inventory.Released reservation.id := by
        show (ledger.inventory.apply (.release reservation)).Released reservation.id
        rw [Inventory.Released, Inventory.apply_findReservation, found]
        exact ⟨reservation.released, congrArg some (if_pos rfl), rfl⟩
      refine ⟨List.nodup_cons.mpr ⟨fun again => (all _ again).1 now, nodup⟩, ?_⟩
      intro id member
      rcases List.mem_cons.mp member with rfl | old
      · refine ⟨?_, released_view now rest⟩
        rintro ⟨row, found', status⟩
        cases found.symm.trans found'
        rw [active] at status
        cases status
      · exact others id old
    | decrement key qty => exact ⟨nodup, others⟩
    | insert reservation => exact ⟨nodup, others⟩
    | increase key reservation => exact ⟨nodup, others⟩

/-- What a balanced transaction commits is sound again. -/
theorem Books.Sound.commit (sound : ledger.Sound initial) (fits : Fits books rows writes ledger)
    (balanced : Balanced writes) : (books.view writes ledger).Sound initial := by
  obtain ⟨nodup, all⟩ := releases_view fits
  refine ⟨wellFormed_view fits sound.wellFormed, ?_, ?_, ?_⟩
  · intro key
    rw [total_view fits sound.wellFormed key, balanced.even, Int.add_zero]
    exact sound.conserved key
  · rw [returned_view, balanced.paired]
    refine List.nodup_append.mpr ⟨sound.once, nodup, ?_⟩
    rintro id old other new rfl
    exact (all id new).1 (sound.returned id old)
  · intro id member
    rw [returned_view, balanced.paired] at member
    rcases List.mem_append.mp member with old | new
    · exact released_view (sound.returned id old) writes
    · exact (all id new).2

end views

end FoodDelivery.InventoryService
