import Mathlib.Algebra.Order.BigOperators.Group.List
import Mathlib.Algebra.Order.Group.Int
import FoodDelivery.Inventory.Conservation
import FoodDelivery.Inventory.Redelivery

namespace FoodDelivery.InventoryService

open Messaging ReadCommitted

/-- Rows that differ in their status only. -/
structure Reservation.SameData (row row' : Reservation) : Prop where
  id : row.id = row'.id
  qty : row.qty = row'.qty
  stockKey : row.stockKey = row'.stockKey

theorem Reservation.of_released_eq {row row' : Reservation} (same : row.released = row'.released) :
    row.SameData row' := by
  have id := congrArg Reservation.id same
  have qty := congrArg Reservation.qty same
  have stockKey := congrArg Reservation.stockKey same
  exact ⟨id, qty, stockKey⟩

theorem Balanced.nil : Balanced [] := ⟨fun _ => rfl, rfl⟩

/-- Two writes that make up for each other keep a transaction balanced. -/
theorem Balanced.pair {writes : List Write} {first second : Write} (balanced : Balanced writes)
    (even : ∀ key, first.delta key + second.delta key = 0)
    (paired : first.returns ++ second.returns = first.releases ++ second.releases) :
    Balanced (writes ++ [first] ++ [second]) := by
  refine ⟨?_, ?_⟩
  · intro key
    have sums := balanced.even key
    have both := even key
    simp only [List.map_append, List.sum_append, List.map_cons, List.map_nil, List.sum_cons, List.sum_nil]
    omega
  · have same := balanced.paired
    simp only [List.flatMap_append, List.flatMap_cons, List.flatMap_nil, List.append_nil, same, List.append_assoc, paired]

section rules

variable {A : Type} {initial : Inventory} {Post : Books → List Write → A → Prop} {ledger : Books} {writes : List Write}

theorem wp_decrementIfAvailable {tenantId itemId : Uuid} {qty : Int} {f : Bool → Transact A}
    (short : WP books rows (Books.Sound initial) Post (f false) ledger writes)
    (taken : WP books rows (Books.Sound initial) Post (f true) ledger
      (writes ++ [.decrement { tenantId, itemId } qty])) :
    WP books rows (Books.Sound initial) Post (decrementIfAvailable tenantId itemId qty >>= f) ledger writes := by
  refine WP.send ?_
  rintro ledger' later - - reserved (rfl : reserved = _)
  have written : books.writes (.decrementIfAvailable tenantId itemId qty) (books.view writes ledger') =
      if (books.view writes ledger').inventory.covers { tenantId, itemId } qty then
        [.decrement { tenantId, itemId } qty] else [] := rfl
  rw [written, Statement.answer]
  by_cases covers : (books.view writes ledger').inventory.covers { tenantId, itemId } qty = true
  · rw [if_pos covers, covers]
    exact ⟨⟨covers, trivial⟩, taken.later later⟩
  · rw [if_neg covers, Bool.eq_false_iff.mpr covers, List.append_nil]
    exact ⟨trivial, short.later later⟩

theorem wp_save {reservation : Reservation} {f : Option Reservation → Transact A} (active : reservation.status = .active)
    (positive : 0 < reservation.qty) (refused : WP books rows (Books.Sound initial) Post (f none) ledger writes)
    (saved : WP books rows (Books.Sound initial) Post (f (some reservation)) ledger (writes ++ [.insert reservation])) :
    WP books rows (Books.Sound initial) Post (save reservation >>= f) ledger writes := by
  refine WP.send ?_
  rintro ledger' later - - answer ⟨fresh, rfl⟩
  have written : books.writes (.save reservation) (books.view writes ledger') =
      if (books.view writes ledger').inventory.activeRows reservation.activeKey = [] then [.insert reservation] else [] :=
    rfl
  rw [written, Statement.answer]
  by_cases free : (books.view writes ledger').inventory.activeRows reservation.activeKey = []
  · rw [if_pos free, if_pos free]
    exact ⟨⟨⟨active, positive, fresh, free⟩, trivial⟩, saved.later later⟩
  · rw [if_neg free, if_neg free, List.append_nil]
    exact ⟨trivial, refused.later later⟩

theorem wp_findActiveByOrder {tenantId orderId : Uuid} {f : List Reservation → Transact A}
    (rest : ∀ ledger' rows', ledger ≤ ledger' → ledger'.Sound initial →
      (∀ row ∈ rows', row ∈ (books.view writes ledger').inventory.findActiveByOrder tenantId orderId) →
      WP books rows (Books.Sound initial) Post (f rows') ledger' writes) :
    WP books rows (Books.Sound initial) Post (findActiveByOrder tenantId orderId >>= f) ledger writes := by
  refine WP.send ?_
  intro ledger' later sound _ found perm
  have same : found.Perm ((books.view writes ledger').inventory.findActiveByOrder tenantId orderId) := perm
  have after := rest ledger' found later sound fun row member => same.subset member
  exact ⟨trivial, by rw [show books.writes _ _ = [] from rfl, List.append_nil]; exact after⟩

theorem wp_findByItemIds {tenantId : Uuid} {itemIds : List Uuid} {f : List Stock → Transact A}
    (rest : ∀ stocks, WP books rows (Books.Sound initial) Post (f stocks) ledger writes) :
    WP books rows (Books.Sound initial) Post (findByItemIds tenantId itemIds >>= f) ledger writes := by
  refine WP.send ?_
  intro ledger' later _ _ stocks _
  exact ⟨trivial, by rw [show books.writes _ _ = [] from rfl, List.append_nil]; exact (rest stocks).later later⟩

end rules

section reserve

variable {initial : Inventory} {Post : Books → List Write → List Uuid → Prop} {ledger : Books} {writes : List Write}

/-- Each round of the loop takes an item and reserves it. -/
theorem reserveEach_wp (tenantId orderId : Uuid) (stocks : List Stock) (ids : Nat → Uuid) (items : List ItemQty)
    (post : ∀ ledger writes result, Balanced writes → Post ledger writes result) (balanced : Balanced writes) :
    WP books rows (Books.Sound initial) Post (reserveEach tenantId orderId stocks ids items) ledger writes := by
  induction items generalizing ids Post ledger writes with
  | nil => exact WP.pure fun ledger' _ _ => post ledger' writes [] balanced
  | cons item rest ih =>
    rw [reserveEach]
    split
    · trivial
    · refine wp_decrementIfAvailable trivial (WP.check ?_)
      intro reservation created
      obtain ⟨positive, rfl⟩ := Reservation.create_ok.mp created
      refine wp_save rfl positive trivial (WP.bind ?_)
      refine ih _ ?_ (balanced.pair ?_ rfl)
      · exact fun ledger writes result balanced => WP.pure fun ledger' _ _ => post ledger' writes _ balanced
      · intro key
        show (if key = { tenantId, itemId := item.itemId } then -item.qty else 0) +
          (if ({ tenantId, itemId := item.itemId } : StockKey) = key then item.qty else 0) = 0
        by_cases same : key = { tenantId, itemId := item.itemId }
        · rw [if_pos same, if_pos same.symm]
          omega
        · rw [if_neg same, if_neg (Ne.symm same)]
          rfl

theorem reserve_wp (command : ReserveStockCommand) (ids : Nat → Uuid)
    (post : ∀ ledger writes result, Balanced writes → Post ledger writes result) :
    WP books rows (Books.Sound initial) Post (command.transaction ids) ledger [] := by
  refine WP.check ?_
  intro items _
  refine wp_findActiveByOrder ?_
  intro ledger' existing _ _ _
  split
  · refine WP.check ?_
    exact fun _ _ => WP.pure fun ledger' _ _ => post ledger' [] _ .nil
  · refine wp_findByItemIds ?_
    exact fun stocks => reserveEach_wp command.tenantId command.orderId stocks ids items post .nil

end reserve

section release

variable {initial : Inventory} {Post : Books → List Write → Unit → Prop} {ledger : Books} {writes : List Write}

/-- What a release relies on of a row it has read, and stays true: the row
stands under its id, at most with another status, and its item has a stock row. -/
structure Books.Knows (ledger : Books) (tenantId : Uuid) (reservation : Reservation) : Prop where
  stands : ∃ row, ledger.inventory.findReservation reservation.id = some row ∧ row.released = reservation.released
  stock : (ledger.inventory.stock.find { tenantId, itemId := reservation.itemId }).isSome
  tenant : reservation.tenantId = tenantId
  positive : 0 < reservation.qty

theorem Books.Knows.later {ledger ledger' : Books} {tenantId : Uuid} {reservation : Reservation}
    (knows : ledger.Knows tenantId reservation) (later : ledger ≤ ledger') : ledger'.Knows tenantId reservation := by
  obtain ⟨row, found, same⟩ := knows.stands
  obtain ⟨row', found', same'⟩ := Inventory.Later.reservation later _ row found
  exact ⟨⟨row', found', same'.trans same⟩, Inventory.Later.stock later _ knows.stock, knows.tenant, knows.positive⟩

/-- The rows a select returns in a sound state are known. -/
theorem Books.Sound.knows {tenantId orderId : Uuid} (sound : ledger.Sound initial) {reservation : Reservation}
    (member : reservation ∈ ledger.inventory.findActiveByOrder tenantId orderId) : ledger.Knows tenantId reservation := by
  obtain ⟨stored, tenant, -, active⟩ := Inventory.mem_findActiveByOrder.mp member
  have wellFormed := sound.wellFormed
  refine ⟨⟨reservation, ?_, rfl⟩, ?_, tenant, wellFormed.positive reservation stored⟩
  · exact Inventory.findReservation_of_mem wellFormed.distinct stored
  · by_contra absent
    have key : reservation.stockKey = { tenantId, itemId := reservation.itemId } := by
      rw [Reservation.stockKey, tenant]
    have held : 0 < ledger.inventory.reserved { tenantId, itemId := reservation.itemId } := by
      refine List.sum_pos _ ?_ ?_
      · intro qty inRows
        obtain ⟨row, selected, rfl⟩ := List.mem_map.mp inRows
        exact wellFormed.positive row (List.mem_filter.mp selected).1
      · exact List.ne_nil_of_mem (List.mem_map_of_mem (List.mem_filter.mpr ⟨stored, decide_eq_true ⟨active, key⟩⟩))
    have none : ledger.inventory.stock.find { tenantId, itemId := reservation.itemId } = none :=
      Option.not_isSome_iff_eq_none.mp absent
    have never : initial.stock.find { tenantId, itemId := reservation.itemId } = Option.none := by
      have domain := wellFormed.domain { tenantId, itemId := reservation.itemId }
      rw [none] at domain
      exact Option.isSome_eq_false_iff.mp domain.symm |> Option.isNone_iff_eq_none.mp
    have total := sound.conserved { tenantId, itemId := reservation.itemId }
    rw [Inventory.available, Inventory.available, none, never] at total
    simp only [Option.map_none, Option.getD_none] at total
    omega

theorem wp_releaseIfActive {A : Type} {Post : Books → List Write → A → Prop} {tenantId : Uuid} {reservation : Reservation}
    {f : Bool → Transact A} (knows : ledger.Knows tenantId reservation)
    (stale : WP books rows (Books.Sound initial) Post (f false) ledger writes)
    (released : ∀ row : Reservation, row.released = reservation.released →
      WP books rows (Books.Sound initial) Post (f true) ledger (writes ++ [.release row])) :
    WP books rows (Books.Sound initial) Post (releaseIfActive reservation >>= f) ledger writes := by
  refine WP.send ?_
  rintro ledger' later - - answer (rfl : answer = _)
  obtain ⟨row, found, same⟩ := ((knows.later later).later (later_view ledger' writes)).stands
  have sameId := (Reservation.of_released_eq same).id
  have written : books.writes (.releaseIfActive reservation) (books.view writes ledger') =
      if row.status = .active then [.release row] else [] := by
    show (Statement.releaseIfActive reservation).writes (books.view writes ledger').inventory = _
    rw [Statement.writes, found]
  rw [written, Statement.answer, found, Option.any_some]
  by_cases active : row.status = .active
  · rw [if_pos active, decide_eq_true active]
    exact ⟨⟨⟨sameId ▸ found, active⟩, trivial⟩, (released row same).later later⟩
  · rw [if_neg active, decide_eq_false active, List.append_nil]
    exact ⟨trivial, stale.later later⟩

theorem wp_increaseAvailable {A : Type} {Post : Books → List Write → A → Prop} {tenantId : Uuid}
    {reservation : Reservation} {f : Unit → Transact A} (knows : ledger.Knows tenantId reservation)
    (rest : WP books rows (Books.Sound initial) Post (f ()) ledger
      (writes ++ [.increase { tenantId, itemId := reservation.itemId } reservation])) :
    WP books rows (Books.Sound initial) Post (increaseAvailable tenantId reservation >>= f) ledger writes := by
  refine WP.send ?_
  rintro ledger' later - - answer -
  have stock := ((knows.later later).later (later_view ledger' writes)).stock
  have written : books.writes (.increaseAvailable tenantId reservation) (books.view writes ledger') =
      [.increase { tenantId, itemId := reservation.itemId } reservation] := if_pos stock
  rw [written]
  exact ⟨⟨⟨stock, knows.positive.le⟩, trivial⟩, rest.later later⟩

/-- Each round of the loop returns what it releases. -/
theorem releaseEach_wp (tenantId : Uuid) (reservations : List Reservation)
    (post : ∀ ledger writes result, Balanced writes → Post ledger writes result)
    (knows : ∀ row ∈ reservations, ledger.Knows tenantId row) (balanced : Balanced writes) :
    WP books rows (Books.Sound initial) Post (releaseEach tenantId reservations) ledger writes := by
  induction reservations generalizing ledger writes with
  | nil => exact WP.pure fun ledger' _ _ => post ledger' writes () balanced
  | cons first rest ih =>
    have head := knows first (List.mem_cons_self ..)
    have tail : ∀ row ∈ rest, ledger.Knows tenantId row := fun row member => knows row (List.mem_cons_of_mem _ member)
    refine wp_releaseIfActive head (ih tail balanced) ?_
    intro row same
    refine wp_increaseAvailable head (ih tail (balanced.pair ?_ ?_))
    · intro key
      have qty := (Reservation.of_released_eq same).qty
      have sameKey : row.stockKey = { tenantId, itemId := first.itemId } := by
        rw [(Reservation.of_released_eq same).stockKey, Reservation.stockKey, head.tenant]
      show (if row.stockKey = key then -row.qty else 0) +
        (if key = { tenantId, itemId := first.itemId } then first.qty else 0) = 0
      rw [sameKey, qty]
      by_cases here : key = { tenantId, itemId := first.itemId }
      · rw [if_pos here, if_pos here.symm]
        omega
      · rw [if_neg here, if_neg (Ne.symm here)]
        rfl
    · have sameId := (Reservation.of_released_eq same).id
      show [] ++ [first.id] = [row.id] ++ []
      rw [sameId]
      rfl

theorem release_wp (command : ReleaseStockCommand)
    (post : ∀ ledger writes result, Balanced writes → Post ledger writes result) :
    WP books rows (Books.Sound initial) Post command.transaction ledger [] := by
  refine wp_findActiveByOrder ?_
  intro ledger' active _ _ _
  split
  · exact WP.pure fun ledger' _ _ => post ledger' [] () .nil
  · refine wp_findActiveByOrder ?_
    intro ledger'' current _ sound found
    split
    · exact WP.pure fun ledger' _ _ => post ledger' [] () .nil
    · exact releaseEach_wp command.tenantId current post (fun row member => sound.knows (found row member)) .nil

end release

/-- The transactions of the two handlers. -/
inductive Starts : Transact Unit → Prop
  | reserve (command : ReserveStockCommand) (ids : Nat → Uuid) : Starts (command.transaction ids >>= fun _ => pure ())
  | release (command : ReleaseStockCommand) : Starts command.transaction

section reachable

variable {initial : Inventory} {state : State Statement Statement.Result InventoryError Unit Books Write}

theorem Reachable.booksSound (unreserved : initial.reservations = [])
    (nonneg : ∀ key row, initial.stock.find key = some row → 0 ≤ row.available)
    (reachable : Reachable books Starts { inventory := initial, returned := [] } state) :
    state.committed.Sound initial := by
  have start : Books.Sound initial { inventory := initial, returned := [] } := by
    refine ⟨⟨fun _ => rfl, nonneg, ?_, ?_, ?_⟩, ?_, List.nodup_nil, fun id absent => absurd absent List.not_mem_nil⟩
    · rw [unreserved]
      exact fun row absent => absurd absent List.not_mem_nil
    · rw [Inventory.Distinct, unreserved]
      exact List.nodup_nil
    · intro key
      rw [Inventory.activeRows, unreserved]
      exact Nat.zero_le 1
    · intro key
      rw [Inventory.reserved, unreserved]
      exact Int.add_zero _
  have starts (program : Transact Unit) (starting : Starts program) (ledger : Books) :
      WP books rows (Books.Sound initial) (fun _ writes _ => Balanced writes) program ledger [] := by
    cases starting with
    | reserve command ids =>
      refine WP.bind (reserve_wp command ids ?_)
      exact fun ledger writes result balanced => WP.pure fun _ _ _ => balanced
    | release command => exact release_wp command fun _ _ _ balanced => balanced
  have commits (ledger : Books) (writes : List Write) (_ : Unit) (sound : ledger.Sound initial)
      (fits : Fits books rows writes ledger) (balanced : Balanced writes) :
      (books.view writes ledger).Sound initial ∧ ledger ≤ books.view writes ledger :=
    ⟨sound.commit fits balanced, later_view ledger writes⟩
  exact (ReadCommitted.Reachable.sound books_local start starts commits reachable).inv

/-- Whatever transactions of the two handlers run side by side, in every
committed state stock is conserved and nothing is sold or returned twice. -/
theorem Reachable.conserved (unreserved : initial.reservations = [])
    (nonneg : ∀ key row, initial.stock.find key = some row → 0 ≤ row.available)
    (reachable : Reachable books Starts { inventory := initial, returned := [] } state) :
    state.committed.Conserved initial := by
  have sound := Reachable.booksSound unreserved nonneg reachable
  exact ⟨sound.wellFormed.nonneg, sound.conserved, sound.wellFormed.single, sound.once⟩

end reachable

section sample

def sampleCommand : ReserveStockCommand where
  tenantId := "tenant"
  orderId := "order"
  items := [{ itemId := "item", qty := 2 }]

def sampleLedger : Books where
  inventory := sampleDb.inventory
  returned := []

def reservedLedger : Books where
  inventory := reservedDb.inventory
  returned := []

theorem sampleTransaction : Runs books (sampleCommand.transaction sampleIds >>= fun _ => (pure () : Transact Unit))
    sampleLedger reservedLedger := by
  refine .query ([] : List Reservation) (List.Perm.refl _) ?_
  refine .query [{ key := { tenantId := "tenant", itemId := "item" }, available := 5 }] (List.Perm.refl _) ?_
  refine .query true rfl ?_
  refine .query (some _) ⟨rfl, rfl⟩ ?_
  exact .done

theorem sampleStock_nonneg (key : StockKey) (row : Stock) (found : sampleStock.find key = some row) :
    0 ≤ row.available := by
  rw [sampleStock, Table.find_put] at found
  split at found
  · cases found
    decide
  · cases found

theorem reservedLedger_reachable : Reachable books Starts sampleLedger (State.start reservedLedger) := by
  have started : ReadCommitted.Step books Starts (State.start sampleLedger) _ := .start 0 rfl (.reserve sampleCommand sampleIds)
  exact .head started (sampleTransaction.reachable (Store.view_nil sampleLedger))

end sample

theorem conserved_of_sample_reserve : reservedLedger.Conserved sampleDb.inventory :=
  Reachable.conserved rfl sampleStock_nonneg reservedLedger_reachable

end FoodDelivery.InventoryService
