import FoodDelivery.Lib.Owned
import FoodDelivery.Lib.Related
import FoodDelivery.Inventory.Effects

namespace FoodDelivery.InventoryService

open Messaging

namespace Inventory

/-- Two inventories hold the same stock and reservations of a tenant. -/
structure SameRows (tenantId : Uuid) (inventory inventory' : Inventory) : Prop where
  stock : Table.Shares (fun row : Stock => row.key.tenantId) tenantId inventory.stock inventory'.stock
  reservations : inventory.reservations.filter (fun row => row.tenantId = tenantId) =
    inventory'.reservations.filter fun row => row.tenantId = tenantId

theorem SameRows.refl (tenantId : Uuid) (inventory : Inventory) : inventory.SameRows tenantId inventory := ⟨.refl _, rfl⟩

theorem SameRows.trans (tenantId : Uuid) (a b c : Inventory) (first : a.SameRows tenantId b)
    (last : b.SameRows tenantId c) : a.SameRows tenantId c :=
  ⟨first.stock.trans last.stock, first.reservations.trans last.reservations⟩

/-- Two inventories some way into one tenant's operation. -/
abbrev Isolated (tenantId : Uuid) : Inventory → Inventory → Inventory → Inventory → Prop := Apart SameRows tenantId

variable {tenantId : Uuid} {base base' inventory inventory' : Inventory}

theorem stock_held {key : StockKey} (inventory : Inventory) (mine : key.tenantId = tenantId) :
    inventory.stock.HeldBy (fun row : Stock => row.key.tenantId) tenantId key := by
  intro row found
  have atKey : row.key = key := inventory.stock.keyed key row found
  exact (congrArg StockKey.tenantId atKey).trans mine

theorem SameRows.findStock (same : inventory.SameRows tenantId inventory') {key : StockKey}
    (mine : key.tenantId = tenantId) : inventory.stock.find key = inventory'.stock.find key :=
  same.stock.find (inventory.stock_held mine) (inventory'.stock_held mine)

/-- A selection that asks for the tenant and for more. -/
theorem SameRows.select (same : inventory.SameRows tenantId inventory') (p : Reservation → Bool)
    (mine : ∀ row, p row = true → row.tenantId = tenantId) :
    inventory.reservations.filter p = inventory'.reservations.filter p := by
  have asks (rows : List Reservation) : rows.filter p = (rows.filter fun row => row.tenantId = tenantId).filter p := by
    rw [List.filter_filter]
    refine List.filter_congr fun row _ => ?_
    by_cases selected : p row = true
    · rw [selected, decide_eq_true (mine row selected)]
      rfl
    · rw [Bool.eq_false_iff.mpr selected, Bool.false_and]
  rw [asks, asks inventory'.reservations, same.reservations]

theorem SameRows.findActiveByOrder (same : inventory.SameRows tenantId inventory') (orderId : Uuid) :
    inventory.findActiveByOrder tenantId orderId = inventory'.findActiveByOrder tenantId orderId :=
  same.select _ fun _ selected => (Reservation.isActiveOf_iff.mp selected).1

theorem SameRows.activeRows (same : inventory.SameRows tenantId inventory') {key : ActiveKey}
    (mine : key.tenantId = tenantId) : inventory.activeRows key = inventory'.activeRows key := by
  refine same.select _ fun row selected => ?_
  have atKey : row.activeKey = key := (of_decide_eq_true selected).2
  exact (congrArg ActiveKey.tenantId atKey).trans mine

theorem SameRows.findByItemIds (same : inventory.SameRows tenantId inventory') (itemIds : List Uuid) :
    inventory.findByItemIds tenantId itemIds = inventory'.findByItemIds tenantId itemIds :=
  List.filterMap_congr fun _ _ => same.findStock rfl

theorem SameRows.covers (same : inventory.SameRows tenantId inventory') {key : StockKey}
    (mine : key.tenantId = tenantId) (qty : Int) : inventory.covers key qty = inventory'.covers key qty := by
  rw [Inventory.covers, Inventory.covers, same.findStock mine]

namespace Isolated

theorem putStock (isolated : Isolated tenantId base base' inventory inventory') {row : Stock}
    (mine : row.key.tenantId = tenantId) : Isolated tenantId base base'
      { inventory with stock := inventory.stock.put row } { inventory' with stock := inventory'.stock.put row } := by
  refine isolated.move SameRows.trans ?_ ?_ ?_
  · exact fun same => ⟨same.stock.put row, same.reservations⟩
  · exact fun b other => ⟨.put_other (inventory.stock_held mine) mine other, rfl⟩
  · exact fun b other => ⟨.put_other (inventory'.stock_held mine) mine other, rfl⟩

theorem decrement (isolated : Isolated tenantId base base' inventory inventory') {key : StockKey}
    (mine : key.tenantId = tenantId) (qty : Int) : Isolated tenantId base base'
      (inventory.apply (.decrement key qty)) (inventory'.apply (.decrement key qty)) := by
  rw [apply, apply, isolated.own.findStock mine]
  split
  · rename_i row found
    have atKey : row.key = key := inventory'.stock.keyed key row found
    exact isolated.putStock ((congrArg StockKey.tenantId atKey).trans mine)
  · exact isolated

theorem increase (isolated : Isolated tenantId base base' inventory inventory') {key : StockKey}
    (mine : key.tenantId = tenantId) (reservation : Reservation) : Isolated tenantId base base'
      (inventory.apply (.increase key reservation)) (inventory'.apply (.increase key reservation)) := by
  rw [apply, apply, isolated.own.findStock mine]
  split
  · rename_i row found
    have atKey : row.key = key := inventory'.stock.keyed key row found
    exact isolated.putStock ((congrArg StockKey.tenantId atKey).trans mine)
  · exact isolated

theorem insert (isolated : Isolated tenantId base base' inventory inventory') {reservation : Reservation}
    (mine : reservation.tenantId = tenantId) : Isolated tenantId base base'
      (inventory.apply (.insert reservation)) (inventory'.apply (.insert reservation)) := by
  have unseen {b : Uuid} (other : b ≠ tenantId) (rows : List Reservation) :
      rows.filter (fun row => row.tenantId = b) = (rows ++ [reservation]).filter fun row => row.tenantId = b := by
    rw [List.filter_append, List.filter_cons_of_neg, List.filter_nil, List.append_nil]
    exact fun same => other ((of_decide_eq_true same).symm.trans mine)
  refine isolated.move SameRows.trans ?_ ?_ ?_
  · intro same
    refine ⟨same.stock, ?_⟩
    rw [apply, apply, List.filter_append, List.filter_append, same.reservations]
  · exact fun b other => ⟨.refl _, unseen other inventory.reservations⟩
  · exact fun b other => ⟨.refl _, unseen other inventory'.reservations⟩

/-- Releasing a row leaves every row in its tenant's hands. -/
theorem release (isolated : Isolated tenantId base base' inventory inventory') {reservation : Reservation}
    (mine : reservation.tenantId = tenantId) : Isolated tenantId base base'
      (inventory.apply (.release reservation)) (inventory'.apply (.release reservation)) := by
  have mapped (b : Uuid) (rows : List Reservation) :
      (rows.map fun row => if row = reservation then row.released else row).filter (fun row => row.tenantId = b) =
        (rows.filter fun row => row.tenantId = b).map fun row => if row = reservation then row.released else row := by
    rw [List.filter_map]
    congr 1
    refine List.filter_congr fun row _ => ?_
    dsimp only [Function.comp]
    split <;> rfl
  have unseen {b : Uuid} (other : b ≠ tenantId) (rows : List Reservation) :
      rows.filter (fun row => row.tenantId = b) =
        (rows.map fun row => if row = reservation then row.released else row).filter fun row => row.tenantId = b := by
    rw [mapped, List.map_congr_left (g := id), List.map_id]
    intro row member
    refine if_neg ?_
    rintro rfl
    exact other ((of_decide_eq_true (List.mem_filter.mp member).2).symm.trans mine)
  refine isolated.move SameRows.trans ?_ ?_ ?_
  · intro same
    refine ⟨same.stock, ?_⟩
    rw [apply, apply, mapped, mapped, same.reservations]
  · exact fun b other => ⟨.refl _, unseen other inventory.reservations⟩
  · exact fun b other => ⟨.refl _, unseen other inventory'.reservations⟩

theorem giveBackEach (isolated : Isolated tenantId base base' inventory inventory') {rows : List Reservation}
    (mine : ∀ row ∈ rows, row.tenantId = tenantId) : Isolated tenantId base base'
      (rows.foldl (giveBack tenantId) inventory) (rows.foldl (giveBack tenantId) inventory') := by
  induction rows generalizing inventory inventory' with
  | nil => exact isolated
  | cons first rest ih =>
    have released := isolated.release (mine first (List.mem_cons_self ..))
    have itemMine : ({ tenantId, itemId := first.itemId } : StockKey).tenantId = tenantId := rfl
    exact ih (released.increase itemMine first) fun row member => mine row (List.mem_cons_of_mem _ member)

end Isolated

end Inventory

open Inventory

variable {tenantId : Uuid} {base base' inventory inventory' : Inventory}

/-- The statements whose conditions name the tenant. The guarded release names
no tenant: it takes its row's id from a select that did. -/
def Statement.Of (tenantId : Uuid) : Statement → Prop
  | .findActiveByOrder tenant _ => tenant = tenantId
  | .findByItemIds tenant _ => tenant = tenantId
  | .decrementIfAvailable tenant _ _ => tenant = tenantId
  | .save reservation => reservation.tenantId = tenantId
  | .releaseIfActive _ => False
  | .increaseAvailable tenant _ => tenant = tenantId

theorem Statement.isolated (statement : Statement) (mine : statement.Of tenantId)
    (isolated : Isolated tenantId base base' inventory inventory') :
    (statement.run inventory).1 = (statement.run inventory').1 ∧
      Isolated tenantId base base' (statement.run inventory).2 (statement.run inventory').2 := by
  have same := isolated.own
  cases statement with
  | findActiveByOrder tenant orderId =>
    cases mine
    exact ⟨same.findActiveByOrder orderId, isolated⟩
  | findByItemIds tenant itemIds =>
    cases mine
    exact ⟨same.findByItemIds itemIds, isolated⟩
  | decrementIfAvailable tenant itemId qty =>
    cases mine
    have itemMine : ({ tenantId, itemId } : StockKey).tenantId = tenantId := rfl
    have covers := same.covers itemMine qty
    refine ⟨covers, ?_⟩
    rw [Statement.run, Statement.run, writes, writes, covers]
    dsimp only
    split
    · exact isolated.decrement rfl qty
    · exact isolated
  | save reservation =>
    have keyMine : reservation.activeKey.tenantId = tenantId := mine
    have free := same.activeRows keyMine
    rw [Statement.run, Statement.run, answer, answer, writes, writes, free]
    refine ⟨rfl, ?_⟩
    dsimp only
    split
    · exact isolated.insert mine
    · exact isolated
  | releaseIfActive reservation => exact mine.elim
  | increaseAvailable tenant reservation =>
    cases mine
    have itemMine : ({ tenantId, itemId := reservation.itemId } : StockKey).tenantId = tenantId := rfl
    have stock := same.findStock itemMine
    rw [Statement.run, Statement.run, writes, writes, stock]
    refine ⟨rfl, ?_⟩
    dsimp only
    split
    · exact isolated.increase rfl reservation
    · exact isolated

open Program in
theorem reserveEach_sends (tenantId orderId : Uuid) (stocks : List Stock) (ids : Nat → Uuid) (items : List ItemQty) :
    Sends (Statement.Of tenantId) (reserveEach tenantId orderId stocks ids items) := by
  induction items generalizing ids with
  | nil => exact .done []
  | cons item rest ih =>
    rw [reserveEach]
    split
    · exact .fail _
    · refine .send_bind rfl fun reserved => ?_
      split
      · refine .check_bind _ fun reservation created => ?_
        obtain ⟨-, rfl⟩ := Reservation.create_ok.mp created
        refine .send_bind rfl fun saved => ?_
        split
        · exact .fail _
        · exact (ih _).bind fun reservationIds => .done _
      · exact .fail _

/-- Every statement of a reservation names its tenant. -/
theorem ReserveStockCommand.transaction_sends (command : ReserveStockCommand) (ids : Nat → Uuid) :
    Program.Sends (Statement.Of command.tenantId) (command.transaction ids) := by
  refine .check_bind _ fun items _ => .send_bind rfl fun existing => ?_
  split
  · exact .check_bind _ fun _ _ => .done _
  · exact .send_bind rfl fun stocks => reserveEach_sends command.tenantId command.orderId stocks ids items

theorem ReserveStockCommand.execute_isolated (command : ReserveStockCommand)
    (isolated : Isolated command.tenantId base base' inventory inventory') (ids : Nat → Uuid) :
    Except.Related (fun a b => a.1 = b.1 ∧ Isolated command.tenantId base base' a.2 b.2)
      (command.execute ids inventory) (command.execute ids inventory') := by
  have runs := (command.transaction_sends ids).run_related
    (fun statement _ _ mine isolated => statement.isolated mine isolated) isolated
  unfold execute
  generalize (command.transaction ids).run Statement.run inventory = ended at runs ⊢
  generalize (command.transaction ids).run Statement.run inventory' = ended' at runs ⊢
  cases runs with
  | @ok a b reserved =>
    obtain ⟨sameIds, isolated⟩ := reserved
    exact .ok ⟨by rw [sameIds], isolated⟩
  | error error =>
    cases error with
    | insufficientStock itemId requested available => exact .ok ⟨rfl, isolated⟩
    | stockNotFound itemId => exact .ok ⟨rfl, isolated⟩
    | _ => exact .error _

/-- A release reads the tenant's reservations and, ids being unique, meets no others. -/
theorem ReleaseStockCommand.execute_isolated (command : ReleaseStockCommand)
    (isolated : Isolated command.tenantId base base' inventory inventory') (distinct : inventory.Distinct)
    (distinct' : inventory'.Distinct) :
    Except.Related (fun a b => a.1 = b.1 ∧ Isolated command.tenantId base base' a.2 b.2)
      (command.execute inventory) (command.execute inventory') := by
  rw [execute_run command distinct, execute_run command distinct', isolated.own.findActiveByOrder]
  exact .ok ⟨rfl, isolated.giveBackEach fun row member => (mem_findActiveByOrder.mp member).2.1⟩

theorem runEffect_isolated {envelope : EventEnvelopeHeaders}
    (isolated : Isolated envelope.tenantId base base' inventory inventory') (distinct : inventory.Distinct)
    (distinct' : inventory'.Distinct) (payload : Payload) (ids : Nat → Uuid) :
    Except.Related (fun a b => a.1 = b.1 ∧ Isolated envelope.tenantId base base' a.2 b.2)
      (runEffect envelope payload ids inventory) (runEffect envelope payload ids inventory') := by
  unfold runEffect
  split
  · refine (ReserveStockCommand.execute_isolated ⟨envelope.tenantId, _, _⟩ isolated ids).bind ?_
    rintro ⟨result, reserved⟩ ⟨_, reserved'⟩ ⟨rfl, isolated⟩
    exact .ok ⟨rfl, isolated⟩
  · refine (ReleaseStockCommand.execute_isolated ⟨envelope.tenantId, _⟩ isolated distinct distinct').bind ?_
    rintro ⟨_, released⟩ ⟨_, released'⟩ ⟨-, isolated⟩
    exact .ok ⟨rfl, isolated⟩
  · exact .error _
  · exact .error _

structure Db.Isolated (tenantId : Uuid) (base base' db db' : Db) : Prop where
  inventory : Inventory.Isolated tenantId base.inventory base'.inventory db.inventory db'.inventory
  processed : ∀ eventId, eventId ∈ db.processedEvents ↔ eventId ∈ db'.processedEvents
  outbox : Grown OutboxRow.tenantId tenantId base.outbox base'.outbox db.outbox db'.outbox

section handlers

variable {base base' db db' : Db} {envelope : EventEnvelopeHeaders}

theorem Db.Isolated.appendOnce (isolated : Db.Isolated envelope.tenantId base base' db db') (entry : OutboxCommandEntry)
    (stamp : Stamp) : Db.Isolated envelope.tenantId base base' (db.appendOnce envelope entry stamp)
      (db'.appendOnce envelope entry stamp) := by
  have recorded := isolated.processed envelope.eventId
  unfold Db.appendOnce
  by_cases member : envelope.eventId ∈ db'.processedEvents
  · rw [if_pos member, if_pos (recorded.mpr member)]
    exact isolated
  · rw [if_neg member, if_neg (mt recorded.mp member)]
    refine ⟨isolated.inventory, ?_, isolated.outbox.append rfl⟩
    intro other
    rw [List.mem_cons, List.mem_cons, isolated.processed other]

theorem Db.Isolated.handleCommand (isolated : Db.Isolated envelope.tenantId base base' db db')
    (distinct : db.inventory.Distinct) (distinct' : db'.inventory.Distinct) (payload : Payload) (ids : Nat → Uuid)
    (stamp : Stamp) : Except.Related (Db.Isolated envelope.tenantId base base')
      (db.handleCommand envelope payload ids stamp) (db'.handleCommand envelope payload ids stamp) := by
  refine (runEffect_isolated isolated.inventory distinct distinct' payload ids).bind ?_
  rintro ⟨entry, inventory⟩ ⟨_, inventory'⟩ ⟨rfl, moved⟩
  have effect : Db.Isolated envelope.tenantId base base' { db with inventory } { db' with inventory := inventory' } :=
    ⟨moved, isolated.processed, isolated.outbox⟩
  exact .ok (effect.appendOnce entry stamp)

end handlers

end FoodDelivery.InventoryService
