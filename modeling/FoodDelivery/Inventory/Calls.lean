import FoodDelivery.Lib.History
import FoodDelivery.Inventory.Effects

namespace FoodDelivery.InventoryService

open Messaging

/-- A call of one of the two handlers: under its locks; after the select of its
transaction, with the rows that returned; and, for a release, before its locks,
with the keys its lookup has given it. -/
inductive Call
  | idle
  | reserving (command : ReserveStockCommand) (items : List ItemQty)
  | reserveRead (command : ReserveStockCommand) (items : List ItemQty) (existing : List Reservation)
  | waiting (command : ReleaseStockCommand) (keys : List StockKey)
  | releasing (command : ReleaseStockCommand) (keys : List StockKey)
  | releaseRead (command : ReleaseStockCommand) (keys : List StockKey) (current : List Reservation)

/-- `lockKey` of each item. -/
def lockKeys (tenantId : Uuid) (items : List ItemQty) : List StockKey :=
  items.map fun item => { tenantId, itemId := item.itemId }

/-- The keys a call holds. -/
def Call.locks : Call → List StockKey
  | .reserving command items => lockKeys command.tenantId items
  | .reserveRead command items _ => lockKeys command.tenantId items
  | .releasing _ keys => keys
  | .releaseRead _ keys _ => keys
  | _ => []

/-- The tables with the calls under way; the requests made so far are kept for
the statements only. -/
structure Service where
  inventory : Inventory
  calls : Nat → Call
  requested : List ReserveStockCommand

/-- The reserve transaction after its select. -/
def reserveRead (tenantId orderId : Uuid) (items : List ItemQty) (ids : Nat → Uuid) (existing : List Reservation) :
    Transact (List Uuid) :=
  if existing.length > 0 then do
    Program.check (assertReplayMatches existing items orderId)
    return existing.map (·.id)
  else do
    let stocks ← findByItemIds tenantId (items.map (·.itemId))
    reserveEach tenantId orderId stocks ids items

theorem reserveWithinTransaction_eq (tenantId orderId : Uuid) (items : List ItemQty) (ids : Nat → Uuid) :
    reserveWithinTransaction tenantId orderId items ids =
      findActiveByOrder tenantId orderId >>= reserveRead tenantId orderId items ids := rfl

/-- The end of `ReserveStockHandler.execute` after its select. -/
def ReserveStockCommand.finish (command : ReserveStockCommand) (items : List ItemQty) (existing : List Reservation)
    (ids : Nat → Uuid) (inventory : Inventory) : Except InventoryError (ReserveStockResult × Inventory) :=
  command.settle inventory ((reserveRead command.tenantId command.orderId items ids existing).run Statement.run inventory)

/-- A call that nothing comes between is `execute`. -/
theorem ReserveStockCommand.execute_finish (command : ReserveStockCommand) {items : List ItemQty} (ids : Nat → Uuid)
    (inventory : Inventory) (valid : normalizeItems command.items = .ok items) :
    command.execute ids inventory =
      command.finish items (inventory.findActiveByOrder command.tenantId command.orderId) ids inventory := by
  rw [execute, transaction, Program.run_check_bind, valid]
  rfl

namespace Service

def active (service : Service) (tenantId orderId : Uuid) : List Reservation :=
  service.inventory.findActiveByOrder tenantId orderId

def setCall (service : Service) (call : Nat) (stage : Call) : Service :=
  { service with calls := Function.update service.calls call stage }

/-- The keys are in nobody's hands. -/
def Free (service : Service) (keys : List StockKey) : Prop := ∀ call, ∀ key ∈ keys, key ∉ (service.calls call).locks

end Service

inductive Action
  | reserve (call : Nat) (command : ReserveStockCommand)
  | release (call : Nat) (command : ReleaseStockCommand)
  | lock (call : Nat)
  | select (call : Nat)
  | reserved (call : Nat) (outcome : Except InventoryError ReserveStockResult)
  | released (call : Nat)
  | abort (call : Nat)

/-- The tables after a transaction. -/
def stored (inventory : Inventory) : Except InventoryError (ReserveStockResult × Inventory) → Inventory
  | .ok (_, after) => after
  | .error _ => inventory

/-- The steps of the calls: a transaction selects at one moment what has been
committed by then, and the rest of it takes effect at its end. A request that
cannot be normalised throws at once, and a call may be cut off anywhere. -/
inductive Step : Action → Service → Service → Prop
  | reserve {service : Service} {call : Nat} {command : ReserveStockCommand} {items : List ItemQty} :
      service.calls call = .idle → normalizeItems command.items = .ok items →
      service.Free (lockKeys command.tenantId items) →
      Step (.reserve call command) service
        { service.setCall call (.reserving command items) with requested := command :: service.requested }
  | release {service : Service} {call : Nat} {command : ReleaseStockCommand} {rows : List Reservation} :
      service.calls call = .idle → rows.Perm (service.active command.tenantId command.orderId) → rows ≠ [] →
      Step (.release call command) service (service.setCall call (.waiting command (rows.map (·.stockKey))))
  | lock {service : Service} {call : Nat} {command : ReleaseStockCommand} {keys : List StockKey} :
      service.calls call = .waiting command keys → service.Free keys →
      Step (.lock call) service (service.setCall call (.releasing command keys))
  | selectReserve {service : Service} {call : Nat} {command : ReserveStockCommand} {items : List ItemQty}
      {existing : List Reservation} : service.calls call = .reserving command items →
      existing.Perm (service.active command.tenantId command.orderId) →
      Step (.select call) service (service.setCall call (.reserveRead command items existing))
  | selectRelease {service : Service} {call : Nat} {command : ReleaseStockCommand} {keys : List StockKey}
      {current : List Reservation} : service.calls call = .releasing command keys →
      current.Perm (service.active command.tenantId command.orderId) →
      Step (.select call) service (service.setCall call (.releaseRead command keys current))
  | reserved {service : Service} {call : Nat} {command : ReserveStockCommand} {items : List ItemQty}
      {existing : List Reservation} {ids : Nat → Uuid} : service.calls call = .reserveRead command items existing →
      Drawn service.inventory ids →
      Step (.reserved call ((command.finish items existing ids service.inventory).map Prod.fst)) service
        { service.setCall call .idle with
          inventory := stored service.inventory (command.finish items existing ids service.inventory) }
  | released {service : Service} {call : Nat} {command : ReleaseStockCommand} {keys : List StockKey}
      {current : List Reservation} {after : Inventory} : service.calls call = .releaseRead command keys current →
      (releaseEach command.tenantId current).run Statement.run service.inventory = .ok ((), after) →
      Step (.released call) service { service.setCall call .idle with inventory := after }
  | abort {service : Service} (call : Nat) : Step (.abort call) service (service.setCall call .idle)

/-- The item and quantity of a row. -/
def Reservation.item (row : Reservation) : ItemQty where
  itemId := row.itemId
  qty := row.qty

/-- The rows hold what is asked for. -/
def Contents (rows : List Reservation) (items : List ItemQty) : Prop := (rows.map (·.item)).Perm items

theorem Contents.perm {rows rows' : List Reservation} {items : List ItemQty} (same : rows.Perm rows') :
    Contents rows items ↔ Contents rows' items :=
  ⟨(same.map _).symm.trans, (same.map _).trans⟩

/-- With one row an item, the check compares the contents. -/
theorem assertReplayMatches_iff {existing : List Reservation} {items : List ItemQty} (orderId : Uuid)
    (single : (existing.map (·.itemId)).Nodup) (distinct : (items.map (·.itemId)).Nodup) :
    assertReplayMatches existing items orderId = .ok () ↔ Contents existing items := by
  have unfolded : assertReplayMatches existing items orderId = .ok () ↔ existing.length = items.length ∧
      ∀ item ∈ items, ((existing.reverse.find? fun row => row.itemId = item.itemId).map (·.qty)) = some item.qty := by
    unfold assertReplayMatches
    dsimp only
    split
    · simp_all [pure, Except.pure]
    · simp_all [throw, throwThe, MonadExceptOf.throw]
  rw [unfolded]
  constructor
  · rintro ⟨length, held⟩
    have known : items ⊆ existing.map (·.item) := by
      intro item member
      obtain ⟨row, found, qty⟩ := Option.map_eq_some_iff.mp (held item member)
      have mine : row.itemId = item.itemId := by simpa using List.find?_some found
      refine List.mem_map.mpr ⟨row, List.mem_reverse.mp (List.mem_of_find?_eq_some found), ?_⟩
      rw [Reservation.item, mine, qty]
    have sub := List.subperm_of_subset (List.Nodup.of_map _ distinct) known
    exact (sub.perm_of_length_le (by simp [length])).symm
  · intro same
    refine ⟨by simpa using same.length_eq, ?_⟩
    intro item member
    obtain ⟨row, stored, rfl⟩ := List.mem_map.mp (same.mem_iff.mpr member)
    have some : (existing.reverse.find? fun other => other.itemId = row.item.itemId).isSome :=
      List.find?_isSome.mpr ⟨row, List.mem_reverse.mpr stored, by simp [Reservation.item]⟩
    obtain ⟨found, atItem⟩ := Option.isSome_iff_exists.mp some
    have mine : found.itemId = row.item.itemId := by simpa using List.find?_some atItem
    have same := List.inj_on_of_nodup_map single (List.mem_reverse.mp (List.mem_of_find?_eq_some atItem)) stored mine
    rw [atItem, same]
    rfl

section finish

variable {command : ReserveStockCommand} {items : List ItemQty} {existing : List Reservation} {ids : Nat → Uuid}
  {inventory : Inventory}

theorem ReserveStockCommand.finish_held (some : existing ≠ []) :
    command.finish items existing ids inventory = match assertReplayMatches existing items command.orderId with
      | .ok () => .ok ({ ok := true, reservationIds := existing.map (·.id) }, inventory)
      | .error _ => .error (.idempotencyConflict command.orderId) := by
  rw [finish, reserveRead, if_pos (List.length_pos_iff.mpr some), Program.run_check_bind]
  unfold assertReplayMatches
  dsimp only
  split <;> rfl

/-- A call that has read other contents fails. -/
theorem ReserveStockCommand.finish_other (single : (existing.map (·.itemId)).Nodup)
    (distinct : (items.map (·.itemId)).Nodup) (some : existing ≠ []) (other : ¬ Contents existing items) :
    command.finish items existing ids inventory = .error (.idempotencyConflict command.orderId) := by
  rw [finish_held some]
  split
  · rename_i matched
    exact absurd ((assertReplayMatches_iff _ single distinct).mp matched) other
  · rfl

/-- A call that has read what it asks for is answered with it. -/
theorem ReserveStockCommand.finish_same (single : (existing.map (·.itemId)).Nodup)
    (distinct : (items.map (·.itemId)).Nodup) (some : existing ≠ []) (same : Contents existing items) :
    command.finish items existing ids inventory =
      .ok ({ ok := true, reservationIds := existing.map (·.id) }, inventory) := by
  rw [finish_held some, (assertReplayMatches_iff _ single distinct).mpr same]

/-- A call that has read nothing takes all its items or is refused. -/
theorem ReserveStockCommand.finish_free (ids : Nat → Uuid) (normal : Normal items)
    (free : ∀ item ∈ items,
      inventory.activeRows { tenantId := command.tenantId, orderId := command.orderId, itemId := item.itemId } = []) :
    (∃ reservationIds, command.finish items [] ids inventory =
      .ok ({ ok := true, reservationIds }, inventory.takeEach command.tenantId command.orderId ids items)) ∨
    command.finish items [] ids inventory = .ok ({ ok := false, reservationIds := [] }, inventory) := by
  have unfolded : command.finish items [] ids inventory = command.settle inventory ((reserveEach command.tenantId
      command.orderId (inventory.findByItemIds command.tenantId (items.map (·.itemId))) ids items).run
        Statement.run inventory) := rfl
  obtain ⟨all, short⟩ := reserveEach_run ids normal free
    (fun item member => inventory.findByItemIds_find command.tenantId (List.mem_map_of_mem member))
  rw [unfolded]
  by_cases covers : inventory.coversAll command.tenantId items
  · exact Or.inl ⟨_, by rw [all covers]; rfl⟩
  · obtain ⟨error, shortage, run⟩ := short covers
    refine Or.inr ?_
    rw [run]
    cases error with
    | insufficientStock itemId requested available => rfl
    | stockNotFound itemId => rfl
    | _ => exact shortage.elim

end finish

end FoodDelivery.InventoryService
