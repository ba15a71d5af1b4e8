import FoodDelivery.Inventory.Handlers

namespace FoodDelivery.InventoryService

open Messaging

/-- A shortage: the errors that `execute` turns into a refusal. -/
def InventoryError.Shortage : InventoryError → Prop
  | .insufficientStock .. => True
  | .stockNotFound .. => True
  | _ => False

namespace Inventory

/-- One item taken for an order. -/
def take (inventory : Inventory) (tenantId orderId id : Uuid) (item : ItemQty) : Inventory :=
  (inventory.apply (.decrement { tenantId, itemId := item.itemId } item.qty)).apply
    (.insert { id, tenantId, orderId, itemId := item.itemId, qty := item.qty, status := .active })

def takeEach (tenantId orderId : Uuid) : (ids : Nat → Uuid) → List ItemQty → Inventory → Inventory
  | _, [], inventory => inventory
  | ids, item :: rest, inventory =>
    takeEach tenantId orderId (fun n => ids (n + 1)) rest (inventory.take tenantId orderId (ids 0) item)

/-- One reservation given back. -/
def giveBack (tenantId : Uuid) (inventory : Inventory) (reservation : Reservation) : Inventory :=
  (inventory.apply (.release reservation)).apply
    (.increase { tenantId, itemId := reservation.itemId } reservation)

/-- Every item can be had. -/
def coversAll (inventory : Inventory) (tenantId : Uuid) (items : List ItemQty) : Prop :=
  ∀ item ∈ items, inventory.covers { tenantId, itemId := item.itemId } item.qty = true

instance (inventory : Inventory) (tenantId : Uuid) (items : List ItemQty) :
    Decidable (inventory.coversAll tenantId items) := inferInstanceAs (Decidable (∀ item ∈ items, _))

theorem decrement_reservations (inventory : Inventory) (key : StockKey) (qty : Int) :
    (inventory.apply (.decrement key qty)).reservations = inventory.reservations := by
  rw [apply]
  split <;> rfl

theorem increase_reservations (inventory : Inventory) (key : StockKey) (reservation : Reservation) :
    (inventory.apply (.increase key reservation)).reservations = inventory.reservations := by
  rw [apply]
  split <;> rfl

theorem decrement_stock_of_ne (inventory : Inventory) {key other : StockKey} (qty : Int) (different : other ≠ key) :
    (inventory.apply (.decrement key qty)).stock.find other = inventory.stock.find other := by
  rw [apply]
  split
  · rename_i row found
    have sameKey : row.key = key := inventory.stock.keyed key row found
    exact Table.find_put_of_ne (sameKey.symm ▸ different)
  · rfl

theorem take_reservations (inventory : Inventory) (tenantId orderId id : Uuid) (item : ItemQty) :
    (inventory.take tenantId orderId id item).reservations = inventory.reservations ++
      [{ id, tenantId, orderId, itemId := item.itemId, qty := item.qty, status := .active }] := by
  show (inventory.apply (.decrement _ _)).reservations ++ _ = _
  rw [decrement_reservations]

theorem take_stock_of_ne (inventory : Inventory) (tenantId orderId id : Uuid) (item : ItemQty) {key : StockKey}
    (different : key ≠ { tenantId, itemId := item.itemId }) :
    (inventory.take tenantId orderId id item).stock.find key = inventory.stock.find key :=
  inventory.decrement_stock_of_ne item.qty different

theorem take_activeRows_of_ne (inventory : Inventory) (tenantId orderId id : Uuid) (item : ItemQty) {key : ActiveKey}
    (different : key ≠ { tenantId, orderId, itemId := item.itemId }) :
    (inventory.take tenantId orderId id item).activeRows key = inventory.activeRows key := by
  have other : ¬ ({ tenantId, orderId, itemId := item.itemId } : ActiveKey) = key := fun same => different same.symm
  rw [activeRows, take_reservations, List.filter_append, activeRows]
  simp [Reservation.activeKey, other]

end Inventory

section statements

variable {A : Type} {inventory : Inventory}

@[simp] theorem run_findActiveByOrder (tenantId orderId : Uuid) (f : List Reservation → Transact A) :
    (findActiveByOrder tenantId orderId >>= f).run Statement.run inventory =
      (f (inventory.findActiveByOrder tenantId orderId)).run Statement.run inventory := rfl

theorem run_decrementIfAvailable {tenantId itemId : Uuid} {qty : Int} (f : Bool → Transact A)
    (covers : inventory.covers { tenantId, itemId } qty = true) :
    (decrementIfAvailable tenantId itemId qty >>= f).run Statement.run inventory =
      (f true).run Statement.run (inventory.apply (.decrement { tenantId, itemId } qty)) := by
  rw [Program.run_send_bind]
  simp only [Statement.run, Statement.answer, Statement.writes, covers, if_true]
  rfl

theorem run_decrementIfAvailable_short {tenantId itemId : Uuid} {qty : Int} (f : Bool → Transact A)
    (short : inventory.covers { tenantId, itemId } qty = false) :
    (decrementIfAvailable tenantId itemId qty >>= f).run Statement.run inventory =
      (f false).run Statement.run inventory := by
  rw [Program.run_send_bind]
  simp only [Statement.run, Statement.answer, Statement.writes, short]
  rfl

theorem run_save {reservation : Reservation} (f : Option Reservation → Transact A)
    (free : inventory.activeRows reservation.activeKey = []) :
    (save reservation >>= f).run Statement.run inventory =
      (f (some reservation)).run Statement.run (inventory.apply (.insert reservation)) := by
  rw [Program.run_send_bind]
  simp only [Statement.run, Statement.answer, Statement.writes, free, if_true]
  rfl

theorem run_releaseIfActive {reservation row : Reservation} (f : Bool → Transact A)
    (found : inventory.findReservation reservation.id = some row) (active : row.status = .active) :
    (releaseIfActive reservation >>= f).run Statement.run inventory =
      (f true).run Statement.run (inventory.apply (.release row)) := by
  rw [Program.run_send_bind]
  simp only [Statement.run, Statement.answer, Statement.writes, found, active, if_true, Option.any_some, decide_true]
  rfl

@[simp] theorem run_increaseAvailable (tenantId : Uuid) (reservation : Reservation) (f : Unit → Transact A) :
    (increaseAvailable tenantId reservation >>= f).run Statement.run inventory =
      (f ()).run Statement.run (inventory.apply (.increase { tenantId, itemId := reservation.itemId } reservation)) := by
  rw [Program.run_send_bind]
  cases found : inventory.stock.find { tenantId, itemId := reservation.itemId } with
  | none => simp [Statement.run, Statement.answer, Statement.writes, Inventory.apply, found]
  | some row => simp [Statement.run, Statement.answer, Statement.writes, Inventory.apply, found]

end statements

/-- The rows that taking items adds. -/
def newReservations (tenantId orderId : Uuid) : (ids : Nat → Uuid) → List ItemQty → List Reservation
  | _, [] => []
  | ids, item :: rest =>
    { id := ids 0, tenantId, orderId, itemId := item.itemId, qty := item.qty, status := .active } ::
      newReservations tenantId orderId (fun n => ids (n + 1)) rest

section loop

variable {tenantId orderId : Uuid} {stocks : List Stock} {ids : Nat → Uuid} {item : ItemQty} {rest : List ItemQty}
  {inventory : Inventory}

/-- One round of the loop. -/
theorem reserveEach_cons (ids : Nat → Uuid) (rest : List ItemQty) (positive : 0 < item.qty)
    (free : inventory.activeRows { tenantId, orderId, itemId := item.itemId } = [])
    (known : (stocks.find? fun stock => stock.key.itemId = item.itemId).isSome =
      (inventory.stock.find { tenantId, itemId := item.itemId }).isSome)
    (covers : inventory.covers { tenantId, itemId := item.itemId } item.qty = true) :
    (reserveEach tenantId orderId stocks ids (item :: rest)).run Statement.run inventory =
      ((reserveEach tenantId orderId stocks (fun n => ids (n + 1)) rest).run Statement.run
        (inventory.take tenantId orderId (ids 0) item)).map fun result => (ids 0 :: result.1, result.2) := by
  obtain ⟨row, found⟩ : ∃ row, inventory.stock.find { tenantId, itemId := item.itemId } = some row := by
    unfold Inventory.covers at covers
    cases found : inventory.stock.find { tenantId, itemId := item.itemId } with
    | none =>
      rw [found] at covers
      cases covers
    | some row => exact ⟨row, rfl⟩
  rw [found, Option.isSome_some, Option.isSome_iff_exists] at known
  obtain ⟨stock, atItem⟩ := known
  have created : Reservation.create (ids 0) tenantId orderId item = .ok _ := Reservation.create_ok.mpr ⟨positive, rfl⟩
  have free' : (inventory.apply (.decrement { tenantId, itemId := item.itemId } item.qty)).activeRows
      { tenantId, orderId, itemId := item.itemId } = [] := by
    rw [Inventory.activeRows, Inventory.decrement_reservations]
    exact free
  rw [reserveEach, atItem]
  dsimp only
  rw [run_decrementIfAvailable _ covers, if_pos rfl, Program.run_check_bind, created]
  show Program.run Statement.run (save _ >>= _) _ = _
  rw [run_save _ free']
  dsimp only
  rw [Program.run_bind, Inventory.take]
  cases Program.run Statement.run (reserveEach tenantId orderId stocks (fun n => ids (n + 1)) rest) _ <;> rfl

/-- The loop ends at an item that cannot be had. -/
theorem reserveEach_cons_short (short : inventory.covers { tenantId, itemId := item.itemId } item.qty = false) :
    ∃ error : InventoryError, error.Shortage ∧
      (reserveEach tenantId orderId stocks ids (item :: rest)).run Statement.run inventory = .error error := by
  rw [reserveEach]
  split
  · exact ⟨.stockNotFound item.itemId, trivial, rfl⟩
  · rename_i stock found
    refine ⟨.insufficientStock item.itemId item.qty stock.available, trivial, ?_⟩
    rw [run_decrementIfAvailable_short _ short]
    rfl

/-- What the loop does on its own: all items are taken, or none can be. -/
theorem reserveEach_run (ids : Nat → Uuid) {items : List ItemQty} (normal : Normal items)
    (free : ∀ item ∈ items, inventory.activeRows { tenantId, orderId, itemId := item.itemId } = [])
    (known : ∀ item ∈ items, (stocks.find? fun stock => stock.key.itemId = item.itemId).isSome =
      (inventory.stock.find { tenantId, itemId := item.itemId }).isSome) :
    (inventory.coversAll tenantId items → (reserveEach tenantId orderId stocks ids items).run Statement.run inventory =
        .ok ((newReservations tenantId orderId ids items).map (·.id), inventory.takeEach tenantId orderId ids items)) ∧
      (¬ inventory.coversAll tenantId items → ∃ error : InventoryError, error.Shortage ∧
        (reserveEach tenantId orderId stocks ids items).run Statement.run inventory = .error error) := by
  induction items generalizing inventory ids with
  | nil => exact ⟨fun _ => rfl, fun short => absurd (fun item absent => absurd absent List.not_mem_nil) short⟩
  | cons item rest ih =>
    have apart : ∀ other ∈ rest, other.itemId ≠ item.itemId := by
      intro other member same
      have distinct := (List.nodup_cons.mp normal.distinct).1
      exact distinct (List.mem_map.mpr ⟨other, member, same⟩)
    have normal' : Normal rest :=
      ⟨(List.nodup_cons.mp normal.distinct).2, fun other member => normal.positive other (List.mem_cons_of_mem _ member)⟩
    have stock' : ∀ other ∈ rest, (inventory.take tenantId orderId (ids 0) item).stock.find
        { tenantId, itemId := other.itemId } = inventory.stock.find { tenantId, itemId := other.itemId } := by
      intro other member
      refine inventory.take_stock_of_ne tenantId orderId (ids 0) item ?_
      exact fun same => apart other member (congrArg StockKey.itemId same)
    have free' : ∀ other ∈ rest, (inventory.take tenantId orderId (ids 0) item).activeRows
        { tenantId, orderId, itemId := other.itemId } = [] := by
      intro other member
      rw [Inventory.take_activeRows_of_ne]
      · exact free other (List.mem_cons_of_mem _ member)
      · exact fun same => apart other member (congrArg ActiveKey.itemId same)
    have known' : ∀ other ∈ rest, (stocks.find? fun stock => stock.key.itemId = other.itemId).isSome =
        ((inventory.take tenantId orderId (ids 0) item).stock.find { tenantId, itemId := other.itemId }).isSome := by
      intro other member
      rw [stock' other member]
      exact known other (List.mem_cons_of_mem _ member)
    have coversRest : (inventory.take tenantId orderId (ids 0) item).coversAll tenantId rest ↔
        inventory.coversAll tenantId rest := by
      have same : ∀ other ∈ rest, (inventory.take tenantId orderId (ids 0) item).covers
          { tenantId, itemId := other.itemId } other.qty = inventory.covers { tenantId, itemId := other.itemId } other.qty := by
        intro other member
        rw [Inventory.covers, stock' other member]
        rfl
      exact forall₂_congr fun other member => by rw [same other member]
    have split : inventory.coversAll tenantId (item :: rest) ↔
        inventory.covers { tenantId, itemId := item.itemId } item.qty = true ∧ inventory.coversAll tenantId rest :=
      List.forall_mem_cons
    obtain ⟨all, short⟩ := ih (fun n => ids (n + 1)) normal' free' known'
    by_cases covers : inventory.covers { tenantId, itemId := item.itemId } item.qty = true
    · have head := reserveEach_cons ids rest (normal.positive item (List.mem_cons_self ..))
        (free item (List.mem_cons_self ..)) (known item (List.mem_cons_self ..)) covers
      constructor
      · intro coversAll
        rw [head, all (coversRest.mpr (split.mp coversAll).2)]
        rfl
      · intro missing
        obtain ⟨error, shortage, run⟩ := short fun rest => missing (split.mpr ⟨covers, coversRest.mp rest⟩)
        exact ⟨error, shortage, by rw [head, run]; rfl⟩
    · constructor
      · exact fun coversAll => absurd (split.mp coversAll).1 covers
      · exact fun _ => reserveEach_cons_short (Bool.eq_false_iff.mpr covers)

end loop

theorem Inventory.findByItemIds_find (inventory : Inventory) (tenantId : Uuid) {itemIds : List Uuid} {itemId : Uuid}
    (member : itemId ∈ itemIds) :
    ((inventory.findByItemIds tenantId itemIds).find? fun stock => stock.key.itemId = itemId).isSome =
      (inventory.stock.find { tenantId, itemId }).isSome := by
  rw [Bool.eq_iff_iff, List.find?_isSome, Option.isSome_iff_exists]
  constructor
  · rintro ⟨stock, found, same⟩
    obtain ⟨other, -, atKey⟩ := List.mem_filterMap.mp found
    have key := inventory.stock.keyed _ _ atKey
    have sameId : other = itemId := (congrArg StockKey.itemId key).symm.trans (of_decide_eq_true same)
    exact ⟨stock, sameId ▸ atKey⟩
  · rintro ⟨stock, atKey⟩
    refine ⟨stock, List.mem_filterMap.mpr ⟨itemId, member, atKey⟩, decide_eq_true ?_⟩
    exact congrArg StockKey.itemId (inventory.stock.keyed _ _ atKey)

theorem Inventory.activeRows_of_findActiveByOrder {inventory : Inventory} {tenantId orderId : Uuid}
    (none : inventory.findActiveByOrder tenantId orderId = []) (itemId : Uuid) :
    inventory.activeRows { tenantId, orderId, itemId } = [] := by
  rw [Inventory.findActiveByOrder, List.filter_eq_nil_iff] at none
  rw [Inventory.activeRows, List.filter_eq_nil_iff]
  intro row member matched
  refine none row member ?_
  simp only [decide_eq_true_eq, Reservation.activeKey, ActiveKey.mk.injEq] at matched
  exact Reservation.isActiveOf_iff.mpr ⟨matched.2.1, matched.2.2.1, matched.1⟩

section execute

variable {command : ReserveStockCommand} {ids : Nat → Uuid} {inventory : Inventory}

/-- A refused request fails with its own error. -/
theorem ReserveStockCommand.execute_invalid {error : InventoryError}
    (invalid : normalizeItems command.items = .error error) : command.execute ids inventory = .error error := by
  obtain ⟨reason, rfl⟩ := normalizeItems_error invalid
  rw [execute, transaction, Program.run_check_bind, invalid]
  rfl

/-- An order that holds reservations is replayed or in conflict. -/
theorem ReserveStockCommand.execute_held {items : List ItemQty} (valid : normalizeItems command.items = .ok items)
    (held : inventory.findActiveByOrder command.tenantId command.orderId ≠ []) :
    command.execute ids inventory = match assertReplayMatches (inventory.findActiveByOrder command.tenantId
        command.orderId) items command.orderId with
      | .ok () => .ok ({ ok := true, reservationIds := (inventory.findActiveByOrder command.tenantId
          command.orderId).map (·.id) }, inventory)
      | .error _ => .error (.idempotencyConflict command.orderId) := by
  rw [execute, transaction, Program.run_check_bind, valid]
  show command.settle inventory ((reserveWithinTransaction ..).run _ _) = _
  rw [reserveWithinTransaction, run_findActiveByOrder, if_pos (List.length_pos_iff.mpr held), Program.run_check_bind]
  unfold assertReplayMatches
  dsimp only
  split <;> rfl

/-- An order that holds none gets all its items or is refused. -/
theorem ReserveStockCommand.execute_free (command : ReserveStockCommand) (ids : Nat → Uuid) {items : List ItemQty}
    (valid : normalizeItems command.items = .ok items)
    (none : inventory.findActiveByOrder command.tenantId command.orderId = []) :
    if inventory.coversAll command.tenantId items then command.execute ids inventory =
      .ok ({ ok := true, reservationIds := (newReservations command.tenantId command.orderId ids items).map (·.id) },
        inventory.takeEach command.tenantId command.orderId ids items)
    else command.execute ids inventory = .ok ({ ok := false, reservationIds := [] }, inventory) := by
  have unfolded : command.execute ids inventory = command.settle inventory ((reserveEach command.tenantId command.orderId
      (inventory.findByItemIds command.tenantId (items.map (·.itemId))) ids items).run Statement.run inventory) := by
    rw [execute, transaction, Program.run_check_bind, valid]
    show command.settle inventory ((reserveWithinTransaction ..).run _ _) = _
    rw [reserveWithinTransaction, run_findActiveByOrder, none]
    rfl
  obtain ⟨all, short⟩ := reserveEach_run ids (normalizeItems_normal valid)
    (fun item _ => Inventory.activeRows_of_findActiveByOrder none item.itemId)
    (fun item member => inventory.findByItemIds_find command.tenantId (List.mem_map_of_mem member))
  split
  · rename_i covers
    rw [unfolded, all covers]
    rfl
  · rename_i missing
    obtain ⟨error, shortage, run⟩ := short missing
    rw [unfolded, run]
    cases error with
    | insufficientStock itemId requested available => rfl
    | stockNotFound itemId => rfl
    | _ => exact shortage.elim

end execute

theorem Inventory.takeEach_reservations (tenantId orderId : Uuid) (ids : Nat → Uuid) (items : List ItemQty)
    (inventory : Inventory) : (inventory.takeEach tenantId orderId ids items).reservations =
      inventory.reservations ++ newReservations tenantId orderId ids items := by
  induction items generalizing ids inventory with
  | nil => exact (List.append_nil _).symm
  | cons item rest ih =>
    rw [takeEach, ih, take_reservations, List.append_assoc]
    rfl

theorem mem_newReservations {tenantId orderId : Uuid} {ids : Nat → Uuid} {items : List ItemQty} {row : Reservation}
    (member : row ∈ newReservations tenantId orderId ids items) :
    row.tenantId = tenantId ∧ row.orderId = orderId ∧ row.status = .active ∧ ∃ n, row.id = ids n := by
  induction items generalizing ids with
  | nil => cases member
  | cons item rest ih =>
    rcases List.mem_cons.mp member with rfl | old
    · exact ⟨rfl, rfl, rfl, 0, rfl⟩
    · obtain ⟨tenant, order, active, n, same⟩ := ih old
      exact ⟨tenant, order, active, n + 1, same⟩

theorem newReservations_ids {tenantId orderId : Uuid} {ids : Nat → Uuid} (distinct : Function.Injective ids)
    (items : List ItemQty) : ((newReservations tenantId orderId ids items).map (·.id)).Nodup := by
  induction items generalizing ids with
  | nil => exact List.nodup_nil
  | cons item rest ih =>
    refine List.nodup_cons.mpr ⟨?_, ih fun m n same => Nat.succ.inj (distinct same)⟩
    intro known
    obtain ⟨row, member, same⟩ := List.mem_map.mp known
    obtain ⟨-, -, -, n, at_⟩ := mem_newReservations member
    exact absurd (distinct (at_.symm.trans same)) (Nat.succ_ne_zero n)

section release

variable {tenantId orderId : Uuid} {inventory : Inventory}

theorem Inventory.giveBack_reservations (inventory : Inventory) (tenantId : Uuid) (reservation : Reservation) :
    (inventory.giveBack tenantId reservation).reservations =
      inventory.reservations.map fun row => if row = reservation then row.released else row := by
  rw [giveBack, increase_reservations, apply]

theorem Inventory.giveBack_ids (inventory : Inventory) (tenantId : Uuid) (reservation : Reservation) :
    (inventory.giveBack tenantId reservation).reservations.map (·.id) = inventory.reservations.map (·.id) := by
  rw [giveBack, increase_reservations, release_ids]

/-- Giving rows back marks them, and no others. -/
theorem Inventory.giveBackEach_reservations (tenantId : Uuid) (rows : List Reservation) (inventory : Inventory)
    (active : ∀ row ∈ rows, row.status = .active) :
    (rows.foldl (giveBack tenantId) inventory).reservations =
      inventory.reservations.map fun row => if row ∈ rows then row.released else row := by
  induction rows generalizing inventory with
  | nil => simp
  | cons first rest ih =>
    have tail : ∀ row ∈ rest, row.status = .active := fun row member => active row (List.mem_cons_of_mem _ member)
    rw [List.foldl_cons, ih _ tail, giveBack_reservations, List.map_map]
    refine List.map_congr_left fun row _ => ?_
    -- a released row is none of the rows still to be given back
    have settled : row.released ∉ rest := by
      intro member
      have contradiction := tail row.released member
      cases contradiction
    by_cases same : row = first
    · subst same
      simp [settled]
    · simp [same]

theorem Inventory.findReservation_of_mem {row : Reservation} (distinct : (inventory.reservations.map (·.id)).Nodup)
    (member : row ∈ inventory.reservations) : inventory.findReservation row.id = some row := by
  have some : (inventory.findReservation row.id).isSome := List.find?_isSome.mpr ⟨row, member, decide_eq_true rfl⟩
  obtain ⟨found, atId⟩ := Option.isSome_iff_exists.mp some
  have sameId : found.id = row.id := by simpa using List.find?_some atId
  have same := List.inj_on_of_nodup_map distinct (List.mem_of_find?_eq_some atId) member sameId
  exact same ▸ atId

/-- The loop of a release gives back every row it is handed. -/
theorem releaseEach_run {rows : List Reservation} (distinct : (inventory.reservations.map (·.id)).Nodup)
    (known : ∀ row ∈ rows, row ∈ inventory.reservations) (active : ∀ row ∈ rows, row.status = .active)
    (apart : (rows.map (·.id)).Nodup) :
    (releaseEach tenantId rows).run Statement.run inventory =
      .ok ((), rows.foldl (Inventory.giveBack tenantId) inventory) := by
  induction rows generalizing inventory with
  | nil => rfl
  | cons first rest ih =>
    have found : inventory.findReservation first.id = some first :=
      Inventory.findReservation_of_mem distinct (known first (List.mem_cons_self ..))
    rw [releaseEach, run_releaseIfActive _ found (active first (List.mem_cons_self ..)), if_pos rfl,
      run_increaseAvailable, List.foldl_cons]
    refine ih ?_ ?_ ?_ ?_
    · exact (inventory.giveBack_ids tenantId first).symm ▸ distinct
    · intro row member
      have different : row ≠ first := by
        rintro rfl
        exact (List.nodup_cons.mp apart).1 (List.mem_map_of_mem member)
      have rows := inventory.giveBack_reservations tenantId first
      rw [Inventory.giveBack] at rows
      rw [rows]
      exact List.mem_map.mpr ⟨row, known row (List.mem_cons_of_mem _ member), if_neg different⟩
    · exact fun row member => active row (List.mem_cons_of_mem _ member)
    · exact (List.nodup_cons.mp apart).2

/-- A release gives back all ACTIVE rows of its order. -/
theorem ReleaseStockCommand.execute_run (command : ReleaseStockCommand)
    (distinct : (inventory.reservations.map (·.id)).Nodup) :
    command.execute inventory = .ok ((), (inventory.findActiveByOrder command.tenantId command.orderId).foldl
      (Inventory.giveBack command.tenantId) inventory) := by
  have members : ∀ row ∈ inventory.findActiveByOrder command.tenantId command.orderId, row ∈ inventory.reservations :=
    fun row member => (Inventory.mem_findActiveByOrder.mp member).1
  have active : ∀ row ∈ inventory.findActiveByOrder command.tenantId command.orderId, row.status = .active :=
    fun row member => (Inventory.mem_findActiveByOrder.mp member).2.2.2
  have apart : ((inventory.findActiveByOrder command.tenantId command.orderId).map (·.id)).Nodup :=
    (List.Sublist.map _ List.filter_sublist).nodup distinct
  rw [execute, transaction, run_findActiveByOrder]
  split
  · rename_i none
    rw [List.length_eq_zero_iff.mp none]
    rfl
  · rename_i some
    rw [releaseWithinTransaction, run_findActiveByOrder, if_neg some]
    exact releaseEach_run distinct members active apart

end release

/-- The order holds stock. -/
def Inventory.Holds (inventory : Inventory) (tenantId orderId : Uuid) : Prop :=
  ∃ row ∈ inventory.reservations, row.isActiveOf tenantId orderId = true

theorem Inventory.holds_iff {inventory : Inventory} {tenantId orderId : Uuid} :
    inventory.Holds tenantId orderId ↔ inventory.findActiveByOrder tenantId orderId ≠ [] := by
  rw [Holds, findActiveByOrder, Ne, List.filter_eq_nil_iff]
  push Not
  rfl

/-- Taking items concerns the order they are taken for. -/
theorem Inventory.takeEach_holds (inventory : Inventory) (tenantId orderId : Uuid) (ids : Nat → Uuid) {item : ItemQty}
    {rest : List ItemQty} (tenantId' orderId' : Uuid) :
    (inventory.takeEach tenantId orderId ids (item :: rest)).Holds tenantId' orderId' ↔
      inventory.Holds tenantId' orderId' ∨ tenantId' = tenantId ∧ orderId' = orderId := by
  simp only [Holds, takeEach_reservations, List.mem_append]
  constructor
  · rintro ⟨row, old | new, active⟩
    · exact Or.inl ⟨row, old, active⟩
    · obtain ⟨tenant, order, -⟩ := mem_newReservations new
      obtain ⟨tenant', order', -⟩ := Reservation.isActiveOf_iff.mp active
      exact Or.inr ⟨tenant'.symm.trans tenant, order'.symm.trans order⟩
  · rintro (⟨row, old, active⟩ | ⟨rfl, rfl⟩)
    · exact ⟨row, Or.inl old, active⟩
    · exact ⟨_, Or.inr (List.mem_cons_self ..), Reservation.isActiveOf_iff.mpr ⟨rfl, rfl, rfl⟩⟩

/-- Giving back all rows of an order concerns that order. -/
theorem Inventory.giveBackEach_holds (inventory : Inventory) (tenantId orderId tenantId' orderId' : Uuid) :
    ((inventory.findActiveByOrder tenantId orderId).foldl (giveBack tenantId) inventory).Holds tenantId' orderId' ↔
      inventory.Holds tenantId' orderId' ∧ ¬ (tenantId' = tenantId ∧ orderId' = orderId) := by
  have active : ∀ row ∈ inventory.findActiveByOrder tenantId orderId, row.status = .active :=
    fun row member => (mem_findActiveByOrder.mp member).2.2.2
  have inRows (row : Reservation) (member : row ∈ inventory.reservations) :
      row ∈ inventory.findActiveByOrder tenantId orderId ↔ row.isActiveOf tenantId orderId = true :=
    ⟨fun found => (List.mem_filter.mp found).2, fun matched => List.mem_filter.mpr ⟨member, matched⟩⟩
  simp only [Holds, giveBackEach_reservations tenantId _ inventory active, List.mem_map, exists_exists_and_eq_and]
  constructor
  · rintro ⟨row, member, matched⟩
    split at matched
    · cases (Reservation.isActiveOf_iff.mp matched).2.2
    · rename_i kept
      refine ⟨⟨row, member, matched⟩, ?_⟩
      rintro ⟨rfl, rfl⟩
      exact kept ((inRows row member).mpr matched)
  · rintro ⟨⟨row, member, matched⟩, other⟩
    refine ⟨row, member, ?_⟩
    rw [if_neg]
    · exact matched
    · intro mine
      have matched' := (inRows row member).mp mine
      obtain ⟨tenant, order, -⟩ := Reservation.isActiveOf_iff.mp matched
      obtain ⟨tenant', order', -⟩ := Reservation.isActiveOf_iff.mp matched'
      exact other ⟨tenant.symm.trans tenant', order.symm.trans order'⟩

/-- A successful reserve leaves the tables alone, or takes all items for an
order that held none. -/
theorem ReserveStockCommand.execute_cases {command : ReserveStockCommand} {result : ReserveStockResult}
    {after : Inventory} (run : command.execute ids inventory = .ok (result, after)) :
    after = inventory ∨ ∃ items, normalizeItems command.items = .ok items ∧
      ¬ inventory.Holds command.tenantId command.orderId ∧ inventory.coversAll command.tenantId items ∧
      after = inventory.takeEach command.tenantId command.orderId ids items := by
  cases valid : normalizeItems command.items with
  | error error =>
    rw [execute_invalid valid] at run
    cases run
  | ok items =>
    by_cases held : inventory.findActiveByOrder command.tenantId command.orderId = []
    · have free := execute_free command ids valid held
      split at free
      · rename_i covers
        cases run.symm.trans free
        exact Or.inr ⟨items, rfl, fun holds => Inventory.holds_iff.mp holds held, covers, rfl⟩
      · cases run.symm.trans free
        exact Or.inl rfl
    · rw [execute_held valid held] at run
      split at run
      · cases run
        exact Or.inl rfl
      · cases run

/-- A command has one of two effects and the reply that goes with it. -/
theorem runEffect_ok {envelope : EventEnvelopeHeaders} {payload : Payload} {ids : Nat → Uuid} {inventory after : Inventory}
    {entry : OutboxCommandEntry} (run : runEffect envelope payload ids inventory = .ok (entry, after)) :
    (∃ orderId items result, envelope.eventType = .reserveStock ∧ payload = .items orderId items ∧
      ReserveStockCommand.execute { tenantId := envelope.tenantId, orderId, items } ids inventory = .ok (result, after) ∧
      entry = if result.ok then stockReservedReply orderId envelope.correlationId
        else stockReservationFailedReply orderId "insufficient stock" envelope.correlationId) ∨
    envelope.eventType = .releaseStock ∧
      ReleaseStockCommand.execute { tenantId := envelope.tenantId, orderId := payload.orderId } inventory = .ok ((), after) ∧
      entry = stockReleasedReply payload.orderId envelope.correlationId := by
  unfold runEffect at run
  split at run
  · rename_i orderId items type
    obtain ⟨⟨result, reserved⟩, executed, same⟩ := Except.bind_ok.mp run
    cases Except.pure_ok.mp same
    exact Or.inl ⟨orderId, items, result, type, rfl, executed, rfl⟩
  · rename_i type
    obtain ⟨⟨_, released⟩, executed, same⟩ := Except.bind_ok.mp run
    cases Except.pure_ok.mp same
    exact Or.inr ⟨type, executed, rfl⟩
  · cases run
  · cases run

/-- A ReserveStock for an order that holds nothing. -/
theorem runEffect_reserve_free {envelope : EventEnvelopeHeaders} {orderId : Uuid} {items normal : List ItemQty}
    (ids : Nat → Uuid) {inventory : Inventory} (type : envelope.eventType = .reserveStock)
    (valid : normalizeItems items = .ok normal) (free : ¬ inventory.Holds envelope.tenantId orderId) :
    runEffect envelope (.items orderId items) ids inventory = .ok (
      if inventory.coversAll envelope.tenantId normal then
        (stockReservedReply orderId envelope.correlationId, inventory.takeEach envelope.tenantId orderId ids normal)
      else (stockReservationFailedReply orderId "insufficient stock" envelope.correlationId, inventory)) := by
  have none : inventory.findActiveByOrder envelope.tenantId orderId = [] := by
    by_contra some
    exact free (Inventory.holds_iff.mpr some)
  have executed := ReserveStockCommand.execute_free { tenantId := envelope.tenantId, orderId, items } ids valid none
  split at executed
  · rename_i covers
    simp only [runEffect, type, executed, covers]
    rfl
  · rename_i missing
    simp only [runEffect, type, executed, missing]
    rfl

/-- A ReleaseStock. -/
theorem runEffect_release {envelope : EventEnvelopeHeaders} (payload : Payload) (ids : Nat → Uuid) {inventory : Inventory}
    (type : envelope.eventType = .releaseStock) (distinct : (inventory.reservations.map (·.id)).Nodup) :
    runEffect envelope payload ids inventory = .ok (stockReleasedReply payload.orderId envelope.correlationId,
      (inventory.findActiveByOrder envelope.tenantId payload.orderId).foldl (Inventory.giveBack envelope.tenantId)
        inventory) := by
  have executed := ReleaseStockCommand.execute_run { tenantId := envelope.tenantId, orderId := payload.orderId } distinct
  simp only [runEffect, type, executed]
  rfl

theorem Db.handleCommand_ok {db db' : Db} {envelope : EventEnvelopeHeaders} {payload : Payload} {ids : Nat → Uuid}
    {stamp : Stamp} (run : db.handleCommand envelope payload ids stamp = .ok db') :
    ∃ entry inventory, runEffect envelope payload ids db.inventory = .ok (entry, inventory) ∧
      db' = Db.appendOnce { db with inventory } envelope entry stamp := by
  obtain ⟨⟨entry, inventory⟩, effect, same⟩ := Except.bind_ok.mp run
  exact ⟨entry, inventory, effect, (Except.pure_ok.mp same).symm⟩

theorem Db.appendOnce_inventory (db : Db) (envelope : EventEnvelopeHeaders) (entry : OutboxCommandEntry) (stamp : Stamp) :
    (db.appendOnce envelope entry stamp).inventory = db.inventory := by
  unfold Db.appendOnce
  split <;> rfl

/-- The ids a call draws are new and differ from each other. -/
structure Drawn (inventory : Inventory) (ids : Nat → Uuid) : Prop where
  distinct : Function.Injective ids
  fresh : ∀ row ∈ inventory.reservations, ∀ n, row.id ≠ ids n

/-- The primary key of `reservations`. -/
def Inventory.Distinct (inventory : Inventory) : Prop := (inventory.reservations.map (·.id)).Nodup

theorem Inventory.Distinct.takeEach {inventory : Inventory} {ids : Nat → Uuid} (distinct : inventory.Distinct)
    (drawn : Drawn inventory ids) (tenantId orderId : Uuid) (items : List ItemQty) :
    (inventory.takeEach tenantId orderId ids items).Distinct := by
  rw [Distinct, takeEach_reservations, List.map_append]
  refine List.nodup_append.mpr ⟨distinct, newReservations_ids drawn.distinct items, ?_⟩
  intro id known other new same
  obtain ⟨row, member, rfl⟩ := List.mem_map.mp known
  obtain ⟨row', member', rfl⟩ := List.mem_map.mp new
  obtain ⟨-, -, -, n, at_⟩ := mem_newReservations member'
  exact drawn.fresh row member n (same.trans at_)

theorem Inventory.Distinct.giveBackEach {inventory : Inventory} (distinct : inventory.Distinct)
    (tenantId : Uuid) (rows : List Reservation) : (rows.foldl (giveBack tenantId) inventory).Distinct := by
  induction rows generalizing inventory with
  | nil => exact distinct
  | cons first rest ih =>
    refine ih ?_
    rw [Distinct, giveBack_ids]
    exact distinct

theorem ReserveStockCommand.execute_distinct {command : ReserveStockCommand} {ids : Nat → Uuid} {inventory after : Inventory}
    {result : ReserveStockResult} (drawn : Drawn inventory ids) (distinct : inventory.Distinct)
    (run : command.execute ids inventory = .ok (result, after)) : after.Distinct := by
  rcases execute_cases run with rfl | ⟨items, -, -, -, rfl⟩
  · exact distinct
  · exact distinct.takeEach drawn command.tenantId command.orderId items

theorem ReleaseStockCommand.execute_distinct {command : ReleaseStockCommand} {inventory after : Inventory}
    (distinct : inventory.Distinct) (run : command.execute inventory = .ok ((), after)) : after.Distinct := by
  rw [ReleaseStockCommand.execute_run _ distinct] at run
  cases run
  exact distinct.giveBackEach _ _

theorem runEffect_distinct {envelope : EventEnvelopeHeaders} {payload : Payload} {ids : Nat → Uuid}
    {inventory after : Inventory} {entry : OutboxCommandEntry} (drawn : Drawn inventory ids)
    (distinct : inventory.Distinct) (run : runEffect envelope payload ids inventory = .ok (entry, after)) :
    after.Distinct := by
  rcases runEffect_ok run with ⟨orderId, items, result, -, -, executed, -⟩ | ⟨-, executed, -⟩
  · exact ReserveStockCommand.execute_distinct drawn distinct executed
  · exact ReleaseStockCommand.execute_distinct distinct executed

theorem Db.handleCommand_distinct {db db' : Db} {envelope : EventEnvelopeHeaders} {payload : Payload} {ids : Nat → Uuid}
    {stamp : Stamp} (drawn : Drawn db.inventory ids) (distinct : db.inventory.Distinct)
    (run : db.handleCommand envelope payload ids stamp = .ok db') : db'.inventory.Distinct := by
  obtain ⟨entry, inventory, effect, rfl⟩ := Db.handleCommand_ok run
  rw [Db.appendOnce_inventory]
  exact runEffect_distinct drawn distinct effect

/-- What a command makes of the tables and the reply that tells of it. -/
inductive Outcome (envelope : EventEnvelopeHeaders) (ids : Nat → Uuid) (inventory : Inventory) :
    Payload → OutboxCommandEntry → Inventory → Prop
  | held {orderId items} : envelope.eventType = .reserveStock → inventory.Holds envelope.tenantId orderId →
      Outcome envelope ids inventory (.items orderId items) (stockReservedReply orderId envelope.correlationId) inventory
  | taken {orderId items normal} : envelope.eventType = .reserveStock → normalizeItems items = .ok normal →
      ¬ inventory.Holds envelope.tenantId orderId → inventory.coversAll envelope.tenantId normal →
      Outcome envelope ids inventory (.items orderId items) (stockReservedReply orderId envelope.correlationId)
        (inventory.takeEach envelope.tenantId orderId ids normal)
  | refused {orderId items} : envelope.eventType = .reserveStock → ¬ inventory.Holds envelope.tenantId orderId →
      Outcome envelope ids inventory (.items orderId items)
        (stockReservationFailedReply orderId "insufficient stock" envelope.correlationId) inventory
  | released {payload} : envelope.eventType = .releaseStock →
      Outcome envelope ids inventory payload (stockReleasedReply payload.orderId envelope.correlationId)
        ((inventory.findActiveByOrder envelope.tenantId payload.orderId).foldl (Inventory.giveBack envelope.tenantId)
          inventory)

theorem runEffect_outcome {envelope : EventEnvelopeHeaders} {payload : Payload} {ids : Nat → Uuid}
    {inventory after : Inventory} {entry : OutboxCommandEntry} (distinct : inventory.Distinct)
    (run : runEffect envelope payload ids inventory = .ok (entry, after)) :
    Outcome envelope ids inventory payload entry after := by
  rcases runEffect_ok run with ⟨orderId, items, result, type, rfl, executed, told⟩ | ⟨type, executed, rfl⟩
  · cases valid : normalizeItems items with
    | error error =>
      rw [ReserveStockCommand.execute_invalid valid] at executed
      cases executed
    | ok normal =>
      by_cases holds : inventory.Holds envelope.tenantId orderId
      · rw [ReserveStockCommand.execute_held valid (Inventory.holds_iff.mp holds)] at executed
        split at executed
        · cases executed
          exact told ▸ .held type holds
        · cases executed
      · rw [runEffect_reserve_free ids type valid holds] at run
        split at run
        · rename_i covers
          cases run
          exact .taken type valid holds covers
        · cases run
          exact .refused type holds
  · rw [ReleaseStockCommand.execute_run _ distinct] at executed
    cases executed
    exact .released type

/-- A command can give stock to its own order only. -/
theorem Outcome.holds {envelope : EventEnvelopeHeaders} {payload : Payload} {ids : Nat → Uuid}
    {inventory after : Inventory} {entry : OutboxCommandEntry} (outcome : Outcome envelope ids inventory payload entry after)
    {tenantId orderId : Uuid} (held : after.Holds tenantId orderId) :
    inventory.Holds tenantId orderId ∨ tenantId = envelope.tenantId ∧ orderId = payload.orderId := by
  cases outcome with
  | held => exact Or.inl held
  | taken _ valid =>
    obtain ⟨item, rest, rfl⟩ := List.exists_cons_of_ne_nil (normalizeItems_ne_nil valid)
    exact (inventory.takeEach_holds ..).mp held
  | refused => exact Or.inl held
  | released => exact Or.inl ((inventory.giveBackEach_holds ..).mp held).1

/-- The reply to a command is addressed like the command. -/
theorem Outcome.addressed {envelope : EventEnvelopeHeaders} {payload : Payload} {ids : Nat → Uuid}
    {inventory after : Inventory} {entry : OutboxCommandEntry} (outcome : Outcome envelope ids inventory payload entry after) :
    entry.aggregateId = payload.orderId ∧ entry.payload.orderId = payload.orderId := by
  cases outcome <;> exact ⟨rfl, rfl⟩

end FoodDelivery.InventoryService
