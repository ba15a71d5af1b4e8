import FoodDelivery.Inventory.Calls
import FoodDelivery.Inventory.Redelivery

namespace FoodDelivery.InventoryService

open Messaging CommitLog

section active

variable {inventory : Inventory}

/-- Taking items adds them to the ACTIVE rows of their order and of no other. -/
theorem Inventory.takeEach_active (inventory : Inventory) (tenantId orderId : Uuid) (ids : Nat → Uuid)
    (items : List ItemQty) (tenantId' orderId' : Uuid) :
    (inventory.takeEach tenantId orderId ids items).findActiveByOrder tenantId' orderId' =
      inventory.findActiveByOrder tenantId' orderId' ++
        if tenantId' = tenantId ∧ orderId' = orderId then newReservations tenantId orderId ids items else [] := by
  rw [findActiveByOrder, takeEach_reservations, List.filter_append, findActiveByOrder]
  congr 1
  split
  · rename_i same
    refine List.filter_eq_self.mpr fun row member => ?_
    obtain ⟨tenant, order, active, -⟩ := mem_newReservations member
    exact Reservation.isActiveOf_iff.mpr ⟨tenant.trans same.1.symm, order.trans same.2.symm, active⟩
  · rename_i different
    refine List.filter_eq_nil_iff.mpr fun row member matched => different ?_
    obtain ⟨tenant, order, -⟩ := mem_newReservations member
    obtain ⟨tenant', order', -⟩ := Reservation.isActiveOf_iff.mp matched
    exact ⟨tenant'.symm.trans tenant, order'.symm.trans order⟩

theorem newReservations_items (tenantId orderId : Uuid) (ids : Nat → Uuid) (items : List ItemQty) :
    (newReservations tenantId orderId ids items).map (·.item) = items := by
  induction items generalizing ids with
  | nil => rfl
  | cons item rest ih =>
    rw [newReservations, List.map_cons, ih]
    rfl

/-- Rows given back are no longer ACTIVE. -/
theorem active_filter (current reservations : List Reservation) (tenantId orderId : Uuid) :
    (reservations.map fun row => if row ∈ current then row.released else row).filter (fun row => row.isActiveOf tenantId orderId) =
      (reservations.filter fun row => row.isActiveOf tenantId orderId).filter fun row => row ∉ current := by
  have settled (row : Reservation) : row.released.isActiveOf tenantId orderId = false := by
    simp [Reservation.isActiveOf, Reservation.released]
  induction reservations with
  | nil => rfl
  | cons row rest ih =>
    rw [List.map_cons]
    by_cases given : row ∈ current
    · by_cases active : row.isActiveOf tenantId orderId = true
      · simp [given, settled, active, ih]
      · simp [given, settled, active, ih]
    · by_cases active : row.isActiveOf tenantId orderId = true
      · simp [given, active, ih]
      · simp [given, active, ih]

/-- The loop of a release, when some of its rows may have been given back
before: those it passes over. -/
theorem releaseEach_settles {tenantId : Uuid} {rows : List Reservation} (distinct : inventory.Distinct)
    (known : ∀ row ∈ rows, row ∈ inventory.reservations ∨ row.released ∈ inventory.reservations)
    (active : ∀ row ∈ rows, row.status = .active) (apart : (rows.map (·.id)).Nodup) :
    ∃ after, (releaseEach tenantId rows).run Statement.run inventory = .ok ((), after) ∧ after.reservations =
      inventory.reservations.map fun row => if row ∈ rows then row.released else row := by
  induction rows generalizing inventory with
  | nil => exact ⟨inventory, rfl, by simp⟩
  | cons first rest ih =>
    have first_active := active first (List.mem_cons_self ..)
    have rest_active : ∀ row ∈ rest, row.status = .active := fun row member => active row (List.mem_cons_of_mem _ member)
    have rest_known : ∀ row ∈ rest, row ∈ inventory.reservations ∨ row.released ∈ inventory.reservations :=
      fun row member => known row (List.mem_cons_of_mem _ member)
    have rest_apart := (List.nodup_cons.mp apart).2
    rcases known first (List.mem_cons_self ..) with present | gone
    · have found := Inventory.findReservation_of_mem distinct present
      have given := inventory.giveBack_reservations tenantId first
      rw [Inventory.giveBack] at given
      -- the rows still to come keep what is known of them
      have kept : ∀ row ∈ rest, row ∈ (inventory.giveBack tenantId first).reservations ∨
          row.released ∈ (inventory.giveBack tenantId first).reservations := by
        intro row member
        rw [Inventory.giveBack_reservations]
        have different : row ≠ first := by
          rintro rfl
          exact (List.nodup_cons.mp apart).1 (List.mem_map_of_mem member)
        have settled : row.released ≠ first := by
          rintro rfl
          cases first_active
        exact (rest_known row member).imp (fun old => List.mem_map.mpr ⟨row, old, if_neg different⟩)
          fun old => List.mem_map.mpr ⟨row.released, old, if_neg settled⟩
      have still : (inventory.giveBack tenantId first).Distinct := by
        rw [Inventory.Distinct, Inventory.giveBack_ids]
        exact distinct
      obtain ⟨after, run, rows⟩ := ih still kept rest_active rest_apart
      refine ⟨after, ?_, ?_⟩
      · rw [releaseEach, run_releaseIfActive _ found first_active, if_pos rfl, run_increaseAvailable]
        exact run
      · rw [rows, Inventory.giveBack_reservations, List.map_map]
        refine List.map_congr_left fun row _ => ?_
        have settled : row.released ∉ rest := by
          intro member
          have contradiction := rest_active row.released member
          cases contradiction
        by_cases same : row = first
        · subst same
          simp [settled]
        · simp [same]
    · have found : inventory.findReservation first.id = some first.released :=
        Inventory.findReservation_of_mem distinct gone
      obtain ⟨after, run, rows⟩ := ih distinct rest_known rest_active rest_apart
      refine ⟨after, ?_, ?_⟩
      · rw [releaseEach, Program.run_send_bind]
        simp only [Statement.run, Statement.answer, Statement.writes, found, Option.any_some]
        exact run
      · rw [rows]
        refine List.map_congr_left fun row member => ?_
        have different : row ≠ first := by
          rintro rfl
          have same := List.inj_on_of_nodup_map distinct member gone rfl
          rw [same] at first_active
          cases first_active
        simp [different]

end active

/-- The rows a release has read: each is still there, or given back. -/
structure Inventory.Lists (inventory : Inventory) (command : ReleaseStockCommand) (current : List Reservation) : Prop where
  apart : (current.map (·.id)).Nodup
  mine : ∀ row ∈ current, row.isActiveOf command.tenantId command.orderId = true
  known : ∀ row ∈ current, row ∈ inventory.reservations ∨ row.released ∈ inventory.reservations

namespace Service

variable {service : Service}

/-- What a call knows. The rows that came in since a reserve call has read are
not of its items, for it holds their locks. -/
def Knows (service : Service) : Call → Prop
  | .reserving command items => command ∈ service.requested ∧ normalizeItems command.items = .ok items
  | .reserveRead command items existing =>
    (command ∈ service.requested ∧ normalizeItems command.items = .ok items) ∧ (existing.map (·.itemId)).Nodup ∧
      ∀ row ∈ service.active command.tenantId command.orderId, row ∈ existing ∨ row.itemId ∉ items.map (·.itemId)
  | .releaseRead command _ current => service.inventory.Lists command current
  | _ => True

structure Invariant (service : Service) : Prop where
  distinct : service.inventory.Distinct
  single : ∀ tenantId orderId, ((service.active tenantId orderId).map (·.itemId)).Nodup
  apart : ∀ call other, call ≠ other → ∀ key ∈ (service.calls call).locks, key ∉ (service.calls other).locks
  knows : ∀ call, service.Knows (service.calls call)

theorem mem_active {tenantId orderId : Uuid} {row : Reservation} : row ∈ service.active tenantId orderId ↔
    row ∈ service.inventory.reservations ∧ row.isActiveOf tenantId orderId = true := by
  rw [active, Inventory.findActiveByOrder, List.mem_filter]

/-- What a call knows it still knows after a change that loses no row and adds
ACTIVE rows only under keys that the call does not hold. -/
theorem Knows.change {service' : Service} {stage : Call} (knows : service.Knows stage)
    (requested : service.requested ⊆ service'.requested)
    (rows : ∀ row, row ∈ service.inventory.reservations ∨ row.released ∈ service.inventory.reservations →
      row ∈ service'.inventory.reservations ∨ row.released ∈ service'.inventory.reservations)
    (added : ∀ tenantId orderId, ∀ row ∈ service'.active tenantId orderId,
      row ∈ service.active tenantId orderId ∨ row.stockKey ∉ stage.locks) : service'.Knows stage := by
  cases stage with
  | reserving command items => exact ⟨requested knows.1, knows.2⟩
  | reserveRead command items existing =>
    obtain ⟨⟨asked, valid⟩, single, late⟩ := knows
    refine ⟨⟨requested asked, valid⟩, single, ?_⟩
    intro row member
    rcases added _ _ row member with old | apart
    · exact late row old
    · refine Or.inr fun mine => apart ?_
      obtain ⟨item, wanted, same⟩ := List.mem_map.mp mine
      have tenant := (Reservation.isActiveOf_iff.mp (mem_active.mp member).2).1
      refine List.mem_map.mpr ⟨item, wanted, ?_⟩
      rw [same, ← tenant]
      rfl
  | releaseRead command keys current => exact ⟨knows.apart, knows.mine, fun row member => rows row (knows.known row member)⟩
  | _ => trivial

theorem Invariant.setCall (invariant : Invariant service) {call : Nat} {stage : Call} (knows : service.Knows stage)
    (free : ∀ other, other ≠ call → ∀ key ∈ stage.locks, key ∉ (service.calls other).locks) :
    Invariant (service.setCall call stage) := by
  have stages (other : Nat) : (service.setCall call stage).calls other = if other = call then stage else service.calls other :=
    Function.update_apply ..
  refine ⟨invariant.distinct, invariant.single, ?_, ?_⟩
  · intro first second different key
    rw [stages, stages]
    split
    · rename_i same
      rw [if_neg fun mine => different (same.trans mine.symm)]
      exact free second (fun mine => different (same.trans mine.symm)) key
    · rename_i other
      split
      · intro held mine
        exact free first other key mine held
      · exact invariant.apart first second different key
  · exact (Function.forall_update_iff service.calls fun _ => service.Knows).mpr ⟨knows, fun other _ => invariant.knows other⟩

theorem calls_of_idle {call other : Nat} {stage : Call} (found : Function.update service.calls call .idle other = stage)
    (busy : stage ≠ .idle) : service.calls other = stage := by
  rw [Function.update_apply] at found
  split at found
  · exact absurd found.symm busy
  · exact found

theorem Invariant.idle (invariant : Invariant service) (call : Nat) : Invariant (service.setCall call .idle) :=
  invariant.setCall trivial fun _ _ _ absent => absurd absent List.not_mem_nil

/-- A call that keeps its locks. -/
theorem Invariant.stay (invariant : Invariant service) {call : Nat} {stage : Call} (knows : service.Knows stage)
    (same : stage.locks = (service.calls call).locks) : Invariant (service.setCall call stage) := by
  refine invariant.setCall knows fun other different key held => ?_
  rw [same] at held
  exact invariant.apart call other different.symm key held

/-- The end of a call that changes the tables under its own locks. -/
theorem Invariant.store (invariant : Invariant service) {call : Nat} {after : Inventory} (distinct : after.Distinct)
    (single : ∀ tenantId orderId, ((after.findActiveByOrder tenantId orderId).map (·.itemId)).Nodup)
    (rows : ∀ row, row ∈ service.inventory.reservations ∨ row.released ∈ service.inventory.reservations →
      row ∈ after.reservations ∨ row.released ∈ after.reservations)
    (added : ∀ tenantId orderId, ∀ row ∈ after.findActiveByOrder tenantId orderId,
      row ∈ service.active tenantId orderId ∨ row.stockKey ∈ (service.calls call).locks) :
    Invariant { service.setCall call .idle with inventory := after } := by
  have ended := invariant.idle call
  refine ⟨distinct, single, ended.apart, (Function.forall_update_iff service.calls fun _ => Knows _).mpr ⟨trivial, ?_⟩⟩
  intro other different
  refine (invariant.knows other).change (List.Subset.refl _) rows fun tenantId orderId row member => ?_
  exact (added tenantId orderId row member).imp_right fun held => invariant.apart call other (Ne.symm different) _ held

section reserved

variable {call : Nat} {command : ReserveStockCommand} {items : List ItemQty} {existing : List Reservation} {ids : Nat → Uuid}

/-- No row of its order stands in the way of a call that has read none. -/
theorem Invariant.free (invariant : Invariant service) (stage : service.calls call = .reserveRead command items []) :
    ∀ item ∈ items, service.inventory.activeRows
      { tenantId := command.tenantId, orderId := command.orderId, itemId := item.itemId } = [] := by
  have knows := invariant.knows call
  rw [stage] at knows
  intro item member
  refine List.filter_eq_nil_iff.mpr fun row stored matched => ?_
  simp only [decide_eq_true_eq, Reservation.activeKey, ActiveKey.mk.injEq] at matched
  obtain ⟨active, tenant, order, same⟩ := matched
  have mine : row ∈ service.active command.tenantId command.orderId :=
    mem_active.mpr ⟨stored, Reservation.isActiveOf_iff.mpr ⟨tenant, order, active⟩⟩
  rcases knows.2.2 row mine with absent | apart
  · cases absent
  · exact apart (List.mem_map.mpr ⟨item, member, same.symm⟩)

/-- A reserve call leaves the tables alone, or has read no rows and takes all
its items. -/
theorem Invariant.finishes (invariant : Invariant service) (stage : service.calls call = .reserveRead command items existing)
    (ids : Nat → Uuid) :
    stored service.inventory (command.finish items existing ids service.inventory) = service.inventory ∨
      existing = [] ∧ stored service.inventory (command.finish items existing ids service.inventory) =
        service.inventory.takeEach command.tenantId command.orderId ids items := by
  have knows := invariant.knows call
  rw [stage] at knows
  by_cases none : existing = []
  · subst none
    rcases ReserveStockCommand.finish_free ids (normalizeItems_normal knows.1.2) (invariant.free stage) with
      ⟨reservationIds, run⟩ | run
    · exact Or.inr ⟨rfl, by rw [run]; rfl⟩
    · exact Or.inl (by rw [run]; rfl)
  · rw [ReserveStockCommand.finish_held none]
    split
    · exact Or.inl rfl
    · exact Or.inl rfl

theorem Invariant.taken (invariant : Invariant service) (stage : service.calls call = .reserveRead command items [])
    (drawn : Drawn service.inventory ids) : Invariant { service.setCall call .idle with
      inventory := service.inventory.takeEach command.tenantId command.orderId ids items } := by
  have knows := invariant.knows call
  rw [stage] at knows
  have normal := normalizeItems_normal knows.1.2
  have items_eq : (newReservations command.tenantId command.orderId ids items).map (·.itemId) = items.map (·.itemId) := by
    have same := congrArg (List.map (·.itemId)) (newReservations_items command.tenantId command.orderId ids items)
    rw [List.map_map] at same
    exact same
  refine invariant.store (invariant.distinct.takeEach drawn _ _ _) ?_ ?_ ?_
  · intro tenantId orderId
    rw [Inventory.takeEach_active, List.map_append]
    split
    · rename_i mine
      obtain ⟨rfl, rfl⟩ := mine
      rw [items_eq]
      refine List.nodup_append.mpr ⟨invariant.single _ _, normal.distinct, ?_⟩
      intro itemId held other wanted same
      obtain ⟨row, member, rfl⟩ := List.mem_map.mp held
      rcases knows.2.2 row member with absent | apart
      · cases absent
      · exact apart (same ▸ wanted)
    · rw [List.map_nil, List.append_nil]
      exact invariant.single tenantId orderId
  · intro row known
    rw [Inventory.takeEach_reservations]
    exact known.imp (List.mem_append_left _) (List.mem_append_left _)
  · intro tenantId orderId row member
    rw [Inventory.takeEach_active] at member
    rcases List.mem_append.mp member with old | new
    · exact Or.inl old
    · split at new
      · obtain ⟨tenant, -⟩ := mem_newReservations new
        have wanted : row.itemId ∈ items.map (·.itemId) := items_eq ▸ List.mem_map_of_mem new
        obtain ⟨item, asked, same⟩ := List.mem_map.mp wanted
        refine Or.inr ?_
        rw [stage]
        refine List.mem_map.mpr ⟨item, asked, ?_⟩
        rw [same, ← tenant]
        rfl
      · cases new

theorem Invariant.reserved (invariant : Invariant service) (stage : service.calls call = .reserveRead command items existing)
    (drawn : Drawn service.inventory ids) : Invariant { service.setCall call .idle with
      inventory := stored service.inventory (command.finish items existing ids service.inventory) } := by
  rcases invariant.finishes stage ids with same | ⟨rfl, taken⟩
  · rw [same]
    exact invariant.idle call
  · rw [taken]
    exact invariant.taken stage drawn

end reserved

section released

variable {call : Nat} {command : ReleaseStockCommand} {keys : List StockKey} {current : List Reservation} {after : Inventory}

/-- A release gives back what it has read. -/
theorem Invariant.gives (invariant : Invariant service) (stage : service.calls call = .releaseRead command keys current)
    (run : (releaseEach command.tenantId current).run Statement.run service.inventory = .ok ((), after)) :
    after.reservations = service.inventory.reservations.map (fun row => if row ∈ current then row.released else row) ∧
      ∀ tenantId orderId, after.findActiveByOrder tenantId orderId =
        (service.active tenantId orderId).filter fun row => row ∉ current := by
  have lists := invariant.knows call
  rw [stage] at lists
  have active : ∀ row ∈ current, row.status = .active :=
    fun row member => (Reservation.isActiveOf_iff.mp (lists.mine row member)).2.2
  obtain ⟨after', run', rows⟩ := releaseEach_settles invariant.distinct lists.known active lists.apart
  cases run.symm.trans run'
  refine ⟨rows, fun tenantId orderId => ?_⟩
  rw [Inventory.findActiveByOrder, rows]
  exact active_filter current service.inventory.reservations tenantId orderId

theorem Invariant.released (invariant : Invariant service) (stage : service.calls call = .releaseRead command keys current)
    (run : (releaseEach command.tenantId current).run Statement.run service.inventory = .ok ((), after)) :
    Invariant { service.setCall call .idle with inventory := after } := by
  obtain ⟨rows, active⟩ := invariant.gives stage run
  have same (row : Reservation) : (if row ∈ current then row.released else row).id = row.id := by
    split <;> rfl
  refine invariant.store ?_ ?_ ?_ ?_
  · rw [Inventory.Distinct, rows, List.map_map]
    refine (congrArg List.Nodup (List.map_congr_left fun row _ => ?_)).mpr invariant.distinct
    exact same row
  · intro tenantId orderId
    rw [active]
    exact (List.filter_sublist.map _).nodup (invariant.single tenantId orderId)
  · intro row known
    have settled : row.released.released = row.released := rfl
    rw [rows]
    by_cases given : row ∈ current
    · refine Or.inr ?_
      rcases known with present | gone
      · exact List.mem_map.mpr ⟨row, present, if_pos given⟩
      · refine List.mem_map.mpr ⟨row.released, gone, ?_⟩
        split <;> rfl
    · refine known.imp (fun present => List.mem_map.mpr ⟨row, present, if_neg given⟩) fun gone => ?_
      refine List.mem_map.mpr ⟨row.released, gone, ?_⟩
      split <;> rfl
  · intro tenantId orderId row member
    rw [active] at member
    exact Or.inl (List.mem_filter.mp member).1

end released

theorem Invariant.step (invariant : Invariant service) {service' : Service} {action : Action}
    (step : Step action service service') : Invariant service' := by
  cases step with
  | @reserve _ call command items stage valid free =>
    have asked : Invariant { service with requested := command :: service.requested } :=
      ⟨invariant.distinct, invariant.single, invariant.apart, fun call =>
        (invariant.knows call).change (List.subset_cons_self ..) (fun _ => id) fun _ _ _ => Or.inl⟩
    refine asked.setCall ⟨List.mem_cons_self .., valid⟩ fun other _ key held => free other key held
  | release stage listed some => exact invariant.setCall trivial fun _ _ _ absent => absurd absent List.not_mem_nil
  | lock stage free => exact invariant.setCall trivial fun other _ key held => free other key held
  | @selectReserve _ call command items existing stage listed =>
    have knows := invariant.knows call
    rw [stage] at knows
    refine invariant.stay ⟨knows, ?_, ?_⟩ (by rw [stage]; rfl)
    · exact (listed.map _).nodup_iff.mpr (invariant.single ..)
    · exact fun row member => Or.inl (listed.mem_iff.mpr member)
  | @selectRelease _ call command keys current stage listed =>
    refine invariant.stay ⟨?_, ?_, ?_⟩ (by rw [stage]; rfl)
    · exact (listed.map _).nodup_iff.mpr ((List.filter_sublist.map _).nodup invariant.distinct)
    · exact fun row member => (mem_active.mp (listed.mem_iff.mp member)).2
    · exact fun row member => Or.inl (mem_active.mp (listed.mem_iff.mp member)).1
  | reserved stage drawn => exact invariant.reserved stage drawn
  | released stage run => exact invariant.released stage run
  | abort call => exact invariant.idle call

/-- The ACTIVE rows of every order are none, or what one request has asked for. -/
def OneRequest (service : Service) : Prop :=
  ∀ tenantId orderId, service.active tenantId orderId = [] ∨ ∃ command ∈ service.requested, command.tenantId = tenantId ∧
    command.orderId = orderId ∧ ∃ items, normalizeItems command.items = .ok items ∧
    Contents (service.active tenantId orderId) items

/-- Rows are there, and they hold something other than what is asked for. -/
def Other (rows : List Reservation) (items : List ItemQty) : Prop := rows ≠ [] ∧ ¬ Contents rows items

/-- A reserve call that is about to end has not been overtaken: its order has
no ACTIVE rows, or those the call has read, unless it read other contents. -/
def NotOvertaken (service : Service) (call : Nat) : Prop :=
  ∀ command items existing, service.calls call = .reserveRead command items existing →
    service.active command.tenantId command.orderId = [] ∨
    (service.active command.tenantId command.orderId).Perm existing ∨ Other existing items

/-- A release has read all ACTIVE rows of its order, and they are given back
together. -/
structure Coherent (service : Service) : Prop where
  one : service.OneRequest
  whole : ∀ call command keys current, service.calls call = .releaseRead command keys current →
    (service.active command.tenantId command.orderId).Perm current ∨ ∀ row ∈ current, row ∉ service.inventory.reservations

theorem Coherent.setCall (coherent : Coherent service) {call : Nat} {stage : Call}
    (reads : ∀ command keys current, stage = .releaseRead command keys current →
      (service.active command.tenantId command.orderId).Perm current) : Coherent (service.setCall call stage) := by
  refine ⟨coherent.one, fun other command keys current found => ?_⟩
  have stages : (service.setCall call stage).calls other = if other = call then stage else service.calls other :=
    Function.update_apply ..
  rw [stages] at found
  split at found
  · exact Or.inl (reads command keys current found)
  · exact coherent.whole other command keys current found

section coherent

variable {call : Nat}

theorem Coherent.taken (invariant : Invariant service) (coherent : Coherent service) {command : ReserveStockCommand}
    {items : List ItemQty} {ids : Nat → Uuid} (stage : service.calls call = .reserveRead command items [])
    (drawn : Drawn service.inventory ids) (none : service.active command.tenantId command.orderId = []) :
    Coherent { service.setCall call .idle with
      inventory := service.inventory.takeEach command.tenantId command.orderId ids items } := by
  have knows := invariant.knows call
  rw [stage] at knows
  have ended : Coherent (service.setCall call .idle) := coherent.setCall nofun
  have active (tenantId orderId : Uuid) :=
    service.inventory.takeEach_active command.tenantId command.orderId ids items tenantId orderId
  refine ⟨fun tenantId orderId => ?_, fun other release keys current found => ?_⟩
  · simp only [Service.active, active]
    split
    · rename_i mine
      obtain ⟨rfl, rfl⟩ := mine
      refine Or.inr ⟨command, knows.1.1, rfl, rfl, items, knows.1.2, ?_⟩
      have all : service.inventory.findActiveByOrder command.tenantId command.orderId = [] := none
      rw [all, List.nil_append, Contents, newReservations_items]
    · rw [List.append_nil]
      exact ended.one tenantId orderId
  · have before : service.calls other = .releaseRead release keys current := calls_of_idle found nofun
    have lists := invariant.knows other
    rw [before] at lists
    -- new rows have ids of their own
    have unknown (row : Reservation) (member : row ∈ current) (absent : row ∉ service.inventory.reservations) :
        row ∉ (service.inventory.takeEach command.tenantId command.orderId ids items).reservations := by
      rw [Inventory.takeEach_reservations, List.mem_append, not_or]
      refine ⟨absent, fun new => ?_⟩
      obtain ⟨-, -, -, n, same⟩ := mem_newReservations new
      exact drawn.fresh row.released ((lists.known row member).resolve_left absent) n same
    rcases coherent.whole other release keys current before with all | gone
    · by_cases mine : release.tenantId = command.tenantId ∧ release.orderId = command.orderId
      · rw [mine.1, mine.2, none] at all
        cases all.nil_eq
        exact Or.inr fun row absent => absurd absent List.not_mem_nil
      · refine Or.inl ?_
        simp only [Service.active, active, if_neg mine, List.append_nil]
        exact all
    · exact Or.inr fun row member => unknown row member (gone row member)

theorem Coherent.released (invariant : Invariant service) (coherent : Coherent service) {command : ReleaseStockCommand}
    {keys : List StockKey} {current : List Reservation} {after : Inventory}
    (stage : service.calls call = .releaseRead command keys current)
    (run : (releaseEach command.tenantId current).run Statement.run service.inventory = .ok ((), after)) :
    Coherent { service.setCall call .idle with inventory := after } := by
  obtain ⟨rows, active⟩ := invariant.gives stage run
  have lists := invariant.knows call
  rw [stage] at lists
  have ended : Coherent (service.setCall call .idle) := coherent.setCall nofun
  -- an ACTIVE row that is left was there and has not been read
  have left (row : Reservation) (now : row.status = .active) (member : row ∈ after.reservations) :
      row ∈ service.inventory.reservations ∧ row ∉ current := by
    rw [rows] at member
    obtain ⟨old, stored, same⟩ := List.mem_map.mp member
    split at same
    · rw [← same] at now
      cases now
    · exact same ▸ ⟨stored, ‹_›⟩
  have kept (tenantId orderId : Uuid) (apart : ∀ row ∈ service.active tenantId orderId, row ∉ current) :
      after.findActiveByOrder tenantId orderId = service.active tenantId orderId := by
    rw [active]
    exact List.filter_eq_self.mpr fun row member => decide_eq_true (apart row member)
  have either (tenantId orderId : Uuid) : after.findActiveByOrder tenantId orderId = service.active tenantId orderId ∨
      after.findActiveByOrder tenantId orderId = [] ∧ ∀ row ∈ service.active tenantId orderId, row ∈ current := by
    rcases coherent.whole call command keys current stage with all | gone
    · by_cases mine : tenantId = command.tenantId ∧ orderId = command.orderId
      · obtain ⟨rfl, rfl⟩ := mine
        have read : ∀ row ∈ service.active command.tenantId command.orderId, row ∈ current := fun row => all.mem_iff.mp
        refine Or.inr ⟨?_, read⟩
        rw [active]
        exact List.filter_eq_nil_iff.mpr fun row member => by simp [read row member]
      · refine Or.inl (kept tenantId orderId fun row member given => mine ?_)
        obtain ⟨tenant, order, -⟩ := Reservation.isActiveOf_iff.mp (mem_active.mp member).2
        obtain ⟨tenant', order', -⟩ := Reservation.isActiveOf_iff.mp (lists.mine row given)
        exact ⟨tenant.symm.trans tenant', order.symm.trans order'⟩
    · exact Or.inl (kept tenantId orderId fun row member given => gone row given (mem_active.mp member).1)
  refine ⟨fun tenantId orderId => ?_, fun other release keys' current' found => ?_⟩
  · rcases either tenantId orderId with same | ⟨none, -⟩
    · simp only [Service.active, same]
      exact ended.one tenantId orderId
    · exact Or.inl none
  · have before : service.calls other = .releaseRead release keys' current' := calls_of_idle found nofun
    have lists' := invariant.knows other
    rw [before] at lists'
    have now (row : Reservation) (member : row ∈ current') : row.status = .active :=
      (Reservation.isActiveOf_iff.mp (lists'.mine row member)).2.2
    rcases coherent.whole other release keys' current' before with all | gone
    · rcases either release.tenantId release.orderId with same | ⟨-, read⟩
      · exact Or.inl (by simpa only [Service.active, same] using all)
      · refine Or.inr fun row member stored => ?_
        exact (left row (now row member) stored).2 (read row (all.mem_iff.mpr member))
    · exact Or.inr fun row member stored => gone row member (left row (now row member) stored).1

end coherent

/-- A step keeps the ACTIVE rows to one request if it ends no overtaken call. -/
theorem Coherent.step (invariant : Invariant service) (coherent : Coherent service) {service' : Service} {action : Action}
    (step : Step action service service')
    (calm : ∀ call outcome, action = .reserved call outcome → service.NotOvertaken call) : Coherent service' := by
  cases step with
  | @reserve _ call command items stage valid free =>
    have asked : Coherent { service with requested := command :: service.requested } := by
      refine ⟨fun tenantId orderId => (coherent.one tenantId orderId).imp_right ?_, coherent.whole⟩
      rintro ⟨known, member, rest⟩
      exact ⟨known, List.mem_cons_of_mem _ member, rest⟩
    exact asked.setCall nofun
  | release stage listed some => exact coherent.setCall nofun
  | lock stage free => exact coherent.setCall nofun
  | selectReserve stage listed => exact coherent.setCall nofun
  | selectRelease stage listed =>
    refine coherent.setCall fun _ _ _ same => ?_
    cases same
    exact listed.symm
  | @reserved _ call command items existing ids stage drawn =>
    rcases invariant.finishes stage ids with same | ⟨rfl, taken⟩
    · rw [same]
      exact coherent.setCall nofun
    · have none : service.active command.tenantId command.orderId = [] := by
        rcases calm call _ rfl command items [] stage with none | same | other
        · exact none
        · exact same.eq_nil
        · exact absurd rfl other.1
      rw [taken]
      exact coherent.taken invariant stage drawn none
  | released stage run => exact coherent.released invariant stage run
  | abort call => exact coherent.setCall nofun

end Service

/-- Runs from any stock with no reservations yet. -/
structure Service.Initial (service : Service) : Prop where
  reservations : service.inventory.reservations = []
  calls : service.calls = fun _ => .idle

abbrev Service.Run : List (Commit Service Action) → Service → Prop := History Service.Initial fun _ => Step

/-- A reserve call that has asked for other contents than are ACTIVE, when it
reads or when it ends, fails with the conflict. -/
def Answered (commit : Commit Service Action) : Prop :=
  ∀ call outcome command items existing, commit.act = .reserved call outcome →
    commit.before.calls call = .reserveRead command items existing →
    Service.Other existing items ∨ Service.Other (commit.before.active command.tenantId command.orderId) items →
    outcome = .error (.idempotencyConflict command.orderId)

/-- The step ends no reserve call that has been overtaken. -/
def Calm (commit : Commit Service Action) : Prop :=
  ∀ call outcome, commit.act = .reserved call outcome → commit.before.NotOvertaken call

section run

variable {log : List (Commit Service Action)} {service : Service}

theorem Service.Initial.invariant (initial : service.Initial) : service.Invariant ∧ service.Coherent := by
  have none (tenantId orderId : Uuid) : service.active tenantId orderId = [] := by
    rw [Service.active, Inventory.findActiveByOrder, initial.reservations]
    rfl
  have idle (call : Nat) : service.calls call = .idle := congrFun initial.calls call
  refine ⟨⟨?_, ?_, ?_, ?_⟩, fun tenantId orderId => Or.inl (none tenantId orderId), ?_⟩
  · simp [Inventory.Distinct, initial.reservations]
  · simp [none]
  · simp [idle, Call.locks]
  · intro call
    rw [idle]
    trivial
  · simp [idle]

theorem Service.Invariant.of_run (run : Service.Run log service) : service.Invariant :=
  run.invariant (fun _ initial => initial.invariant.1) fun _ _ _ _ step invariant => invariant.step step

/-- A call that has not been overtaken has read what there is, if that is
something other than it asks for. -/
theorem Service.NotOvertaken.other {call : Nat} {command : ReserveStockCommand} {items : List ItemQty}
    {existing : List Reservation} (calm : service.NotOvertaken call)
    (stage : service.calls call = .reserveRead command items existing)
    (other : Service.Other existing items ∨ Service.Other (service.active command.tenantId command.orderId) items) :
    Service.Other existing items := by
  rcases other with read | now
  · exact read
  · rcases calm command items existing stage with none | same | read
    · exact absurd none now.1
    · refine ⟨fun absent => now.1 ?_, fun matched => now.2 ((Contents.perm same).mpr matched)⟩
      rw [absent] at same
      exact same.eq_nil
    · exact read

/-- A call that has been overtaken, and has not read other contents, finds
other contents now. -/
theorem Service.Invariant.overtaken (invariant : service.Invariant) {call : Nat} {command : ReserveStockCommand}
    {items : List ItemQty} {existing : List Reservation} (stage : service.calls call = .reserveRead command items existing)
    (some : service.active command.tenantId command.orderId ≠ [])
    (moved : ¬ (service.active command.tenantId command.orderId).Perm existing) (read : ¬ Service.Other existing items) :
    Service.Other (service.active command.tenantId command.orderId) items := by
  have knows := invariant.knows call
  rw [stage] at knows
  refine ⟨some, fun matched => ?_⟩
  have known : ∀ row ∈ service.active command.tenantId command.orderId, row ∈ existing := by
    intro row member
    refine (knows.2.2 row member).resolve_right fun apart => apart ?_
    have wanted : row.item ∈ items := matched.mem_iff.mp (List.mem_map_of_mem member)
    exact List.mem_map.mpr ⟨row.item, wanted, rfl⟩
  have nodup : (service.active command.tenantId command.orderId).Nodup := List.Nodup.of_map _ (invariant.single ..)
  have sub := List.subperm_of_subset nodup known
  by_cases none : existing = []
  · rw [none, List.subperm_nil] at sub
    exact some sub
  · have same : Contents existing items := by
      by_contra other
      exact read ⟨none, other⟩
    have lengths : existing.length = (service.active command.tenantId command.orderId).length := by
      have first := same.length_eq
      have second := matched.length_eq
      simp only [List.length_map] at first second
      omega
    exact moved (sub.perm_of_length_le (by omega))

/-- What a call that has not read other contents ends with is no conflict. -/
theorem Service.Invariant.ends (invariant : service.Invariant) {call : Nat} {command : ReserveStockCommand}
    {items : List ItemQty} {existing : List Reservation} (stage : service.calls call = .reserveRead command items existing)
    (ids : Nat → Uuid) (read : ¬ Service.Other existing items) :
    (command.finish items existing ids service.inventory).map Prod.fst ≠ .error (.idempotencyConflict command.orderId) := by
  have knows := invariant.knows call
  rw [stage] at knows
  have normal := normalizeItems_normal knows.1.2
  by_cases none : existing = []
  · subst none
    rcases ReserveStockCommand.finish_free ids normal (invariant.free stage) with ⟨reservationIds, run⟩ | run
    · rw [run]
      nofun
    · rw [run]
      nofun
  · have same : Contents existing items := by
      by_contra other
      exact read ⟨none, other⟩
    rw [ReserveStockCommand.finish_same knows.2.1 normal.distinct none same]
    nofun

theorem Service.Invariant.answered_iff (invariant : service.Invariant) {service' : Service} {action : Action}
    (step : Step action service service') : Answered ⟨service, action, service'⟩ ↔ Calm ⟨service, action, service'⟩ := by
  constructor
  · rintro answered call outcome rfl command items existing stage
    by_contra overtaken
    push Not at overtaken
    obtain ⟨some, moved, read⟩ := overtaken
    have now := invariant.overtaken stage some moved read
    have conflict := answered call outcome command items existing rfl stage (Or.inr now)
    cases step with
    | reserved stage' drawn =>
      cases stage.symm.trans stage'
      exact invariant.ends stage _ read conflict
  · rintro calm call outcome command items existing rfl stage other
    have read := (calm call outcome rfl).other stage other
    have knows := invariant.knows call
    rw [stage] at knows
    cases step with
    | reserved stage' drawn =>
      cases stage.symm.trans stage'
      rw [ReserveStockCommand.finish_other knows.2.1 (normalizeItems_normal knows.1.2).distinct read.1 read.2]
      rfl

/-- The ACTIVE rows of an order come from one request in every state, and
every call that asked for others fails with the conflict, exactly in the runs
in which no reserve call is overtaken between its select and its end. -/
theorem Service.Run.one_request_iff (run : Service.Run log service) :
    ((∀ s, Seen log service s → s.OneRequest) ∧ ∀ commit ∈ log, Answered commit) ↔ ∀ commit ∈ log, Calm commit := by
  have each : ∀ commit ∈ log, (Answered commit ↔ Calm commit) :=
    run.forall_commits fun _ _ _ _ previous step => (Service.Invariant.of_run previous).answered_iff step
  constructor
  · rintro ⟨-, answered⟩ commit member
    exact (each commit member).mp (answered commit member)
  · intro calm
    refine ⟨fun s seen => ?_, fun commit member => (each commit member).mpr (calm commit member)⟩
    have both : ∀ p, Seen log service p → p.Invariant ∧ p.Coherent := by
      refine run.invariant_of (fun _ initial => initial.invariant) ?_ calm
      rintro _ action before after step now ⟨invariant, coherent⟩
      exact ⟨invariant.step step, coherent.step invariant step now⟩
    exact (both s seen).2.one

end run

section samples

def menu : Table Stock.key :=
  (Table.empty.put { key := { tenantId := "tenant", itemId := "soup" }, available := 5 }).put
    { key := { tenantId := "tenant", itemId := "bread" }, available := 5 }

def oneOf (itemId : Uuid) : ReserveStockCommand where
  tenantId := "tenant"
  orderId := "order"
  items := [{ itemId, qty := 1 }]

def openService : Service where
  inventory := { stock := menu, reservations := [] }
  calls _ := .idle
  requested := []

def begunService : Service :=
  { openService.setCall 0 (.reserving (oneOf "soup") [{ itemId := "soup", qty := 1 }]) with requested := [oneOf "soup"] }

/-- Two requests for one order, without a common item, have both read that it
holds nothing. -/
def racingService : Service :=
  ({ begunService.setCall 1 (.reserving (oneOf "bread") [{ itemId := "bread", qty := 1 }]) with
      requested := [oneOf "bread", oneOf "soup"] }.setCall
    0 (.reserveRead (oneOf "soup") [{ itemId := "soup", qty := 1 }] [])).setCall
    1 (.reserveRead (oneOf "bread") [{ itemId := "bread", qty := 1 }] [])

theorem racingRun : ∃ log, Service.Run log racingService ∧ ∀ commit ∈ log, Calm commit := by
  have start : Service.Run [] openService := History.start ⟨rfl, rfl⟩
  have first : Step (.reserve 0 (oneOf "soup")) openService begunService :=
    .reserve rfl rfl (by simp [Service.Free, openService, Call.locks])
  have free : begunService.Free (lockKeys "tenant" [{ itemId := "bread", qty := 1 }]) := by
    intro call
    by_cases same : call = 0
    · subst same
      decide
    · have idle : begunService.calls call = .idle := Function.update_of_ne same ..
      simp [idle, Call.locks]
  have second : Step (.reserve 1 (oneOf "bread")) begunService _ := .reserve rfl rfl free
  have third : Step (.select 0) { begunService.setCall 1 (.reserving (oneOf "bread") [{ itemId := "bread", qty := 1 }]) with
      requested := [oneOf "bread", oneOf "soup"] } _ := .selectReserve rfl (List.Perm.refl _)
  have fourth : Step (.select 1) _ racingService := .selectReserve rfl (List.Perm.refl _)
  refine ⟨_, (((start.commit first).commit second).commit third).commit fourth, ?_⟩
  simp [Calm]

theorem racingDrawn : Drawn racingService.inventory sampleIds := ⟨sampleIds_injective, by simp [racingService,
  Service.setCall, begunService, openService]⟩

/-- The call that ends first finds the order as it has read it. -/
theorem one_request_of_lone_sample : ∃ log service, Service.Run log service ∧
    (service.active "tenant" "order").map (·.itemId) = ["soup"] ∧
    (∀ s, Seen log service s → s.OneRequest) ∧ ∀ commit ∈ log, Answered commit := by
  obtain ⟨log, run, calm⟩ := racingRun
  have ended : Step (.reserved 0 _) racingService _ := .reserved rfl racingDrawn
  refine ⟨_, _, run.commit ended, rfl, Service.Run.one_request_iff (run.commit ended) |>.mpr ?_⟩
  refine List.forall_mem_cons.mpr ⟨?_, calm⟩
  rintro call outcome - command items existing -
  exact Or.inl rfl

def halfService : Service :=
  let outcome := (oneOf "soup").finish [{ itemId := "soup", qty := 1 }] [] sampleIds racingService.inventory
  { racingService.setCall 0 .idle with inventory := stored racingService.inventory outcome }

/-- The second ends as if the order held nothing. -/
theorem two_requests_reserved : ∃ log service, Service.Run log service ∧ ¬ service.OneRequest := by
  obtain ⟨log, run, -⟩ := racingRun
  have ended : Step (.reserved 0 _) racingService halfService := .reserved rfl racingDrawn
  have drawn : Drawn halfService.inventory fun n => sampleIds (n + 1) := by
    refine ⟨fun m n same => Nat.succ.inj (sampleIds_injective same), fun row member n same => ?_⟩
    rw [List.mem_singleton.mp member] at same
    exact absurd (sampleIds_injective same) (Nat.succ_ne_zero n).symm
  have both : Step (.reserved 1 _) halfService _ := .reserved rfl drawn
  refine ⟨_, _, (run.commit ended).commit both, fun one => ?_⟩
  rcases one "tenant" "order" with none | ⟨command, asked, -, -, items, valid, contents⟩
  · cases none
  · have single : items.length = 1 := by
      rcases List.mem_cons.mp asked with rfl | rest
      · cases valid
        rfl
      · cases List.mem_singleton.mp rest
        cases valid
        rfl
    have lengths := contents.length_eq
    rw [single] at lengths
    cases lengths

end samples

end FoodDelivery.InventoryService
