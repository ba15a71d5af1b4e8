import FoodDelivery.Lib.History
import FoodDelivery.Inventory.Effects

namespace FoodDelivery.InventoryService

open CommitLog Messaging

/-- What commits in the inventory service: a whole command, or the effect of
one alone, as a gRPC call has it and a command whose reply fails. -/
inductive Request
  | command (envelope : EventEnvelopeHeaders) (payload : Payload)
  | reserve (command : ReserveStockCommand)
  | release (command : ReleaseStockCommand)

inductive Serves : Request → Db → Db → Prop
  | command {db db' envelope payload ids stamp} : Drawn db.inventory ids →
      db.handleCommand envelope payload ids stamp = .ok db' → Serves (.command envelope payload) db db'
  | reserve {db command ids result inventory} : Drawn db.inventory ids →
      command.execute ids db.inventory = .ok (result, inventory) →
      Serves (.reserve command) db { db with inventory }
  | release {db command inventory} : command.execute db.inventory = .ok ((), inventory) →
      Serves (.release command) db { db with inventory }

/-- Some stock, and nothing done yet. -/
def Db.Initial (db : Db) : Prop := db.inventory.reservations = [] ∧ db.outbox = [] ∧ db.processedEvents = []

abbrev Run : List (Commit Db Request) → Db → Prop := History Db.Initial fun _ => Serves

/-- Stock rows, reservation rows and the outbox are as they were. -/
structure Db.Same (db db' : Db) : Prop where
  stock : db'.inventory.stock = db.inventory.stock
  reservations : db'.inventory.reservations = db.inventory.reservations
  outbox : db'.outbox = db.outbox

/-- The command has nothing left to do: a reserve for an order that holds
stock already, or whose lines are invalid or not all to be had; a release for
an order that holds none. -/
structure Settled (inventory : Inventory) (envelope : EventEnvelopeHeaders) (payload : Payload) : Prop where
  reserve : envelope.eventType = .reserveStock → ∀ orderId items normal, payload = .items orderId items →
    normalizeItems items = .ok normal →
      inventory.Holds envelope.tenantId orderId ∨ ¬ inventory.coversAll envelope.tenantId normal
  release : envelope.eventType = .releaseStock → ¬ inventory.Holds envelope.tenantId payload.orderId

theorem Run.distinct {log : List (Commit Db Request)} {db : Db} (run : Run log db) : db.inventory.Distinct := by
  refine History.invariant (I := fun db => db.inventory.Distinct) run ?_ ?_
  · rintro db ⟨none, -⟩
    rw [Inventory.Distinct, none]
    exact List.nodup_nil
  · intro _ _ db db' step distinct
    cases step with
    | command drawn run => exact Db.handleCommand_distinct drawn distinct run
    | reserve drawn run => exact ReserveStockCommand.execute_distinct drawn distinct run
    | release run => exact ReleaseStockCommand.execute_distinct distinct run

/-- Taking items adds rows. -/
theorem Inventory.takeEach_ne (inventory : Inventory) (tenantId orderId : Uuid) (ids : Nat → Uuid) (item : ItemQty)
    (rest : List ItemQty) :
    (inventory.takeEach tenantId orderId ids (item :: rest)).reservations ≠ inventory.reservations := by
  intro same
  have longer := congrArg List.length same
  rw [takeEach_reservations, List.length_append, newReservations, List.length_cons] at longer
  omega

/-- Once its event id is recorded a command can only have its effect again. -/
theorem Db.handleCommand_recorded {db db' : Db} {envelope : EventEnvelopeHeaders} {payload : Payload} {ids : Nat → Uuid}
    {stamp : Stamp} (recorded : envelope.eventId ∈ db.processedEvents) :
    db.handleCommand envelope payload ids stamp = .ok db' ↔ ∃ entry inventory,
      runEffect envelope payload ids db.inventory = .ok (entry, inventory) ∧ db' = { db with inventory } := by
  have kept (inventory : Inventory) (entry : OutboxCommandEntry) :
      Db.appendOnce { db with inventory } envelope entry stamp = { db with inventory } := if_pos recorded
  constructor
  · intro run
    obtain ⟨entry, inventory, effect, rfl⟩ := handleCommand_ok run
    exact ⟨entry, inventory, effect, kept inventory entry⟩
  · rintro ⟨entry, inventory, effect, rfl⟩
    refine Except.bind_ok.mpr ⟨(entry, inventory), effect, ?_⟩
    exact Except.pure_ok.mpr (kept inventory entry)

/-- The redelivery of a recorded command leaves the tables and the outbox as
they were exactly when the command has nothing left to do. -/
theorem Db.redelivery_harmless {db : Db} (distinct : db.inventory.Distinct) {envelope : EventEnvelopeHeaders}
    (payload : Payload) (recorded : envelope.eventId ∈ db.processedEvents) (ids : Nat → Uuid) (stamp : Stamp) :
    (∀ db', db.handleCommand envelope payload ids stamp = .ok db' → db.Same db') ↔
      Settled db.inventory envelope payload := by
  constructor
  · intro harmless
    refine ⟨?_, ?_⟩
    · rintro type orderId items normal rfl valid
      by_contra unsettled
      push Not at unsettled
      have effect := runEffect_reserve_free ids type valid unsettled.1
      rw [if_pos unsettled.2] at effect
      have same := harmless _ ((Db.handleCommand_recorded recorded).mpr ⟨_, _, effect, rfl⟩)
      obtain ⟨item, rest, rfl⟩ := List.exists_cons_of_ne_nil (normalizeItems_ne_nil valid)
      exact db.inventory.takeEach_ne envelope.tenantId orderId ids item rest same.reservations
    · intro type holds
      have effect := runEffect_release payload ids type distinct
      have same := harmless _ ((Db.handleCommand_recorded recorded).mpr ⟨_, _, effect, rfl⟩)
      have released := (db.inventory.giveBackEach_holds envelope.tenantId payload.orderId envelope.tenantId
        payload.orderId).mp (by rw [Inventory.Holds, same.reservations]; exact holds)
      exact released.2 ⟨rfl, rfl⟩
  · intro settled db' handled
    obtain ⟨entry, inventory, effect, rfl⟩ := (Db.handleCommand_recorded recorded).mp handled
    rcases runEffect_ok effect with ⟨orderId, items, result, type, rfl, executed, -⟩ | ⟨type, executed, -⟩
    · rcases ReserveStockCommand.execute_cases executed with rfl | ⟨normal, valid, free, covers, rfl⟩
      · exact ⟨rfl, rfl, rfl⟩
      · rcases settled.reserve type orderId items normal rfl valid with holds | missing
        · exact absurd holds free
        · exact absurd covers missing
    · rw [ReleaseStockCommand.execute_run _ distinct] at executed
      cases executed
      have none : db.inventory.findActiveByOrder envelope.tenantId payload.orderId = [] := by
        by_contra some
        exact settled.release type (Inventory.holds_iff.mpr some)
      rw [none]
      exact ⟨rfl, rfl, rfl⟩

section sample

def sampleStock : Table Stock.key :=
  Table.empty.put { key := { tenantId := "tenant", itemId := "item" }, available := 5 }

def sampleDb : Db where
  inventory := { stock := sampleStock, reservations := [] }
  outbox := []
  processedEvents := []

def sampleIds (n : Nat) : Uuid := String.ofList (List.replicate n 'r')

theorem sampleIds_injective : Function.Injective sampleIds := by
  intro m n same
  have lengths := congrArg String.length same
  simpa [sampleIds] using lengths

def sampleEnvelope (eventId : Uuid) (eventType : EventType) : EventEnvelopeHeaders where
  eventId := eventId
  eventType := eventType
  tenantId := "tenant"
  correlationId := "saga"

def sampleStamp : Stamp where
  id := "reply"
  correlationId := "saga"

def samplePayload : Payload := .items "order" [{ itemId := "item", qty := 2 }]

def reservedDb : Db :=
  (sampleDb.handleCommand (sampleEnvelope "first" .reserveStock) samplePayload sampleIds sampleStamp).toOption.getD
    sampleDb

def releasedDb : Db :=
  (reservedDb.handleCommand (sampleEnvelope "second" .releaseStock) (.order "order") (fun n => sampleIds (n + 1))
    sampleStamp).toOption.getD reservedDb

/-- A reserve and the release after it, both handled. -/
theorem sampleRun : ∃ log, Run log releasedDb := by
  have reserve : Serves (.command (sampleEnvelope "first" .reserveStock) samplePayload) sampleDb reservedDb :=
    .command ⟨sampleIds_injective, fun row absent => by cases absent⟩ rfl
  have release : Serves (.command (sampleEnvelope "second" .releaseStock) (.order "order")) reservedDb releasedDb := by
    refine .command ⟨fun m n same => Nat.succ.inj (sampleIds_injective same), ?_⟩ rfl
    intro row member n same
    rw [List.mem_singleton.mp member] at same
    exact absurd (sampleIds_injective same) (Nat.succ_ne_zero n).symm
  exact ⟨_, ((History.start ⟨rfl, rfl, rfl⟩ : Run [] sampleDb).commit reserve).commit release⟩

end sample

end FoodDelivery.InventoryService
