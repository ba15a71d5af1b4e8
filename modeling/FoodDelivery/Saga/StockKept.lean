import FoodDelivery.Inventory.HeldItems
import FoodDelivery.Order.Requests
import FoodDelivery.Saga.StockLeak

namespace FoodDelivery.StockSaga

open Messaging CommitLog InventoryService
open OrderService (View Progress SagaState)

/-- The order holds under the tenant what it was placed for, each item once. -/
def System.HoldsItems (system : System) (tenantId orderId : Uuid) : Prop :=
  ∃ order, system.order.orders.find orderId = some order ∧ order.tenantId = tenantId ∧
    normalizeItems order.itemQtys = .ok (system.inventory.inventory.heldItems tenantId orderId)

/-- Stock is held whole or not at all, and is there as long as the order counts on it. -/
structure System.Stocked (system : System) : Prop where
  whole : ∀ tenantId orderId, system.inventory.inventory.Holds tenantId orderId → system.HoldsItems tenantId orderId
  reserved : ∀ orderId saga, system.order.sagas.find orderId = some saga →
    saga.state = .stockReserved ∨ saga.state = .completed → system.HoldsItems saga.tenantId orderId
  confirmed : ∀ orderId order, system.order.orders.find orderId = some order → order.status = .confirmed →
    system.HoldsItems order.tenantId orderId

/-- What is true of one order: once its stock is reserved, and that is owed
or told to it, the stock is there until a release is sent. -/
structure Backed (orderId : Uuid) (view : View) (owed : Option OutboxCommandEntry) (replies : List OutboxRow)
    (holds : Uuid → Prop) : Prop where
  lawful : view.Lawful orderId
  addressed : ∀ row ∈ replies, row.payload.orderId = orderId
  owes : ∀ entry, owed = some entry → entry.aggregateId = orderId ∧ entry.payload.orderId = orderId
  reserved : view.state = some .stockReserved ∨ view.state = some .completed →
    ∃ row ∈ replies, row.eventType = .stockReserved
  told : ∀ row ∈ replies, row.eventType = .stockReserved →
    (∀ row ∈ sentOn view.rows .inventoryCommands, row.eventType ≠ .releaseStock) →
    ∃ tenantId, view.tenantId = some tenantId ∧ holds tenantId
  owing : ∀ entry, owed = some entry → entry.eventType = .stockReserved →
    (∀ row ∈ sentOn view.rows .inventoryCommands, row.eventType ≠ .releaseStock) →
    ∃ tenantId, view.tenantId = some tenantId ∧ holds tenantId

namespace Backed

variable {orderId : Uuid} {view : View} {owed : Option OutboxCommandEntry} {replies : List OutboxRow} {holds : Uuid → Prop}

/-- A saga that counts on its stock has it. -/
theorem stands (backed : Backed orderId view owed replies holds) {state : SagaState} (atState : view.state = some state)
    (counts : state = .stockReserved ∨ state = .completed) : ∃ tenantId, view.tenantId = some tenantId ∧ holds tenantId := by
  obtain ⟨tenantId, -, commands⟩ := backed.lawful.commands state atState
  have going : state ≠ .compensating ∧ state ≠ .cancelled := by rcases counts with rfl | rfl <;> decide
  have reserved : view.state = some .stockReserved ∨ view.state = some .completed := by
    rcases counts with rfl | rfl
    · exact Or.inl atState
    · exact Or.inr atState
  obtain ⟨row, member, type⟩ := backed.reserved reserved
  exact backed.told row member type (commands.unreleased going)

/-- Holding more is as good. -/
theorem more (backed : Backed orderId view owed replies holds) {holds' : Uuid → Prop}
    (kept : ∀ tenantId, holds tenantId → holds' tenantId) : Backed orderId view owed replies holds' where
  lawful := backed.lawful
  addressed := backed.addressed
  owes := backed.owes
  reserved := backed.reserved
  told row member type unreleased := by
    obtain ⟨tenantId, known, held⟩ := backed.told row member type unreleased
    exact ⟨tenantId, known, kept tenantId held⟩
  owing entry due type unreleased := by
    obtain ⟨tenantId, known, held⟩ := backed.owing entry due type unreleased
    exact ⟨tenantId, known, kept tenantId held⟩

/-- The order moves on; that its stock is reserved it knows from one of the replies. -/
theorem progress (backed : Backed orderId view owed replies holds) {act : OrderService.Transaction} {view' : View}
    (progress : Progress orderId act view view')
    (heard : ∀ envelope now stamp, act = .reply .inventory envelope orderId now stamp →
      envelope.eventType = .stockReserved → ∃ row ∈ replies, row.eventType = .stockReserved) :
    Backed orderId view' owed replies holds := by
  have before (unreleased : ∀ row ∈ sentOn view'.rows .inventoryCommands, row.eventType ≠ .releaseStock) :
      ∀ row ∈ sentOn view.rows .inventoryCommands, row.eventType ≠ .releaseStock :=
    fun row member => unreleased row ((progress.grows.filter _).subset member)
  refine ⟨progress.lawful backed.lawful, backed.addressed, backed.owes, ?_, ?_, ?_⟩
  · intro counts
    rcases progress.reserved counts with already | ⟨envelope, now, stamp, same, type⟩
    · exact backed.reserved already
    · exact heard envelope now stamp same type
  · intro row member type unreleased
    obtain ⟨tenantId, known, held⟩ := backed.told row member type (before unreleased)
    exact ⟨tenantId, progress.tenantId known, held⟩
  · intro entry due type unreleased
    obtain ⟨tenantId, known, held⟩ := backed.owing entry due type (before unreleased)
    exact ⟨tenantId, progress.tenantId known, held⟩

/-- A consumer may go back. -/
theorem rewind (backed : Backed orderId view owed replies holds) : Backed orderId view none replies holds where
  lawful := backed.lawful
  addressed := backed.addressed
  owes _ absent := by cases absent
  reserved := backed.reserved
  told := backed.told
  owing _ absent := by cases absent

/-- The effect of a command has committed. -/
theorem owe (backed : Backed orderId view owed replies holds) {row : OutboxRow} {entry : OutboxCommandEntry}
    {holds' : Uuid → Prop} (sent : row ∈ sentOn view.rows .inventoryCommands)
    (addressed : entry.aggregateId = orderId ∧ entry.payload.orderId = orderId)
    (kept : ∀ tenantId, holds tenantId → holds' tenantId ∨ row.eventType = .releaseStock)
    (reserved : entry.eventType = .stockReserved → holds' row.tenantId) :
    Backed orderId view (some entry) replies holds' := by
  refine ⟨backed.lawful, backed.addressed, ?_, backed.reserved, ?_, ?_⟩
  · intro other same
    cases same
    exact addressed
  · intro told member type unreleased
    obtain ⟨tenantId, known, held⟩ := backed.told told member type unreleased
    exact ⟨tenantId, known, (kept tenantId held).resolve_right (unreleased row sent)⟩
  · intro other same type _
    cases same
    exact ⟨row.tenantId, (backed.lawful.command sent).1, reserved type⟩

/-- The reply that was owed has committed. -/
theorem reply {entry : OutboxCommandEntry} (backed : Backed orderId view (some entry) replies holds)
    {replies' : List OutboxRow} (kept : replies ⊆ replies')
    (new : ∀ row ∈ replies', row ∈ replies ∨ row.eventType = entry.eventType ∧ row.payload = entry.payload) :
    Backed orderId view none replies' holds := by
  refine ⟨backed.lawful, ?_, ?_, ?_, ?_, ?_⟩
  · intro row member
    rcases new row member with old | ⟨-, same⟩
    · exact backed.addressed row old
    · rw [same]
      exact (backed.owes entry rfl).2
  · intro other absent
    cases absent
  · intro counts
    obtain ⟨row, member, type⟩ := backed.reserved counts
    exact ⟨row, kept member, type⟩
  · intro row member type
    rcases new row member with old | ⟨same, -⟩
    · exact backed.told row old type
    · exact backed.owing entry rfl (same.symm.trans type)
  · intro other absent
    cases absent

end Backed

/-- No cancel or confirm call has moved an order. -/
def System.Uncalled (system : System) : Prop := ∀ c ∈ system.orderLog, ¬ c.act.BypassesSaga c.before

/-- What is true of both services between the steps, whatever is delivered again. -/
structure Supplied (system : System) : Prop where
  order : OrderService.Run system.orderLog system.order
  agreement : system.Uncalled → system.order.Agreement
  distinct : system.inventory.inventory.Distinct
  whole : ∀ tenantId orderId, system.inventory.inventory.Holds tenantId orderId → system.HoldsItems tenantId orderId
  backed : ∀ orderId, Backed orderId (system.order.view orderId) (system.owed orderId) (system.replies orderId)
    fun tenantId => system.inventory.inventory.Holds tenantId orderId

namespace Supplied

/-- A saga that counts on its stock has it. -/
theorem reserved {system : System} (supplied : Supplied system) {orderId : Uuid} {saga : OrderService.OrderSaga}
    (found : system.order.sagas.find orderId = some saga) (counts : saga.state = .stockReserved ∨ saga.state = .completed) :
    system.HoldsItems saga.tenantId orderId := by
  have atState : (system.order.view orderId).state = some saga.state := by
    show (system.order.sagas.find orderId).map (·.state) = some saga.state
    rw [found, Option.map_some]
  have atTenant : (system.order.view orderId).tenantId = some saga.tenantId := by
    show (system.order.sagas.find orderId).map (·.tenantId) = some saga.tenantId
    rw [found, Option.map_some]
  obtain ⟨tenantId, known, held⟩ := (supplied.backed orderId).stands atState counts
  cases atTenant.symm.trans known
  exact supplied.whole _ orderId held

theorem stocked {system : System} (supplied : Supplied system) (uncalled : system.Uncalled) : system.Stocked := by
  refine ⟨supplied.whole, fun _ _ => supplied.reserved, ?_⟩
  intro orderId order found confirmed
  have tenant := supplied.order.sameTenant orderId order.tenantId (congrArg (Option.map (·.tenantId)) found)
  obtain ⟨saga, sagaFound, same⟩ := Option.map_eq_some_iff.mp tenant
  have agrees := supplied.agreement uncalled orderId order.status saga.state
    (by rw [OrderService.Db.status, found, Option.map_some]) (by rw [OrderService.Db.sagaState, sagaFound, Option.map_some])
  exact same ▸ supplied.reserved sagaFound (Or.inr (agrees.2.2.1.mp confirmed))

theorem initial {system : System} (initial : system.Initial) : Supplied system := by
  have none : system.inventory.inventory.reservations = [] := initial.inventory.1
  have free (tenantId orderId : Uuid) : ¬ system.inventory.inventory.Holds tenantId orderId := by
    rintro ⟨row, member, -⟩
    rw [none] at member
    cases member
  have noReplies (orderId : Uuid) : system.replies orderId = [] := by
    rw [System.replies, initial.inventory.2.1]
    rfl
  refine ⟨?_, ?_, ?_, fun tenantId orderId held => absurd held (free tenantId orderId), ?_⟩
  · rw [initial.order, initial.orderLog]
    exact .start rfl
  · rw [initial.order]
    intro _ orderId status state absent
    cases absent
  · rw [Inventory.Distinct, none]
    exact List.nodup_nil
  · intro orderId
    rw [initial.order, initial.owed, noReplies]
    have empty : OrderService.Db.empty.view orderId = ⟨Option.none, Option.none, Option.none, []⟩ := rfl
    rw [empty]
    refine ⟨⟨fun _ => rfl, ?_⟩, ?_, ?_, ?_, ?_, ?_⟩
    · intro state absent
      cases absent
    · intro row absent
      cases absent
    · intro entry absent
      cases absent
    · rintro (absent | absent) <;> cases absent
    · intro row absent
      cases absent
    · intro entry absent
      cases absent

/-- The order service commits; what is held was asked for before. -/
theorem commit {system : System} {act : OrderService.Transaction} {db : OrderService.Db} (supplied : Supplied system)
    (next : OrderService.commits (Seen system.orderLog system.order) act system.order db)
    (heard : ∀ orderId envelope now stamp, act = .reply .inventory envelope orderId now stamp →
      envelope.eventType = .stockReserved → ∃ row ∈ system.replies orderId, row.eventType = .stockReserved)
    (replyOffset : Uuid → Nat) :
    Supplied { system with order := db, orderLog := ⟨system.order, act, db⟩ :: system.orderLog, replyOffset } := by
  obtain ⟨reads, later, effect⟩ := OrderService.Run.effect supplied.order next
  refine ⟨.commit supplied.order next, ?_, supplied.distinct, ?_, fun orderId => (supplied.backed orderId).progress (effect.progress later orderId) (heard orderId)⟩
  · intro uncalled
    obtain ⟨lawful, before⟩ := List.forall_mem_cons.mp uncalled
    exact (effect.agreement_iff supplied.order.paired (supplied.agreement before)).mpr lawful
  · intro tenantId orderId held
    obtain ⟨order, found, tenant, normal⟩ := supplied.whole tenantId orderId held
    obtain ⟨order', stands, same⟩ := effect.later.order found
    exact ⟨order', stands, (OrderService.Order.terms_tenantId same).trans tenant,
      (OrderService.Order.terms_itemQtys same).symm ▸ normal⟩

/-- The effect of a command commits. -/
theorem effect {system : System} {orderId : Uuid} {row : OutboxRow} {ids : Nat → Uuid} {entry : OutboxCommandEntry}
    {inventory : Inventory} (supplied : Supplied system) (sent : row ∈ system.commands orderId)
    (drawn : Drawn system.inventory.inventory ids)
    (run : runEffect row.envelope row.payload ids system.inventory.inventory = .ok (entry, inventory)) :
    Supplied { system with
      inventory := { system.inventory with inventory }
      owed := Function.update system.owed orderId (some entry) } := by
  have outcome := runEffect_outcome supplied.distinct run
  obtain ⟨known, mine⟩ := (supplied.backed orderId).lawful.command sent
  refine ⟨supplied.order, supplied.agreement, runEffect_distinct drawn supplied.distinct run, ?_, ?_⟩
  · intro tenantId other held
    rcases outcome.heldItems tenantId other with same | none | ⟨rfl, type, items, payload, normal⟩
    · have before : system.inventory.inventory.Holds tenantId other := by
        by_contra free
        exact Inventory.heldItems_eq_nil.mp (same.trans (Inventory.heldItems_eq_nil.mpr free)) held
      obtain ⟨order, found, tenant, normal⟩ := supplied.whole tenantId other before
      exact ⟨order, found, tenant, normal.trans (congrArg _ same.symm)⟩
    · exact absurd held (Inventory.heldItems_eq_nil.mp none)
    · obtain ⟨rows, -⟩ := mem_sentOn.mp sent
      have reserve : row.eventType ≠ .releaseStock := by
        intro release
        cases release.symm.trans type
      obtain ⟨order, found, tells⟩ := supplied.order.speaks row (mem_rowsOf.mp rows).1 reserve
      rw [payload] at found tells mine
      obtain rfl : other = orderId := mine
      have tenant := supplied.order.sameTenant other order.tenantId (congrArg (Option.map (·.tenantId)) found)
      exact ⟨order, found, Option.some.inj (tenant.symm.trans known), tells ▸ normal⟩
  · intro other
    show Backed other (system.order.view other) (Function.update system.owed orderId (some entry) other)
      (system.replies other) fun tenantId => inventory.Holds tenantId other
    by_cases same : other = orderId
    · subst same
      rw [Function.update_self]
      refine (supplied.backed other).owe sent (mine ▸ outcome.addressed) ?_ fun told => mine ▸ outcome.reserved told
      exact fun tenantId held => (outcome.kept held).imp_right And.left
    · rw [Function.update_of_ne same]
      refine (supplied.backed other).more fun tenantId held => ?_
      exact (outcome.kept held).resolve_right fun released => same (released.2.trans mine)

/-- A reply commits. -/
theorem reply {system : System} {orderId : Uuid} {row : OutboxRow} {entry : OutboxCommandEntry} (supplied : Supplied system)
    (owed : system.owed orderId = some entry) (stamp : Stamp) (commandOffset : Uuid → Nat) :
    Supplied { system with
      inventory := system.inventory.appendOnce row.envelope entry stamp
      commandOffset
      owed := Function.update system.owed orderId none } := by
  have kept : (system.inventory.appendOnce row.envelope entry stamp).inventory = system.inventory.inventory :=
    Db.appendOnce_inventory ..
  refine ⟨supplied.order, supplied.agreement, kept ▸ supplied.distinct, ?_, fun other => ?_⟩
  · intro tenantId other held
    unfold System.HoldsItems
    dsimp only at held ⊢
    rw [kept] at held ⊢
    exact supplied.whole tenantId other held
  · show Backed other (system.order.view other) (Function.update system.owed orderId none other)
      (sentOn (rowsOf (system.inventory.appendOnce row.envelope entry stamp).outbox other) .inventoryReplies)
      fun tenantId => (system.inventory.appendOnce row.envelope entry stamp).inventory.Holds tenantId other
    rw [kept]
    by_cases same : other = orderId
    · subst same
      rw [Function.update_self]
      have before := supplied.backed other
      rw [owed] at before
      refine before.reply ?_ ?_
      · intro row member
        obtain ⟨old, address⟩ := mem_told.mp member
        exact mem_told.mpr ⟨subset_appendOnce _ _ _ _ old, address⟩
      · intro row member
        obtain ⟨stored, address⟩ := mem_told.mp member
        rcases mem_appendOnce stored with old | rfl
        · exact Or.inl (mem_told.mpr ⟨old, address⟩)
        · exact Or.inr ⟨rfl, rfl⟩
    · have address := ((supplied.backed orderId).owes entry owed).1
      rw [Function.update_of_ne same, replies_appendOnce (address.symm ▸ Ne.symm same)]
      exact supplied.backed other

theorem step {system system' : System} {event : Event} (step : Step event system system') (supplied : Supplied system) :
    Supplied system' := by
  cases step with
  | order act outside next =>
    refine supplied.commit next ?_ system.replyOffset
    rintro orderId envelope now stamp rfl
    exact outside.elim
  | effect orderId ids found drawn run => exact supplied.effect (List.mem_of_getElem? found) drawn run
  | reply orderId stamp found owed => exact supplied.reply owed stamp _
  | @deliver system row db orderId now stamp found next =>
    refine supplied.commit next ?_ _
    intro other envelope now stamp same type
    have member := List.mem_of_getElem? found
    have addressed := (supplied.backed orderId).addressed row member
    cases same
    exact ⟨row, addressed ▸ member, type⟩
  | @rewindCommands system orderId offset back =>
    refine ⟨supplied.order, supplied.agreement, supplied.distinct, supplied.whole, fun other => ?_⟩
    show Backed other (system.order.view other) (Function.update system.owed orderId none other) _ _
    by_cases same : other = orderId
    · subst same
      rw [Function.update_self]
      exact (supplied.backed other).rewind
    · rw [Function.update_of_ne same]
      exact supplied.backed other
  | rewindReplies => exact ⟨supplied.order, supplied.agreement, supplied.distinct, supplied.whole, supplied.backed⟩
  | replenish => exact ⟨supplied.order, supplied.agreement, supplied.distinct, supplied.whole, supplied.backed⟩

/-- The services call neither cancel nor confirm themselves. -/
theorem uncalled {system system' : System} {event : Event} (step : Step event system system') (uncalled : system.Uncalled) :
    system'.Uncalled := by
  cases step with
  | order act outside next =>
    refine List.forall_mem_cons.mpr ⟨?_, uncalled⟩
    cases act <;> first | exact not_false | exact outside.elim
  | deliver => exact List.forall_mem_cons.mpr ⟨not_false, uncalled⟩
  | _ => exact uncalled

end Supplied

/-- In every run, whatever is delivered again or re-driven, stock is held
whole or not at all, and a confirmed order holds what it was placed for. -/
theorem Run.keeps_stock {log : List (Commit System Event)} {system : System} (run : Run log system) :
    ∀ state, Seen log system state → state.Stocked := by
  intro state seen
  have both : Supplied state ∧ state.Uncalled := by
    refine run.invariant_seen (I := fun system => Supplied system ∧ system.Uncalled) ?_ ?_ state seen
    · intro system initial
      refine ⟨.initial initial, ?_⟩
      rw [System.Uncalled, initial.orderLog]
      exact List.forall_mem_nil _
    · intro seen event system system' step before
      exact ⟨before.1.step step, Supplied.uncalled step before.2⟩
  exact both.1.stocked both.2

/-- Stock comes in, is reserved for an order, and the order is paid. -/
theorem confirmedRun : ∃ log system, Run log system ∧ system.order.status "order" = some .confirmed := by
  have start : Run [] startSystem := .start startSystem_initial
  have placed := start.commit (.order OrderService.placeSample trivial ⟨⟨_, _⟩, .current, .current, rfl⟩)
  have replenished := placed.commit (.replenish { tenantId := "tenant", itemId := "dish" } 5 rfl (by decide))
  have taken := replenished.commit (.effect "order" sampleIds rfl (sampleDrawn rfl) rfl)
  have reserved := taken.commit (.reply "order" (stampSample "reserved") rfl rfl)
  have charging := reserved.commit (.deliver "order" 1 (stampSample "charge") rfl ⟨⟨_, _⟩, .current, .current, rfl⟩)
  have confirmed := charging.commit (.order (OrderService.replySample .payment "paid" .paymentSucceeded) trivial
    ⟨⟨_, _⟩, .current, .current, rfl⟩)
  exact ⟨_, _, confirmed, rfl⟩

theorem keeps_stock_of_confirmed_sample : ∃ log system, Run log system ∧ system.order.status "order" = some .confirmed ∧
    ∀ state, Seen log system state → state.Stocked := by
  obtain ⟨log, system, run, confirmed⟩ := confirmedRun
  exact ⟨log, system, run, confirmed, run.keeps_stock⟩

end FoodDelivery.StockSaga
