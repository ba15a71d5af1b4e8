import FoodDelivery.Saga.ChargePayment

namespace FoodDelivery.ChargeSaga

open Messaging CommitLog PaymentService
open OrderService (View Progress OrderStatus SagaState Effect Transaction)

section order

variable {system : System}

/-- What has become of the orders stays. -/
structure System.Later (old new : System) : Prop where
  order : old.order.Later new.order
  closed : ∀ orderId, Closed (old.status orderId) → Closed (new.status orderId)

theorem System.Later.refl (system : System) : system.Later system := ⟨.refl _, fun _ => id⟩

theorem System.Later.trans {a b c : System} (first : a.Later b) (last : b.Later c) : a.Later c :=
  ⟨first.order.trans last.order, fun orderId closed => last.closed orderId (first.closed orderId closed)⟩

/-- A transaction of the order service that respects the charges. -/
theorem Invariant.acted (invariant : Invariant system) {reads : OrderService.Reads} {act : Transaction}
    {db : OrderService.Db} (later : reads.Later system.order) (effect : Effect reads system.order act db)
    (respects : ∀ orderId, Respects orderId (system.status orderId) (system.charge orderId) act)
    (commanded : ∀ call, act = .confirmOrder call → system.status call.orderId = some .reserved →
      system.charge call.orderId = none → ∃ row ∈ system.commands call.orderId, row ∉ system.settled)
    (heard : ∀ row ∈ system.payment.outbox, row.eventType = .paymentSucceeded → row.id ∈ db.processedEvents →
      row.id ∈ system.order.processedEvents ∨ Closed (db.status row.aggregateId)) :
    Invariant { system with order := db } ∧ system.Later { system with order := db } := by
  have progress (orderId : Uuid) := effect.progress later orderId
  have closed (orderId : Uuid) (before : Closed (system.status orderId)) : Closed (db.status orderId) :=
    Closed.progress before (progress orderId)
  refine ⟨⟨?_, ?_, ?_, invariant.apart, invariant.stocked, invariant.settled, ?_, ?_, ?_⟩, effect.later, closed⟩
  · refine ⟨invariant.paying.works, fun row member => ?_, invariant.paying.distinct, invariant.paying.emitted,
      invariant.paying.completed, invariant.paying.asked⟩
    exact (invariant.paying.truthful row member).later (ChargeSaga.Progress.cancelled (progress row.aggregateId))
  · intro orderId
    exact Sound.progress (invariant.sound orderId) (progress orderId) (respects orderId)
  · intro orderId
    exact (invariant.charged orderId).progress (progress orderId)
  · intro row member succeeded processed
    rcases heard row member succeeded processed with old | now
    · exact closed _ (invariant.heard row member succeeded old)
    · exact now
  · intro row member succeeded
    exact (invariant.reported row member succeeded).imp_left (closed _)
  · intro orderId confirmed uncharged
    have grows : system.commands orderId <+: sentOn (rowsOf db.outbox orderId) .paymentCommands :=
      (progress orderId).grows.filter _
    suffices under_way : ∃ row ∈ system.commands orderId, row ∉ system.settled by
      obtain ⟨row, sent, unsettled⟩ := under_way
      exact ⟨row, grows.subset sent, unsettled⟩
    rcases Progress.confirms (progress orderId) confirmed with
      before | ⟨envelope, now, stamp, reply, type, reserved⟩ | ⟨call, same, rfl, reserved⟩
    · exact invariant.commanded orderId before uncharged
    · rcases (respects orderId).succeeded envelope now stamp reply type with paid | cancelled
      · cases uncharged.symm.trans paid
      · cases reserved.symm.trans cancelled
    · exact commanded call same reserved uncharged

/-- A message is delivered or given up. -/
theorem Invariant.settle (invariant : Invariant system) {row : OutboxRow}
    (known : row ∈ system.payment.outbox ∨ row.topic ≠ .paymentReplies)
    (reported : row ∈ system.payment.outbox → row.eventType = .paymentSucceeded → Closed (system.status row.aggregateId) ∨
      ∃ other ∈ system.replies row.aggregateId, other ∉ system.settled ∧ other ≠ row)
    (commanded : row ∈ system.commands row.aggregateId → system.status row.aggregateId = some .confirmed →
      system.charge row.aggregateId = none →
      ∃ other ∈ system.commands row.aggregateId, other ∉ system.settled ∧ other ≠ row) :
    Invariant { system with settled := row :: system.settled } := by
  have beside {other : OutboxRow} (unsettled : other ∉ system.settled) (different : other ≠ row) :
      other ∉ row :: system.settled := by
    rw [List.mem_cons]
    exact not_or.mpr ⟨different, unsettled⟩
  refine ⟨⟨invariant.paying.works, invariant.paying.truthful, invariant.paying.distinct, invariant.paying.emitted,
    invariant.paying.completed, invariant.paying.asked⟩, invariant.sound, invariant.charged, invariant.apart,
    invariant.stocked, List.forall_mem_cons.mpr ⟨known, invariant.settled⟩, invariant.heard, ?_, ?_⟩
  · intro told member succeeded
    rcases invariant.reported told member succeeded with closed | ⟨other, sent, unsettled⟩
    · exact Or.inl closed
    · by_cases same : other = row
      · subst same
        obtain ⟨stored, mine⟩ := mem_rowsOf.mp sent
        rcases invariant.announced ⟨told, mem_rowsOf.mpr ⟨member, rfl⟩, succeeded⟩ with paid | ⟨-, cancelled⟩
        · have type : other.eventType = .paymentSucceeded := by
            rcases (invariant.paying.truthful other stored).told with ⟨type, -⟩ | ⟨-, declined⟩
            · exact type
            · rw [mine, paid] at declined
              cases declined
          rw [← mine]
          refine (reported stored type).imp_right ?_
          rintro ⟨another, sent, unsettled, different⟩
          exact ⟨another, sent, beside unsettled different⟩
        · exact Or.inl (Or.inr cancelled)
      · exact Or.inr ⟨other, sent, beside unsettled same⟩
  · intro orderId confirmed uncharged
    obtain ⟨other, sent, unsettled⟩ := invariant.commanded orderId confirmed uncharged
    by_cases same : other = row
    · subst same
      obtain ⟨-, rfl⟩ := mem_rowsOf.mp (mem_sentOn.mp sent).1
      obtain ⟨another, sent, unsettled, different⟩ := commanded sent confirmed uncharged
      exact ⟨another, sent, beside unsettled different⟩
    · exact ⟨other, sent, beside unsettled same⟩

theorem Invariant.not_reply (invariant : Invariant system) {row : OutboxRow} (other : row.topic ≠ .paymentReplies) :
    row ∉ system.payment.outbox :=
  fun member => other (invariant.paying.truthful row member).topic

/-- A message of neither topic of the payment service decides nothing. -/
theorem Invariant.settleStock (invariant : Invariant system) {row : OutboxRow}
    (topic : row.topic = .inventoryCommands ∨ row.topic = .inventoryReplies) :
    Invariant { system with settled := row :: system.settled } := by
  have other : row.topic ≠ .paymentReplies := by
    rcases topic with topic | topic <;> rw [topic] <;> decide
  refine invariant.settle (Or.inr other) (fun reply => absurd reply (invariant.not_reply other)) fun command => ?_
  have charging := (mem_sentOn.mp command).2
  rcases topic with topic | topic <;> cases topic.symm.trans charging

/-- The inventory service replies. -/
theorem Invariant.stockReply (invariant : Invariant system) {entry : OutboxCommandEntry} {tenantId : Uuid} {stamp : Stamp}
    (topic : entry.topic = .inventoryReplies) (fresh : system.Fresh stamp) :
    Invariant { system with stock := system.stock ++ [entry.toRow tenantId stamp] } := by
  refine ⟨⟨invariant.paying.works, invariant.paying.truthful, invariant.paying.distinct, invariant.paying.emitted,
    invariant.paying.completed, invariant.paying.asked⟩, invariant.sound, invariant.charged, fun row member => ?_,
    OrderService.forall_mem_append_singleton invariant.stocked topic, invariant.settled, invariant.heard,
    invariant.reported, invariant.commanded⟩
  exact OrderService.forall_mem_append_singleton (invariant.apart row member) (fresh.sent .payment row member)

theorem Invariant.paid (invariant : Invariant system) {row : OutboxRow} (member : row ∈ system.payment.outbox)
    (succeeded : row.eventType = .paymentSucceeded) : system.charge row.aggregateId = some (some true) ∨
      system.status row.aggregateId = some .cancelled :=
  (invariant.announced ⟨row, mem_rowsOf.mpr ⟨member, rfl⟩, succeeded⟩).imp_right And.right

/-- PaymentSucceeded closes its order: it confirms it, has done so before, or
is ignored by a saga that had been closed when it was read. -/
theorem Invariant.closes (invariant : Invariant system) {row : OutboxRow} {now : Nat} {stamp : Stamp}
    {reads : OrderService.Reads} {db : OrderService.Db} (member : row ∈ system.payment.outbox)
    (succeeded : row.eventType = .paymentSucceeded)
    (read : ∃ before, Invariant before ∧ before.Later system ∧ row ∈ before.payment.outbox ∧ before.order = reads.saga)
    (effect : Effect reads system.order (.reply .payment row.envelope row.aggregateId now stamp) db) :
    Closed (db.status row.aggregateId) := by
  generalize reply : Transaction.reply .payment row.envelope row.aggregateId now stamp = act at effect
  have type : row.envelope.eventType = .paymentSucceeded := succeeded
  cases effect with
  | duplicate processed =>
    cases reply
    exact invariant.heard row member succeeded processed
  | ignored _ found unexpected =>
    cases reply
    obtain ⟨before, earlier, later, sent, same⟩ := read
    obtain ⟨atRead, -⟩ := OrderService.Db.findByOrderId_some.mp found
    rw [← same] at atRead
    refine later.closed row.aggregateId ?_
    rcases earlier.paid sent succeeded with paid | cancelled
    · have sound := earlier.sound row.aggregateId
      rw [paid] at sound
      refine sound.closed (Or.inr fun waiting => unexpected ?_)
      rw [OrderService.Db.sagaState, atRead] at waiting
      rw [type]
      exact waiting.symm
    · exact Or.inr cancelled
  | @reacted _ _ _ _ _ order saga status state entry _ orderStands _ _ _ reaction =>
    cases reply
    have mine : order.id = row.aggregateId := system.order.orders.keyed _ order orderStands
    rw [type] at reaction
    generalize saga.state = before at reaction
    cases reaction
    refine Or.inl ?_
    unfold OrderService.Db.status
    simp only [Table.map_find_put, mine, if_true]
  | compensating failed =>
    cases reply
    cases type.symm.trans failed
  | _ => cases reply

end order

/-- The reads of a transaction are as old as what has been seen. -/
theorem orderSeen_later {seen : System → Prop} {system : System} {reads : OrderService.Reads}
    (behind : ∀ before, seen before → before.Later system) (sagaSeen : orderSeen seen reads.saga)
    (orderSeen : orderSeen seen reads.order) : reads.Later system.order := by
  obtain ⟨sagaRead, sagaSeen, atSaga⟩ := sagaSeen
  obtain ⟨orderRead, orderSeen, atOrder⟩ := orderSeen
  exact ⟨atSaga ▸ (behind _ sagaSeen).order, atOrder ▸ (behind _ orderSeen).order⟩

section step

variable {seen : System → Prop} {system : System} {db : OrderService.Db}

theorem Invariant.fromOutside (invariant : Invariant system) (behind : ∀ before, seen before → before.Later system)
    {act : Transaction} (outside : FromOutside act) (next : OrderService.commits (orderSeen seen) act system.order db)
    (calm : ¬ (Event.order act).Conflicts system) :
    Invariant { system with order := db } ∧ system.Later { system with order := db } := by
  obtain ⟨reads, sagaSeen, orderSeen, execution⟩ := next
  have later := orderSeen_later behind sagaSeen orderSeen
  have effect := Transaction.effect later execution
  refine invariant.acted later effect (fun orderId => ⟨?_, ?_, ?_, ?_⟩) ?_ ?_
  · rintro envelope now stamp rfl
    exact outside.elim
  · rintro envelope now stamp rfl
    exact outside.elim
  · rintro call rfl rfl reserved declined
    exact calm ⟨reserved, Or.inl declined⟩
  · rintro call rfl rfl reserved paid
    exact calm ⟨reserved, paid⟩
  · rintro call rfl reserved uncharged
    by_contra none
    refine calm ⟨reserved, Or.inr ⟨uncharged, fun row sent => ?_⟩⟩
    by_contra unsettled
    exact none ⟨row, sent, unsettled⟩
  · intro row member _ processed
    rcases effect.processed processed with old | ⟨source, envelope, orderId, now, stamp, rfl, same⟩
    · exact Or.inl old
    · exact outside.elim

/-- A reply is handled; a PaymentSucceeded closes its order. -/
theorem Invariant.reply (invariant : Invariant system)
    (behind : ∀ before, seen before → Invariant before ∧ before.Later system) {source : OrderService.ReplySource}
    {row : OutboxRow} {now : Nat} {stamp : Stamp} (member : row ∈ system.sent source)
    (next : OrderService.commits (orderSeen fun before => seen before ∧ row ∈ before.sent source)
      (.reply source row.envelope row.payload.orderId now stamp) system.order db) :
    (Invariant { system with order := db } ∧ system.Later { system with order := db }) ∧
      (row ∈ system.payment.outbox → row.eventType = .paymentSucceeded → Closed (db.status row.aggregateId)) := by
  obtain ⟨reads, sagaSeen, orderSeen, execution⟩ := next
  have later := orderSeen_later (fun before sent => (behind before sent.1).2) sagaSeen orderSeen
  have effect := Transaction.effect later execution
  cases source with
  | inventory =>
    refine ⟨invariant.acted later effect (fun orderId => ⟨nofun, nofun, nofun, nofun⟩) nofun ?_, fun paid => ?_⟩
    · intro other otherMember succeeded processed
      rcases effect.processed processed with old | ⟨_, _, _, _, _, reply, same⟩
      · exact Or.inl old
      · cases reply
        exact absurd same (invariant.apart other otherMember row member)
    · exact absurd rfl (invariant.apart row paid row member)
  | payment =>
    have truthful := invariant.paying.truthful row member
    have addressed : row.payload.orderId = row.aggregateId := truthful.addressed
    rw [addressed] at effect
    have closes (succeeded : row.eventType = .paymentSucceeded) : Closed (db.status row.aggregateId) := by
      obtain ⟨before, ⟨earlier, sent⟩, atSaga⟩ := sagaSeen
      obtain ⟨kept, later⟩ := behind before earlier
      exact invariant.closes member succeeded ⟨before, kept, later, sent, atSaga⟩ effect
    refine ⟨invariant.acted later effect (fun orderId => ⟨?_, ?_, nofun, nofun⟩) nofun ?_, fun _ => closes⟩
    · rintro envelope now stamp same succeeded
      cases same
      exact invariant.paid member succeeded
    · rintro envelope now stamp same failed
      cases same
      rcases truthful.told with ⟨succeeded, -⟩ | ⟨-, declined⟩
      · cases succeeded.symm.trans failed
      · exact declined
    · intro other otherMember succeeded processed
      rcases effect.processed processed with old | ⟨_, _, _, _, _, reply, same⟩
      · exact Or.inl old
      · cases reply
        cases invariant.paying.distinct other otherMember row member same
        exact Or.inr (closes succeeded)

/-- A message may be given up if it is not the last that its order waits for. -/
theorem Invariant.deadLetter (invariant : Invariant system) {row : OutboxRow}
    (known : row ∈ system.payment.outbox ∨ row.topic ≠ .paymentReplies) (calm : ¬ (Event.deadLetter row).Conflicts system) :
    Invariant { system with settled := row :: system.settled } := by
  refine invariant.settle known ?_ ?_
  · intro member succeeded
    rcases invariant.paid member succeeded with paid | cancelled
    · have sound := invariant.sound row.aggregateId
      rw [paid] at sound
      by_cases waiting : system.status row.aggregateId = some .reserved
      · right
        by_contra none
        refine calm (Or.inl ⟨waiting, paid, mem_rowsOf.mpr ⟨member, rfl⟩, fun other sent unsettled => ?_⟩)
        by_contra different
        exact none ⟨other, sent, unsettled, different⟩
      · exact Or.inl (sound.closed (Or.inl waiting))
    · exact Or.inl (Or.inr cancelled)
  · intro command confirmed uncharged
    by_contra none
    refine calm (Or.inr ⟨confirmed, uncharged, command, fun other sent unsettled => ?_⟩)
    by_contra different
    exact none ⟨other, sent, unsettled, different⟩

end step

/-- What a step keeps that sets no order and its charge against each other. -/
theorem Step.invariant {seen : System → Prop} {event : Event} {system system' : System}
    (step : Step seen event system system') (behind : ∀ before, seen before → Invariant before ∧ before.Later system)
    (calm : ¬ event.Conflicts system) (invariant : Invariant system) : Invariant system' ∧ system.Later system' := by
  have unmoved {payment : PaymentService.Db} {stock : List OutboxRow} {emitReplies : List (ChargeWorkflowInput × ProviderResult)}
      {settled : List OutboxRow} : system.Later { system with payment, stock, emitReplies, settled } :=
    ⟨.refl _, fun _ => id⟩
  cases step with
  | order act outside next => exact invariant.fromOutside (fun before seen => (behind before seen).2) outside next calm
  | takeStock row member topic => exact ⟨invariant.settleStock (Or.inl topic), unmoved⟩
  | stockReply entry tenantId stamp topic fresh => exact ⟨invariant.stockReply topic fresh, unmoved⟩
  | command row recovers stamp member isCharge fresh handled =>
    have other : row.topic ≠ .paymentReplies := by
      rw [isCharge]
      decide
    have sent : row ∈ system.commands row.aggregateId := mem_sentOn.mpr ⟨mem_rowsOf.mpr ⟨member, rfl⟩, isCharge⟩
    obtain ⟨next, charged⟩ := invariant.command sent fresh handled
    refine ⟨next.settle (Or.inr other) (fun reply => ?_) fun _ _ uncharged => absurd uncharged charged, unmoved⟩
    exact absurd reply (next.not_reply other)
  | signal orderId result => exact ⟨invariant.signal orderId result, unmoved⟩
  | charged orderId failAtCents => exact ⟨invariant.decided calm, unmoved⟩
  | chargeThrows orderId => exact ⟨invariant.threw calm, unmoved⟩
  | emit orderId result stamp fresh => exact ⟨invariant.emit fresh calm, unmoved⟩
  | emitLate input outcome stamp asked fresh => exact ⟨invariant.emitLate asked fresh calm, unmoved⟩
  | close orderId => exact ⟨invariant.closed calm, unmoved⟩
  | reply source row now stamp member next =>
    obtain ⟨⟨kept, later⟩, closes⟩ := invariant.reply behind member next
    refine ⟨?_, later.order, later.closed⟩
    cases source with
    | inventory => exact kept.settleStock (Or.inr (invariant.stocked row member))
    | payment =>
      refine kept.settle (Or.inl member) (fun paid succeeded => Or.inl (closes paid succeeded)) fun command => ?_
      cases (mem_sentOn.mp command).2.symm.trans (invariant.paying.truthful row member).topic
  | deadLetter row known =>
    refine ⟨invariant.deadLetter ?_ calm, unmoved⟩
    rcases known with ⟨-, topic | topic⟩ | ⟨source, member⟩
    · exact Or.inr (topic.trans_ne nofun)
    · exact Or.inr (topic.trans_ne nofun)
    · cases source with
      | inventory => exact Or.inr ((invariant.stocked row member).trans_ne nofun)
      | payment => exact Or.inl member

variable {log : List (Commit System Event)} {system : System}

/-- In a run in which no step sets an order and its charge against each other,
every order that is quiet is confirmed exactly when it was paid for. -/
theorem Run.confirmed_iff_paid (run : Run log system) (calm : ∀ c ∈ log, ¬ c.act.Conflicts c.before) :
    ∀ state, Seen log system state → state.Consistent := by
  intro state seen
  refine (run.invariant_le (I := Invariant) (R := System.Later) (fun _ => Invariant.initial) System.Later.refl
    (fun _ _ _ => System.Later.trans) ?_ calm state seen).1.consistent
  intro seen event system system' behind step calm before
  exact step.invariant behind calm before

section sample

def startSystem : System where
  order := OrderService.Db.empty
  payment := PaymentService.Db.empty
  stock := []
  emitReplies := []
  settled := []

theorem startSystem_initial : startSystem.Initial := ⟨rfl, rfl, rfl, rfl, rfl⟩

def stampSample (id : Uuid) : Stamp where
  id := id
  correlationId := "correlation"

def reserveSample : OutboxRow :=
  (OrderService.reserveStockCommand "order" [⟨"dish", 2⟩] "correlation").toRow "tenant" (stampSample "reserve")

def releaseSample : OutboxRow :=
  (OrderService.releaseStockCommand "order" "correlation").toRow "tenant" (stampSample "release")

def chargeSample : OutboxRow :=
  (OrderService.chargePaymentCommand "order" 2600 "correlation").toRow "tenant" (stampSample "after-stock")

def stockEntry (eventType : EventType) : OutboxCommandEntry where
  aggregateId := "order"
  topic := .inventoryReplies
  eventType := eventType
  payload := .order "order"
  correlationId := some "correlation"

/-- The reply to that command, declined where the provider fails at its total. -/
def replyRow (failAtCents : Int) : OutboxRow :=
  ((charge failAtCents 2600).reply "order" "correlation").toRow "tenant" (stampSample "reply")

theorem fresh_sample {system : System} {id : Uuid} (stock : ∀ row ∈ system.stock, row.id ≠ id)
    (payment : ∀ row ∈ system.payment.outbox, row.id ≠ id) (new : id ∉ system.order.processedEvents) :
    system.Fresh (stampSample id) := by
  refine ⟨fun source => ?_, new⟩
  cases source with
  | inventory => exact stock
  | payment => exact payment

/-- A charge may be decided either way while its order is reserved. -/
theorem charged_calm {system : System} {orderId : Uuid} {failAtCents : Int}
    (reserved : system.status orderId = some .reserved) : ¬ (Event.charged orderId failAtCents).Conflicts system := by
  rintro ⟨input, reconciled, attempts, -, ⟨-, cancelled⟩ | ⟨-, confirmed⟩⟩
  · cases reserved.symm.trans cancelled
  · cases reserved.symm.trans confirmed

theorem done_calm {system : System} {orderId : Uuid} : ¬ (Event.emit orderId .done).Conflicts system := by
  rintro ⟨input, outcome, attempts, -, -, -, lost | ⟨failed, -⟩⟩
  · cases lost
  · cases failed

def reservedSystem : System where
  order := (OrderService.replySample .inventory "stock" .stockReserved).apply (OrderService.placeSample.apply .empty)
  payment := PaymentService.Db.empty
  stock := [(stockEntry .stockReserved).toRow "tenant" (stampSample "stock")]
  emitReplies := []
  settled := [(stockEntry .stockReserved).toRow "tenant" (stampSample "stock"), reserveSample]

/-- An order is placed and its stock reserved. -/
theorem reservedRun : ∃ log, Run log reservedSystem ∧ ∀ c ∈ log, ¬ c.act.Conflicts c.before := by
  have start : Run [] startSystem := .start startSystem_initial
  have placed := start.commit (.order OrderService.placeSample trivial
    ⟨⟨_, _⟩, ⟨_, .current, rfl⟩, ⟨_, .current, rfl⟩, rfl⟩)
  have taken := placed.commit (.takeStock reserveSample (List.mem_singleton_self _) rfl)
  have replied := taken.commit (.stockReply (stockEntry .stockReserved) "tenant" (stampSample "stock") rfl
    (fresh_sample (by decide) (by decide) (by decide)))
  have told := List.mem_singleton_self ((stockEntry .stockReserved).toRow "tenant" (stampSample "stock"))
  have reserved := replied.commit (.reply .inventory _ 1 (stampSample "after-stock") told
    ⟨⟨_, _⟩, ⟨_, ⟨.current, told⟩, rfl⟩, ⟨_, ⟨.current, told⟩, rfl⟩, rfl⟩)
  refine ⟨_, reserved, ?_⟩
  exact List.forall_mem_cons.mpr ⟨not_false, List.forall_mem_cons.mpr ⟨not_false, List.forall_mem_cons.mpr ⟨not_false,
    List.forall_mem_cons.mpr ⟨not_false, List.forall_mem_nil _⟩⟩⟩⟩

/-- It is charged and confirmed. -/
theorem paidRun : ∃ log system, Run log system ∧ system.status "order" = some .confirmed ∧ system.Quiet "order" ∧
    ∀ c ∈ log, ¬ c.act.Conflicts c.before := by
  obtain ⟨log, reserved, calm⟩ := reservedRun
  have started := reserved.commit (.command chargeSample true (stampSample "again")
    (List.mem_append_right _ (List.mem_singleton_self _)) rfl (fresh_sample (by decide) (by decide) (by decide)) rfl)
  have charged := started.commit (.charged "order" 0)
  have sent := charged.commit (.emit "order" .done (stampSample "reply")
    (fresh_sample (by decide) (by decide) (by decide)))
  have told := List.mem_singleton_self (replyRow 0)
  have confirmed := sent.commit (.reply .payment (replyRow 0) 2 (stampSample "confirmed") told
    ⟨⟨_, _⟩, ⟨_, ⟨.current, told⟩, rfl⟩, ⟨_, ⟨.current, told⟩, rfl⟩, rfl⟩)
  refine ⟨_, _, confirmed, rfl, ⟨by decide, fun source => ?_, ?_⟩, ?_⟩
  · cases source <;> decide
  · rintro workflow found
    cases found
    rfl
  · exact List.forall_mem_cons.mpr ⟨not_false, List.forall_mem_cons.mpr ⟨done_calm,
      List.forall_mem_cons.mpr ⟨charged_calm rfl, List.forall_mem_cons.mpr ⟨not_false, calm⟩⟩⟩⟩

end sample

/-- Once the order is confirmed and quiet, it was paid for. -/
theorem confirmed_iff_paid_of_paid_sample : ∃ log system, Run log system ∧ system.status "order" = some .confirmed ∧
    system.Quiet "order" ∧ ∀ state, Seen log system state → state.Consistent := by
  obtain ⟨log, system, run, confirmed, quiet, calm⟩ := paidRun
  exact ⟨log, system, run, confirmed, quiet, run.confirmed_iff_paid calm⟩

/-- A confirm call does not wait for the charge, which is then declined. The
stock is released, and no StockReleased can cancel the order any more. -/
theorem confirmed_unpaid : ∃ log system, Run log system ∧ ¬ system.Consistent := by
  obtain ⟨log, reserved, -⟩ := reservedRun
  have confirmed := reserved.commit (.order (.confirmOrder .sample) trivial
    ⟨⟨_, _⟩, ⟨_, .current, rfl⟩, ⟨_, .current, rfl⟩, rfl⟩)
  have started := confirmed.commit (.command chargeSample true (stampSample "again")
    (List.mem_append_right _ (List.mem_singleton_self _)) rfl (fresh_sample (by decide) (by decide) (by decide)) rfl)
  have declined := started.commit (.charged "order" 2600)
  have sent := declined.commit (.emit "order" .done (stampSample "reply")
    (fresh_sample (by decide) (by decide) (by decide)))
  have told := List.mem_singleton_self (replyRow 2600)
  have compensating := sent.commit (.reply .payment (replyRow 2600) 2 (stampSample "release") told
    ⟨⟨_, _⟩, ⟨_, ⟨.current, told⟩, rfl⟩, ⟨_, ⟨.current, told⟩, rfl⟩, rfl⟩)
  have taken := compensating.commit (.takeStock releaseSample (List.mem_append_right _ (List.mem_singleton_self _)) rfl)
  have released := taken.commit (.stockReply (stockEntry .stockReleased) "tenant" (stampSample "released") rfl
    (fresh_sample (by decide) (by decide) (by decide)))
  have given_up := released.commit (.deadLetter ((stockEntry .stockReleased).toRow "tenant" (stampSample "released"))
    (Or.inr ⟨.inventory, List.mem_append_right _ (List.mem_singleton_self _)⟩))
  refine ⟨_, _, given_up, fun consistent => ?_⟩
  have paid := (consistent "order" ⟨by decide, fun source => by cases source <;> decide,
    fun workflow found => by cases found; rfl⟩).mp rfl
  obtain ⟨outcome, found, ok⟩ := paid
  cases found
  cases ok

end FoodDelivery.ChargeSaga
