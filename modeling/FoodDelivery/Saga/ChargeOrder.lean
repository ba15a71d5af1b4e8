import FoodDelivery.Saga.Charge

namespace FoodDelivery.ChargeSaga

open Messaging
open OrderService (View Progress OrderStatus SagaState Effect Transaction)

/-- How an order, its saga and its charge stand to each other. -/
structure Sound (status : Option OrderStatus) (state : Option SagaState) (charge : Option (Option Bool)) : Prop where
  unplaced : status = none → state = none
  pending : status = some .pending → state = some .started
  unstarted : state = none ∨ state = some .started → charge = none
  compensating : state = some .compensating → charge = some (some false)
  completed : state = some .completed → status = some .confirmed
  ended : state = some .cancelled → status = some .cancelled
  confirmed : status = some .confirmed → charge ≠ some (some false)
  cancelled : status = some .cancelled → charge ≠ some (some true)

/-- The commands to the payment service ask to charge the order, and are sent
once its stock is reserved. -/
structure Charging (orderId : Uuid) (state : Option SagaState) (row : OutboxRow) : Prop where
  type : row.eventType = .chargePayment
  payload : ∃ totalCents, row.payload = .total orderId totalCents
  placed : state ≠ none
  reserved : state ≠ some .started

def Charged (orderId : Uuid) (view : View) : Prop :=
  ∀ row ∈ sentOn view.rows .paymentCommands, Charging orderId view.state row

/-- What a transaction of the order service must respect of the charge. -/
structure Respects (orderId : Uuid) (status : Option OrderStatus) (charge : Option (Option Bool)) (act : Transaction) :
    Prop where
  succeeded : ∀ envelope now stamp, act = .reply .payment envelope orderId now stamp →
    envelope.eventType = .paymentSucceeded → charge = some (some true) ∨ status = some .cancelled
  failed : ∀ envelope now stamp, act = .reply .payment envelope orderId now stamp →
    envelope.eventType = .paymentFailed → charge = some (some false)
  confirm : ∀ call, act = .confirmOrder call → call.orderId = orderId → status = some .reserved →
    charge ≠ some (some false)
  cancel : ∀ call, act = .cancelOrder call → call.orderId = orderId → status = some .reserved →
    charge ≠ some (some true)

theorem Sound.progress {orderId : Uuid} {act : Transaction} {view view' : View} {charge : Option (Option Bool)}
    (sound : Sound view.status view.state charge) (progress : Progress orderId act view view')
    (respects : Respects orderId view.status charge act) : Sound view'.status view'.state charge := by
  cases progress with
  | stay => exact sound
  | place =>
    have none := sound.unstarted (Or.inl rfl)
    exact ⟨nofun, fun _ => rfl, fun _ => none, nofun, nofun, nofun, nofun, nofun⟩
  | @react source envelope now stamp rows order state status state' entry atOrder reaction =>
    generalize type_ : envelope.eventType = type at reaction
    cases reaction with
    | reserve => exact ⟨nofun, nofun, nofun, nofun, nofun, nofun, nofun, nofun⟩
    | reject =>
      have none := sound.unstarted (Or.inr rfl)
      refine ⟨nofun, nofun, nofun, nofun, nofun, fun _ => rfl, nofun, fun _ => ?_⟩
      rw [none]
      exact nofun
    | compensate =>
      have decided := sound.compensating rfl
      refine ⟨nofun, nofun, nofun, nofun, nofun, fun _ => rfl, nofun, fun _ => ?_⟩
      rw [decided]
      decide
    | confirm reserved =>
      rcases respects.succeeded envelope now stamp rfl type_ with decided | cancelled
      · refine ⟨nofun, nofun, nofun, nofun, fun _ => rfl, nofun, fun _ => ?_, nofun⟩
        rw [decided]
        decide
      · cases (congrArg some reserved).symm.trans cancelled
  | @fail envelope now stamp rows status type =>
    have decided := respects.failed envelope now stamp rfl type
    refine ⟨fun absent => ?_, fun pending => ?_, nofun, fun _ => decided, nofun, nofun, sound.confirmed, sound.cancelled⟩
    · cases sound.unplaced absent
    · cases sound.pending pending
  | @cancel call status state tenantId rows mine allowed =>
    have open_ := OrderService.OrderStatus.cancelled_allowed allowed
    refine ⟨nofun, nofun, sound.unstarted, sound.compensating, fun done => ?_, fun _ => rfl, nofun, fun _ => ?_⟩
    · cases sound.completed done
      rcases open_ with pending | reserved
      · cases pending
      · cases reserved
    · rcases open_ with rfl | rfl
      · rw [sound.unstarted (Or.inr (sound.pending rfl))]
        exact nofun
      · exact respects.cancel call rfl mine rfl
  | @confirm call status state tenantId rows mine allowed =>
    cases OrderService.OrderStatus.confirmed_allowed allowed
    refine ⟨nofun, nofun, sound.unstarted, sound.compensating, fun _ => rfl, fun gone => ?_, fun _ => ?_, nofun⟩
    · cases sound.ended gone
    · exact respects.confirm call rfl mine rfl
  | redrive => exact sound

/-- The charge moves on. -/
theorem Sound.move {status : Option OrderStatus} {state : Option SagaState} {verdict verdict' : Option Bool}
    (sound : Sound status state (some verdict)) (declined : verdict = some false → verdict' = some false)
    (confirmed : status = some .confirmed → verdict' ≠ some false)
    (cancelled : status = some .cancelled → verdict' ≠ some true) : Sound status state (some verdict') := by
  refine ⟨sound.unplaced, sound.pending, fun early => ?_, fun compensating => ?_, sound.completed, sound.ended,
    fun done same => confirmed done (Option.some.inj same), fun gone same => cancelled gone (Option.some.inj same)⟩
  · cases sound.unstarted early
  · exact congrArg some (declined (Option.some.inj (sound.compensating compensating)))

/-- The charge starts. -/
theorem Sound.start {status : Option OrderStatus} {state : Option SagaState} (sound : Sound status state none)
    (placed : state ≠ none) (reserved : state ≠ some .started) : Sound status state (some none) := by
  refine ⟨sound.unplaced, sound.pending, fun early => ?_, fun compensating => ?_, sound.completed, sound.ended,
    fun _ => nofun, fun _ => nofun⟩
  · rcases early with absent | started
    · exact absurd absent placed
    · exact absurd started reserved
  · cases sound.compensating compensating

theorem Charging.later {orderId : Uuid} {state state' : Option SagaState} {row : OutboxRow}
    (charging : Charging orderId state row)
    (onward : state ≠ none → state ≠ some .started → state' ≠ none ∧ state' ≠ some .started) :
    Charging orderId state' row := by
  obtain ⟨placed, reserved⟩ := onward charging.placed charging.reserved
  exact ⟨charging.type, charging.payload, placed, reserved⟩

theorem Charged.progress {orderId : Uuid} {act : Transaction} {view view' : View} (charged : Charged orderId view)
    (progress : Progress orderId act view view') : Charged orderId view' := by
  -- a new row that is no charge command, with a saga that has not gone back
  have other {status status' : Option OrderStatus} {state state' : Option SagaState} {tenantId tenantId' : Option Uuid}
      {rows : List OutboxRow} {entry : OutboxCommandEntry} {tenant : Uuid} {stamp : Stamp}
      (before : Charged orderId ⟨status, state, tenantId, rows⟩) (topic : entry.topic ≠ .paymentCommands)
      (onward : state ≠ none → state ≠ some .started → state' ≠ none ∧ state' ≠ some .started) :
      Charged orderId ⟨status', state', tenantId', rows ++ [entry.toRow tenant stamp]⟩ := by
    unfold Charged
    rw [sentOn_append, if_neg topic, List.append_nil]
    exact fun row member => (before row member).later onward
  cases progress with
  | stay => exact charged
  | place => exact other charged nofun fun placed => absurd rfl placed
  | @react source envelope now stamp rows order state status state' entry atOrder reaction =>
    generalize envelope.eventType = type at reaction
    cases reaction with
    | reserve =>
      unfold Charged
      rw [sentOn_append, OrderService.chargePaymentCommand_topic, if_pos rfl]
      refine OrderService.forall_mem_append_singleton (fun row member => ?_) ⟨rfl, ⟨order.totalCents, ?_⟩, nofun, nofun⟩
      · exact absurd rfl (charged row member).reserved
      · rw [← atOrder]
        rfl
    | reject => exact other charged nofun fun _ _ => ⟨nofun, nofun⟩
    | compensate => exact other charged nofun fun _ _ => ⟨nofun, nofun⟩
    | confirm => exact other charged nofun fun _ _ => ⟨nofun, nofun⟩
  | fail => exact other charged nofun fun _ _ => ⟨nofun, nofun⟩
  | cancel => exact charged
  | confirm => exact charged
  | @redrive candidate _ _ _ stamp status state rows order command moves =>
    cases moves with
    | reserve => exact other charged nofun fun placed reserved => ⟨placed, reserved⟩
    | charge =>
      unfold Charged
      rw [sentOn_append, OrderService.chargePaymentCommand_topic, if_pos rfl]
      exact OrderService.forall_mem_append_singleton charged ⟨rfl, ⟨order.totalCents, rfl⟩, nofun, nofun⟩
    | release => exact other charged nofun fun placed reserved => ⟨placed, reserved⟩

/-- An order is confirmed by PaymentSucceeded or by a confirm call. -/
theorem Progress.confirms {orderId : Uuid} {act : Transaction} {view view' : View} (progress : Progress orderId act view view')
    (confirmed : view'.status = some .confirmed) : view.status = some .confirmed ∨
    (∃ envelope now stamp, act = .reply .payment envelope orderId now stamp ∧ envelope.eventType = .paymentSucceeded ∧
      view.status = some .reserved) ∨
    ∃ call, act = .confirmOrder call ∧ call.orderId = orderId ∧ view.status = some .reserved := by
  cases progress with
  | stay => exact Or.inl confirmed
  | place => cases confirmed
  | @react source envelope now stamp rows order state status state' entry atOrder reaction =>
    generalize type_ : envelope.eventType = type at reaction
    cases reaction with
    | reserve => cases confirmed
    | reject => cases confirmed
    | compensate => cases confirmed
    | confirm reserved => exact Or.inr (Or.inl ⟨envelope, now, stamp, rfl, type_, congrArg some reserved⟩)
  | fail => exact Or.inl confirmed
  | cancel => cases confirmed
  | @confirm call status _ _ _ mine allowed =>
    cases OrderService.OrderStatus.confirmed_allowed allowed
    exact Or.inr (Or.inr ⟨call, rfl, mine, rfl⟩)
  | redrive => exact Or.inl confirmed

theorem Progress.cancelled {orderId : Uuid} {act : Transaction} {view view' : View} (progress : Progress orderId act view view')
    (cancelled : view.status = some .cancelled) : view'.status = some .cancelled := by
  cases progress with
  | stay => exact cancelled
  | place => cases cancelled
  | @react source envelope now stamp rows order state status state' entry atOrder reaction =>
    generalize envelope.eventType = type at reaction
    cases reaction with
    | reserve pending => cases (congrArg some pending).symm.trans cancelled
    | reject => rfl
    | compensate => rfl
    | confirm reserved => cases (congrArg some reserved).symm.trans cancelled
  | fail => exact cancelled
  | cancel => rfl
  | confirm mine allowed =>
    cases OrderService.OrderStatus.confirmed_allowed allowed
    cases cancelled
  | redrive => exact cancelled

def Closed (status : Option OrderStatus) : Prop := status = some .confirmed ∨ status = some .cancelled

theorem Closed.progress {orderId : Uuid} {act : Transaction} {view view' : View} (closed : Closed view.status)
    (progress : Progress orderId act view view') : Closed view'.status := by
  cases progress with
  | stay => exact closed
  | place => exact absurd closed (by simp [Closed])
  | @react source envelope now stamp rows order state status state' entry atOrder reaction =>
    generalize envelope.eventType = type at reaction
    cases reaction with
    | reserve pending => simp [Closed, pending] at closed
    | reject => exact Or.inr rfl
    | compensate => exact Or.inr rfl
    | confirm => exact Or.inl rfl
  | fail => exact closed
  | cancel => exact Or.inr rfl
  | confirm => exact Or.inl rfl
  | redrive => exact closed

/-- An order whose charge was declined or given up still waits, or is cancelled. -/
theorem Sound.waits_or_cancelled {status : Option OrderStatus} {state : Option SagaState} (sound : Sound status state (some (some false))) :
    status = some .reserved ∨ status = some .cancelled := by
  match status with
  | none => cases sound.unstarted (Or.inl (sound.unplaced rfl))
  | some .pending => cases sound.unstarted (Or.inr (sound.pending rfl))
  | some .reserved => exact Or.inl rfl
  | some .confirmed => exact absurd rfl (sound.confirmed rfl)
  | some .cancelled => exact Or.inr rfl

/-- An order that was charged for is closed, unless it still waits for the reply. -/
theorem Sound.closed {status : Option OrderStatus} {state : Option SagaState} (sound : Sound status state (some (some true)))
    (waiting : status ≠ some .reserved ∨ state ≠ some .stockReserved) : Closed status := by
  match status, state with
  | some .confirmed, _ => exact Or.inl rfl
  | some .cancelled, _ => exact Or.inr rfl
  | none, _ =>
    have none := sound.unplaced rfl
    cases sound.unstarted (Or.inl none)
  | some .pending, _ =>
    have started := sound.pending rfl
    cases sound.unstarted (Or.inr started)
  | some .reserved, none => cases sound.unstarted (Or.inl rfl)
  | some .reserved, some .started => cases sound.unstarted (Or.inr rfl)
  | some .reserved, some .stockReserved => simp at waiting
  | some .reserved, some .compensating => cases sound.compensating rfl
  | some .reserved, some .completed => exact Or.inl (sound.completed rfl)
  | some .reserved, some .cancelled => exact Or.inr (sound.ended rfl)

end FoodDelivery.ChargeSaga
