import FoodDelivery.Saga.ChargeOrder

namespace FoodDelivery.ChargeSaga

open Messaging PaymentService
open OrderService (OrderStatus SagaState)

/-- The workflow of an order works on that order. -/
def Workflow.For (orderId : Uuid) : Workflow → Prop
  | .charging input _ _ => input.orderId = orderId
  | .emitting input _ _ => input.orderId = orderId
  | _ => True

/-- A reply of the payment service tells how the charge was decided, or comes
too late for an order that was cancelled when its workflow had failed. -/
structure Truthful (status : Option OrderStatus) (charge : Option (Option Bool)) (row : OutboxRow) : Prop where
  topic : row.topic = .paymentReplies
  addressed : row.payload.orderId = row.aggregateId
  told : row.eventType = .paymentSucceeded ∧
      (charge = some (some true) ∨ charge = some (some false) ∧ status = some .cancelled) ∨
    row.eventType = .paymentFailed ∧ charge = some (some false)

theorem Truthful.later {status status' : Option OrderStatus} {charge : Option (Option Bool)} {row : OutboxRow}
    (truthful : Truthful status charge row) (stays : status = some .cancelled → status' = some .cancelled) :
    Truthful status' charge row :=
  ⟨truthful.topic, truthful.addressed,
    truthful.told.imp_left fun told => ⟨told.1, told.2.imp_right fun late => ⟨late.1, stays late.2⟩⟩⟩

/-- What is true of the payment service between the steps. -/
structure Paying (system : System) : Prop where
  works : ∀ orderId workflow, system.workflow orderId = some workflow → Workflow.For orderId workflow
  truthful : ∀ row ∈ system.payment.outbox, Truthful (system.status row.aggregateId) (system.charge row.aggregateId) row
  distinct : ∀ row ∈ system.payment.outbox, ∀ row' ∈ system.payment.outbox, row.id = row'.id → row = row'
  emitted : ∀ orderId ∈ system.payment.processedEvents, ∃ row ∈ system.payment.outbox, row.aggregateId = orderId
  completed : ∀ orderId outcome, system.workflow orderId = some (.completed outcome) →
    ∃ row ∈ system.payment.outbox, row.aggregateId = orderId
  asked : ∀ asked ∈ system.emitReplies, system.workflow asked.1.orderId = some .failed ∨
    system.charge asked.1.orderId = some (some asked.2.ok)

/-- What is true of both services between the steps. -/
structure Invariant (system : System) : Prop where
  paying : Paying system
  sound : ∀ orderId, Sound (system.status orderId) (system.order.sagaState orderId) (system.charge orderId)
  charged : ∀ orderId, Charged orderId (system.order.view orderId)
  apart : ∀ row ∈ system.payment.outbox, ∀ other ∈ system.stock, row.id ≠ other.id
  stocked : ∀ row ∈ system.stock, row.topic = .inventoryReplies
  settled : ∀ row ∈ system.settled, row ∈ system.payment.outbox ∨ row.topic ≠ .paymentReplies
  heard : ∀ row ∈ system.payment.outbox, row.eventType = .paymentSucceeded →
    row.id ∈ system.order.processedEvents → Closed (system.status row.aggregateId)
  reported : ∀ row ∈ system.payment.outbox, row.eventType = .paymentSucceeded →
    Closed (system.status row.aggregateId) ∨ ∃ other ∈ system.replies row.aggregateId, other ∉ system.settled
  commanded : ∀ orderId, system.status orderId = some .confirmed → system.charge orderId = none →
    ∃ row ∈ system.commands orderId, row ∉ system.settled

theorem Invariant.initial {system : System} (initial : system.Initial) : Invariant system := by
  obtain ⟨order, payment, stock, emitReplies, settled⟩ := system
  obtain ⟨rfl, rfl, rfl, rfl, rfl⟩ := initial
  have empty {row : OutboxRow} {P : Prop} (absent : row ∈ ([] : List OutboxRow)) : P := absurd absent List.not_mem_nil
  refine ⟨⟨?_, fun _ => empty, fun _ => empty, ?_, ?_, fun _ absent => absurd absent List.not_mem_nil⟩, fun orderId => ?_,
    fun _ _ => empty, fun _ => empty, fun _ => empty, fun _ => empty, fun _ => empty, fun _ => empty, ?_⟩
  · intro orderId workflow absent
    cases absent
  · exact fun orderId absent => absurd absent List.not_mem_nil
  · intro orderId outcome absent
    cases absent
  · have start : Sound none none none := ⟨fun _ => rfl, nofun, fun _ => rfl, nofun, nofun, nofun, nofun, nofun⟩
    exact start
  · intro orderId absent
    cases absent

/-- Once an order is quiet, it is confirmed exactly when it was paid for. -/
theorem Invariant.consistent {system : System} (invariant : Invariant system) : system.Consistent := by
  intro orderId quiet
  have sound := invariant.sound orderId
  constructor
  · intro confirmed
    have hopeful := sound.confirmed confirmed
    cases found : system.workflow orderId with
    | none =>
      have charge : system.charge orderId = none := by rw [System.charge, found]; rfl
      obtain ⟨row, sent, unsettled⟩ := invariant.commanded orderId confirmed charge
      obtain ⟨mine, topic⟩ := mem_sentOn.mp sent
      exact absurd (quiet.commands row mine (Or.inr topic)) unsettled
    | some workflow =>
      have charge : system.charge orderId = some workflow.verdict := by rw [System.charge, found]; rfl
      have still := quiet.workflow workflow found
      cases workflow with
      | charging => cases still
      | emitting => cases still
      | completed outcome =>
        refine ⟨outcome, found, ?_⟩
        cases ok : outcome.ok with
        | true => rfl
        | false => exact absurd (charge.trans (congrArg (fun b => some (some b)) ok)) hopeful
      | failed => exact absurd charge hopeful
  · rintro ⟨outcome, found, ok⟩
    have charge : system.charge orderId = some (some true) := by
      rw [System.charge, found, Option.map_some, Workflow.verdict, ok]
    obtain ⟨row, member, rfl⟩ := invariant.paying.completed orderId outcome found
    rcases (invariant.paying.truthful row member).told with ⟨succeeded, -⟩ | ⟨-, declined⟩
    · rcases invariant.reported row member succeeded with (confirmed | cancelled) | ⟨other, sent, unsettled⟩
      · exact confirmed
      · exact absurd charge (sound.cancelled cancelled)
      · exact absurd (quiet.replies .payment other sent) unsettled
    · cases charge.symm.trans declined

section payment

variable {system : System} {orderId : Uuid}

theorem charge_set (system : System) (orderId : Uuid) (workflow : Workflow) (other : Uuid) :
    System.charge { system with payment := system.payment.setWorkflow orderId workflow } other =
      if other = orderId then some workflow.verdict else system.charge other := by
  show ((Function.update system.payment.workflows orderId (some workflow)) other).map Workflow.verdict = _
  rw [Function.update_apply]
  split <;> rfl

theorem charge_found {workflow : Workflow} (found : system.workflow orderId = some workflow) :
    system.charge orderId = some workflow.verdict := by
  rw [System.charge, found]
  rfl

theorem Invariant.announced (invariant : Invariant system) (announced : system.Announced orderId) :
    system.charge orderId = some (some true) ∨
      system.charge orderId = some (some false) ∧ system.status orderId = some .cancelled := by
  obtain ⟨row, sent, succeeded⟩ := announced
  obtain ⟨member, rfl⟩ := mem_rowsOf.mp sent
  rcases (invariant.paying.truthful row member).told with ⟨-, paid⟩ | ⟨failed, -⟩
  · exact paid
  · cases succeeded.symm.trans failed

/-- A workflow is set to what fits its order and the replies sent for it. -/
theorem Invariant.set (invariant : Invariant system) {workflow : Workflow} (works : Workflow.For orderId workflow)
    (sound : Sound (system.status orderId) (system.order.sagaState orderId) (some workflow.verdict))
    (told : ∀ row ∈ system.payment.outbox, row.aggregateId = orderId →
      Truthful (system.status orderId) (some workflow.verdict) row)
    (asked : ∀ asked ∈ system.emitReplies, asked.1.orderId = orderId →
      workflow = .failed ∨ workflow.verdict = some asked.2.ok)
    (completed : ∀ outcome, workflow = .completed outcome → ∃ row ∈ system.payment.outbox, row.aggregateId = orderId) :
    Invariant { system with payment := system.payment.setWorkflow orderId workflow } := by
  have after (other : Uuid) := charge_set system orderId workflow other
  have updated (other : Uuid) (now : Workflow)
      (atOther : (Function.update system.payment.workflows orderId (some workflow)) other = some now) :
      other = orderId ∧ workflow = now ∨ system.workflow other = some now := by
    by_cases same : other = orderId
    · subst same
      rw [Function.update_self] at atOther
      exact Or.inl ⟨rfl, Option.some.inj atOther⟩
    · rw [Function.update_of_ne same] at atOther
      exact Or.inr atOther
  refine ⟨⟨?_, ?_, invariant.paying.distinct, invariant.paying.emitted, ?_, ?_⟩, ?_, invariant.charged, invariant.apart,
    invariant.stocked, invariant.settled, invariant.heard, invariant.reported, ?_⟩
  · intro other now atOther
    rcases updated other now atOther with ⟨rfl, rfl⟩ | before
    · exact works
    · exact invariant.paying.works other now before
  · intro row member
    rw [after]
    split
    · rename_i mine
      exact mine ▸ told row member mine
    · exact invariant.paying.truthful row member
  · intro other outcome atOther
    rcases updated other _ atOther with ⟨rfl, same⟩ | before
    · exact completed outcome same
    · exact invariant.paying.completed other outcome before
  · intro reply member
    show (Function.update system.payment.workflows orderId (some workflow)) _ = _ ∨ _
    rw [after, Function.update_apply]
    split
    · rename_i mine
      exact (asked reply member mine).imp (congrArg some) (congrArg some)
    · exact invariant.paying.asked reply member
  · intro other
    rw [after]
    split
    · rename_i same
      exact same ▸ sound
    · exact invariant.sound other
  · intro other confirmed
    rw [after]
    split
    · exact nofun
    · exact invariant.commanded other confirmed

/-- A workflow starts once the stock of its order is reserved. -/
theorem Invariant.started (invariant : Invariant system) {input : ChargeWorkflowInput}
    (absent : system.workflow orderId = none) (mine : input.orderId = orderId)
    (placed : system.order.sagaState orderId ≠ none) (reserved : system.order.sagaState orderId ≠ some .started) :
    Invariant { system with payment := system.payment.setWorkflow orderId (.charging input none 0) } := by
  have charge : system.charge orderId = none := by
    rw [System.charge, absent]
    rfl
  have sound := invariant.sound orderId
  rw [charge] at sound
  refine invariant.set mine (sound.start placed reserved) ?_ ?_ nofun
  · rintro row member rfl
    rcases (invariant.paying.truthful row member).told with ⟨-, decided | ⟨decided, -⟩⟩ | ⟨-, decided⟩ <;>
      cases charge.symm.trans decided
  · rintro asked member rfl
    rcases invariant.paying.asked asked member with failed | decided
    · cases absent.symm.trans failed
    · cases charge.symm.trans decided

/-- A running workflow moves on. -/
theorem Invariant.moved (invariant : Invariant system) {workflow workflow' : Workflow}
    (found : system.workflow orderId = some workflow) (running : workflow.running = true)
    (works : Workflow.For orderId workflow')
    (kept : ∀ ok, workflow.verdict = some ok → workflow' = .failed ∨ workflow'.verdict = some ok)
    (confirmed : system.status orderId = some .confirmed → workflow'.verdict ≠ some false)
    (cancelled : system.status orderId = some .cancelled → workflow'.verdict ≠ some true)
    (announced : workflow.verdict = some true → system.Announced orderId → workflow'.verdict = some true)
    (completed : ∀ outcome, workflow' = .completed outcome → ∃ row ∈ system.payment.outbox, row.aggregateId = orderId) :
    Invariant { system with payment := system.payment.setWorkflow orderId workflow' } := by
  have charge := charge_found found
  have sound := invariant.sound orderId
  rw [charge] at sound
  have declined (before : workflow.verdict = some false) : workflow'.verdict = some false := by
    rcases kept false before with rfl | same
    · rfl
    · exact same
  refine invariant.set works (sound.move declined confirmed cancelled) ?_ ?_ completed
  · rintro row member rfl
    have truthful := invariant.paying.truthful row member
    rw [charge] at truthful
    refine ⟨truthful.topic, truthful.addressed, ?_⟩
    rcases truthful.told with ⟨succeeded, paid | ⟨given_up, late⟩⟩ | ⟨failed, decided⟩
    · have still := announced (Option.some.inj paid) ⟨row, mem_rowsOf.mpr ⟨member, rfl⟩, succeeded⟩
      exact Or.inl ⟨succeeded, Or.inl (congrArg some still)⟩
    · exact Or.inl ⟨succeeded, Or.inr ⟨congrArg some (declined (Option.some.inj given_up)), late⟩⟩
    · exact Or.inr ⟨failed, congrArg some (declined (Option.some.inj decided))⟩
  · rintro asked member rfl
    rcases invariant.paying.asked asked member with failed | decided
    · cases found.symm.trans failed
      cases running
    · exact kept asked.2.ok (Option.some.inj (charge.symm.trans decided))

/-- A workflow moves on with the charge as it was. -/
theorem Invariant.again (invariant : Invariant system) {workflow workflow' : Workflow}
    (found : system.workflow orderId = some workflow) (running : workflow.running = true)
    (works : Workflow.For orderId workflow') (same : workflow'.verdict = workflow.verdict)
    (completed : ∀ outcome, workflow' = .completed outcome → ∃ row ∈ system.payment.outbox, row.aggregateId = orderId) :
    Invariant { system with payment := system.payment.setWorkflow orderId workflow' } := by
  have charge := charge_found found
  have sound := invariant.sound orderId
  rw [charge] at sound
  refine invariant.moved found running works (fun ok before => Or.inr (same.trans before)) ?_ ?_
    (fun paid _ => same.trans paid) completed
  · intro confirmed declined
    exact sound.confirmed confirmed (congrArg some (same.symm.trans declined))
  · intro cancelled paid
    exact sound.cancelled cancelled (congrArg some (same.symm.trans paid))

/-- A running workflow fails, unless a successful charge of it was relied upon. -/
theorem Invariant.fails (invariant : Invariant system) {workflow : Workflow} (found : system.workflow orderId = some workflow)
    (running : workflow.running = true)
    (relied : workflow.verdict ≠ some false → system.status orderId ≠ some .confirmed ∧
      (workflow.verdict = some true → ¬ system.Announced orderId)) :
    Invariant { system with payment := system.payment.setWorkflow orderId .failed } := by
  by_cases declined : workflow.verdict = some false
  · exact invariant.again found running trivial declined.symm nofun
  · obtain ⟨unconfirmed, unannounced⟩ := relied declined
    exact invariant.moved found running trivial (fun _ _ => Or.inl rfl) (fun confirmed => absurd confirmed unconfirmed) nofun
      (fun paid announced => absurd announced (unannounced paid)) nofun

/-- A reply is appended. -/
theorem Invariant.appended (invariant : Invariant system) {entry : OutboxCommandEntry} {tenantId : Uuid} {stamp : Stamp}
    (fresh : system.Fresh stamp)
    (truthful : Truthful (system.status entry.aggregateId) (system.charge entry.aggregateId) (entry.toRow tenantId stamp)) :
    Invariant { system with payment := system.payment.append entry tenantId stamp } := by
  have kept {row : OutboxRow} (old : row ∈ system.payment.outbox) :
      row ∈ system.payment.outbox ++ [entry.toRow tenantId stamp] := List.mem_append_left _ old
  have either {row : OutboxRow} (member : row ∈ system.payment.outbox ++ [entry.toRow tenantId stamp]) :
      row ∈ system.payment.outbox ∨ row = entry.toRow tenantId stamp :=
    (List.mem_append.mp member).imp_right List.mem_singleton.mp
  -- a row with a fresh id has been neither processed nor settled
  have unsettled : entry.toRow tenantId stamp ∉ system.settled := by
    intro settled
    rcases invariant.settled _ settled with old | other
    · exact absurd rfl (fresh.sent .payment _ old)
    · exact other truthful.topic
  refine ⟨⟨invariant.paying.works, ?_, ?_, ?_, ?_, invariant.paying.asked⟩, invariant.sound, invariant.charged, ?_,
    invariant.stocked, ?_, ?_, ?_, invariant.commanded⟩
  · intro row member
    rcases either member with old | rfl
    · exact invariant.paying.truthful row old
    · exact truthful
  · intro row member row' member' same
    rcases either member with old | rfl
    · rcases either member' with old' | rfl
      · exact invariant.paying.distinct row old row' old' same
      · exact absurd same (fresh.sent .payment row old)
    · rcases either member' with old' | rfl
      · exact absurd same.symm (fresh.sent .payment row' old')
      · rfl
  · intro other processed
    obtain ⟨row, member, mine⟩ := invariant.paying.emitted other processed
    exact ⟨row, kept member, mine⟩
  · intro other outcome found
    obtain ⟨row, member, mine⟩ := invariant.paying.completed other outcome found
    exact ⟨row, kept member, mine⟩
  · intro row member other replied
    rcases either member with old | rfl
    · exact invariant.apart row old other replied
    · exact Ne.symm (fresh.sent .inventory other replied)
  · intro row settled
    exact (invariant.settled row settled).imp_left kept
  · intro row member succeeded processed
    rcases either member with old | rfl
    · exact invariant.heard row old succeeded processed
    · exact absurd processed fresh.processed
  · intro row member succeeded
    rcases either member with old | rfl
    · rcases invariant.reported row old succeeded with closed | ⟨other, sent, unsettled⟩
      · exact Or.inl closed
      · obtain ⟨stored, mine⟩ := mem_rowsOf.mp sent
        exact Or.inr ⟨other, mem_rowsOf.mpr ⟨kept stored, mine⟩, unsettled⟩
    · exact Or.inr ⟨_, mem_rowsOf.mpr ⟨member, rfl⟩, unsettled⟩

/-- The reply of a decided charge is appended, or one too late for its order. -/
theorem Invariant.replied (invariant : Invariant system) {result : ProviderResult} {stamp : Stamp}
    (fresh : system.Fresh stamp)
    (told : system.charge orderId = some (some result.ok) ∨
      result.ok = true ∧ system.charge orderId = some (some false) ∧ system.status orderId = some .cancelled)
    (correlationId tenantId : Uuid) :
    Invariant { system with payment := system.payment.append (result.reply orderId correlationId) tenantId stamp } := by
  refine invariant.appended fresh ?_
  rw [ProviderResult.reply_aggregateId]
  unfold ProviderResult.reply
  cases ok : result.ok with
  | true =>
    rw [ok] at told
    exact ⟨rfl, rfl, Or.inl ⟨rfl, told.imp_right And.right⟩⟩
  | false =>
    rw [ok] at told
    rcases told with decided | ⟨paid, -⟩
    · exact ⟨rfl, rfl, Or.inr ⟨rfl, decided⟩⟩
    · cases paid

/-- The reply is sent, unless it has been sent before. -/
theorem Invariant.emitReply (invariant : Invariant system) {input : ChargeWorkflowInput} {outcome : ProviderResult}
    {stamp : Stamp} (fresh : system.Fresh stamp)
    (told : input.orderId ∉ system.payment.processedEvents → system.charge input.orderId = some (some outcome.ok) ∨
      outcome.ok = true ∧ system.charge input.orderId = some (some false) ∧ system.status input.orderId = some .cancelled) :
    Invariant { system with payment := system.payment.emitReply input outcome stamp } ∧
      ∃ row ∈ (system.payment.emitReply input outcome stamp).outbox, row.aggregateId = input.orderId := by
  unfold Db.emitReply
  split
  · rename_i processed
    exact ⟨invariant, invariant.paying.emitted _ processed⟩
  · rename_i unprocessed
    have next := invariant.replied fresh (told unprocessed) input.correlationId input.tenantId
    have sent : ∃ row ∈ (system.payment.append (outcome.reply input.orderId input.correlationId) input.tenantId stamp).outbox,
        row.aggregateId = input.orderId :=
      ⟨_, List.mem_append_right _ (List.mem_singleton_self _), ProviderResult.reply_aggregateId ..⟩
    refine ⟨⟨⟨next.paying.works, next.paying.truthful, next.paying.distinct, ?_, next.paying.completed, next.paying.asked⟩,
      next.sound, next.charged, next.apart, next.stocked, next.settled, next.heard, next.reported, next.commanded⟩, sent⟩
    intro orderId processed
    rcases List.mem_cons.mp processed with rfl | old
    · exact sent
    · exact next.paying.emitted orderId old

/-- An execution of `emitReply` commits that no workflow waits for. -/
theorem Invariant.emitLate (invariant : Invariant system) {input : ChargeWorkflowInput} {outcome : ProviderResult}
    {stamp : Stamp} (asked : (input, outcome) ∈ system.emitReplies) (fresh : system.Fresh stamp)
    (calm : ¬ (Event.emitLate input outcome).Conflicts system) :
    Invariant { system with payment := system.payment.emitReply input outcome stamp } := by
  refine (invariant.emitReply fresh fun unprocessed => ?_).1
  rcases invariant.paying.asked _ asked with failed | decided
  · have charge : system.charge input.orderId = some (some false) := charge_found failed
    cases ok : outcome.ok with
    | false => exact Or.inl charge
    | true =>
      have sound := invariant.sound input.orderId
      rw [charge] at sound
      rcases sound.waits_or_cancelled with waits | cancelled
      · exact absurd ⟨failed, ok, unprocessed, waits⟩ calm
      · exact Or.inr ⟨rfl, charge, cancelled⟩
  · exact Or.inl decided

/-- The `emitReply` activity is tried again, or given up. -/
theorem Invariant.retried (invariant : Invariant system) {input : ChargeWorkflowInput} {outcome : ProviderResult}
    {attempts : Nat} (found : system.workflow orderId = some (.emitting input outcome attempts))
    (relied : maximumAttempts ≤ attempts + 1 → outcome.ok = true →
      system.status orderId ≠ some .confirmed ∧ ¬ system.Announced orderId) :
    Invariant { system with payment := system.payment.setWorkflow orderId <|
      if attempts + 1 < maximumAttempts then .emitting input outcome (attempts + 1) else .failed } := by
  have works : input.orderId = orderId := invariant.paying.works orderId _ found
  split
  · exact invariant.again found rfl works rfl nofun
  · rename_i last
    refine invariant.fails found rfl fun undeclined => ?_
    have ok : outcome.ok = true := by
      rw [← Bool.not_eq_false]
      exact fun declined => undeclined (congrArg some declined)
    exact (relied (not_lt.mp last) ok).imp_right fun unannounced _ => unannounced

/-- The steps of the payment service that no message starts. -/
theorem Invariant.signal (invariant : Invariant system) (orderId : Uuid) (result : ProviderResult) :
    Invariant { system with payment := system.payment.signalProviderResult orderId result } := by
  unfold Db.signalProviderResult
  split
  · rename_i input reconciled attempts found
    have works : input.orderId = orderId := invariant.paying.works orderId _ found
    exact invariant.again found rfl works rfl nofun
  · exact invariant

/-- What the workflow of a decided charge has asked for is remembered. -/
theorem Invariant.ask (invariant : Invariant system) {more : List (ChargeWorkflowInput × ProviderResult)}
    (decided : ∀ asked ∈ more, system.charge asked.1.orderId = some (some asked.2.ok)) :
    Invariant { system with emitReplies := more ++ system.emitReplies } := by
  refine ⟨⟨invariant.paying.works, invariant.paying.truthful, invariant.paying.distinct, invariant.paying.emitted,
    invariant.paying.completed, fun asked member => ?_⟩, invariant.sound, invariant.charged, invariant.apart,
    invariant.stocked, invariant.settled, invariant.heard, invariant.reported, invariant.commanded⟩
  rcases List.mem_append.mp member with new | old
  · exact Or.inr (decided asked new)
  · exact invariant.paying.asked asked old

theorem Invariant.decided (invariant : Invariant system) {failAtCents : Int}
    (calm : ¬ (Event.charged orderId failAtCents).Conflicts system) :
    Invariant { system with
      payment := system.payment.charged orderId failAtCents
      emitReplies := system.payment.asked orderId failAtCents ++ system.emitReplies } := by
  unfold Db.charged Db.asked
  split
  · rename_i input reconciled attempts found
    have works : input.orderId = orderId := invariant.paying.works orderId _ found
    have emitting : Invariant { system with
        payment := system.payment.setWorkflow orderId
          (.emitting input (reconciled.getD (charge failAtCents input.totalCents)) 0) } := by
      refine invariant.moved found rfl works nofun ?_ ?_ nofun nofun
      · intro confirmed declined
        exact calm ⟨input, reconciled, attempts, found, Or.inr ⟨Option.some.inj declined, confirmed⟩⟩
      · intro cancelled paid
        exact calm ⟨input, reconciled, attempts, found, Or.inl ⟨Option.some.inj paid, cancelled⟩⟩
    refine emitting.ask (List.forall_mem_singleton.mpr ?_)
    rw [charge_set, if_pos works]
    rfl
  · exact invariant

theorem Invariant.threw (invariant : Invariant system) (calm : ¬ (Event.chargeThrows orderId).Conflicts system) :
    Invariant { system with payment := system.payment.chargeThrows orderId } := by
  unfold Db.chargeThrows
  split
  · rename_i input reconciled attempts found
    have works : input.orderId = orderId := invariant.paying.works orderId _ found
    split
    · exact invariant.again found rfl works rfl nofun
    · rename_i last
      refine invariant.fails found rfl fun _ => ⟨fun confirmed => ?_, nofun⟩
      exact calm ⟨input, reconciled, attempts, found, not_lt.mp last, confirmed⟩
  · exact invariant

theorem Invariant.closed (invariant : Invariant system) (calm : ¬ (Event.close orderId).Conflicts system) :
    Invariant { system with payment := system.payment.close orderId } := by
  unfold Db.close
  split
  · rename_i workflow found
    split
    · rename_i running
      refine invariant.fails found running fun undeclined => ⟨fun confirmed => ?_, fun _ announced => ?_⟩
      · exact calm ⟨workflow, found, running, undeclined, Or.inl confirmed⟩
      · exact calm ⟨workflow, found, running, undeclined, Or.inr announced⟩
    · exact invariant
  · exact invariant

theorem Invariant.emit (invariant : Invariant system) {result : RequestResult} {stamp : Stamp} (fresh : system.Fresh stamp)
    (calm : ¬ (Event.emit orderId result).Conflicts system) :
    Invariant { system with payment := system.payment.emit orderId result stamp } := by
  unfold Db.emit
  split
  · rename_i input outcome attempts found
    have works : input.orderId = orderId := invariant.paying.works orderId _ found
    have decided : system.charge input.orderId = some (some outcome.ok) := by
      rw [works]
      exact charge_found found
    obtain ⟨next, sent⟩ := invariant.emitReply fresh fun _ => Or.inl decided
    have still : System.workflow { system with payment := system.payment.emitReply input outcome stamp } orderId =
        some (.emitting input outcome attempts) := by
      rw [System.workflow, Db.emitReply_workflows]
      exact found
    cases result with
    | done => exact next.again still rfl trivial rfl fun _ _ => works ▸ sent
    | lostAnswer =>
      refine next.retried still fun last ok => ?_
      exact absurd ⟨input, outcome, attempts, found, last, ok, Or.inl rfl⟩ calm
    | failed =>
      refine invariant.retried found fun last ok => ?_
      constructor
      · intro confirmed
        exact calm ⟨input, outcome, attempts, found, last, ok, Or.inr ⟨rfl, Or.inl confirmed⟩⟩
      · intro announced
        exact calm ⟨input, outcome, attempts, found, last, ok, Or.inr ⟨rfl, Or.inr announced⟩⟩
  · exact invariant

/-- A ChargePayment is handled: if its order has had no charge, it has one now. -/
theorem Invariant.command (invariant : Invariant system) {row : OutboxRow} {recovers : Bool} {stamp : Stamp}
    {payment : PaymentService.Db} (sent : row ∈ system.commands orderId) (fresh : system.Fresh stamp)
    (handled : system.payment.handleCommand row.envelope row.payload recovers stamp = some payment) :
    Invariant { system with payment } ∧ System.charge { system with payment } orderId ≠ none := by
  obtain ⟨type, ⟨totalCents, payload⟩, placed, reserved⟩ := invariant.charged orderId row sent
  have type : row.envelope.eventType = .chargePayment := type
  unfold Db.handleCommand at handled
  rw [type, payload] at handled
  cases handled
  unfold Db.startCharge
  split
  · rename_i absent
    refine ⟨invariant.started absent rfl placed reserved, ?_⟩
    rw [charge_set, if_pos rfl]
    exact nofun
  · rename_i result found
    have decided : system.charge orderId = some (some result.ok) := charge_found found
    split
    · refine ⟨invariant.replied fresh (Or.inl decided) .., ?_⟩
      exact decided.trans_ne nofun
    · exact ⟨invariant, decided.trans_ne nofun⟩
  · rename_i workflow _ found
    have started : system.charge orderId = some workflow.verdict := charge_found found
    exact ⟨invariant, started.trans_ne nofun⟩

end payment

end FoodDelivery.ChargeSaga
