import FoodDelivery.Lib.History
import FoodDelivery.Payment.Workflow

namespace FoodDelivery.PaymentService

open Messaging

/-- How Temporal names the state of a workflow. -/
inductive WorkflowStatus
  | running
  | completed
  | failed
  | cancelled
  | terminated
  | timedOut
  deriving DecidableEq, Repr

/-- The names `describe` may give a workflow. -/
def Workflow.shows : Workflow → WorkflowStatus → Bool
  | .completed _, status => status = .completed
  | .failed, status => status ≠ .running ∧ status ≠ .completed
  | _, status => status = .running

/-- A call of `startCharge`: before `client.start`; refused as a duplicate;
told that the workflow has completed; with its result; or about to return
after all its requests to Temporal have succeeded. -/
inductive StartCharge
  | idle
  | starting (input : ChargeWorkflowInput)
  | describing (input : ChargeWorkflowInput)
  | reading (input : ChargeWorkflowInput)
  | appending (input : ChargeWorkflowInput) (result : ProviderResult)
  | returning (input : ChargeWorkflowInput)
  deriving DecidableEq, Repr

/-- The payment service: `emitReplies` are the executions of that activity
which workflows have asked for, `calls` the calls of `startCharge`. -/
structure Service where
  db : Db
  emitReplies : List (ChargeWorkflowInput × ProviderResult)
  calls : Nat → StartCharge

inductive Action
  | call (call : Nat) (input : ChargeWorkflowInput)
  | start (call : Nat) (result : RequestResult)
  | describe (call : Nat) (status : Option WorkflowStatus)
  | result (call : Nat) (read : Bool)
  | append (call : Nat) (result : RequestResult) (stamp : Stamp)
  | returns (call : Nat)
  | signal (orderId : Uuid) (result : ProviderResult)
  | charged (orderId : Uuid) (failAtCents : Int)
  | chargeThrows (orderId : Uuid)
  | emit (orderId : Uuid) (result : RequestResult) (stamp : Stamp)
  | emitLate (input : ChargeWorkflowInput) (outcome : ProviderResult) (stamp : Stamp)
  | close (orderId : Uuid)

/-- `client.start` with `REJECT_DUPLICATE`. -/
def Db.start (db : Db) (input : ChargeWorkflowInput) : Db :=
  match db.workflows input.orderId with
  | none => db.setWorkflow input.orderId (.charging input none 0)
  | some _ => db

namespace Service

def initial : Service where
  db := Db.empty
  emitReplies := []
  calls _ := .idle

def setCall (service : Service) (call : Nat) (stage : StartCharge) : Service :=
  { service with calls := Function.update service.calls call stage }

/-- `client.start` of a call. A request that throws ends the call. -/
def start (service : Service) (call : Nat) (input : ChargeWorkflowInput) : RequestResult → Service
  | .failed => service.setCall call .idle
  | .lostAnswer => { service with db := service.db.start input }.setCall call .idle
  | .done =>
    match service.db.workflows input.orderId with
    | none => { service with db := service.db.start input }.setCall call (.returning input)
    | some _ => service.setCall call (.describing input)

/-- `handle.describe()`: a failure is logged and the call returns. -/
def describe (service : Service) (call : Nat) (input : ChargeWorkflowInput) : Option WorkflowStatus → Option Service
  | none => some (service.setCall call .idle)
  | some status =>
    match service.db.workflows input.orderId with
    | none => none
    | some workflow =>
      if workflow.shows status then
        some (service.setCall call (if status = .completed then .reading input else .returning input))
      else none

/-- `handle.result()`: a failure is logged and the call returns. -/
def result (service : Service) (call : Nat) (input : ChargeWorkflowInput) (read : Bool) : Option Service :=
  match read, service.db.workflows input.orderId with
  | false, _ => some (service.setCall call .idle)
  | true, some (.completed result) => some (service.setCall call (.appending input result))
  | true, _ => none

/-- The transaction of the recovery; that it fails is logged. -/
def append (service : Service) (call : Nat) (input : ChargeWorkflowInput) (outcome : ProviderResult)
    (result : RequestResult) (stamp : Stamp) : Service :=
  let db := if result = .failed then service.db
    else service.db.append (outcome.reply input.orderId input.correlationId) input.tenantId stamp
  { service with db }.setCall call (.returning input)

/-- One step of the service. An execution of `emitReply` that a workflow has
asked for may still commit when the workflow no longer waits for it, and
Temporal may close a running workflow at any time. -/
def step (service : Service) : Action → Option Service
  | .call call input =>
    match service.calls call with
    | .idle => some (service.setCall call (.starting input))
    | _ => none
  | .start call result =>
    match service.calls call with
    | .starting input => some (service.start call input result)
    | _ => none
  | .describe call status =>
    match service.calls call with
    | .describing input => service.describe call input status
    | _ => none
  | .result call read =>
    match service.calls call with
    | .reading input => service.result call input read
    | _ => none
  | .append call result stamp =>
    match service.calls call with
    | .appending input outcome => some (service.append call input outcome result stamp)
    | _ => none
  | .returns call =>
    match service.calls call with
    | .returning _ => some (service.setCall call .idle)
    | _ => none
  | .signal orderId result => some { service with db := service.db.signalProviderResult orderId result }
  | .charged orderId failAtCents =>
    match service.db.workflows orderId with
    | some (.charging input reconciled _) => some { service with
        db := service.db.charged orderId failAtCents
        emitReplies := (input, reconciled.getD (charge failAtCents input.totalCents)) :: service.emitReplies }
    | _ => none
  | .chargeThrows orderId => some { service with db := service.db.chargeThrows orderId }
  | .emit orderId result stamp => some { service with db := service.db.emit orderId result stamp }
  | .emitLate input outcome stamp =>
    if (input, outcome) ∈ service.emitReplies then some { service with db := service.db.emitReply input outcome stamp }
    else none
  | .close orderId =>
    match service.db.workflows orderId with
    | some workflow => if workflow.running then some { service with db := service.db.setWorkflow orderId .failed } else none
    | none => none

/-- What each step does where it happens. -/
inductive Moves (service : Service) : Action → Service → Prop
  | call {call input} : service.calls call = .idle → Moves service (.call call input) (service.setCall call (.starting input))
  | start {call input result} : service.calls call = .starting input →
      Moves service (.start call result) (service.start call input result)
  | describe {call input status service'} : service.calls call = .describing input →
      service.describe call input status = some service' → Moves service (.describe call status) service'
  | result {call input read service'} : service.calls call = .reading input →
      service.result call input read = some service' → Moves service (.result call read) service'
  | append {call input outcome result stamp} : service.calls call = .appending input outcome →
      Moves service (.append call result stamp) (service.append call input outcome result stamp)
  | returns {call input} : service.calls call = .returning input →
      Moves service (.returns call) (service.setCall call .idle)
  | signal {orderId result} :
      Moves service (.signal orderId result) { service with db := service.db.signalProviderResult orderId result }
  | charged {orderId failAtCents input reconciled attempts} :
      service.db.workflows orderId = some (.charging input reconciled attempts) →
      Moves service (.charged orderId failAtCents) { service with
        db := service.db.charged orderId failAtCents
        emitReplies := (input, reconciled.getD (charge failAtCents input.totalCents)) :: service.emitReplies }
  | chargeThrows {orderId} : Moves service (.chargeThrows orderId) { service with db := service.db.chargeThrows orderId }
  | emit {orderId result stamp} :
      Moves service (.emit orderId result stamp) { service with db := service.db.emit orderId result stamp }
  | emitLate {input outcome stamp} : (input, outcome) ∈ service.emitReplies →
      Moves service (.emitLate input outcome stamp) { service with db := service.db.emitReply input outcome stamp }
  | close {orderId workflow} : service.db.workflows orderId = some workflow → workflow.running →
      Moves service (.close orderId) { service with db := service.db.setWorkflow orderId .failed }

theorem moves_of_step {service service' : Service} {action : Action} (run : service.step action = some service') :
    service.Moves action service' := by
  cases action with
  | call =>
    simp only [step] at run
    split at run <;> cases run
    exact .call ‹_›
  | start =>
    simp only [step] at run
    split at run <;> cases run
    exact .start ‹_›
  | describe =>
    simp only [step] at run
    split at run
    · exact .describe ‹_› run
    · cases run
  | result =>
    simp only [step] at run
    split at run
    · exact .result ‹_› run
    · cases run
  | append =>
    simp only [step] at run
    split at run <;> cases run
    exact .append ‹_›
  | returns =>
    simp only [step] at run
    split at run <;> cases run
    exact .returns ‹_›
  | signal =>
    cases run
    exact .signal
  | charged =>
    simp only [step] at run
    split at run <;> cases run
    exact .charged ‹_›
  | chargeThrows =>
    cases run
    exact .chargeThrows
  | emit =>
    cases run
    exact .emit
  | emitLate =>
    simp only [step] at run
    split at run <;> cases run
    exact .emitLate ‹_›
  | close =>
    simp only [step] at run
    split at run
    · split at run <;> cases run
      exact .close ‹_› ‹_›
    · cases run

/-- A call that nothing comes between does what `Db.startCharge` says. -/
theorem startCharge_alone (service : Service) (input : ChargeWorkflowInput) (recovers : Bool) (stamp : Stamp) {call : Nat}
    (idle : service.calls call = .idle) :
    ∃ actions : List Action, actions.foldlM step service =
      some { service with db := service.db.startCharge input recovers stamp } := by
  have settled : Function.update service.calls call .idle = service.calls := by
    rw [← idle, Function.update_eq_self]
  cases found : service.db.workflows input.orderId with
  | none =>
    refine ⟨[.call call input, .start call .done, .returns call], ?_⟩
    simp [step, idle, setCall, start, found, Db.startCharge, Db.start, settled]
  | some workflow =>
    cases workflow with
    | completed result =>
      cases recovers with
      | true =>
        refine ⟨[.call call input, .start call .done, .describe call (some .completed), .result call true,
          .append call .done stamp, .returns call], ?_⟩
        simp [step, idle, setCall, start, describe, Service.result, append, found, Workflow.shows, Db.startCharge, settled]
      | false =>
        refine ⟨[.call call input, .start call .done, .describe call none], ?_⟩
        simp [step, idle, setCall, start, describe, found, Db.startCharge, settled]
    | charging =>
      refine ⟨[.call call input, .start call .done, .describe call (some .running), .returns call], ?_⟩
      simp [step, idle, setCall, start, describe, found, Workflow.shows, Db.startCharge, settled]
    | emitting =>
      refine ⟨[.call call input, .start call .done, .describe call (some .running), .returns call], ?_⟩
      simp [step, idle, setCall, start, describe, found, Workflow.shows, Db.startCharge, settled]
    | failed =>
      refine ⟨[.call call input, .start call .done, .describe call (some .failed), .returns call], ?_⟩
      simp [step, idle, setCall, start, describe, found, Workflow.shows, Db.startCharge, settled]

end Service

/-- What a reply tells. -/
def verdict (row : OutboxRow) : Option Bool :=
  match row.eventType with
  | .paymentSucceeded => some true
  | .paymentFailed => some false
  | _ => none

theorem ProviderResult.reply_verdict (result : ProviderResult) (orderId correlationId tenantId : Uuid) (stamp : Stamp) :
    verdict ((result.reply orderId correlationId).toRow tenantId stamp) = some result.ok := by
  unfold ProviderResult.reply
  cases result.ok <;> rfl

namespace Service

variable {service : Service} {orderId : Uuid}

/-- The workflow of the order has fixed its outcome. -/
def Fixed (service : Service) (orderId : Uuid) (outcome : ProviderResult) : Prop :=
  ∃ input, (input, outcome) ∈ service.emitReplies ∧ input.orderId = orderId

/-- What the state of its workflow says about an order. -/
def Stands (service : Service) (orderId : Uuid) : Option Workflow → Prop
  | none => ∀ outcome, ¬ service.Fixed orderId outcome
  | some (.charging input _ _) => input.orderId = orderId ∧ ∀ outcome, ¬ service.Fixed orderId outcome
  | some (.emitting input outcome _) => input.orderId = orderId ∧ (input, outcome) ∈ service.emitReplies
  | some (.completed outcome) => service.Fixed orderId outcome ∧ orderId ∈ service.db.processedEvents
  | some .failed => True

/-- What a call has learned from Temporal. -/
def Knows (service : Service) : StartCharge → Prop
  | .describing input => service.db.workflows input.orderId ≠ none
  | .reading input => ∃ outcome, service.db.workflows input.orderId = some (.completed outcome)
  | .appending input outcome => service.db.workflows input.orderId = some (.completed outcome)
  | .returning input => service.db.workflows input.orderId ≠ none
  | _ => True

structure Invariant (service : Service) : Prop where
  stands : ∀ orderId, service.Stands orderId (service.db.workflows orderId)
  one : ∀ orderId outcome outcome', service.Fixed orderId outcome → service.Fixed orderId outcome' → outcome = outcome'
  told : ∀ row ∈ service.db.outbox, row.aggregateId ∈ service.db.processedEvents ∧
    ∃ outcome, service.Fixed row.aggregateId outcome ∧ verdict row = some outcome.ok
  replied : ∀ orderId ∈ service.db.processedEvents, ∃ row ∈ service.db.outbox, row.aggregateId = orderId
  knows : ∀ call, service.Knows (service.calls call)

theorem Invariant.initial : Invariant initial where
  stands _ _ := by simp [Fixed, Service.initial]
  one _ _ _ := by simp [Fixed, Service.initial]
  told _ := by simp [Service.initial, Db.empty]
  replied _ := by simp [Service.initial, Db.empty]
  knows _ := trivial

theorem Invariant.setCall (invariant : Invariant service) (call : Nat) {stage : StartCharge} (knows : service.Knows stage) :
    Invariant (service.setCall call stage) := by
  refine ⟨invariant.stands, invariant.one, invariant.told, invariant.replied, ?_⟩
  exact (Function.forall_update_iff service.calls fun _ => service.Knows).mpr ⟨knows, fun other _ => invariant.knows other⟩

/-- What calls have learned stays true, for a workflow never goes away and a
completed one stays as it is. -/
theorem Knows.setWorkflow {stage : StartCharge} (knows : service.Knows stage) {workflow : Workflow}
    (unfinished : ∀ outcome, service.db.workflows orderId ≠ some (.completed outcome)) :
    Knows { service with db := service.db.setWorkflow orderId workflow } stage := by
  have present (other : Uuid) (known : service.db.workflows other ≠ none) :
      (service.db.setWorkflow orderId workflow).workflows other ≠ none := by
    show Function.update service.db.workflows orderId (some workflow) other ≠ none
    rw [Function.update_apply]
    split
    · simp
    · exact known
  have completed (other : Uuid) (outcome : ProviderResult)
      (known : service.db.workflows other = some (.completed outcome)) :
      (service.db.setWorkflow orderId workflow).workflows other = some (.completed outcome) := by
    have different : other ≠ orderId := by
      rintro rfl
      exact unfinished outcome known
    exact (Function.update_of_ne different ..).trans known
  cases stage with
  | idle => trivial
  | starting input => trivial
  | describing input => exact present _ knows
  | reading input =>
    obtain ⟨outcome, found⟩ := knows
    exact ⟨outcome, completed _ outcome found⟩
  | appending input outcome => exact completed _ outcome knows
  | returning input => exact present _ knows

/-- A workflow moves on. -/
theorem Invariant.setWorkflow (invariant : Invariant service) {workflow : Workflow}
    (unfinished : ∀ outcome, service.db.workflows orderId ≠ some (.completed outcome))
    (stands : service.Stands orderId (some workflow)) :
    Invariant { service with db := service.db.setWorkflow orderId workflow } := by
  refine ⟨?_, invariant.one, invariant.told, invariant.replied, fun call => (invariant.knows call).setWorkflow unfinished⟩
  exact (Function.forall_update_iff service.db.workflows service.Stands).mpr ⟨stands, fun other _ => invariant.stands other⟩

/-- The outcome that the workflow has fixed is told once more. -/
theorem Invariant.tell (invariant : Invariant service) {input : ChargeWorkflowInput} {outcome : ProviderResult}
    (fixed : service.Fixed input.orderId outcome) (stamp : Stamp) {processed : List Uuid}
    (grown : ∀ orderId, orderId ∈ processed ↔ orderId = input.orderId ∨ orderId ∈ service.db.processedEvents) :
    Invariant { service with db := { service.db.append (outcome.reply input.orderId input.correlationId) input.tenantId stamp with
      processedEvents := processed } } := by
  have sent : ((outcome.reply input.orderId input.correlationId).toRow input.tenantId stamp).aggregateId = input.orderId :=
    outcome.reply_aggregateId ..
  refine ⟨?_, invariant.one, ?_, ?_, invariant.knows⟩
  · intro orderId
    have stands := invariant.stands orderId
    cases found : service.db.workflows orderId with
    | none => simpa [Db.append, found, Stands, Fixed] using stands
    | some workflow =>
      cases workflow with
      | completed result =>
        rw [found] at stands
        simp only [Db.append, found]
        exact ⟨stands.1, (grown orderId).mpr (Or.inr stands.2)⟩
      | charging => simpa [Db.append, found, Stands, Fixed] using stands
      | emitting => simpa [Db.append, found, Stands, Fixed] using stands
      | failed => simp [Db.append, found, Stands]
  · intro row member
    rcases List.mem_append.mp member with old | new
    · obtain ⟨known, told⟩ := invariant.told row old
      exact ⟨(grown _).mpr (Or.inr known), told⟩
    · cases List.mem_singleton.mp new
      rw [sent]
      exact ⟨(grown _).mpr (Or.inl rfl), outcome, fixed, outcome.reply_verdict ..⟩
  · intro orderId known
    rcases (grown orderId).mp known with rfl | old
    · exact ⟨_, List.mem_append_right _ (List.mem_singleton_self _), sent⟩
    · obtain ⟨row, member, mine⟩ := invariant.replied orderId old
      exact ⟨row, List.mem_append_left _ member, mine⟩

theorem Invariant.emitReply (invariant : Invariant service) {input : ChargeWorkflowInput} {outcome : ProviderResult}
    (fixed : service.Fixed input.orderId outcome) (stamp : Stamp) :
    Invariant { service with db := service.db.emitReply input outcome stamp } := by
  unfold Db.emitReply
  split
  · exact invariant
  · exact invariant.tell fixed stamp fun _ => List.mem_cons

theorem Invariant.started (invariant : Invariant service) (input : ChargeWorkflowInput) :
    Invariant { service with db := service.db.start input } := by
  unfold Db.start
  split
  · rename_i absent
    have stands := invariant.stands input.orderId
    rw [absent] at stands
    exact invariant.setWorkflow (by simp [absent]) ⟨rfl, stands⟩
  · exact invariant

theorem Db.start_workflows (db : Db) (input : ChargeWorkflowInput) : (db.start input).workflows input.orderId ≠ none := by
  unfold Db.start
  split
  · simp [Db.setWorkflow]
  · simp_all

theorem Invariant.start (invariant : Invariant service) (call : Nat) (input : ChargeWorkflowInput) (result : RequestResult) :
    Invariant (service.start call input result) := by
  unfold Service.start
  split
  · exact invariant.setCall call trivial
  · exact (invariant.started input).setCall call trivial
  · split
    · exact (invariant.started input).setCall call (Db.start_workflows service.db input)
    · rename_i found
      exact invariant.setCall call (by simp [Knows, found])

theorem Invariant.describe (invariant : Invariant service) {call : Nat} {input : ChargeWorkflowInput}
    {status : Option WorkflowStatus} {service' : Service} (run : service.describe call input status = some service') :
    Invariant service' := by
  unfold Service.describe at run
  split at run
  · cases run
    exact invariant.setCall call trivial
  · split at run
    · cases run
    · rename_i workflow found
      split at run
      · rename_i shown
        cases run
        refine invariant.setCall call ?_
        split
        · rename_i completed
          subst completed
          cases workflow with
          | completed outcome => exact ⟨outcome, found⟩
          | _ => simp [Workflow.shows] at shown
        · simp [Knows, found]
      · cases run

theorem Invariant.result (invariant : Invariant service) {call : Nat} {input : ChargeWorkflowInput} {read : Bool}
    {service' : Service} (run : service.result call input read = some service') : Invariant service' := by
  unfold Service.result at run
  split at run
  · cases run
    exact invariant.setCall call trivial
  · rename_i found
    cases run
    exact invariant.setCall call found
  · cases run

theorem Invariant.append (invariant : Invariant service) (call : Nat) {input : ChargeWorkflowInput}
    {outcome : ProviderResult} (completed : service.db.workflows input.orderId = some (.completed outcome))
    (result : RequestResult) (stamp : Stamp) : Invariant (service.append call input outcome result stamp) := by
  have stands := invariant.stands input.orderId
  rw [completed] at stands
  have present : service.db.workflows input.orderId ≠ none := by simp [completed]
  unfold Service.append
  by_cases failed : result = .failed
  · simp only [if_pos failed]
    exact invariant.setCall call present
  · simp only [if_neg failed]
    refine (invariant.tell stands.1 stamp ?_).setCall call present
    intro orderId
    constructor
    · exact Or.inr
    · rintro (rfl | old)
      · exact stands.2
      · exact old

/-- The workflow fixes its outcome and asks for the reply. -/
theorem Invariant.charged (invariant : Invariant service) {input : ChargeWorkflowInput} {reconciled : Option ProviderResult}
    {attempts : Nat} (found : service.db.workflows orderId = some (.charging input reconciled attempts)) (failAtCents : Int) :
    Invariant { service with
      db := service.db.charged orderId failAtCents
      emitReplies := (input, reconciled.getD (charge failAtCents input.totalCents)) :: service.emitReplies } := by
  have stands := invariant.stands orderId
  rw [found] at stands
  obtain ⟨mine, undecided⟩ := stands
  simp only [Db.charged, found]
  generalize reconciled.getD (charge failAtCents input.totalCents) = outcome
  -- what is fixed after the step, before the workflow is set
  have fixed (other : Uuid) (result : ProviderResult) :
      Fixed { service with emitReplies := (input, outcome) :: service.emitReplies } other result ↔
        other = orderId ∧ result = outcome ∨ service.Fixed other result := by
    constructor
    · rintro ⟨asked, member, same⟩
      rcases List.mem_cons.mp member with new | old
      · cases new
        exact Or.inl ⟨same.symm.trans mine, rfl⟩
      · exact Or.inr ⟨asked, old, same⟩
    · rintro (⟨rfl, rfl⟩ | ⟨asked, member, same⟩)
      · exact ⟨input, List.mem_cons_self .., mine⟩
      · exact ⟨asked, List.mem_cons_of_mem _ member, same⟩
  refine ⟨?_, ?_, ?_, invariant.replied, fun call => (invariant.knows call).setWorkflow (by simp [found])⟩
  · intro other
    show Stands _ other (Function.update service.db.workflows orderId _ other)
    rw [Function.update_apply]
    split
    · rename_i same
      exact ⟨mine.trans same.symm, List.mem_cons_self ..⟩
    · rename_i different
      have same (result : ProviderResult) :
          Fixed { service with emitReplies := (input, outcome) :: service.emitReplies } other result ↔
            service.Fixed other result := by
        rw [fixed]
        simp [different]
      have before := invariant.stands other
      cases now : service.db.workflows other with
      | none =>
        rw [now] at before
        exact fun result known => before result ((same result).mp known)
      | some workflow =>
        rw [now] at before
        cases workflow with
        | charging => exact ⟨before.1, fun result known => before.2 result ((same result).mp known)⟩
        | emitting => exact ⟨before.1, List.mem_cons_of_mem _ before.2⟩
        | completed result => exact ⟨(same result).mpr before.1, before.2⟩
        | failed => trivial
  · intro other result result' known known'
    rcases (fixed other result).mp known with ⟨rfl, rfl⟩ | old
    · rcases (fixed other result').mp known' with ⟨-, rfl⟩ | old'
      · rfl
      · exact absurd old' (undecided result')
    · rcases (fixed other result').mp known' with ⟨rfl, rfl⟩ | old'
      · exact absurd old (undecided result)
      · exact invariant.one other result result' old old'
  · intro row member
    obtain ⟨processed, result, known, told⟩ := invariant.told row member
    exact ⟨processed, result, (fixed _ result).mpr (Or.inr known), told⟩

theorem Invariant.emit (invariant : Invariant service) (orderId : Uuid) (result : RequestResult) (stamp : Stamp) :
    Invariant { service with db := service.db.emit orderId result stamp } := by
  unfold Db.emit
  split
  · rename_i input outcome attempts found
    have stands := invariant.stands orderId
    rw [found] at stands
    obtain ⟨mine, asked⟩ := stands
    have fixed : service.Fixed input.orderId outcome := ⟨input, asked, rfl⟩
    have told := invariant.emitReply fixed stamp
    have still : (service.db.emitReply input outcome stamp).workflows orderId = some (.emitting input outcome attempts) := by
      rw [Db.emitReply_workflows]
      exact found
    have known : orderId ∈ (service.db.emitReply input outcome stamp).processedEvents := by
      unfold Db.emitReply
      split
      · rwa [← mine]
      · exact mine ▸ List.mem_cons_self ..
    -- an attempt that failed or lost its answer leads to the next, or ends the workflow
    have again (db : Db) (invariant : Invariant { service with db })
        (found : db.workflows orderId = some (.emitting input outcome attempts)) :
        Invariant { service with db := db.setWorkflow orderId <|
          if attempts + 1 < maximumAttempts then .emitting input outcome (attempts + 1) else .failed } := by
      refine invariant.setWorkflow (by simp [found]) ?_
      split
      · exact ⟨mine, asked⟩
      · trivial
    cases result with
    | done => exact told.setWorkflow (by simp [still]) ⟨mine ▸ fixed, known⟩
    | lostAnswer => exact again _ told still
    | failed => exact again _ invariant found
  · exact invariant

theorem Invariant.signal (invariant : Invariant service) (orderId : Uuid) (result : ProviderResult) :
    Invariant { service with db := service.db.signalProviderResult orderId result } := by
  unfold Db.signalProviderResult
  split
  · rename_i input reconciled attempts found
    have stands := invariant.stands orderId
    rw [found] at stands
    exact invariant.setWorkflow (by simp [found]) stands
  · exact invariant

theorem Invariant.threw (invariant : Invariant service) (orderId : Uuid) :
    Invariant { service with db := service.db.chargeThrows orderId } := by
  unfold Db.chargeThrows
  split
  · rename_i input reconciled attempts found
    have stands := invariant.stands orderId
    rw [found] at stands
    refine invariant.setWorkflow (by simp [found]) ?_
    split
    · exact stands
    · trivial
  · exact invariant

theorem Invariant.step (invariant : Invariant service) {action : Action} {service' : Service}
    (run : service.step action = some service') : Invariant service' := by
  cases moves_of_step run with
  | call => exact invariant.setCall _ trivial
  | start => exact invariant.start ..
  | describe _ said => exact invariant.describe said
  | result _ read => exact invariant.result read
  | @append call input outcome result stamp stage =>
    have knows := invariant.knows call
    rw [stage] at knows
    exact invariant.append call knows result stamp
  | returns => exact invariant.setCall _ trivial
  | signal => exact invariant.signal ..
  | charged found => exact invariant.charged found _
  | chargeThrows => exact invariant.threw _
  | emit => exact invariant.emit ..
  | @emitLate input outcome stamp asked => exact invariant.emitReply ⟨input, asked, rfl⟩ stamp
  | close found running =>
    refine invariant.setWorkflow ?_ trivial
    rintro outcome completed
    cases found.symm.trans completed
    cases running

end Service

end FoodDelivery.PaymentService
