import FoodDelivery.Payment.Gateway

namespace FoodDelivery.PaymentService

open Messaging CommitLog

abbrev Run : List (Commit Service Action) → Service → Prop :=
  History (· = Service.initial) fun _ action service service' => service.step action = some service'

/-- The order for which an action executes `emitReply`. -/
def Action.emits : Action → Option Uuid
  | .emit orderId _ _ => some orderId
  | .emitLate input _ _ => some input.orderId
  | _ => none

/-- The three ways a step may leave the database: with nothing said, with a
recovered reply, or with the one reply of `emitReply`. -/
inductive Said (service service' : Service) (action : Action) : Prop
  | nothing : service'.db.outbox = service.db.outbox → service'.db.processedEvents = service.db.processedEvents →
      Said service service' action
  | recovered (row : OutboxRow) : action.emits = none → service'.emitReplies = service.emitReplies →
      service'.db.outbox = service.db.outbox ++ [row] → service'.db.processedEvents = service.db.processedEvents →
      Said service service' action
  | emitted (row : OutboxRow) (orderId : Uuid) : action.emits = some orderId → service'.emitReplies = service.emitReplies →
      service'.db.outbox = service.db.outbox ++ [row] → orderId ∉ service.db.processedEvents →
      service'.db.processedEvents = orderId :: service.db.processedEvents → Said service service' action

section said

variable {service service' : Service} {action : Action}

theorem Said.processed (said : Said service service' action) {orderId : Uuid} (known : orderId ∈ service.db.processedEvents) :
    orderId ∈ service'.db.processedEvents := by
  cases said with
  | nothing _ same => exact same ▸ known
  | recovered _ _ _ _ same => exact same ▸ known
  | emitted _ _ _ _ _ _ grown => exact grown ▸ List.mem_cons_of_mem _ known

theorem Said.of_emitReply {service : Service} {input : ChargeWorkflowInput} {outcome : ProviderResult} {stamp : Stamp}
    (outbox : service'.db.outbox = (service.db.emitReply input outcome stamp).outbox)
    (processed : service'.db.processedEvents = (service.db.emitReply input outcome stamp).processedEvents)
    (asked : service'.emitReplies = service.emitReplies) (emits : action.emits = some input.orderId) :
    Said service service' action := by
  unfold Db.emitReply at outbox processed
  split at outbox
  · rename_i known
    rw [if_pos known] at processed
    exact .nothing outbox processed
  · rename_i unknown
    rw [if_neg unknown] at processed
    exact .emitted _ input.orderId emits asked outbox unknown processed

theorem Said.start (call : Nat) (input : ChargeWorkflowInput) (result : RequestResult) :
    Said service (service.start call input result) action := by
  have quiet : (service.db.start input).outbox = service.db.outbox ∧
      (service.db.start input).processedEvents = service.db.processedEvents := by
    unfold Db.start
    split <;> simp [Db.setWorkflow]
  unfold Service.start
  split
  · exact .nothing rfl rfl
  · exact .nothing quiet.1 quiet.2
  · split
    · exact .nothing quiet.1 quiet.2
    · exact .nothing rfl rfl

theorem Said.describe {call : Nat} {input : ChargeWorkflowInput} {status : Option WorkflowStatus}
    (run : service.describe call input status = some service') : Said service service' action := by
  unfold Service.describe at run
  split at run
  · cases run
    exact .nothing rfl rfl
  · split at run
    · cases run
    · split at run
      · cases run
        exact .nothing rfl rfl
      · cases run

theorem Said.result {call : Nat} {input : ChargeWorkflowInput} {read : Bool}
    (run : service.result call input read = some service') : Said service service' action := by
  unfold Service.result at run
  split at run
  · cases run
    exact .nothing rfl rfl
  · cases run
    exact .nothing rfl rfl
  · cases run

theorem Said.append (call : Nat) (input : ChargeWorkflowInput) (outcome : ProviderResult) (result : RequestResult)
    (stamp : Stamp) :
    Said service (service.append call input outcome result stamp) (.append call result stamp) := by
  unfold Service.append
  by_cases failed : result = .failed
  · rw [if_pos failed]
    exact .nothing rfl rfl
  · rw [if_neg failed]
    exact .recovered _ rfl rfl rfl rfl

theorem Said.emit (invariant : service.Invariant) (orderId : Uuid) (result : RequestResult) (stamp : Stamp) :
    Said service { service with db := service.db.emit orderId result stamp } (.emit orderId result stamp) := by
  unfold Db.emit
  split
  · rename_i input outcome attempts found
    have stands := invariant.stands orderId
    rw [found] at stands
    have emits : (Action.emit orderId result stamp).emits = some input.orderId := congrArg some stands.1.symm
    cases result with
    | done => exact .of_emitReply rfl rfl rfl emits
    | lostAnswer => exact .of_emitReply rfl rfl rfl emits
    | failed => exact .nothing rfl rfl
  · exact .nothing rfl rfl

theorem Said.of_step (invariant : service.Invariant) (run : service.step action = some service') :
    Said service service' action := by
  cases Service.moves_of_step run with
  | call => exact .nothing rfl rfl
  | start => exact .start ..
  | describe _ said => exact .describe said
  | result _ read => exact .result read
  | append => exact .append ..
  | returns => exact .nothing rfl rfl
  | signal =>
    unfold Db.signalProviderResult
    split <;> exact .nothing rfl rfl
  | charged found =>
    simp only [Db.charged, found]
    exact .nothing rfl rfl
  | chargeThrows =>
    unfold Db.chargeThrows
    split <;> exact .nothing rfl rfl
  | emit => exact .emit invariant ..
  | emitLate => exact .of_emitReply rfl rfl rfl rfl
  | close => exact .nothing rfl rfl

end said

section run

variable {log : List (Commit Service Action)} {service : Service}

theorem Service.Invariant.of_run (run : Run log service) : service.Invariant := by
  refine run.invariant ?_ fun _ _ _ _ step invariant => invariant.step step
  rintro _ rfl
  exact Service.Invariant.initial

/-- A step in which `emitReply` appended a reply for the order. -/
def Emitted (orderId : Uuid) (commit : Commit Service Action) : Prop :=
  commit.act.emits = some orderId ∧ commit.after.db.outbox ≠ commit.before.db.outbox

theorem Emitted.processed {orderId : Uuid} {commit : Commit Service Action} (emitted : Emitted orderId commit)
    (said : Said commit.before commit.after commit.act) :
    orderId ∉ commit.before.db.processedEvents ∧ orderId ∈ commit.after.db.processedEvents := by
  obtain ⟨emits, changed⟩ := emitted
  cases said with
  | nothing same => exact absurd same changed
  | recovered _ silent => cases silent.symm.trans emits
  | emitted _ other emitsOther _ _ unknown grown =>
    cases emitsOther.symm.trans emits
    exact ⟨unknown, grown ▸ List.mem_cons_self ..⟩

/-- `emitReply` appends at most one reply for an order, which its
`processed_events` row remembers. -/
theorem emitted_once (run : Run log service) (orderId : Uuid) :
    (log.Pairwise fun later earlier => ¬ (Emitted orderId later ∧ Emitted orderId earlier)) ∧
      ∀ commit ∈ log, Emitted orderId commit → orderId ∈ service.db.processedEvents := by
  induction run with
  | start => simp
  | @commit log service action service' previous step ih =>
    obtain ⟨apart, known⟩ := ih
    have said := Said.of_step (Service.Invariant.of_run previous) step
    constructor
    · refine List.pairwise_cons.mpr ⟨?_, apart⟩
      rintro earlier member ⟨now, before⟩
      exact (now.processed said).1 (known earlier member before)
    · intro commit member emitted
      rcases List.mem_cons.mp member with rfl | old
      · exact (emitted.processed said).2
      · exact said.processed (known commit old emitted)

/-- A step that appends a reply finds the outcome fixed that the reply tells. -/
theorem appended_fixed (run : Run log service) :
    ∀ commit ∈ log, commit.after.db.outbox = commit.before.db.outbox ∨
      ∃ row outcome, commit.after.db.outbox = commit.before.db.outbox ++ [row] ∧
        commit.before.Fixed row.aggregateId outcome ∧ verdict row = some outcome.ok := by
  refine run.forall_commits fun log service action service' previous step => ?_
  have invariant := Service.Invariant.of_run previous
  have told (row : OutboxRow) (asked : service'.emitReplies = service.emitReplies)
      (appended : service'.db.outbox = service.db.outbox ++ [row]) :
      ∃ row outcome, service'.db.outbox = service.db.outbox ++ [row] ∧
        service.Fixed row.aggregateId outcome ∧ verdict row = some outcome.ok := by
    have member : row ∈ service'.db.outbox := by simp [appended]
    obtain ⟨-, outcome, fixed, speaks⟩ := (invariant.step step).told row member
    rw [Service.Fixed, asked] at fixed
    exact ⟨row, outcome, appended, fixed, speaks⟩
  cases Said.of_step invariant step with
  | nothing same => exact Or.inl same
  | recovered row _ asked appended => exact Or.inr (told row asked appended)
  | emitted row _ _ asked appended => exact Or.inr (told row asked appended)

/-- What the payment service says about an order in the course of a run. -/
structure OneVerdict (log : List (Commit Service Action)) (service : Service) (orderId : Uuid) : Prop where
  same : ∀ row ∈ rowsOf service.db.outbox orderId, ∀ row' ∈ rowsOf service.db.outbox orderId, verdict row = verdict row'
  returned : ∀ outcome, service.db.workflows orderId = some (.completed outcome) →
    ∀ row ∈ rowsOf service.db.outbox orderId, verdict row = some outcome.ok
  once : log.Pairwise fun later earlier => ¬ (Emitted orderId later ∧ Emitted orderId earlier)
  fixed : ∀ commit ∈ log, commit.after.db.outbox = commit.before.db.outbox ∨
    ∃ row outcome, commit.after.db.outbox = commit.before.db.outbox ++ [row] ∧
      commit.before.Fixed row.aggregateId outcome ∧ verdict row = some outcome.ok

/-- All replies for an order carry one verdict, the one its workflow has fixed
before any of them and returns. -/
theorem Run.one_verdict (run : Run log service) (orderId : Uuid) : OneVerdict log service orderId := by
  have invariant := Service.Invariant.of_run run
  have told (row : OutboxRow) (sent : row ∈ rowsOf service.db.outbox orderId) :
      ∃ outcome, service.Fixed orderId outcome ∧ verdict row = some outcome.ok := by
    obtain ⟨member, rfl⟩ := mem_rowsOf.mp sent
    exact (invariant.told row member).2
  refine ⟨?_, ?_, (emitted_once run orderId).1, appended_fixed run⟩
  · intro row sent row' sent'
    obtain ⟨outcome, fixed, speaks⟩ := told row sent
    obtain ⟨outcome', fixed', speaks'⟩ := told row' sent'
    rw [speaks, speaks', invariant.one orderId outcome outcome' fixed fixed']
  · intro outcome completed row sent
    have stands := invariant.stands orderId
    rw [completed] at stands
    obtain ⟨outcome', fixed, speaks⟩ := told row sent
    rw [speaks, invariant.one orderId outcome' outcome fixed stands.1]

/-- The order gets on: its workflow runs, or a reply for it has been appended. -/
def Service.Progresses (service : Service) (orderId : Uuid) : Prop :=
  (∃ workflow, service.db.workflows orderId = some workflow ∧ workflow.running = true) ∨
    ∃ row ∈ rowsOf service.db.outbox orderId, (verdict row).isSome

/-- The workflow of the order has closed without a result before `emitReply`
committed. -/
def Service.ClosedUnanswered (service : Service) (orderId : Uuid) : Prop :=
  service.db.workflows orderId = some .failed ∧ orderId ∉ service.db.processedEvents

theorem Service.Invariant.answered (invariant : service.Invariant) {orderId : Uuid}
    (known : orderId ∈ service.db.processedEvents) : service.Progresses orderId := by
  obtain ⟨row, member, mine⟩ := invariant.replied orderId known
  obtain ⟨-, outcome, -, told⟩ := invariant.told row member
  exact Or.inr ⟨row, mem_rowsOf.mpr ⟨member, mine⟩, by simp [told]⟩

/-- An order whose charge has been asked for gets on unless its workflow has
closed with nothing said. -/
theorem Service.Invariant.progresses_iff (invariant : service.Invariant) {orderId : Uuid}
    (started : service.db.workflows orderId ≠ none) : service.Progresses orderId ↔ ¬ service.ClosedUnanswered orderId := by
  constructor
  · rintro (⟨workflow, found, running⟩ | ⟨row, sent, -⟩) ⟨closed, unknown⟩
    · cases found.symm.trans closed
      cases running
    · obtain ⟨member, rfl⟩ := mem_rowsOf.mp sent
      exact unknown (invariant.told row member).1
  · intro not_closed
    have stands := invariant.stands orderId
    cases found : service.db.workflows orderId with
    | none => exact absurd found started
    | some workflow =>
      rw [found] at stands
      cases workflow with
      | charging input reconciled attempts => exact Or.inl ⟨_, found, rfl⟩
      | emitting input outcome attempts => exact Or.inl ⟨_, found, rfl⟩
      | completed outcome => exact invariant.answered stands.2
      | failed =>
        by_contra stuck
        exact not_closed ⟨found, fun known => stuck (invariant.answered known)⟩

/-- A call of `startCharge` that returns after Temporal has answered it leaves
its order with a running workflow or a reply, unless the workflow has closed
unanswered: a status other than COMPLETED passes for running. -/
theorem Run.progresses_iff_not_closed_unanswered (run : Run log service) :
    ∀ commit ∈ log, ∀ call input, commit.act = .returns call → commit.before.calls call = .returning input →
      (commit.after.Progresses input.orderId ↔ ¬ commit.before.ClosedUnanswered input.orderId) := by
  refine run.forall_commits ?_
  rintro log service action service' previous step call input rfl stage
  have invariant := Service.Invariant.of_run previous
  have started := invariant.knows call
  have same : service'.db = service.db := by
    cases Service.moves_of_step step
    rfl
  rw [stage] at started
  show service'.Progresses input.orderId ↔ _
  rw [Service.Progresses, same]
  exact invariant.progresses_iff started

end run

section samples

def sampleInput (correlationId : Uuid) : ChargeWorkflowInput where
  orderId := "order-1"
  totalCents := 1500
  correlationId := correlationId
  tenantId := "tenant-a"

def started : List Action :=
  [.call 0 (sampleInput "corr-1"), .start 0 .done, .returns 0]

/-- A charge, signalled and then told twice: by its workflow and, after a
duplicate command, by the recovery. -/
def charged : List Action := started ++
  [.signal "order-1" ⟨false, none⟩, .charged "order-1" 999, .emit "order-1" .lostAnswer ⟨"reply-1", "unused"⟩,
    .signal "order-1" ⟨true, none⟩, .emit "order-1" .done ⟨"reply-2", "unused"⟩,
    .call 1 (sampleInput "corr-2"), .start 1 .done, .describe 1 (some .completed), .result 1 true,
    .append 1 .done ⟨"reply-3", "unused"⟩]

theorem one_verdict_of_recovered_sample : ∃ log service, service.db.outbox.map verdict = [some false, some false] ∧
    OneVerdict log service "order-1" := by
  obtain ⟨log, service, run, outbox⟩ : ∃ log service, Run log service ∧
      service.db.outbox.map verdict = [some false, some false] := History.replayed charged ⟨_, rfl, rfl⟩
  exact ⟨log, service, outbox, run.one_verdict "order-1"⟩

/-- A call that finds the workflow running. -/
theorem progresses_of_running_sample : ∃ log service, Run log service ∧ ∃ commit ∈ log, commit.act = .returns 1 ∧
    commit.before.calls 1 = .returning (sampleInput "corr-2") ∧ commit.after.Progresses "order-1" := by
  obtain ⟨log, service, run, stage, unfailed⟩ : ∃ log service, Run log service ∧
      service.calls 1 = .returning (sampleInput "corr-2") ∧ service.db.workflows "order-1" ≠ some .failed :=
    History.replayed (started ++ [.call 1 (sampleInput "corr-2"), .start 1 .done, .describe 1 (some .running)])
      ⟨_, rfl, rfl, by decide⟩
  have returns : service.step (.returns 1) = some (service.setCall 1 .idle) := by simp only [Service.step, stage]
  have ended : Run _ _ := run.commit returns
  refine ⟨_, _, ended, _, List.mem_cons_self .., rfl, stage, ?_⟩
  refine (Run.progresses_iff_not_closed_unanswered ended _ (List.mem_cons_self ..) 1 (sampleInput "corr-2") rfl stage).mpr ?_
  rintro ⟨closed, -⟩
  exact unfailed closed

/-- Five failed attempts to send the reply close the workflow, and the command
that is to redrive the order is acknowledged as if it still ran. -/
theorem stranded_by_exhausted_reply : ∃ log service, Run log service ∧ ∃ commit ∈ log, commit.act = .returns 1 ∧
    commit.before.calls 1 = .returning (sampleInput "corr-2") ∧ ¬ commit.after.Progresses "order-1" := by
  obtain ⟨log, service, run, stage, closed, silent⟩ : ∃ log service, Run log service ∧
      service.calls 1 = .returning (sampleInput "corr-2") ∧ service.db.workflows "order-1" = some .failed ∧
      service.db.outbox = [] :=
    History.replayed (started ++ [.charged "order-1" 999] ++ List.replicate 5 (.emit "order-1" .failed ⟨"reply", "unused"⟩) ++
      [.call 1 (sampleInput "corr-2"), .start 1 .done, .describe 1 (some .failed)]) ⟨_, rfl, rfl, rfl, rfl⟩
  have returns : service.step (.returns 1) = some (service.setCall 1 .idle) := by simp only [Service.step, stage]
  refine ⟨_, _, run.commit returns, _, List.mem_cons_self .., rfl, stage, ?_⟩
  rintro (⟨workflow, found, running⟩ | ⟨row, sent, -⟩)
  · cases closed.symm.trans found
    cases running
  · have member : row ∈ service.db.outbox := (mem_rowsOf.mp sent).1
    rw [silent] at member
    cases member

end samples

end FoodDelivery.PaymentService
