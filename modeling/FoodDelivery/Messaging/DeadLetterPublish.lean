import Mathlib.Logic.Function.Basic
import FoodDelivery.Lib.History
import FoodDelivery.Messaging.DeadLetter

namespace FoodDelivery.Messaging.DeadLetterPublish

open CommitLog
open Consumer (DropReason dlqPublishAttempts)
open DeadLetter (RawInboundMessage DeadLetterValue buildDeadLetterMessage)
open Relay (OutboundKafkaMessage)

/-- The arguments of a call of `publishDeadLetter`. -/
structure Letter where
  raw : RawInboundMessage
  reason : DropReason
  failureReason : String

def Letter.message (letter : Letter) : OutboundKafkaMessage DeadLetterValue :=
  buildDeadLetterMessage letter.raw letter.reason letter.failureReason

/-- `dlqProducerPromise`. A connect is steady while Kafka has been reachable
ever since it began. -/
inductive DlqProducerPromise
  | null
  | connecting (steady : Bool)
  | connected
  | rejected
  deriving DecidableEq, Repr

/-- A call of `publishDeadLetter`, at each of its awaits. -/
inductive Call
  | idle
  | awaiting (letter : Letter) (attempt : Nat)
  | publishing (letter : Letter) (attempt : Nat) (steady : Bool)
  | sleeping (letter : Letter) (attempt : Nat)
  | returned (letter : Letter) (published : Bool)

def Call.active : Call → Bool
  | .idle => false
  | .returned _ _ => false
  | _ => true

/-- One `KafkaConsumerSubscriber` and its broker. Which calls have run while
Kafka was reachable, and how often each has published, is kept for the
statements only. -/
structure Subscriber where
  up : Bool
  dlqProducerPromise : DlqProducerPromise
  calls : Nat → Call
  accepted : List (Nat × OutboundKafkaMessage DeadLetterValue)
  reachable : Nat → Bool
  publishes : Nat → Nat

inductive Event
  | goesDown
  | comesUp
  | start (call : Nat) (letter : Letter)
  | connects (succeeds : Bool)
  | resume (call : Nat)
  | publishes (call : Nat) (result : RequestResult)
  | wake (call : Nat)

namespace Subscriber

def empty (up : Bool) : Subscriber where
  up := up
  dlqProducerPromise := .null
  calls _ := .idle
  accepted := []
  reachable _ := false
  publishes _ := 0

def setCall (s : Subscriber) (call : Nat) (stage : Call) : Subscriber :=
  { s with calls := Function.update s.calls call stage }

/-- `deadLetterProducer`, which connects only once. -/
def deadLetterProducer (s : Subscriber) : DlqProducerPromise :=
  match s.dlqProducerPromise with
  | .null => .connecting s.up
  | promise => promise

/-- The head of the loop. -/
def attempt (s : Subscriber) (call : Nat) (letter : Letter) (attempt : Nat) : Subscriber :=
  if attempt ≤ dlqPublishAttempts then
    { s.setCall call (.awaiting letter attempt) with dlqProducerPromise := s.deadLetterProducer }
  else s.setCall call (.returned letter false)

/-- The `catch` of the loop. -/
def attemptFails (s : Subscriber) (call : Nat) (letter : Letter) (attempt : Nat) : Subscriber :=
  if attempt ≥ dlqPublishAttempts then s.setCall call (.returned letter false)
  else s.setCall call (.sleeping letter attempt)

def publish (s : Subscriber) (call : Nat) (letter : Letter) (attempt : Nat) : Subscriber :=
  { s.setCall call (.publishing letter attempt s.up) with
    publishes := Function.update s.publishes call (s.publishes call + 1) }

/-- The end of a publish, which the broker may have accepted although it fails. -/
def published (s : Subscriber) (call : Nat) (letter : Letter) (attempt : Nat) : RequestResult → Subscriber
  | .done => { s.setCall call (.returned letter true) with accepted := (call, letter.message) :: s.accepted }
  | .lostAnswer => { s.attemptFails call letter attempt with accepted := (call, letter.message) :: s.accepted }
  | .failed => s.attemptFails call letter attempt

/-- Kafka goes down under everything that is in flight. -/
def goesDown (s : Subscriber) : Subscriber :=
  { s with
    up := false
    dlqProducerPromise := match s.dlqProducerPromise with
      | .connecting _ => .connecting false
      | promise => promise
    calls := fun call => match s.calls call with
      | .publishing letter attempt _ => .publishing letter attempt false
      | stage => stage
    reachable := fun call => s.reachable call && !(s.calls call).active }

/-- One step of the broker, of the shared connect or of one call. What is
steady does not fail. -/
def step (s : Subscriber) : Event → Option Subscriber
  | .goesDown => some s.goesDown
  | .comesUp => some { s with up := true }
  | .start call letter =>
    match s.calls call with
    | .idle => some { s.attempt call letter 1 with reachable := Function.update s.reachable call s.up }
    | _ => none
  | .connects succeeds =>
    match s.dlqProducerPromise with
    | .connecting steady =>
      if succeeds then some { s with dlqProducerPromise := .connected }
      else if steady then none
      else some { s with dlqProducerPromise := .rejected }
    | _ => none
  | .resume call =>
    match s.calls call, s.dlqProducerPromise with
    | .awaiting letter attempt, .connected => some (s.publish call letter attempt)
    | .awaiting letter attempt, .rejected => some (s.attemptFails call letter attempt)
    | _, _ => none
  | .publishes call result =>
    match s.calls call with
    | .publishing letter attempt steady =>
      if steady ∧ result ≠ .done then none else some (s.published call letter attempt result)
    | _ => none
  | .wake call =>
    match s.calls call with
    | .sleeping letter attempt => some (s.attempt call letter (attempt + 1))
    | _ => none

/-- A call returns true only if the broker has accepted its record. -/
def Truthful (s : Subscriber) : Prop :=
  ∀ call letter, s.calls call = .returned letter true → (call, letter.message) ∈ s.accepted

def Bounded (s : Subscriber) : Prop := ∀ call, s.publishes call ≤ dlqPublishAttempts

/-- A call during which Kafka has been reachable returns true. -/
def Recovers (s : Subscriber) : Prop :=
  ∀ call letter published, s.calls call = .returned letter published → s.reachable call = true → published = true

end Subscriber

abbrev Run : List (Commit Subscriber Event) → Subscriber → Prop :=
  History (fun s => ∃ up, s = .empty up) fun _ event s s' => s.step event = some s'

/-- No call during which Kafka has been reachable finds at its last attempt
that an earlier connect was rejected. -/
def Unremembered (commit : Commit Subscriber Event) : Prop :=
  ∀ call letter attempt, commit.act = .resume call → commit.before.calls call = .awaiting letter attempt →
    dlqPublishAttempts ≤ attempt → commit.before.reachable call = true → commit.before.dlqProducerPromise ≠ .rejected

/-- How far a call has come by the number of its publishes, and what it has
achieved. -/
def Call.Kept (accepted : List (Nat × OutboundKafkaMessage DeadLetterValue)) (call publishes : Nat) : Call → Prop
  | .idle => publishes = 0
  | .awaiting _ attempt => publishes < attempt ∧ attempt ≤ dlqPublishAttempts
  | .publishing _ attempt _ => publishes ≤ attempt ∧ attempt ≤ dlqPublishAttempts
  | .sleeping _ attempt => publishes ≤ attempt ∧ attempt < dlqPublishAttempts
  | .returned letter published => publishes ≤ dlqPublishAttempts ∧ (published = true → (call, letter.message) ∈ accepted)

/-- What holds of a call during which Kafka has been reachable. -/
def Call.Steady (up : Bool) : Call → Prop
  | .publishing _ _ steady => up = true ∧ steady = true
  | stage => stage.active = true → up = true

theorem Call.Kept.grows {accepted accepted' : List (Nat × OutboundKafkaMessage DeadLetterValue)} {call publishes : Nat}
    {stage : Call} (kept : stage.Kept accepted call publishes) (grows : accepted ⊆ accepted') :
    stage.Kept accepted' call publishes := by
  cases stage with
  | returned letter published => exact ⟨kept.1, fun true => grows (kept.2 true)⟩
  | idle => exact kept
  | awaiting _ _ => exact kept
  | publishing _ _ _ => exact kept
  | sleeping _ _ => exact kept

theorem Call.Kept.bounded {accepted : List (Nat × OutboundKafkaMessage DeadLetterValue)} {call publishes : Nat}
    {stage : Call} (kept : stage.Kept accepted call publishes) : publishes ≤ dlqPublishAttempts := by
  cases stage with
  | idle =>
    have none : publishes = 0 := kept
    omega
  | awaiting letter attempt =>
    obtain ⟨below, last⟩ : publishes < attempt ∧ attempt ≤ dlqPublishAttempts := kept
    omega
  | publishing letter attempt steady => exact Nat.le_trans kept.1 kept.2
  | sleeping letter attempt => exact Nat.le_trans kept.1 (Nat.le_of_lt kept.2)
  | returned letter published => exact kept.1

theorem Call.Steady.up {up : Bool} {stage : Call} (steady : stage.Steady up) (active : stage.active = true) : up = true := by
  cases stage with
  | publishing _ _ _ => exact steady.1
  | idle => exact steady active
  | awaiting _ _ => exact steady active
  | sleeping _ _ => exact steady active
  | returned _ _ => exact steady active

namespace Subscriber

variable {s s' : Subscriber} {call : Nat} {event : Event}

/-- What a step does. -/
inductive Moves (s : Subscriber) : Event → Subscriber → Prop
  | goesDown : Moves s .goesDown s.goesDown
  | comesUp : Moves s .comesUp { s with up := true }
  | start {call letter} : s.calls call = .idle →
      Moves s (.start call letter) { s.attempt call letter 1 with reachable := Function.update s.reachable call s.up }
  | connects {succeeds promise} : Moves s (.connects succeeds) { s with dlqProducerPromise := promise }
  | publish {call letter attempt} : s.calls call = .awaiting letter attempt →
      Moves s (.resume call) (s.publish call letter attempt)
  | refused {call letter attempt} : s.calls call = .awaiting letter attempt → s.dlqProducerPromise = .rejected →
      Moves s (.resume call) (s.attemptFails call letter attempt)
  | published {call letter attempt steady result} : s.calls call = .publishing letter attempt steady →
      ¬ (steady = true ∧ result ≠ .done) → Moves s (.publishes call result) (s.published call letter attempt result)
  | wake {call letter attempt} : s.calls call = .sleeping letter attempt →
      Moves s (.wake call) (s.attempt call letter (attempt + 1))

theorem moves_of_step (step : s.step event = some s') : s.Moves event s' := by
  cases event with
  | goesDown =>
    cases step
    exact .goesDown
  | comesUp =>
    cases step
    exact .comesUp
  | start call letter =>
    simp only [Subscriber.step] at step
    split at step <;> cases step
    exact .start ‹_›
  | connects succeeds =>
    simp only [Subscriber.step] at step
    split at step
    · split at step
      · cases step
        exact .connects
      · split at step <;> cases step
        exact .connects
    · cases step
  | resume call =>
    simp only [Subscriber.step] at step
    split at step <;> cases step
    · exact .publish ‹_›
    · exact .refused ‹_› ‹_›
  | publishes call result =>
    simp only [Subscriber.step] at step
    split at step
    · split at step <;> cases step
      exact .published ‹_› ‹_›
    · cases step
  | wake call =>
    simp only [Subscriber.step] at step
    split at step <;> cases step
    exact .wake ‹_›

structure Invariant (s : Subscriber) : Prop where
  kept : ∀ call, (s.calls call).Kept s.accepted call (s.publishes call)
  steady : ∀ call, s.reachable call = true → (s.calls call).Steady s.up

theorem Invariant.empty (up : Bool) : (empty up).Invariant := ⟨fun _ => rfl, nofun⟩

/-- One call moves on. -/
theorem Invariant.moved {stage : Call} (invariant : s.Invariant) (calls : s'.calls = Function.update s.calls call stage)
    (up : s'.up = s.up) (grows : s.accepted ⊆ s'.accepted)
    (others : ∀ other, other ≠ call → s'.reachable other = s.reachable other ∧ s'.publishes other = s.publishes other)
    (kept : stage.Kept s'.accepted call (s'.publishes call)) (steady : s'.reachable call = true → stage.Steady s.up) :
    s'.Invariant := by
  refine ⟨fun other => ?_, fun other reachable => ?_⟩
  · by_cases same : other = call
    · subst same
      rwa [calls, Function.update_self]
    · rw [calls, Function.update_of_ne same, (others other same).2]
      exact (invariant.kept other).grows grows
  · rw [up]
    by_cases same : other = call
    · subst same
      rw [calls, Function.update_self]
      exact steady reachable
    · rw [calls, Function.update_of_ne same]
      exact invariant.steady other ((others other same).1.symm.trans reachable)

theorem attemptFails_eq (s : Subscriber) (call : Nat) (letter : Letter) (attempt : Nat) :
    ∃ stage, s.attemptFails call letter attempt = s.setCall call stage ∧
      (dlqPublishAttempts ≤ attempt ∧ stage = .returned letter false ∨
        attempt < dlqPublishAttempts ∧ stage = .sleeping letter attempt) := by
  unfold attemptFails
  split
  · rename_i last
    exact ⟨_, rfl, Or.inl ⟨last, rfl⟩⟩
  · rename_i last
    exact ⟨_, rfl, Or.inr ⟨not_le.mp last, rfl⟩⟩

theorem attemptFails_reachable (s : Subscriber) (call : Nat) (letter : Letter) (attempt : Nat) :
    (s.attemptFails call letter attempt).reachable = s.reachable := by
  obtain ⟨stage, same, -⟩ := s.attemptFails_eq call letter attempt
  rw [same]
  rfl

theorem attempt_eq (s : Subscriber) (call : Nat) (letter : Letter) {attempt : Nat} (more : attempt ≤ dlqPublishAttempts) :
    s.attempt call letter attempt =
      { s.setCall call (.awaiting letter attempt) with dlqProducerPromise := s.deadLetterProducer } := if_pos more

theorem Invariant.attemptFails {letter : Letter} {attempt : Nat} (invariant : s.Invariant)
    (active : (s.calls call).active = true) (below : s.publishes call ≤ attempt) :
    (s.attemptFails call letter attempt).Invariant := by
  obtain ⟨stage, same, ends⟩ := s.attemptFails_eq call letter attempt
  rw [same]
  have bounded := (invariant.kept call).bounded
  rcases ends with ⟨-, rfl⟩ | ⟨more, rfl⟩
  · exact invariant.moved rfl rfl (List.Subset.refl _) (fun _ _ => ⟨rfl, rfl⟩) ⟨bounded, nofun⟩ nofun
  · refine invariant.moved rfl rfl (List.Subset.refl _) (fun _ _ => ⟨rfl, rfl⟩) ⟨below, more⟩ fun reachable _ => ?_
    exact (invariant.steady call reachable).up active

theorem Invariant.accepts {accepted : List (Nat × OutboundKafkaMessage DeadLetterValue)} (invariant : s.Invariant)
    (grows : s.accepted ⊆ accepted) : Invariant { s with accepted } :=
  ⟨fun call => (invariant.kept call).grows grows, invariant.steady⟩

theorem Invariant.goesDown (invariant : s.Invariant) : s.goesDown.Invariant := by
  refine ⟨fun call => ?_, fun call reachable => ?_⟩
  · have before := invariant.kept call
    simp only [Subscriber.goesDown]
    cases stage : s.calls call <;> rw [stage] at before <;> exact before
  · have inactive : (s.calls call).active = false := by
      simp only [Subscriber.goesDown, Bool.and_eq_true, Bool.not_eq_true'] at reachable
      exact reachable.2
    simp only [Subscriber.goesDown]
    cases stage : s.calls call with
    | idle => exact nofun
    | returned _ _ => exact nofun
    | awaiting _ _ => rw [stage] at inactive; cases inactive
    | publishing _ _ _ => rw [stage] at inactive; cases inactive
    | sleeping _ _ => rw [stage] at inactive; cases inactive

theorem Invariant.published {letter : Letter} {attempt : Nat} {steady : Bool} (invariant : s.Invariant)
    (publishing : s.calls call = .publishing letter attempt steady) (result : RequestResult) :
    (s.published call letter attempt result).Invariant := by
  have kept := invariant.kept call
  have active : (s.calls call).active = true := by rw [publishing]; rfl
  rw [publishing] at kept
  have fails : (s.attemptFails call letter attempt).Invariant := invariant.attemptFails active kept.1
  cases result with
  | done =>
    refine invariant.moved rfl rfl (List.subset_cons_self ..) (fun _ _ => ⟨rfl, rfl⟩) ⟨kept.bounded, fun _ => ?_⟩ nofun
    exact List.mem_cons_self ..
  | lostAnswer =>
    refine fails.accepts ?_
    obtain ⟨stage, same, -⟩ := s.attemptFails_eq call letter attempt
    rw [same]
    exact List.subset_cons_self ..
  | failed => exact fails

theorem Invariant.comesUp (invariant : s.Invariant) : Invariant { s with up := true } := by
  refine ⟨invariant.kept, fun call reachable => ?_⟩
  have before := invariant.steady call reachable
  show (s.calls call).Steady true
  cases stage : s.calls call with
  | publishing _ _ _ =>
    rw [stage] at before
    exact ⟨rfl, before.2⟩
  | idle => exact fun _ => rfl
  | awaiting _ _ => exact fun _ => rfl
  | sleeping _ _ => exact fun _ => rfl
  | returned _ _ => exact fun _ => rfl

theorem Invariant.start {letter : Letter} (invariant : s.Invariant) (idle : s.calls call = .idle) :
    Invariant { s.attempt call letter 1 with reachable := Function.update s.reachable call s.up } := by
  rw [s.attempt_eq call letter (by decide)]
  have kept := invariant.kept call
  rw [idle] at kept
  refine invariant.moved rfl rfl (List.Subset.refl _) (fun other isOther => ⟨Function.update_of_ne isOther .., rfl⟩) ?_ ?_
  · have none : s.publishes call = 0 := kept
    exact ⟨by simp [setCall, none], by decide⟩
  · intro reachable _
    simpa using reachable

theorem Invariant.publish {letter : Letter} {attempt : Nat} (invariant : s.Invariant)
    (awaiting : s.calls call = .awaiting letter attempt) : (s.publish call letter attempt).Invariant := by
  have kept := invariant.kept call
  rw [awaiting] at kept
  have up (reachable : s.reachable call = true) : s.up = true := by
    refine (invariant.steady call reachable).up ?_
    rw [awaiting]
    rfl
  refine invariant.moved rfl rfl (List.Subset.refl _) (fun other isOther => ⟨rfl, Function.update_of_ne isOther ..⟩) ?_ ?_
  · refine ⟨?_, kept.2⟩
    have below : s.publishes call < attempt := kept.1
    simpa [Subscriber.publish] using Nat.succ_le_of_lt below
  · exact fun reachable => ⟨up reachable, up reachable⟩

theorem Invariant.refused {letter : Letter} {attempt : Nat} (invariant : s.Invariant)
    (awaiting : s.calls call = .awaiting letter attempt) : (s.attemptFails call letter attempt).Invariant := by
  have kept := invariant.kept call
  rw [awaiting] at kept
  refine invariant.attemptFails ?_ (Nat.le_of_lt kept.1)
  rw [awaiting]
  rfl

theorem Invariant.wake {letter : Letter} {attempt : Nat} (invariant : s.Invariant)
    (sleeping : s.calls call = .sleeping letter attempt) : (s.attempt call letter (attempt + 1)).Invariant := by
  have kept := invariant.kept call
  rw [sleeping] at kept
  obtain ⟨below, more⟩ : s.publishes call ≤ attempt ∧ attempt < dlqPublishAttempts := kept
  rw [s.attempt_eq call letter more]
  refine invariant.moved rfl rfl (List.Subset.refl _) (fun _ _ => ⟨rfl, rfl⟩) ⟨?_, more⟩ fun reachable _ => ?_
  · exact Nat.lt_succ_of_le below
  · refine (invariant.steady call reachable).up ?_
    rw [sleeping]
    rfl

theorem Invariant.step (invariant : s.Invariant) (step : s.step event = some s') : s'.Invariant := by
  cases moves_of_step step with
  | goesDown => exact invariant.goesDown
  | comesUp => exact invariant.comesUp
  | start idle => exact invariant.start idle
  | connects => exact ⟨invariant.kept, invariant.steady⟩
  | publish awaiting => exact invariant.publish awaiting
  | refused awaiting => exact invariant.refused awaiting
  | @published _ _ _ _ result publishing => exact invariant.published publishing result
  | wake sleeping => exact invariant.wake sleeping

theorem Invariant.truthful (invariant : s.Invariant) : s.Truthful := by
  intro call letter returned
  have kept := invariant.kept call
  rw [returned] at kept
  exact kept.2 rfl

theorem Invariant.bounded (invariant : s.Invariant) : s.Bounded := fun call => (invariant.kept call).bounded

/-- A call has returned before the step of another call, or by its own. -/
theorem returned_moved {moved : Nat} {letter : Letter} {published : Bool} {stage : Call}
    (returned : Function.update s.calls moved stage call = .returned letter published) :
    s.calls call = .returned letter published ∨ call = moved ∧ stage = .returned letter published := by
  by_cases same : call = moved
  · rw [same, Function.update_self] at returned
    exact Or.inr ⟨same, returned⟩
  · rw [Function.update_of_ne same] at returned
    exact Or.inl returned

theorem returned_attemptFails {moved attempt : Nat} {letter letter' : Letter} {published : Bool}
    (returned : (s.attemptFails moved letter' attempt).calls call = .returned letter published) :
    s.calls call = .returned letter published ∨ call = moved ∧ dlqPublishAttempts ≤ attempt := by
  obtain ⟨stage, same, ends⟩ := s.attemptFails_eq moved letter' attempt
  rw [same] at returned
  rcases returned_moved returned with before | ⟨isMoved, now⟩
  · exact Or.inl before
  · rcases ends with ⟨last, -⟩ | ⟨-, rfl⟩
    · exact Or.inr ⟨isMoved, last⟩
    · cases now

/-- A publish that fails has not been steady, so that Kafka has been away. -/
theorem Invariant.returned_published {letter letter' : Letter} {attempt moved : Nat} {steady published : Bool}
    {result : RequestResult} (invariant : s.Invariant) (publishing : s.calls moved = .publishing letter' attempt steady)
    (fails : ¬ (steady = true ∧ result ≠ .done))
    (returned : (s.published moved letter' attempt result).calls call = .returned letter published)
    (reachable : s.reachable call = true) : s.calls call = .returned letter published ∨ published = true := by
  have failed (unsteady : steady = false) (returned : (s.attemptFails moved letter' attempt).calls call = .returned letter published) :
      s.calls call = .returned letter published := by
    rcases returned_attemptFails returned with before | ⟨rfl, -⟩
    · exact before
    · have steadily := invariant.steady call reachable
      rw [publishing] at steadily
      cases steadily.2.symm.trans unsteady
  cases result with
  | done =>
    refine (returned_moved returned).imp_right fun now => ?_
    cases now.2
    rfl
  | lostAnswer => exact Or.inl (failed (by simpa using fails) returned)
  | failed => exact Or.inl (failed (by simpa using fails) returned)

theorem published_reachable (s : Subscriber) (moved : Nat) (letter : Letter) (attempt : Nat) (result : RequestResult) :
    (s.published moved letter attempt result).reachable = s.reachable := by
  cases result with
  | done => rfl
  | lostAnswer => exact s.attemptFails_reachable moved letter attempt
  | failed => exact s.attemptFails_reachable moved letter attempt

theorem attempt_returned {letter letter' : Letter} {attempt moved : Nat} {published : Bool} (more : attempt ≤ dlqPublishAttempts)
    (returned : (s.attempt moved letter' attempt).calls call = .returned letter published) :
    s.calls call = .returned letter published := by
  rw [s.attempt_eq moved letter' more] at returned
  rcases returned_moved returned with before | ⟨-, now⟩
  · exact before
  · cases now

/-- A call during which Kafka has been reachable returns true, except where it
finds the promise rejected at its last attempt. -/
theorem Invariant.returned_cases {letter : Letter} {published : Bool} (invariant : s.Invariant) (step : s.step event = some s')
    (returned : s'.calls call = .returned letter published) (reachable : s'.reachable call = true) :
    (s.calls call = .returned letter published ∧ s.reachable call = true) ∨ published = true ∨
      event = .resume call ∧ s.reachable call = true ∧ s.dlqProducerPromise = .rejected ∧
        ∃ letter attempt, s.calls call = .awaiting letter attempt ∧ dlqPublishAttempts ≤ attempt := by
  cases moves_of_step step with
  | goesDown =>
    simp only [Subscriber.goesDown, Bool.and_eq_true] at returned reachable
    refine Or.inl ⟨?_, reachable.1⟩
    cases stage : s.calls call <;> rw [stage] at returned <;> first | exact returned | cases returned
  | comesUp => exact Or.inl ⟨returned, reachable⟩
  | connects => exact Or.inl ⟨returned, reachable⟩
  | @start moved letter' idle =>
    have first : 1 ≤ dlqPublishAttempts := by decide
    have before : s.calls call = .returned letter published := attempt_returned first returned
    have isOther : call ≠ moved := by
      rintro rfl
      cases idle.symm.trans before
    simp only [Function.update_of_ne isOther] at reachable
    exact Or.inl ⟨before, reachable⟩
  | publish =>
    rcases returned_moved returned with before | ⟨-, now⟩
    · exact Or.inl ⟨before, reachable⟩
    · cases now
  | @refused moved letter' attempt awaiting rejected =>
    rw [s.attemptFails_reachable] at reachable
    rcases returned_attemptFails returned with before | ⟨rfl, last⟩
    · exact Or.inl ⟨before, reachable⟩
    · exact Or.inr (Or.inr ⟨rfl, reachable, rejected, letter', attempt, awaiting, last⟩)
  | published publishing fails =>
    rw [s.published_reachable] at reachable
    rcases invariant.returned_published publishing fails returned reachable with before | parked
    · exact Or.inl ⟨before, reachable⟩
    · exact Or.inr (Or.inl parked)
  | @wake moved letter' attempt sleeping =>
    have kept := invariant.kept moved
    rw [sleeping] at kept
    refine Or.inl ⟨attempt_returned kept.2 returned, ?_⟩
    rwa [s.attempt_eq moved letter' kept.2] at reachable

/-- A call that finds the promise rejected at its last attempt returns false. -/
theorem resume_rejected {letter : Letter} {attempt : Nat} (step : s.step (.resume call) = some s')
    (awaiting : s.calls call = .awaiting letter attempt) (rejected : s.dlqProducerPromise = .rejected)
    (last : dlqPublishAttempts ≤ attempt) :
    s'.calls call = .returned letter false ∧ s'.reachable call = s.reachable call := by
  simp only [Subscriber.step, awaiting, rejected, attemptFails, if_pos last] at step
  cases step
  exact ⟨Function.update_self .., rfl⟩

end Subscriber

variable {log : List (Commit Subscriber Event)} {s : Subscriber}

/-- Every call tells the truth within its attempts; and calls recover from
outages exactly as long as none meets a connect that failed before. -/
theorem Run.recovers (run : Run log s) : (∀ p, Seen log s p → p.Truthful ∧ p.Bounded) ∧
    ((∀ p, Seen log s p → p.Recovers) ↔ ∀ commit ∈ log, Unremembered commit) := by
  have start (s : Subscriber) (begins : ∃ up, s = .empty up) : s.Invariant := by
    obtain ⟨up, rfl⟩ := begins
    exact .empty up
  constructor
  · intro p seen
    have invariant := run.invariant_seen start (fun _ _ _ _ step invariant => invariant.step step) p seen
    exact ⟨invariant.truthful, invariant.bounded⟩
  · refine run.forall_iff_of_invariant (I := fun s => s.Invariant ∧ s.Recovers) ?_ (fun _ both => both.2) ?_ ?_
    · rintro s ⟨up, rfl⟩
      exact ⟨.empty up, nofun⟩
    · intro _ event s s' step unremembered ⟨invariant, recovers⟩
      refine ⟨invariant.step step, fun call letter published returned reachable => ?_⟩
      rcases invariant.returned_cases step returned reachable with ⟨before, reachable⟩ | done |
        ⟨rfl, reachable, rejected, letter', attempt, awaiting, last⟩
      · exact recovers call letter published before reachable
      · exact done
      · exact absurd rejected (unremembered call letter' attempt rfl awaiting last reachable)
    · intro _ event s s' step _ recovers call letter attempt resumes awaiting last reachable rejected
      obtain rfl : event = .resume call := resumes
      obtain ⟨returned, same⟩ := Subscriber.resume_rejected step awaiting rejected last
      cases recovers call letter false returned (same.trans reachable)

section samples

def sampleLetter : Letter where
  raw := DeadLetter.sampleRaw
  reason := .handlerExhausted
  failureReason := "payment failed"

def unrejected (s : Subscriber) (_ : Event) : Bool := s.dlqProducerPromise ≠ .rejected

/-- Kafka goes away once the producer has connected: a message is not parked.
It is back for the next one, which is. -/
theorem recovers_after_outage : ∃ log s, Run log s ∧ s.calls 0 = .returned sampleLetter false ∧
    s.calls 1 = .returned sampleLetter true ∧ s.reachable 1 = true ∧
    ∀ p, Seen log s p → p.Truthful ∧ p.Bounded ∧ p.Recovers := by
  obtain ⟨log, s, run, checked, lost, parked, reachable⟩ : ∃ log s, Run log s ∧
      (∀ c ∈ log, unrejected c.before c.act = true) ∧ s.calls 0 = .returned sampleLetter false ∧
      s.calls 1 = .returned sampleLetter true ∧ s.reachable 1 = true :=
    History.checked ⟨true, rfl⟩
      [.start 0 sampleLetter, .connects true, .resume 0, .goesDown, .publishes 0 .failed, .wake 0, .resume 0,
        .publishes 0 .failed, .wake 0, .resume 0, .publishes 0 .failed, .comesUp, .start 1 sampleLetter, .resume 1,
        .publishes 1 .done] ⟨_, rfl, rfl, rfl, rfl⟩
  obtain ⟨always, recovers⟩ := Run.recovers run
  refine ⟨log, s, run, lost, parked, reachable, fun p seen => ⟨(always p seen).1, (always p seen).2, ?_⟩⟩
  refine recovers.mpr (fun commit member _ _ _ _ _ _ _ rejected => ?_) p seen
  exact of_decide_eq_true (checked commit member) rejected

/-- The three attempts of a call. -/
def sampleAttempts (call : Nat) : List Event := [.resume call, .wake call, .resume call, .wake call, .resume call]

/-- Kafka is away when the first message is parked. It is back for the second,
which meets the failed connect all the same. -/
theorem outage_remembered : ∃ log s, Run log s ∧ ¬ s.Recovers := by
  obtain ⟨log, s, run, returned, reachable⟩ : ∃ log s, Run log s ∧ s.calls 1 = .returned sampleLetter false ∧
      s.reachable 1 = true := by
    refine History.carried ⟨false, rfl⟩ ([.start 0 sampleLetter, .connects false] ++ sampleAttempts 0 ++
      [.comesUp, .start 1 sampleLetter] ++ sampleAttempts 1) ⟨_, rfl, rfl, rfl⟩
  refine ⟨log, s, run, fun recovers => ?_⟩
  cases recovers 1 sampleLetter false returned reachable

end samples

end FoodDelivery.Messaging.DeadLetterPublish
