import Mathlib.Data.Nat.Basic
import FoodDelivery.Lib.History
import FoodDelivery.Messaging.Envelope

namespace FoodDelivery.Messaging.Consumer

open CommitLog

inductive DropReason
  | undecodable
  | handlerExhausted
  deriving DecidableEq, Repr

def dlqPublishAttempts : Nat := 3

/-- One message handed to `consumeOneMessage`, with what its headers and
value decode to and what happens around it: the handler's result and the
dead-letter publish's result at each attempt, and the commit's. -/
structure Delivery where
  offset : Nat
  decoded : Except String EventEnvelopeHeaders
  handler : Nat → Except String Unit
  publish : Nat → Except String Unit
  commit : RequestResult

structure DeadLetter where
  offset : Nat
  reason : DropReason
  failureReason : String
  deriving DecidableEq, Repr

/-- A partition as the consumer group sees it, and what has been made of its
messages: the deliveries so far, the offsets handled without error, the
dead-letter topic and the last committed offset. -/
structure Partition where
  delivered : List Delivery
  handled : List Nat
  deadLettered : List DeadLetter
  committed : Option Nat

inductive HandlerOutcome
  | ok
  | failed (reason : String)
  deriving DecidableEq, Repr

/-- The loop over attempts, entered at `attempt` with at most `remaining`
iterations to go. -/
def attemptsFrom (run : Nat → Except String Unit) (maxAttempts : Nat) (attempt : Nat) : Nat → HandlerOutcome
  | 0 => .failed "retry budget exhausted"
  | remaining + 1 =>
    match run attempt with
    | .ok () => .ok
    | .error reason =>
      if attempt ≥ maxAttempts then .failed reason
      else attemptsFrom run maxAttempts (attempt + 1) remaining

def runHandlerWithRetry (handler : Nat → Except String Unit) (maxAttempts : Nat) : HandlerOutcome :=
  attemptsFrom handler maxAttempts 1 maxAttempts

def publishDeadLetter (publish : Nat → Except String Unit) : Bool :=
  attemptsFrom publish dlqPublishAttempts 1 dlqPublishAttempts = .ok

/-- The commit acknowledges everything up to the message, and the call
returns normally unless it throws. -/
def Delivery.commitTo (delivery : Delivery) (partition : Partition) : Partition × Bool :=
  match delivery.commit with
  | .done => ({ partition with committed := some (delivery.offset + 1) }, true)
  | .lostAnswer => ({ partition with committed := some (delivery.offset + 1) }, false)
  | .failed => (partition, false)

def deadLetterThenCommit (delivery : Delivery) (reason : DropReason) (failureReason : String)
    (partition : Partition) : Partition × Bool :=
  if publishDeadLetter delivery.publish then
    delivery.commitTo { partition with
      deadLettered := { offset := delivery.offset, reason, failureReason } :: partition.deadLettered }
  else (partition, true)

/-- The partition after the call, and whether the call returned normally. -/
def consumeOneMessage (maxAttempts : Nat) (delivery : Delivery) (partition : Partition) : Partition × Bool :=
  match delivery.decoded with
  | .error reason => deadLetterThenCommit delivery .undecodable reason partition
  | .ok _ =>
    match runHandlerWithRetry delivery.handler maxAttempts with
    | .ok => delivery.commitTo { partition with handled := delivery.offset :: partition.handled }
    | .failed reason => deadLetterThenCommit delivery .handlerExhausted reason partition

/-- The message decodes and some attempt of the handler succeeds. -/
def Delivery.Handles (maxAttempts : Nat) (delivery : Delivery) : Prop :=
  delivery.decoded.isOk ∧ runHandlerWithRetry delivery.handler maxAttempts = .ok

/-- The message is neither handled nor written to the dead-letter topic. -/
def Delivery.Abandons (maxAttempts : Nat) (delivery : Delivery) : Prop :=
  ¬ delivery.Handles maxAttempts ∧ publishDeadLetter delivery.publish = false

/-- The message is dealt with and the commit reaches the broker. -/
def Delivery.Commits (maxAttempts : Nat) (delivery : Delivery) : Prop :=
  ¬ delivery.Abandons maxAttempts ∧ delivery.commit ≠ .failed

/-- The call returns normally. -/
def Delivery.Returns (maxAttempts : Nat) (delivery : Delivery) : Prop :=
  delivery.Abandons maxAttempts ∨ delivery.commit = .done

instance (maxAttempts : Nat) (delivery : Delivery) : Decidable (delivery.Handles maxAttempts) :=
  inferInstanceAs (Decidable (_ ∧ _))

instance (maxAttempts : Nat) (delivery : Delivery) : Decidable (delivery.Abandons maxAttempts) :=
  inferInstanceAs (Decidable (_ ∧ _))

instance (maxAttempts : Nat) (delivery : Delivery) : Decidable (delivery.Commits maxAttempts) :=
  inferInstanceAs (Decidable (_ ∧ _))

def Partition.start : Partition where
  delivered := []
  handled := []
  deadLettered := []
  committed := none

/-- The offset was handled without error or stands in the dead-letter topic. -/
def Partition.Resolved (partition : Partition) (offset : Nat) : Prop :=
  offset ∈ partition.handled ∨ offset ∈ partition.deadLettered.map (·.offset)

/-- One call of `eachMessage`. Offsets increase, except that a message whose
call threw may be handed over again. -/
inductive Consumes (maxAttempts : Nat) : Delivery → Partition → Partition → Prop
  | next {delivery partition} :
      (∀ earlier ∈ partition.delivered, earlier.offset < delivery.offset ∨
        earlier.offset = delivery.offset ∧ ¬ earlier.Returns maxAttempts) →
      Consumes maxAttempts delivery partition
        { (consumeOneMessage maxAttempts delivery partition).1 with delivered := delivery :: partition.delivered }

/-- The sessions of one partition. -/
abbrev Session (maxAttempts : Nat) : List (Commit Partition Delivery) → Partition → Prop :=
  History (· = Partition.start) fun _ => Consumes maxAttempts

/-- Nothing below the committed offset was left undealt with. -/
def Partition.Acknowledged (partition : Partition) : Prop :=
  ∀ offset, partition.committed = some offset → ∀ delivery ∈ partition.delivered, delivery.offset < offset →
    partition.Resolved delivery.offset

/-- A delivery that commits finds no message abandoned before it, unless an
earlier delivery of that message had dealt with it. -/
def Harmless (maxAttempts : Nat) (c : Commit Partition Delivery) : Prop :=
  c.act.Commits maxAttempts → ∀ earlier ∈ c.before.delivered, earlier.Abandons maxAttempts →
    ∃ other ∈ c.before.delivered, other.offset = earlier.offset ∧ ¬ other.Abandons maxAttempts

variable {maxAttempts : Nat} {delivery : Delivery} {partition : Partition}

/-- The loop succeeds when one of the attempts left to it does. -/
theorem attemptsFrom_ok {run : Nat → Except String Unit} {attempt remaining : Nat}
    (budget : attempt + remaining = maxAttempts + 1) :
    attemptsFrom run maxAttempts attempt remaining = .ok ↔ ∃ n, attempt ≤ n ∧ n ≤ maxAttempts ∧ run n = .ok () := by
  induction remaining generalizing attempt with
  | zero =>
    constructor
    · intro run
      cases run
    · rintro ⟨n, lower, upper, -⟩
      omega
  | succ remaining ih =>
    unfold attemptsFrom
    split
    · rename_i ran
      exact ⟨fun _ => ⟨attempt, le_rfl, by omega, ran⟩, fun _ => rfl⟩
    · rename_i reason failed
      have others {n : Nat} (lower : attempt ≤ n) (ran : run n = .ok ()) : attempt + 1 ≤ n := by
        rcases Nat.eq_or_lt_of_le lower with rfl | above
        · cases failed.symm.trans ran
        · exact above
      split
      · rename_i last
        constructor
        · intro run
          cases run
        · rintro ⟨n, lower, upper, ran⟩
          have above := others lower ran
          omega
      · rw [ih (by omega)]
        constructor
        · rintro ⟨n, lower, upper, ran⟩
          exact ⟨n, by omega, upper, ran⟩
        · rintro ⟨n, lower, upper, ran⟩
          exact ⟨n, others lower ran, upper, ran⟩

/-- A message is abandoned when it does not decode or all its attempts fail,
and all attempts to publish its dead letter fail as well. -/
theorem Delivery.abandons_iff : delivery.Abandons maxAttempts ↔
    (delivery.decoded.isOk → ∀ n, 1 ≤ n → n ≤ maxAttempts → delivery.handler n ≠ .ok ()) ∧
      ∀ n, 1 ≤ n → n ≤ dlqPublishAttempts → delivery.publish n ≠ .ok () := by
  have handles : runHandlerWithRetry delivery.handler maxAttempts = .ok ↔ _ := attemptsFrom_ok (Nat.add_comm ..)
  have publishes : attemptsFrom delivery.publish dlqPublishAttempts 1 dlqPublishAttempts = .ok ↔ _ :=
    attemptsFrom_ok (Nat.add_comm ..)
  rw [Delivery.Abandons, Delivery.Handles, publishDeadLetter, decide_eq_false_iff_not, handles, publishes]
  push Not
  rfl

/-- An abandoned message leaves no trace, and its call returns normally. -/
theorem consumeOneMessage_abandons (abandons : delivery.Abandons maxAttempts) :
    consumeOneMessage maxAttempts delivery partition = (partition, true) := by
  obtain ⟨unhandled, unpublished⟩ := abandons
  have withheld (reason : DropReason) (failureReason : String) :
      deadLetterThenCommit delivery reason failureReason partition = (partition, true) := by
    rw [deadLetterThenCommit, unpublished, if_neg Bool.false_ne_true]
  unfold consumeOneMessage
  split
  · exact withheld _ _
  · rename_i envelope decoded
    split
    · rename_i ran
      exact absurd ⟨by rw [decoded]; rfl, ran⟩ unhandled
    · exact withheld _ _

/-- Any other message is recorded as dealt with and then committed. -/
theorem consumeOneMessage_resolves (partition : Partition) (kept : ¬ delivery.Abandons maxAttempts) :
    ∃ recorded, consumeOneMessage maxAttempts delivery partition = delivery.commitTo recorded ∧
      recorded.committed = partition.committed ∧ recorded.delivered = partition.delivered ∧
      ∀ offset, recorded.Resolved offset ↔ offset = delivery.offset ∨ partition.Resolved offset := by
  have letter (reason : DropReason) (failureReason : String) (unhandled : ¬ delivery.Handles maxAttempts) :
      ∃ recorded, deadLetterThenCommit delivery reason failureReason partition = delivery.commitTo recorded ∧
        recorded.committed = partition.committed ∧ recorded.delivered = partition.delivered ∧
        ∀ offset, recorded.Resolved offset ↔ offset = delivery.offset ∨ partition.Resolved offset := by
    have published : publishDeadLetter delivery.publish = true := by
      rw [← Bool.not_eq_false]
      exact fun unpublished => kept ⟨unhandled, unpublished⟩
    refine ⟨_, if_pos published, rfl, rfl, ?_⟩
    intro offset
    simp only [Partition.Resolved, List.map_cons, List.mem_cons]
    exact or_left_comm
  unfold consumeOneMessage
  split
  · rename_i reason undecodable
    refine letter _ _ ?_
    rintro ⟨decodes, -⟩
    rw [undecodable] at decodes
    cases decodes
  · split
    · refine ⟨_, rfl, rfl, rfl, ?_⟩
      intro offset
      simp only [Partition.Resolved, List.mem_cons]
      exact or_assoc
    · rename_i reason failed
      refine letter _ _ ?_
      rintro ⟨-, ran⟩
      rw [failed] at ran
      cases ran

/-- A call returns normally exactly when it abandons its message or its
commit does not throw. -/
theorem consumeOneMessage_returns :
    (consumeOneMessage maxAttempts delivery partition).2 = true ↔ delivery.Returns maxAttempts := by
  by_cases abandons : delivery.Abandons maxAttempts
  · rw [consumeOneMessage_abandons abandons]
    exact ⟨fun _ => Or.inl abandons, fun _ => rfl⟩
  · obtain ⟨recorded, same, -⟩ := consumeOneMessage_resolves partition abandons
    rw [same, Delivery.Returns, Delivery.commitTo]
    cases delivery.commit <;> simp [abandons]

/-- What is true of a partition in the middle of a session. -/
structure Partition.Sound (maxAttempts : Nat) (partition : Partition) : Prop where
  resolved : ∀ offset, partition.Resolved offset ↔
    ∃ delivery ∈ partition.delivered, delivery.offset = offset ∧ ¬ delivery.Abandons maxAttempts
  committed : ∀ offset, partition.committed = some offset → ∃ delivery ∈ partition.delivered,
    delivery.offset + 1 = offset

theorem Delivery.commitTo_resolved (offset : Nat) :
    (delivery.commitTo partition).1.Resolved offset ↔ partition.Resolved offset := by
  unfold Delivery.commitTo
  cases delivery.commit <;> exact Iff.rfl

theorem Delivery.commitTo_committed (delivery : Delivery) (partition : Partition) :
    (delivery.commitTo partition).1.committed =
      if delivery.commit = .failed then partition.committed else some (delivery.offset + 1) := by
  unfold Delivery.commitTo
  cases delivery.commit <;> rfl

theorem consumeOneMessage_committed (maxAttempts : Nat) (delivery : Delivery) (partition : Partition) :
    (consumeOneMessage maxAttempts delivery partition).1.committed =
      if delivery.Commits maxAttempts then some (delivery.offset + 1) else partition.committed := by
  by_cases abandons : delivery.Abandons maxAttempts
  · rw [consumeOneMessage_abandons abandons, if_neg fun commits => commits.1 abandons]
  · obtain ⟨recorded, same, sameCommitted, -⟩ := consumeOneMessage_resolves partition abandons
    rw [same, delivery.commitTo_committed, sameCommitted]
    by_cases fails : delivery.commit = .failed
    · rw [if_pos fails, if_neg fun commits => commits.2 fails]
    · rw [if_neg fails, if_pos ⟨abandons, fails⟩]

theorem consumeOneMessage_resolved (maxAttempts : Nat) (delivery : Delivery) (partition : Partition) (offset : Nat) :
    (consumeOneMessage maxAttempts delivery partition).1.Resolved offset ↔
      offset = delivery.offset ∧ ¬ delivery.Abandons maxAttempts ∨ partition.Resolved offset := by
  by_cases abandons : delivery.Abandons maxAttempts
  · rw [consumeOneMessage_abandons abandons]
    exact ⟨Or.inr, fun known => known.resolve_left fun new => new.2 abandons⟩
  · obtain ⟨recorded, same, -, -, sameResolved⟩ := consumeOneMessage_resolves partition abandons
    rw [same, Delivery.commitTo_resolved, sameResolved]
    exact or_congr_left ⟨fun new => ⟨new, abandons⟩, And.left⟩

/-- A message that is handed over a second time had been dealt with before. -/
theorem redelivered_kept {earlier : Delivery} {offset : Nat}
    (later : earlier.offset < offset ∨ earlier.offset = offset ∧ ¬ earlier.Returns maxAttempts)
    (same : earlier.offset = offset) : ¬ earlier.Abandons maxAttempts := by
  rcases later with below | ⟨-, threw⟩
  · omega
  · exact fun abandons => threw (Or.inl abandons)

theorem Consumes.sound {partition' : Partition} (step : Consumes maxAttempts delivery partition partition')
    (sound : partition.Sound maxAttempts) : partition'.Sound maxAttempts := by
  obtain ⟨resolved, committed⟩ := sound
  cases step with
  | next later =>
    constructor
    · intro offset
      refine (consumeOneMessage_resolved maxAttempts delivery partition offset).trans ?_
      rw [resolved]
      constructor
      · rintro (⟨rfl, kept⟩ | ⟨other, member, known⟩)
        · exact ⟨delivery, List.mem_cons_self .., rfl, kept⟩
        · exact ⟨other, List.mem_cons_of_mem _ member, known⟩
      · rintro ⟨other, member, same, kept⟩
        rcases List.mem_cons.mp member with rfl | old
        · exact Or.inl ⟨same.symm, kept⟩
        · exact Or.inr ⟨other, old, same, kept⟩
    · intro offset atOffset
      have written := (consumeOneMessage_committed maxAttempts delivery partition).symm.trans atOffset
      split at written
      · exact ⟨delivery, List.mem_cons_self .., Option.some.inj written⟩
      · obtain ⟨other, member, same⟩ := committed offset written
        exact ⟨other, List.mem_cons_of_mem _ member, same⟩

theorem Partition.Sound.resolved_of_kept (sound : partition.Sound maxAttempts) {other : Delivery}
    (member : other ∈ partition.delivered) (kept : ¬ other.Abandons maxAttempts) : partition.Resolved other.offset :=
  (sound.resolved other.offset).mpr ⟨other, member, rfl, kept⟩

/-- A delivery keeps the acknowledgements right exactly when it is harmless. -/
theorem Consumes.acknowledged_iff {partition' : Partition} (step : Consumes maxAttempts delivery partition partition')
    (sound : partition.Sound maxAttempts) (acknowledged : partition.Acknowledged) :
    partition'.Acknowledged ↔ Harmless maxAttempts ⟨partition, delivery, partition'⟩ := by
  have sound' := step.sound sound
  cases step with
  | next later =>
    have written := consumeOneMessage_committed maxAttempts delivery partition
    by_cases commits : delivery.Commits maxAttempts
    · rw [if_pos commits] at written
      constructor
      · intro acknowledged' _ earlier member abandons
        have below : earlier.offset < delivery.offset + 1 := by
          rcases later earlier member with below | ⟨same, -⟩ <;> omega
        have reached := acknowledged' _ written earlier (List.mem_cons_of_mem _ member) below
        obtain ⟨other, member', same, kept⟩ := (sound'.resolved _).mp reached
        rcases List.mem_cons.mp member' with rfl | old
        · exact absurd abandons (redelivered_kept (later earlier member) same.symm)
        · exact ⟨other, old, same, kept⟩
      · intro harmless offset _ other member _
        by_cases abandons : other.Abandons maxAttempts
        · rcases List.mem_cons.mp member with rfl | old
          · exact absurd abandons commits.1
          · obtain ⟨kept, member', same, isKept⟩ := harmless commits other old abandons
            exact same ▸ sound'.resolved_of_kept (List.mem_cons_of_mem _ member') isKept
        · exact sound'.resolved_of_kept member abandons
    · rw [if_neg commits] at written
      refine ⟨fun _ commits' => absurd commits' commits, fun _ offset atOffset other member below => ?_⟩
      have stood : partition.committed = some offset := written.symm.trans atOffset
      rcases List.mem_cons.mp member with rfl | old
      · obtain ⟨last, lastMember, next⟩ := sound.committed offset stood
        have same : last.offset = other.offset := by
          rcases later last lastMember with before | ⟨same, -⟩ <;> omega
        have kept := redelivered_kept (later last lastMember) same
        exact same ▸ sound'.resolved_of_kept (List.mem_cons_of_mem _ lastMember) kept
      · have known := acknowledged offset stood other old below
        exact (consumeOneMessage_resolved maxAttempts delivery partition _).mpr (Or.inr known)

theorem Session.sound {log : List (Commit Partition Delivery)} {partition : Partition}
    (session : Session maxAttempts log partition) : partition.Sound maxAttempts := by
  refine session.invariant ?_ fun _ _ _ _ step => step.sound
  rintro _ rfl
  refine ⟨fun offset => ⟨?_, ?_⟩, fun offset absent => by cases absent⟩
  · rintro (absent | absent) <;> cases absent
  · rintro ⟨delivery, absent, -⟩
    cases absent

/-- In every state of a session everything below the committed offset has
been handled or dead-lettered, exactly when no delivery commits after one
that left its message undealt with. -/
theorem Session.acknowledged_iff_harmless {log : List (Commit Partition Delivery)} {partition : Partition}
    (session : Session maxAttempts log partition) :
    (∀ state, Seen log partition state → state.Acknowledged) ↔ ∀ c ∈ log, Harmless maxAttempts c := by
  refine session.forall_iff ?_ ?_
  · rintro _ rfl offset absent
    cases absent
  · intro log partition delivery partition' previous step acknowledged
    exact step.acknowledged_iff (Session.sound previous) acknowledged

section sample

/-- A message that decodes, whose handler and dead-letter publish always fail. -/
def poisonDelivery (offset : Nat) : Delivery where
  offset := offset
  decoded := .ok { eventId := "event", eventType := .stockReserved, tenantId := "tenant", correlationId := "c" }
  handler _ := .error "database down"
  publish _ := .error "broker down"
  commit := .done

def goodDelivery (offset : Nat) : Delivery := { poisonDelivery offset with handler := fun _ => .ok () }

/-- A poisoned message is left for redelivery, the one after it is handled. -/
theorem sampleSession : ∃ log partition, Session 3 log partition ∧ partition.committed = some 2 ∧
    partition.delivered = [goodDelivery 1, poisonDelivery 0] ∧ ¬ partition.Resolved 0 := by
  have first := (History.start rfl : Session 3 [] Partition.start).commit
    (show Consumes 3 (poisonDelivery 0) _ _ from .next fun _ absent => by cases absent)
  have second := first.commit (show Consumes 3 (goodDelivery 1) _ _ from .next fun earlier member => by
    rw [List.mem_singleton.mp member]
    exact Or.inl Nat.zero_lt_one)
  refine ⟨_, _, second, rfl, rfl, ?_⟩
  rintro (handled | deadLettered)
  · revert handled
    decide
  · cases deadLettered

end sample

theorem acknowledged_of_sample_session : ∃ log partition, Session 3 log partition ∧ partition.committed = some 2 ∧
    ((∀ state, Seen log partition state → state.Acknowledged) ↔ ∀ c ∈ log, Harmless 3 c) := by
  obtain ⟨log, partition, session, committed, -⟩ := sampleSession
  exact ⟨log, partition, session, committed, session.acknowledged_iff_harmless⟩

/-- The commit of offset 2 acknowledges offset 0, which nobody has dealt with. -/
theorem acknowledged_broken_by_next_commit : ∃ log partition, Session 3 log partition ∧ ¬ partition.Acknowledged := by
  obtain ⟨log, partition, session, committed, delivered, unresolved⟩ := sampleSession
  refine ⟨log, partition, session, fun acknowledged => unresolved ?_⟩
  have member : poisonDelivery 0 ∈ partition.delivered := by
    rw [delivered]
    exact List.mem_cons_of_mem _ (List.mem_cons_self ..)
  exact acknowledged 2 committed _ member Nat.zero_lt_two

end FoodDelivery.Messaging.Consumer
