import FoodDelivery.Messaging.Wire

namespace FoodDelivery.Messaging.Pipeline

open CommitLog Redelivery
open Relay (OutboxEntry StoredEntry WireMessage Carries)
open Wire (envelope sampleEntry sampleMessage sampleOutbox samplePublished samplePayload_proper)

/-- A consumer group of one topic: the partition in which the broker puts a
key, where the group begins without a commit, and what the handler does to its
database, where it may throw. -/
structure Subscription (D : Type) where
  topic : String
  partitionOf : String → Nat
  fromBeginning : Bool
  maxAttempts : Nat
  work : DeadLetter.EventEnvelopeHeaders → Option JsonValue → D → Option D
  empty : D

/-- Where the call for a message is: before one of its attempts, after the
last one has failed, or after the message has been dealt with. -/
inductive Stage
  | attempt (n : Nat)
  | exhausted
  | resolved
  deriving DecidableEq, Repr

/-- A client that consumes a partition, at the offset of its next message. -/
structure Session where
  partition : Nat
  position : Nat
  stage : Stage
  deriving DecidableEq, Repr

/-- From the outbox to the database of the consumers: `applied` lists what
the handler's transactions have been committed for. -/
structure State (D : Type) where
  relay : Relay.State JsonValue
  committed : Nat → Option Nat
  sessions : Nat → Option Session
  processedEvents : List Uuid
  applied : List (DeadLetter.EventEnvelopeHeaders × Option JsonValue)
  db : D

variable {D : Type}

namespace State

def setSession (id : Nat) (session : Option Session) (state : State D) : State D :=
  { state with sessions := fun other => if other = id then session else state.sessions other }

def commitOffset (partition offset : Nat) (state : State D) : State D :=
  { state with committed := fun other => if other = partition then some offset else state.committed other }

end State

/-- `IdempotentConsumer.runOnce` in a transaction, which is undone where the work throws. -/
def runOnce (work : DeadLetter.EventEnvelopeHeaders → Option JsonValue → D → Option D) (envelope : DeadLetter.EventEnvelopeHeaders)
    (payload : Option JsonValue) (state : State D) : Option (State D) :=
  if envelope.eventId ∈ state.processedEvents then some state
  else (work envelope payload state.db).map fun db =>
    { state with
      processedEvents := state.processedEvents ++ [envelope.eventId]
      applied := state.applied ++ [(envelope, payload)]
      db }

namespace Subscription

variable (sub : Subscription D)

def start : State D where
  relay := .start
  committed _ := none
  sessions _ := none
  processedEvents := []
  applied := []
  db := sub.empty

/-- What the broker holds of a partition; the offset is the place in the list. -/
def messages (relay : Relay.State JsonValue) (partition : Nat) : List WireMessage :=
  (relay.accepted sub.topic).filter fun message => sub.partitionOf message.key = partition

/-- The offset at which a client that is assigned a partition begins. -/
def begins (state : State D) (partition : Nat) : Nat :=
  (state.committed partition).getD (if sub.fromBeginning then 0 else (sub.messages state.relay partition).length)

def first : Stage := if sub.maxAttempts = 0 then .exhausted else .attempt 1

def retry (n : Nat) : Stage := if n ≥ sub.maxAttempts then .exhausted else .attempt (n + 1)

/-- One attempt of `consumeOneMessage`, with what becomes of the handler's transaction. -/
def attempt (id : Nat) (session : Session) (n : Nat) (message : WireMessage) (result : RequestResult) (state : State D) : State D :=
  match Wire.decode sub.topic session.partition (toString session.position) message with
  | .error _ => state.setSession id (some { session with stage := .exhausted })
  | .ok decoded =>
    match if result = .failed then none else runOnce sub.work decoded.envelope decoded.payload state with
    | none => state.setSession id (some { session with stage := sub.retry n })
    | some state =>
      state.setSession id (some { session with stage := if result = .done then .resolved else sub.retry n })

/-- `deadLetter`: without it the message is left behind uncommitted. -/
def deadLetter (id : Nat) (session : Session) (published : Bool) (state : State D) : State D :=
  state.setSession id (some
    (if published then { session with stage := .resolved }
    else { session with position := session.position + 1, stage := sub.first }))

/-- `commit`: where it throws, the client hands the same message over again or goes on. -/
def commit (id : Nat) (session : Session) (result : RequestResult) (again : Bool) (state : State D) : State D :=
  let stored := if result = .failed then state else state.commitOffset session.partition (session.position + 1)
  stored.setSession id (some
    (if result ≠ .done ∧ again then { session with stage := sub.first }
    else { session with position := session.position + 1, stage := sub.first }))

end Subscription

inductive Act
  | relay (step : Relay.Step JsonValue)
  | assign (id partition : Nat)
  | attempt (id : Nat) (result : RequestResult)
  | deadLetter (id : Nat) (published : Bool)
  | commit (id : Nat) (result : RequestResult) (again : Bool)
  | stop (id : Nat)

/-- A client may be assigned a partition that others still consume, and may
stop at any point. -/
inductive Steps (sub : Subscription D) : Act → State D → State D → Prop
  | relay {step state relay} : Relay.Steps JsonText.stringify step state.relay relay →
      Steps sub (.relay step) state { state with relay }
  | assign {id state} (partition : Nat) : state.sessions id = none →
      Steps sub (.assign id partition) state
        (state.setSession id (some { partition, position := sub.begins state partition, stage := sub.first }))
  | attempt {id state session n message} (result : RequestResult) : state.sessions id = some session → session.stage = .attempt n →
      (sub.messages state.relay session.partition)[session.position]? = some message →
      Steps sub (.attempt id result) state (sub.attempt id session n message result state)
  | deadLetter {id state session} (published : Bool) : state.sessions id = some session → session.stage = .exhausted →
      Steps sub (.deadLetter id published) state (sub.deadLetter id session published state)
  | commit {id state session} (result : RequestResult) (again : Bool) : state.sessions id = some session →
      session.stage = .resolved → Steps sub (.commit id result again) state (sub.commit id session result again state)
  | stop {id state} : Steps sub (.stop id) state (state.setSession id none)

abbrev Run (sub : Subscription D) : List (Commit (State D) Act) → State D → Prop :=
  History (· = sub.start) fun _ => Steps sub

/-- No message is given up, and no client without a commit begins behind a message. -/
def Attends (sub : Subscription D) (c : Commit (State D) Act) : Prop :=
  match c.act with
  | .assign _ partition => sub.begins c.before partition = 0 ∨ c.before.committed partition ≠ none
  | .deadLetter _ _ => False
  | _ => True

section relay

variable {relay relay' : Relay.State JsonValue}

/-- The rows, without the columns that the relay writes. -/
def entries (relay : Relay.State JsonValue) : List (OutboxEntry JsonValue) := relay.outbox.map (·.entry)

theorem update_entries {write : List (StoredEntry JsonValue) → List (StoredEntry JsonValue)}
    (kept : ∀ outbox, (write outbox).map (·.entry) = outbox.map (·.entry)) (result : RequestResult) :
    entries (relay.update result write) = entries relay ∧ (relay.update result write).accepted = relay.accepted := by
  unfold Relay.State.update
  split
  · exact ⟨rfl, rfl⟩
  · exact ⟨kept relay.outbox, rfl⟩

theorem incrementAttempts_entries (ids : List Uuid) (outbox : List (StoredEntry JsonValue)) :
    (Relay.incrementAttempts outbox ids).map (·.entry) = outbox.map (·.entry) := by
  rw [Relay.incrementAttempts, List.map_map]
  refine List.map_congr_left fun row _ => ?_
  simp only [Function.comp_apply]
  split <;> rfl

theorem markPublished_entries (ids : List Uuid) (outbox : List (StoredEntry JsonValue)) :
    (Relay.markPublished outbox ids).map (·.entry) = outbox.map (·.entry) := by
  rw [Relay.markPublished, List.map_map]
  refine List.map_congr_left fun row _ => ?_
  simp only [Function.comp_apply]
  split <;> rfl

theorem publishBatch_grows (call : Relay.Call) (records : List (Relay.OutboxRecord JsonValue)) (topic : String) :
    relay.accepted topic <+: (relay.publishBatch JsonText.stringify call records).accepted topic := by
  simp only [Relay.State.publishBatch, Relay.sendBatch]
  exact List.prefix_append ..

/-- A call of the relay leaves the rows and only adds messages. -/
theorem runOnce_grows (call : Relay.Call) : entries (Relay.runOnce JsonText.stringify call relay).1 = entries relay ∧
    ∀ topic, relay.accepted topic <+: (Relay.runOnce JsonText.stringify call relay).1.accepted topic := by
  have same : entries relay = entries relay ∧ ∀ topic, relay.accepted topic <+: relay.accepted topic :=
    ⟨rfl, fun _ => List.prefix_rfl⟩
  unfold Relay.runOnce
  split
  · unfold Relay.drainBatch
    simp only
    split
    · exact same
    · split
      · obtain ⟨kept, accepted⟩ := update_entries (incrementAttempts_entries _) call.increment
        exact ⟨kept, fun topic => accepted ▸ publishBatch_grows call _ topic⟩
      · obtain ⟨kept, accepted⟩ := update_entries (markPublished_entries _) call.mark
        split
        · exact ⟨kept, fun topic => accepted ▸ publishBatch_grows call _ topic⟩
        · exact ⟨kept, fun topic => accepted ▸ publishBatch_grows call _ topic⟩
  · exact same

theorem steps_grow {step : Relay.Step JsonValue} (run : Relay.Steps JsonText.stringify step relay relay') :
    entries relay <+: entries relay' ∧ ∀ topic, relay.accepted topic <+: relay'.accepted topic := by
  cases run with
  | append =>
    refine ⟨?_, fun _ => List.prefix_rfl⟩
    simp only [entries, List.map_append]
    exact List.prefix_append ..
  | call =>
    obtain ⟨kept, accepted⟩ := @runOnce_grows relay _
    exact ⟨kept ▸ List.prefix_rfl, accepted⟩

end relay

section partitions

variable {sub : Subscription D} {relay relay' : Relay.State JsonValue} {partition : Nat}

/-- The entries that go to a partition of the topic. -/
def Subscription.entriesOn (sub : Subscription D) (relay : Relay.State JsonValue) (partition : Nat) : List (OutboxEntry JsonValue) :=
  (entries relay).filter fun entry => entry.topic = sub.topic ∧ sub.partitionOf entry.aggregateId = partition

/-- The events whose keys the broker puts in a partition. -/
def Subscription.appliedOn (sub : Subscription D) (state : State D) (partition : Nat) :
    List (DeadLetter.EventEnvelopeHeaders × Option JsonValue) :=
  state.applied.filter fun event => sub.partitionOf event.1.aggregateId = partition

/-- What the handler is given of an entry. -/
def event (entry : OutboxEntry JsonValue) : DeadLetter.EventEnvelopeHeaders × Option JsonValue := (envelope entry, some entry.payload)

theorem mem_entriesOn {entry : OutboxEntry JsonValue} : entry ∈ sub.entriesOn relay partition ↔
    entry ∈ entries relay ∧ entry.topic = sub.topic ∧ sub.partitionOf entry.aggregateId = partition := by
  rw [Subscription.entriesOn, List.mem_filter, decide_eq_true_eq]

theorem mem_messages {message : WireMessage} : message ∈ sub.messages relay partition ↔
    message ∈ relay.accepted sub.topic ∧ sub.partitionOf message.key = partition := by
  rw [Subscription.messages, List.mem_filter, decide_eq_true_eq]

theorem entries_nodup (sound : relay.Sound JsonText.stringify) : ((entries relay).map (·.id)).Nodup := by
  rw [entries, List.map_map]
  exact sound.distinct

theorem entry_unique (sound : relay.Sound JsonText.stringify) {entry other : OutboxEntry JsonValue} (member : entry ∈ entries relay)
    (memberToo : other ∈ entries relay) (same : entry.id = other.id) : entry = other :=
  List.inj_on_of_nodup_map (entries_nodup sound) member memberToo same

theorem entriesOn_nodup (sound : relay.Sound JsonText.stringify) (partition : Nat) :
    ((sub.entriesOn relay partition).map (·.id)).Nodup :=
  (List.Sublist.map _ List.filter_sublist).nodup (entries_nodup sound)

/-- A message of a partition carries an entry that goes there. -/
theorem carried_on (sound : relay.Sound JsonText.stringify) {message : WireMessage} (member : message ∈ sub.messages relay partition) :
    ∃ entry ∈ sub.entriesOn relay partition, Carries JsonText.stringify entry message := by
  obtain ⟨accepted, here⟩ := mem_messages.mp member
  obtain ⟨row, stored, onTopic, carries⟩ := sound.carried sub.topic message accepted
  rw [carries.key] at here
  exact ⟨row.entry, mem_entriesOn.mpr ⟨List.mem_map_of_mem stored, onTopic, here⟩, carries⟩

/-- The event ids of a partition are delivered in the order of the outbox. -/
theorem delivered_on (sound : relay.Sound JsonText.stringify) (sub : Subscription D) (partition : Nat) :
    ∃ k, Delivers ((sub.entriesOn relay partition).map fun entry => some entry.id)
      ((sub.messages relay partition).map fun message => message.headers.get "x-event-id") k := by
  obtain ⟨done, rest, -, -, -, through⟩ := sound.drained
  obtain ⟨k, -, delivers⟩ := through sub.topic
  -- an id tells whether its entry goes to the partition
  have part := delivers.filter fun id => id ∈ (sub.entriesOn relay partition).map fun entry => some entry.id
  have chosen {entry : OutboxEntry JsonValue} (member : entry ∈ entries relay) (onTopic : entry.topic = sub.topic) :
      some entry.id ∈ (sub.entriesOn relay partition).map (fun entry => some entry.id) ↔ sub.partitionOf entry.aggregateId = partition := by
    constructor
    · intro known
      obtain ⟨other, there, same⟩ := List.mem_map.mp known
      obtain ⟨stored, -, here⟩ := mem_entriesOn.mp there
      rwa [← entry_unique sound stored member (Option.some.inj same)]
    · exact fun here => List.mem_map_of_mem (mem_entriesOn.mpr ⟨member, onTopic, here⟩)
  have source : (Relay.topicIds sub.topic relay.outbox).filter (fun id => id ∈ (sub.entriesOn relay partition).map fun entry => some entry.id) =
      (sub.entriesOn relay partition).map fun entry => some entry.id := by
    conv_rhs => rw [Subscription.entriesOn, entries, List.filter_map, List.map_map]
    rw [Relay.topicIds, List.filter_map, List.filter_filter]
    refine congrArg (List.map _) (List.filter_congr fun row member => ?_)
    simp only [Function.comp_apply, Bool.decide_and]
    rw [Bool.and_comm]
    by_cases onTopic : row.entry.topic = sub.topic
    · simp only [onTopic, decide_true, Bool.true_and, decide_eq_decide]
      exact chosen (List.mem_map_of_mem member) onTopic
    · simp only [onTopic, decide_false, Bool.false_and]
  have sent : (relay.acceptedIds sub.topic).filter (fun id => id ∈ (sub.entriesOn relay partition).map fun entry => some entry.id) =
      (sub.messages relay partition).map fun message => message.headers.get "x-event-id" := by
    rw [Relay.State.acceptedIds, List.filter_map, Subscription.messages]
    refine congrArg (List.map _) (List.filter_congr fun message accepted => ?_)
    obtain ⟨row, stored, onTopic, carries⟩ := sound.carried sub.topic message accepted
    simp only [Function.comp_apply, carries.eventId, carries.key, decide_eq_decide]
    exact chosen (List.mem_map_of_mem stored) onTopic
  rw [source, sent] at part
  exact ⟨_, part⟩

end partitions

/-- The state after the handler's transaction for an entry. -/
def State.apply (state : State D) (entry : OutboxEntry JsonValue) (db : D) : State D :=
  { state with
    processedEvents := state.processedEvents ++ [entry.id]
    applied := state.applied ++ [event entry]
    db }

section attempts

variable {sub : Subscription D} {state : State D} {entry : OutboxEntry JsonValue} {message : WireMessage}

theorem retry_ne (n : Nat) : sub.retry n ≠ .resolved := by
  unfold Subscription.retry
  split <;> exact Stage.noConfusion

theorem first_ne : sub.first ≠ .resolved := by
  unfold Subscription.first
  split <;> exact Stage.noConfusion

theorem runOnce_eq_some {next : State D} (run : runOnce sub.work (envelope entry) (some entry.payload) state = some next) :
    next = state ∧ entry.id ∈ state.processedEvents ∨
      entry.id ∉ state.processedEvents ∧ ∃ db, sub.work (envelope entry) (some entry.payload) state.db = some db ∧
        next = state.apply entry db := by
  unfold runOnce at run
  split at run
  · next known =>
    cases run
    exact Or.inl ⟨rfl, known⟩
  · next new =>
    obtain ⟨db, works, rfl⟩ := Option.map_eq_some_iff.mp run
    exact Or.inr ⟨new, db, works, rfl⟩

/-- An attempt at a message of an entry commits the handler's work for it or
changes nothing, and the message counts as dealt with only when it is committed. -/
theorem attempt_cases (carries : Carries JsonText.stringify entry message) (proper : JsonText.Proper entry.payload) (id : Nat)
    (session : Session) (n : Nat) (result : RequestResult) :
    ∃ stage next, sub.attempt id session n message result state = next.setSession id (some { session with stage }) ∧
      (next = state ∨ entry.id ∉ state.processedEvents ∧ ∃ db, sub.work (envelope entry) (some entry.payload) state.db = some db ∧
        next = state.apply entry db) ∧
      (stage = .resolved → entry.id ∈ next.processedEvents) := by
  have decoded := Wire.decode_carried carries proper sub.topic session.partition (toString session.position)
  unfold Subscription.attempt
  split
  · exact ⟨_, state, rfl, Or.inl rfl, Stage.noConfusion⟩
  · next message decodes =>
    rw [decodes] at decoded
    split at decoded
    · cases Option.some.inj decoded
      split
      · exact ⟨_, state, rfl, Or.inl rfl, fun resolved => absurd resolved (retry_ne n)⟩
      · next next ran =>
        have run : runOnce sub.work (envelope entry) (some entry.payload) state = some next := by
          split at ran
          · cases ran
          · exact ran
        refine ⟨_, next, rfl, ?_, fun _ => ?_⟩
        · exact (runOnce_eq_some run).imp_left And.left
        · rcases runOnce_eq_some run with ⟨rfl, known⟩ | ⟨-, db, -, rfl⟩
          · exact known
          · exact List.mem_append_right _ (List.mem_singleton_self _)
    · cases decoded

end attempts

/-- What is always true of a pipeline: an event is applied at most once, each
one is an entry of the topic, and they make the database. -/
structure Applied (sub : Subscription D) (state : State D) : Prop where
  sound : state.relay.Sound JsonText.stringify
  processed : state.processedEvents = state.applied.map (·.1.eventId)
  distinct : (state.applied.map (·.1.eventId)).Nodup
  events : ∀ applied ∈ state.applied, ∃ entry ∈ entries state.relay, entry.topic = sub.topic ∧ applied = event entry
  made : state.applied.foldlM (fun db applied => sub.work applied.1 applied.2 db) sub.empty = some state.db

section applied

variable {sub : Subscription D} {state state' : State D} {entry : OutboxEntry JsonValue} {act : Act}

theorem Applied.setSession (applied : Applied sub state) (id : Nat) (session : Option Session) :
    Applied sub (state.setSession id session) := ⟨applied.sound, applied.processed, applied.distinct, applied.events, applied.made⟩

theorem Applied.commitOffset (applied : Applied sub state) (partition offset : Nat) :
    Applied sub (state.commitOffset partition offset) :=
  ⟨applied.sound, applied.processed, applied.distinct, applied.events, applied.made⟩

theorem Applied.relay {relay : Relay.State JsonValue} (applied : Applied sub state) (sound : relay.Sound JsonText.stringify)
    (grows : entries state.relay <+: entries relay) : Applied sub { state with relay } where
  sound := sound
  processed := applied.processed
  distinct := applied.distinct
  events := by
    intro known member
    obtain ⟨entry, stored, same⟩ := applied.events known member
    exact ⟨entry, grows.mem stored, same⟩
  made := applied.made

theorem Applied.apply (applied : Applied sub state) (member : entry ∈ entries state.relay) (onTopic : entry.topic = sub.topic)
    (new : entry.id ∉ state.processedEvents) {db : D} (works : sub.work (envelope entry) (some entry.payload) state.db = some db) :
    Applied sub (state.apply entry db) where
  sound := applied.sound
  processed := by
    simp only [State.apply, List.map_append, applied.processed]
    rfl
  distinct := by
    rw [applied.processed] at new
    simp only [State.apply, List.map_append]
    rw [List.nodup_append]
    refine ⟨applied.distinct, List.nodup_singleton _, ?_⟩
    rintro id known other added rfl
    have same : id = entry.id := List.mem_singleton.mp added
    exact new (same ▸ known)
  events := by
    intro known listed
    rcases List.mem_append.mp listed with old | added
    · exact applied.events known old
    · exact ⟨entry, member, onTopic, List.mem_singleton.mp added⟩
  made := by
    have next : sub.work (event entry).1 (event entry).2 state.db = some db := works
    simp only [State.apply, List.foldlM_append, applied.made, bind, Option.bind_some, List.foldlM_cons, List.foldlM_nil, next]
    rfl

theorem attempt_relay (id : Nat) (session : Session) (n : Nat) (message : WireMessage) (result : RequestResult) :
    (sub.attempt id session n message result state).relay = state.relay := by
  unfold Subscription.attempt
  split
  · rfl
  · split
    · rfl
    · next ran =>
      split at ran
      · cases ran
      · unfold runOnce at ran
        split at ran
        · cases ran
          rfl
        · obtain ⟨db, -, rfl⟩ := Option.map_eq_some_iff.mp ran
          rfl

theorem commit_relay (id : Nat) (session : Session) (result : RequestResult) (again : Bool) :
    (sub.commit id session result again state).relay = state.relay := by
  have stored : (if result = .failed then state else state.commitOffset session.partition (session.position + 1)).relay = state.relay := by
    split <;> rfl
  exact stored

theorem Steps.grow (step : Steps sub act state state') : entries state.relay <+: entries state'.relay ∧
    ∀ topic, state.relay.accepted topic <+: state'.relay.accepted topic := by
  have same (relay : Relay.State JsonValue) (kept : relay = state.relay) : entries state.relay <+: entries relay ∧
      ∀ topic, state.relay.accepted topic <+: relay.accepted topic :=
    kept ▸ ⟨List.prefix_rfl, fun _ => List.prefix_rfl⟩
  cases step with
  | relay step => exact steps_grow step
  | assign => exact same _ rfl
  | attempt => exact same _ (attempt_relay ..)
  | deadLetter => exact same _ rfl
  | commit => exact same _ (commit_relay ..)
  | stop => exact same _ rfl

theorem Steps.applied (step : Steps sub act state state') (applied : Applied sub state)
    (proper : ∀ entry ∈ entries state.relay, JsonText.Proper entry.payload) : Applied sub state' := by
  cases step with
  | relay step =>
    refine applied.relay ?_ (steps_grow step).1
    cases step with
    | append fresh => exact applied.sound.append fresh
    | call => exact applied.sound.runOnce _
  | assign => exact applied.setSession _ _
  | attempt result session_ stage message_ =>
    obtain ⟨entry, there, carries⟩ := carried_on applied.sound (List.mem_of_getElem? message_)
    obtain ⟨member, onTopic, -⟩ := mem_entriesOn.mp there
    obtain ⟨stage, next, same, changed, -⟩ := attempt_cases carries (proper entry member) _ _ _ result
    rw [same]
    rcases changed with rfl | ⟨new, db, works, rfl⟩
    · exact applied.setSession _ _
    · exact (applied.apply member onTopic new works).setSession _ _
  | deadLetter => exact applied.setSession _ _
  | @commit _ _ session result =>
    have stored : Applied sub (if result = .failed then state else state.commitOffset session.partition (session.position + 1)) := by
      split
      · exact applied
      · exact applied.commitOffset _ _
    exact stored.setSession _ _
  | stop => exact applied.setSession _ _

theorem Applied.start (sub : Subscription D) : Applied sub sub.start := by
  refine ⟨?_, rfl, List.nodup_nil, fun _ absent => absurd absent List.not_mem_nil, rfl⟩
  exact Relay.Run.sound (.start rfl)

theorem Run.applied {log : List (Commit (State D) Act)} (run : Run sub log state)
    (proper : ∀ entry ∈ entries state.relay, JsonText.Proper entry.payload) : Applied sub state := by
  induction run with
  | start first => exact first ▸ .start sub
  | commit _ step ih =>
    have before := fun entry member => proper entry (step.grow.1.mem member)
    exact step.applied (ih before) before

end applied

/-- The first messages of a partition exist and have been dealt with. -/
def Subscription.Past (sub : Subscription D) (state : State D) (partition n : Nat) : Prop :=
  n ≤ (sub.messages state.relay partition).length ∧ ∀ message ∈ (sub.messages state.relay partition).take n,
    ∃ id ∈ state.processedEvents, message.headers.get "x-event-id" = some id

/-- While nothing is given up or skipped: on each partition the first entries
have been applied, and no client or commit is ahead of them. -/
structure InOrder (sub : Subscription D) (state : State D) : Prop where
  through : ∀ partition, ∃ k, sub.appliedOn state partition = ((sub.entriesOn state.relay partition).take k).map event
  positions : ∀ id session, state.sessions id = some session → sub.Past state session.partition session.position ∧
    (session.stage = .resolved → sub.Past state session.partition (session.position + 1))
  commits : ∀ partition n, state.committed partition = some n → sub.Past state partition n

section order

variable {sub : Subscription D} {state state' : State D} {partition n : Nat} {entry : OutboxEntry JsonValue}

theorem messages_grow {relay relay' : Relay.State JsonValue} (grows : ∀ topic, relay.accepted topic <+: relay'.accepted topic)
    (partition : Nat) : sub.messages relay partition <+: sub.messages relay' partition :=
  (grows sub.topic).filter _

theorem entriesOn_grow {relay relay' : Relay.State JsonValue} (grows : entries relay <+: entries relay') (partition : Nat) :
    sub.entriesOn relay partition <+: sub.entriesOn relay' partition :=
  grows.filter _

theorem take_of_continued {α : Type} {first last : List α} (grows : first <+: last) (bound : n ≤ first.length) :
    last.take n = first.take n := by
  obtain ⟨more, rfl⟩ := grows
  exact List.take_append_of_le_length bound

theorem Past.later (past : sub.Past state partition n)
    (grows : ∀ topic, state.relay.accepted topic <+: state'.relay.accepted topic)
    (kept : ∀ id ∈ state.processedEvents, id ∈ state'.processedEvents) : sub.Past state' partition n := by
  have more := @messages_grow D sub _ _ grows partition
  refine ⟨past.1.trans more.length_le, ?_⟩
  rw [take_of_continued more past.1]
  intro message member
  obtain ⟨id, known, header⟩ := past.2 message member
  exact ⟨id, kept id known, header⟩

theorem Past.zero (sub : Subscription D) (state : State D) (partition : Nat) : sub.Past state partition 0 :=
  ⟨Nat.zero_le _, fun _ absent => by rw [List.take_zero] at absent; cases absent⟩

/-- A message that has been dealt with adds to the ones before it. -/
theorem Past.succ {message : WireMessage} (past : sub.Past state partition n)
    (at_ : (sub.messages state.relay partition)[n]? = some message) {id : Uuid} (known : id ∈ state.processedEvents)
    (header : message.headers.get "x-event-id" = some id) : sub.Past state partition (n + 1) := by
  refine ⟨(List.getElem?_eq_some_iff.mp at_).1, ?_⟩
  rw [List.take_add_one, at_, Option.toList_some]
  intro other member
  rcases List.mem_append.mp member with old | new
  · exact past.2 other old
  · cases List.mem_singleton.mp new
    exact ⟨id, known, header⟩

/-- The ids that have been processed of a partition are those of its applied entries. -/
theorem processed_on (applied : Applied sub state) {k : Nat}
    (through : sub.appliedOn state partition = ((sub.entriesOn state.relay partition).take k).map event)
    (member : entry ∈ sub.entriesOn state.relay partition) :
    entry.id ∈ state.processedEvents ↔ entry ∈ (sub.entriesOn state.relay partition).take k := by
  rw [applied.processed]
  constructor
  · intro known
    obtain ⟨done, listed, same⟩ := List.mem_map.mp known
    obtain ⟨other, stored, onTopic, rfl⟩ := applied.events done listed
    have identical : other = entry := entry_unique applied.sound stored (mem_entriesOn.mp member).1 same
    subst identical
    have here : event other ∈ sub.appliedOn state partition :=
      List.mem_filter.mpr ⟨listed, decide_eq_true (mem_entriesOn.mp member).2.2⟩
    rw [through] at here
    obtain ⟨taken, early, same⟩ := List.mem_map.mp here
    have known := (mem_entriesOn.mp (List.mem_of_mem_take early)).1
    rwa [entry_unique applied.sound known stored (congrArg (fun applied => applied.1.eventId) same)] at early
  · intro early
    have here : event entry ∈ sub.appliedOn state partition := through ▸ List.mem_map_of_mem early
    exact List.mem_map_of_mem (List.mem_filter.mp here).1

/-- A new entry at a client's position is the next one of its partition. -/
theorem next_entry (applied : Applied sub state) {k : Nat}
    (through : sub.appliedOn state partition = ((sub.entriesOn state.relay partition).take k).map event)
    (past : sub.Past state partition n) {message : WireMessage} (at_ : (sub.messages state.relay partition)[n]? = some message)
    (carries : Carries JsonText.stringify entry message) (member : entry ∈ sub.entriesOn state.relay partition)
    (new : entry.id ∉ state.processedEvents) : (sub.entriesOn state.relay partition)[k]? = some entry := by
  obtain ⟨_, delivers⟩ := delivered_on applied.sound sub partition
  have distinct : ((sub.entriesOn state.relay partition).map fun entry => some entry.id).Nodup := by
    have ids := (@entriesOn_nodup D sub state.relay applied.sound partition).map (Option.some_injective Uuid)
    rwa [List.map_map] at ids
  have identified {id : Uuid} (early : some id ∈ ((sub.entriesOn state.relay partition).map fun entry => some entry.id).take k) :
      ∃ other ∈ (sub.entriesOn state.relay partition).take k, other.id = id := by
    rw [← List.map_take] at early
    obtain ⟨other, taken, same⟩ := List.mem_map.mp early
    exact ⟨other, taken, Option.some.inj same⟩
  have here : ((sub.messages state.relay partition).map fun message => message.headers.get "x-event-id")[n]? = some (some entry.id) := by
    rw [List.getElem?_map, at_, Option.map_some, carries.eventId]
  have next := delivers.new_entry distinct here (n := k) ?known ?unknown
  case known =>
    intro header listed
    rw [← List.map_take] at listed
    obtain ⟨earlier, before, rfl⟩ := List.mem_map.mp listed
    obtain ⟨id, known, header⟩ := past.2 earlier before
    obtain ⟨other, there, carries⟩ := carried_on applied.sound (List.mem_of_mem_take before)
    cases Option.some.inj (carries.eventId.symm.trans header)
    rw [header, ← List.map_take]
    exact List.mem_map.mpr ⟨other, (processed_on applied through there).mp known, rfl⟩
  case unknown =>
    intro early
    obtain ⟨other, taken, same⟩ := identified early
    have there := List.mem_of_mem_take taken
    exact new (same ▸ (processed_on applied through there).mpr taken)
  rw [List.getElem?_map] at next
  obtain ⟨other, found, same⟩ := Option.map_eq_some_iff.mp next
  have there := List.mem_of_getElem? found
  rwa [entry_unique applied.sound (mem_entriesOn.mp there).1 (mem_entriesOn.mp member).1 (Option.some.inj same)] at found

theorem InOrder.setSession (ordered : InOrder sub state) (id : Nat) {session : Option Session}
    (placed : ∀ set, session = some set → sub.Past state set.partition set.position ∧
      (set.stage = .resolved → sub.Past state set.partition (set.position + 1))) : InOrder sub (state.setSession id session) := by
  refine ⟨ordered.through, fun other set at_ => ?_, ordered.commits⟩
  simp only [State.setSession] at at_
  split at at_
  · exact placed set at_
  · exact ordered.positions other set at_

theorem InOrder.commitOffset (ordered : InOrder sub state) (past : sub.Past state partition n) :
    InOrder sub (state.commitOffset partition n) := by
  refine ⟨ordered.through, ordered.positions, fun other offset at_ => ?_⟩
  simp only [State.commitOffset] at at_
  split at at_
  · next same =>
    cases at_
    exact same ▸ past
  · exact ordered.commits other offset at_

theorem InOrder.relay {relay : Relay.State JsonValue} (ordered : InOrder sub state) (rows : entries state.relay <+: entries relay)
    (grows : ∀ topic, state.relay.accepted topic <+: relay.accepted topic) : InOrder sub { state with relay } := by
  have later {partition n : Nat} (past : sub.Past state partition n) : sub.Past { state with relay } partition n :=
    Past.later past grows fun _ => id
  refine ⟨fun partition => ?_, fun other session at_ => ?_, fun partition offset at_ => later (ordered.commits partition offset at_)⟩
  · obtain ⟨k, through⟩ := ordered.through partition
    refine ⟨min k (sub.entriesOn state.relay partition).length, through.trans ?_⟩
    have more := @entriesOn_grow D sub _ _ rows partition
    rw [take_of_continued more (Nat.min_le_right ..), ← List.take_take, List.take_length]
  · obtain ⟨here, resolved⟩ := ordered.positions other session at_
    exact ⟨later here, fun done => later (resolved done)⟩

/-- Applying the next entry of a partition leaves the others. -/
theorem InOrder.apply (ordered : InOrder sub state) {k : Nat}
    (through : sub.appliedOn state partition = ((sub.entriesOn state.relay partition).take k).map event)
    (next : (sub.entriesOn state.relay partition)[k]? = some entry) (db : D) : InOrder sub (state.apply entry db) := by
  have later {other n : Nat} (past : sub.Past state other n) : sub.Past (state.apply entry db) other n :=
    Past.later past (fun _ => List.prefix_rfl) fun _ known => List.mem_append_left _ known
  have here := (mem_entriesOn.mp (List.mem_of_getElem? next)).2.2
  refine ⟨fun other => ?_, fun id session at_ => ?_, fun other offset at_ => later (ordered.commits other offset at_)⟩
  · have added : sub.appliedOn (state.apply entry db) other =
        sub.appliedOn state other ++ if sub.partitionOf entry.aggregateId = other then [event entry] else [] := by
      rw [Subscription.appliedOn, State.apply, List.filter_append, Subscription.appliedOn]
      congr 1
      by_cases landed : sub.partitionOf entry.aggregateId = other
      · rw [if_pos landed]
        exact List.filter_cons_of_pos (decide_eq_true landed)
      · rw [if_neg landed]
        exact List.filter_cons_of_neg fun chosen => landed (of_decide_eq_true chosen)
    by_cases same : other = partition
    · subst same
      refine ⟨k + 1, ?_⟩
      rw [added, if_pos here, through]
      simp only [State.apply]
      rw [List.take_add_one, next, Option.toList_some, List.map_append, List.map_singleton]
    · obtain ⟨j, elsewhere⟩ := ordered.through other
      refine ⟨j, ?_⟩
      rw [added, if_neg (fun landed => same (landed.symm.trans here)), List.append_nil, elsewhere]
      rfl
  · obtain ⟨before, resolved⟩ := ordered.positions id session at_
    exact ⟨later before, fun done => later (resolved done)⟩

theorem Steps.in_order {act : Act} (step : Steps sub act state state') (applied : Applied sub state)
    (proper : ∀ entry ∈ entries state.relay, JsonText.Proper entry.payload) (ordered : InOrder sub state)
    (attends : Attends sub ⟨state, act, state'⟩) : InOrder sub state' := by
  cases step with
  | relay step => exact ordered.relay (steps_grow step).1 (steps_grow step).2
  | assign partition =>
    refine ordered.setSession _ fun set same => ?_
    cases same
    refine ⟨?_, fun resolved => absurd resolved first_ne⟩
    rcases attends with beginning | committed
    · exact beginning ▸ Past.zero sub state partition
    · obtain ⟨offset, at_⟩ := Option.ne_none_iff_exists'.mp committed
      have begins : sub.begins state partition = offset := by rw [Subscription.begins, at_, Option.getD_some]
      exact begins ▸ ordered.commits partition offset at_
  | @attempt id _ session n message result stands stage at_ =>
    obtain ⟨entry, there, carries⟩ := carried_on applied.sound (List.mem_of_getElem? at_)
    obtain ⟨stage, next, same, changed, resolved⟩ :=
      attempt_cases carries (proper entry (mem_entriesOn.mp there).1) id session n result
    obtain ⟨k, through⟩ := ordered.through session.partition
    obtain ⟨past, -⟩ := ordered.positions id session stands
    rw [same]
    rcases changed with rfl | ⟨new, db, -, rfl⟩
    · refine ordered.setSession _ fun set changed => ?_
      cases changed
      exact ⟨past, fun done => Past.succ past at_ (resolved done) carries.eventId⟩
    · have after := ordered.apply through (next_entry applied through past at_ carries there new) db
      have past' : sub.Past (state.apply entry db) session.partition session.position :=
        Past.later past (fun _ => List.prefix_rfl) fun _ known => List.mem_append_left _ known
      refine after.setSession _ fun set changed => ?_
      cases changed
      exact ⟨past', fun done => Past.succ past' at_ (resolved done) carries.eventId⟩
  | deadLetter => exact attends.elim
  | @commit id _ session result again stands stage =>
    obtain ⟨past, resolved⟩ := ordered.positions id session stands
    have further := resolved stage
    have unresolved {set : Prop} (done : sub.first = .resolved) : set := absurd done first_ne
    have stored : InOrder sub (if result = .failed then state else state.commitOffset session.partition (session.position + 1)) ∧
        ∀ n, sub.Past state session.partition n →
          sub.Past (if result = .failed then state else state.commitOffset session.partition (session.position + 1)) session.partition n := by
      split
      · exact ⟨ordered, fun _ known => known⟩
      · exact ⟨ordered.commitOffset further, fun _ known => known⟩
    refine stored.1.setSession _ fun set same => ?_
    split at same
    · cases same
      exact ⟨stored.2 _ past, unresolved⟩
    · cases same
      exact ⟨stored.2 _ further, unresolved⟩
  | stop => exact ordered.setSession _ fun _ same => by cases same

theorem InOrder.start (sub : Subscription D) : InOrder sub sub.start where
  through _ := ⟨0, rfl⟩
  positions _ _ absent := by cases absent
  commits _ _ absent := by cases absent

variable {log : List (Commit (State D) Act)}

theorem Run.in_order (run : Run sub log state) (proper : ∀ entry ∈ entries state.relay, JsonText.Proper entry.payload)
    (attends : ∀ c ∈ log, Attends sub c) : InOrder sub state := by
  induction run with
  | start first => exact first ▸ .start sub
  | commit previous step ih =>
    obtain ⟨now, earlier⟩ := List.forall_mem_cons.mp attends
    have before := fun entry member => proper entry (step.grow.1.mem member)
    exact step.in_order (Run.applied previous before) before (ih before earlier) now

/-- Where the relay has published everything and the group has committed all
messages of a partition, all of its entries have been applied. -/
theorem InOrder.complete (ordered : InOrder sub state) (applied : Applied sub state)
    (published : ∀ row ∈ state.relay.outbox, row.published = true)
    (committed : state.committed partition = some (sub.messages state.relay partition).length) :
    sub.appliedOn state partition = (sub.entriesOn state.relay partition).map event := by
  obtain ⟨k, through⟩ := ordered.through partition
  have all : ∀ entry ∈ sub.entriesOn state.relay partition, entry ∈ (sub.entriesOn state.relay partition).take k := by
    intro entry member
    obtain ⟨stored, onTopic, here⟩ := mem_entriesOn.mp member
    obtain ⟨row, inOutbox, rfl⟩ := List.mem_map.mp stored
    obtain ⟨message, accepted, carries⟩ := applied.sound.meets.published row inOutbox (published row inOutbox)
    have sent : message ∈ sub.messages state.relay partition := by
      refine mem_messages.mpr ⟨onTopic ▸ accepted, ?_⟩
      rwa [carries.key]
    obtain ⟨-, past⟩ := ordered.commits partition _ committed
    rw [List.take_length] at past
    obtain ⟨id, known, header⟩ := past message sent
    cases Option.some.inj (carries.eventId.symm.trans header)
    exact (processed_on applied through member).mp known
  have long : (sub.entriesOn state.relay partition).length ≤ k := by
    have distinct := (@entriesOn_nodup D sub state.relay applied.sound partition).of_map
    have fewer := (distinct.subperm all).length_le
    rw [List.length_take] at fewer
    omega
  rw [through, List.take_of_length_le long]

end order

section sample

/-- A consumer that counts its events. -/
def sampleSubscription : Subscription Nat where
  topic := "order.events"
  partitionOf _ := 0
  fromBeginning := true
  maxAttempts := 3
  work _ _ count := some (count + 1)
  empty := 0

/-- The first transaction for an event whose columns are filled. -/
theorem attempt_applies {sub : Subscription D} {state : State D} {entry : OutboxEntry JsonValue} {message : WireMessage}
    (carries : Carries JsonText.stringify entry message) (proper : JsonText.Proper entry.payload) (filled : Wire.Filled entry)
    (new : entry.id ∉ state.processedEvents) {db : D} (works : sub.work (envelope entry) (some entry.payload) state.db = some db)
    (id : Nat) (session : Session) (n : Nat) : sub.attempt id session n message .done state =
      (state.apply entry db).setSession id (some { session with stage := .resolved }) := by
  have decoded := Wire.decode_carried carries proper sub.topic session.partition (toString session.position)
  rw [if_pos filled] at decoded
  unfold Subscription.attempt
  split
  · next failed =>
    rw [failed] at decoded
    cases decoded
  · next message decodes =>
    rw [decodes] at decoded
    cases Option.some.inj decoded
    have fresh : (envelope entry).eventId ∉ state.processedEvents := new
    rw [if_neg (by decide), runOnce, if_neg fresh, works]
    rfl

def sampleSent : State Nat where
  relay := samplePublished
  committed _ := none
  sessions _ := none
  processedEvents := []
  applied := []
  db := 0

theorem sampleSent_messages : sampleSubscription.messages samplePublished 0 = [sampleMessage] := rfl

/-- The only event of the outbox is published, applied and committed. -/
theorem sampleRun : ∃ log state, Run sampleSubscription log state ∧ (∀ c ∈ log, Attends sampleSubscription c) ∧
    (∀ row ∈ state.relay.outbox, row.published = true ∧ JsonText.Proper row.entry.payload) ∧
    state.committed 0 = some (sampleSubscription.messages state.relay 0).length ∧
    sampleSubscription.entriesOn state.relay 0 = [sampleEntry] := by
  have start : Run sampleSubscription [] sampleSubscription.start := .start rfl
  have written : Run _ _ { sampleSent with relay := sampleOutbox } := start.commit
    (.relay (Relay.Steps.append fun row absent => absurd absent List.not_mem_nil))
  have published : Run _ _ sampleSent := written.commit (.relay (@Relay.Steps.call _ JsonText.stringify Relay.sampleCall _))
  have assigned := published.commit (@Steps.assign _ _ 7 _ 0 rfl)
  have carries : Carries JsonText.stringify sampleEntry sampleMessage := Relay.toWireMessage_carries ..
  have attempted := assigned.commit (@Steps.attempt _ sampleSubscription 7 _ ⟨0, 0, .attempt 1⟩ 1 sampleMessage .done rfl rfl
    (congrArg (·[0]?) sampleSent_messages))
  rw [attempt_applies carries samplePayload_proper (by decide) List.not_mem_nil rfl] at attempted
  have committed := attempted.commit (@Steps.commit _ sampleSubscription 7 _ ⟨0, 0, .resolved⟩ .done false rfl rfl)
  have one : (sampleSubscription.messages samplePublished 0).length = 1 := congrArg List.length sampleSent_messages
  refine ⟨_, _, committed, ?_, ?_, congrArg some one.symm, rfl⟩
  · simp only [List.forall_mem_cons, List.not_mem_nil, false_implies, implies_true, and_true]
    exact ⟨trivial, trivial, Or.inl rfl, trivial, trivial⟩
  · intro row member
    cases List.mem_singleton.mp member
    exact ⟨rfl, samplePayload_proper⟩

end sample

end FoodDelivery.Messaging.Pipeline
