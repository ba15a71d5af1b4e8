import FoodDelivery.Messaging.Relay

namespace FoodDelivery.Messaging.Relay

open CommitLog Redelivery

variable {V : Type*} {stringify : V → String}

/-- What happens to an outbox: a writer appends a row under a fresh id, or
the relay is called. -/
inductive Step (V : Type*)
  | append (entry : OutboxEntry V)
  | call (call : Call)

/-- A row as `append` inserts it. -/
def OutboxEntry.stored (entry : OutboxEntry V) : StoredEntry V where
  entry := entry
  attempts := 0
  published := false

inductive Steps (stringify : V → String) : Step V → State V → State V → Prop
  | append {entry : OutboxEntry V} {state : State V} : (∀ row ∈ state.outbox, row.entry.id ≠ entry.id) →
      Steps stringify (.append entry) state
        { state with outbox := state.outbox ++ [entry.stored] }
  | call {call : Call} {state : State V} :
      Steps stringify (.call call) state (runOnce stringify call state).1

def State.start : State V where
  outbox := []
  accepted _ := []

abbrev Run (stringify : V → String) : List (Commit (State V) (Step V)) → State V → Prop :=
  History (· = State.start) fun _ => Steps stringify

/-- The ids of a topic's rows, in outbox order. -/
def topicIds (topic : String) (outbox : List (StoredEntry V)) : List (Option Uuid) :=
  (outbox.filter fun row => row.entry.topic = topic).map fun row => some row.entry.id

/-- The event ids the broker has accepted on a topic, in its order. -/
def State.acceptedIds (state : State V) (topic : String) : List (Option Uuid) :=
  (state.accepted topic).map fun message => message.headers.get "x-event-id"

/-- What a relay promises: a row is marked as published only when the broker
has accepted it, every accepted message carries a row of its topic, and the
first acceptances on a topic are its rows in outbox order. -/
structure State.Relayed (stringify : V → String) (state : State V) : Prop where
  published : ∀ row ∈ state.outbox, row.published = true →
    ∃ message ∈ state.accepted row.entry.topic, Carries stringify row.entry message
  carried : ∀ topic, ∀ message ∈ state.accepted topic,
    ∃ row ∈ state.outbox, row.entry.topic = topic ∧ Carries stringify row.entry message
  ordered : ∀ topic, (state.acceptedIds topic).eraseDups <+: topicIds topic state.outbox

/-- The deliveries of each topic have got through the rows `done`. -/
def State.Through (state : State V) (done : List (StoredEntry V)) : Prop :=
  ∀ topic, ∃ k, (topicIds topic done).length ≤ k ∧ Delivers (topicIds topic state.outbox) (state.acceptedIds topic) k

/-- What the relay maintains: the published rows are the first ones, and the
broker has accepted all of them. -/
structure State.Sound (stringify : V → String) (state : State V) : Prop where
  distinct : (state.outbox.map fun row => row.entry.id).Nodup
  carried : ∀ topic, ∀ message ∈ state.accepted topic,
    ∃ row ∈ state.outbox, row.entry.topic = topic ∧ Carries stringify row.entry message
  drained : ∃ done rest, state.outbox = done ++ rest ∧ (∀ row ∈ done, row.published = true) ∧
    (∀ row ∈ rest, row.published = false) ∧ state.Through done

theorem topicIds_append (topic : String) (first second : List (StoredEntry V)) :
    topicIds topic (first ++ second) = topicIds topic first ++ topicIds topic second := by
  rw [topicIds, List.filter_append, List.map_append]
  rfl

/-- The rows' own columns are all a topic's ids depend on. -/
theorem topicIds_map (topic : String) (write : StoredEntry V → StoredEntry V)
    (kept : ∀ row, (write row).entry = row.entry) (outbox : List (StoredEntry V)) :
    topicIds topic (outbox.map write) = topicIds topic outbox := by
  have same : ((fun row => decide (row.entry.topic = topic)) ∘ write) =
      fun row : StoredEntry V => decide (row.entry.topic = topic) := by
    funext row
    exact congrArg (fun entry : OutboxEntry V => decide (entry.topic = topic)) (kept row)
  rw [topicIds, List.filter_map, same, List.map_map, topicIds]
  exact List.map_congr_left fun row _ => congrArg (fun entry : OutboxEntry V => some entry.id) (kept row)

theorem topicIds_nodup {outbox : List (StoredEntry V)} (distinct : (outbox.map fun row => row.entry.id).Nodup)
    (topic : String) : (topicIds topic outbox).Nodup := by
  have ids : ((outbox.filter fun row => row.entry.topic = topic).map fun row => row.entry.id).Nodup :=
    (List.Sublist.map _ List.filter_sublist).nodup distinct
  have mapped : topicIds topic outbox =
      ((outbox.filter fun row => row.entry.topic = topic).map fun row => row.entry.id).map some := by
    rw [List.map_map]
    rfl
  rw [mapped]
  exact ids.map fun _ _ same => Option.some.inj same

theorem mem_topicIds {topic : String} {outbox : List (StoredEntry V)} {row : StoredEntry V}
    (member : row ∈ outbox) (onTopic : row.entry.topic = topic) : some row.entry.id ∈ topicIds topic outbox :=
  List.mem_map.mpr ⟨row, List.mem_filter.mpr ⟨member, decide_eq_true onTopic⟩, rfl⟩

theorem State.Sound.meets {state : State V} (sound : state.Sound stringify) : state.Relayed stringify := by
  obtain ⟨done, rest, whole, published, unpublished, through⟩ := sound.drained
  refine ⟨?_, sound.carried, ?_⟩
  · intro row member marked
    have inDone : row ∈ done := by
      rcases List.mem_append.mp (whole ▸ member) with early | late
      · exact early
      · rw [unpublished row late] at marked
        cases marked
    obtain ⟨k, reached, delivers⟩ := through row.entry.topic
    -- the row's id is among the ids accepted, and ids identify rows
    have known : some row.entry.id ∈ state.acceptedIds row.entry.topic := by
      rw [delivers.mem_iff, whole, topicIds_append, List.take_append]
      rw [List.take_of_length_le reached]
      exact List.mem_append_left _ (mem_topicIds inDone rfl)
    obtain ⟨message, accepted, eventId⟩ := List.mem_map.mp known
    obtain ⟨other, otherMember, -, carries⟩ := sound.carried _ message accepted
    have same : other = row := by
      have ids := carries.eventId.symm.trans eventId
      exact List.inj_on_of_nodup_map sound.distinct otherMember member (Option.some.inj ids)
    exact ⟨message, accepted, same ▸ carries⟩
  · intro topic
    obtain ⟨k, -, delivers⟩ := through topic
    rw [delivers.eraseDups_eq (topicIds_nodup sound.distinct topic)]
    exact List.take_prefix ..

/-- A row with a fresh id joins the rows still to be published. -/
theorem State.Sound.append {state : State V} (sound : state.Sound stringify) {entry : OutboxEntry V}
    (fresh : ∀ row ∈ state.outbox, row.entry.id ≠ entry.id) :
    State.Sound stringify { state with outbox := state.outbox ++ [entry.stored] } := by
  obtain ⟨done, rest, whole, published, unpublished, through⟩ := sound.drained
  refine ⟨?_, ?_, done, rest ++ [entry.stored], ?_, published, ?_, ?_⟩
  · simp only [List.map_append, List.map_cons, List.map_nil]
    refine List.nodup_append.mpr ⟨sound.distinct, List.nodup_singleton _, ?_⟩
    intro id known other new same
    obtain ⟨row, member, rfl⟩ := List.mem_map.mp known
    exact fresh row member (same.trans (List.mem_singleton.mp new))
  · intro topic message accepted
    obtain ⟨row, member, carries⟩ := sound.carried topic message accepted
    exact ⟨row, List.mem_append_left _ member, carries⟩
  · rw [whole, List.append_assoc]
  · intro row member
    rcases List.mem_append.mp member with old | new
    · exact unpublished row old
    · rw [List.mem_singleton.mp new]
      rfl
  · intro topic
    obtain ⟨k, reached, delivers⟩ := through topic
    refine ⟨k, reached, ?_⟩
    rw [topicIds_append]
    exact delivers.grow _

/-- The broker appends to each topic a prefix of the batch's messages on it,
all of them when the send succeeds. -/
theorem publishBatch_accepted (stringify : V → String) (state : State V) (call : Call) (batch : List (StoredEntry V))
    (topic : String) :
    ∃ sent, sent <+: (batch.filter fun row => row.entry.topic = topic) ∧
      (call.publish = .ok () → sent = batch.filter fun row => row.entry.topic = topic) ∧
      (state.publishBatch stringify call (batch.map fun row => row.entry.toRecord)).accepted topic =
        state.accepted topic ++ sent.map fun row =>
          toWireMessage stringify (call.trace row.entry.id) row.entry.toRecord.toMessage := by
  simp only [State.publishBatch, sendBatch, topicMessages_lookup, List.map_map, List.filter_map]
  cases call.publish with
  | ok => exact ⟨_, List.prefix_refl _, fun _ => rfl, rfl⟩
  | error accepts =>
    refine ⟨_, List.take_prefix (accepts topic) _, ?_, ?_⟩
    · intro sent
      cases sent
    · rw [List.map_take]
      rfl

/-- Publishing the rows after `done` leaves the deliveries through `done`,
and takes them through the batch when it succeeds. -/
theorem State.Through.publish (stringify : V → String) {state : State V} {done batch rest : List (StoredEntry V)}
    (through : state.Through done)
    (whole : state.outbox = done ++ batch ++ rest) (call : Call) :
    (state.publishBatch stringify call (batch.map fun row => row.entry.toRecord)).Through done ∧
      (call.publish = .ok () →
        (state.publishBatch stringify call (batch.map fun row => row.entry.toRecord)).Through (done ++ batch)) := by
  have reaches (topic : String) : ∃ k, (topicIds topic done).length ≤ k ∧
      (call.publish = .ok () → (topicIds topic (done ++ batch)).length ≤ k) ∧
      Delivers (topicIds topic state.outbox)
        ((state.publishBatch stringify call (batch.map fun row => row.entry.toRecord)).acceptedIds topic) k := by
    obtain ⟨k, reached, delivers⟩ := through topic
    obtain ⟨sent, ⟨unsent, batchRows⟩, complete, accepted⟩ :=
      publishBatch_accepted stringify state call batch topic
    have ids : (state.publishBatch stringify call (batch.map fun row => row.entry.toRecord)).acceptedIds topic =
        state.acceptedIds topic ++ sent.map fun row => some row.entry.id := by
      rw [State.acceptedIds, accepted, List.map_append, List.map_map]
      exact congrArg _ (List.map_congr_left fun row _ => (toWireMessage_carries stringify _ row.entry).eventId)
    have source : topicIds topic state.outbox = topicIds topic done ++ (sent.map fun row => some row.entry.id) ++
        ((unsent.map fun row => some row.entry.id) ++ topicIds topic rest) := by
      rw [whole, topicIds_append, topicIds_append, List.append_assoc, List.append_assoc, ← List.append_assoc (sent.map _),
        ← List.map_append, batchRows]
      rfl
    have further := delivers.piece source reached
    refine ⟨_, ?_, ?_, ids ▸ further⟩
    · omega
    · intro ok
      rw [topicIds_append, List.length_append, complete ok, topicIds]
      exact Nat.le_max_right ..
  constructor
  · intro topic
    obtain ⟨k, reached, -, delivers⟩ := reaches topic
    exact ⟨k, reached, delivers⟩
  · intro ok topic
    obtain ⟨k, -, reached, delivers⟩ := reaches topic
    exact ⟨k, reached ok, delivers⟩

/-- A batch of rows of the outbox puts messages on the topics that carry them. -/
theorem State.Sound.publish_carried {state : State V} (sound : state.Sound stringify) {batch : List (StoredEntry V)}
    (rows : ∀ row ∈ batch, row ∈ state.outbox) (call : Call) (topic : String) :
    ∀ message ∈ (state.publishBatch stringify call (batch.map fun row => row.entry.toRecord)).accepted topic,
      ∃ row ∈ state.outbox, row.entry.topic = topic ∧ Carries stringify row.entry message := by
  intro message accepted
  obtain ⟨sent, prefixed, -, appended⟩ := publishBatch_accepted stringify state call batch topic
  rw [appended] at accepted
  rcases List.mem_append.mp accepted with old | new
  · exact sound.carried topic message old
  · obtain ⟨row, member, rfl⟩ := List.mem_map.mp new
    obtain ⟨inBatch, onTopic⟩ := List.mem_filter.mp (prefixed.subset member)
    exact ⟨row, rows row inBatch, of_decide_eq_true onTopic, toWireMessage_carries stringify _ row.entry⟩

/-- Rewriting the relay's own columns of the rows, such that published rows
are those the deliveries have got through. -/
theorem State.Through.rewrite {state : State V} {done rest : List (StoredEntry V)} {write : StoredEntry V → StoredEntry V}
    (through : state.Through done) (whole : state.outbox = done ++ rest)
    (distinct : (state.outbox.map fun row => row.entry.id).Nodup)
    (carried : ∀ topic, ∀ message ∈ state.accepted topic,
      ∃ row ∈ state.outbox, row.entry.topic = topic ∧ Carries stringify row.entry message)
    (kept : ∀ row, (write row).entry = row.entry) (published : ∀ row ∈ done, (write row).published = true)
    (unpublished : ∀ row ∈ rest, (write row).published = false) :
    State.Sound stringify { state with outbox := state.outbox.map write } := by
  refine ⟨?_, ?_, done.map write, rest.map write, ?_, ?_, ?_, ?_⟩
  · have same : (fun row : StoredEntry V => row.entry.id) ∘ write = fun row => row.entry.id := by
      funext row
      exact congrArg OutboxEntry.id (kept row)
    rw [List.map_map, same]
    exact distinct
  · intro topic message accepted
    obtain ⟨row, member, carries⟩ := carried topic message accepted
    exact ⟨write row, List.mem_map_of_mem member, by rw [kept]; exact carries⟩
  · rw [whole, List.map_append]
  · exact List.forall_mem_map.mpr published
  · exact List.forall_mem_map.mpr unpublished
  · intro topic
    rw [topicIds_map topic write kept, topicIds_map topic write kept]
    exact through topic

/-- Counting a failed attempt changes neither the rows nor what is published. -/
theorem State.Through.attempted {state : State V} {done rest : List (StoredEntry V)} (through : state.Through done)
    (whole : state.outbox = done ++ rest) (distinct : (state.outbox.map fun row => row.entry.id).Nodup)
    (carried : ∀ topic, ∀ message ∈ state.accepted topic,
      ∃ row ∈ state.outbox, row.entry.topic = topic ∧ Carries stringify row.entry message)
    (published : ∀ row ∈ done, row.published = true) (unpublished : ∀ row ∈ rest, row.published = false)
    (ids : List Uuid) : State.Sound stringify { state with outbox := incrementAttempts state.outbox ids } := by
  have columns (row : StoredEntry V) (attempted : Prop) [Decidable attempted] :
      (if attempted then { row with attempts := row.attempts + 1 } else row).entry = row.entry ∧
        (if attempted then { row with attempts := row.attempts + 1 } else row).published = row.published := by
    split <;> exact ⟨rfl, rfl⟩
  refine through.rewrite whole distinct carried (fun row => (columns row _).1) ?_ ?_
  · exact fun row member => (columns row _).2.trans (published row member)
  · exact fun row member => (columns row _).2.trans (unpublished row member)

/-- Marking a batch that the deliveries have got through. -/
theorem State.Through.marked {state : State V} {done batch left : List (StoredEntry V)}
    (through : state.Through (done ++ batch)) (whole : state.outbox = done ++ batch ++ left)
    (distinct : (state.outbox.map fun row => row.entry.id).Nodup)
    (carried : ∀ topic, ∀ message ∈ state.accepted topic,
      ∃ row ∈ state.outbox, row.entry.topic = topic ∧ Carries stringify row.entry message)
    (published : ∀ row ∈ done, row.published = true) (unpublished : ∀ row ∈ batch ++ left, row.published = false) :
    State.Sound stringify
      { state with outbox := markPublished state.outbox (batch.map fun row => row.entry.id) } := by
  refine through.rewrite whole distinct carried ?_ ?_ ?_
  · intro row
    split <;> rfl
  · intro row member
    rcases List.mem_append.mp member with old | new
    · split
      · rfl
      · exact published row old
    · have unmarked := unpublished row (List.mem_append_left _ new)
      rw [if_pos ⟨List.mem_map_of_mem new, by rw [unmarked]; rfl⟩]
  · intro row member
    -- ids are unique, so that no later row is marked along with the batch
    have foreign : row.entry.id ∉ batch.map fun row => row.entry.id := by
      intro known
      rw [whole, List.map_append, List.map_append] at distinct
      have apart := (List.nodup_append.mp distinct).2.2
      exact apart _ (List.mem_append_right _ known) _ (List.mem_map_of_mem member) rfl
    rw [if_neg fun condition => foreign condition.1]
    exact unpublished row (List.mem_append_right _ member)

/-- The query returns the first rows after the published ones. -/
theorem fetchUnpublished_eq {outbox done rest : List (StoredEntry V)} (whole : outbox = done ++ rest)
    (published : ∀ row ∈ done, row.published = true) (unpublished : ∀ row ∈ rest, row.published = false) (limit : Nat) :
    fetchUnpublished outbox limit = (rest.take limit).map fun row => row.entry.toRecord := by
  have none : (done.filter fun row => ! row.published) = [] :=
    List.filter_eq_nil_iff.mpr fun row member => by simp [published row member]
  have all : (rest.filter fun row => ! row.published) = rest :=
    List.filter_eq_self.mpr fun row member => by simp [unpublished row member]
  rw [fetchUnpublished, whole, List.filter_append, none, all, List.nil_append]

/-- A drain of the first rows after the published ones, whatever fails in it. -/
theorem State.Sound.drainBatch {state : State V} (sound : state.Sound stringify) (call : Call) :
    (drainBatch stringify call state).1.Sound stringify := by
  obtain ⟨done, rest, whole, published, unpublished, through⟩ := sound.drained
  obtain ⟨batch, left, taken, parts⟩ :
      ∃ batch left, rest.take call.batchSize = batch ∧ rest = batch ++ left :=
    ⟨_, rest.drop call.batchSize, rfl, (List.take_append_drop ..).symm⟩
  have split : state.outbox = done ++ batch ++ left := by rw [whole, parts, List.append_assoc]
  have batchRows : ∀ row ∈ batch, row ∈ state.outbox := by
    intro row member
    rw [split]
    exact List.mem_append_left _ (List.mem_append_right _ member)
  have carried := sound.publish_carried batchRows call
  obtain ⟨stays, advances⟩ := through.publish stringify split call
  have sent : (state.publishBatch stringify call (batch.map fun row => row.entry.toRecord)).Sound stringify :=
    ⟨sound.distinct, carried, done, rest, whole, published, unpublished, stays⟩
  have ids : (batch.map fun row => row.entry.toRecord).map (fun record => record.id) =
      batch.map fun row => row.entry.id := by
    rw [List.map_map]
    rfl
  unfold Relay.drainBatch State.update
  simp only [fetchUnpublished_eq whole published unpublished, taken, ids]
  split
  · exact sound
  · split
    · split
      · exact sent
      · exact stays.attempted whole sound.distinct carried published unpublished _
    · rename_i ok
      have marked := (advances ok).marked split sound.distinct carried published (parts ▸ unpublished)
      split
      · split
        · exact sent
        · exact marked
      · split
        · exact sent
        · exact marked

/-- A call of the relay, whatever fails in it. -/
theorem State.Sound.runOnce {state : State V} (sound : state.Sound stringify) (call : Call) :
    (runOnce stringify call state).1.Sound stringify := by
  unfold Relay.runOnce
  split
  · exact sound.drainBatch call
  · exact sound

theorem Run.sound {log : List (Commit (State V) (Step V))} {state : State V} (run : Run stringify log state) :
    state.Sound stringify := by
  refine run.invariant ?_ ?_
  · rintro _ rfl
    refine ⟨List.nodup_nil, fun topic message absent => absurd absent List.not_mem_nil, [], [], rfl, ?_, ?_, ?_⟩
    · exact fun row absent => absurd absent List.not_mem_nil
    · exact fun row absent => absurd absent List.not_mem_nil
    · exact fun topic => ⟨0, Nat.le_refl _, .start⟩
  · intro _ _ state state' step sound
    cases step with
    | append fresh => exact sound.append fresh
    | call => exact sound.runOnce _

/-- Whatever fails in the calls of a relay, it publishes and marks the rows
of its outbox in their order and repeats only rows accepted before. -/
theorem Run.relayed {log : List (Commit (State V) (Step V))} {state : State V} (run : Run stringify log state) :
    state.Relayed stringify :=
  run.sound.meets

/-- Every accepted message is exactly the key, headers and value of a row of
its topic. -/
def State.Exact (stringify : V → String) (state : State V) : Prop :=
  ∀ topic, ∀ message ∈ state.accepted topic, ∃ row ∈ state.outbox, row.entry.topic = topic ∧
    message.key = row.entry.aggregateId ∧ message.headers = row.entry.headers ∧
      message.value = stringify row.entry.payload

section sample

/-- A row written where no trace was active. -/
def sampleEntry : OutboxEntry String where
  id := "event"
  aggregateId := "order"
  topic := "order.events"
  eventType := "OrderConfirmed"
  payload := "payload"
  tenantId := "tenant"
  correlationId := "correlation"
  createdAt := "2026-01-01T00:00:00.000Z"
  traceParent := none

/-- The relay publishes in a span of its own. -/
def sampleCall : Call where
  ran := true
  batchSize := 100
  trace _ := { traceparent := some "00-a-b-01", tracestate := none, baggage := none }
  publish := .ok ()
  increment := .done
  mark := .done

def sampleOutbox : State String where
  outbox := [sampleEntry.stored]
  accepted _ := []

theorem sampleRun : ∃ log, Run id log (runOnce id sampleCall sampleOutbox).1 := by
  have written := (History.start rfl : Run id [] State.start).commit
    (show Steps id (.append sampleEntry) State.start sampleOutbox from
      .append fun row absent => absurd absent List.not_mem_nil)
  exact ⟨_, written.commit (show Steps id (.call sampleCall) sampleOutbox _ from .call)⟩

end sample

theorem relayed_of_sample_run :
    (runOnce id sampleCall sampleOutbox).1.Relayed id := by
  obtain ⟨log, run⟩ := sampleRun
  exact run.relayed

/-- The accepted message has a trace parent that its row has not. -/
theorem exactness_broken_by_injection : ∃ log, ∃ state : State String, Run id log state ∧ ¬ state.Exact id := by
  obtain ⟨log, run⟩ := sampleRun
  refine ⟨log, _, run, ?_⟩
  intro exact
  obtain ⟨row, member, -, -, headers, -⟩ := exact "order.events" _ (List.mem_singleton.mpr rfl)
  rw [List.mem_singleton.mp member] at headers
  revert headers
  decide

end FoodDelivery.Messaging.Relay
