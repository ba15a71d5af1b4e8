import Mathlib.Data.List.Nodup
import FoodDelivery.Lib.History
import FoodDelivery.Lib.Redelivery
import FoodDelivery.Messaging.Envelope

namespace FoodDelivery.Messaging.Relay

open CommitLog Redelivery

/-- A message's headers, in the order in which they were first set. -/
abbrev Headers := List (String × String)

def Headers.get (headers : Headers) (name : String) : Option String := headers.lookup name

def Headers.set (headers : Headers) (name value : String) : Headers :=
  match headers with
  | [] => [(name, value)]
  | (other, old) :: rest =>
    if name = other then (other, value) :: rest else (other, old) :: Headers.set rest name value

/-- A row of an outbox table as `append` leaves it and the relay's query
reads it; `createdAt` is the text of its time. -/
structure OutboxEntry (V : Type*) where
  id : Uuid
  aggregateId : Uuid
  topic : String
  eventType : String
  payload : V
  tenantId : Uuid
  correlationId : Uuid
  createdAt : String
  traceParent : Option String

/-- The stored row, with the two columns that the relay writes. -/
structure StoredEntry (V : Type*) where
  entry : OutboxEntry V
  attempts : Nat
  published : Bool

structure OutboxRecord (V : Type*) where
  id : Uuid
  topic : String
  key : String
  headers : Headers
  value : V

structure OutboundKafkaMessage (V : Type*) where
  topic : String
  key : String
  headers : Headers
  value : V

structure WireMessage where
  key : String
  value : String
  headers : Headers
  deriving DecidableEq, Repr

/-- What the tracer's propagator has to inject, absent where no span is
recorded. -/
structure TraceContext where
  traceparent : Option String
  tracestate : Option String
  baggage : Option String
  deriving DecidableEq, Repr

/-- One call of `runOnce` with what happens around it: whether the advisory
lock was won, the trace context of each row's publish span, whether the send
succeeds or fails after the broker accepted that many messages of each topic,
and the results of the two updates. -/
structure Call where
  ran : Bool
  batchSize : Nat
  trace : Uuid → TraceContext
  publish : Except (String → Nat) Unit
  increment : RequestResult
  mark : RequestResult

inductive RelayError
  | publish
  | markPublished
  deriving DecidableEq, Repr

/-- The outbox in the order of its rows, and what the broker has accepted of
each topic, oldest first. -/
structure State (V : Type*) where
  outbox : List (StoredEntry V)
  accepted : String → List WireMessage

variable {V : Type*}

def encodeHeaders (entry : OutboxEntry V) : Headers :=
  [("x-event-id", entry.id), ("x-event-type", entry.eventType), ("x-aggregate-id", entry.aggregateId),
    ("x-tenant-id", entry.tenantId), ("x-correlation-id", entry.correlationId), ("x-occurred-at", entry.createdAt)]

/-- The row's trace parent where it is neither null nor empty. -/
def OutboxEntry.traced (entry : OutboxEntry V) : Option String := entry.traceParent.filter (· ≠ "")

def OutboxEntry.headers (entry : OutboxEntry V) : Headers :=
  match entry.traced with
  | some traceParent => (encodeHeaders entry).set "traceparent" traceParent
  | none => encodeHeaders entry

def OutboxEntry.toRecord (entry : OutboxEntry V) : OutboxRecord V where
  id := entry.id
  topic := entry.topic
  key := entry.aggregateId
  headers := entry.headers
  value := entry.payload

def fetchUnpublished (outbox : List (StoredEntry V)) (limit : Nat) : List (OutboxRecord V) :=
  ((outbox.filter fun row => ! row.published).take limit).map fun row => row.entry.toRecord

def markPublished (outbox : List (StoredEntry V)) (ids : List Uuid) : List (StoredEntry V) :=
  outbox.map fun row => if row.entry.id ∈ ids ∧ ! row.published then { row with published := true } else row

def incrementAttempts (outbox : List (StoredEntry V)) (ids : List Uuid) : List (StoredEntry V) :=
  outbox.map fun row => if row.entry.id ∈ ids then { row with attempts := row.attempts + 1 } else row

def OutboxRecord.toMessage (record : OutboxRecord V) : OutboundKafkaMessage V where
  topic := record.topic
  key := record.key
  headers := record.headers
  value := record.value

def injectTraceContext (trace : TraceContext) (headers : Headers) : Headers :=
  let injected := [("traceparent", trace.traceparent), ("tracestate", trace.tracestate), ("baggage", trace.baggage)]
  injected.foldl (fun headers field => (field.2.map (headers.set field.1)).getD headers) headers

def toWireMessage (stringify : V → String) (trace : TraceContext) (message : OutboundKafkaMessage V) : WireMessage where
  key := message.key
  value := stringify message.value
  headers :=
    if (message.headers.get "traceparent").getD "" = "" then injectTraceContext trace message.headers
    else message.headers

/-- `byTopic.get`, `push` and `byTopic.set` of one message. -/
def pushByTopic (topic : String) (message : WireMessage) :
    List (String × List WireMessage) → List (String × List WireMessage)
  | [] => [(topic, [message])]
  | (other, bucket) :: rest =>
    if topic = other then (other, bucket ++ [message]) :: rest else (other, bucket) :: pushByTopic topic message rest

def topicMessages (messages : List (String × WireMessage)) : List (String × List WireMessage) :=
  messages.foldl (fun byTopic message => pushByTopic message.1 message.2 byTopic) []

/-- `sendBatch`: the broker appends each topic's messages, as many of them as
`limit` says where there is one. -/
def sendBatch (batch : List (String × List WireMessage)) (limit : String → Option Nat)
    (accepted : String → List WireMessage) : String → List WireMessage :=
  fun topic =>
    let messages := (batch.lookup topic).getD []
    accepted topic ++ match limit topic with
      | some n => messages.take n
      | none => messages

def State.publishBatch (state : State V) (stringify : V → String) (call : Call) (records : List (OutboxRecord V)) :
    State V :=
  let messages := records.map fun record =>
    (record.topic, toWireMessage stringify (call.trace record.id) record.toMessage)
  let limit := fun topic => match call.publish with
    | .ok () => none
    | .error accepts => some (accepts topic)
  { state with accepted := sendBatch (topicMessages messages) limit state.accepted }

/-- An update of the outbox, which a request that fails leaves undone. -/
def State.update (state : State V) (result : RequestResult) (write : List (StoredEntry V) → List (StoredEntry V)) :
    State V :=
  if result = .failed then state else { state with outbox := write state.outbox }

def drainBatch (stringify : V → String) (call : Call) (state : State V) : State V × Except RelayError Nat :=
  let records := fetchUnpublished state.outbox call.batchSize
  let ids := records.map (·.id)
  if records.length = 0 then (state, .ok 0)
  else
    let sent := state.publishBatch stringify call records
    match call.publish with
    | .error _ => (sent.update call.increment fun outbox => incrementAttempts outbox ids, .error .publish)
    | .ok () =>
      let marked := sent.update call.mark fun outbox => markPublished outbox ids
      if call.mark = .done then (marked, .ok records.length) else (marked, .error .markPublished)

def runOnce (stringify : V → String) (call : Call) (state : State V) : State V × Except RelayError Nat :=
  if call.ran then drainBatch stringify call state else (state, .ok 0)

theorem lookup_cons_ite {β : Type*} (other name : String) (value : β) (rest : List (String × β)) :
    List.lookup other ((name, value) :: rest) = if other = name then some value else rest.lookup other := by
  by_cases same : other = name
  · rw [if_pos same, same, List.lookup_cons_self]
  · have different : (other == name) = false := beq_eq_false_iff_ne.mpr same
    rw [if_neg same, List.lookup_cons, different]

theorem Headers.get_set (headers : Headers) (name value other : String) :
    (headers.set name value).get other = if other = name then some value else headers.get other := by
  induction headers with
  | nil => exact lookup_cons_ite ..
  | cons field rest ih =>
    obtain ⟨known, old⟩ := field
    by_cases found : name = known
    · subst found
      simp only [Headers.set, Headers.get, if_pos, lookup_cons_ite]
      split <;> rfl
    · have tail : List.lookup other (Headers.set rest name value) =
          if other = name then some value else rest.lookup other := ih
      simp only [Headers.set, Headers.get, if_neg found, lookup_cons_ite, tail]
      by_cases same : other = name
      · subst same
        simp only [if_neg found, if_pos]
      · simp only [if_neg same]

/-- The propagator sets no header but its own three. -/
theorem injectTraceContext_get (trace : TraceContext) (headers : Headers) {name : String}
    (foreign : name ∉ ["traceparent", "tracestate", "baggage"]) :
    (injectTraceContext trace headers).get name = headers.get name := by
  have kept (headers : Headers) (field : String) (value : Option String) (other : name ≠ field) :
      ((value.map (headers.set field)).getD headers).get name = headers.get name := by
    cases value with
    | none => rfl
    | some value => exact (headers.get_set field value name).trans (if_neg other)
  simp only [List.mem_cons, List.not_mem_nil, or_false, not_or] at foreign
  obtain ⟨parent, state, baggage⟩ := foreign
  simp only [injectTraceContext, List.foldl_cons, List.foldl_nil]
  rw [kept _ _ _ baggage, kept _ _ _ state, kept _ _ _ parent]

theorem OutboxEntry.headers_traceparent (entry : OutboxEntry V) : entry.headers.get "traceparent" = entry.traced := by
  unfold OutboxEntry.headers
  split
  · rename_i traceParent traced
    rw [Headers.get_set, if_pos rfl, traced]
  · rename_i untraced
    rw [untraced]
    rfl

/-- A trace parent leaves the envelope's headers as they are. -/
theorem OutboxEntry.headers_get (entry : OutboxEntry V) {name : String} (foreign : name ≠ "traceparent") :
    entry.headers.get name = (encodeHeaders entry).get name := by
  unfold OutboxEntry.headers
  split
  · rw [Headers.get_set, if_neg foreign]
  · rfl

/-- What a message on the wire carries of a row: its key and value, and its
headers with, where the row has no trace parent, the producer's trace context
added. -/
structure Carries (stringify : V → String) (entry : OutboxEntry V) (message : WireMessage) : Prop where
  key : message.key = entry.aggregateId
  value : message.value = stringify entry.payload
  traced : entry.traced ≠ none → message.headers = entry.headers
  untraced : entry.traced = none → ∃ trace, message.headers = injectTraceContext trace entry.headers

theorem toWireMessage_carries (stringify : V → String) (trace : TraceContext) (entry : OutboxEntry V) :
    Carries stringify entry (toWireMessage stringify trace entry.toRecord.toMessage) := by
  have condition : ((entry.toRecord.toMessage.headers.get "traceparent").getD "" = "") ↔ entry.traced = none := by
    have parent : entry.toRecord.toMessage.headers.get "traceparent" = entry.traced := entry.headers_traceparent
    rw [parent, OutboxEntry.traced]
    cases entry.traceParent with
    | none => simp
    | some traceParent => by_cases empty : traceParent = "" <;> simp [Option.filter_some, empty]
  refine ⟨rfl, rfl, ?_, ?_⟩
  · intro traced
    exact if_neg (mt condition.mp traced)
  · intro untraced
    exact ⟨trace, if_pos (condition.mpr untraced)⟩

/-- The envelope a consumer decodes is the row's, injected fields or not. -/
theorem Carries.header {stringify : V → String} {entry : OutboxEntry V} {message : WireMessage}
    (carries : Carries stringify entry message) {name : String}
    (foreign : name ∉ ["traceparent", "tracestate", "baggage"]) :
    message.headers.get name = (encodeHeaders entry).get name := by
  have other : name ≠ "traceparent" := by
    rintro rfl
    simp at foreign
  rw [← entry.headers_get other]
  by_cases untraced : entry.traced = none
  · obtain ⟨trace, headers⟩ := carries.untraced untraced
    rw [headers, injectTraceContext_get trace _ foreign]
  · rw [carries.traced untraced]

theorem Carries.eventId {stringify : V → String} {entry : OutboxEntry V} {message : WireMessage}
    (carries : Carries stringify entry message) : message.headers.get "x-event-id" = some entry.id :=
  carries.header (by decide)

theorem pushByTopic_lookup (topic : String) (message : WireMessage) (byTopic : List (String × List WireMessage))
    (other : String) : ((pushByTopic topic message byTopic).lookup other).getD [] =
      (byTopic.lookup other).getD [] ++ if other = topic then [message] else [] := by
  induction byTopic with
  | nil =>
    rw [pushByTopic, lookup_cons_ite]
    by_cases same : other = topic <;> simp [same]
  | cons entry rest ih =>
    obtain ⟨known, bucket⟩ := entry
    by_cases found : topic = known
    · subst found
      rw [pushByTopic, if_pos rfl, lookup_cons_ite, lookup_cons_ite]
      by_cases same : other = topic <;> simp [same]
    · rw [pushByTopic, if_neg found, lookup_cons_ite, lookup_cons_ite]
      by_cases here : other = known
      · simp [here, Ne.symm found]
      · rw [if_neg here, if_neg here, ih]

/-- Regrouping keeps each topic's messages in the order of the batch. -/
theorem topicMessages_lookup (messages : List (String × WireMessage)) (topic : String) :
    ((topicMessages messages).lookup topic).getD [] = (messages.filter fun m => m.1 = topic).map Prod.snd := by
  have fold (byTopic : List (String × List WireMessage)) :
      ((messages.foldl (fun byTopic m => pushByTopic m.1 m.2 byTopic) byTopic).lookup topic).getD [] =
        (byTopic.lookup topic).getD [] ++ (messages.filter fun m => m.1 = topic).map Prod.snd := by
    induction messages generalizing byTopic with
    | nil => simp
    | cons message rest ih =>
      rw [List.foldl_cons, ih, pushByTopic_lookup, List.append_assoc, List.filter_cons]
      by_cases same : message.1 = topic
      · simp [same]
      · have apart : ¬ topic = message.1 := fun same' => same same'.symm
        simp [same, apart]
  exact fold []

end FoodDelivery.Messaging.Relay
