import FoodDelivery.Lib.Base64
import FoodDelivery.Lib.Except
import FoodDelivery.Messaging.Consumer
import FoodDelivery.Messaging.Relay

namespace FoodDelivery.Messaging.DeadLetter

open Consumer (DropReason)
open Relay (Headers OutboundKafkaMessage)

/-- A UTF-8 sequence that has begun: the bytes it still needs, its code point
so far and the bounds of the next byte. -/
structure Pending where
  needed : Nat
  point : Nat
  lower : Nat
  upper : Nat

/-- The first byte of a sequence. -/
def utf8First (byte : Nat) : List Char × Option Pending :=
  if byte ≤ 0x7F then ([.ofNat byte], none)
  else if 0xC2 ≤ byte ∧ byte ≤ 0xDF then ([], some { needed := 1, point := byte % 0x20, lower := 0x80, upper := 0xBF })
  else if 0xE0 ≤ byte ∧ byte ≤ 0xEF then
    ([], some {
      needed := 2
      point := byte % 0x10
      lower := if byte = 0xE0 then 0xA0 else 0x80
      upper := if byte = 0xED then 0x9F else 0xBF })
  else if 0xF0 ≤ byte ∧ byte ≤ 0xF4 then
    ([], some {
      needed := 3
      point := byte % 0x08
      lower := if byte = 0xF0 then 0x90 else 0x80
      upper := if byte = 0xF4 then 0x8F else 0xBF })
  else (['\uFFFD'], none)

def utf8Next (pending : Pending) (byte : Nat) : List Char × Option Pending :=
  if pending.lower ≤ byte ∧ byte ≤ pending.upper then
    let point := pending.point * 0x40 + byte % 0x40
    if pending.needed = 1 then ([.ofNat point], none)
    else ([], some { needed := pending.needed - 1, point, lower := 0x80, upper := 0xBF })
  else ('\uFFFD' :: (utf8First byte).1, (utf8First byte).2)

/-- `toString('utf8')`: what is no UTF-8 is replaced. -/
def utf8Decode : Option Pending → List UInt8 → List Char
  | none, [] => []
  | some _, [] => ['\uFFFD']
  | pending, byte :: rest =>
    let (text, pending) := match pending with
      | none => utf8First byte.toNat
      | some pending => utf8Next pending byte.toNat
    text ++ utf8Decode pending rest

/-- A Kafka header value as the client hands it over. -/
inductive HeaderText
  | buffer (bytes : List UInt8)
  | text (value : String)
  deriving DecidableEq, Repr

def utf8 (bytes : List UInt8) : String := String.ofList (utf8Decode none bytes)

example : utf8 [0x61, 0xE1, 0xBA, 0xBF, 0xFF] = "aế\uFFFD" := by decide

def HeaderText.toText : HeaderText → String
  | .buffer bytes => utf8 bytes
  | .text value => value

inductive RawKafkaHeaderValue
  | undefined
  | single (value : HeaderText)
  | many (values : List HeaderText)
  deriving DecidableEq, Repr

/-- The own entries of a header object. -/
structure RawKafkaHeaders where
  entries : List (String × RawKafkaHeaderValue)
  distinct : (entries.map Prod.fst).Nodup

def RawKafkaHeaders.get (headers : Option RawKafkaHeaders) (name : String) : RawKafkaHeaderValue :=
  (headers.bind fun headers => headers.entries.lookup name).getD .undefined

structure RawInboundMessage where
  topic : String
  partition : Nat
  offset : String
  key : Option (List UInt8)
  value : Option (List UInt8)
  headers : Option RawKafkaHeaders

structure EventEnvelopeHeaders where
  eventId : String
  eventType : String
  aggregateId : String
  tenantId : String
  correlationId : String
  occurredAt : String
  deriving DecidableEq, Repr

inductive DecodeError
  | missingEventHeader (headerName : String)
  | syntaxError
  deriving DecidableEq, Repr

def headerToString (name : String) (raw : RawKafkaHeaderValue) : Except DecodeError String :=
  let value := match raw with
    | .undefined => none
    | .single value => some value
    | .many values => values.head?
  match value with
  | none => throw (.missingEventHeader name)
  | some value => if value.toText.length = 0 then throw (.missingEventHeader name) else return value.toText

def decodeHeaders (source : String → RawKafkaHeaderValue) : Except DecodeError EventEnvelopeHeaders := do
  return {
    eventId := ← headerToString "x-event-id" (source "x-event-id")
    eventType := ← headerToString "x-event-type" (source "x-event-type")
    aggregateId := ← headerToString "x-aggregate-id" (source "x-aggregate-id")
    tenantId := ← headerToString "x-tenant-id" (source "x-tenant-id")
    correlationId := ← headerToString "x-correlation-id" (source "x-correlation-id")
    occurredAt := ← headerToString "x-occurred-at" (source "x-occurred-at") }

structure DecodedKafkaMessage (J : Type) where
  envelope : EventEnvelopeHeaders
  payload : Option J
  topic : String
  partition : Nat
  offset : String
  deriving DecidableEq, Repr

/-- `decodeMessage`, with the parser of `JSON.parse`, which may throw. -/
def decodeMessage {J : Type} (parse : String → Option J) (topic : String) (partition : Nat) (offset : String)
    (value : Option (List UInt8)) (source : String → RawKafkaHeaderValue) : Except DecodeError (DecodedKafkaMessage J) := do
  let envelope ← decodeHeaders source
  match value with
  | none => return { envelope, payload := none, topic, partition, offset }
  | some bytes =>
    match parse (utf8 bytes) with
    | none => throw .syntaxError
    | some payload => return { envelope, payload := some payload, topic, partition, offset }

/-- A later value of a header is the one kept. An empty array has no last
element, and the text of `undefined` is kept. -/
def setHeader (out : Headers) (name : String) : RawKafkaHeaderValue → Headers
  | .undefined => out
  | .single value => out.set name value.toText
  | .many values => out.set name ((values.getLast?.map (·.toText)).getD "undefined")

def rawHeadersToStrings (headers : Option RawKafkaHeaders) : Headers :=
  match headers with
  | none => []
  | some headers => headers.entries.foldl (fun out (name, value) => setHeader out name value) []

def reasonText : DropReason → String
  | .undecodable => "undecodable"
  | .handlerExhausted => "handler-exhausted"

/-- The value of a dead-letter message. -/
structure DeadLetterValue where
  sourceTopic : String
  sourcePartition : Nat
  sourceOffset : String
  reason : DropReason
  failureReason : String
  key : Option String
  headers : Headers
  value : Option String

def deadLetterTopic (sourceTopic : String) : String := sourceTopic ++ ".dlq"

def base64 (bytes : List UInt8) : String := String.ofList (Base64.encode bytes)

def buildDeadLetterMessage (raw : RawInboundMessage) (reason : DropReason) (failureReason : String) :
    OutboundKafkaMessage DeadLetterValue where
  topic := deadLetterTopic raw.topic
  key := (raw.key.map utf8).getD ""
  headers := [("x-dlq-source-topic", raw.topic), ("x-dlq-source-partition", toString raw.partition),
    ("x-dlq-source-offset", raw.offset), ("x-dlq-reason", reasonText reason), ("x-dlq-failure-reason", failureReason)]
  value := {
    sourceTopic := raw.topic
    sourcePartition := raw.partition
    sourceOffset := raw.offset
    reason, failureReason
    key := raw.key.map base64
    headers := rawHeadersToStrings raw.headers
    value := raw.value.map base64 }

/-- The headers and the value of a dead-letter message, decoded like those of
the message it was made from. -/
def DeadLetterValue.decode {J : Type} (parse : String → Option J) (stored : DeadLetterValue) :
    Except DecodeError (DecodedKafkaMessage J) :=
  decodeMessage parse stored.sourceTopic stored.sourcePartition stored.sourceOffset
    (stored.value.map fun text => Base64.decode text.toList)
    fun name => match stored.headers.get name with
      | none => .undefined
      | some text => .single (.text text)

def RawInboundMessage.decode {J : Type} (parse : String → Option J) (raw : RawInboundMessage) :
    Except DecodeError (DecodedKafkaMessage J) :=
  decodeMessage parse raw.topic raw.partition raw.offset raw.value (RawKafkaHeaders.get raw.headers)

def nonEmpty (text : String) : Option String := if text.length = 0 then none else some text

/-- The text of a header's first value. -/
def RawKafkaHeaderValue.firstText : RawKafkaHeaderValue → Option String
  | .undefined => none
  | .single value => nonEmpty value.toText
  | .many values => values.head?.bind fun value => nonEmpty value.toText

/-- The text that a dead-letter message keeps of a header. -/
def RawKafkaHeaderValue.stored : RawKafkaHeaderValue → Option String
  | .undefined => none
  | .single value => some value.toText
  | .many values => some ((values.getLast?.map (·.toText)).getD "undefined")

def RawKafkaHeaderValue.lastText (raw : RawKafkaHeaderValue) : Option String := raw.stored.bind nonEmpty

def envelopeHeaders : List String :=
  ["x-event-id", "x-event-type", "x-aggregate-id", "x-tenant-id", "x-correlation-id", "x-occurred-at"]

section headers

theorem setHeader_get (out : Headers) (name : String) (value : RawKafkaHeaderValue) (other : String) :
    (setHeader out name value).get other = if other = name then value.stored.or (out.get other) else out.get other := by
  cases value with
  | undefined => simp [setHeader, RawKafkaHeaderValue.stored]
  | single value => rw [setHeader, Headers.get_set, RawKafkaHeaderValue.stored, Option.some_or]
  | many values => rw [setHeader, Headers.get_set, RawKafkaHeaderValue.stored, Option.some_or]

theorem setHeaders_get (entries : List (String × RawKafkaHeaderValue)) (distinct : (entries.map Prod.fst).Nodup)
    (out : Headers) (name : String) :
    (entries.foldl (fun out (name, value) => setHeader out name value) out).get name =
      ((entries.lookup name).bind (·.stored)).or (out.get name) := by
  induction entries generalizing out with
  | nil => rfl
  | cons entry rest ih =>
    obtain ⟨known, value⟩ := entry
    obtain ⟨apart, distinct⟩ := List.nodup_cons.mp distinct
    rw [List.foldl_cons, ih distinct, setHeader_get, Relay.lookup_cons_ite]
    split
    · rename_i same
      have absent : rest.lookup name = none := by
        rw [List.lookup_eq_none_iff]
        intro entry member
        rw [bne_iff_ne, same]
        exact fun known' => apart (List.mem_map.mpr ⟨entry, member, known'.symm⟩)
      rw [absent]
      rfl
    · rfl

/-- A dead-letter message keeps one text of every header. -/
theorem rawHeadersToStrings_get (headers : Option RawKafkaHeaders) (name : String) :
    (rawHeadersToStrings headers).get name = (RawKafkaHeaders.get headers name).stored := by
  cases headers with
  | none => rfl
  | some headers =>
    rw [rawHeadersToStrings, setHeaders_get headers.entries headers.distinct, RawKafkaHeaders.get, Option.bind_some]
    cases headers.entries.lookup name with
    | none => rfl
    | some value => exact Option.or_none

end headers

section envelopes

variable {f g : String → Option String}

/-- An envelope made of six texts. -/
def envelopeOf (text : String → Option String) : Option EventEnvelopeHeaders := do
  return {
    eventId := ← text "x-event-id"
    eventType := ← text "x-event-type"
    aggregateId := ← text "x-aggregate-id"
    tenantId := ← text "x-tenant-id"
    correlationId := ← text "x-correlation-id"
    occurredAt := ← text "x-occurred-at" }

theorem envelopeOf_eq_some {envelope : EventEnvelopeHeaders} : envelopeOf f = some envelope ↔
    f "x-event-id" = some envelope.eventId ∧ f "x-event-type" = some envelope.eventType ∧
      f "x-aggregate-id" = some envelope.aggregateId ∧ f "x-tenant-id" = some envelope.tenantId ∧
      f "x-correlation-id" = some envelope.correlationId ∧ f "x-occurred-at" = some envelope.occurredAt := by
  obtain ⟨eventId, eventType, aggregateId, tenantId, correlationId, occurredAt⟩ := envelope
  simp only [envelopeOf, Option.bind_eq_bind, Option.bind_eq_some_iff, Option.pure_def, Option.some.injEq,
    EventEnvelopeHeaders.mk.injEq]
  constructor
  · rintro ⟨_, first, _, second, _, third, _, fourth, _, fifth, _, sixth, rfl, rfl, rfl, rfl, rfl, rfl⟩
    exact ⟨first, second, third, fourth, fifth, sixth⟩
  · rintro ⟨first, second, third, fourth, fifth, sixth⟩
    exact ⟨_, first, _, second, _, third, _, fourth, _, fifth, _, sixth, rfl, rfl, rfl, rfl, rfl, rfl⟩

theorem envelopeOf_eq_none : envelopeOf f = none ↔ ∃ name ∈ envelopeHeaders, f name = none := by
  constructor
  · intro none
    by_contra all
    push Not at all
    have text (name : String) (member : name ∈ envelopeHeaders) : ∃ text, f name = some text :=
      Option.ne_none_iff_exists'.mp (all name member)
    obtain ⟨eventId, first⟩ := text "x-event-id" (by simp [envelopeHeaders])
    obtain ⟨eventType, second⟩ := text "x-event-type" (by simp [envelopeHeaders])
    obtain ⟨aggregateId, third⟩ := text "x-aggregate-id" (by simp [envelopeHeaders])
    obtain ⟨tenantId, fourth⟩ := text "x-tenant-id" (by simp [envelopeHeaders])
    obtain ⟨correlationId, fifth⟩ := text "x-correlation-id" (by simp [envelopeHeaders])
    obtain ⟨occurredAt, sixth⟩ := text "x-occurred-at" (by simp [envelopeHeaders])
    have whole : envelopeOf f = some ⟨eventId, eventType, aggregateId, tenantId, correlationId, occurredAt⟩ :=
      envelopeOf_eq_some.mpr ⟨first, second, third, fourth, fifth, sixth⟩
    cases none.symm.trans whole
  · rintro ⟨name, member, absent⟩
    by_contra some
    obtain ⟨envelope, whole⟩ := Option.ne_none_iff_exists'.mp some
    obtain ⟨first, second, third, fourth, fifth, sixth⟩ := envelopeOf_eq_some.mp whole
    simp only [envelopeHeaders, List.mem_cons, List.not_mem_nil, or_false] at member
    rcases member with rfl | rfl | rfl | rfl | rfl | rfl
    · cases absent.symm.trans first
    · cases absent.symm.trans second
    · cases absent.symm.trans third
    · cases absent.symm.trans fourth
    · cases absent.symm.trans fifth
    · cases absent.symm.trans sixth

/-- Two sources give the same envelope, or none. -/
theorem envelopeOf_eq_iff : envelopeOf f = envelopeOf g ↔
    (∀ name ∈ envelopeHeaders, f name ≠ none ∧ f name = g name) ∨
      (∃ name ∈ envelopeHeaders, f name = none) ∧ ∃ name ∈ envelopeHeaders, g name = none := by
  rw [← envelopeOf_eq_none, ← envelopeOf_eq_none]
  cases whole : envelopeOf f with
  | none =>
    constructor
    · exact fun same => Or.inr ⟨rfl, same.symm⟩
    · rintro (all | ⟨-, none⟩)
      · obtain ⟨name, member, absent⟩ := envelopeOf_eq_none.mp whole
        exact absurd absent (all name member).1
      · exact none.symm
  | some envelope =>
    have texts := envelopeOf_eq_some.mp whole
    constructor
    · intro same
      have texts' := envelopeOf_eq_some.mp same.symm
      refine Or.inl fun name member => ?_
      simp only [envelopeHeaders, List.mem_cons, List.not_mem_nil, or_false] at member
      rcases member with rfl | rfl | rfl | rfl | rfl | rfl
      · exact ⟨by simp [texts.1], texts.1.trans texts'.1.symm⟩
      · exact ⟨by simp [texts.2.1], texts.2.1.trans texts'.2.1.symm⟩
      · exact ⟨by simp [texts.2.2.1], texts.2.2.1.trans texts'.2.2.1.symm⟩
      · exact ⟨by simp [texts.2.2.2.1], texts.2.2.2.1.trans texts'.2.2.2.1.symm⟩
      · exact ⟨by simp [texts.2.2.2.2.1], texts.2.2.2.2.1.trans texts'.2.2.2.2.1.symm⟩
      · exact ⟨by simp [texts.2.2.2.2.2], texts.2.2.2.2.2.trans texts'.2.2.2.2.2.symm⟩
    · rintro (all | ⟨absurd, -⟩)
      · have same (name : String) (member : name ∈ envelopeHeaders) : g name = f name := (all name member).2.symm
        refine (envelopeOf_eq_some.mpr ?_).symm
        rw [same _ (by simp [envelopeHeaders]), same _ (by simp [envelopeHeaders]), same _ (by simp [envelopeHeaders]),
          same _ (by simp [envelopeHeaders]), same _ (by simp [envelopeHeaders]), same _ (by simp [envelopeHeaders])]
        exact texts
      · cases absurd

end envelopes

theorem headerToString_firstText (name : String) (raw : RawKafkaHeaderValue) :
    (headerToString name raw).toOption = raw.firstText := by
  have text (value : HeaderText) : (headerToString name (.single value)).toOption = nonEmpty value.toText := by
    by_cases empty : value.toText.length = 0
    · simp only [headerToString, nonEmpty, if_pos empty]
      rfl
    · simp only [headerToString, nonEmpty, if_neg empty]
      rfl
  cases raw with
  | undefined => rfl
  | single value => exact text value
  | many values =>
    cases values with
    | nil => rfl
    | cons value rest => exact text value

theorem decodeHeaders_envelope (source : String → RawKafkaHeaderValue) :
    (decodeHeaders source).toOption = envelopeOf fun name => (source name).firstText := by
  simp only [decodeHeaders, envelopeOf, Except.toOption_bind, headerToString_firstText]
  rfl

section decoded

variable {J : Type} {parse : String → Option J}

/-- The payload of a message, absent where `JSON.parse` throws. -/
def readPayload (parse : String → Option J) : Option (List UInt8) → Option (Option J)
  | none => some none
  | some bytes => (parse (utf8 bytes)).map some

theorem decodeMessage_toOption (topic : String) (partition : Nat) (offset : String) (value : Option (List UInt8))
    (source : String → RawKafkaHeaderValue) :
    (decodeMessage parse topic partition offset value source).toOption =
      (envelopeOf fun name => (source name).firstText).bind fun envelope => (readPayload parse value).map fun payload =>
        { envelope, payload, topic, partition, offset } := by
  rw [decodeMessage, Except.toOption_bind, decodeHeaders_envelope]
  congr 1
  funext envelope
  cases value with
  | none => rfl
  | some bytes =>
    simp only [readPayload]
    cases parse (utf8 bytes) <;> rfl

/-- What a dead-letter message decodes to: the last text of each header, and
the bytes of the value. -/
theorem buildDeadLetterMessage_decode (raw : RawInboundMessage) (reason : DropReason) (failureReason : String) :
    ((buildDeadLetterMessage raw reason failureReason).value.decode parse).toOption =
      (envelopeOf fun name => (RawKafkaHeaders.get raw.headers name).lastText).bind fun envelope =>
        (readPayload parse raw.value).map fun payload =>
          { envelope, payload, topic := raw.topic, partition := raw.partition, offset := raw.offset } := by
  have texts : (fun name => (match (rawHeadersToStrings raw.headers).get name with
      | none => RawKafkaHeaderValue.undefined
      | some text => .single (.text text)).firstText) = fun name => (RawKafkaHeaders.get raw.headers name).lastText := by
    funext name
    rw [rawHeadersToStrings_get, RawKafkaHeaderValue.lastText]
    cases (RawKafkaHeaders.get raw.headers name).stored <;> rfl
  have value : ((raw.value.map base64).map fun text => Base64.decode text.toList) = raw.value := by
    rw [Option.map_map]
    have same : (fun text : String => Base64.decode text.toList) ∘ base64 = id := by
      funext bytes
      simp [base64]
    rw [same, Option.map_id, id]
  rw [DeadLetterValue.decode, decodeMessage_toOption]
  simp only [buildDeadLetterMessage]
  rw [texts, value]

/-- The value of the message is no JSON. -/
def Unreadable (parse : String → Option J) (raw : RawInboundMessage) : Prop :=
  ∃ bytes, raw.value = some bytes ∧ parse (utf8 bytes) = none

/-- Each header of the envelope has the same text at its first value and at its
last; or one has none at its first, and one none at its last. -/
def SameTexts (raw : RawInboundMessage) : Prop :=
  (∀ name ∈ envelopeHeaders, (RawKafkaHeaders.get raw.headers name).firstText ≠ none ∧
    (RawKafkaHeaders.get raw.headers name).firstText = (RawKafkaHeaders.get raw.headers name).lastText) ∨
  (∃ name ∈ envelopeHeaders, (RawKafkaHeaders.get raw.headers name).firstText = none) ∧
    ∃ name ∈ envelopeHeaders, (RawKafkaHeaders.get raw.headers name).lastText = none

/-- A dead-letter message decodes to what its message decodes to. -/
theorem preserved_iff (parse : String → Option J) (raw : RawInboundMessage) (reason : DropReason) (failureReason : String) :
    ((buildDeadLetterMessage raw reason failureReason).value.decode parse).toOption = (raw.decode parse).toOption ↔
      Unreadable parse raw ∨ SameTexts raw := by
  rw [buildDeadLetterMessage_decode, RawInboundMessage.decode, decodeMessage_toOption, SameTexts, ← envelopeOf_eq_iff]
  have unreadable : readPayload parse raw.value = none ↔ Unreadable parse raw := by
    unfold readPayload Unreadable
    cases raw.value with
    | none => simp
    | some bytes => simp
  cases read : readPayload parse raw.value with
  | none => simp [unreadable.mp read]
  | some payload =>
    have readable : ¬ Unreadable parse raw := fun absurd => by cases read.symm.trans (unreadable.mpr absurd)
    have decoded : Function.Injective fun envelope : EventEnvelopeHeaders =>
        ({ envelope, payload, topic := raw.topic, partition := raw.partition, offset := raw.offset } : DecodedKafkaMessage J) :=
      fun _ _ same => congrArg DecodedKafkaMessage.envelope same
    simp only [readable, false_or, Option.map_some]
    show Option.bind _ (some ∘ _) = Option.bind _ (some ∘ _) ↔ _
    rw [← Option.map_eq_bind, ← Option.map_eq_bind, (Option.map_injective decoded).eq_iff, eq_comm]

end decoded

section samples

/-- A message whose tenant was set twice, as a retry of its producer may do. -/
def sampleRaw : RawInboundMessage where
  topic := "order.events"
  partition := 0
  offset := "7"
  key := none
  value := some [0x7b, 0x7d]
  headers := some {
    entries := [("x-event-id", .single (.text "event-1")), ("x-event-type", .single (.text "OrderConfirmed")),
      ("x-aggregate-id", .single (.text "order-1")), ("x-tenant-id", .many [.text "tenant-1", .text "tenant-2"]),
      ("x-correlation-id", .single (.text "saga-1")), ("x-occurred-at", .single (.text "2026-01-01T00:00:00Z"))]
    distinct := by decide }

theorem other_tenant_stored :
    ((buildDeadLetterMessage sampleRaw .handlerExhausted "").value.decode some).toOption.map (·.envelope.tenantId) = some "tenant-2" ∧
      (sampleRaw.decode some).toOption.map (·.envelope.tenantId) = some "tenant-1" := by
  decide

end samples

end FoodDelivery.Messaging.DeadLetter
