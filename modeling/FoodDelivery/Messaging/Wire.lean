import FoodDelivery.Lib.JsonText
import FoodDelivery.Messaging.DeadLetter
import FoodDelivery.Messaging.RelayRun

namespace FoodDelivery.Messaging.Wire

open DeadLetter (utf8 utf8Decode utf8First utf8Next Pending RawKafkaHeaderValue DecodeError DecodedKafkaMessage nonEmpty readPayload)
open Relay (OutboxEntry WireMessage Carries State Run)

/-- `Buffer.from(text, 'utf8')`. -/
def buffer (text : String) : List UInt8 := text.toList.flatMap String.utf8EncodeChar

/-- The headers of a message as the consumer's client hands them over. -/
def source (message : WireMessage) (name : String) : RawKafkaHeaderValue :=
  match message.headers.get name with
  | some text => .single (.buffer (buffer text))
  | none => .undefined

/-- `decodeMessage` of what a producer has sent. -/
def decode (topic : String) (partition : Nat) (offset : String) (message : WireMessage) :
    Except DecodeError (DecodedKafkaMessage JsonValue) :=
  DeadLetter.decodeMessage JsonText.parse topic partition offset (some (buffer message.value)) (source message)

section utf8

variable {c : Char} {rest : List UInt8}

theorem utf8Decode_first {n : Nat} (small : n < 256) (rest : List UInt8) :
    utf8Decode none (.ofNat n :: rest) = (utf8First n).1 ++ utf8Decode (utf8First n).2 rest := by
  have value : (UInt8.ofNat n).toNat = n := UInt8.toNat_ofNat_of_lt' small
  simp only [utf8Decode, value]

/-- The last byte of a sequence. -/
theorem utf8Decode_last {point lower upper n : Nat} (inside : lower ≤ n ∧ n ≤ upper) (small : n < 256) (rest : List UInt8) :
    utf8Decode (some ⟨1, point, lower, upper⟩) (.ofNat n :: rest) = .ofNat (point * 0x40 + n % 0x40) :: utf8Decode none rest := by
  have value : (UInt8.ofNat n).toNat = n := UInt8.toNat_ofNat_of_lt' small
  simp only [utf8Decode, value, utf8Next, if_pos inside, if_true, List.singleton_append]

/-- A byte of a sequence that is not its last one. -/
theorem utf8Decode_next {needed point lower upper n : Nat} (inside : lower ≤ n ∧ n ≤ upper) (small : n < 256) (rest : List UInt8) :
    utf8Decode (some ⟨needed + 2, point, lower, upper⟩) (.ofNat n :: rest) =
      utf8Decode (some ⟨needed + 1, point * 0x40 + n % 0x40, 0x80, 0xBF⟩) rest := by
  have value : (UInt8.ofNat n).toNat = n := UInt8.toNat_ofNat_of_lt' small
  have more : needed + 2 ≠ 1 := by omega
  simp only [utf8Decode, value, utf8Next, if_pos inside, if_neg more, List.nil_append]
  rfl

theorem utf8First_one {byte : Nat} (bound : byte ≤ 0x7F) : utf8First byte = ([.ofNat byte], none) := if_pos bound

theorem utf8First_two {byte : Nat} (bound : 0xC2 ≤ byte ∧ byte ≤ 0xDF) :
    utf8First byte = ([], some ⟨1, byte % 0x20, 0x80, 0xBF⟩) := by
  rw [utf8First, if_neg (by omega), if_pos bound]

theorem utf8First_three {byte : Nat} (bound : 0xE0 ≤ byte ∧ byte ≤ 0xEF) : utf8First byte =
    ([], some ⟨2, byte % 0x10, if byte = 0xE0 then 0xA0 else 0x80, if byte = 0xED then 0x9F else 0xBF⟩) := by
  rw [utf8First, if_neg (by omega), if_neg (by omega), if_pos bound]

theorem utf8First_four {byte : Nat} (bound : 0xF0 ≤ byte ∧ byte ≤ 0xF4) : utf8First byte =
    ([], some ⟨3, byte % 0x08, if byte = 0xF0 then 0x90 else 0x80, if byte = 0xF4 then 0x8F else 0xBF⟩) := by
  rw [utf8First, if_neg (by omega), if_neg (by omega), if_neg (by omega), if_pos bound]

/-- A character is read back from its bytes. -/
theorem utf8Decode_encode (c : Char) (rest : List UInt8) :
    utf8Decode none (String.utf8EncodeChar c ++ rest) = c :: utf8Decode none rest := by
  have scalar : c.val.toNat < 0xD800 ∨ 0xDFFF < c.val.toNat ∧ c.val.toNat < 0x110000 := c.valid
  have back : Char.ofNat c.val.toNat = c := Char.ofNat_toNat c
  simp only [String.utf8EncodeChar]
  generalize c.val.toNat = n at *
  split
  · next one => rw [List.singleton_append, utf8Decode_first (by omega), utf8First_one one, back, List.singleton_append]
  · next more =>
    split
    · next two =>
      have first : 0xC2 ≤ n / 64 % 32 + 0xC0 ∧ n / 64 % 32 + 0xC0 ≤ 0xDF := by omega
      have whole : (n / 64 % 32 + 0xC0) % 0x20 * 0x40 + (n % 64 + 0x80) % 0x40 = n := by omega
      rw [List.cons_append, List.singleton_append, utf8Decode_first (by omega), utf8First_two first, List.nil_append,
        utf8Decode_last (by omega) (by omega), whole, back]
    · next more =>
      split
      · next three =>
        have first : 0xE0 ≤ n / 4096 % 16 + 0xE0 ∧ n / 4096 % 16 + 0xE0 ≤ 0xEF := by omega
        have second : (if n / 4096 % 16 + 0xE0 = 0xE0 then 0xA0 else 0x80) ≤ n / 64 % 64 + 0x80 ∧
            n / 64 % 64 + 0x80 ≤ if n / 4096 % 16 + 0xE0 = 0xED then 0x9F else 0xBF := by
          constructor <;> split <;> omega
        have whole : ((n / 4096 % 16 + 0xE0) % 0x10 * 0x40 + (n / 64 % 64 + 0x80) % 0x40) * 0x40 + (n % 64 + 0x80) % 0x40 = n := by
          omega
        simp only [List.cons_append, List.nil_append]
        rw [utf8Decode_first (by omega), utf8First_three first, List.nil_append, utf8Decode_next second (by omega),
          utf8Decode_last (by omega) (by omega), whole, back]
      · next more =>
        have first : 0xF0 ≤ n / 262144 % 8 + 0xF0 ∧ n / 262144 % 8 + 0xF0 ≤ 0xF4 := by omega
        have second : (if n / 262144 % 8 + 0xF0 = 0xF0 then 0x90 else 0x80) ≤ n / 4096 % 64 + 0x80 ∧
            n / 4096 % 64 + 0x80 ≤ if n / 262144 % 8 + 0xF0 = 0xF4 then 0x8F else 0xBF := by
          constructor <;> split <;> omega
        have whole : (((n / 262144 % 8 + 0xF0) % 0x08 * 0x40 + (n / 4096 % 64 + 0x80) % 0x40) * 0x40 +
            (n / 64 % 64 + 0x80) % 0x40) * 0x40 + (n % 64 + 0x80) % 0x40 = n := by omega
        simp only [List.cons_append, List.nil_append]
        rw [utf8Decode_first (by omega), utf8First_four first, List.nil_append, utf8Decode_next second (by omega),
          utf8Decode_next (by omega) (by omega), utf8Decode_last (by omega) (by omega), whole, back]

theorem utf8_buffer (text : String) : utf8 (buffer text) = text := by
  have all (chars : List Char) : utf8Decode none (chars.flatMap String.utf8EncodeChar) = chars := by
    induction chars with
    | nil => rfl
    | cons c chars ih => rw [List.flatMap_cons, utf8Decode_encode, ih]
  rw [utf8, buffer, all, String.ofList_toList]

end utf8

section decoded

/-- The envelope of a row. -/
def envelope (entry : OutboxEntry JsonValue) : DeadLetter.EventEnvelopeHeaders where
  eventId := entry.id
  eventType := entry.eventType
  aggregateId := entry.aggregateId
  tenantId := entry.tenantId
  correlationId := entry.correlationId
  occurredAt := entry.createdAt

/-- None of the columns that become headers is empty. -/
def Filled (entry : OutboxEntry JsonValue) : Prop := ∀ header ∈ Relay.encodeHeaders entry, header.2 ≠ ""

instance (entry : OutboxEntry JsonValue) : Decidable (Filled entry) := inferInstanceAs (Decidable (∀ _ ∈ _, _))

variable {entry : OutboxEntry JsonValue} {message : WireMessage}

theorem firstText_source (name : String) : (source message name).firstText = (message.headers.get name).bind nonEmpty := by
  unfold source
  cases message.headers.get name with
  | none => rfl
  | some text => exact congrArg nonEmpty (utf8_buffer text)

theorem nonEmpty_eq (text : String) : nonEmpty text = if text = "" then none else some text := by
  unfold nonEmpty
  simp only [String.length_eq_zero_iff]

theorem encodeHeaders_names (entry : OutboxEntry JsonValue) : ∀ header ∈ Relay.encodeHeaders entry,
    header.1 ∈ DeadLetter.envelopeHeaders ∧ (Relay.encodeHeaders entry).get header.1 = some header.2 := by
  intro header member
  have names : (Relay.encodeHeaders entry).map Prod.fst = DeadLetter.envelopeHeaders := rfl
  refine ⟨names ▸ List.mem_map_of_mem member, ?_⟩
  simp only [Relay.encodeHeaders, List.mem_cons, List.not_mem_nil, or_false] at member
  rcases member with rfl | rfl | rfl | rfl | rfl | rfl <;> rfl

/-- The header of a column, as a consumer reads it. -/
theorem read_carried {stringify : JsonValue → String} (carries : Carries stringify entry message) {header : String × String}
    (member : header ∈ Relay.encodeHeaders entry) : (source message header.1).firstText = nonEmpty header.2 := by
  have foreign : ∀ name ∈ DeadLetter.envelopeHeaders, name ∉ ["traceparent", "tracestate", "baggage"] := by decide
  obtain ⟨known, stands⟩ := encodeHeaders_names entry header member
  rw [firstText_source, carries.header (foreign _ known), stands, Option.bind_some]

theorem payload_read {payload : JsonValue} (proper : JsonText.Proper payload) :
    readPayload JsonText.parse (some (buffer (JsonText.stringify payload))) = some (some payload) := by
  rw [readPayload, utf8_buffer, JsonText.parse_stringify proper]
  rfl

/-- What a consumer decodes of a message that carries a row: nothing where a
column is empty, and else the row. -/
theorem decode_carried (carries : Carries JsonText.stringify entry message) (proper : JsonText.Proper entry.payload) (topic : String)
    (partition : Nat) (offset : String) : (Wire.decode topic partition offset message).toOption =
      if Filled entry then some { envelope := envelope entry, payload := some entry.payload, topic, partition, offset } else none := by
  have text (name column : String) (member : (name, column) ∈ Relay.encodeHeaders entry) :
      (source message name).firstText = if column = "" then none else some column :=
    (read_carried carries member).trans (nonEmpty_eq column)
  rw [Wire.decode, DeadLetter.decodeMessage_toOption, carries.value, payload_read proper]
  split
  · next filled =>
    have filledText (name column : String) (member : (name, column) ∈ Relay.encodeHeaders entry) :
        (source message name).firstText = some column := (text name column member).trans (if_neg (filled _ member))
    have decoded : DeadLetter.envelopeOf (fun name => (source message name).firstText) = some (envelope entry) := by
      rw [DeadLetter.envelopeOf_eq_some]
      refine ⟨filledText _ _ ?_, filledText _ _ ?_, filledText _ _ ?_, filledText _ _ ?_, filledText _ _ ?_, filledText _ _ ?_⟩ <;>
        simp [Relay.encodeHeaders, envelope]
    rw [decoded]
    rfl
  · next empty =>
    obtain ⟨⟨name, column⟩, member, none⟩ : ∃ header ∈ Relay.encodeHeaders entry, header.2 = "" := by
      unfold Filled at empty
      push Not at empty
      exact empty
    have missing : DeadLetter.envelopeOf (fun name => (source message name).firstText) = Option.none := by
      rw [DeadLetter.envelopeOf_eq_none]
      exact ⟨name, (encodeHeaders_names entry _ member).1, (text name column member).trans (if_pos none)⟩
    rw [missing]
    rfl

end decoded

section runs

variable {log : List (CommitLog.Commit (State JsonValue) (Relay.Step JsonValue))} {state : State JsonValue}

/-- Whatever happens to a relay, a consumer of one of its topics decodes of
each message the envelope and the payload of a row of the outbox, or nothing
where a column of the row is empty. -/
theorem decodes_row (run : Run JsonText.stringify log state) (proper : ∀ row ∈ state.outbox, JsonText.Proper row.entry.payload)
    (topic : String) (message : WireMessage) (accepted : message ∈ state.accepted topic) :
    ∃ row ∈ state.outbox, row.entry.topic = topic ∧ message.key = row.entry.aggregateId ∧
      ∀ partition offset, (decode topic partition offset message).toOption =
        if Filled row.entry then some { envelope := envelope row.entry, payload := some row.entry.payload, topic, partition, offset }
        else none := by
  obtain ⟨row, member, onTopic, carries⟩ := run.sound.carried topic message accepted
  exact ⟨row, member, onTopic, carries.key, decode_carried carries (proper row member) topic⟩

end runs

section sample

def samplePayload : JsonValue := .object [("orderId", .string "order")]

def sampleEntry : OutboxEntry JsonValue where
  id := "event"
  aggregateId := "order"
  topic := "order.events"
  eventType := "OrderConfirmed"
  payload := samplePayload
  tenantId := "tenant"
  correlationId := "correlation"
  createdAt := "2026-01-01T00:00:00.000Z"
  traceParent := none

def sampleMessage : WireMessage :=
  Relay.toWireMessage JsonText.stringify (Relay.sampleCall.trace "event") sampleEntry.toRecord.toMessage

def sampleOutbox : State JsonValue where
  outbox := [Relay.OutboxEntry.stored sampleEntry]
  accepted _ := []

def samplePublished : State JsonValue := (Relay.runOnce JsonText.stringify Relay.sampleCall sampleOutbox).1

theorem samplePayload_proper : JsonText.Proper samplePayload := ⟨List.pairwise_singleton _ _, trivial, trivial⟩

/-- The row of the sample is published. -/
theorem sampleRun : ∃ log, Run JsonText.stringify log samplePublished := by
  have written := (CommitLog.History.start rfl : Run JsonText.stringify [] .start).commit
    (show Relay.Steps JsonText.stringify (.append sampleEntry) .start sampleOutbox from
      .append fun row absent => absurd absent List.not_mem_nil)
  exact ⟨_, written.commit (@Relay.Steps.call _ JsonText.stringify Relay.sampleCall _)⟩

/-- A consumer decodes it. -/
theorem decodes_row_of_sample : ∃ message ∈ samplePublished.accepted "order.events",
    (decode "order.events" 0 "0" message).toOption = some {
      envelope := envelope sampleEntry, payload := some samplePayload, topic := "order.events", partition := 0, offset := "0" } := by
  obtain ⟨log, run⟩ := sampleRun
  have proper : ∀ row ∈ samplePublished.outbox, row.entry = sampleEntry := by
    intro row member
    cases List.mem_singleton.mp member
    rfl
  obtain ⟨row, member, -, -, decodes⟩ := decodes_row run (fun row member => proper row member ▸ samplePayload_proper) "order.events"
    sampleMessage (List.mem_singleton_self _)
  refine ⟨sampleMessage, List.mem_singleton_self _, ?_⟩
  rw [decodes, proper row member, if_pos (by decide)]
  rfl

end sample

end FoodDelivery.Messaging.Wire
