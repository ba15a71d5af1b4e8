import Mathlib.Data.Bool.AllAny
import FoodDelivery.Payment.Workflow
import FoodDelivery.Tenancy.Signatures

namespace FoodDelivery.PaymentService

open Binary64 Messaging Tenancy
open Tenancy.Signatures (Mac hexDigest number)

def webhookSignatureHeader : String := "x-payment-signature"
def webhookTimestampHeader : String := "x-payment-timestamp"

def defaultWebhookToleranceSec : Double := .ofNat 300 (by norm_num)

structure WebhookVerificationInput where
  secret : String
  rawBody : String
  signatureHeader : Option String
  timestampHeader : Option String
  nowSec : Option Double
  toleranceSec : Option Double

/-- `dateNow` is what `Date.now()` reads. -/
def WebhookVerificationInput.now (input : WebhookVerificationInput) (dateNow : Double) : Number :=
  match input.nowSec with
  | some nowSec => .finite nowSec
  | none => ((Number.finite dateNow).divNat 1000).floor

def WebhookVerificationInput.tolerance (input : WebhookVerificationInput) : Double :=
  input.toleranceSec.getD defaultWebhookToleranceSec

def signedPayload (timestamp rawBody : String) : String := s!"{timestamp}.{rawBody}"

def stripPrefix (signature : String) : String :=
  if "sha256=".toList <+: signature.toList then .ofList (signature.toList.drop "sha256=".length) else signature

def safeEqualHex (a b : String) : Bool :=
  Hexadecimal.decode a.toList ≠ [] ∧ Hexadecimal.decode a.toList = Hexadecimal.decode b.toList

def verifyWebhookSignature (mac : Mac) (input : WebhookVerificationInput) (dateNow : Double) : Except String Unit :=
  match filled input.signatureHeader with
  | none => throw "missing signature header"
  | some signature =>
    match filled input.timestampHeader with
    | none => throw "missing timestamp header"
    | some header =>
      if (number header).isFinite = false then throw "invalid timestamp header"
      else if (Number.finite input.tolerance).less (input.now dateNow - number header).abs then
        throw "timestamp outside replay window"
      else if safeEqualHex (hexDigest (mac input.secret (signedPayload header input.rawBody))) (stripPrefix signature) then pure ()
      else throw "signature mismatch"

structure PaymentWebhookDto where
  orderId : Uuid
  ok : Bool
  reason : Option String
  deriving DecidableEq, Repr

/-- A request to the webhook with its body as it came and as it was parsed. -/
structure WebhookRequest where
  headers : Headers
  rawBody : Option String
  body : PaymentWebhookDto

/-- What the controller has verified. -/
def WebhookRequest.input (request : WebhookRequest) (secret : String) : WebhookVerificationInput where
  secret := secret
  rawBody := request.rawBody.getD ""
  signatureHeader := request.headers.first webhookSignatureHeader
  timestampHeader := request.headers.first webhookTimestampHeader
  nowSec := none
  toleranceSec := none

/-- `PaymentWebhookController.handleWebhook`. -/
def handleWebhook (mac : Mac) (secret : String) (request : WebhookRequest) (dateNow : Double) (db : Db) : Except HttpException Db :=
  match verifyWebhookSignature mac (request.input secret) dateNow with
  | .error _ => throw (.unauthorized "invalid webhook signature")
  | .ok () => pure (db.signalProviderResult request.body.orderId { ok := request.body.ok, reason := request.body.reason })

/-- The raw body begins as the text of a JSON object does. -/
def OpensObject (rawBody : String) : Prop := rawBody.toList.head? = some '{'

/-- The hexadecimal digits of a signature header, without their prefix, are the
bytes that the secret makes of this timestamp and this body. -/
def Signs (mac : Mac) (input : WebhookVerificationInput) (signature header : String) : Prop :=
  Hexadecimal.decode (stripPrefix signature).toList = mac input.secret (signedPayload header input.rawBody)

section verification

variable {mac : Mac} {input : WebhookVerificationInput} {dateNow : Double}

theorem WebhookVerificationInput.now_finite (input : WebhookVerificationInput) (dateNow : Double) :
    ∃ now, input.now dateNow = .finite now := by
  unfold now
  split
  · exact ⟨_, rfl⟩
  · have divided := Number.Is.divNat_is (⟨dateNow, rfl, rfl⟩ : (Number.finite dateNow).Is dateNow.value) (by norm_num : 0 < 1000)
    obtain ⟨now, finite, -⟩ := divided.floor_is
    exact ⟨now, finite⟩

theorem safeEqualHex_iff {digest : List UInt8} (nonempty : digest ≠ []) (signature : String) :
    safeEqualHex (hexDigest digest) signature ↔ Hexadecimal.decode signature.toList = digest := by
  rw [safeEqualHex, decide_eq_true_iff, hexDigest, String.toList_ofList, Hexadecimal.decode_encode]
  exact ⟨fun equal => equal.2.symm, fun same => ⟨nonempty, same.symm⟩⟩

theorem Signs.present {signature header : String} (signs : Signs mac input signature header) (nonempty : ∀ text, mac input.secret text ≠ []) :
    signature ≠ "" := by
  rintro rfl
  exact nonempty _ signs.symm

theorem verifyWebhookSignature_ok_iff (nonempty : ∀ text, mac input.secret text ≠ []) {now : Double} (clock : input.now dateNow = .finite now) :
    verifyWebhookSignature mac input dateNow = .ok () ↔
      ∃ signature header, input.signatureHeader = some signature ∧ input.timestampHeader = some header ∧ header ≠ "" ∧
        Signs mac input signature header ∧ Within now (number header) input.tolerance := by
  constructor
  · intro valid
    unfold verifyWebhookSignature at valid
    split at valid
    · cases valid
    · next signature signed =>
      split at valid
      · cases valid
      · next header timestamped =>
        obtain ⟨sent, present⟩ := filled_eq_some timestamped
        split at valid
        · cases valid
        · next finite =>
          split at valid
          · cases valid
          · next fresh =>
            split at valid
            · next equal =>
              have numeric : number header ≠ .nan := by
                intro nan
                rw [nan] at finite
                exact finite rfl
              rw [clock] at fresh
              exact ⟨signature, header, (filled_eq_some signed).1, sent, present, (safeEqualHex_iff (nonempty _) _).mp equal,
                (less_abs_sub_iff numeric).mp (Bool.eq_false_iff.mpr fresh)⟩
            · cases valid
  · rintro ⟨signature, header, sent, timestamped, present, signs, within⟩
    have finite : (number header).isFinite := Number.isFinite_iff.mpr (within.imp fun _ => And.left)
    have numeric : number header ≠ .nan := by
      intro nan
      rw [nan] at finite
      cases finite
    have fresh := (less_abs_sub_iff numeric).mpr within
    have equal := (safeEqualHex_iff (nonempty _) (stripPrefix signature)).mpr signs
    simp only [verifyWebhookSignature, sent, timestamped, filled_of_ne_empty (signs.present nonempty), filled_of_ne_empty present, finite,
      clock, fresh, equal]
    rfl

theorem number_empty : (number "").Is 0 := by exact_mod_cast Number.ofNat_is (n := 0) (by norm_num)

/-- For a clock beyond twice the tolerance only the timestamp that is sent matters. -/
theorem verifyWebhookSignature_exact (nonempty : ∀ text, mac input.secret text ≠ []) {now : Double} (clock : input.now dateNow = .finite now)
    (large : 1 ≤ now.value) (beyond : 2 * input.tolerance.value < now.value) :
    verifyWebhookSignature mac input dateNow = .ok () ↔
      ∃ signature header, input.signatureHeader = some signature ∧ input.timestampHeader = some header ∧
        Signs mac input signature header ∧ ∃ value, (number header).Is value ∧ |now.value - value| ≤ input.tolerance.value := by
  rw [verifyWebhookSignature_ok_iff nonempty clock]
  refine exists_congr fun signature => exists_congr fun header => ?_
  rw [within_iff large beyond]
  refine and_congr_right fun _ => and_congr_right fun _ => ⟨fun accepted => accepted.2, fun accepted => ⟨?_, accepted⟩⟩
  rintro rfl
  obtain ⟨-, value, is, near⟩ := accepted
  have zero : value = 0 := is.unique number_empty
  rw [zero, sub_zero, abs_of_pos (by linarith)] at near
  linarith

theorem number_chars {text : String} (numeric : number text ≠ .nan) : ∀ c ∈ text.toList, Numeral.isNumeralChar c ∨ isWhitespace c := by
  intro c member
  refine (@Delimited.mem_trim_or _ isWhitespace _ c member).imp_left fun trimmed => Numeral.read_chars numeric c ?_
  rwa [trim, String.toList_ofList]

/-- The first brace of a signed text opens its body. -/
theorem signedPayload_toList {header rawBody : String} (object : OpensObject rawBody) :
    (signedPayload header rawBody).toList = (header.toList ++ ['.']) ++ '{' :: rawBody.toList.tail := by
  have opened := List.cons_head?_tail object
  simp [signedPayload, toString, opened]

theorem braceless {header : String} (numeric : number header ≠ .nan) : '{' ∉ header.toList ++ ['.'] := by
  intro member
  rcases List.mem_append.mp member with inHeader | point
  · rcases number_chars numeric _ inHeader with numeral | blank
    · revert numeral
      decide
    · revert blank
      decide
  · revert point
    decide

theorem signedPayload_inj {header header' rawBody rawBody' : String} (numeric : number header ≠ .nan) (numeric' : number header' ≠ .nan)
    (object : OpensObject rawBody) (object' : OpensObject rawBody') (same : signedPayload header rawBody = signedPayload header' rawBody') :
    header = header' ∧ rawBody = rawBody' := by
  have texts := congrArg String.toList same
  rw [signedPayload_toList object, signedPayload_toList object'] at texts
  obtain ⟨headers, rest⟩ := Delimited.append_sep_inj (braceless numeric) (braceless numeric') texts
  refine ⟨String.toList_injective (List.append_cancel_right headers), String.toList_injective ?_⟩
  rw [← List.cons_head?_tail object, ← List.cons_head?_tail object', rest]

theorem numeric_of_within {now tolerance : Double} {ts : Number} (within : Within now ts tolerance) : ts ≠ .nan := by
  rintro rfl
  obtain ⟨_, ⟨_, same, -⟩, -⟩ := within
  cases same

/-- Two webhooks that are accepted with one signature, however it is spelled,
are one message. -/
theorem verifyWebhookSignature_inj {input input' : WebhookVerificationInput} {dateNow dateNow' : Double} {signature signature' : String}
    (injective : Function.Injective (mac input.secret)) (nonempty : ∀ text, mac input.secret text ≠ []) (secrets : input'.secret = input.secret)
    (object : OpensObject input.rawBody) (object' : OpensObject input'.rawBody) (signed : input.signatureHeader = some signature)
    (signed' : input'.signatureHeader = some signature')
    (same : Hexadecimal.decode (stripPrefix signature).toList = Hexadecimal.decode (stripPrefix signature').toList)
    (valid : verifyWebhookSignature mac input dateNow = .ok ()) (valid' : verifyWebhookSignature mac input' dateNow' = .ok ()) :
    input.timestampHeader = input'.timestampHeader ∧ input.rawBody = input'.rawBody := by
  obtain ⟨now, clock⟩ := input.now_finite dateNow
  obtain ⟨now', clock'⟩ := input'.now_finite dateNow'
  obtain ⟨_, header, sent, timestamped, -, signs, within⟩ := (verifyWebhookSignature_ok_iff nonempty clock).mp valid
  obtain ⟨_, header', sent', timestamped', -, signs', within'⟩ :=
    (verifyWebhookSignature_ok_iff (by rwa [secrets]) clock').mp valid'
  rw [signed] at sent
  rw [signed'] at sent'
  cases sent
  cases sent'
  rw [Signs] at signs signs'
  rw [signs, signs', secrets] at same
  obtain ⟨headers, bodies⟩ :=
    signedPayload_inj (numeric_of_within within) (numeric_of_within within') object object' (injective same)
  rw [timestamped, timestamped', headers]
  exact ⟨rfl, bodies⟩

theorem stripPrefix_of_hex {signature : String} {digest : List UInt8} (digits : signature.toList.map Char.toLower = Hexadecimal.encode digest) :
    stripPrefix signature = signature := by
  refine if_neg ?_
  rintro ⟨rest, prefixed⟩
  have initial : 's' ∈ Hexadecimal.encode digest := by
    rw [← digits, ← prefixed]
    exact List.mem_cons_self ..
  have hex := Hexadecimal.value_of_mem_encode initial
  revert hex
  decide

theorem stripPrefix_append (signature : String) : stripPrefix ("sha256=" ++ signature) = signature := by
  have whole : ("sha256=" ++ signature).toList = "sha256=".toList ++ signature.toList := String.toList_append ..
  rw [stripPrefix, whole, if_pos (List.prefix_append ..), List.drop_left' (by decide), String.ofList_toList]

/-- The digits may be of either case and have the prefix or not. -/
theorem decode_spelled {signature : String} {digest : List UInt8} (digits : signature.toList.map Char.toLower = Hexadecimal.encode digest) :
    Hexadecimal.decode (stripPrefix signature).toList = digest ∧
      Hexadecimal.decode (stripPrefix ("sha256=" ++ signature)).toList = digest := by
  rw [stripPrefix_append, stripPrefix_of_hex digits, and_self, ← Hexadecimal.decode_toLower, digits, Hexadecimal.decode_encode]

theorem handleWebhook_ok_iff {secret : String} {request : WebhookRequest} {db db' : Db} :
    handleWebhook mac secret request dateNow db = .ok db' ↔
      verifyWebhookSignature mac (request.input secret) dateNow = .ok () ∧
        db' = db.signalProviderResult request.body.orderId { ok := request.body.ok, reason := request.body.reason } := by
  unfold handleWebhook
  cases verifyWebhookSignature mac (request.input secret) dateNow with
  | error reason => exact ⟨nofun, fun accepted => nomatch accepted.1⟩
  | ok done =>
    constructor
    · intro signalled
      cases signalled
      exact ⟨rfl, rfl⟩
    · rintro ⟨-, rfl⟩
      rfl

/-- A signature that is sent again, whenever, can only repeat its own signal. -/
theorem handleWebhook_again {secret : String} {request request' : WebhookRequest} {dateNow' : Double} {before after before' after' : Db}
    {parse : String → PaymentWebhookDto} (injective : Function.Injective (mac secret)) (nonempty : ∀ text, mac secret text ≠ [])
    (object : OpensObject (request.rawBody.getD "")) (object' : OpensObject (request'.rawBody.getD ""))
    (parsed : request.body = parse (request.rawBody.getD "")) (parsed' : request'.body = parse (request'.rawBody.getD ""))
    (again : request'.headers.first webhookSignatureHeader = request.headers.first webhookSignatureHeader)
    (accepted : handleWebhook mac secret request dateNow before = .ok after)
    (accepted' : handleWebhook mac secret request' dateNow' before' = .ok after') : request'.body = request.body := by
  have valid := (handleWebhook_ok_iff.mp accepted).1
  have valid' := (handleWebhook_ok_iff.mp accepted').1
  obtain ⟨now, clock⟩ := (request.input secret).now_finite dateNow
  obtain ⟨signature, _, signed, -⟩ := (verifyWebhookSignature_ok_iff nonempty clock).mp valid
  have secrets : (request'.input secret).secret = (request.input secret).secret := rfl
  have bodies := (verifyWebhookSignature_inj injective nonempty secrets object object' signed (again.trans signed) rfl valid valid').2
  rw [parsed, parsed']
  exact congrArg parse bodies.symm

/-- A signature is good for one timestamp and one body, as long as it is fresh. -/
theorem webhook_signature_binds {secret : String} (injective : Function.Injective (mac secret)) (nonempty : ∀ text, mac secret text ≠ []) :
    (∀ input dateNow, input.secret = secret → ∃ now, input.now dateNow = .finite now ∧
      (verifyWebhookSignature mac input dateNow = .ok () ↔
        ∃ signature header, input.signatureHeader = some signature ∧ input.timestampHeader = some header ∧ header ≠ "" ∧
          Signs mac input signature header ∧ Within now (number header) input.tolerance) ∧
      (1 ≤ now.value → 2 * input.tolerance.value < now.value → (verifyWebhookSignature mac input dateNow = .ok () ↔
        ∃ signature header, input.signatureHeader = some signature ∧ input.timestampHeader = some header ∧
          Signs mac input signature header ∧ ∃ value, (number header).Is value ∧ |now.value - value| ≤ input.tolerance.value))) ∧
    (∀ signature digest, signature.toList.map Char.toLower = Hexadecimal.encode digest →
      Hexadecimal.decode (stripPrefix signature).toList = digest ∧
        Hexadecimal.decode (stripPrefix ("sha256=" ++ signature)).toList = digest) ∧
    (∀ input input' dateNow dateNow' signature signature', input.secret = secret → input'.secret = secret →
      OpensObject input.rawBody → OpensObject input'.rawBody →
      input.signatureHeader = some signature → input'.signatureHeader = some signature' →
      Hexadecimal.decode (stripPrefix signature).toList = Hexadecimal.decode (stripPrefix signature').toList →
      verifyWebhookSignature mac input dateNow = .ok () → verifyWebhookSignature mac input' dateNow' = .ok () →
        input.timestampHeader = input'.timestampHeader ∧ input.rawBody = input'.rawBody) := by
  refine ⟨?_, fun signature digest digits => decode_spelled digits, ?_⟩
  · rintro input dateNow rfl
    obtain ⟨now, clock⟩ := input.now_finite dateNow
    refine ⟨now, clock, verifyWebhookSignature_ok_iff nonempty clock, ?_⟩
    exact fun large beyond => verifyWebhookSignature_exact nonempty clock large beyond
  · rintro input input' dateNow dateNow' signature signature' rfl secrets object object' signed signed' same valid valid'
    exact verifyWebhookSignature_inj injective nonempty secrets object object' signed signed' same valid valid'

end verification

def sampleSecret : String := "test-secret"

def sampleBody : String := "\x7b\"orderId\":\"o1\",\"ok\":true\x7d"

/-- What the secret makes of the payloads of three headers. -/
def webhookTable : List (String × List UInt8) :=
  [(signedPayload "1700000000" sampleBody,
      [78, 200, 145, 143, 113, 38, 16, 72, 117, 138, 61, 80, 39, 189, 68, 179, 8, 12, 242, 158, 150, 39, 187, 2, 63,
        174, 61, 196, 45, 221, 116, 165]),
   (signedPayload "" sampleBody,
      [196, 61, 129, 23, 81, 19, 209, 63, 2, 108, 213, 191, 60, 25, 216, 178, 240, 26, 137, 14, 238, 132, 23, 168, 237,
        109, 89, 252, 89, 153, 196, 79]),
   (signedPayload "0.9999999999999999" sampleBody,
      [113, 94, 190, 194, 92, 88, 37, 116, 189, 185, 149, 75, 237, 177, 67, 160, 62, 51, 94, 10, 232, 127, 205, 130,
        92, 24, 24, 138, 245, 9, 9, 65])]

theorem webhookTable_lengths : ∀ entry ∈ webhookTable, entry.2.length = 32 := by decide

def webhookMac : Mac := Tenancy.Signatures.tabulated webhookTable

theorem webhookMac_injective : Function.Injective (webhookMac sampleSecret) :=
  Tenancy.Signatures.tabulated_injective webhookTable_lengths (by decide)

theorem webhookMac_ne_nil : ∀ text, webhookMac sampleSecret text ≠ [] := Tenancy.Signatures.tabulated_ne_nil webhookTable_lengths

def sampleWebhook (signature header rawBody : String) (now : Double) : WebhookVerificationInput where
  secret := sampleSecret
  rawBody := rawBody
  signatureHeader := some signature
  timestampHeader := some header
  nowSec := some now
  toleranceSec := none

def sampleWebhookSignature : String := "sha256=4EC8918f71261048758a3d5027bd44b3080cf29e9627bb023fae3dc42ddd74a5"

theorem sampleBody_opens : OpensObject sampleBody := by
  rw [OpensObject]
  decide

theorem tolerance_sample (signature header rawBody : String) (now : Double) :
    (sampleWebhook signature header rawBody now).tolerance.value = 300 := by
  simp [sampleWebhook, WebhookVerificationInput.tolerance, defaultWebhookToleranceSec, Double.ofNat]

theorem number_sample : (number "1700000000").Is (1700000000 : ℕ) := by
  rw [Tenancy.Signatures.number_of_isDigits (by decide)]
  exact Number.ofNat_is (by decide)

/-- A signature with its prefix and in mixed case is accepted, and it is for no
other message. -/
theorem webhook_signature_binds_sample :
    (∀ dateNow, verifyWebhookSignature webhookMac
      (sampleWebhook sampleWebhookSignature "1700000000" sampleBody (.ofNat 1700000100 (by decide))) dateNow = .ok ()) ∧
    ∀ header rawBody now dateNow, OpensObject rawBody →
      verifyWebhookSignature webhookMac (sampleWebhook sampleWebhookSignature header rawBody now) dateNow = .ok () →
        header = "1700000000" ∧ rawBody = sampleBody := by
  obtain ⟨valid, -, binds⟩ := webhook_signature_binds webhookMac_injective webhookMac_ne_nil
  have accepted (dateNow : Double) : verifyWebhookSignature webhookMac
      (sampleWebhook sampleWebhookSignature "1700000000" sampleBody (.ofNat 1700000100 (by decide))) dateNow = .ok () := by
    obtain ⟨now, clock, -, exact⟩ := valid (sampleWebhook sampleWebhookSignature "1700000000" sampleBody (.ofNat 1700000100 (by decide)))
      dateNow rfl
    cases clock
    refine (exact ?_ ?_).mpr ⟨_, _, rfl, rfl, ?_, 1700000000, by exact_mod_cast number_sample, ?_⟩
    · norm_num [Double.ofNat]
    · norm_num [tolerance_sample, Double.ofNat]
    · rw [Signs]
      decide
    · norm_num [tolerance_sample, Double.ofNat]
  refine ⟨accepted, ?_⟩
  intro header rawBody now dateNow object valid'
  obtain ⟨headers, bodies⟩ := binds _ _ dateNow dateNow _ _ rfl rfl object sampleBody_opens rfl rfl rfl valid' (accepted dateNow)
  exact ⟨Option.some.inj headers, bodies⟩

theorem number_almost_one : (number "0.9999999999999999").Is (1 - 1 / 2 ^ 53) := by
  have trimmed : (trim "0.9999999999999999").toList = "0.9999999999999999".toList := by decide
  have chars : ∀ c ∈ "0.9999999999999999".toList, Numeral.isWrittenChar c := List.all_iff_forall_prop.mp (by decide)
  have decimal : Numeral.readDecimal "0.9999999999999999".toList = some (1 - 1 / 10 ^ 16) := by decide +kernel
  have mem : (1 - 1 / 2 ^ 53 : ℚ) ∈ grid := ⟨2 ^ 53 - 1, -53, by norm_num, by norm_num, by norm_num⟩
  have rounded : Binary64.round (1 - 1 / 10 ^ 16) = 1 - 1 / 2 ^ 53 := by
    refine round_eq_of_near mem (by norm_num) ?_
    norm_num [abs_of_nonpos]
  rw [number, trimmed, Numeral.read_written chars ⟨'0', _, rfl, rfl⟩, Numeral.readSigned_written chars decimal]
  have bounded : |(1 - 1 / 2 ^ 53 : ℚ)| < 2 ^ 1024 := by
    have below : (1 - 1 / 2 ^ 53 : ℚ) < 2 ^ 1 := by norm_num
    rw [abs_of_pos (by norm_num)]
    exact below.trans (pow_lt_pow_right₀ (by norm_num) (by norm_num))
  exact ⟨⟨_, mem, bounded⟩, Number.ofRat_eq rounded, rfl⟩

/-- An empty timestamp is refused although it reads as zero, and one that is
300 seconds and a little away is accepted. -/
theorem empty_timestamp_refused :
    (∀ dateNow, verifyWebhookSignature webhookMac
        (sampleWebhook "c43d81175113d13f026cd5bf3c19d8b2f01a890eee8417a8ed6d59fc5999c44f" "" sampleBody (.ofNat 0 (by decide))) dateNow =
      .error "missing timestamp header") ∧
    (Signs webhookMac (sampleWebhook "c43d81175113d13f026cd5bf3c19d8b2f01a890eee8417a8ed6d59fc5999c44f" "" sampleBody (.ofNat 0 (by decide)))
        "c43d81175113d13f026cd5bf3c19d8b2f01a890eee8417a8ed6d59fc5999c44f" "" ∧
      ∃ value, (number "").Is value ∧ |0 - value| ≤ 300) ∧
    (∀ dateNow, verifyWebhookSignature webhookMac
        (sampleWebhook "715ebec25c582574bdb9954bedb143a03e335e0ae87fcd825c18188af5090941" "0.9999999999999999" sampleBody
          (.ofNat 301 (by decide))) dateNow = .ok ()) ∧
    ¬ ∃ value, (number "0.9999999999999999").Is value ∧ |301 - value| ≤ 300 := by
  refine ⟨fun dateNow => rfl, ⟨?_, 0, number_empty, by norm_num⟩, ?_, ?_⟩
  · rw [Signs]
    decide
  · intro dateNow
    refine (verifyWebhookSignature_ok_iff webhookMac_ne_nil rfl).mpr ⟨_, _, rfl, rfl, by decide, ?_, ?_⟩
    · rw [Signs]
      decide
    · refine ⟨_, number_almost_one, ?_⟩
      have rounded : Binary64.round (301 - (1 - 1 / 2 ^ 53)) = 300 := by
        refine round_eq_of_near (natCast_mem_grid (n := 300) (by norm_num)) (by norm_num) ?_
        norm_num [abs_of_nonpos]
      have clock : (Double.ofNat 301 (by decide)).value = 301 := Nat.cast_ofNat
      rw [tolerance_sample, clock, rounded]
      norm_num
  · rintro ⟨value, is, near⟩
    rw [is.unique number_almost_one] at near
    norm_num [abs_of_pos] at near

end FoodDelivery.PaymentService
