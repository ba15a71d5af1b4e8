import FoodDelivery.Lib.Numeral
import FoodDelivery.Tenancy.Identity

namespace FoodDelivery.Tenancy.Signatures

open Binary64

/-- `Number(text)`. -/
def number (text : String) : Number := Numeral.read (trim text).toList

/-- `String(ts)`. -/
def timestamp (ts : Number) : String := .ofList (Numeral.write ts)

/-- `/^\d+$/`. -/
def isDigits (text : String) : Bool := text ≠ "" ∧ text.toList.all Char.isDigit

def canonicalString (tenantId sub rolesJoined : String) (ts : Number) : String :=
  s!"{tenantId}\n{sub}\n{rolesJoined}\n{timestamp ts}"

def canonicalGrpcString (tenantId : String) (ts : Number) : String := s!"grpc\n{tenantId}\n{timestamp ts}"

/-- `createHmac('sha256', key).update(text).digest()`. -/
abbrev Mac := (key text : String) → List UInt8

def hexDigest (digest : List UInt8) : String := .ofList (Hexadecimal.encode digest)

def signIdentity (mac : Mac) (key : String) (identity : VerifiedIdentity) (ts : Number) : String :=
  hexDigest (mac key (canonicalString identity.tenantId identity.sub (joinRoles identity.roles) ts))

def signGrpcTenant (mac : Mac) (key tenantId : String) (ts : Number) : String :=
  hexDigest (mac key (canonicalGrpcString tenantId ts))

/-- The options of both verifiers. -/
structure VerifierOptions where
  key : Option String
  enforced : Bool
  maxSkewMs : Double

/-- What both verifiers do with a timestamp and a signature. -/
def verifySignature (mac : Mac) (key : String) (maxSkewMs : Double) (canonical : Number → String)
    (tsValue sigValue : Option String) (now : Number) : Except String Unit :=
  match tsValue.filter isDigits with
  | none => throw "missing or non-numeric timestamp"
  | some tsValue =>
    match filled sigValue with
    | none => throw "missing signature"
    | some signature =>
      if (Number.finite maxSkewMs).less (now - number tsValue).abs then throw "timestamp outside allowed skew"
      else if Hexadecimal.decode (hexDigest (mac key (canonical (number tsValue)))).toList = Hexadecimal.decode signature.toList then
        pure ()
      else throw "signature mismatch"

/-- `IdentitySignatureVerifier.verify`. -/
def verifyIdentity (options : VerifierOptions) (mac : Mac) (headers : Headers) (now : Number) : Except String Unit :=
  if options.enforced = false then pure ()
  else
    match filled options.key with
    | none => throw "signing key not configured"
    | some key =>
      match filled (headers.first tenantIdHeader), filled (headers.first userIdHeader) with
      | some tenantId, some sub =>
        verifySignature mac key options.maxSkewMs (canonicalString tenantId sub ((headers.first rolesHeader).getD ""))
          (headers.first identityTsHeader) (headers.first identitySigHeader) now
      | _, _ => throw "missing identity headers"

/-- `GrpcTenantVerifier.verify`. -/
def verifyGrpcTenant (options : VerifierOptions) (mac : Mac) (tenantId tsValue sigValue : Option String) (now : Number) :
    Except String Unit :=
  if options.enforced = false then pure ()
  else
    match filled options.key with
    | none => throw "signing key not configured"
    | some key =>
      match filled tenantId with
      | none => throw "missing tenant id"
      | some tenantId => verifySignature mac key options.maxSkewMs (canonicalGrpcString tenantId) tsValue sigValue now

/-- A signature that is received stands for one that was made: its hexadecimal
digits, of either case and up to what is none, are the same bytes. -/
def Stands (received made : String) : Prop := Hexadecimal.decode received.toList = Hexadecimal.decode made.toList

def Lineless (text : String) : Prop := '\n' ∉ text.toList

section texts

variable {x y ts ts' : Number} {tenantId tenantId' sub sub' roles roles' : String}

theorem timestamp_lineless (ts : Number) : Lineless (timestamp ts) := by
  rw [Lineless, timestamp, String.toList_ofList]
  intro member
  by_cases nan : ts = .nan
  · rw [nan] at member
    revert member
    decide
  · rw [← Numeral.read_write ts] at nan
    cases Numeral.read_chars nan '\n' member

theorem timestamp_injective (same : timestamp x = timestamp y) : x = y :=
  Numeral.write_injective (String.ofList_injective same)

/-- The lines of a canonical text. -/
def lines (texts : List String) : List (List Char) := texts.map String.toList

theorem canonicalString_toList (tenantId sub roles : String) (ts : Number) :
    (canonicalString tenantId sub roles ts).toList = ['\n'].intercalate (lines [tenantId, sub, roles, timestamp ts]) := by
  simp [canonicalString, lines, List.intercalate, toString]

theorem canonicalGrpcString_toList (tenantId : String) (ts : Number) :
    (canonicalGrpcString tenantId ts).toList = ['\n'].intercalate (lines ["grpc", tenantId, timestamp ts]) := by
  simp [canonicalGrpcString, lines, List.intercalate, toString]

theorem lines_free {texts : List String} (lineless : ∀ text ∈ texts, Lineless text) : ∀ line ∈ lines texts, '\n' ∉ line := by
  intro line member
  obtain ⟨text, inTexts, rfl⟩ := List.mem_map.mp member
  exact lineless text inTexts

theorem lines_injective : Function.Injective lines := List.map_injective_iff.mpr fun _ _ => String.toList_injective

/-- A canonical text of values without line breaks tells them all. -/
theorem canonicalString_inj (tenant : Lineless tenantId) (subject : Lineless sub) (joined : Lineless roles)
    (same : canonicalString tenantId' sub' roles' ts' = canonicalString tenantId sub roles ts) :
    tenantId' = tenantId ∧ sub' = sub ∧ roles' = roles ∧ ts' = ts := by
  have free : ∀ line ∈ lines [tenantId, sub, roles, timestamp ts], '\n' ∉ line := by
    refine lines_free ?_
    simp only [List.forall_mem_cons, List.not_mem_nil, false_implies, implies_true, and_true]
    exact ⟨tenant, subject, joined, timestamp_lineless ts⟩
  have texts := congrArg String.toList same
  rw [canonicalString_toList, canonicalString_toList] at texts
  have equal : lines [tenantId', sub', roles', timestamp ts'] = lines [tenantId, sub, roles, timestamp ts] :=
    Delimited.intercalate_inj free (List.cons_ne_nil _ _) rfl texts
  injection lines_injective equal with first rest
  injection rest with second rest
  injection rest with third rest
  injection rest with fourth
  exact ⟨first, second, third, timestamp_injective fourth⟩

theorem canonicalGrpcString_free (tenant : Lineless tenantId) (ts : Number) :
    ∀ line ∈ lines ["grpc", tenantId, timestamp ts], '\n' ∉ line := by
  refine lines_free ?_
  simp only [List.forall_mem_cons, List.not_mem_nil, false_implies, implies_true, and_true]
  exact ⟨by rw [Lineless]; decide, tenant, timestamp_lineless ts⟩

theorem canonicalGrpcString_inj (tenant : Lineless tenantId)
    (same : canonicalGrpcString tenantId' ts' = canonicalGrpcString tenantId ts) : tenantId' = tenantId ∧ ts' = ts := by
  have texts := congrArg String.toList same
  rw [canonicalGrpcString_toList, canonicalGrpcString_toList] at texts
  have equal : lines ["grpc", tenantId', timestamp ts'] = lines ["grpc", tenantId, timestamp ts] :=
    Delimited.intercalate_inj (canonicalGrpcString_free tenant ts) (List.cons_ne_nil _ _) rfl texts
  injection lines_injective equal with _ rest
  injection rest with first rest
  injection rest with second
  exact ⟨first, timestamp_injective second⟩

/-- The texts of the two protocols differ in their number of lines. -/
theorem canonical_ne (tenant : Lineless tenantId) : canonicalString tenantId' sub' roles' ts' ≠ canonicalGrpcString tenantId ts := by
  intro same
  have texts := congrArg String.toList same
  rw [canonicalString_toList, canonicalGrpcString_toList] at texts
  have counted := Delimited.count_flatten_of_intercalate (canonicalGrpcString_free tenant ts) (List.cons_ne_nil _ _)
    (List.cons_ne_nil _ _) texts
  simp only [lines, List.length_map, List.length_cons, List.length_nil] at counted
  omega

end texts

section timestamps

variable {text : String} {now maxSkewMs : Double}

theorem isDigits_iff : isDigits text ↔ text.toList ≠ [] ∧ ∀ c ∈ text.toList, c.isDigit := by
  rw [isDigits, decide_eq_true_iff, List.all_eq_true, Ne, Ne, String.toList_eq_nil_iff]

theorem not_isWhitespace_of_isDigit {c : Char} (digit : c.isDigit) : ¬ isWhitespace c := by
  have low : 48 ≤ c.toNat := by
    simp only [Char.isDigit, Bool.and_eq_true, decide_eq_true_eq] at digit
    exact digit.1
  have high : c.toNat ≤ 57 := by
    simp only [Char.isDigit, Bool.and_eq_true, decide_eq_true_eq] at digit
    exact digit.2
  intro blank
  rcases of_decide_eq_true blank with listed | range
  · simp only [List.mem_cons, List.not_mem_nil, or_false] at listed
    omega
  · omega

theorem trim_unblank (unblank : ∀ c ∈ text.toList, ¬ isWhitespace c) : (trim text).toList = text.toList := by
  rw [trim, String.toList_ofList, Delimited.trim, List.dropWhile_eq_self_iff.mpr, List.rdropWhile_eq_self_iff.mpr]
  · exact fun _ => unblank _ (List.getLast_mem _)
  · exact fun inside => unblank _ (List.getElem_mem inside)

/-- Digits read as the integer they denote, rounded. -/
theorem number_of_isDigits (digits : isDigits text) : number text = .ofRat (Nat.ofDigitChars 10 text.toList 0 : ℕ) := by
  obtain ⟨nonempty, all⟩ := isDigits_iff.mp digits
  rw [number, trim_unblank fun c member => not_isWhitespace_of_isDigit (all c member), Numeral.read_digits all nonempty]

/-- So do integers with their sign. -/
theorem number_toString (n : ℤ) : number (toString n) = .ofRat n := by
  have unblank : ∀ c ∈ (toString n).toList, ¬ isWhitespace c := by
    intro c member
    rcases Numeral.toString_chars n c member with digit | rfl
    · exact not_isWhitespace_of_isDigit digit
    · decide
  rw [number, trim_unblank unblank, Numeral.read_intCast]

theorem isDigits_clock {n : ℕ} (small : n < 2 ^ 53) : isDigits (timestamp (.ofRat n)) := by
  rw [isDigits_iff, timestamp, String.toList_ofList, Numeral.write_natCast small]
  exact ⟨Nat.toDigits_ne_nil, Numeral.isDigit_toDigits n⟩

theorem number_timestamp {ts : Number} (digits : isDigits (timestamp ts)) : number (timestamp ts) = ts := by
  rw [number_of_isDigits digits]
  obtain ⟨nonempty, all⟩ := isDigits_iff.mp digits
  rw [← Numeral.read_digits all nonempty, timestamp, String.toList_ofList, Numeral.read_write]

/-- A timestamp of digits is compared with the clock as it should be. -/
theorem less_iff_within (digits : isDigits text) :
    (Number.finite maxSkewMs).less (.finite now - number text).abs = false ↔ Within now (number text) maxSkewMs := by
  rw [number_of_isDigits digits]
  exact less_abs_sub_iff (Number.ofRat_ne_nan _)

/-- With a clock in whole milliseconds the distance is exact for every skew below `2 ^ 53`. -/
theorem exact_of_within {n : ℤ} (within : Within now (number text) maxSkewMs) (digits : isDigits text) (clock : now.value = n)
    (small : maxSkewMs.value < 2 ^ 53) : ∃ t : ℤ, (number text).Is t ∧ |(n : ℚ) - t| ≤ maxSkewMs.value := by
  obtain ⟨_, ⟨ts, finite, rfl⟩, near⟩ := within
  obtain ⟨t, whole⟩ : ∃ t : ℤ, ts.value = t := by
    rw [number_of_isDigits digits] at finite
    rcases Number.ofRat_cases (Nat.ofDigitChars 10 text.toList 0 : ℕ) with ⟨rounded, same, value⟩ | ⟨⟨negative, same⟩, -⟩
    · rw [same] at finite
      cases finite
      rw [value]
      exact exists_int_round _
    · rw [same] at finite
      cases finite
  have is : (number text).Is t := ⟨ts, finite, whole⟩
  exact ⟨t, is, Within.int ⟨ts.value, ⟨ts, finite, rfl⟩, near⟩ clock is small⟩

end timestamps

/-- The headers of a request that carry an identity and its signature. -/
structure Presents (headers : Headers) (tenantId sub rolesJoined tsValue signature : String) : Prop where
  tenantId : headers.first tenantIdHeader = some tenantId
  sub : headers.first userIdHeader = some sub
  roles : (headers.first rolesHeader).getD "" = rolesJoined
  timestamp : headers.first identityTsHeader = some tsValue
  signature : headers.first identitySigHeader = some signature

def LinelessHeaders (headers : Headers) : Prop := ∀ name value, headers.first name = some value → Lineless value

theorem LinelessHeaders.set {headers : Headers} {name value : String} (lineless : LinelessHeaders headers) (text : Lineless value) :
    LinelessHeaders (headers.set name value) := by
  intro other sent present
  by_cases same : other = name
  · rw [same, Headers.first_set_same] at present
    cases present
    exact text
  · rw [Headers.first_set_other _ _ same] at present
    exact lineless other sent present

section verification

variable {mac : Mac} {key : String} {maxSkewMs now : Double} {headers : Headers} {canonical : Number → String}
  {tsValue sigValue tenantId : Option String}

theorem stands_hexDigest {received : String} {digest : List UInt8} :
    Stands received (hexDigest digest) ↔ Hexadecimal.decode received.toList = digest := by
  rw [Stands, hexDigest, String.toList_ofList, Hexadecimal.decode_encode]

theorem verifySignature_ok_iff :
    verifySignature mac key maxSkewMs canonical tsValue sigValue (.finite now) = .ok () ↔
      ∃ text signature, tsValue = some text ∧ isDigits text ∧ filled sigValue = some signature ∧
        Within now (number text) maxSkewMs ∧ Stands signature (hexDigest (mac key (canonical (number text)))) := by
  constructor
  · intro accepted
    unfold verifySignature at accepted
    split at accepted
    · cases accepted
    · next text timestamped =>
      obtain ⟨present, digits⟩ := Option.filter_eq_some_iff.mp timestamped
      split at accepted
      · cases accepted
      · next signature signed =>
        split at accepted
        · cases accepted
        · next skew =>
          split at accepted
          · next same => exact ⟨text, signature, present, digits, signed, (less_iff_within digits).mp (Bool.eq_false_iff.mpr skew), same.symm⟩
          · cases accepted
  · rintro ⟨text, signature, rfl, digits, signed, within, stands⟩
    have timestamped : (some text).filter isDigits = some text := Option.filter_eq_some_iff.mpr ⟨rfl, digits⟩
    simp only [verifySignature, timestamped, signed, (less_iff_within digits).mpr within]
    rw [if_neg Bool.false_ne_true, if_pos stands.symm]
    rfl

theorem verifyIdentity_ok_iff (configured : key ≠ "") :
    verifyIdentity { key := some key, enforced := true, maxSkewMs } mac headers (.finite now) = .ok () ↔
      ∃ tenantId sub, filled (headers.first tenantIdHeader) = some tenantId ∧ filled (headers.first userIdHeader) = some sub ∧
        verifySignature mac key maxSkewMs (canonicalString tenantId sub ((headers.first rolesHeader).getD ""))
          (headers.first identityTsHeader) (headers.first identitySigHeader) (.finite now) = .ok () := by
  simp only [verifyIdentity, filled_of_ne_empty configured]
  rw [if_neg (by decide)]
  constructor
  · intro accepted
    split at accepted
    · next tenantId sub tenant subject => exact ⟨tenantId, sub, tenant, subject, accepted⟩
    · cases accepted
  · rintro ⟨tenantId, sub, tenant, subject, accepted⟩
    simp only [tenant, subject, accepted]

theorem verifyGrpcTenant_ok_iff (configured : key ≠ "") :
    verifyGrpcTenant { key := some key, enforced := true, maxSkewMs } mac tenantId tsValue sigValue (.finite now) = .ok () ↔
      ∃ tenant, filled tenantId = some tenant ∧
        verifySignature mac key maxSkewMs (canonicalGrpcString tenant) tsValue sigValue (.finite now) = .ok () := by
  simp only [verifyGrpcTenant, filled_of_ne_empty configured]
  rw [if_neg (by decide)]
  constructor
  · intro accepted
    split at accepted
    · cases accepted
    · next tenant present => exact ⟨tenant, present, accepted⟩
  · rintro ⟨tenant, present, accepted⟩
    simp only [present, accepted]

/-- A signature of an HTTP request stands for exactly what was signed. -/
theorem identity_signature_iff (injective : Function.Injective (mac key)) {tenantId sub roles signature : String} {ts : Number}
    (tenant : Lineless tenantId) (subject : Lineless sub) (joined : Lineless roles)
    (stands : Stands signature (hexDigest (mac key (canonicalString tenantId sub roles ts)))) (identity : VerifiedIdentity)
    (ts' : Number) :
    Stands signature (signIdentity mac key identity ts') ↔
      identity.tenantId = tenantId ∧ identity.sub = sub ∧ joinRoles identity.roles = roles ∧ ts' = ts := by
  rw [stands_hexDigest] at stands
  rw [signIdentity, stands_hexDigest, stands]
  constructor
  · exact fun same => canonicalString_inj tenant subject joined (injective same).symm
  · rintro ⟨rfl, rfl, rfl, rfl⟩
    rfl

/-- So does one of a gRPC call. -/
theorem grpc_signature_iff (injective : Function.Injective (mac key)) {tenantId signature : String} {ts : Number}
    (tenant : Lineless tenantId) (stands : Stands signature (hexDigest (mac key (canonicalGrpcString tenantId ts))))
    (tenantId' : String) (ts' : Number) :
    Stands signature (signGrpcTenant mac key tenantId' ts') ↔ tenantId' = tenantId ∧ ts' = ts := by
  rw [stands_hexDigest] at stands
  rw [signGrpcTenant, stands_hexDigest, stands]
  constructor
  · exact fun same => canonicalGrpcString_inj tenant (injective same).symm
  · rintro ⟨rfl, rfl⟩
    rfl

/-- None stands for one of each. -/
theorem not_both (injective : Function.Injective (mac key)) {signature tenantId tenantId' sub roles : String} {ts ts' : Number}
    (tenant : Lineless tenantId) (stands : Stands signature (hexDigest (mac key (canonicalString tenantId' sub roles ts')))) :
    ¬ Stands signature (signGrpcTenant mac key tenantId ts) := by
  intro other
  rw [stands_hexDigest] at stands
  rw [signGrpcTenant, stands_hexDigest, stands] at other
  exact canonical_ne tenant (injective other)

/-- What an accepted request of an identity says about its signature. -/
structure Authentic (mac : Mac) (key : String) (maxSkewMs now : Double) (tenantId sub rolesJoined tsValue signature : String) : Prop where
  signed : ∀ identity ts, Stands signature (signIdentity mac key identity ts) ↔
    identity.tenantId = tenantId ∧ identity.sub = sub ∧ joinRoles identity.roles = rolesJoined ∧ ts = number tsValue
  within : Within now (number tsValue) maxSkewMs
  exact : ∀ n : ℤ, now.value = n → maxSkewMs.value < 2 ^ 53 → ∃ t : ℤ, (number tsValue).Is t ∧ |(n : ℚ) - t| ≤ maxSkewMs.value
  own : ∀ tenantId' ts, Lineless tenantId' → ¬ Stands signature (signGrpcTenant mac key tenantId' ts)

/-- What an accepted gRPC call does. -/
structure AuthenticGrpc (mac : Mac) (key : String) (maxSkewMs now : Double) (tenantId tsValue signature : String) : Prop where
  signed : ∀ tenantId' ts, Stands signature (signGrpcTenant mac key tenantId' ts) ↔ tenantId' = tenantId ∧ ts = number tsValue
  within : Within now (number tsValue) maxSkewMs
  exact : ∀ n : ℤ, now.value = n → maxSkewMs.value < 2 ^ 53 → ∃ t : ℤ, (number tsValue).Is t ∧ |(n : ℚ) - t| ≤ maxSkewMs.value
  own : ∀ identity ts, ¬ Stands signature (signIdentity mac key identity ts)

theorem identity_authentic (injective : Function.Injective (mac key)) (configured : key ≠ "") (lineless : LinelessHeaders headers)
    (accepted : verifyIdentity { key := some key, enforced := true, maxSkewMs } mac headers (.finite now) = .ok ()) :
    ∃ tenantId sub rolesJoined tsValue signature, Presents headers tenantId sub rolesJoined tsValue signature ∧
      Authentic mac key maxSkewMs now tenantId sub rolesJoined tsValue signature := by
  obtain ⟨tenantId, sub, tenant, subject, verified⟩ := (verifyIdentity_ok_iff configured).mp accepted
  obtain ⟨tsValue, signature, timestamped, digits, signed, within, stands⟩ := verifySignature_ok_iff.mp verified
  have tenantSent := (filled_eq_some tenant).1
  have subjectSent := (filled_eq_some subject).1
  have joined : Lineless ((headers.first rolesHeader).getD "") := by
    cases sent : headers.first rolesHeader with
    | none => simp [Lineless]
    | some roles => exact lineless _ roles sent
  have signedAs := identity_signature_iff injective (lineless _ _ tenantSent) (lineless _ _ subjectSent) joined stands
  refine ⟨tenantId, sub, _, tsValue, signature, ⟨tenantSent, subjectSent, rfl, timestamped, (filled_eq_some signed).1⟩, ?_⟩
  refine ⟨signedAs, within, fun n clock small => exact_of_within within digits clock small, ?_⟩
  exact fun tenantId' ts tenantLineless => not_both injective tenantLineless stands

theorem grpc_authentic (injective : Function.Injective (mac key)) (configured : key ≠ "")
    (lineless : ∀ text, tenantId = some text → Lineless text)
    (accepted : verifyGrpcTenant { key := some key, enforced := true, maxSkewMs } mac tenantId tsValue sigValue (.finite now) = .ok ()) :
    ∃ tenant text signature, tenantId = some tenant ∧ tsValue = some text ∧ sigValue = some signature ∧
      AuthenticGrpc mac key maxSkewMs now tenant text signature := by
  obtain ⟨tenant, present, verified⟩ := (verifyGrpcTenant_ok_iff configured).mp accepted
  obtain ⟨text, signature, timestamped, digits, signed, within, stands⟩ := verifySignature_ok_iff.mp verified
  have sent := (filled_eq_some present).1
  have tenantLineless := lineless tenant sent
  refine ⟨tenant, text, signature, sent, timestamped, (filled_eq_some signed).1, ?_⟩
  refine ⟨grpc_signature_iff injective tenantLineless stands, within, fun n clock small => exact_of_within within digits clock small, ?_⟩
  exact fun identity ts signedIdentity => not_both injective tenantLineless signedIdentity stands

theorem verifySignature_stands {ts : Number} {signature : String} (present : signature ≠ "") (digits : isDigits (timestamp ts))
    (within : Within now ts maxSkewMs) (stands : Stands signature (hexDigest (mac key (canonical ts)))) :
    verifySignature mac key maxSkewMs canonical (some (timestamp ts)) (some signature) (.finite now) = .ok () := by
  refine verifySignature_ok_iff.mpr ⟨timestamp ts, signature, rfl, digits, filled_of_ne_empty present, ?_⟩
  rw [number_timestamp digits]
  exact ⟨within, stands⟩

theorem hexDigest_ne_empty {digest : List UInt8} (nonempty : digest ≠ []) : hexDigest digest ≠ "" := by
  intro empty
  have decoded := congrArg (fun text : String => Hexadecimal.decode text.toList) empty
  simp only [hexDigest, String.toList_ofList, Hexadecimal.decode_encode] at decoded
  exact nonempty decoded

theorem verifyIdentity_stands (configured : key ≠ "") {identity : VerifiedIdentity} {ts : Number} {signature : String}
    (presents : Presents headers identity.tenantId identity.sub (joinRoles identity.roles) (timestamp ts) signature)
    (tenant : identity.tenantId ≠ "") (subject : identity.sub ≠ "") (present : signature ≠ "") (digits : isDigits (timestamp ts))
    (within : Within now ts maxSkewMs) (stands : Stands signature (signIdentity mac key identity ts)) :
    verifyIdentity { key := some key, enforced := true, maxSkewMs } mac headers (.finite now) = .ok () := by
  refine (verifyIdentity_ok_iff configured).mpr ⟨identity.tenantId, identity.sub, ?_, ?_, ?_⟩
  · rw [presents.tenantId, filled_of_ne_empty tenant]
  · rw [presents.sub, filled_of_ne_empty subject]
  · rw [presents.roles, presents.timestamp, presents.signature]
    exact verifySignature_stands present digits within stands

theorem signGrpcTenant_accepted (configured : key ≠ "") (nonempty : ∀ text, mac key text ≠ []) {tenant : String} {ts : Number}
    (present : tenant ≠ "") (digits : isDigits (timestamp ts)) (within : Within now ts maxSkewMs) :
    verifyGrpcTenant { key := some key, enforced := true, maxSkewMs } mac (some tenant) (some (timestamp ts))
      (some (signGrpcTenant mac key tenant ts)) (.finite now) = .ok () :=
  (verifyGrpcTenant_ok_iff configured).mpr
    ⟨tenant, filled_of_ne_empty present, verifySignature_stands (hexDigest_ne_empty (nonempty _)) digits within rfl⟩

/-- No signature is accepted for anything but what it was made for, none of one
protocol by the other, and each is accepted for what it was made for. -/
theorem signatures_bound (injective : Function.Injective (mac key)) (nonempty : ∀ text, mac key text ≠ []) (configured : key ≠ "") :
    (∀ headers now maxSkewMs, LinelessHeaders headers →
      verifyIdentity { key := some key, enforced := true, maxSkewMs } mac headers (.finite now) = .ok () →
        ∃ tenantId sub rolesJoined tsValue signature, Presents headers tenantId sub rolesJoined tsValue signature ∧
          Authentic mac key maxSkewMs now tenantId sub rolesJoined tsValue signature) ∧
    (∀ tenantId tsValue sigValue now maxSkewMs, (∀ text, tenantId = some text → Lineless text) →
      verifyGrpcTenant { key := some key, enforced := true, maxSkewMs } mac tenantId tsValue sigValue (.finite now) = .ok () →
        ∃ tenant text signature, tenantId = some tenant ∧ tsValue = some text ∧ sigValue = some signature ∧
          AuthenticGrpc mac key maxSkewMs now tenant text signature) ∧
    (∀ identity ts headers now maxSkewMs,
      Presents headers identity.tenantId identity.sub (joinRoles identity.roles) (timestamp ts) (signIdentity mac key identity ts) →
      identity.tenantId ≠ "" → identity.sub ≠ "" → isDigits (timestamp ts) → Within now ts maxSkewMs →
        verifyIdentity { key := some key, enforced := true, maxSkewMs } mac headers (.finite now) = .ok ()) ∧
    (∀ tenant ts now maxSkewMs, tenant ≠ "" → isDigits (timestamp ts) → Within now ts maxSkewMs →
      verifyGrpcTenant { key := some key, enforced := true, maxSkewMs } mac (some tenant) (some (timestamp ts))
        (some (signGrpcTenant mac key tenant ts)) (.finite now) = .ok ()) := by
  refine ⟨?_, ?_, ?_, ?_⟩
  · intro headers now maxSkewMs lineless accepted
    exact identity_authentic injective configured lineless accepted
  · intro tenantId tsValue sigValue now maxSkewMs lineless accepted
    exact grpc_authentic injective configured lineless accepted
  · intro identity ts headers now maxSkewMs presents tenant subject digits within
    exact verifyIdentity_stands configured presents tenant subject (hexDigest_ne_empty (nonempty _)) digits within rfl
  · intro tenant ts now maxSkewMs present digits within
    exact signGrpcTenant_accepted configured nonempty present digits within

end verification

section naturals

variable {ts n : ℕ} {text : String}

theorem decimal_eq_some (number' : decimal text = some ts) : isDigits text ∧ number text = .ofRat ts := by
  unfold decimal at number'
  split at number'
  · next digits =>
    cases number'
    have digits := decide_eq_true digits
    exact ⟨digits, number_of_isDigits digits⟩
  · cases number'

theorem decimal_eq_none (absent : decimal text = none) : isDigits text = false := by
  unfold decimal at absent
  split at absent
  · cases absent
  · next other => exact decide_eq_false other

theorem timestamp_natCast (small : ts < 2 ^ 53) : timestamp (.ofRat ts) = toString ts := by
  rw [timestamp, Numeral.write_natCast small, Nat.toString_eq_ofList_toDigits]

theorem canonicalString_natCast {tenantId sub roles : String} (small : ts < 2 ^ 53) :
    canonicalString tenantId sub roles (.ofRat ts) = Tenancy.canonicalString tenantId sub roles ts := by
  rw [canonicalString, timestamp_natCast small]
  rfl

theorem less_natCast (small : ts < 2 ^ 53) (clock : n ≤ 2 ^ 53) (maxSkewMs : Double) :
    (Number.finite maxSkewMs).less (Number.finite (.ofNat n clock) - Number.ofRat ts).abs =
      decide (maxSkewMs.value < (((n : ℤ) - ts).natAbs : ℚ)) := by
  obtain ⟨double, finite, value⟩ := Number.ofNat_is small.le
  have distance : |(n : ℤ) - ts| ≤ 2 ^ 53 := by
    rw [abs_le]
    omega
  have exact : Binary64.round ((Double.ofNat n clock).value - double.value) = ((n : ℤ) - ts : ℤ) := by
    have whole : (Double.ofNat n clock).value - double.value = ((n : ℤ) - ts : ℤ) := by
      rw [value, Double.ofNat]
      push_cast
      rfl
    rw [whole, round_eq (grid_int distance)]
  rw [finite, Bool.eq_iff_iff, decide_eq_true_iff, ← not_iff_not, Bool.not_eq_true, Number.less_abs_sub, exact, not_lt, Nat.cast_natAbs,
    Int.cast_abs]

theorem verifySignature_natCast {mac : Mac} {key : String} {maxSkewMs : Double} {canonical : Number → String} {sigValue : Option String}
    (number' : decimal text = some ts) (small : ts < 2 ^ 53) (clock : n ≤ 2 ^ 53) :
    verifySignature mac key maxSkewMs canonical (some text) sigValue (.finite (.ofNat n clock)) =
      match filled sigValue with
      | none => throw "missing signature"
      | some signature =>
        if maxSkewMs.value < ((n : ℤ) - ts).natAbs then throw "timestamp outside allowed skew"
        else if Hexadecimal.decode (Hexadecimal.encode (mac key (canonical (.ofRat ts)))) = Hexadecimal.decode signature.toList then
          pure ()
        else throw "signature mismatch" := by
  obtain ⟨digits, same⟩ := decimal_eq_some number'
  have timestamped : (some text).filter isDigits = some text := Option.filter_eq_some_iff.mpr ⟨rfl, digits⟩
  simp only [verifySignature, timestamped, same, less_natCast small, hexDigest, String.toList_ofList, decide_eq_true_eq]

/-- For a clock and timestamps below `2 ^ 53` the verifier is the one that
counts in natural numbers. -/
theorem verifyIdentity_eq_verify (verifier : IdentitySignatureVerifier) (hmac : Hmac) (headers : Headers) (clock : n ≤ 2 ^ 53)
    {maxSkewMs : Double} (skew : maxSkewMs.value = verifier.maxSkewMs)
    (small : ∀ ts, (headers.first identityTsHeader).bind decimal = some ts → ts < 2 ^ 53) :
    verifyIdentity { key := verifier.key, enforced := verifier.enforced, maxSkewMs } hmac.digest headers (.finite (.ofNat n clock)) =
      verifier.verify hmac headers n := by
  rw [verifyIdentity, IdentitySignatureVerifier.verify]
  refine if_congr Iff.rfl rfl ?_
  cases filled verifier.key with
  | none => rfl
  | some key =>
    cases filled (headers.first tenantIdHeader) with
    | none => rfl
    | some tenantId =>
      cases filled (headers.first userIdHeader) with
      | none => rfl
      | some sub =>
        cases sent : headers.first identityTsHeader with
        | none => rfl
        | some text =>
          cases number' : decimal text with
          | none => simp only [verifySignature, Option.filter, decimal_eq_none number', Option.bind_some, number']; rfl
          | some ts =>
            have small' := small ts (by rw [sent, Option.bind_some, number'])
            have natural := @verifySignature_natCast ts n text hmac.digest key maxSkewMs
              (canonicalString tenantId sub ((headers.first rolesHeader).getD "")) (headers.first identitySigHeader) number' small' clock
            cases signed : filled (headers.first identitySigHeader) with
            | none => simp only [natural, signed, Option.bind_some, number']
            | some signature => simp only [natural, signed, Option.bind_some, number', skew, canonicalString_natCast small']

end naturals

def sampleKey : String := "a-test-signing-key-at-least-32-chars-long"

def sampleIdentity : VerifiedIdentity where
  sub := "user-123"
  tenantId := "11111111-1111-4111-8111-111111111111"
  roles := ["restaurant-owner", "admin"]

def anonymous : VerifiedIdentity := { sampleIdentity with tenantId := "", roles := [] }

def sampleTs : Number := .ofRat (1700000000000 : ℕ)

def sampleNow : Double := .ofNat 1700000000250 (by norm_num)

def sampleSkew : Double := .ofNat 60000 (by norm_num)

/-- What a key makes of the texts of a table; of the others it makes the texts
themselves. -/
def tabulated (table : List (String × List UInt8)) : Mac := fun _ text =>
  match table.lookup text with
  | some digest => digest
  | none => List.replicate 33 0 ++ text.toByteArray.data.toList

section tabulated

variable {table : List (String × List UInt8)} {text text' key : String} {digest : List UInt8}

theorem mem_of_lookup (found : table.lookup text = some digest) : (text, digest) ∈ table := by
  obtain ⟨before, after, rfl, -⟩ := List.lookup_eq_some_iff.mp found
  exact List.mem_append_right _ (List.mem_cons_self ..)

/-- A digest is shorter than what stands for the other texts. -/
theorem filler_ne {rest : List UInt8} (short : digest.length = 32) : digest ≠ List.replicate 33 0 ++ rest := by
  rintro rfl
  rw [List.length_append, List.length_replicate] at short
  omega

theorem tabulated_injective (lengths : ∀ entry ∈ table, entry.2.length = 32) (distinct : (table.map Prod.snd).Nodup) :
    Function.Injective (tabulated table key) := by
  intro text text' same
  unfold tabulated at same
  cases found : table.lookup text with
  | some digest =>
    cases found' : table.lookup text' with
    | some digest' =>
      simp only [found, found'] at same
      have entries := List.inj_on_of_nodup_map distinct (mem_of_lookup found) (mem_of_lookup found') same
      exact congrArg Prod.fst entries
    | none =>
      simp only [found, found'] at same
      exact absurd same (filler_ne (lengths _ (mem_of_lookup found)))
  | none =>
    cases found' : table.lookup text' with
    | some digest' =>
      simp only [found, found'] at same
      exact absurd same.symm (filler_ne (lengths _ (mem_of_lookup found')))
    | none =>
      simp only [found, found'] at same
      exact String.toByteArray_inj.mp (ByteArray.ext (Array.toList_inj.mp (List.append_cancel_left same)))

theorem tabulated_ne_nil (lengths : ∀ entry ∈ table, entry.2.length = 32) (text : String) : tabulated table key text ≠ [] := by
  unfold tabulated
  split
  · next digest found =>
    have length := lengths _ (mem_of_lookup found)
    rintro rfl
    cases length
  · exact List.append_ne_nil_of_left_ne_nil (by decide) _

end tabulated

def sampleTable : List (String × List UInt8) :=
  [("11111111-1111-4111-8111-111111111111\nuser-123\nrestaurant-owner,admin\n1700000000000",
      [147, 195, 35, 227, 17, 140, 47, 70, 53, 169, 145, 81, 178, 158, 133, 173, 29, 150, 67, 75, 136, 146, 153, 190,
        78, 125, 107, 13, 232, 64, 229, 164]),
   ("grpc\n11111111-1111-4111-8111-111111111111\n1700000000000",
      [61, 170, 196, 211, 123, 226, 129, 215, 119, 127, 89, 182, 65, 33, 130, 238, 37, 8, 193, 190, 204, 131, 184, 215,
        170, 218, 47, 38, 13, 39, 191, 57]),
   ("\nuser-123\n\n1700000000000",
      [68, 141, 232, 114, 27, 50, 156, 148, 154, 24, 155, 173, 211, 99, 22, 83, 255, 126, 202, 220, 31, 222, 68, 58,
        186, 36, 172, 214, 10, 120, 248, 49])]

theorem sampleTable_lengths : ∀ entry ∈ sampleTable, entry.2.length = 32 := by decide

def sampleMac : Mac := tabulated sampleTable

theorem sampleMac_injective : Function.Injective (sampleMac sampleKey) := tabulated_injective sampleTable_lengths (by decide)

theorem sampleMac_ne_nil : ∀ text, sampleMac sampleKey text ≠ [] := tabulated_ne_nil sampleTable_lengths

theorem timestamp_sample : timestamp sampleTs = "1700000000000" := by
  rw [timestamp, sampleTs, Numeral.write_natCast (by norm_num)]
  decide

theorem isDigits_sample : isDigits (timestamp sampleTs) := isDigits_clock (by norm_num)

theorem within_sample : Within sampleNow sampleTs sampleSkew := by
  obtain ⟨ts, finite, value⟩ : sampleTs.Is (1700000000000 : ℕ) := Number.ofNat_is (by norm_num)
  refine ⟨ts.value, ⟨ts, finite, rfl⟩, ?_⟩
  have difference : sampleNow.value - ts.value = (250 : ℕ) := by
    rw [value]
    norm_num [sampleNow, Double.ofNat]
  rw [difference, round_eq (natCast_mem_grid (by norm_num))]
  norm_num [sampleSkew, Double.ofNat]

/-- The headers of a signed request, with the signature as it is written. -/
def sampleHeaders (identity : VerifiedIdentity) (signature : String) : Headers :=
  ((((Headers.set (fun _ => none) tenantIdHeader identity.tenantId).set userIdHeader identity.sub).set rolesHeader
    (joinRoles identity.roles)).set identityTsHeader "1700000000000").set identitySigHeader signature

theorem presents_sample (identity : VerifiedIdentity) (signature : String) :
    Presents (sampleHeaders identity signature) identity.tenantId identity.sub (joinRoles identity.roles) (timestamp sampleTs) signature := by
  rw [timestamp_sample]
  exact ⟨rfl, rfl, rfl, rfl, rfl⟩

theorem sampleHeaders_lineless {identity : VerifiedIdentity} {signature : String} (tenant : Lineless identity.tenantId)
    (subject : Lineless identity.sub) (joined : Lineless (joinRoles identity.roles)) (written : Lineless signature) :
    LinelessHeaders (sampleHeaders identity signature) := by
  have timestamped : Lineless "1700000000000" := timestamp_sample ▸ timestamp_lineless sampleTs
  have none : LinelessHeaders fun _ => none := fun _ _ absent => nomatch absent
  exact ((((none.set tenant).set subject).set joined).set timestamped).set written

def sampleOptions : VerifierOptions where
  key := some sampleKey
  enforced := true
  maxSkewMs := sampleSkew

def sampleSignature : String := "93c323e3118c2f4635a99151b29e85ad1d96434b889299be4e7d6b0de840e5a4"

theorem signIdentity_sample : signIdentity sampleMac sampleKey sampleIdentity sampleTs = sampleSignature := by
  rw [signIdentity, canonicalString, timestamp_sample]
  decide +kernel

/-- A signed request and a signed call are accepted, and what the request
presents is authentic. -/
theorem signatures_bound_sample :
    verifyIdentity sampleOptions sampleMac (sampleHeaders sampleIdentity sampleSignature) (.finite sampleNow) = .ok () ∧
    (∃ tenantId sub rolesJoined tsValue signature,
      Presents (sampleHeaders sampleIdentity sampleSignature) tenantId sub rolesJoined tsValue signature ∧
      Authentic sampleMac sampleKey sampleSkew sampleNow tenantId sub rolesJoined tsValue signature) ∧
    verifyGrpcTenant sampleOptions sampleMac (some sampleIdentity.tenantId) (some (timestamp sampleTs))
      (some (signGrpcTenant sampleMac sampleKey sampleIdentity.tenantId sampleTs)) (.finite sampleNow) = .ok () := by
  obtain ⟨authentic, -, accepted, accepted'⟩ := signatures_bound sampleMac_injective sampleMac_ne_nil (by decide : sampleKey ≠ "")
  have presents := presents_sample sampleIdentity (signIdentity sampleMac sampleKey sampleIdentity sampleTs)
  have verified := accepted sampleIdentity sampleTs _ sampleNow sampleSkew presents (by decide) (by decide) isDigits_sample within_sample
  rw [signIdentity_sample] at verified
  refine ⟨verified, authentic _ sampleNow sampleSkew ?_ verified, ?_⟩
  · refine sampleHeaders_lineless ?_ ?_ ?_ ?_ <;> (rw [Lineless]; decide)
  · exact accepted' sampleIdentity.tenantId sampleTs sampleNow sampleSkew (by decide) isDigits_sample within_sample

theorem signIdentity_lower (mac : Mac) (key : String) (identity : VerifiedIdentity) (ts : Number) :
    'C' ∉ (signIdentity mac key identity ts).toList := by
  have digits : ∀ digit < 16, Nat.digitChar digit ≠ 'C' := by decide
  rw [signIdentity, hexDigest, String.toList_ofList, Hexadecimal.encode]
  intro member
  obtain ⟨byte, -, upper⟩ := List.mem_flatMap.mp member
  have bound := byte.toNat_lt
  rcases List.mem_cons.mp upper with high | low
  · exact digits _ (by omega) high.symm
  · exact digits _ (by omega) (List.mem_singleton.mp low).symm

/-- A signature in upper case is accepted, which none that is made is; and one
that is made for an empty tenant is refused. -/
theorem upper_case_accepted :
    (verifyIdentity sampleOptions sampleMac (sampleHeaders sampleIdentity "93C323E3118C2F4635A99151B29E85AD1D96434B889299BE4E7D6B0DE840E5A4")
        (.finite sampleNow) = .ok () ∧
      ∀ identity ts, "93C323E3118C2F4635A99151B29E85AD1D96434B889299BE4E7D6B0DE840E5A4" ≠ signIdentity sampleMac sampleKey identity ts) ∧
    (Presents (sampleHeaders anonymous (signIdentity sampleMac sampleKey anonymous sampleTs)) anonymous.tenantId anonymous.sub
        (joinRoles anonymous.roles) (timestamp sampleTs) (signIdentity sampleMac sampleKey anonymous sampleTs) ∧
      Within sampleNow sampleTs sampleSkew ∧
      verifyIdentity sampleOptions sampleMac (sampleHeaders anonymous (signIdentity sampleMac sampleKey anonymous sampleTs))
        (.finite sampleNow) = .error "missing identity headers") := by
  refine ⟨⟨?_, ?_⟩, presents_sample _ _, within_sample, rfl⟩
  · refine verifyIdentity_stands (by decide) (presents_sample _ _) (by decide) (by decide) (by decide) isDigits_sample within_sample ?_
    rw [signIdentity_sample, Stands]
    decide
  · intro identity ts same
    have lower := signIdentity_lower sampleMac sampleKey identity ts
    rw [← same] at lower
    exact lower (by decide)

end FoodDelivery.Tenancy.Signatures
