import Mathlib.Algebra.Order.Ring.Rat
import FoodDelivery.Lib.Delimited
import FoodDelivery.Lib.Hexadecimal

namespace FoodDelivery.Tenancy

/-- A claim of a token; `other` is a number, a boolean or `null`. -/
inductive Claim
  | text (value : String)
  | list (items : List Claim)
  | record (fields : String → Option Claim)
  | other

def Claim.items : Claim → Option (List Claim)
  | .list items => some items
  | _ => none

def Claim.text? : Claim → Option String
  | .text value => some value
  | _ => none

/-- A property of a claim, undefined where the claim has none. -/
def Claim.get (name : String) : Claim → Option Claim
  | .record fields => fields name
  | _ => none

structure JWTPayload where
  sub : Option String
  tenantId : Option Claim
  realmAccess : Option Claim
  roles : Option Claim

structure VerifiedIdentity where
  sub : String
  tenantId : String
  roles : List String
  deriving DecidableEq, Repr

inductive MissingIdentityClaimError
  | missing (claim : String)
  deriving DecidableEq, Repr

def MissingIdentityClaimError.message : MissingIdentityClaimError → String
  | .missing claim => s!"Verified token is missing the required \"{claim}\" claim"

/-- A text that is neither undefined nor empty. -/
def filled (value : Option String) : Option String := value.filter (· ≠ "")

theorem filled_of_ne_empty {value : String} (nonempty : value ≠ "") : filled (some value) = some value := by
  simp [filled, nonempty]

theorem filled_eq_some {value : Option String} {text : String} (present : filled value = some text) :
    value = some text ∧ text ≠ "" := by
  obtain ⟨same, nonempty⟩ := Option.filter_eq_some_iff.mp present
  exact ⟨same, of_decide_eq_true nonempty⟩

def extractRoles (payload : JWTPayload) : List String :=
  let source :=
    match (payload.realmAccess.bind (Claim.get "roles")).bind Claim.items with
    | some roles => roles
    | none => (payload.roles.bind Claim.items).getD []
  source.filterMap Claim.text?

def extractIdentity (payload : JWTPayload) : Except MissingIdentityClaimError VerifiedIdentity :=
  match filled payload.sub with
  | none => throw (.missing "sub")
  | some sub =>
    match filled (payload.tenantId.bind Claim.text?) with
    | none => throw (.missing "tenant_id")
    | some tenantId => pure { sub, tenantId, roles := extractRoles payload }

/-- A header of a request; one sent more than once has several values. -/
inductive HeaderValue
  | single (value : String)
  | many (values : List String)
  deriving DecidableEq, Repr

abbrev Headers := String → Option HeaderValue

def tenantIdHeader : String := "x-tenant-id"
def userIdHeader : String := "x-user-id"
def rolesHeader : String := "x-roles"
def identityTsHeader : String := "x-identity-ts"
def identitySigHeader : String := "x-identity-sig"

def firstHeaderValue : Option HeaderValue → Option String
  | none => none
  | some (.single value) => some value
  | some (.many values) => values.head?

def Headers.first (headers : Headers) (name : String) : Option String := firstHeaderValue (headers name)

def Headers.set (headers : Headers) (name value : String) : Headers :=
  Function.update headers name (some (.single value))

@[simp] theorem Headers.first_set_same (headers : Headers) (name value : String) :
    (headers.set name value).first name = some value := by
  simp only [first, set, Function.update_self, firstHeaderValue]

theorem Headers.first_set_other (headers : Headers) {name other : String} (value : String) (different : other ≠ name) :
    (headers.set name value).first other = headers.first other := by
  simp only [first, set, Function.update_of_ne different]

def joinRoles (roles : List String) : String := ",".intercalate roles

/-- What `trim` removes: white space, line terminators and the byte order mark. -/
def isWhitespace (character : Char) : Bool :=
  character.toNat ∈ [0x09, 0x0a, 0x0b, 0x0c, 0x0d, 0x20, 0xa0, 0x1680, 0x2028, 0x2029, 0x202f, 0x205f, 0x3000, 0xfeff] ∨
    (0x2000 ≤ character.toNat ∧ character.toNat ≤ 0x200a)

def trim (text : String) : String := .ofList (Delimited.trim isWhitespace text.toList)

theorem trim_trim (text : String) : trim (trim text) = trim text := by
  rw [trim, trim, String.toList_ofList, Delimited.trim_trim]

def parseRolesHeader (value : Option String) : List String :=
  match filled value with
  | none => []
  | some value => (((value.toList.splitOn ',').map String.ofList).map trim).filter (· ≠ "")

/-- `createHmac('sha256', key).update(text).digest()`. -/
structure Hmac where
  digest : (key text : String) → List UInt8
  length : ∀ key text, (digest key text).length = 32

def canonicalString (tenantId sub rolesJoined : String) (ts : Nat) : String :=
  s!"{tenantId}\n{sub}\n{rolesJoined}\n{ts}"

def signIdentity (hmac : Hmac) (key : String) (identity : VerifiedIdentity) (ts : Nat) : String :=
  .ofList (Hexadecimal.encode
    (hmac.digest key (canonicalString identity.tenantId identity.sub (joinRoles identity.roles) ts)))

/-- `now` is what the clock reads when there is a signer. -/
def applyTrustedIdentityHeaders (headers : Headers) (identity : VerifiedIdentity)
    (signer : Option (VerifiedIdentity → Nat → String)) (now : Nat) : Headers :=
  let trusted := ((headers.set tenantIdHeader identity.tenantId).set userIdHeader identity.sub).set rolesHeader
    (joinRoles identity.roles)
  match signer with
  | none => trusted
  | some signer => (trusted.set identityTsHeader (toString now)).set identitySigHeader (signer identity now)

section applied

variable (headers : Headers) (identity : VerifiedIdentity) (signer : Option (VerifiedIdentity → Nat → String)) (now : Nat)

/-- A signer adds two headers; the others are as without it. -/
theorem applyTrustedIdentityHeaders_unsigned {name : String} (notTs : name ≠ identityTsHeader)
    (notSig : name ≠ identitySigHeader) : (applyTrustedIdentityHeaders headers identity signer now).first name =
      (applyTrustedIdentityHeaders headers identity none now).first name := by
  cases signer with
  | none => rfl
  | some signer =>
    simp only [applyTrustedIdentityHeaders]
    rw [Headers.first_set_other _ _ notSig, Headers.first_set_other _ _ notTs]

theorem applyTrustedIdentityHeaders_tenantId :
    (applyTrustedIdentityHeaders headers identity signer now).first tenantIdHeader = some identity.tenantId := by
  rw [applyTrustedIdentityHeaders_unsigned _ _ _ _ (by decide) (by decide), applyTrustedIdentityHeaders,
    Headers.first_set_other _ _ (by decide), Headers.first_set_other _ _ (by decide), Headers.first_set_same]

theorem applyTrustedIdentityHeaders_userId :
    (applyTrustedIdentityHeaders headers identity signer now).first userIdHeader = some identity.sub := by
  rw [applyTrustedIdentityHeaders_unsigned _ _ _ _ (by decide) (by decide), applyTrustedIdentityHeaders,
    Headers.first_set_other _ _ (by decide), Headers.first_set_same]

theorem applyTrustedIdentityHeaders_roles :
    (applyTrustedIdentityHeaders headers identity signer now).first rolesHeader = some (joinRoles identity.roles) := by
  rw [applyTrustedIdentityHeaders_unsigned _ _ _ _ (by decide) (by decide), applyTrustedIdentityHeaders,
    Headers.first_set_same]

theorem applyTrustedIdentityHeaders_other {name : String}
    (other : name ∉ [tenantIdHeader, userIdHeader, rolesHeader, identityTsHeader, identitySigHeader]) :
    (applyTrustedIdentityHeaders headers identity signer now).first name = headers.first name := by
  simp only [List.mem_cons, List.not_mem_nil, or_false, not_or] at other
  obtain ⟨tenant, user, roles, ts, sig⟩ := other
  rw [applyTrustedIdentityHeaders_unsigned _ _ _ _ ts sig, applyTrustedIdentityHeaders,
    Headers.first_set_other _ _ roles, Headers.first_set_other _ _ user, Headers.first_set_other _ _ tenant]

end applied

structure IdentitySignatureVerifier where
  key : Option String
  enforced : Bool
  maxSkewMs : Rat

/-- What a text of decimal digits denotes. -/
def decimal (value : String) : Option Nat :=
  if value ≠ "" ∧ value.toList.all Char.isDigit then some (Nat.ofDigitChars 10 value.toList 0) else none

/-- The reason is what an error carries. -/
def IdentitySignatureVerifier.verify (verifier : IdentitySignatureVerifier) (hmac : Hmac) (headers : Headers) (now : Nat) :
    Except String Unit :=
  if verifier.enforced = false then pure ()
  else
    match filled verifier.key with
    | none => throw "signing key not configured"
    | some key =>
      match filled (headers.first tenantIdHeader), filled (headers.first userIdHeader) with
      | some tenantId, some sub =>
        match (headers.first identityTsHeader).bind decimal with
        | none => throw "missing or non-numeric timestamp"
        | some ts =>
          match filled (headers.first identitySigHeader) with
          | none => throw "missing signature"
          | some signature =>
            if verifier.maxSkewMs < ((now : Int) - ts).natAbs then throw "timestamp outside allowed skew"
            else
              let expected := hmac.digest key (canonicalString tenantId sub ((headers.first rolesHeader).getD "") ts)
              if Hexadecimal.decode (Hexadecimal.encode expected) = Hexadecimal.decode signature.toList then pure ()
              else throw "signature mismatch"
      | _, _ => throw "missing identity headers"

def defaultMaxSkewMs : Rat := 60000

/-- The signing key and the allowed skew as the environment gives them; the
skew is what its text reads as when that is a finite number. -/
structure IdentityEnforcementEnv where
  nodeEnv : Option String
  internalIdentitySigningKey : Option String
  internalIdentityMaxSkewMs : Option Rat

def unsetKeyMessage : String :=
  "INTERNAL_IDENTITY_SIGNING_KEY is not set — internal identity signature verification is DISABLED; " ++
  "a caller reaching a service directly can forge x-tenant-id/x-roles and act as any tenant/role"

def resolveMaxSkewMs (parsed : Option Rat) : Rat := (parsed.filter (0 < ·)).getD defaultMaxSkewMs

/-- The verifier with the warning that goes with it. -/
def resolveIdentityEnforcement (env : IdentityEnforcementEnv) :
    Except String (IdentitySignatureVerifier × Option String) :=
  let key := env.internalIdentitySigningKey
  let isTest := env.nodeEnv = some "test"
  let maxSkewMs := resolveMaxSkewMs env.internalIdentityMaxSkewMs
  if ¬isTest ∧ filled key = none then
    if env.nodeEnv = some "production" then throw unsetKeyMessage
    else pure ({ key, enforced := false, maxSkewMs }, some unsetKeyMessage)
  else pure ({ key, enforced := ¬isTest ∧ (filled key).isSome, maxSkewMs }, none)

/-- Signatures go unchecked in tests and where no key is set. -/
def IdentityEnforcementEnv.Unenforced (env : IdentityEnforcementEnv) : Prop :=
  env.nodeEnv = some "test" ∨ filled env.internalIdentitySigningKey = none

theorem resolveIdentityEnforcement_enforced {env : IdentityEnforcementEnv} {verifier : IdentitySignatureVerifier}
    {warning : Option String} (resolved : resolveIdentityEnforcement env = .ok (verifier, warning)) :
    verifier.enforced = false ↔ env.Unenforced := by
  simp only [resolveIdentityEnforcement] at resolved
  split at resolved
  · rename_i unset
    split at resolved
    · cases resolved
    · cases resolved
      exact iff_of_true rfl (Or.inr unset.2)
  · rename_i known
    cases resolved
    simp only [decide_eq_false_iff_not, IdentityEnforcementEnv.Unenforced, Option.isSome_iff_ne_none]
    rw [not_and_or, not_not, not_not]

inductive HttpException
  | unauthorized (message : String)
  | forbidden (message : String)
  | badRequest (message : String)
  deriving DecidableEq, Repr

/-- Whether the characters are one of each class, in order. -/
def matchesClasses : List (Char → Bool) → List Char → Bool
  | [], [] => true
  | accepts :: classes, character :: rest => accepts character && matchesClasses classes rest
  | _, _ => false

/-- `UUID_REGEX`. -/
def uuidClasses : List (Char → Bool) :=
  let hex (n : Nat) := List.replicate n Hexadecimal.isDigit
  let dash : List (Char → Bool) := [fun c => c == '-']
  hex 8 ++ dash ++ hex 4 ++ dash ++ [fun c => decide ('1' ≤ c ∧ c ≤ '5')] ++ hex 3 ++ dash ++
    [fun c => decide (c ∈ ['8', '9', 'a', 'b', 'A', 'B'])] ++ hex 3 ++ dash ++ hex 12

def isUuid (text : String) : Bool := matchesClasses uuidClasses text.toList

structure TenantRequestContext where
  tenantId : String
  actor : String
  roles : List String
  deriving DecidableEq, Repr

/-- `TrustedIdentityInterceptor`, up to the context it runs the handler in. -/
def intercept (verifier : IdentitySignatureVerifier) (hmac : Hmac) (headers : Headers) (now : Nat) :
    Except HttpException TenantRequestContext :=
  match (filled (headers.first tenantIdHeader)).filter isUuid with
  | none => throw (.unauthorized "Missing or invalid verified tenant identity")
  | some tenantId =>
    match verifier.verify hmac headers now with
    | .error reason => throw (.unauthorized s!"Invalid internal identity signature: {reason}")
    | .ok () =>
      pure
        { tenantId
          actor := (filled (headers.first userIdHeader)).getD "anonymous"
          roles := parseRolesHeader (headers.first rolesHeader) }

/-- `RolesGuard`, for a handler that asks for one of the roles. -/
def canActivate (required : List String) (headers : Headers) : Except HttpException Unit :=
  if required = [] then pure ()
  else
    match filled (headers.first userIdHeader) with
    | none => throw (.unauthorized "Missing verified identity")
    | some _ =>
      if ∃ role ∈ required, role ∈ parseRolesHeader (headers.first rolesHeader) then pure ()
      else throw (.forbidden "Insufficient role for this operation")

end FoodDelivery.Tenancy
