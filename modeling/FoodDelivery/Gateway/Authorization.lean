import FoodDelivery.Gateway.HttpForwarder
import FoodDelivery.Lib.History
import FoodDelivery.Tenancy.Propagation
import FoodDelivery.Tenancy.Signatures

namespace FoodDelivery.Gateway

open Tenancy Binary64

def authorizationHeader : String := "authorization"

def extractBearerToken (authorization : Option String) : Option String :=
  match (filled authorization).map fun text => text.toList.splitOn ' ' with
  | some (scheme :: token :: _) =>
    if scheme.map Char.toLower = "bearer".toList ∧ token ≠ [] then some (.ofList token) else none
  | _ => none

/-- `jwtVerify` under the gateway's options: the payload of a token that it
accepts. -/
abbrev JwtVerify := (token : String) → Option JWTPayload

/-- `AccessTokenVerifier.verify`. -/
def AccessTokenVerifier.verify (jwtVerify : JwtVerify) (token : String) : Option VerifiedIdentity :=
  (jwtVerify token).bind fun payload => (extractIdentity payload).toOption

/-- What the guard makes of `request.identity`. -/
def JwtAuthGuard.canActivate (jwtVerify : JwtVerify) (isPublic : Bool) (headers : Headers) :
    Except HttpException (Option VerifiedIdentity) :=
  if isPublic then pure none
  else
    match extractBearerToken (headers.first authorizationHeader) with
    | none => throw (.unauthorized "Missing bearer token")
    | some token =>
      match AccessTokenVerifier.verify jwtVerify token with
      | none => throw (.unauthorized "Invalid access token")
      | some identity => pure (some identity)

/-- The headers of the request that `HttpForwarder.forward` makes. -/
def HttpForwarder.forward (hmac : Hmac) (signingKey : Option String) (headers : Headers) (identity : Option VerifiedIdentity)
    (now : Nat) : Except String Headers :=
  match identity with
  | none => throw "forward() called without a verified identity"
  | some identity => pure (forwardHeaders hmac signingKey { headers, identity } now)

/-- What the gateway lets through on a token. -/
def Verified (jwtVerify : JwtVerify) (headers : Headers) (identity : VerifiedIdentity) : Prop :=
  ∃ token payload, extractBearerToken (headers.first authorizationHeader) = some token ∧ jwtVerify token = some payload ∧
    extractIdentity payload = .ok identity

theorem verified_of_canActivate {jwtVerify : JwtVerify} {isPublic : Bool} {headers : Headers} {identity : VerifiedIdentity}
    (passed : JwtAuthGuard.canActivate jwtVerify isPublic headers = .ok (some identity)) : Verified jwtVerify headers identity := by
  rw [JwtAuthGuard.canActivate] at passed
  split at passed
  · cases passed
  · split at passed
    · cases passed
    · next token bearer =>
      split at passed
      · cases passed
      · next accepted =>
        cases passed
        obtain ⟨payload, verified, extracted⟩ := Option.bind_eq_some_iff.mp accepted
        refine ⟨token, payload, bearer, verified, ?_⟩
        cases result : extractIdentity payload with
        | error missing => simp [result, Except.toOption] at extracted
        | ok found => simpa [result, Except.toOption] using extracted

end FoodDelivery.Gateway

namespace FoodDelivery.Authorization

open Tenancy Tenancy.Signatures Gateway CommitLog Binary64

/-- What `Date.now()` reads, which is below `2 ^ 53` for every date. -/
structure Instant where
  ms : Nat
  small : ms < 2 ^ 53

def Instant.double (now : Instant) : Double := .ofNat now.ms now.small.le

def Instant.number (now : Instant) : Number := .ofRat now.ms

/-- The distance of two clocks' readings. -/
def Instant.Near (a b : Instant) (maxSkewMs : Double) : Prop := (((a.ms : ℤ) - b.ms).natAbs : ℚ) ≤ maxSkewMs.value

/-- A request as the HTTP parser hands it on: no header holds a line break. -/
structure Request where
  headers : Headers
  lineless : LinelessHeaders headers

inductive HttpService
  | catalog
  | config
  | delivery
  | review
  | search
  | media
  | order
  | analytics
  | auth
  deriving DecidableEq, Repr

/-- Whether the service provides `TrustedIdentityInterceptor`; the auth service
provides the `RolesGuard` alone. -/
def HttpService.intercepts (service : HttpService) : Bool := service ≠ .auth

inductive GrpcService
  | catalog
  | inventory
  deriving DecidableEq, Repr

/-- `TrustedIdentityInterceptor`, with the timestamps as the numbers they are. -/
def interceptIdentity (options : VerifierOptions) (mac : Mac) (headers : Headers) (now : Number) :
    Except HttpException TenantRequestContext :=
  match (filled (headers.first tenantIdHeader)).filter isUuid with
  | none => throw (.unauthorized "Missing or invalid verified tenant identity")
  | some tenantId =>
    match verifyIdentity options mac headers now with
    | .error reason => throw (.unauthorized s!"Invalid internal identity signature: {reason}")
    | .ok () =>
      pure
        { tenantId
          actor := (filled (headers.first userIdHeader)).getD "anonymous"
          roles := parseRolesHeader (headers.first rolesHeader) }

/-- With timestamps below `2 ^ 53` it is the interceptor that counts in natural numbers. -/
theorem interceptIdentity_eq_intercept (verifier : IdentitySignatureVerifier) (hmac : Hmac) (headers : Headers) (now : Instant)
    {maxSkewMs : Double} (skew : maxSkewMs.value = verifier.maxSkewMs)
    (small : ∀ ts, (headers.first identityTsHeader).bind decimal = some ts → ts < 2 ^ 53) :
    interceptIdentity { key := verifier.key, enforced := verifier.enforced, maxSkewMs } hmac.digest headers (.finite now.double) =
      intercept verifier hmac headers now.ms := by
  have same := verifyIdentity_eq_verify verifier hmac headers now.small.le skew small
  cases tenant : (filled (headers.first tenantIdHeader)).filter isUuid with
  | none => simp only [interceptIdentity, intercept, tenant]
  | some tenantId =>
    cases verified : verifier.verify hmac headers now.ms <;>
      simp only [interceptIdentity, intercept, tenant, Instant.double, same, verified]

/-- What comes before a handler: its guard, and in most services the
interceptor, which runs it in a context. -/
def HttpService.admits (service : HttpService) (options : VerifierOptions) (mac : Mac) (required : List String) (headers : Headers)
    (now : Number) : Except HttpException (Option TenantRequestContext) := do
  Tenancy.canActivate required headers
  if service.intercepts then some <$> interceptIdentity options mac headers now else pure none

structure RpcException where
  message : String
  deriving DecidableEq, Repr

/-- `readTenantFromMetadata`, and `GrpcTenantContextInterceptor` up to the
context of the system in which it runs the call. -/
def readTenantFromMetadata (options : VerifierOptions) (mac : Mac) (metadata : Headers) (now : Number) :
    Except RpcException String :=
  match (filled (metadata.first tenantIdHeader)).filter isUuid with
  | none => throw ⟨"Missing or invalid verified tenant identity"⟩
  | some tenantId =>
    match verifyGrpcTenant options mac (some tenantId) (metadata.first identityTsHeader) (metadata.first identitySigHeader) now with
    | .error reason => throw ⟨s!"Tenant identity signature rejected: {reason}"⟩
    | .ok () => pure tenantId

def buildTenantMetadata (mac : Mac) (key : Option String) (tenantId : String) (now : Number) : Headers :=
  let metadata := Headers.set (fun _ => none) tenantIdHeader tenantId
  match filled key with
  | none => metadata
  | some key => (metadata.set identityTsHeader (timestamp now)).set identitySigHeader (signGrpcTenant mac key tenantId now)

/-- The keys and the verifiers that the processes have from their environment. -/
structure Deployment where
  hmac : Hmac
  gatewayKey : Option String
  http : HttpService → VerifierOptions
  grpc : GrpcService → VerifierOptions

/-- A request that the gateway has passed on for the identity of a token. -/
structure Forwarded where
  jwtVerify : JwtVerify
  headers : Headers
  identity : VerifiedIdentity
  now : Instant
  verified : Verified jwtVerify headers identity

/-- A handler that a service has run. -/
structure Call where
  service : HttpService
  required : List String
  context : Option TenantRequestContext
  now : Instant

/-- Metadata that the order service has made for a tenant. -/
structure Asked where
  tenantId : String
  now : Instant

structure GrpcCall where
  service : GrpcService
  tenantId : String
  now : Instant

structure State where
  forwarded : List Forwarded
  calls : List Call
  asked : List Asked
  grpcCalls : List GrpcCall

def State.start : State := ⟨[], [], [], []⟩

/-- Anyone may send any request to the gateway and to every service; the order
service calls the others only for the tenant of a handler that it runs. -/
inductive Event
  | arrive (jwtVerify : JwtVerify) (isPublic : Bool) (headers : Headers) (now : Instant)
  | call (service : HttpService) (required : List String) (request : Request) (now : Instant)
  | ask (caller : Call) (now : Instant)
  | grpcCall (service : GrpcService) (metadata : Headers) (now : Instant)

inductive Step (d : Deployment) : State → Event → State → Prop
  | forward {s jwtVerify isPublic headers now identity}
      (passed : JwtAuthGuard.canActivate jwtVerify isPublic headers = .ok (some identity)) :
      Step d s (.arrive jwtVerify isPublic headers now)
        { s with forwarded := ⟨jwtVerify, headers, identity, now, verified_of_canActivate passed⟩ :: s.forwarded }
  | turnAway {s jwtVerify isPublic headers now} : (∀ identity, JwtAuthGuard.canActivate jwtVerify isPublic headers ≠ .ok (some identity)) →
      Step d s (.arrive jwtVerify isPublic headers now) s
  | call {s service required request now context} :
      service.admits (d.http service) d.hmac.digest required request.headers (.finite now.double) = .ok context →
      Step d s (.call service required request now) { s with calls := ⟨service, required, context, now⟩ :: s.calls }
  | refuse {s service required request now error} :
      service.admits (d.http service) d.hmac.digest required request.headers (.finite now.double) = .error error →
      Step d s (.call service required request now) s
  | ask {s caller context now} : caller ∈ s.calls → caller.service = .order → caller.context = some context →
      Step d s (.ask caller now) { s with asked := ⟨context.tenantId, now⟩ :: s.asked }
  | grpcCall {s service metadata now tenantId} :
      readTenantFromMetadata (d.grpc service) d.hmac.digest metadata (.finite now.double) = .ok tenantId →
      Step d s (.grpcCall service metadata now) { s with grpcCalls := ⟨service, tenantId, now⟩ :: s.grpcCalls }
  | grpcRefuse {s service metadata now error} :
      readTenantFromMetadata (d.grpc service) d.hmac.digest metadata (.finite now.double) = .error error →
      Step d s (.grpcCall service metadata now) s

abbrev Run (d : Deployment) : List (Commit State Event) → State → Prop :=
  History (· = State.start) fun _ event s s' => Step d s event s'

/-- The texts that a key has signed: the gateway's identities and the tenants
of the order service. -/
def State.Signed (d : Deployment) (s : State) (key text : String) : Prop :=
  (∃ forwarded ∈ s.forwarded, d.gatewayKey = some key ∧ text = canonicalString forwarded.identity.tenantId forwarded.identity.sub
    (joinRoles forwarded.identity.roles) forwarded.now.number) ∨
  ∃ asked ∈ s.asked, (d.http .order).key = some key ∧ text = canonicalGrpcString asked.tenantId asked.now.number

/-- A signature that stands for the text it comes with is of a text that has
been signed. -/
def Unforged (d : Deployment) (s : State) : Event → Prop
  | .call service _ request _ => ∀ key tenantId sub roles tsValue signature, (d.http service).key = some key →
      Presents request.headers tenantId sub roles tsValue signature →
      Stands signature (hexDigest (d.hmac.digest key (canonicalString tenantId sub roles (number tsValue)))) →
      s.Signed d key (canonicalString tenantId sub roles (number tsValue))
  | .grpcCall service metadata _ => ∀ key tenantId tsValue signature, (d.grpc service).key = some key →
      metadata.first tenantIdHeader = some tenantId → metadata.first identityTsHeader = some tsValue →
      metadata.first identitySigHeader = some signature →
      Stands signature (hexDigest (d.hmac.digest key (canonicalGrpcString tenantId (number tsValue)))) →
      s.Signed d key (canonicalGrpcString tenantId (number tsValue))
  | _ => True

/-- The context of a handler that runs for an identity. -/
def contextOf (identity : VerifiedIdentity) : TenantRequestContext where
  tenantId := identity.tenantId
  actor := identity.sub
  roles := parseRolesHeader (some (joinRoles identity.roles))

section texts

theorem forall_of_matchesClasses {classes : List (Char → Bool)} {text : List Char} (fits : matchesClasses classes text) :
    ∀ c ∈ text, ∃ accepts ∈ classes, accepts c := by
  induction classes generalizing text with
  | nil =>
    cases text with
    | nil => simp
    | cons c rest => simp [matchesClasses] at fits
  | cons accepts others ih =>
    cases text with
    | nil => simp
    | cons c rest =>
      simp only [matchesClasses, Bool.and_eq_true] at fits
      obtain ⟨first, later⟩ := fits
      intro x member
      rcases List.mem_cons.mp member with rfl | among
      · exact ⟨accepts, List.mem_cons_self .., first⟩
      · obtain ⟨other, listed, accepted⟩ := ih later x among
        exact ⟨other, List.mem_cons_of_mem _ listed, accepted⟩

theorem lineless_of_isUuid {text : String} (uuid : isUuid text) : Lineless text := by
  intro member
  obtain ⟨accepts, listed, accepted⟩ := forall_of_matchesClasses uuid _ member
  have none : ∀ accepts ∈ uuidClasses, accepts '\n' = false := by decide
  rw [none accepts listed] at accepted
  cases accepted

theorem ne_empty_of_isUuid {text : String} (uuid : isUuid text) : text ≠ "" := by
  rintro rfl
  cases uuid

/-- A role that is read from the header is a part of one that the token names. -/
theorem exists_role {roles : List String} {role : String} (member : role ∈ parseRolesHeader (some (joinRoles roles))) :
    ∃ held ∈ roles, role ∈ parseRolesHeader (some held) := by
  rw [mem_parseRolesHeader, toList_joinRoles] at member
  obtain ⟨part, listed, inPart⟩ := Delimited.exists_of_mem_fields_intercalate member
  obtain ⟨held, among, rfl⟩ := List.mem_map.mp listed
  exact ⟨held, among, mem_parseRolesHeader.mpr inPart⟩

theorem parseRolesHeader_getD (value : Option String) : parseRolesHeader value = parseRolesHeader (some (value.getD "")) := by
  cases value with
  | none => rfl
  | some text => rfl

end texts

section verifiers

variable {options : VerifierOptions} {mac : Mac} {headers : Headers} {now : Instant}

/-- The verifier of a service that enforces signatures accepts a request only
for the digest of what its headers say. -/
theorem verifyIdentity_accepted (enforced : options.enforced)
    (accepted : verifyIdentity options mac headers (.finite now.double) = .ok ()) :
    ∃ key tenantId sub tsValue signature, options.key = some key ∧
      Presents headers tenantId sub ((headers.first rolesHeader).getD "") tsValue signature ∧ sub ≠ "" ∧ isDigits tsValue ∧
      Within now.double (number tsValue) options.maxSkewMs ∧ Stands signature (hexDigest (mac key
        (canonicalString tenantId sub ((headers.first rolesHeader).getD "") (number tsValue)))) := by
  obtain ⟨configured, enforces, maxSkewMs⟩ := options
  obtain rfl : enforces = true := enforced
  cases keyed : filled configured with
  | none => simp [verifyIdentity, keyed] at accepted
  | some key =>
    obtain ⟨rfl, nonempty⟩ := filled_eq_some keyed
    obtain ⟨tenantId, sub, tenant, subject, verified⟩ := (verifyIdentity_ok_iff nonempty).mp accepted
    obtain ⟨tsValue, signature, timestamped, digits, signed, within, stands⟩ := verifySignature_ok_iff.mp verified
    have presents : Presents headers tenantId sub ((headers.first rolesHeader).getD "") tsValue signature :=
      ⟨(filled_eq_some tenant).1, (filled_eq_some subject).1, rfl, timestamped, (filled_eq_some signed).1⟩
    exact ⟨key, tenantId, sub, tsValue, signature, rfl, presents, (filled_eq_some subject).2, digits, within, stands⟩

theorem verifyGrpcTenant_accepted {tenantId : String} {tsHeader sigHeader : Option String} (enforced : options.enforced)
    (accepted : verifyGrpcTenant options mac (some tenantId) tsHeader sigHeader (.finite now.double) = .ok ()) :
    ∃ key tsValue signature, options.key = some key ∧ tsHeader = some tsValue ∧ sigHeader = some signature ∧ isDigits tsValue ∧
      Within now.double (number tsValue) options.maxSkewMs ∧
      Stands signature (hexDigest (mac key (canonicalGrpcString tenantId (number tsValue)))) := by
  obtain ⟨configured, enforces, maxSkewMs⟩ := options
  obtain rfl : enforces = true := enforced
  cases keyed : filled configured with
  | none => simp [verifyGrpcTenant, keyed] at accepted
  | some key =>
    obtain ⟨rfl, nonempty⟩ := filled_eq_some keyed
    obtain ⟨tenant, present, verified⟩ := (verifyGrpcTenant_ok_iff nonempty).mp accepted
    obtain ⟨tsValue, signature, timestamped, digits, signed, within, stands⟩ := verifySignature_ok_iff.mp verified
    cases (filled_eq_some present).1
    exact ⟨key, tsValue, signature, rfl, timestamped, (filled_eq_some signed).1, digits, within, stands⟩

theorem Instant.number_timestamp (now : Instant) : Signatures.number (timestamp now.number) = now.number :=
  Signatures.number_timestamp (isDigits_clock now.small)

theorem within_iff_near {ts : Instant} {maxSkewMs : Double} : Within now.double ts.number maxSkewMs ↔ now.Near ts maxSkewMs := by
  have digits : isDigits (timestamp ts.number) := isDigits_clock ts.small
  rw [← ts.number_timestamp, ← less_iff_within digits, ts.number_timestamp, Instant.number, Instant.double, less_natCast ts.small now.small.le,
    decide_eq_false_iff_not, not_lt]
  rfl

end verifiers

section admission

variable {service : HttpService} {options : VerifierOptions} {mac : Mac} {required : List String} {headers : Headers} {now : Number}
  {context : TenantRequestContext}

theorem interceptIdentity_ok (accepted : interceptIdentity options mac headers now = .ok context) :
    headers.first tenantIdHeader = some context.tenantId ∧ isUuid context.tenantId ∧
      context.actor = (filled (headers.first userIdHeader)).getD "anonymous" ∧
      context.roles = parseRolesHeader (headers.first rolesHeader) ∧ verifyIdentity options mac headers now = .ok () := by
  rw [interceptIdentity] at accepted
  split at accepted
  · cases accepted
  · next tenantId present =>
    obtain ⟨sent, uuid⟩ := Option.filter_eq_some_iff.mp present
    split at accepted
    · cases accepted
    · next verified =>
      cases accepted
      exact ⟨(filled_eq_some sent).1, uuid, rfl, rfl, verified⟩

theorem canActivate_ok (passed : Tenancy.canActivate required headers = .ok ()) (asked : required ≠ []) :
    ∃ role ∈ required, role ∈ parseRolesHeader (headers.first rolesHeader) := by
  rw [Tenancy.canActivate, if_neg asked] at passed
  split at passed
  · cases passed
  · split at passed
    · next among => exact among
    · cases passed

theorem admits_ok {context : Option TenantRequestContext} (admitted : service.admits options mac required headers now = .ok context) :
    Tenancy.canActivate required headers = .ok () ∧
      (service.intercepts → ∃ found, context = some found ∧ interceptIdentity options mac headers now = .ok found) ∧
      (service.intercepts = false → context = none) := by
  rw [HttpService.admits] at admitted
  cases guarded : Tenancy.canActivate required headers with
  | error refused =>
    rw [guarded] at admitted
    cases admitted
  | ok passed =>
    rw [guarded] at admitted
    by_cases intercepts : service.intercepts
    · rw [if_pos intercepts] at admitted
      have intercepted : some <$> interceptIdentity options mac headers now = .ok context := admitted
      cases result : interceptIdentity options mac headers now with
      | error refused =>
        rw [result] at intercepted
        cases intercepted
      | ok found =>
        rw [result] at intercepted
        cases intercepted
        exact ⟨rfl, fun _ => ⟨found, rfl, rfl⟩, fun none => absurd intercepts (Bool.eq_false_iff.mp none)⟩
    · rw [if_neg intercepts] at admitted
      cases admitted
      exact ⟨rfl, fun intercepts' => absurd intercepts' intercepts, fun _ => rfl⟩

theorem readTenantFromMetadata_ok {tenantId : String} (accepted : readTenantFromMetadata options mac headers now = .ok tenantId) :
    headers.first tenantIdHeader = some tenantId ∧ isUuid tenantId ∧
      verifyGrpcTenant options mac (some tenantId) (headers.first identityTsHeader) (headers.first identitySigHeader) now = .ok () := by
  rw [readTenantFromMetadata] at accepted
  split at accepted
  · cases accepted
  · next tenant present =>
    obtain ⟨sent, uuid⟩ := Option.filter_eq_some_iff.mp present
    split at accepted
    · cases accepted
    · next verified =>
      cases accepted
      exact ⟨(filled_eq_some sent).1, uuid, verified⟩

end admission

/-- A handler runs for an identity that the gateway has verified a token of,
within the skew, and with one of the roles it asks for. -/
def Backed (d : Deployment) (s : State) (call : Call) : Prop :=
  ∃ forwarded ∈ s.forwarded, call.context = some (contextOf forwarded.identity) ∧
    call.now.Near forwarded.now (d.http call.service).maxSkewMs ∧
    (call.required ≠ [] → ∃ role ∈ call.required, ∃ held ∈ forwarded.identity.roles, role ∈ parseRolesHeader (some held))

/-- A gRPC call is for a tenant that the order service has asked for within
the skew. -/
def Requested (d : Deployment) (s : State) (call : GrpcCall) : Prop :=
  ∃ asked ∈ s.asked, asked.tenantId = call.tenantId ∧ call.now.Near asked.now (d.grpc call.service).maxSkewMs

def HasContext (s : State) (asked : Asked) : Prop :=
  ∃ caller ∈ s.calls, caller.service = .order ∧ ∃ context, caller.context = some context ∧ context.tenantId = asked.tenantId

structure Sound (d : Deployment) (s : State) : Prop where
  calls : ∀ call ∈ s.calls, call.service.intercepts → (d.http call.service).enforced → Backed d s call
  contexts : ∀ call ∈ s.calls, ∀ context, call.context = some context → isUuid context.tenantId
  asked : ∀ asked ∈ s.asked, HasContext s asked
  grpcCalls : ∀ call ∈ s.grpcCalls, (d.grpc call.service).enforced → Requested d s call

section steps

variable {d : Deployment} {s s' : State}

theorem Sound.asked_lineless (sound : Sound d s) : ∀ asked ∈ s.asked, Lineless asked.tenantId := by
  intro asked member
  obtain ⟨caller, called, -, context, runs, same⟩ := sound.asked asked member
  rw [← same]
  exact lineless_of_isUuid (sound.contexts caller called context runs)

/-- What a service reads from a signed request is what the gateway has signed. -/
theorem Sound.forwarded_of_signed (sound : Sound d s) {key tenantId sub roles : String} {ts : Number} (tenant : Lineless tenantId)
    (subject : Lineless sub) (joined : Lineless roles) (signed : s.Signed d key (canonicalString tenantId sub roles ts)) :
    ∃ forwarded ∈ s.forwarded, forwarded.identity.tenantId = tenantId ∧ forwarded.identity.sub = sub ∧
      joinRoles forwarded.identity.roles = roles ∧ forwarded.now.number = ts := by
  rcases signed with ⟨forwarded, member, -, same⟩ | ⟨asked, member, -, same⟩
  · exact ⟨forwarded, member, canonicalString_inj tenant subject joined same.symm⟩
  · exact absurd same (canonical_ne (sound.asked_lineless asked member))

theorem asked_of_signed {key tenantId : String} {ts : Number} (tenant : Lineless tenantId)
    (signed : s.Signed d key (canonicalGrpcString tenantId ts)) :
    ∃ asked ∈ s.asked, asked.tenantId = tenantId ∧ asked.now.number = ts := by
  rcases signed with ⟨forwarded, -, -, same⟩ | ⟨asked, member, -, same⟩
  · exact absurd same.symm (canonical_ne tenant)
  · exact ⟨asked, member, canonicalGrpcString_inj tenant same.symm⟩

theorem Sound.backed (sound : Sound d s) {service : HttpService} {required : List String} {request : Request} {now : Instant}
    {context : Option TenantRequestContext}
    (unforged : Unforged d s (.call service required request now))
    (admitted : service.admits (d.http service) d.hmac.digest required request.headers (.finite now.double) = .ok context)
    (intercepts : service.intercepts) (enforced : (d.http service).enforced) : Backed d s ⟨service, required, context, now⟩ := by
  obtain ⟨guarded, intercepted, -⟩ := admits_ok admitted
  obtain ⟨found, rfl, accepted⟩ := intercepted intercepts
  obtain ⟨tenant, uuid, actor, roles, verified⟩ := interceptIdentity_ok accepted
  obtain ⟨key, tenantId, sub, tsValue, signature, keyed, presents, nonempty, digits, within, stands⟩ :=
    verifyIdentity_accepted enforced verified
  obtain rfl : found.tenantId = tenantId := Option.some.inj (tenant.symm.trans presents.tenantId)
  have joined : Lineless ((request.headers.first rolesHeader).getD "") := by
    cases sent : request.headers.first rolesHeader with
    | none => simp [Lineless]
    | some text => exact request.lineless _ text sent
  have signed := unforged key found.tenantId sub _ tsValue signature keyed presents stands
  obtain ⟨forwarded, member, ofTenant, ofSubject, ofRoles, ofTs⟩ :=
    sound.forwarded_of_signed (lineless_of_isUuid uuid) (request.lineless _ sub presents.sub) joined signed
  have read : parseRolesHeader (request.headers.first rolesHeader) = parseRolesHeader (some (joinRoles forwarded.identity.roles)) := by
    rw [parseRolesHeader_getD, ofRoles]
  refine ⟨forwarded, member, ?_, within_iff_near.mp (ofTs ▸ within), ?_⟩
  · obtain ⟨foundTenant, foundActor, foundRoles⟩ := found
    simp only at actor roles
    rw [presents.sub, filled_of_ne_empty nonempty, Option.getD_some] at actor
    simp only [contextOf, ofTenant, ofSubject, actor, roles, read]
  · intro asked
    obtain ⟨role, listed, among⟩ := canActivate_ok guarded asked
    rw [read] at among
    exact ⟨role, listed, exists_role among⟩

theorem requested {service : GrpcService} {metadata : Headers} {now : Instant} {tenantId : String}
    (unforged : Unforged d s (.grpcCall service metadata now))
    (accepted : readTenantFromMetadata (d.grpc service) d.hmac.digest metadata (.finite now.double) = .ok tenantId)
    (enforced : (d.grpc service).enforced) : Requested d s ⟨service, tenantId, now⟩ := by
  obtain ⟨tenant, uuid, verified⟩ := readTenantFromMetadata_ok accepted
  obtain ⟨key, tsValue, signature, keyed, timestamped, signs, digits, within, stands⟩ := verifyGrpcTenant_accepted enforced verified
  have signed := unforged key tenantId tsValue signature keyed tenant timestamped signs stands
  obtain ⟨asked, member, ofTenant, ofTs⟩ := asked_of_signed (lineless_of_isUuid uuid) signed
  exact ⟨asked, member, ofTenant, within_iff_near.mp (ofTs ▸ within)⟩

theorem Sound.step {event : Event} (sound : Sound d s) (unforged : Unforged d s event) (step : Step d s event s') :
    Sound d s' := by
  cases step with
  | forward passed =>
    refine ⟨fun call member intercepts enforced => ?_, sound.contexts, sound.asked, sound.grpcCalls⟩
    obtain ⟨forwarded, among, backed⟩ := sound.calls call member intercepts enforced
    exact ⟨forwarded, List.mem_cons_of_mem _ among, backed⟩
  | turnAway => exact sound
  | @call service required request now context admitted =>
    refine ⟨?_, ?_, fun asked member => ?_, sound.grpcCalls⟩
    · intro call member intercepts enforced
      rcases List.mem_cons.mp member with rfl | old
      · exact sound.backed unforged admitted intercepts enforced
      · exact sound.calls call old intercepts enforced
    · intro call member found runs
      rcases List.mem_cons.mp member with rfl | old
      · obtain ⟨-, intercepted, otherwise⟩ := admits_ok admitted
        by_cases intercepts : service.intercepts
        · obtain ⟨found', rfl, accepted⟩ := intercepted intercepts
          cases runs
          exact (interceptIdentity_ok accepted).2.1
        · rw [otherwise (Bool.eq_false_iff.mpr intercepts)] at runs
          cases runs
      · exact sound.contexts call old found runs
    · obtain ⟨caller, called, ofCaller⟩ := sound.asked asked member
      exact ⟨caller, List.mem_cons_of_mem _ called, ofCaller⟩
  | refuse => exact sound
  | @ask caller context now called ofOrder runs =>
    refine ⟨sound.calls, sound.contexts, ?_, fun call member enforced => ?_⟩
    · intro asked member
      rcases List.mem_cons.mp member with rfl | old
      · exact ⟨caller, called, ofOrder, context, runs, rfl⟩
      · exact sound.asked asked old
    · obtain ⟨asked, among, ofTenant, near⟩ := sound.grpcCalls call member enforced
      exact ⟨asked, List.mem_cons_of_mem _ among, ofTenant, near⟩
  | grpcCall accepted =>
    refine ⟨sound.calls, sound.contexts, sound.asked, ?_⟩
    intro call member enforced
    rcases List.mem_cons.mp member with rfl | old
    · exact requested unforged accepted enforced
    · exact sound.grpcCalls call old enforced
  | grpcRefuse => exact sound

theorem sound_start : Sound d State.start := ⟨nofun, nofun, nofun, nofun⟩

theorem Run.sound {log : List (Commit State Event)} (run : Run d log s) (unforged : ∀ c ∈ log, Unforged d c.before c.act) : Sound d s := by
  have start : ∀ s, s = State.start → Sound d s := by
    rintro s rfl
    exact sound_start
  exact History.invariant_of run start (fun _ _ _ _ step fair sound => sound.step fair step) unforged s Seen.current

end steps

section honest

variable {service : HttpService} {hmac : Hmac} {key : String} {required : List String} {headers : Headers} {identity : VerifiedIdentity}
  {ts now : Instant} {maxSkewMs : Double} {signature : String}

theorem digest_ne_nil (hmac : Hmac) (key text : String) : hmac.digest key text ≠ [] := by
  have length := hmac.length key text
  intro empty
  rw [empty] at length
  cases length

/-- A request that presents what has been signed for an identity is admitted as
that identity within the skew. -/
theorem admits_of_presents (presents : Presents headers identity.tenantId identity.sub (joinRoles identity.roles)
      (timestamp ts.number) signature)
    (stands : Stands signature (Signatures.signIdentity hmac.digest key identity ts.number)) (present : signature ≠ "")
    (configured : key ≠ "") (uuid : isUuid identity.tenantId) (subject : identity.sub ≠ "") (near : now.Near ts maxSkewMs)
    (intercepts : service.intercepts) (asked : required ≠ [] → ∃ role ∈ required, role ∈ (contextOf identity).roles) :
    service.admits { key := some key, enforced := true, maxSkewMs } hmac.digest required headers (.finite now.double) =
      .ok (some (contextOf identity)) := by
  have tenant := ne_empty_of_isUuid uuid
  have roles : parseRolesHeader (headers.first rolesHeader) = (contextOf identity).roles := by
    rw [parseRolesHeader_getD, presents.roles]
    rfl
  have verified := verifyIdentity_stands configured presents tenant subject present (isDigits_clock ts.small)
    (within_iff_near.mpr near) stands
  have accepted : interceptIdentity { key := some key, enforced := true, maxSkewMs } hmac.digest headers (.finite now.double) =
      .ok (contextOf identity) := by
    simp only [interceptIdentity, presents.tenantId, filled_of_ne_empty tenant, Option.filter, uuid, if_true, verified, presents.sub,
      filled_of_ne_empty subject, Option.getD_some, roles]
    rfl
  have guarded : Tenancy.canActivate required headers = .ok () := by
    by_cases none : required = []
    · rw [Tenancy.canActivate, if_pos none]
      rfl
    · simp only [Tenancy.canActivate, if_neg none, presents.sub, filled_of_ne_empty subject, roles, if_pos (asked none)]
      rfl
  rw [HttpService.admits, guarded, accepted, if_pos intercepts]
  rfl

/-- The gateway signs what it passes on. -/
theorem forward_presents (hmac : Hmac) (configured : key ≠ "") (headers : Headers) (identity : VerifiedIdentity) (now : Instant) :
    ∃ sent, HttpForwarder.forward hmac (some key) headers (some identity) now.ms = .ok sent ∧
      Presents sent identity.tenantId identity.sub (joinRoles identity.roles) (timestamp now.number)
        (Signatures.signIdentity hmac.digest key identity now.number) := by
  refine ⟨_, rfl, ?_⟩
  rw [forwardHeaders, filled_of_ne_empty configured, Option.map_some]
  have same : Tenancy.signIdentity hmac key identity now.ms = Signatures.signIdentity hmac.digest key identity now.number := by
    rw [Signatures.signIdentity, Instant.number, canonicalString_natCast now.small]
    rfl
  refine ⟨signedHeaders_tenantId .., signedHeaders_userId .., ?_, ?_, ?_⟩
  · exact congrArg (Option.getD · "") (signedHeaders_roles ..)
  · rw [Instant.number, timestamp_natCast now.small]
    exact signedHeaders_identityTs ..
  · rw [← same]
    exact signedHeaders_identitySig ..

/-- What the gateway passes on is admitted by every service that has its key,
as the identity that it was passed on for. -/
theorem forwarded_admitted (configured : key ≠ "") (forwarded : Forwarded) (uuid : isUuid forwarded.identity.tenantId)
    (near : now.Near forwarded.now maxSkewMs) (intercepts : service.intercepts)
    (asked : required ≠ [] → ∃ role ∈ required, role ∈ (contextOf forwarded.identity).roles) :
    ∃ sent, HttpForwarder.forward hmac (some key) forwarded.headers (some forwarded.identity) forwarded.now.ms = .ok sent ∧
      service.admits { key := some key, enforced := true, maxSkewMs } hmac.digest required sent (.finite now.double) =
        .ok (some (contextOf forwarded.identity)) := by
  obtain ⟨sent, made, presents⟩ := forward_presents hmac configured forwarded.headers forwarded.identity forwarded.now
  obtain ⟨token, payload, -, -, extracted⟩ := forwarded.verified
  have subject := (filled_extracted extracted).1
  have present := hexDigest_ne_empty (digest_ne_nil hmac key
    (canonicalString forwarded.identity.tenantId forwarded.identity.sub (joinRoles forwarded.identity.roles) forwarded.now.number))
  exact ⟨sent, made, admits_of_presents presents rfl present configured uuid subject near intercepts asked⟩

section metadata

variable (mac : Mac) (tenantId : String) (now : Number)

theorem buildTenantMetadata_tenantId (configured : key ≠ "") :
    (buildTenantMetadata mac (some key) tenantId now).first tenantIdHeader = some tenantId := by
  simp only [buildTenantMetadata, filled_of_ne_empty configured]
  rw [Headers.first_set_other _ _ (by decide), Headers.first_set_other _ _ (by decide), Headers.first_set_same]

theorem buildTenantMetadata_identityTs (configured : key ≠ "") :
    (buildTenantMetadata mac (some key) tenantId now).first identityTsHeader = some (timestamp now) := by
  simp only [buildTenantMetadata, filled_of_ne_empty configured]
  rw [Headers.first_set_other _ _ (by decide), Headers.first_set_same]

theorem buildTenantMetadata_identitySig (configured : key ≠ "") :
    (buildTenantMetadata mac (some key) tenantId now).first identitySigHeader = some (signGrpcTenant mac key tenantId now) := by
  simp only [buildTenantMetadata, filled_of_ne_empty configured, Headers.first_set_same]

end metadata

/-- The metadata of the order service is served for the tenant it was made for. -/
theorem buildTenantMetadata_served (configured : key ≠ "") {tenantId : String} (uuid : isUuid tenantId) (near : now.Near ts maxSkewMs) :
    readTenantFromMetadata { key := some key, enforced := true, maxSkewMs } hmac.digest
      (buildTenantMetadata hmac.digest (some key) tenantId ts.number) (.finite now.double) = .ok tenantId := by
  have tenant := ne_empty_of_isUuid uuid
  have verified : verifyGrpcTenant { key := some key, enforced := true, maxSkewMs } hmac.digest (some tenantId)
      (some (timestamp ts.number)) (some (signGrpcTenant hmac.digest key tenantId ts.number)) (.finite now.double) = .ok () :=
    signGrpcTenant_accepted configured (digest_ne_nil hmac key) tenant (isDigits_clock ts.small) (within_iff_near.mpr near)
  simp only [readTenantFromMetadata, buildTenantMetadata_tenantId _ _ _ configured, buildTenantMetadata_identityTs _ _ _ configured,
    buildTenantMetadata_identitySig _ _ _ configured, filled_of_ne_empty tenant, Option.filter, uuid, if_true]
  rw [verified]
  rfl

/-- The auth service has no interceptor: it runs a handler for whoever names
a user and one of its roles, signed or not. -/
theorem auth_unverified (options : VerifierOptions) (mac : Mac) {user : String} (named : headers.first userIdHeader = some user)
    (nonempty : user ≠ "") (role : ∃ role ∈ required, role ∈ parseRolesHeader (headers.first rolesHeader)) (now : Number) :
    HttpService.auth.admits options mac required headers now = .ok none := by
  have guarded : Tenancy.canActivate required headers = .ok () := by
    have asked : required ≠ [] := by
      obtain ⟨first, listed, -⟩ := role
      exact List.ne_nil_of_mem listed
    simp only [Tenancy.canActivate, if_neg asked, named, filled_of_ne_empty nonempty, if_pos role]
    rfl
  rw [HttpService.admits, guarded]
  rfl

end honest

/-- HMAC-SHA256 on the texts of the sample. -/
def tableHmac : Hmac where
  digest _ text := (sampleTable.lookup text).getD (List.replicate 32 0)
  length key text := by
    cases found : sampleTable.lookup text with
    | none => rfl
    | some digest => exact sampleTable_lengths _ (mem_of_lookup found)

def sampleDeployment : Deployment where
  hmac := tableHmac
  gatewayKey := some Signatures.sampleKey
  http _ := sampleOptions
  grpc _ := sampleOptions

def signedAt : Instant := ⟨1700000000000, by norm_num⟩

def readAt : Instant := ⟨1700000000250, by norm_num⟩

def sampleVerify : JwtVerify := fun token => if token = "token" then some (samplePayload ["restaurant-owner", "admin"]) else none

def bearer : Headers := Headers.set (fun _ => none) authorizationHeader "Bearer token"

theorem bearer_verified : Verified sampleVerify bearer Signatures.sampleIdentity :=
  ⟨"token", samplePayload ["restaurant-owner", "admin"], by decide, rfl, extractIdentity_sample _⟩

def sampleForwarded : Forwarded := ⟨sampleVerify, bearer, Signatures.sampleIdentity, signedAt, bearer_verified⟩

def sampleRequest : Request where
  headers := sampleHeaders Signatures.sampleIdentity sampleSignature
  lineless := by
    refine sampleHeaders_lineless ?_ ?_ ?_ ?_ <;> (rw [Lineless]; decide)

def sampleCall (required : List String) : Call := ⟨.order, required, some (contextOf Signatures.sampleIdentity), readAt⟩

def sampleMetadata : Headers :=
  buildTenantMetadata tableHmac.digest (some Signatures.sampleKey) Signatures.sampleIdentity.tenantId signedAt.number

theorem near_sample : readAt.Near signedAt sampleSkew := by
  norm_num [Instant.Near, readAt, signedAt, sampleSkew, Double.ofNat]

theorem signIdentity_table :
    Signatures.signIdentity tableHmac.digest Signatures.sampleKey Signatures.sampleIdentity signedAt.number = sampleSignature := by
  have written : timestamp signedAt.number = "1700000000000" := timestamp_sample
  rw [Signatures.signIdentity, Signatures.canonicalString, written]
  decide +kernel

theorem admitted_sample (required : List String) (asked : required ≠ [] → ∃ role ∈ required, role ∈ (contextOf Signatures.sampleIdentity).roles) :
    HttpService.order.admits sampleOptions tableHmac.digest required sampleRequest.headers (.finite readAt.double) =
      .ok (some (contextOf Signatures.sampleIdentity)) := by
  have presents : Presents sampleRequest.headers Signatures.sampleIdentity.tenantId Signatures.sampleIdentity.sub
      (joinRoles Signatures.sampleIdentity.roles) (timestamp signedAt.number) sampleSignature := presents_sample _ _
  refine admits_of_presents presents ?_ (by decide) (by decide) (by decide) (by decide) near_sample rfl asked
  rw [signIdentity_table, Stands]

/-- An admin replays a saga and cancels an order, for which the order service
asks the inventory service. -/
def sampleState : State where
  forwarded := [sampleForwarded]
  calls := [sampleCall [], sampleCall ["admin", "platform-admin"]]
  asked := [⟨Signatures.sampleIdentity.tenantId, signedAt⟩]
  grpcCalls := [⟨.inventory, Signatures.sampleIdentity.tenantId, readAt⟩]

theorem signed_sample {s : State} (passed : sampleForwarded ∈ s.forwarded) {key tenantId sub roles tsValue signature : String}
    (keyed : sampleOptions.key = some key) (presents : Presents sampleRequest.headers tenantId sub roles tsValue signature) :
    s.Signed sampleDeployment key (canonicalString tenantId sub roles (number tsValue)) := by
  have sent : Presents sampleRequest.headers Signatures.sampleIdentity.tenantId Signatures.sampleIdentity.sub
      (joinRoles Signatures.sampleIdentity.roles) (timestamp signedAt.number) sampleSignature := presents_sample _ _
  cases Option.some.inj (sent.tenantId.symm.trans presents.tenantId)
  cases Option.some.inj (sent.sub.symm.trans presents.sub)
  cases sent.roles.symm.trans presents.roles
  cases Option.some.inj (sent.timestamp.symm.trans presents.timestamp)
  cases keyed
  rw [signedAt.number_timestamp]
  exact Or.inl ⟨sampleForwarded, passed, rfl, rfl⟩

theorem run_sample : ∃ log, Run sampleDeployment log sampleState ∧ ∀ c ∈ log, Unforged sampleDeployment c.before c.act := by
  have passed : JwtAuthGuard.canActivate sampleVerify false bearer = .ok (some Signatures.sampleIdentity) := rfl
  have replays := admitted_sample ["admin", "platform-admin"] fun _ => ⟨"admin", by decide, by decide⟩
  have cancels := admitted_sample [] fun asked => absurd rfl asked
  have served : readTenantFromMetadata sampleOptions tableHmac.digest sampleMetadata (.finite readAt.double) =
      .ok Signatures.sampleIdentity.tenantId := buildTenantMetadata_served (by decide) (by decide) near_sample
  have forward : Step sampleDeployment .start (.arrive sampleVerify false bearer signedAt) ⟨[sampleForwarded], [], [], []⟩ :=
    .forward passed
  have replay : Step sampleDeployment ⟨[sampleForwarded], [], [], []⟩ (.call .order ["admin", "platform-admin"] sampleRequest readAt)
      ⟨[sampleForwarded], [sampleCall ["admin", "platform-admin"]], [], []⟩ := .call replays
  have cancel : Step sampleDeployment ⟨[sampleForwarded], [sampleCall ["admin", "platform-admin"]], [], []⟩
      (.call .order [] sampleRequest readAt) ⟨[sampleForwarded], sampleState.calls, [], []⟩ := .call cancels
  have ask : Step sampleDeployment ⟨[sampleForwarded], sampleState.calls, [], []⟩ (.ask (sampleCall []) signedAt)
      ⟨[sampleForwarded], sampleState.calls, sampleState.asked, []⟩ :=
    .ask (List.mem_cons_self ..) rfl (rfl : (sampleCall []).context = some (contextOf Signatures.sampleIdentity))
  have serve : Step sampleDeployment ⟨[sampleForwarded], sampleState.calls, sampleState.asked, []⟩
      (.grpcCall .inventory sampleMetadata readAt) sampleState := .grpcCall served
  refine ⟨_, .commit (.commit (.commit (.commit (.commit (.start rfl) forward) replay) cancel) ask) serve, ?_⟩
  have among : sampleForwarded ∈ [sampleForwarded] := List.mem_singleton_self _
  simp only [List.forall_mem_cons, List.not_mem_nil, false_implies, implies_true, and_true]
  refine ⟨?_, trivial, ?_, ?_, trivial⟩
  · intro key tenantId tsValue signature keyed tenant timestamped _ _
    cases Option.some.inj ((buildTenantMetadata_tenantId _ _ _ (by decide)).symm.trans tenant)
    cases Option.some.inj ((buildTenantMetadata_identityTs _ _ _ (by decide)).symm.trans timestamped)
    cases keyed
    rw [signedAt.number_timestamp]
    exact Or.inr ⟨_, List.mem_singleton_self _, rfl, rfl⟩
  · intro key tenantId sub roles tsValue signature keyed presents _
    exact signed_sample among keyed presents
  · intro key tenantId sub roles tsValue signature keyed presents _
    exact signed_sample among keyed presents

end FoodDelivery.Authorization
