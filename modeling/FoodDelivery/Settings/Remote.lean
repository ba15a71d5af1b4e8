import FoodDelivery.Config.Store
import FoodDelivery.Settings.Address
import FoodDelivery.Tenancy.Propagation

namespace FoodDelivery.Settings

open Tenancy Config

inductive Body
  | list (items : List (ConfigValueListItem Nat))
  | value (key : String) (value : Nat)
  | flag (key : String) (enabled : Bool)

inductive Response
  | ok (body : Body)
  | failed (status : Nat)

/-- The config service with its entries and flags; `localeCompare` is an order
of its platform. -/
structure ConfigService where
  hmac : Hmac
  verifier : IdentitySignatureVerifier
  values : ConfigRows Nat
  flags : ConfigRows Bool
  localeCompare : String → String → Bool

def Response.of {V : Type} (result : Except ConfigError V) (body : V → Body) : Response :=
  match result with
  | .ok value => .ok (body value)
  | .error error => .failed error.httpStatus

/-- The controller's method for a route, whose key is decoded. -/
def ConfigService.handle (service : ConfigService) (tenantId : String) : Route → Response
  | .findAll => .ok (.list (listEntries service.localeCompare service.values tenantId))
  | .findFlag key => .of (getEntry featureFlag service.flags tenantId key) (.flag key)
  | .findOne key => .of (getEntry configValue service.values tenantId key) (.value key)

def Route.decoded : Route → Option Route
  | .findAll => some .findAll
  | .findFlag key => (decodeURIComponent key).map .findFlag
  | .findOne key => (decodeURIComponent key).map .findOne

/-- A GET request; no route asks for a role. -/
def ConfigService.get (service : ConfigService) (url : ConfigServiceUrl) (text : String) (headers : Headers) (now : Nat) :
    Response :=
  match requestRoute url text with
  | none => .failed 404
  | some route =>
    match route.decoded with
    | none => .failed 400
    | some route =>
      match intercept service.verifier service.hmac headers now with
      | .error _ => .failed 401
      | .ok context => service.handle context.tenantId route

def systemActor : String := "settings-client"

def identityHeaders (tenantId : String) : Headers :=
  ((Headers.set (fun _ => none) tenantIdHeader tenantId).set userIdHeader systemActor).set rolesHeader ""

/-- `requestJsonWithTimeout`: nothing for a 404. -/
def Response.body : Response → Except String (Option Body)
  | .ok body => pure (some body)
  | .failed status => if status = 404 then pure none else throw s!"config service returned {status}"

def readValue (key : String) (response : Response) : Except String (Option Nat) :=
  match response.body with
  | .error error => throw error
  | .ok none => pure none
  | .ok (some (.value _ value)) => pure (some value)
  | .ok (some _) => throw s!"config service returned a non-numeric value for \"{key}\""

def readFlag (key : String) (response : Response) : Except String (Option Bool) :=
  match response.body with
  | .error error => throw error
  | .ok none => pure none
  | .ok (some (.flag _ enabled)) => pure (some enabled)
  | .ok (some _) => throw s!"config service returned a non-boolean flag for \"{key}\""

def fetchValue (service : ConfigService) (url : ConfigServiceUrl) (key tenantId : String) (now : Nat) :
    Except String (Option Nat) :=
  readValue key (service.get url (valueUrl url key) (identityHeaders tenantId) now)

def fetchFlag (service : ConfigService) (url : ConfigServiceUrl) (key tenantId : String) (now : Nat) :
    Except String (Option Bool) :=
  readFlag key (service.get url (flagUrl url key) (identityHeaders tenantId) now)

theorem readValue_some {key : String} {response : Response} {value : Nat} :
    readValue key response = .ok (some value) ↔ ∃ name, response = .ok (.value name value) := by
  constructor
  · intro read
    cases response with
    | ok body =>
      cases body with
      | value name stored =>
        cases read
        exact ⟨name, rfl⟩
      | _ => cases read
    | failed status =>
      by_cases missing : status = 404
      · subst missing
        cases read
      · simp only [readValue, Response.body, if_neg missing] at read
        cases read
  · rintro ⟨name, rfl⟩
    rfl

theorem readFlag_some {key : String} {response : Response} {value : Bool} :
    readFlag key response = .ok (some value) ↔ ∃ name, response = .ok (.flag name value) := by
  constructor
  · intro read
    cases response with
    | ok body =>
      cases body with
      | flag name stored =>
        cases read
        exact ⟨name, rfl⟩
      | _ => cases read
    | failed status =>
      by_cases missing : status = 404
      · subst missing
        cases read
      · simp only [readFlag, Response.body, if_neg missing] at read
        cases read
  · rintro ⟨name, rfl⟩
    rfl

/-- What `getInt` and `isEnabled` return: what is cached, else what is fetched,
else the caller's default. -/
def settingOf {V : Type} (cache : SettingsCache V) (now : Nat) (tenantId : TenantId) (key : String)
    (fetched : Except String (Option V)) (defaultValue : V) : V :=
  match (cache.get now (buildCacheKey tenantId key)).1 with
  | some cached => cached
  | none =>
    match fetched with
    | .ok (some value) => value
    | _ => defaultValue

/-- The client's caches and the service that it asks. -/
structure RemoteSettings where
  url : ConfigServiceUrl
  service : ConfigService
  valueCache : SettingsCache Nat
  flagCache : SettingsCache Bool

def RemoteSettings.getInt (settings : RemoteSettings) (now : Nat) (key : String) (tenantId : TenantId) (defaultValue : Nat) : Nat :=
  settingOf settings.valueCache now tenantId key (fetchValue settings.service settings.url key tenantId.text now) defaultValue

def RemoteSettings.isEnabled (settings : RemoteSettings) (now : Nat) (key : String) (tenantId : TenantId)
    (defaultValue : Bool) : Bool :=
  settingOf settings.flagCache now tenantId key (fetchFlag settings.service settings.url key tenantId.text now) defaultValue

section identity

variable {tenantId : String}

theorem identityHeaders_tenantId : (identityHeaders tenantId).first tenantIdHeader = some tenantId := by
  rw [identityHeaders, Headers.first_set_other _ _ (by decide), Headers.first_set_other _ _ (by decide), Headers.first_set_same]

/-- The client signs nothing: it is let in exactly where no signature is asked for. -/
theorem intercept_identityHeaders (verifier : IdentitySignatureVerifier) (hmac : Hmac) (now : Nat) (uuid : isUuid tenantId) :
    (∃ message, intercept verifier hmac (identityHeaders tenantId) now = .error (.unauthorized message)) ∧
        verifier.enforced = true ∨
      (∃ context, intercept verifier hmac (identityHeaders tenantId) now = .ok context ∧ context.tenantId = tenantId) ∧
        verifier.enforced = false := by
  have named : tenantId ≠ "" := by
    rintro rfl
    cases uuid
  have tenant : (filled ((identityHeaders tenantId).first tenantIdHeader)).filter isUuid = some tenantId := by
    rw [identityHeaders_tenantId, filled_of_ne_empty named, Option.filter_some, if_pos uuid]
  by_cases enforced : verifier.enforced = false
  · refine Or.inr ⟨?_, enforced⟩
    rw [intercept, tenant]
    simp only [IdentitySignatureVerifier.verify, if_pos enforced]
    exact ⟨_, rfl, rfl⟩
  · have unsigned : ∃ reason, verifier.verify hmac (identityHeaders tenantId) now = .error reason := by
      have noTimestamp : (identityHeaders tenantId).first identityTsHeader = none := by
        rw [identityHeaders, Headers.first_set_other _ _ (by decide), Headers.first_set_other _ _ (by decide),
          Headers.first_set_other _ _ (by decide)]
        rfl
      simp only [IdentitySignatureVerifier.verify, if_neg enforced, noTimestamp, Option.bind_none]
      split
      · exact ⟨_, rfl⟩
      · split
        · exact ⟨_, rfl⟩
        · exact ⟨_, rfl⟩
    obtain ⟨reason, rejected⟩ := unsigned
    refine Or.inl ⟨?_, eq_true_of_ne_false enforced⟩
    rw [intercept, tenant]
    simp only [rejected]
    exact ⟨_, rfl⟩

end identity

section fetched

variable {service : ConfigService} {url : ConfigServiceUrl} {key tenantId : String} {now : Nat}

/-- A GET of the client: refused where signatures are asked for, and else what
the controller answers. -/
theorem ConfigService.get_identityHeaders (uuid : isUuid tenantId) (text : String) :
    service.get url text (identityHeaders tenantId) now =
      match (requestRoute url text).map Route.decoded with
      | none => .failed 404
      | some none => .failed 400
      | some (some route) => if service.verifier.enforced then .failed 401 else service.handle tenantId route := by
  unfold ConfigService.get
  cases requestRoute url text with
  | none => rfl
  | some route =>
    cases decoded : route.decoded with
    | none => simp [decoded]
    | some route =>
      simp only [Option.map_some, decoded]
      rcases intercept_identityHeaders service.verifier service.hmac now uuid with
        ⟨⟨message, rejected⟩, enforced⟩ | ⟨⟨context, accepted, tenant⟩, enforced⟩
      · simp only [rejected, enforced, if_true]
      · simp only [accepted, enforced, tenant, Bool.false_eq_true, if_false]

/-- The client gets the value where it is let in and the URL addresses the key,
and nothing anywhere else. -/
theorem fetchValue_cases (uuid : isUuid tenantId) (named : key ≠ "") {value : Nat}
    (stored : getEntry configValue service.values tenantId key = .ok value) :
    (service.verifier.enforced = false ∧ key ≠ "." ∧ key ≠ "..") ∧
        fetchValue service url key tenantId now = .ok (some value) ∨
      ¬(service.verifier.enforced = false ∧ key ≠ "." ∧ key ≠ "..") ∧
        ∀ other, fetchValue service url key tenantId now ≠ .ok (some other) := by
  simp only [fetchValue, ne_eq, readValue_some]
  rw [ConfigService.get_identityHeaders uuid, requestRoute_valueUrl url named]
  by_cases back : key = ".."
  · rw [if_pos back]
    exact Or.inr ⟨fun ⟨_, _, other⟩ => other back, fun _ => nofun⟩
  by_cases here : key = "."
  · rw [if_neg back, if_pos here]
    refine Or.inr ⟨fun ⟨_, other, _⟩ => other here, fun value => ?_⟩
    simp only [Option.map_some, Route.decoded, ConfigService.handle]
    split <;> nofun
  rw [if_neg back, if_neg here]
  simp only [Option.map_some, Route.decoded, decodeURIComponent_encodeURIComponent, ConfigService.handle, stored]
  cases service.verifier.enforced with
  | false => exact Or.inl ⟨⟨rfl, here, back⟩, key, rfl⟩
  | true => exact Or.inr ⟨fun ⟨absurd, _⟩ => Bool.noConfusion absurd, fun _ => nofun⟩

theorem fetchFlag_cases (uuid : isUuid tenantId) (named : key ≠ "") {enabled : Bool}
    (stored : getEntry featureFlag service.flags tenantId key = .ok enabled) :
    (service.verifier.enforced = false ∧ key ≠ "." ∧ key ≠ "..") ∧
        fetchFlag service url key tenantId now = .ok (some enabled) ∨
      ¬(service.verifier.enforced = false ∧ key ≠ "." ∧ key ≠ "..") ∧
        ∀ other, fetchFlag service url key tenantId now ≠ .ok (some other) := by
  simp only [fetchFlag, ne_eq, readFlag_some]
  rw [ConfigService.get_identityHeaders uuid, requestRoute_flagUrl url named]
  by_cases back : key = ".."
  · rw [if_pos back]
    refine Or.inr ⟨fun ⟨_, _, other⟩ => other back, fun enabled => ?_⟩
    simp only [Option.map_some, Route.decoded, ConfigService.handle]
    split <;> nofun
  by_cases here : key = "."
  · rw [if_neg back, if_pos here]
    refine Or.inr ⟨fun ⟨_, other, _⟩ => other here, fun enabled => ?_⟩
    have flags : decodeURIComponent "flags" = some "flags" := by decide +kernel
    simp only [Option.map_some, Route.decoded, flags, ConfigService.handle, Response.of]
    split
    · nofun
    · split <;> nofun
  rw [if_neg back, if_neg here]
  simp only [Option.map_some, Route.decoded, decodeURIComponent_encodeURIComponent, ConfigService.handle, stored]
  cases service.verifier.enforced with
  | false => exact Or.inl ⟨⟨rfl, here, back⟩, key, rfl⟩
  | true => exact Or.inr ⟨fun ⟨absurd, _⟩ => Bool.noConfusion absurd, fun _ => nofun⟩

end fetched

theorem getEntry_named {In V : Type} {setting : Setting In V} {rows : ConfigRows V} {tenantId key : String} {value : V}
    (stored : getEntry setting rows tenantId key = .ok value) : key ≠ "" := by
  obtain ⟨entry, resolved, -⟩ := getEntry_ok.mp stored
  exact (resolve_entry resolved).2 ▸ entry.named

/-- With nothing cached a setting is what was fetched, or the default. -/
theorem settingOf_empty_iff {V : Type} [Nontrivial V] {now : Nat} {tenantId : TenantId} {key : String}
    {fetched : Except String (Option V)} {value : V} {condition : Prop}
    (cases : condition ∧ fetched = .ok (some value) ∨ ¬condition ∧ ∀ other, fetched ≠ .ok (some other)) :
    (∀ defaultValue, settingOf .empty now tenantId key fetched defaultValue = value) ↔ condition := by
  rcases cases with ⟨holds, rfl⟩ | ⟨fails, nothing⟩
  · exact iff_of_true (fun _ => rfl) holds
  · refine iff_of_false (fun all => ?_) fails
    obtain ⟨other, different⟩ := exists_ne value
    have returned : settingOf .empty now tenantId key fetched other = other := by
      match fetched, nothing with
      | .ok none, _ => rfl
      | .ok (some fetched), nothing => exact absurd rfl (nothing fetched)
      | .error _, _ => rfl
    exact different (returned.symm.trans (all other))

/-- A client without anything cached returns what is configured for its tenant,
whatever its default, exactly where signatures go unchecked and the key is no
dot segment. -/
theorem RemoteSettings.configured_seen_iff {settings : RemoteSettings} {env : IdentityEnforcementEnv}
    {warning : Option String} {tenantId : TenantId}
    (deployed : resolveIdentityEnforcement env = .ok (settings.service.verifier, warning)) (uuid : isUuid tenantId.text)
    (values : settings.valueCache = .empty) (flags : settings.flagCache = .empty) (now : Nat) (key : String) :
    (∀ value, getEntry configValue settings.service.values tenantId.text key = .ok value →
      ((∀ defaultValue, settings.getInt now key tenantId defaultValue = value) ↔ env.Unenforced ∧ key ≠ "." ∧ key ≠ "..")) ∧
    ∀ enabled, getEntry featureFlag settings.service.flags tenantId.text key = .ok enabled →
      ((∀ defaultValue, settings.isEnabled now key tenantId defaultValue = enabled) ↔
        env.Unenforced ∧ key ≠ "." ∧ key ≠ "..") := by
  rw [← resolveIdentityEnforcement_enforced deployed]
  constructor
  · intro value stored
    simp only [getInt, values]
    exact settingOf_empty_iff (fetchValue_cases uuid (getEntry_named stored) stored)
  · intro enabled stored
    simp only [isEnabled, flags]
    exact settingOf_empty_iff (fetchFlag_cases uuid (getEntry_named stored) stored)

def sampleEntry : ConfigEntry Nat where
  id := "entry-1"
  tenantId := none
  key := "order.delivery_fee_cents"
  value := 990
  trimmed := by decide
  named := by decide

/-- One global value is configured. -/
def sampleService (verifier : IdentitySignatureVerifier) : ConfigService where
  hmac := sampleHmac
  verifier := verifier
  values := { rows := [sampleEntry], ids := List.nodup_singleton _, unique := List.nodup_singleton _ }
  flags := .empty
  localeCompare a b := a ≤ b

def sampleSettings (verifier : IdentitySignatureVerifier) : RemoteSettings where
  url := { origin := "http://localhost:3008", plain := by decide, slash := false }
  service := sampleService verifier
  valueCache := .empty
  flagCache := .empty

def sampleTenantId : TenantId where
  text := sampleTenant
  plain := by decide

def unsignedVerifier : IdentitySignatureVerifier where
  key := none
  enforced := false
  maxSkewMs := defaultMaxSkewMs

theorem configured_seen_of_unsigned_sample :
    (sampleSettings unsignedVerifier).getInt 1000 "order.delivery_fee_cents" sampleTenantId 1500 = 990 := by
  have deployed : resolveIdentityEnforcement ⟨some "development", none, none⟩ =
      .ok (unsignedVerifier, some unsetKeyMessage) := rfl
  have seen := @RemoteSettings.configured_seen_iff (sampleSettings unsignedVerifier) _ _ sampleTenantId deployed (by decide)
    rfl rfl 1000 "order.delivery_fee_cents"
  exact (seen.1 990 rfl).mpr ⟨Or.inr rfl, by decide, by decide⟩ 1500

/-- With a signing key the client is turned away and prices with its default. -/
theorem default_under_signing_key :
    resolveIdentityEnforcement ⟨some "production", some sampleKey, none⟩ = .ok (sampleVerifier, none) ∧
    getEntry configValue (sampleSettings sampleVerifier).service.values sampleTenant "order.delivery_fee_cents" = .ok 990 ∧
    (sampleSettings sampleVerifier).getInt 1000 "order.delivery_fee_cents" sampleTenantId 1500 = 1500 := by
  refine ⟨rfl, rfl, ?_⟩
  decide +kernel

end FoodDelivery.Settings
