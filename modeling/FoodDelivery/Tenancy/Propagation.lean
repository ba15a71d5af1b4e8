import FoodDelivery.Tenancy.Identity

namespace FoodDelivery.Tenancy

theorem decimal_toString (ts : Nat) : decimal (toString ts) = some ts := by
  have digits : (toString ts).toList.all Char.isDigit := by
    rw [Nat.toString_eq_repr, Nat.toList_repr, List.all_eq_true]
    exact fun character member => Nat.isDigit_of_mem_toDigits (by decide) (by decide) member
  have nonempty : toString ts ≠ "" := Nat.repr_ne_empty
  rw [decimal, if_pos ⟨nonempty, digits⟩, Nat.toString_eq_repr, Nat.toList_repr, Nat.ofDigitChars_ten_toDigits]

/-- A role name that the flattened header carries. -/
def PlainRole (role : String) : Prop := role ≠ "" ∧ ',' ∉ role.toList ∧ trim role = role

instance (role : String) : Decidable (PlainRole role) := inferInstanceAs (Decidable (_ ∧ _ ∧ _))

theorem plainRole_iff {role : String} : PlainRole role ↔ Delimited.Plain isWhitespace ',' role.toList := by
  have same : trim role = role ↔ Delimited.trim isWhitespace role.toList = role.toList := by
    rw [trim, ← String.toList_inj, String.toList_ofList]
  constructor
  · rintro ⟨nonempty, free, trimmed⟩
    exact ⟨fun empty => nonempty (String.toList_eq_nil_iff.mp empty), free, same.mp trimmed⟩
  · intro plain
    exact ⟨fun empty => plain.nonempty (String.toList_eq_nil_iff.mpr empty), plain.free, same.mpr plain.trimmed⟩

theorem parseRolesHeader_eq_fields (text : String) :
    parseRolesHeader (some text) = (Delimited.fields isWhitespace ',' text.toList).map String.ofList := by
  by_cases empty : text = ""
  · subst empty
    rfl
  · have trims : trim ∘ String.ofList = String.ofList ∘ Delimited.trim isWhitespace := by
      funext characters
      simp only [Function.comp_apply, trim, String.toList_ofList]
    have keeps : ((fun role : String => decide (role ≠ "")) ∘ String.ofList) = fun characters => decide (characters ≠ []) := by
      funext characters
      simp only [Function.comp_apply, ne_eq, String.ofList_eq_empty_iff]
    simp only [parseRolesHeader, filled_of_ne_empty empty, Delimited.fields]
    rw [List.map_map, trims, ← List.map_map, List.filter_map, keeps]

theorem mem_parseRolesHeader {text role : String} :
    role ∈ parseRolesHeader (some text) ↔ role.toList ∈ Delimited.fields isWhitespace ',' text.toList := by
  rw [parseRolesHeader_eq_fields, List.mem_map]
  constructor
  · rintro ⟨characters, member, rfl⟩
    rwa [String.toList_ofList]
  · exact fun member => ⟨role.toList, member, String.ofList_toList⟩

theorem toList_joinRoles (roles : List String) : (joinRoles roles).toList = [','].intercalate (roles.map String.toList) := by
  rw [joinRoles, String.toList_intercalate]
  rfl

/-- The roles read from the flattened header are those of the identity exactly
when each of their names is plain. -/
theorem mem_parse_join_iff {roles : List String} :
    (∀ role, role ∈ parseRolesHeader (some (joinRoles roles)) ↔ role ∈ roles) ↔ ∀ role ∈ roles, PlainRole role := by
  have carried : (∀ role, role ∈ parseRolesHeader (some (joinRoles roles)) ↔ role ∈ roles) ↔
      ∀ field, field ∈ Delimited.fields isWhitespace ',' ([','].intercalate (roles.map String.toList)) ↔
        field ∈ roles.map String.toList := by
    simp only [mem_parseRolesHeader, toList_joinRoles]
    constructor
    · intro same field
      rw [← String.toList_ofList (l := field), same,
        List.mem_map_of_injective fun _ _ same => String.toList_injective same]
    · intro same role
      rw [same, List.mem_map_of_injective fun _ _ same => String.toList_injective same]
  rw [carried, Delimited.mem_fields_intercalate_iff]
  simp only [List.forall_mem_map, plainRole_iff]

/-- What the gateway sends for a verified identity. -/
def signedHeaders (hmac : Hmac) (key : String) (headers : Headers) (identity : VerifiedIdentity) (ts : Nat) : Headers :=
  applyTrustedIdentityHeaders headers identity (some (signIdentity hmac key)) ts

section Signed

variable (hmac : Hmac) (key : String) (headers : Headers) (identity : VerifiedIdentity) (ts : Nat)

@[simp] theorem signedHeaders_tenantId :
    (signedHeaders hmac key headers identity ts).first tenantIdHeader = some identity.tenantId :=
  applyTrustedIdentityHeaders_tenantId ..

@[simp] theorem signedHeaders_userId :
    (signedHeaders hmac key headers identity ts).first userIdHeader = some identity.sub :=
  applyTrustedIdentityHeaders_userId ..

@[simp] theorem signedHeaders_roles :
    (signedHeaders hmac key headers identity ts).first rolesHeader = some (joinRoles identity.roles) :=
  applyTrustedIdentityHeaders_roles ..

@[simp] theorem signedHeaders_identityTs :
    (signedHeaders hmac key headers identity ts).first identityTsHeader = some (toString ts) := by
  simp only [signedHeaders, applyTrustedIdentityHeaders]
  rw [Headers.first_set_other _ _ (by decide), Headers.first_set_same]

@[simp] theorem signedHeaders_identitySig :
    (signedHeaders hmac key headers identity ts).first identitySigHeader = some (signIdentity hmac key identity ts) := by
  simp only [signedHeaders, applyTrustedIdentityHeaders, Headers.first_set_same]

theorem signIdentity_ne_empty : signIdentity hmac key identity ts ≠ "" := by
  intro empty
  have digits := congrArg (fun text => (Hexadecimal.decode text.toList).length) empty
  simp only [signIdentity, String.toList_ofList, Hexadecimal.decode_encode, hmac.length] at digits
  contradiction

end Signed

/-- Within the allowed skew the service's verifier accepts what the gateway
signed under the same key. -/
theorem verify_signedHeaders (hmac : Hmac) (headers : Headers) {key : String} {identity : VerifiedIdentity}
    {verifier : IdentitySignatureVerifier} {ts now : Nat} (tenant : identity.tenantId ≠ "") (subject : identity.sub ≠ "")
    (keyed : key ≠ "") (shared : verifier.key = some key) (fresh : ((now : Int) - ts).natAbs ≤ verifier.maxSkewMs) :
    verifier.verify hmac (signedHeaders hmac key headers identity ts) now = .ok () := by
  by_cases enforced : verifier.enforced = false
  · rw [IdentitySignatureVerifier.verify, if_pos enforced]
    rfl
  · have signature := filled_of_ne_empty (signIdentity_ne_empty hmac key identity ts)
    simp only [IdentitySignatureVerifier.verify, if_neg enforced, shared, filled_of_ne_empty keyed, signedHeaders_tenantId,
      signedHeaders_userId, signedHeaders_roles, signedHeaders_identityTs, signedHeaders_identitySig,
      filled_of_ne_empty tenant, filled_of_ne_empty subject, Option.bind_some, decimal_toString, signature,
      if_neg fresh.not_gt, Option.getD_some]
    rw [if_pos (by rw [signIdentity, String.toList_ofList])]
    rfl

theorem filled_extracted {payload : JWTPayload} {identity : VerifiedIdentity}
    (extracted : extractIdentity payload = .ok identity) : identity.sub ≠ "" ∧ identity.tenantId ≠ "" := by
  rw [extractIdentity] at extracted
  split at extracted
  · cases extracted
  · rename_i sub subject
    split at extracted
    · cases extracted
    · rename_i tenantId tenant
      cases extracted
      exact ⟨(filled_eq_some subject).2, (filled_eq_some tenant).2⟩

/-- What a service makes of the headers of a request is what the token says. A
tenant that is no UUID is turned away. -/
structure Propagated (hmac : Hmac) (verifier : IdentitySignatureVerifier) (identity : VerifiedIdentity) (headers : Headers)
    (now : Nat) : Prop where
  accepted : verifier.verify hmac headers now = .ok ()
  context : isUuid identity.tenantId → ∃ context, intercept verifier hmac headers now = .ok context ∧
    context.tenantId = identity.tenantId ∧ context.actor = identity.sub ∧
    ∀ role, role ∈ context.roles ↔ role ∈ identity.roles
  refused : ¬isUuid identity.tenantId →
    intercept verifier hmac headers now = .error (.unauthorized "Missing or invalid verified tenant identity")
  admitted : ∀ required, required ≠ [] →
    (canActivate required headers = .ok () ↔ ∃ role ∈ required, role ∈ identity.roles)

section Derived

variable {hmac : Hmac} {key : String} {headers : Headers} {identity : VerifiedIdentity}
  {verifier : IdentitySignatureVerifier} {ts now : Nat}

theorem intercept_signedHeaders (subject : identity.sub ≠ "") (uuid : isUuid identity.tenantId)
    (tenant : identity.tenantId ≠ "")
    (accepted : verifier.verify hmac (signedHeaders hmac key headers identity ts) now = .ok ()) :
    intercept verifier hmac (signedHeaders hmac key headers identity ts) now =
      .ok
        { tenantId := identity.tenantId
          actor := identity.sub
          roles := parseRolesHeader (some (joinRoles identity.roles)) } := by
  simp only [intercept, signedHeaders_tenantId, signedHeaders_userId, signedHeaders_roles, filled_of_ne_empty tenant,
    filled_of_ne_empty subject, Option.filter_some, uuid, if_true, accepted, Option.getD_some]
  rfl

theorem intercept_no_uuid (uuid : ¬isUuid identity.tenantId) (tenant : identity.tenantId ≠ "") :
    intercept verifier hmac (signedHeaders hmac key headers identity ts) now =
      .error (.unauthorized "Missing or invalid verified tenant identity") := by
  simp only [intercept, signedHeaders_tenantId, filled_of_ne_empty tenant, Option.filter_some, uuid, Bool.false_eq_true,
    if_false]
  rfl

theorem canActivate_signedHeaders (subject : identity.sub ≠ "") {required : List String} (asked : required ≠ []) :
    canActivate required (signedHeaders hmac key headers identity ts) = .ok () ↔
      ∃ role ∈ required, role ∈ parseRolesHeader (some (joinRoles identity.roles)) := by
  simp only [canActivate, if_neg asked, signedHeaders_userId, signedHeaders_roles, filled_of_ne_empty subject]
  split
  · rename_i admitted
    exact ⟨fun _ => admitted, fun _ => rfl⟩
  · rename_i rejected
    exact ⟨nofun, fun admitted => absurd admitted rejected⟩

end Derived

/-- Under one key and within the allowed skew every identity of a token reaches
the service unaltered exactly when no role name is empty, holds a comma or has
white space at an end. -/
theorem identity_propagated_iff {hmac : Hmac} {key : String} {headers : Headers} {payload : JWTPayload}
    {identity : VerifiedIdentity} {verifier : IdentitySignatureVerifier} {ts now : Nat}
    (extracted : extractIdentity payload = .ok identity) (keyed : key ≠ "") (shared : verifier.key = some key)
    (fresh : ((now : Int) - ts).natAbs ≤ verifier.maxSkewMs) :
    Propagated hmac verifier identity (signedHeaders hmac key headers identity ts) now ↔
      ∀ role ∈ identity.roles, PlainRole role := by
  obtain ⟨subject, tenant⟩ := filled_extracted extracted
  have accepted := verify_signedHeaders hmac headers tenant subject keyed shared fresh
  rw [← mem_parse_join_iff]
  constructor
  · intro propagated role
    have admitted := propagated.admitted [role] (List.cons_ne_nil _ _)
    rw [canActivate_signedHeaders subject (List.cons_ne_nil _ _)] at admitted
    simpa only [List.mem_singleton, exists_eq_left] using admitted
  · intro same
    refine ⟨accepted, ?_, ?_, ?_⟩
    · intro uuid
      exact ⟨_, intercept_signedHeaders subject uuid tenant accepted, rfl, rfl, same⟩
    · exact fun uuid => intercept_no_uuid uuid tenant
    · intro required asked
      simp only [canActivate_signedHeaders subject asked, same]

def sampleKey : String := "a-test-signing-key-at-least-32-chars-long"

def sampleTenant : String := "11111111-1111-4111-8111-111111111111"

def samplePayload (roles : List String) : JWTPayload where
  sub := some "user-123"
  tenantId := some (.text sampleTenant)
  realmAccess := some (.record fun name => if name = "roles" then some (.list (roles.map .text)) else none)
  roles := none

def sampleIdentity (roles : List String) : VerifiedIdentity where
  sub := "user-123"
  tenantId := sampleTenant
  roles := roles

def sampleVerifier : IdentitySignatureVerifier where
  key := some sampleKey
  enforced := true
  maxSkewMs := defaultMaxSkewMs

theorem extractIdentity_sample (roles : List String) : extractIdentity (samplePayload roles) = .ok (sampleIdentity roles) := by
  have named : (roles.map Claim.text).filterMap Claim.text? = roles := by
    rw [List.filterMap_map]
    exact List.filterMap_some
  exact congrArg (fun named => Except.ok (sampleIdentity named)) named

/-- The digests for the sample key of the identities with the one role
`customer,admin` and with the roles `restaurant-owner` and `admin`, signed at
1700000000000. -/
def sampleHmac : Hmac where
  digest _ text :=
    if text = canonicalString sampleTenant "user-123" "customer,admin" 1700000000000 then
      [44, 16, 56, 165, 103, 57, 157, 255, 157, 226, 76, 139, 205, 94, 60, 68, 86, 6, 103, 55, 141, 207, 166, 178, 229,
        206, 116, 61, 58, 185, 252, 32]
    else
      [147, 195, 35, 227, 17, 140, 47, 70, 53, 169, 145, 81, 178, 158, 133, 173, 29, 150, 67, 75, 136, 146, 153, 190, 78,
        125, 107, 13, 232, 64, 229, 164]
  length key text := by split <;> rfl

theorem identity_propagated_of_owner_sample :
    Propagated sampleHmac sampleVerifier (sampleIdentity ["restaurant-owner", "admin"])
      (signedHeaders sampleHmac sampleKey (fun _ => none) (sampleIdentity ["restaurant-owner", "admin"]) 1700000000000)
      1700000000250 :=
  (identity_propagated_iff (extractIdentity_sample _) (by decide) rfl (by decide +kernel)).mpr (by decide)

/-- A single role named `customer,admin` arrives as two: the guard admits an
`admin` that the token does not name. -/
theorem role_gained_in_header :
    extractIdentity (samplePayload ["customer,admin"]) = .ok (sampleIdentity ["customer,admin"]) ∧
    isUuid (sampleIdentity ["customer,admin"]).tenantId ∧
    canActivate ["admin"]
      (signedHeaders sampleHmac sampleKey (fun _ => none) (sampleIdentity ["customer,admin"]) 1700000000000) = .ok () ∧
    "admin" ∉ (sampleIdentity ["customer,admin"]).roles ∧
    ¬Propagated sampleHmac sampleVerifier (sampleIdentity ["customer,admin"])
      (signedHeaders sampleHmac sampleKey (fun _ => none) (sampleIdentity ["customer,admin"]) 1700000000000)
      1700000000250 := by
  have admitted : canActivate ["admin"]
      (signedHeaders sampleHmac sampleKey (fun _ => none) (sampleIdentity ["customer,admin"]) 1700000000000) = .ok () := by
    rw [canActivate_signedHeaders (by decide) (by decide)]
    exact ⟨"admin", by decide, by decide⟩
  refine ⟨extractIdentity_sample _, by decide, admitted, by decide, ?_⟩
  intro propagated
  obtain ⟨role, asked, named⟩ := (propagated.admitted ["admin"] (by decide)).mp admitted
  cases List.mem_singleton.mp asked
  exact absurd named (by decide)

end FoodDelivery.Tenancy
