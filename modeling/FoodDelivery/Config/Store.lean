import Mathlib.Algebra.Ring.Nat
import FoodDelivery.Lib.UniqueIndex
import FoodDelivery.Settings.Cache
import FoodDelivery.Tenancy.Identity

namespace FoodDelivery.Config

open Tenancy

inductive ConfigError
  | invalid (message : String)
  | notFound (message : String)
  | globalWriteRequiresPlatformAdmin
  | duplicateKey
  | unavailable
  deriving DecidableEq, Repr

def ConfigError.httpStatus : ConfigError → Nat
  | .notFound _ => 404
  | .globalWriteRequiresPlatformAdmin => 403
  | _ => 500

def maxKeyLength : Nat := 255
def minValue : Nat := 0
def maxValue : Nat := 9007199254740991

/-- `key.length`: a character beyond the basic plane counts twice. -/
def textLength (text : String) : Nat := (text.toList.map fun c => if c.toNat < 0x10000 then 1 else 2).sum

/-- What sets the values apart from the flags: how they are called, which
inputs are valid and what a missing one is answered with. -/
structure Setting (In V : Type) where
  label : String
  assertValid : In → Except ConfigError V
  missing : String → String

def assertValidValue (value : Rat) : Except ConfigError Nat :=
  if value.den ≠ 1 then throw (.invalid "Config value must be an integer")
  else if value < minValue ∨ maxValue < value then
    throw (.invalid s!"Config value must be between {minValue} and {maxValue}")
  else pure value.num.toNat

def configValue : Setting Rat Nat where
  label := "Config"
  assertValid := assertValidValue
  missing key := s!"No config value set for key \"{key}\""

def featureFlag : Setting Bool Bool where
  label := "Feature flag"
  assertValid := pure
  missing key := s!"No feature flag set for key \"{key}\""

/-- `ConfigEntry` and `FeatureFlag`; their keys were trimmed and found not
empty when they were created. -/
structure ConfigEntry (V : Type) where
  id : Uuid
  tenantId : Option Uuid
  key : String
  value : V
  trimmed : trim key = key
  named : key ≠ ""

variable {In V : Type}

def ConfigEntry.create (setting : Setting In V) (id : Uuid) (tenantId : Option Uuid) (key : String) (value : In) :
    Except ConfigError (ConfigEntry V) :=
  if named : trim key = "" then throw (.invalid s!"{setting.label} key is required")
  else if maxKeyLength < textLength (trim key) then
    throw (.invalid s!"{setting.label} key must be at most {maxKeyLength} characters")
  else
    match setting.assertValid value with
    | .ok value => pure { id, tenantId, key := trim key, value, trimmed := trim_trim key, named }
    | .error error => throw error

def ConfigEntry.withValue (setting : Setting In V) (entry : ConfigEntry V) (value : In) : Except ConfigError (ConfigEntry V) :=
  match setting.assertValid value with
  | .ok value => pure { entry with value }
  | .error error => throw error

/-- Where an entry applies: to one tenant or to all, under a key. -/
abbrev Slot := Option Uuid × String

def ConfigEntry.slot (entry : ConfigEntry V) : Slot := (entry.tenantId, entry.key)

/-- The two partial indexes are one on the tenant, if any, and the key. -/
abbrev ConfigRows (V : Type) := IndexedRows (fun entry : ConfigEntry V => entry.id) ConfigEntry.slot

def findTenantEntry (rows : ConfigRows V) (tenantId : Uuid) (key : String) : Option (ConfigEntry V) :=
  rows.find (some tenantId, key)

def findGlobalEntry (rows : ConfigRows V) (key : String) : Option (ConfigEntry V) := rows.find (none, key)

def findAllForTenant (rows : ConfigRows V) (tenantId : Uuid) : List (ConfigEntry V) :=
  rows.rows.filter fun entry => entry.tenantId = some tenantId ∨ entry.tenantId = none

/-- `GetConfigValueHandler` and `GetFeatureFlagHandler`. -/
def getEntry (setting : Setting In V) (rows : ConfigRows V) (tenantId : Uuid) (key : String) : Except ConfigError V :=
  match Settings.resolve (findTenantEntry rows tenantId key) (findGlobalEntry rows key) with
  | some entry => pure entry.value
  | none => throw (.notFound (setting.missing key))

theorem getEntry_ok {setting : Setting In V} {rows : ConfigRows V} {tenantId : Uuid} {key : String} {value : V} :
    getEntry setting rows tenantId key = .ok value ↔
      ∃ entry, Settings.resolve (rows.find (some tenantId, key)) (rows.find (none, key)) = some entry ∧ entry.value = value := by
  unfold getEntry findTenantEntry findGlobalEntry
  cases Settings.resolve (rows.find (some tenantId, key)) (rows.find (none, key)) with
  | none => exact iff_of_false (fun absurd => nomatch absurd) (fun ⟨_, absurd, _⟩ => nomatch absurd)
  | some entry =>
    constructor
    · intro run
      cases run
      exact ⟨entry, rfl, rfl⟩
    · rintro ⟨other, same, rfl⟩
      cases same
      rfl

/-- Whatever is resolved stands under the key, the tenant's own or for all. -/
theorem resolve_entry {rows : ConfigRows V} {tenantId : Uuid} {key : String} {entry : ConfigEntry V}
    (resolved : Settings.resolve (rows.find (some tenantId, key)) (rows.find (none, key)) = some entry) :
    entry ∈ rows.rows ∧ entry.key = key := by
  have under {tenantId : Option Uuid} (found : rows.find (tenantId, key) = some entry) : entry ∈ rows.rows ∧ entry.key = key := by
    obtain ⟨member, slot⟩ := IndexedRows.find_eq_some.mp found
    exact ⟨member, (Prod.mk.inj slot).2⟩
  cases own : rows.find (some tenantId, key) with
  | none =>
    rw [own] at resolved
    exact under resolved
  | some entry' =>
    rw [own] at resolved
    cases resolved
    exact under own

inductive Scope
  | tenant
  | global
  deriving DecidableEq, Repr

structure ConfigValueListItem (V : Type) where
  key : String
  value : V
  scope : Scope
  deriving DecidableEq, Repr

def ConfigEntry.listItem (entry : ConfigEntry V) : ConfigValueListItem V where
  key := entry.key
  value := entry.value
  scope := if entry.tenantId = none then .global else .tenant

/-- `byKey.set` on the items of a map, in the order their keys were first set. -/
def setItem (items : List (ConfigValueListItem V)) (item : ConfigValueListItem V) : List (ConfigValueListItem V) :=
  if ∃ other ∈ items, other.key = item.key then items.map fun other => if other.key = item.key then item else other
  else items ++ [item]

def mergeEntry (items : List (ConfigValueListItem V)) (entry : ConfigEntry V) : List (ConfigValueListItem V) :=
  if (∀ other ∈ items, other.key ≠ entry.key) ∨ entry.listItem.scope = .tenant then setItem items entry.listItem else items

/-- `ListConfigValuesHandler`, where `le` is the order of `localeCompare`. -/
def listEntries (le : String → String → Bool) (rows : ConfigRows V) (tenantId : Uuid) : List (ConfigValueListItem V) :=
  ((findAllForTenant rows tenantId).foldl mergeEntry []).mergeSort fun a b => le a.key b.key

def platformAdminRole : String := "platform-admin"

structure UpsertCommand (In : Type) where
  key : String
  value : In
  global : Bool

def UpsertCommand.targetTenantId (command : UpsertCommand In) (context : TenantRequestContext) : Option Uuid :=
  if command.global then none else some context.tenantId

/-- Only the platform's administrators write what is for all tenants. -/
def UpsertCommand.Permitted (command : UpsertCommand In) (context : TenantRequestContext) : Prop :=
  command.global → platformAdminRole ∈ context.roles

instance (command : UpsertCommand In) (context : TenantRequestContext) : Decidable (command.Permitted context) :=
  inferInstanceAs (Decidable (_ → _))

/-- A call of `UpsertConfigValueHandler` or `UpsertFeatureFlagHandler` after its
lookup; whether that found an entry is kept for the statements only. -/
inductive UpsertCall (V : Type)
  | idle
  | saving (key : String) (found : Bool) (entry : ConfigEntry V)
  | returned (value : V)
  | failed (error : ConfigError)

/-- The entries and the calls. What was last returned for a slot, under the key
of the command, is kept for the statements only. -/
structure ConfigStore (V : Type) where
  rows : ConfigRows V
  calls : Nat → UpsertCall V
  ids : List Uuid
  answers : Slot → Option V

inductive Action (In : Type)
  | upsert (call : Nat) (context : TenantRequestContext) (command : UpsertCommand In) (id : Uuid)
  | save (call : Nat)
  | abandon (call : Nat)

def Action.call : Action In → Nat
  | .upsert call .. => call
  | .save call => call
  | .abandon call => call

namespace ConfigStore

variable (setting : Setting In V) (s : ConfigStore V)

def empty : ConfigStore V where
  rows := .empty
  calls _ := .idle
  ids := []
  answers _ := none

def setCall (call : Nat) (stage : UpsertCall V) : ConfigStore V :=
  { s with calls := Function.update s.calls call stage }

/-- The handler up to the entry that it saves. -/
def prepare (context : TenantRequestContext) (command : UpsertCommand In) (id : Uuid) : UpsertCall V :=
  if ¬command.Permitted context then .failed .globalWriteRequiresPlatformAdmin
  else
    match s.rows.find (command.targetTenantId context, command.key) with
    | some existing =>
      match existing.withValue setting command.value with
      | .ok entry => .saving command.key true entry
      | .error error => .failed error
    | none =>
      match ConfigEntry.create setting id (command.targetTenantId context) command.key command.value with
      | .ok entry => .saving command.key false entry
      | .error error => .failed error

/-- `upsert` of the repository, with the value that the handler returns. -/
def save (call : Nat) (key : String) (entry : ConfigEntry V) : ConfigStore V :=
  match s.rows.save entry with
  | some rows =>
    { s with
      rows
      calls := Function.update s.calls call (.returned entry.value)
      answers := Function.update s.answers (entry.tenantId, key) (some entry.value) }
  | none => s.setCall call (.failed .duplicateKey)

/-- Identifiers are generated afresh; a call may fail at any time until it has saved. -/
def step : Action In → Option (ConfigStore V)
  | .upsert call context command id =>
    match s.calls call with
    | .idle =>
      if id ∈ s.ids then none
      else some { s.setCall call (s.prepare setting context command id) with ids := id :: s.ids }
    | _ => none
  | .save call =>
    match s.calls call with
    | .saving key _ entry => some (s.save call key entry)
    | _ => none
  | .abandon call =>
    match s.calls call with
    | .returned _ => none
    | _ => some (s.setCall call (.failed .unavailable))

end ConfigStore

end FoodDelivery.Config
