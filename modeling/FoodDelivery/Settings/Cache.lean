import Mathlib.Data.List.Basic
import Mathlib.Logic.Function.Basic
import FoodDelivery.Lib.Delimited
import FoodDelivery.Messaging.Envelope

namespace FoodDelivery.Settings

/-- A tenant's id is a UUID, which has no colon. -/
structure TenantId where
  text : Uuid
  plain : ':' ∉ text.toList
  deriving DecidableEq

def buildCacheKey (tenantId : TenantId) (key : String) : String := tenantId.text ++ ":" ++ key

structure CacheRecord (V : Type) where
  value : V
  expiresAt : Nat
  deriving DecidableEq, Repr

/-- `SettingsCache`, a map from cache keys; its clock counts milliseconds. -/
structure SettingsCache (V : Type) where
  store : String → Option (CacheRecord V)

/-- The configuration entries, or the feature flags: a tenant's own, or the global ones. -/
abbrev Entries (V : Type) := Option TenantId → String → Option V

/-- `resolveConfigValue` and `resolveFeatureFlag`. -/
def resolve {V : Type} (tenantEntry globalEntry : Option V) : Option V := tenantEntry <|> globalEntry

def Entries.resolved {V : Type} (tenantId : TenantId) (key : String) (entries : Entries V) : Option V :=
  resolve (entries (some tenantId) key) (entries none key)

def Entries.upsert {V : Type} (entries : Entries V) (tenantId : Option TenantId) (key : String) (value : V) : Entries V :=
  Function.update entries tenantId (Function.update (entries tenantId) key (some value))

structure ConfigChangeMessage where
  tenantId : Option TenantId
  key : String
  deriving DecidableEq

/-- The change may show in what the tenant's key resolves to. -/
def ConfigChangeMessage.Concerns (message : ConfigChangeMessage) (tenantId : TenantId) (key : String) : Prop :=
  message.key = key ∧ (message.tenantId = none ∨ message.tenantId = some tenantId)

namespace SettingsCache

variable {V : Type}

def empty : SettingsCache V where
  store _ := none

def delete (cache : SettingsCache V) (cacheKey : String) : SettingsCache V where
  store := Function.update cache.store cacheKey none

/-- A record that has expired is deleted when it is looked up. -/
def get (cache : SettingsCache V) (now : Nat) (cacheKey : String) : Option V × SettingsCache V :=
  match cache.store cacheKey with
  | none => (none, cache)
  | some record => if record.expiresAt ≤ now then (none, cache.delete cacheKey) else (some record.value, cache)

def set (cache : SettingsCache V) (now : Nat) (cacheKey : String) (value : V) (ttlMs : Nat) : SettingsCache V where
  store := Function.update cache.store cacheKey (some { value, expiresAt := now + ttlMs })

def evict (cache : SettingsCache V) (tenantId : TenantId) (key : String) : SettingsCache V :=
  cache.delete (buildCacheKey tenantId key)

/-- Deletes every cache key that ends with a colon and the key. -/
def evictAllForKey (cache : SettingsCache V) (key : String) : SettingsCache V where
  store cacheKey := if (":" ++ key).toList.isSuffixOf cacheKey.toList then none else cache.store cacheKey

/-- What `evictForConfigChange` does to either cache. -/
def evictFor (cache : SettingsCache V) (message : ConfigChangeMessage) : SettingsCache V :=
  match message.tenantId with
  | none => cache.evictAllForKey message.key
  | some tenantId => cache.evict tenantId message.key

end SettingsCache

def evictForConfigChange (message : ConfigChangeMessage) (valueCache : SettingsCache Int) (flagCache : SettingsCache Bool) :
    SettingsCache Int × SettingsCache Bool :=
  (valueCache.evictFor message, flagCache.evictFor message)

theorem buildCacheKey_toList (tenantId : TenantId) (key : String) :
    (buildCacheKey tenantId key).toList = tenantId.text.toList ++ ':' :: key.toList := by
  simp [buildCacheKey]

/-- No two settings share a cache key, whatever the keys hold. -/
theorem buildCacheKey_inj {tenantId tenantId' : TenantId} {key key' : String}
    (same : buildCacheKey tenantId key = buildCacheKey tenantId' key') : tenantId = tenantId' ∧ key = key' := by
  have lists := congrArg String.toList same
  rw [buildCacheKey_toList, buildCacheKey_toList] at lists
  obtain ⟨texts, keys⟩ := Delimited.append_sep_inj tenantId.plain tenantId'.plain lists
  cases tenantId
  cases tenantId'
  cases String.toList_inj.mp texts
  exact ⟨rfl, String.toList_inj.mp keys⟩

/-- A change shows only in the settings it concerns. -/
theorem Entries.resolved_upsert {V : Type} {entries : Entries V} {message : ConfigChangeMessage} {value : V}
    {tenantId : TenantId} {key : String} (other : ¬ message.Concerns tenantId key) :
    (entries.upsert message.tenantId message.key value).resolved tenantId key = entries.resolved tenantId key := by
  have untouched (owner : Option TenantId) (none : owner = none ∨ owner = some tenantId) :
      entries.upsert message.tenantId message.key value owner key = entries owner key := by
    have updates : entries.upsert message.tenantId message.key value owner =
        if owner = message.tenantId then Function.update (entries message.tenantId) message.key (some value)
        else entries owner := Function.update_apply ..
    rw [updates]
    split
    · rename_i same
      rw [← same]
      refine Function.update_of_ne (fun own => other ⟨own.symm, ?_⟩) ..
      exact same ▸ none
    · rfl
  rw [Entries.resolved, Entries.resolved, untouched _ (Or.inr rfl), untouched _ (Or.inl rfl)]

namespace SettingsCache

variable {V : Type} {cache : SettingsCache V} {record : CacheRecord V} {cacheKey : String}

theorem delete_some {deleted : String} (stored : (cache.delete deleted).store cacheKey = some record) :
    cacheKey ≠ deleted ∧ cache.store cacheKey = some record := by
  have stores : (cache.delete deleted).store cacheKey = if cacheKey = deleted then none else cache.store cacheKey :=
    Function.update_apply ..
  rw [stores] at stored
  split at stored
  · cases stored
  · rename_i other
    exact ⟨other, stored⟩

/-- A lookup adds nothing to the cache. -/
theorem get_some {now : Nat} {looked : String} (stored : (cache.get now looked).2.store cacheKey = some record) :
    cache.store cacheKey = some record := by
  unfold SettingsCache.get at stored
  split at stored
  · exact stored
  · split at stored
    · exact (delete_some stored).2
    · exact stored

theorem get_hit {now : Nat} {value : V} (hit : (cache.get now cacheKey).1 = some value) :
    ∃ record, cache.store cacheKey = some record ∧ record.value = value := by
  unfold SettingsCache.get at hit
  split at hit
  · cases hit
  · rename_i record stored
    split at hit
    · cases hit
    · exact ⟨record, stored, Option.some.inj hit⟩

theorem set_some {now ttlMs : Nat} {written : String} {value : V}
    (stored : (cache.set now written value ttlMs).store cacheKey = some record) :
    cacheKey = written ∧ record.value = value ∨ cache.store cacheKey = some record := by
  have stores : (cache.set now written value ttlMs).store cacheKey =
      if cacheKey = written then some { value, expiresAt := now + ttlMs } else cache.store cacheKey := Function.update_apply ..
  rw [stores] at stored
  split at stored
  · rename_i same
    cases stored
    exact Or.inl ⟨same, rfl⟩
  · exact Or.inr stored

theorem get_set {now ttlMs : Nat} {value : V} (lasts : 0 < ttlMs) :
    ((cache.set now cacheKey value ttlMs).get now cacheKey).1 = some value := by
  have live : ¬ now + ttlMs ≤ now := by omega
  simp [SettingsCache.get, SettingsCache.set, live]

/-- An eviction spares only settings that the change does not concern. -/
theorem evictFor_some {message : ConfigChangeMessage} {tenantId : TenantId} {key : String}
    (stored : (cache.evictFor message).store (buildCacheKey tenantId key) = some record) :
    ¬ message.Concerns tenantId key ∧ cache.store (buildCacheKey tenantId key) = some record := by
  unfold SettingsCache.evictFor at stored
  split at stored
  · simp only [SettingsCache.evictAllForKey] at stored
    split at stored
    · cases stored
    · rename_i spared
      refine ⟨?_, stored⟩
      rintro ⟨rfl, -⟩
      apply spared
      rw [List.isSuffixOf_iff_suffix, buildCacheKey_toList, String.toList_append]
      exact List.suffix_append ..
  · rename_i changed owned
    obtain ⟨other, stored⟩ := delete_some stored
    refine ⟨?_, stored⟩
    rintro ⟨rfl, none | own⟩
    · cases owned.symm.trans none
    · cases owned.symm.trans own
      exact other rfl

end SettingsCache

end FoodDelivery.Settings
