import FoodDelivery.Lib.History
import FoodDelivery.Lib.Keyspace
import FoodDelivery.Settings.Cache

namespace FoodDelivery.Delivery

open CommitLog Settings

abbrev Redis := Keyspace String String

def assignHashKey (tenantId : TenantId) : String := "assign:" ++ tenantId.text

def busyKey (tenantId : TenantId) : String := "assign:" ++ tenantId.text ++ ":busy"

def driverOrdersPrefix (tenantId : TenantId) : String := "assign:" ++ tenantId.text ++ ":driver:"

/-- The names that are given to the scripts as `KEYS` and `ARGV[2]`. -/
structure ScriptKeys where
  assigned : String
  busy : String
  driverOrders : String
  apart : ∀ driver, busy ≠ driverOrders ++ driver

theorem driverOrdersPrefix_toList (tenantId : TenantId) (driver : String) :
    (driverOrdersPrefix tenantId ++ driver).toList =
      "assign:".toList ++ (tenantId.text.toList ++ ':' :: ("driver:".toList ++ driver.toList)) := by
  simp [driverOrdersPrefix]

theorem busyKey_toList (tenantId : TenantId) :
    (busyKey tenantId).toList = "assign:".toList ++ (tenantId.text.toList ++ ':' :: "busy".toList) := by
  simp [busyKey]

theorem busyKey_ne_driverOrders (tenantId tenantId' : TenantId) (driver : String) :
    busyKey tenantId ≠ driverOrdersPrefix tenantId' ++ driver := by
  intro same
  have lists := congrArg String.toList same
  rw [busyKey_toList, driverOrdersPrefix_toList, List.append_right_inj] at lists
  obtain ⟨_, rest⟩ := Delimited.append_sep_inj tenantId.plain tenantId'.plain lists
  simp at rest

/-- No key is asked for as a hash and as a set. -/
theorem assignHashKey_ne_sets (tenantId tenantId' : TenantId) (driver : String) :
    assignHashKey tenantId ≠ busyKey tenantId' ∧ assignHashKey tenantId ≠ driverOrdersPrefix tenantId' ++ driver := by
  have colon (rest : List Char) :
      (assignHashKey tenantId).toList ≠ "assign:".toList ++ (tenantId'.text.toList ++ ':' :: rest) := by
    intro same
    rw [assignHashKey, String.toList_append, List.append_right_inj] at same
    exact tenantId.plain (by simp [same])
  constructor
  · intro same
    exact colon _ ((congrArg String.toList same).trans (busyKey_toList tenantId'))
  · intro same
    exact colon _ ((congrArg String.toList same).trans (driverOrdersPrefix_toList tenantId' driver))

def scriptKeys (tenantId : TenantId) : ScriptKeys where
  assigned := assignHashKey tenantId
  busy := busyKey tenantId
  driverOrders := driverOrdersPrefix tenantId
  apart := busyKey_ne_driverOrders tenantId tenantId

namespace ScriptKeys

variable (keys : ScriptKeys) (orderId : String)

/-- The three writes of a claim. -/
def bind (driver : String) (redis : Redis) : Redis :=
  ((redis.hset keys.assigned orderId driver).sadd keys.busy driver).sadd (keys.driverOrders ++ driver) orderId

def claimLoop (redis : Redis) : List String → Option (String × String) × Redis
  | [] => (none, redis)
  | driver :: rest =>
    if redis.sismember keys.busy driver = false then (some (driver, "1"), keys.bind orderId driver redis)
    else claimLoop redis rest

/-- CLAIM_FIRST_FREE. -/
def claimFirstFree (drivers : List String) (redis : Redis) : Option (String × String) × Redis :=
  match redis.hget keys.assigned orderId with
  | some incumbent => (some (incumbent, "0"), redis)
  | none => keys.claimLoop orderId redis drivers

/-- RELEASE_ORDER after the driver was found. -/
def unbind (driver : String) (redis : Redis) : Redis :=
  let released := (redis.hdel keys.assigned orderId).srem (keys.driverOrders ++ driver) orderId
  if released.scard (keys.driverOrders ++ driver) = 0 then released.srem keys.busy driver else released

/-- RELEASE_ORDER. -/
def releaseOrder (redis : Redis) : Nat × Redis :=
  match redis.hget keys.assigned orderId with
  | none => (0, redis)
  | some driver => (1, keys.unbind orderId driver redis)

end ScriptKeys

structure Assignment where
  orderId : String
  driverId : String
  deriving DecidableEq, Repr

structure AssignmentClaim where
  assignment : Assignment
  created : Bool
  deriving DecidableEq, Repr

namespace RedisAssignmentStore

variable (tenantId : TenantId) (orderId : String)

def assign (candidateDriverIdsNearestFirst : List String) (redis : Redis) : Option AssignmentClaim × Redis :=
  let (result, redis) := (scriptKeys tenantId).claimFirstFree orderId candidateDriverIdsNearestFirst redis
  (result.map fun reply => { assignment := { orderId, driverId := reply.1 }, created := reply.2 == "1" }, redis)

def unassign (redis : Redis) : Redis := ((scriptKeys tenantId).releaseOrder orderId redis).2

def get (redis : Redis) : Option Assignment :=
  (redis.hget (assignHashKey tenantId) orderId).map fun driverId => { orderId, driverId }

end RedisAssignmentStore

/-- The hash, the order sets and the busy set tell the same: no driver serves
two orders, a driver's set holds the orders that the hash maps to the driver,
and the busy drivers are those whose set is not empty. -/
structure Consistent (keys : ScriptKeys) (redis : Redis) : Prop where
  oneOrder : ∀ orderId orderId' driver, redis.hash keys.assigned orderId = some driver →
    redis.hash keys.assigned orderId' = some driver → orderId = orderId'
  orders : ∀ orderId driver, orderId ∈ redis.set (keys.driverOrders ++ driver) ↔
    redis.hash keys.assigned orderId = some driver
  busy : ∀ driver, driver ∈ redis.set keys.busy ↔ (redis.set (keys.driverOrders ++ driver)).Nonempty

namespace ScriptKeys

variable (keys : ScriptKeys) {orderId driver : String} {redis : Redis}

theorem claimLoop_eq (drivers : List String) :
    keys.claimLoop orderId redis drivers =
      match drivers.find? (· ∉ redis.set keys.busy) with
      | none => (none, redis)
      | some driver => (some (driver, "1"), keys.bind orderId driver redis) := by
  induction drivers with
  | nil => rfl
  | cons driver rest ih =>
    by_cases busy : driver ∈ redis.set keys.busy
    · simp [claimLoop, Keyspace.sismember, busy, ih]
    · simp [claimLoop, Keyspace.sismember, busy]

theorem claimFirstFree_incumbent {drivers : List String} {incumbent : String}
    (assigned : redis.hash keys.assigned orderId = some incumbent) :
    keys.claimFirstFree orderId drivers redis = (some (incumbent, "0"), redis) := by
  simp only [claimFirstFree, Keyspace.hget, assigned]

theorem claimFirstFree_free {drivers : List String} (unassigned : redis.hash keys.assigned orderId = none)
    (first : drivers.find? (· ∉ redis.set keys.busy) = some driver) :
    keys.claimFirstFree orderId drivers redis = (some (driver, "1"), keys.bind orderId driver redis) := by
  simp only [claimFirstFree, Keyspace.hget, unassigned, claimLoop_eq, first]

theorem claimFirstFree_none {drivers : List String} (unassigned : redis.hash keys.assigned orderId = none)
    (allBusy : drivers.find? (· ∉ redis.set keys.busy) = none) :
    keys.claimFirstFree orderId drivers redis = (none, redis) := by
  simp only [claimFirstFree, Keyspace.hget, unassigned, claimLoop_eq, allBusy]

theorem bind_assigned (name : String) :
    (keys.bind orderId driver redis).hash keys.assigned name =
      if name = orderId then some driver else redis.hash keys.assigned name := by
  simp only [bind, Keyspace.sadd_hash, Keyspace.hset_hash_same]
  exact Function.update_apply ..

theorem bind_busy : (keys.bind orderId driver redis).set keys.busy = insert driver (redis.set keys.busy) := by
  simp [bind, keys.apart driver]

theorem bind_orders (other : String) :
    (keys.bind orderId driver redis).set (keys.driverOrders ++ other) =
      if other = driver then insert orderId (redis.set (keys.driverOrders ++ driver))
      else redis.set (keys.driverOrders ++ other) := by
  have notBusy (name : String) : keys.driverOrders ++ name ≠ keys.busy := (keys.apart name).symm
  split
  · rename_i same
    subst same
    simp [bind, notBusy]
  · rename_i different
    have apart : keys.driverOrders ++ other ≠ keys.driverOrders ++ driver := by simpa using different
    simp [bind, notBusy, apart]

theorem bind_hash_other {key : String} (different : key ≠ keys.assigned) :
    (keys.bind orderId driver redis).hash key = redis.hash key := by
  simp [bind, different]

theorem bind_set_other {key : String} (notBusy : key ≠ keys.busy) (notOrders : key ≠ keys.driverOrders ++ driver) :
    (keys.bind orderId driver redis).set key = redis.set key := by
  simp [bind, notBusy, notOrders]

theorem unbind_hash : (keys.unbind orderId driver redis).hash = (redis.hdel keys.assigned orderId).hash := by
  simp only [unbind]
  split <;> simp

theorem unbind_hash_other {key : String} (different : key ≠ keys.assigned) :
    (keys.unbind orderId driver redis).hash key = redis.hash key := by
  rw [unbind_hash, Keyspace.hdel_hash_other _ _ different]

theorem unbind_set_other {key : String} (notBusy : key ≠ keys.busy) (notOrders : key ≠ keys.driverOrders ++ driver) :
    (keys.unbind orderId driver redis).set key = redis.set key := by
  simp only [unbind]
  split <;> simp [notBusy, notOrders]

theorem unbind_assigned (name : String) :
    (keys.unbind orderId driver redis).hash keys.assigned name =
      if name = orderId then none else redis.hash keys.assigned name := by
  rw [unbind_hash, Keyspace.hdel_hash_same]
  exact Function.update_apply ..

theorem unbind_orders (other : String) :
    (keys.unbind orderId driver redis).set (keys.driverOrders ++ other) =
      if other = driver then (redis.set (keys.driverOrders ++ driver)).erase orderId
      else redis.set (keys.driverOrders ++ other) := by
  have notBusy (name : String) : keys.driverOrders ++ name ≠ keys.busy := (keys.apart name).symm
  have kept : (keys.unbind orderId driver redis).set (keys.driverOrders ++ other) =
      ((redis.hdel keys.assigned orderId).srem (keys.driverOrders ++ driver) orderId).set (keys.driverOrders ++ other) := by
    simp only [unbind]
    split <;> simp [notBusy]
  rw [kept]
  split
  · rename_i same
    subst same
    simp
  · rename_i different
    have apart : keys.driverOrders ++ other ≠ keys.driverOrders ++ driver := by simpa using different
    simp [apart]

theorem unbind_busy :
    (keys.unbind orderId driver redis).set keys.busy =
      if (redis.set (keys.driverOrders ++ driver)).erase orderId = ∅ then (redis.set keys.busy).erase driver
      else redis.set keys.busy := by
  simp [unbind, Keyspace.scard, apply_ite Keyspace.set, ite_apply, keys.apart driver]

end ScriptKeys

namespace Consistent

variable {keys : ScriptKeys} {orderId driver : String} {redis : Redis}

theorem empty : Consistent keys Keyspace.empty where
  oneOrder := by simp [Keyspace.empty]
  orders := by simp [Keyspace.empty]
  busy := by simp [Keyspace.empty]

theorem busy_iff (consistent : Consistent keys redis) (driver : String) :
    driver ∈ redis.set keys.busy ↔ ∃ orderId, redis.hash keys.assigned orderId = some driver := by
  rw [consistent.busy]
  exact exists_congr fun orderId => consistent.orders orderId driver

theorem bind (consistent : Consistent keys redis) (unassigned : redis.hash keys.assigned orderId = none)
    (free : driver ∉ redis.set keys.busy) : Consistent keys (keys.bind orderId driver redis) where
  oneOrder name name' other := by
    have alone (bound : redis.hash keys.assigned name' = some driver) : False :=
      free ((consistent.busy_iff driver).mpr ⟨name', bound⟩)
    have alone' (bound : redis.hash keys.assigned name = some driver) : False :=
      free ((consistent.busy_iff driver).mpr ⟨name, bound⟩)
    rw [keys.bind_assigned, keys.bind_assigned]
    have before := consistent.oneOrder name name' other
    split <;> split <;> grind
  orders name other := by
    rw [keys.bind_orders, keys.bind_assigned]
    have before := consistent.orders name other
    by_cases same : other = driver
    · subst same
      by_cases here : name = orderId <;> simp [here, before]
    · by_cases here : name = orderId
      · subst here
        simp [same, before, unassigned, Ne.symm same]
      · simp [same, here, before]
  busy other := by
    rw [keys.bind_busy, keys.bind_orders, Finset.mem_insert, consistent.busy]
    by_cases same : other = driver
    · simp [same]
    · simp [same]

theorem unbind (consistent : Consistent keys redis) (assigned : redis.hash keys.assigned orderId = some driver) :
    Consistent keys (keys.unbind orderId driver redis) where
  oneOrder name name' other := by
    rw [keys.unbind_assigned, keys.unbind_assigned]
    have before := consistent.oneOrder name name' other
    split <;> split <;> grind
  orders name other := by
    rw [keys.unbind_orders, keys.unbind_assigned]
    have before := consistent.orders name other
    by_cases same : other = driver
    · subst same
      by_cases here : name = orderId <;> simp [here, before]
    · by_cases here : name = orderId
      · subst here
        simp [same, before, assigned, Ne.symm same]
      · simp [same, here, before]
  busy other := by
    rw [keys.unbind_busy, keys.unbind_orders]
    have before := consistent.busy other
    by_cases same : other = driver
    · subst same
      split
      · rename_i last
        simp [last]
      · rename_i more
        have stillBusy : other ∈ redis.set keys.busy := (consistent.busy_iff other).mpr ⟨orderId, assigned⟩
        simp [stillBusy, Finset.nonempty_iff_ne_empty, more]
    · split <;> simp [same, before]

/-- A claim that is released at once leaves nothing behind. -/
theorem unbind_bind (consistent : Consistent keys redis) (unassigned : redis.hash keys.assigned orderId = none)
    (free : driver ∉ redis.set keys.busy) : keys.unbind orderId driver (keys.bind orderId driver redis) = redis := by
  have noOrders : redis.set (keys.driverOrders ++ driver) = ∅ := by
    rw [← Finset.not_nonempty_iff_eq_empty, ← consistent.busy]
    exact free
  have last : (insert orderId (∅ : Finset String)).erase orderId = ∅ := Finset.erase_insert (Finset.notMem_empty _)
  refine Keyspace.ext ?_ (funext fun key => ?_)
  · rw [keys.unbind_hash]
    exact Keyspace.hash_restored unassigned rfl
  · by_cases isBusy : key = keys.busy
    · subst isBusy
      rw [keys.unbind_busy, keys.bind_orders, keys.bind_busy, if_pos rfl, noOrders, if_pos last, Finset.erase_insert free]
    · by_cases isOrders : key = keys.driverOrders ++ driver
      · subst isOrders
        rw [keys.unbind_orders, keys.bind_orders, if_pos rfl, if_pos rfl, noOrders, last]
      · rw [keys.unbind_set_other isBusy isOrders, keys.bind_set_other isBusy isOrders]

/-- Redis may change under all keys but these. -/
theorem of_agree {redis' : Redis} (consistent : Consistent keys redis)
    (assigned : redis'.hash keys.assigned = redis.hash keys.assigned) (busy : redis'.set keys.busy = redis.set keys.busy)
    (orders : ∀ driver, redis'.set (keys.driverOrders ++ driver) = redis.set (keys.driverOrders ++ driver)) :
    Consistent keys redis' where
  oneOrder := by
    rw [assigned]
    exact consistent.oneOrder
  orders orderId driver := by rw [assigned, orders, consistent.orders]
  busy driver := by rw [busy, orders, consistent.busy]

end Consistent

/-- The keys of two tenants have nothing in common. -/
theorem scriptKeys_apart {tenantId tenantId' : TenantId} (different : tenantId ≠ tenantId') :
    assignHashKey tenantId ≠ assignHashKey tenantId' ∧ busyKey tenantId ≠ busyKey tenantId' ∧
      ∀ driver driver', driverOrdersPrefix tenantId ++ driver ≠ driverOrdersPrefix tenantId' ++ driver' := by
  have texts : tenantId.text.toList ≠ tenantId'.text.toList := by
    intro same
    cases tenantId
    cases tenantId'
    cases String.toList_inj.mp same
    exact different rfl
  refine ⟨?_, ?_, ?_⟩
  · intro same
    have lists := congrArg String.toList same
    rw [assignHashKey, assignHashKey, String.toList_append, String.toList_append, List.append_right_inj] at lists
    exact texts lists
  · intro same
    have lists := congrArg String.toList same
    rw [busyKey_toList, busyKey_toList, List.append_right_inj] at lists
    exact texts (Delimited.append_sep_inj tenantId.plain tenantId'.plain lists).1
  · intro driver driver' same
    have lists := congrArg String.toList same
    rw [driverOrdersPrefix_toList, driverOrdersPrefix_toList, List.append_right_inj] at lists
    exact texts (Delimited.append_sep_inj tenantId.plain tenantId'.plain lists).1

namespace RedisAssignmentStore

variable {tenantId : TenantId} {orderId : String} {candidates : List String} {redis : Redis}

theorem get_of_hash {found : Option String} (hash : redis.hash (assignHashKey tenantId) orderId = found) :
    get tenantId orderId redis = found.map fun driverId => { orderId, driverId } := by
  rw [get, Keyspace.hget, hash]

theorem assign_incumbent {incumbent : String} (assigned : redis.hash (assignHashKey tenantId) orderId = some incumbent) :
    assign tenantId orderId candidates redis = (some ⟨⟨orderId, incumbent⟩, false⟩, redis) := by
  rw [assign, (scriptKeys tenantId).claimFirstFree_incumbent assigned]
  rfl

theorem assign_free {driver : String} (unassigned : redis.hash (assignHashKey tenantId) orderId = none)
    (first : candidates.find? (· ∉ redis.set (busyKey tenantId)) = some driver) :
    assign tenantId orderId candidates redis =
      (some ⟨⟨orderId, driver⟩, true⟩, (scriptKeys tenantId).bind orderId driver redis) := by
  rw [assign, (scriptKeys tenantId).claimFirstFree_free unassigned first]
  rfl

theorem assign_none (unassigned : redis.hash (assignHashKey tenantId) orderId = none)
    (allBusy : candidates.find? (· ∉ redis.set (busyKey tenantId)) = none) :
    assign tenantId orderId candidates redis = (none, redis) := by
  rw [assign, (scriptKeys tenantId).claimFirstFree_none unassigned allBusy]
  rfl

theorem unassign_assigned {driver : String} (assigned : redis.hash (assignHashKey tenantId) orderId = some driver) :
    unassign tenantId orderId redis = (scriptKeys tenantId).unbind orderId driver redis := by
  simp only [unassign, ScriptKeys.releaseOrder, Keyspace.hget]
  simp only [scriptKeys, assigned]

theorem unassign_unassigned (unassigned : redis.hash (assignHashKey tenantId) orderId = none) :
    unassign tenantId orderId redis = redis := by
  simp only [unassign, ScriptKeys.releaseOrder, Keyspace.hget]
  simp only [scriptKeys, unassigned]

end RedisAssignmentStore

/-- A call that reaches Redis, from whichever consumer. -/
inductive StoreCall
  | assign (tenantId : TenantId) (orderId : String) (candidates : List String)
  | unassign (tenantId : TenantId) (orderId : String)

def StoreCall.run (redis : Redis) : StoreCall → Redis
  | .assign tenantId orderId candidates => (RedisAssignmentStore.assign tenantId orderId candidates redis).2
  | .unassign tenantId orderId => RedisAssignmentStore.unassign tenantId orderId redis

abbrev Run := History (· = (Keyspace.empty : Redis)) fun _ (call : StoreCall) redis redis' => call.run redis = redis'

namespace Consistent

variable {redis : Redis} {tenantId : TenantId}

theorem bind_any {owner : TenantId} {orderId driver : String} (consistent : Consistent (scriptKeys tenantId) redis)
    (unassigned : redis.hash (assignHashKey owner) orderId = none) (free : driver ∉ redis.set (busyKey owner)) :
    Consistent (scriptKeys tenantId) ((scriptKeys owner).bind orderId driver redis) := by
  by_cases own : tenantId = owner
  · subst own
    exact consistent.bind unassigned free
  · obtain ⟨assigned, busy, orders⟩ := scriptKeys_apart own
    refine consistent.of_agree ?_ ?_ fun other => ?_
    · exact (scriptKeys owner).bind_hash_other assigned
    · exact (scriptKeys owner).bind_set_other busy (busyKey_ne_driverOrders tenantId owner driver)
    · exact (scriptKeys owner).bind_set_other (busyKey_ne_driverOrders owner tenantId other).symm (orders other driver)

theorem unbind_any {owner : TenantId} {orderId driver : String} (consistent : Consistent (scriptKeys tenantId) redis)
    (assigned : redis.hash (assignHashKey owner) orderId = some driver) :
    Consistent (scriptKeys tenantId) ((scriptKeys owner).unbind orderId driver redis) := by
  by_cases own : tenantId = owner
  · subst own
    exact consistent.unbind assigned
  · obtain ⟨hashes, busy, orders⟩ := scriptKeys_apart own
    refine consistent.of_agree ?_ ?_ fun other => ?_
    · exact (scriptKeys owner).unbind_hash_other hashes
    · exact (scriptKeys owner).unbind_set_other busy (busyKey_ne_driverOrders tenantId owner driver)
    · exact (scriptKeys owner).unbind_set_other (busyKey_ne_driverOrders owner tenantId other).symm (orders other driver)

theorem step (consistent : Consistent (scriptKeys tenantId) redis) (call : StoreCall) :
    Consistent (scriptKeys tenantId) (call.run redis) := by
  cases call with
  | assign owner orderId candidates =>
    simp only [StoreCall.run]
    cases assigned : redis.hash (assignHashKey owner) orderId with
    | some incumbent => rwa [RedisAssignmentStore.assign_incumbent assigned]
    | none =>
      cases first : candidates.find? (· ∉ redis.set (busyKey owner)) with
      | none => rwa [RedisAssignmentStore.assign_none assigned first]
      | some driver =>
        rw [RedisAssignmentStore.assign_free assigned first]
        exact consistent.bind_any assigned (by simpa using List.find?_some first)
  | unassign owner orderId =>
    simp only [StoreCall.run]
    cases assigned : redis.hash (assignHashKey owner) orderId with
    | none => rwa [RedisAssignmentStore.unassign_unassigned assigned]
    | some driver =>
      rw [RedisAssignmentStore.unassign_assigned assigned]
      exact consistent.unbind_any assigned

end Consistent

/-- What a claim leaves in Redis: the order is the driver's, the driver is busy
and has the order in its set. Every other order and driver keeps what it had. -/
structure Stored (tenantId : TenantId) (assignment : Assignment) (before after : Redis) : Prop where
  held : RedisAssignmentStore.get tenantId assignment.orderId after = some assignment
  otherOrders : ∀ orderId ≠ assignment.orderId,
    RedisAssignmentStore.get tenantId orderId after = RedisAssignmentStore.get tenantId orderId before
  busy : after.set (busyKey tenantId) = insert assignment.driverId (before.set (busyKey tenantId))
  orders : after.set (driverOrdersPrefix tenantId ++ assignment.driverId) =
    insert assignment.orderId (before.set (driverOrdersPrefix tenantId ++ assignment.driverId))
  otherDrivers : ∀ driver ≠ assignment.driverId,
    after.set (driverOrdersPrefix tenantId ++ driver) = before.set (driverOrdersPrefix tenantId ++ driver)

theorem ScriptKeys.bind_stored (tenantId : TenantId) (orderId driverId : String) (redis : Redis) :
    Stored tenantId ⟨orderId, driverId⟩ redis ((scriptKeys tenantId).bind orderId driverId redis) where
  held := RedisAssignmentStore.get_of_hash (((scriptKeys tenantId).bind_assigned orderId).trans (if_pos rfl))
  otherOrders other different :=
    RedisAssignmentStore.get_of_hash (((scriptKeys tenantId).bind_assigned other).trans (if_neg different))
  busy := (scriptKeys tenantId).bind_busy
  orders := ((scriptKeys tenantId).bind_orders driverId).trans (if_pos rfl)
  otherDrivers driver different := ((scriptKeys tenantId).bind_orders driver).trans (if_neg different)

/-- What a release leaves: the order has no driver, the others keep theirs. -/
structure Released (tenantId : TenantId) (orderId : String) (before after : Redis) : Prop where
  freed : RedisAssignmentStore.get tenantId orderId after = none
  otherOrders : ∀ other ≠ orderId,
    RedisAssignmentStore.get tenantId other after = RedisAssignmentStore.get tenantId other before

theorem RedisAssignmentStore.unassign_released (tenantId : TenantId) (orderId : String) (redis : Redis) :
    Released tenantId orderId redis (RedisAssignmentStore.unassign tenantId orderId redis) := by
  cases assigned : redis.hash (assignHashKey tenantId) orderId with
  | none =>
    rw [RedisAssignmentStore.unassign_unassigned assigned]
    exact ⟨RedisAssignmentStore.get_of_hash assigned, fun _ _ => rfl⟩
  | some driver =>
    rw [RedisAssignmentStore.unassign_assigned assigned]
    have hash (name : String) : ((scriptKeys tenantId).unbind orderId driver redis).hash (assignHashKey tenantId) name =
        if name = orderId then none else redis.hash (assignHashKey tenantId) name :=
      (scriptKeys tenantId).unbind_assigned name
    constructor
    · exact RedisAssignmentStore.get_of_hash ((hash orderId).trans (if_pos rfl))
    · intro other different
      exact RedisAssignmentStore.get_of_hash ((hash other).trans (if_neg different))

/-- What `assign` answers: the incumbent, otherwise the first candidate that
is not busy, otherwise nothing, and then nothing has changed. A claim it made
is in the store, and is undone by `unassign`. -/
structure Answers (tenantId : TenantId) (orderId : String) (candidates : List String) (redis : Redis) : Prop where
  incumbent : ∀ driverId, RedisAssignmentStore.assign tenantId orderId candidates redis =
      (some ⟨⟨orderId, driverId⟩, false⟩, redis) ↔ redis.hash (assignHashKey tenantId) orderId = some driverId
  notCreated : (∃ claim, (RedisAssignmentStore.assign tenantId orderId candidates redis).1 = some claim ∧
      claim.created = false) ↔ (redis.hash (assignHashKey tenantId) orderId).isSome
  first : redis.hash (assignHashKey tenantId) orderId = none →
    (RedisAssignmentStore.assign tenantId orderId candidates redis).1 =
      (candidates.find? (· ∉ redis.set (busyKey tenantId))).map fun driverId => ⟨⟨orderId, driverId⟩, true⟩
  stored : ∀ claim, (RedisAssignmentStore.assign tenantId orderId candidates redis).1 = some claim → claim.created = true →
    Stored tenantId claim.assignment redis (RedisAssignmentStore.assign tenantId orderId candidates redis).2
  unassigned : (RedisAssignmentStore.assign tenantId orderId candidates redis).1 = none →
    (RedisAssignmentStore.assign tenantId orderId candidates redis).2 = redis
  undone : ∀ claim, (RedisAssignmentStore.assign tenantId orderId candidates redis).1 = some claim → claim.created = true →
    RedisAssignmentStore.unassign tenantId orderId (RedisAssignmentStore.assign tenantId orderId candidates redis).2 = redis
  released : Released tenantId orderId redis (RedisAssignmentStore.unassign tenantId orderId redis)

theorem Consistent.answers {redis : Redis} {tenantId : TenantId} (consistent : Consistent (scriptKeys tenantId) redis)
    (orderId : String) (candidates : List String) : Answers tenantId orderId candidates redis := by
  have released := RedisAssignmentStore.unassign_released tenantId orderId redis
  cases assigned : redis.hash (assignHashKey tenantId) orderId with
  | some incumbent =>
    have result : RedisAssignmentStore.assign tenantId orderId candidates redis = _ :=
      RedisAssignmentStore.assign_incumbent assigned
    constructor
    case released => exact released
    all_goals simp [result, assigned]
  | none =>
    cases first : candidates.find? (· ∉ redis.set (busyKey tenantId)) with
    | none =>
      have result := RedisAssignmentStore.assign_none assigned first
      constructor
      case first =>
        intro
        rw [result, first]
        rfl
      case released => exact released
      all_goals simp [result, assigned]
    | some driver =>
      have result := RedisAssignmentStore.assign_free assigned first
      have free : driver ∉ redis.set (busyKey tenantId) := by simpa using List.find?_some first
      have bound : ((scriptKeys tenantId).bind orderId driver redis).hash (assignHashKey tenantId) orderId = some driver :=
        ((scriptKeys tenantId).bind_assigned orderId).trans (if_pos rfl)
      constructor
      case first =>
        intro
        rw [result, first]
        rfl
      case stored =>
        rw [result]
        rintro claim ⟨⟩ -
        exact ScriptKeys.bind_stored tenantId orderId driver redis
      case undone =>
        rintro claim - -
        rw [result, RedisAssignmentStore.unassign_assigned bound]
        exact consistent.unbind_bind assigned free
      case released => exact released
      all_goals simp [result, assigned]

/-- After any calls of any consumers a tenant's hash, order sets and busy set
are consistent, and the next call of `assign` answers as it should. -/
theorem Run.assignments_consistent {log : List (Commit Redis StoreCall)} {redis : Redis} (run : Run log redis)
    (tenantId : TenantId) : Consistent (scriptKeys tenantId) redis ∧
      ∀ orderId candidates, Answers tenantId orderId candidates redis := by
  have consistent : Consistent (scriptKeys tenantId) redis := by
    refine run.invariant ?_ ?_
    · rintro _ rfl
      exact Consistent.empty
    · rintro _ call redis _ rfl before
      exact before.step call
  exact ⟨consistent, consistent.answers⟩

def sampleTenant : TenantId where
  text := "t1"
  plain := by decide

/-- The second order gets the second driver, since the first one is busy. -/
theorem assignments_consistent_of_sample_orders :
    ∃ log redis, Run log redis ∧ redis.hash (assignHashKey sampleTenant) "o2" = some "d2" ∧
      Consistent (scriptKeys sampleTenant) redis ∧ ∀ orderId candidates, Answers sampleTenant orderId candidates redis := by
  have start : Run [] Keyspace.empty := .start rfl
  have run := (start.commit (a := .assign sampleTenant "o1" ["d1", "d1"]) rfl).commit
    (a := .assign sampleTenant "o2" ["d1", "d2"]) rfl
  exact ⟨_, _, run, by decide, Run.assignments_consistent run sampleTenant⟩

end FoodDelivery.Delivery
