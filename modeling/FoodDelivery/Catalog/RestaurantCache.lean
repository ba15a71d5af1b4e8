import FoodDelivery.Lib.History
import FoodDelivery.Lib.Timeline
import FoodDelivery.Catalog.ReadModel

namespace FoodDelivery.Catalog

open CommitLog

/-- RESTAURANT_CACHE_TTL_MS. -/
def restaurantCacheTtlMs : Nat := 30000

/-- An event of catalog.events or review.events as the projections handle it. -/
inductive ProjectedEvent
  | catalog (event : CatalogEvent)
  | ratingChanged (aggregateId tenantId : Uuid) (avgRating : Binary64.Number) (reviewCount : Nat)

def ProjectedEvent.apply (model : ReadModel) : ProjectedEvent → ReadModel
  | .catalog event => applyCatalogEvent model event
  | .ratingChanged aggregateId tenantId avgRating reviewCount => applyReviewEvent model aggregateId tenantId avgRating reviewCount

/-- What `syncRestaurantCache` does for an event to the key of one restaurant. -/
inductive CacheSync
  | invalidate
  | writeThrough
  | nothing
  deriving DecidableEq, Repr

def ProjectedEvent.sync (id tenantId : Uuid) : ProjectedEvent → CacheSync
  | .catalog (.restaurantDeleted restaurant) =>
    if restaurant.id = id ∧ restaurant.tenantId = tenantId then .invalidate else .nothing
  | .catalog (.restaurantCreated restaurant) =>
    if restaurant.id = id ∧ restaurant.tenantId = tenantId then .writeThrough else .nothing
  | .catalog (.restaurantUpdated restaurant) =>
    if restaurant.id = id ∧ restaurant.tenantId = tenantId then .writeThrough else .nothing
  | .catalog _ => .nothing
  | .ratingChanged aggregateId owner _ _ => if aggregateId = id ∧ owner = tenantId then .writeThrough else .nothing

/-- The value under a restaurant's key: JSON of its snapshot, or null where no
row was found. A snapshot keeps every column of the row. -/
structure CacheEntry where
  value : Option ReadRestaurant
  expires : Nat

/-- A call of `cacheAside`. Which changes had been synced when it started and
how many had been committed when it loaded is kept for the statements only. -/
inductive CacheRead
  | idle
  | missed (since : Nat)
  | loaded (since : Nat) (value : Option ReadRestaurant) (loadedAt : Nat)
  | returned

/-- A call of a projection's handler after its transaction: the change it is
for, and what it found. -/
inductive SyncCall
  | idle
  | invalidating (change : Nat)
  | writing (change : Nat)
  | found (change : Nat) (value : Option ReadRestaurant) (loadedAt : Nat)
  | returned

/-- A read that has returned: the last change synced when it started, what it
returned and when. -/
structure CacheAnswer where
  since : Nat
  value : Option ReadRestaurant
  time : Nat

/-- A `SET`: what it wrote, the last change that had been committed when this
was loaded, the last one synced when it was written, and the time. -/
structure CacheSet where
  value : Option ReadRestaurant
  loadedAt : Nat
  synced : Nat
  time : Nat

/-- The read model's successive states, one restaurant's key in Redis, the
calls under way and the last change whose sync has completed. The `SET`s and
the reads that have returned are kept for the statements only. -/
structure RestaurantCache where
  now : Nat
  model : Timeline ReadModel
  entry : Option CacheEntry
  reads : Nat → CacheRead
  syncs : Nat → SyncCall
  synced : Nat
  sets : List CacheSet
  answers : List CacheAnswer

inductive CacheAction
  | wait (ms : Nat)
  | handle (call : Nat) (event : ProjectedEvent) (fresh : Bool)
  | find (call : Nat)
  | write (call : Nat)
  | invalidate (call : Nat)
  | swallow (call : Nat)
  | get (call : Nat)
  | load (call : Nat)
  | set (call : Nat)

namespace RestaurantCache

def start (model : ReadModel) : RestaurantCache where
  now := 0
  model := .start model
  entry := none
  reads _ := .idle
  syncs _ := .idle
  synced := 0
  sets := []
  answers := []

def setRead (cache : RestaurantCache) (call : Nat) (stage : CacheRead) : RestaurantCache :=
  { cache with reads := Function.update cache.reads call stage }

def setSync (cache : RestaurantCache) (call : Nat) (stage : SyncCall) : RestaurantCache :=
  { cache with syncs := Function.update cache.syncs call stage }

/-- The handler's transaction, in which `runOnce` skips an event that has been
processed before, and the beginning of `syncRestaurantCache`. -/
def handle (id tenantId : Uuid) (cache : RestaurantCache) (call : Nat) (event : ProjectedEvent) (fresh : Bool) :
    RestaurantCache :=
  let model := if fresh then cache.model.commit (event.apply cache.model.current) else cache.model
  let stage : SyncCall := match event.sync id tenantId with
    | .invalidate => .invalidating model.changes
    | .writeThrough => .writing model.changes
    | .nothing => .returned
  { cache.setSync call stage with model }

/-- `writeThrough`, an unconditional `SET PX`. -/
def writeThrough (cache : RestaurantCache) (value : Option ReadRestaurant) (loadedAt synced : Nat) : RestaurantCache :=
  { cache with
    entry := some { value, expires := cache.now + restaurantCacheTtlMs }
    synced
    sets := { value, loadedAt, synced, time := cache.now } :: cache.sets }

def answer (cache : RestaurantCache) (call since : Nat) (value : Option ReadRestaurant) : RestaurantCache :=
  { cache.setRead call .returned with answers := { since, value, time := cache.now } :: cache.answers }

/-- One step of one call. A sync whose query throws is swallowed and leaves the
key alone, so it does not count as completed. -/
def step (id tenantId : Uuid) (cache : RestaurantCache) : CacheAction → Option RestaurantCache
  | .wait ms => some { cache with now := cache.now + ms }
  | .handle call event fresh =>
    match cache.syncs call with
    | .idle => some (cache.handle id tenantId call event fresh)
    | _ => none
  | .find call =>
    match cache.syncs call with
    | .writing change =>
      some (cache.setSync call (.found change (cache.model.current.findRestaurant id tenantId) cache.model.changes))
    | _ => none
  | .write call =>
    match cache.syncs call with
    | .found change (some row) loadedAt =>
      some ((cache.writeThrough (some row) loadedAt (max cache.synced change)).setSync call .returned)
    | _ => none
  | .invalidate call =>
    match cache.syncs call with
    | .invalidating change => some { cache.setSync call .returned with entry := none, synced := max cache.synced change }
    | .found change none _ => some { cache.setSync call .returned with entry := none, synced := max cache.synced change }
    | _ => none
  | .swallow call =>
    match cache.syncs call with
    | .writing _ => some (cache.setSync call .returned)
    | _ => none
  | .get call =>
    match cache.reads call with
    | .idle =>
      match cache.entry.filter fun entry => cache.now < entry.expires with
      | some entry => some (cache.answer call cache.synced entry.value)
      | none => some (cache.setRead call (.missed cache.synced))
    | _ => none
  | .load call =>
    match cache.reads call with
    | .missed since =>
      some (cache.setRead call (.loaded since (cache.model.current.findRestaurant id tenantId) cache.model.changes))
    | _ => none
  | .set call =>
    match cache.reads call with
    | .loaded since value loadedAt => some ((cache.writeThrough value loadedAt cache.synced).answer call since value)
    | _ => none

end RestaurantCache

abbrev RestaurantCache.Run (id tenantId : Uuid) : List (Commit RestaurantCache CacheAction) → RestaurantCache → Prop :=
  History (fun cache => ∃ model, cache = .start model) fun _ action cache cache' =>
    cache.step id tenantId action = some cache'

/-- The read returned a state of the row at least as recent as every change
whose sync had completed when it started. -/
def CacheAnswer.Recent (id tenantId : Uuid) (cache : RestaurantCache) (answer : CacheAnswer) : Prop :=
  cache.model.Since (ReadModel.findRestaurant id tenantId) answer.since answer.value

/-- A load: the row as some committed state showed it. -/
def RestaurantCache.Loaded (id tenantId : Uuid) (cache : RestaurantCache) (value : Option ReadRestaurant) (loadedAt : Nat) : Prop :=
  loadedAt ≤ cache.model.changes ∧ (cache.model.states loadedAt).findRestaurant id tenantId = value

/-- The read hit an entry that a call had loaded before such a change, as the
row stood then, and set after its sync had completed, less than a lifetime ago. -/
def CacheAnswer.Overtaken (id tenantId : Uuid) (cache : RestaurantCache) (answer : CacheAnswer) : Prop :=
  ∃ written ∈ cache.sets, written.value = answer.value ∧ cache.Loaded id tenantId written.value written.loadedAt ∧
    written.loadedAt < answer.since ∧ answer.since ≤ written.synced ∧
    written.time ≤ answer.time ∧ answer.time < written.time + restaurantCacheTtlMs

variable {id tenantId : Uuid} {cache cache' : RestaurantCache}

/-- What a sync knows: its change has been committed, and before what it found. -/
def SyncCall.Sound (id tenantId : Uuid) (cache : RestaurantCache) : SyncCall → Prop
  | .invalidating change => change ≤ cache.model.changes
  | .writing change => change ≤ cache.model.changes
  | .found change value loadedAt => change ≤ loadedAt ∧ cache.Loaded id tenantId value loadedAt
  | _ => True

def CacheRead.Sound (id tenantId : Uuid) (cache : RestaurantCache) : CacheRead → Prop
  | .missed since => since ≤ cache.model.changes
  | .loaded since value loadedAt => since ≤ loadedAt ∧ cache.Loaded id tenantId value loadedAt
  | _ => True

theorem RestaurantCache.Loaded.commit {value : Option ReadRestaurant} {loadedAt : Nat}
    (loaded : cache.Loaded id tenantId value loadedAt)
    (model : ReadModel) : RestaurantCache.Loaded id tenantId { cache with model := cache.model.commit model } value loadedAt :=
  ⟨Nat.le_succ_of_le loaded.1, by rw [Timeline.commit_states model loaded.1, loaded.2]⟩

theorem SyncCall.Sound.commit {stage : SyncCall} (sound : stage.Sound id tenantId cache) (model : ReadModel) :
    stage.Sound id tenantId { cache with model := cache.model.commit model } := by
  cases stage with
  | invalidating change => exact Nat.le_succ_of_le sound
  | writing change => exact Nat.le_succ_of_le sound
  | found change value loadedAt => exact ⟨sound.1, sound.2.commit model⟩
  | _ => trivial

theorem CacheRead.Sound.commit {stage : CacheRead} (sound : stage.Sound id tenantId cache) (model : ReadModel) :
    stage.Sound id tenantId { cache with model := cache.model.commit model } := by
  cases stage with
  | missed since => exact Nat.le_succ_of_le sound
  | loaded since value loadedAt => exact ⟨sound.1, sound.2.commit model⟩
  | _ => trivial

namespace RestaurantCache

structure Invariant (id tenantId : Uuid) (cache : RestaurantCache) : Prop where
  synced : cache.synced ≤ cache.model.changes
  sets : ∀ written ∈ cache.sets, cache.Loaded id tenantId written.value written.loadedAt ∧ written.time ≤ cache.now
  entry : ∀ entry, cache.entry = some entry → ∃ written ∈ cache.sets, written.value = entry.value ∧
    written.synced = cache.synced ∧ written.time + restaurantCacheTtlMs = entry.expires
  syncs : ∀ call, SyncCall.Sound id tenantId cache (cache.syncs call)
  reads : ∀ call, CacheRead.Sound id tenantId cache (cache.reads call)
  answers : ∀ answer ∈ cache.answers, answer.Recent id tenantId cache ∨ answer.Overtaken id tenantId cache

theorem Invariant.start (model : ReadModel) : (RestaurantCache.start model).Invariant id tenantId := by
  refine ⟨Nat.le_refl _, ?_, ?_, fun _ => trivial, fun _ => trivial, ?_⟩ <;> simp [RestaurantCache.start]

theorem Loaded.current : cache.Loaded id tenantId (cache.model.current.findRestaurant id tenantId) cache.model.changes :=
  ⟨Nat.le_refl _, rfl⟩

/-- What has been loaded since a change is at least as recent. -/
theorem Loaded.since {value : Option ReadRestaurant} {loadedAt since : Nat} (loaded : cache.Loaded id tenantId value loadedAt)
    (later : since ≤ loadedAt) : cache.model.Since (ReadModel.findRestaurant id tenantId) since value :=
  ⟨loadedAt, later, loaded.1, loaded.2⟩

/-- A change of the read model takes nothing back. -/
theorem Invariant.commit (invariant : cache.Invariant id tenantId) (model : ReadModel) :
    Invariant id tenantId { cache with model := cache.model.commit model } := by
  refine ⟨Nat.le_succ_of_le invariant.synced, ?_, invariant.entry, ?_, ?_, ?_⟩
  · exact fun written member => (invariant.sets written member).imp_left fun loaded => loaded.commit model
  · exact fun call => (invariant.syncs call).commit model
  · exact fun call => (invariant.reads call).commit model
  · intro answer member
    refine (invariant.answers answer member).imp (fun recent => recent.commit model) ?_
    rintro ⟨written, inside, same, loaded, rest⟩
    exact ⟨written, inside, same, loaded.commit model, rest⟩

theorem Invariant.setSync {call : Nat} {stage : SyncCall} (invariant : cache.Invariant id tenantId)
    (sound : stage.Sound id tenantId cache) : (cache.setSync call stage).Invariant id tenantId := by
  refine { invariant with syncs := ?_ }
  exact (Function.forall_update_iff cache.syncs fun _ stage => stage.Sound id tenantId _).mpr
    ⟨sound, fun other _ => invariant.syncs other⟩

theorem Invariant.setRead {call : Nat} {stage : CacheRead} (invariant : cache.Invariant id tenantId)
    (sound : stage.Sound id tenantId cache) : (cache.setRead call stage).Invariant id tenantId := by
  refine { invariant with reads := ?_ }
  exact (Function.forall_update_iff cache.reads fun _ stage => stage.Sound id tenantId _).mpr
    ⟨sound, fun other _ => invariant.reads other⟩

/-- A `SET` at the end of a read, or of a sync, which counts as completed by it. -/
theorem Invariant.writeThrough {value : Option ReadRestaurant} {loadedAt synced : Nat} (invariant : cache.Invariant id tenantId)
    (loaded : cache.Loaded id tenantId value loadedAt) (known : synced ≤ cache.model.changes) :
    (cache.writeThrough value loadedAt synced).Invariant id tenantId := by
  refine ⟨known, List.forall_mem_cons.mpr ⟨⟨loaded, Nat.le_refl _⟩, invariant.sets⟩, ?_, invariant.syncs, invariant.reads, ?_⟩
  · rintro _ ⟨⟩
    exact ⟨_, List.mem_cons_self .., rfl, rfl, rfl⟩
  · intro answer member
    refine (invariant.answers answer member).imp_right ?_
    rintro ⟨written, inside, rest⟩
    exact ⟨written, List.mem_cons_of_mem _ inside, rest⟩

theorem Invariant.delete {synced : Nat} (invariant : cache.Invariant id tenantId) (known : synced ≤ cache.model.changes) :
    Invariant id tenantId { cache with entry := none, synced } := by
  refine { invariant with synced := known, entry := fun entry found => ?_ }
  cases found

theorem Invariant.answer {call since : Nat} {value : Option ReadRestaurant} (invariant : cache.Invariant id tenantId)
    (right : CacheAnswer.Recent id tenantId cache ⟨since, value, cache.now⟩ ∨
      CacheAnswer.Overtaken id tenantId cache ⟨since, value, cache.now⟩) :
    (cache.answer call since value).Invariant id tenantId := by
  have returned : (cache.setRead call .returned).Invariant id tenantId := invariant.setRead trivial
  exact { returned with answers := List.forall_mem_cons.mpr ⟨right, returned.answers⟩ }

/-- A read that hits an entry: either it was loaded late enough or it was set
after the sync of what it lacks. -/
theorem Invariant.hit {entry : CacheEntry} (invariant : cache.Invariant id tenantId) (found : cache.entry = some entry)
    (live : cache.now < entry.expires) :
    CacheAnswer.Recent id tenantId cache ⟨cache.synced, entry.value, cache.now⟩ ∨
      CacheAnswer.Overtaken id tenantId cache ⟨cache.synced, entry.value, cache.now⟩ := by
  obtain ⟨written, member, value, synced, expires⟩ := invariant.entry entry found
  obtain ⟨loaded, time⟩ := invariant.sets written member
  rcases Nat.lt_or_ge written.loadedAt cache.synced with before | after
  · have young : cache.now < written.time + restaurantCacheTtlMs := by omega
    exact Or.inr ⟨written, member, value, loaded, before, Nat.le_of_eq synced.symm, time, young⟩
  · exact Or.inl (value ▸ loaded.since after)

theorem Invariant.step {action : CacheAction} (invariant : cache.Invariant id tenantId)
    (step : cache.step id tenantId action = some cache') : cache'.Invariant id tenantId := by
  cases action with
  | wait ms =>
    cases step
    refine { invariant with sets := fun written member => ?_ }
    exact (invariant.sets written member).imp_right Nat.le_add_right_of_le
  | handle call event fresh =>
    simp only [RestaurantCache.step] at step
    split at step
    · cases step
      unfold RestaurantCache.handle
      have committed : Invariant id tenantId
          { cache with model := if fresh then cache.model.commit (event.apply cache.model.current) else cache.model } := by
        cases fresh with
        | true => exact invariant.commit _
        | false => exact invariant
      refine committed.setSync ?_
      cases event.sync id tenantId with
      | invalidate => exact Nat.le_refl _
      | writeThrough => exact Nat.le_refl _
      | nothing => trivial
    · cases step
  | find call =>
    simp only [RestaurantCache.step] at step
    split at step
    · rename_i change stage
      cases step
      have sound := invariant.syncs call
      rw [stage] at sound
      exact invariant.setSync ⟨sound, .current⟩
    · cases step
  | write call =>
    simp only [RestaurantCache.step] at step
    split at step
    · rename_i change row loadedAt stage
      cases step
      have sound := invariant.syncs call
      rw [stage] at sound
      obtain ⟨later, loaded⟩ := sound
      exact (invariant.writeThrough loaded (Nat.max_le.mpr ⟨invariant.synced, Nat.le_trans later loaded.1⟩)).setSync trivial
    · cases step
  | invalidate call =>
    simp only [RestaurantCache.step] at step
    split at step
    · rename_i change stage
      cases step
      have sound := invariant.syncs call
      rw [stage] at sound
      have returned : (cache.setSync call .returned).Invariant id tenantId := invariant.setSync trivial
      exact returned.delete (Nat.max_le.mpr ⟨invariant.synced, sound⟩)
    · rename_i change loadedAt stage
      cases step
      have sound := invariant.syncs call
      rw [stage] at sound
      have returned : (cache.setSync call .returned).Invariant id tenantId := invariant.setSync trivial
      exact returned.delete (Nat.max_le.mpr ⟨invariant.synced, Nat.le_trans sound.1 sound.2.1⟩)
    · cases step
  | swallow call =>
    simp only [RestaurantCache.step] at step
    split at step
    · cases step
      exact invariant.setSync trivial
    · cases step
  | get call =>
    simp only [RestaurantCache.step] at step
    split at step
    · split at step
      · rename_i entry hit
        cases step
        obtain ⟨found, live⟩ := Option.filter_eq_some_iff.mp hit
        exact invariant.answer (invariant.hit found (of_decide_eq_true live))
      · cases step
        exact invariant.setRead invariant.synced
    · cases step
  | load call =>
    simp only [RestaurantCache.step] at step
    split at step
    · rename_i since stage
      cases step
      have sound := invariant.reads call
      rw [stage] at sound
      exact invariant.setRead ⟨sound, .current⟩
    · cases step
  | set call =>
    simp only [RestaurantCache.step] at step
    split at step
    · rename_i since value loadedAt stage
      cases step
      have sound := invariant.reads call
      rw [stage] at sound
      obtain ⟨later, loaded⟩ := sound
      exact (invariant.writeThrough loaded invariant.synced).answer (Or.inl (loaded.since later))
    · cases step

/-- Every read returns a state of the row at least as recent as the changes
synced before it began, or an entry that was overtaken and is still short-lived. -/
theorem Run.recent_or_overtaken {log : List (Commit RestaurantCache CacheAction)} (run : Run id tenantId log cache) :
    ∀ answer ∈ cache.answers, answer.Recent id tenantId cache ∨ answer.Overtaken id tenantId cache := by
  refine (run.invariant ?_ ?_ : cache.Invariant id tenantId).answers
  · rintro _ ⟨model, rfl⟩
    exact .start model
  · exact fun _ action before after step invariant => invariant.step step

end RestaurantCache

section samples

def phoHouse : Restaurant where
  id := "restaurant-1"
  tenantId := "tenant-a"
  name := "Pho House"
  description := none
  isActive := true
  createdAt := 0
  updatedAt := 0
  deletedAt := none
  version := 1

def openModel : ReadModel where
  restaurants id := if id = "restaurant-1" then some (upsertRestaurant phoHouse.readRow none) else none
  menuItems _ := none

/-- A rating is written through and read. -/
theorem recent_or_overtaken_of_rated_sample : ∃ log cache, RestaurantCache.Run "restaurant-1" "tenant-a" log cache ∧
    cache.answers.map (fun answer => answer.value.map (·.reviewCount)) = [some 2] ∧
    ∀ answer ∈ cache.answers, answer.Recent "restaurant-1" "tenant-a" cache ∨
      answer.Overtaken "restaurant-1" "tenant-a" cache := by
  have start : RestaurantCache.Run "restaurant-1" "tenant-a" [] (.start openModel) := History.start ⟨_, rfl⟩
  have rated := start.commit (a := .handle 0 (.ratingChanged "restaurant-1" "tenant-a" 4 2) true) rfl
  have synced := (rated.commit (a := .find 0) rfl).commit (a := .write 0) rfl
  have read := synced.commit (a := .get 0) rfl
  exact ⟨_, _, read, rfl, RestaurantCache.Run.recent_or_overtaken read⟩

/-- A read loads the restaurant, which is then deleted; its `SET` comes after
the sync of the deletion, and a later read returns the restaurant. -/
theorem deleted_restaurant_returned : ∃ log cache, RestaurantCache.Run "restaurant-1" "tenant-a" log cache ∧
    ∃ answer ∈ cache.answers, answer.value = some (upsertRestaurant phoHouse.readRow none) ∧
      ¬ answer.Recent "restaurant-1" "tenant-a" cache := by
  have start : RestaurantCache.Run "restaurant-1" "tenant-a" [] (.start openModel) := History.start ⟨_, rfl⟩
  have loaded := (start.commit (a := .get 0) rfl).commit (a := .load 0) rfl
  have deleted := loaded.commit (a := .handle 0 (.catalog (.restaurantDeleted phoHouse)) true) rfl
  have synced := deleted.commit (a := .invalidate 0) rfl
  have read := (synced.commit (a := .set 0) rfl).commit (a := .get 1) rfl
  refine ⟨_, _, read, _, List.mem_cons_self .., rfl, ?_⟩
  rintro ⟨k, later, known, shown⟩
  obtain rfl : k = 1 := Nat.le_antisymm known later
  cases shown

end samples

end FoodDelivery.Catalog
