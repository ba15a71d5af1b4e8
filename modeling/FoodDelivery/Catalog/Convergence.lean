import FoodDelivery.Lib.KeyedLog
import FoodDelivery.Catalog.Commands

namespace FoodDelivery.Catalog

open CommitLog KeyedLog

variable {service service' : Service}

/-- The read model shows exactly the rows that are not deleted, and no menu
item of a deleted restaurant is live in either model. -/
structure Service.Converged (service : Service) : Prop where
  restaurants : ∀ id, (service.read.restaurants id).map (·.toReadRestaurantRow) =
    (service.liveRestaurant id).map Restaurant.readRow
  menuItems : ∀ id, service.read.menuItems id = (service.liveMenuItem id).map MenuItem.readRow
  owned : ∀ id menuItem, service.liveMenuItem id = some menuItem → (service.liveRestaurant menuItem.restaurantId).isSome
  readOwned : ∀ id row, service.read.menuItems id = some row → (service.read.restaurants row.restaurantId).isSome

/-- No transaction overtakes the deletion of a restaurant: a menu item is not
created once its restaurant is deleted and, when a deletion commits, every menu
item of the restaurant was there when it listed them, or at least when it
deleted them, and then has no event left to apply. -/
def Calm (commit : Commit Service Action) : Prop :=
  ∀ call now, commit.act = .commit call now →
    (∀ menuItem, commit.before.calls call = .creatingMenuItem menuItem →
      (commit.before.liveRestaurant menuItem.restaurantId).isSome) ∧
    ∀ before items ids, commit.before.calls call = .swept before items ids →
      ∀ id menuItem, commit.before.liveMenuItem id = some menuItem → menuItem.restaurantId = before.id →
        id ∈ items.map (·.id) ∨ id ∈ ids ∧ ∀ event ∈ commit.before.pending, event.aggregateId ≠ id

abbrev Run : List (Commit Service Action) → Service → Prop :=
  History (· = Service.empty) fun _ action service service' => service.step action = some service'

/-- What an event makes of the row of read_restaurants with an id, if it is about it. -/
def CatalogEvent.writesRestaurant (id : Uuid) : CatalogEvent → Option (Option ReadRestaurantRow)
  | .restaurantCreated restaurant => if restaurant.id = id then some (some restaurant.readRow) else none
  | .restaurantUpdated restaurant => if restaurant.id = id then some (some restaurant.readRow) else none
  | .restaurantDeleted restaurant => if restaurant.id = id then some none else none
  | _ => none

def CatalogEvent.writesMenuItem (id : Uuid) : CatalogEvent → Option (Option ReadMenuItemRow)
  | .menuItemCreated menuItem => if menuItem.id = id then some (some menuItem.readRow) else none
  | .menuItemUpdated menuItem => if menuItem.id = id then some (some menuItem.readRow) else none
  | .menuItemDeleted menuItem => if menuItem.id = id then some none else none
  | _ => none

theorem CatalogEvent.writesRestaurant_other {event : CatalogEvent} {id : Uuid} (other : event.aggregateId ≠ id) :
    event.writesRestaurant id = none := by
  cases event <;> simp_all [CatalogEvent.writesRestaurant, CatalogEvent.aggregateId]

theorem CatalogEvent.writesMenuItem_other {event : CatalogEvent} {id : Uuid} (other : event.aggregateId ≠ id) :
    event.writesMenuItem id = none := by
  cases event <;> simp_all [CatalogEvent.writesMenuItem, CatalogEvent.aggregateId]

/-- The columns of a row that no update changes. -/
def Service.restaurantOrigin (service : Service) (id : Uuid) : Option (Uuid × Nat) :=
  (service.restaurants.find id).map fun restaurant => (restaurant.tenantId, restaurant.createdAt)

def Service.menuItemOrigin (service : Service) (id : Uuid) : Option (Uuid × Uuid) :=
  (service.menuItems.find id).map fun menuItem => (menuItem.tenantId, menuItem.restaurantId)

def Restaurant.Known (service : Service) (restaurant : Restaurant) : Prop :=
  service.restaurantOrigin restaurant.id = some (restaurant.tenantId, restaurant.createdAt)

def MenuItem.Known (service : Service) (menuItem : MenuItem) : Prop :=
  service.menuItemOrigin menuItem.id = some (menuItem.tenantId, menuItem.restaurantId)

def CatalogEvent.Known (service : Service) : CatalogEvent → Prop
  | .restaurantCreated restaurant => restaurant.Known service
  | .restaurantUpdated restaurant => restaurant.Known service
  | .restaurantDeleted restaurant => restaurant.Known service
  | .menuItemCreated menuItem => menuItem.Known service
  | .menuItemUpdated menuItem => menuItem.Known service
  | .menuItemDeleted menuItem => menuItem.Known service

/-- What a call can rely on after its lookup and its statements. -/
def Call.Sound (service : Service) : Call → Prop
  | .creatingRestaurant restaurant => restaurant.deletedAt = none
  | .creatingMenuItem menuItem => menuItem.deletedAt = none ∧
    (service.restaurantOrigin menuItem.restaurantId).map Prod.fst = some menuItem.tenantId
  | .deletingMenuItem before => before.Known service
  | .deletingRestaurant before => before.Known service
  | .listed before items => before.Known service ∧
    ∀ item ∈ items, item.Known service ∧ item.restaurantId = before.id ∧ item.tenantId = before.tenantId
  | .swept before items ids => before.Known service ∧
    ∀ item ∈ items, item.Known service ∧ item.restaurantId = before.id ∧ item.tenantId = before.tenantId ∧ item.id ∈ ids
  | _ => True

/-- What a row of the read model ends as once the pending events have been applied. -/
def Service.settledRestaurant (service : Service) (id : Uuid) : Option ReadRestaurantRow :=
  settle CatalogEvent.writesRestaurant id ((service.read.restaurants id).map (·.toReadRestaurantRow)) service.pending

def Service.settledMenuItem (service : Service) (id : Uuid) : Option ReadMenuItemRow :=
  settle CatalogEvent.writesMenuItem id (service.read.menuItems id) service.pending

/-- A deleted menu item without events of its own, to be removed with its restaurant. -/
def Service.Dropped (service : Service) (id : Uuid) : Prop :=
  service.liveMenuItem id = none ∧ (∀ event ∈ service.pending, event.writesMenuItem id = none) ∧
    ∃ restaurant, .restaurantDeleted restaurant ∈ service.pending ∧
      service.menuItemOrigin id = some (restaurant.tenantId, restaurant.id)

structure Service.Invariant (service : Service) : Prop where
  restaurants : ∀ id, service.settledRestaurant id = (service.liveRestaurant id).map Restaurant.readRow
  menuItems : ∀ id, service.settledMenuItem id = (service.liveMenuItem id).map MenuItem.readRow ∨ service.Dropped id
  owned : ∀ id menuItem, service.liveMenuItem id = some menuItem → (service.liveRestaurant menuItem.restaurantId).isSome
  deleted : ∀ restaurant, .restaurantDeleted restaurant ∈ service.pending → service.liveRestaurant restaurant.id = none
  known : ∀ event ∈ service.pending, event.Known service
  readRestaurants : ∀ id row, service.read.restaurants id = some row →
    row.id = id ∧ service.restaurantOrigin id = some (row.tenantId, row.createdAt)
  readMenuItems : ∀ id row, service.read.menuItems id = some row →
    row.id = id ∧ service.menuItemOrigin id = some (row.tenantId, row.restaurantId)
  tenants : ∀ id tenantId restaurantId, service.menuItemOrigin id = some (tenantId, restaurantId) →
    (service.restaurantOrigin restaurantId).map Prod.fst = some tenantId
  ids : ∀ id, service.menuItemOrigin id ≠ none → id ∈ service.itemIds
  calls : ∀ call, (service.calls call).Sound service

namespace Service

theorem Invariant.empty : Service.empty.Invariant := by
  refine ⟨?_, ?_, ?_, ?_, ?_, ?_, ?_, ?_, ?_, fun _ => trivial⟩ <;>
    simp [Service.empty, settledRestaurant, settledMenuItem, liveRestaurant, liveMenuItem, restaurantOrigin, menuItemOrigin,
      Table.empty]

/-- Once every event has been applied the models agree. -/
theorem Invariant.converged (invariant : service.Invariant) (applied : service.pending = []) : service.Converged := by
  have restaurants (id : Uuid) : (service.read.restaurants id).map (·.toReadRestaurantRow) =
      (service.liveRestaurant id).map Restaurant.readRow := by
    simpa [settledRestaurant, applied] using invariant.restaurants id
  have menuItems (id : Uuid) : service.read.menuItems id = (service.liveMenuItem id).map MenuItem.readRow := by
    rcases invariant.menuItems id with settled | ⟨-, -, restaurant, pending, -⟩
    · simpa [settledMenuItem, applied] using settled
    · simp [applied] at pending
  refine ⟨restaurants, menuItems, invariant.owned, fun id row shown => ?_⟩
  rw [menuItems] at shown
  obtain ⟨menuItem, live, rfl⟩ := Option.map_eq_some_iff.mp shown
  have owner := invariant.owned id menuItem live
  have same := congrArg Option.isSome (restaurants menuItem.restaurantId)
  simp only [Option.isSome_map] at same
  exact same.trans owner

/-- No row is lost or changes its origin. -/
structure Grows (service service' : Service) : Prop where
  restaurants : ∀ id origin, service.restaurantOrigin id = some origin → service'.restaurantOrigin id = some origin
  menuItems : ∀ id origin, service.menuItemOrigin id = some origin → service'.menuItemOrigin id = some origin

section grows

variable (grows : Grows service service')
include grows

theorem Grows.known {event : CatalogEvent} (known : event.Known service) : event.Known service' := by
  cases event with
  | restaurantCreated restaurant => exact grows.restaurants _ _ known
  | restaurantUpdated restaurant => exact grows.restaurants _ _ known
  | restaurantDeleted restaurant => exact grows.restaurants _ _ known
  | menuItemCreated menuItem => exact grows.menuItems _ _ known
  | menuItemUpdated menuItem => exact grows.menuItems _ _ known
  | menuItemDeleted menuItem => exact grows.menuItems _ _ known

theorem Grows.owner {id tenantId : Uuid} (owner : (service.restaurantOrigin id).map Prod.fst = some tenantId) :
    (service'.restaurantOrigin id).map Prod.fst = some tenantId := by
  obtain ⟨origin, found, same⟩ := Option.map_eq_some_iff.mp owner
  rw [grows.restaurants id origin found, Option.map_some, same]

theorem Grows.call {stage : Call} (sound : stage.Sound service) : stage.Sound service' := by
  cases stage with
  | creatingRestaurant restaurant => exact sound
  | creatingMenuItem menuItem => exact ⟨sound.1, grows.owner sound.2⟩
  | deletingMenuItem before => exact grows.menuItems _ _ sound
  | deletingRestaurant before => exact grows.restaurants _ _ sound
  | listed before items =>
    refine ⟨grows.restaurants _ _ sound.1, fun item member => ?_⟩
    exact (sound.2 item member).imp_left fun known => grows.menuItems _ _ known
  | swept before items ids =>
    refine ⟨grows.restaurants _ _ sound.1, fun item member => ?_⟩
    exact (sound.2 item member).imp_left fun known => grows.menuItems _ _ known
  | _ => trivial

end grows

/-- A transaction that commits rows and the events that tell of them. -/
theorem Invariant.extend {events : List CatalogEvent} (invariant : service.Invariant) (grows : Grows service service')
    (read : service'.read = service.read) (pending : service'.pending = service.pending ++ events)
    (calls : service'.calls = service.calls)
    (restaurants : ∀ id, settle CatalogEvent.writesRestaurant id ((service.liveRestaurant id).map Restaurant.readRow) events =
      (service'.liveRestaurant id).map Restaurant.readRow)
    (menuItems : ∀ id, settle CatalogEvent.writesMenuItem id ((service.liveMenuItem id).map MenuItem.readRow) events =
      (service'.liveMenuItem id).map MenuItem.readRow ∨ service'.Dropped id)
    (owned : ∀ id menuItem, service'.liveMenuItem id = some menuItem → (service'.liveRestaurant menuItem.restaurantId).isSome)
    (deleted : ∀ restaurant, .restaurantDeleted restaurant ∈ service.pending ++ events →
      service'.liveRestaurant restaurant.id = none)
    (known : ∀ event ∈ events, event.Known service')
    (tenants : ∀ id tenantId restaurantId, service'.menuItemOrigin id = some (tenantId, restaurantId) →
      (service'.restaurantOrigin restaurantId).map Prod.fst = some tenantId)
    (ids : ∀ id, service'.menuItemOrigin id ≠ none → id ∈ service'.itemIds) : service'.Invariant := by
  refine ⟨fun id => ?_, fun id => ?_, owned, pending ▸ deleted, ?_, ?_, ?_, tenants, ids, fun call => ?_⟩
  · rw [← restaurants id, ← invariant.restaurants id, settledRestaurant, settledRestaurant, read, pending, settle_append]
  · have settled : service'.settledMenuItem id =
        settle CatalogEvent.writesMenuItem id (service.settledMenuItem id) events := by
      rw [settledMenuItem, settledMenuItem, read, pending, settle_append]
    rcases menuItems id with ends | dropped
    · rcases invariant.menuItems id with before | ⟨gone, silent, restaurant, told, origin⟩
      · exact Or.inl (by rw [settled, before, ends])
      · by_cases written : ∃ event ∈ events, event.writesMenuItem id ≠ none
        · obtain ⟨event, member, writes⟩ := written
          exact Or.inl (by rw [settled, ← ends, settle_written member writes])
        · have silent' : ∀ event ∈ events, event.writesMenuItem id = none := by simpa using written
          rw [settle_skip silent', gone] at ends
          have gone' := Option.map_eq_none_iff.mp ends.symm
          refine Or.inr ⟨gone', fun event member => ?_, restaurant, ?_, grows.menuItems _ _ origin⟩
          · exact (List.mem_append.mp (pending ▸ member)).elim (silent event) (silent' event)
          · exact pending ▸ List.mem_append_left _ told
    · exact Or.inr dropped
  · intro event member
    exact (List.mem_append.mp (pending ▸ member)).elim (fun old => grows.known (invariant.known event old)) (known event)
  · intro id row shown
    exact (invariant.readRestaurants id row (read ▸ shown)).imp_right fun origin => grows.restaurants _ _ origin
  · intro id row shown
    exact (invariant.readMenuItems id row (read ▸ shown)).imp_right fun origin => grows.menuItems _ _ origin
  · rw [calls]
    exact grows.call (invariant.calls call)

theorem liveRestaurant_stored {id : Uuid} {restaurant : Restaurant} (live : service.liveRestaurant id = some restaurant) :
    service.restaurants.find id = some restaurant ∧ restaurant.deletedAt = none ∧ restaurant.id = id := by
  obtain ⟨stored, undeleted⟩ := Option.filter_eq_some_iff.mp live
  exact ⟨stored, by simpa using undeleted, service.restaurants.keyed id restaurant stored⟩

theorem liveMenuItem_stored {id : Uuid} {menuItem : MenuItem} (live : service.liveMenuItem id = some menuItem) :
    service.menuItems.find id = some menuItem ∧ menuItem.deletedAt = none ∧ menuItem.id = id := by
  obtain ⟨stored, undeleted⟩ := Option.filter_eq_some_iff.mp live
  exact ⟨stored, by simpa using undeleted, service.menuItems.keyed id menuItem stored⟩

theorem liveRestaurant_known {id : Uuid} {restaurant : Restaurant} (live : service.liveRestaurant id = some restaurant) :
    restaurant.Known service := by
  obtain ⟨stored, -, rfl⟩ := liveRestaurant_stored live
  simp [Restaurant.Known, restaurantOrigin, stored]

theorem liveMenuItem_known {id : Uuid} {menuItem : MenuItem} (live : service.liveMenuItem id = some menuItem) :
    menuItem.Known service := by
  obtain ⟨stored, -, rfl⟩ := liveMenuItem_stored live
  simp [MenuItem.Known, menuItemOrigin, stored]

theorem liveMenuItem_origin {id : Uuid} {menuItem : MenuItem} (live : service.liveMenuItem id = some menuItem) :
    service.menuItemOrigin id = some (menuItem.tenantId, menuItem.restaurantId) := by
  simp [menuItemOrigin, (liveMenuItem_stored live).1]

/-- A row, new or over an old one, and the event that tells of it. -/
def writeRestaurant (service : Service) (row : Restaurant) (event : CatalogEvent) : Service :=
  { service with restaurants := service.restaurants.put row, pending := service.pending ++ [event] }

def writeMenuItem (service : Service) (row : MenuItem) (itemIds : List Uuid) (event : CatalogEvent) : Service :=
  { service with menuItems := service.menuItems.put row, itemIds := itemIds, pending := service.pending ++ [event] }

section writeRestaurant

variable {row : Restaurant} {event : CatalogEvent}

theorem liveRestaurant_writeRestaurant (service : Service) (event : CatalogEvent) (live : row.deletedAt = none) (id : Uuid) :
    (service.writeRestaurant row event).liveRestaurant id = if id = row.id then some row else service.liveRestaurant id := by
  simp only [liveRestaurant, writeRestaurant, Table.find_put]
  split
  · simp [live]
  · rfl

theorem restaurantOrigin_writeRestaurant (service : Service) (row : Restaurant) (event : CatalogEvent) (id : Uuid) :
    (service.writeRestaurant row event).restaurantOrigin id =
      if id = row.id then some (row.tenantId, row.createdAt) else service.restaurantOrigin id := Table.map_find_put ..

/-- A row that is written over one keeps its origin, and a deleted one is never written over. -/
theorem Invariant.writeRestaurant (invariant : service.Invariant)
    (told : event = .restaurantCreated row ∨ event = .restaurantUpdated row) (live : row.deletedAt = none)
    (stands : ∀ old, service.restaurants.find row.id = some old →
      old.deletedAt = none ∧ old.tenantId = row.tenantId ∧ old.createdAt = row.createdAt) :
    (service.writeRestaurant row event).Invariant := by
  have lives := liveRestaurant_writeRestaurant service event live
  have origins := restaurantOrigin_writeRestaurant service row event
  have grows : Grows service (service.writeRestaurant row event) := by
    refine ⟨fun id origin found => ?_, fun _ _ found => found⟩
    rw [origins]
    split
    · rename_i same
      obtain ⟨old, stored, rfl⟩ := Option.map_eq_some_iff.mp (same ▸ found)
      obtain ⟨-, tenant, created⟩ := stands old stored
      rw [tenant, created]
    · exact found
  refine invariant.extend grows rfl rfl rfl (fun id => ?_) (fun id => Or.inl ?_) (fun id menuItem found => ?_)
    (fun deleted pending => ?_) ?_ (fun id tenantId restaurantId found => ?_) invariant.ids
  · have writes : event.writesRestaurant id = if row.id = id then some (some row.readRow) else none := by
      rcases told with rfl | rfl <;> rfl
    rw [lives, settle_cons, settle_nil, writes, getD_single]
    split <;> rfl
  · have silent : event.writesMenuItem id = none := by rcases told with rfl | rfl <;> rfl
    rw [settle_cons, settle_nil, silent]
    rfl
  · rw [lives]
    split
    · rfl
    · exact invariant.owned id menuItem found
  · have old : .restaurantDeleted deleted ∈ service.pending := by rcases told with rfl | rfl <;> simpa using pending
    have gone := invariant.deleted deleted old
    have other : deleted.id ≠ row.id := by
      intro same
      have known : service.restaurantOrigin deleted.id = _ := invariant.known _ old
      obtain ⟨stored, atRow, -⟩ := Option.map_eq_some_iff.mp (same ▸ known)
      simp [liveRestaurant, same, atRow, (stands stored atRow).1] at gone
    rw [lives, if_neg other]
    exact gone
  · have known : row.Known (service.writeRestaurant row event) := by simp [Restaurant.Known, origins]
    rcases told with rfl | rfl <;> simpa [CatalogEvent.Known] using known
  · exact grows.owner (invariant.tenants id tenantId restaurantId found)

end writeRestaurant

section writeMenuItem

variable {row : MenuItem} {itemIds : List Uuid} {event : CatalogEvent}

theorem liveMenuItem_writeMenuItem (service : Service) (itemIds : List Uuid) (event : CatalogEvent)
    (live : row.deletedAt = none) (id : Uuid) :
    (service.writeMenuItem row itemIds event).liveMenuItem id =
      if id = row.id then some row else service.liveMenuItem id := by
  simp only [liveMenuItem, writeMenuItem, Table.find_put]
  split
  · simp [live]
  · rfl

theorem menuItemOrigin_writeMenuItem (service : Service) (row : MenuItem) (itemIds : List Uuid) (event : CatalogEvent)
    (id : Uuid) : (service.writeMenuItem row itemIds event).menuItemOrigin id =
      if id = row.id then some (row.tenantId, row.restaurantId) else service.menuItemOrigin id := Table.map_find_put ..

theorem Invariant.writeMenuItem (invariant : service.Invariant)
    (told : event = .menuItemCreated row ∨ event = .menuItemUpdated row) (live : row.deletedAt = none)
    (stands : ∀ old, service.menuItems.find row.id = some old →
      old.tenantId = row.tenantId ∧ old.restaurantId = row.restaurantId)
    (tenant : (service.restaurantOrigin row.restaurantId).map Prod.fst = some row.tenantId)
    (owner : (service.liveRestaurant row.restaurantId).isSome)
    (listed : row.id ∈ itemIds) (kept : ∀ id ∈ service.itemIds, id ∈ itemIds) :
    (service.writeMenuItem row itemIds event).Invariant := by
  have lives := liveMenuItem_writeMenuItem service itemIds event live
  have origins := menuItemOrigin_writeMenuItem service row itemIds event
  have grows : Grows service (service.writeMenuItem row itemIds event) := by
    refine ⟨fun _ _ found => found, fun id origin found => ?_⟩
    rw [origins]
    split
    · rename_i same
      obtain ⟨old, stored, rfl⟩ := Option.map_eq_some_iff.mp (same ▸ found)
      obtain ⟨tenant, restaurant⟩ := stands old stored
      rw [tenant, restaurant]
    · exact found
  refine invariant.extend grows rfl rfl rfl (fun id => ?_) (fun id => Or.inl ?_) (fun id menuItem found => ?_)
    (fun deleted pending => ?_) ?_ (fun id tenantId restaurantId found => ?_) (fun id found => ?_)
  · have silent : event.writesRestaurant id = none := by rcases told with rfl | rfl <;> rfl
    rw [settle_cons, settle_nil, silent]
    rfl
  · have writes : event.writesMenuItem id = if row.id = id then some (some row.readRow) else none := by
      rcases told with rfl | rfl <;> rfl
    rw [lives, settle_cons, settle_nil, writes, getD_single]
    split <;> rfl
  · rw [lives] at found
    split at found
    · cases found
      exact owner
    · exact invariant.owned id menuItem found
  · exact invariant.deleted deleted (by rcases told with rfl | rfl <;> simpa using pending)
  · have known : row.Known (service.writeMenuItem row itemIds event) := by simp [MenuItem.Known, origins]
    rcases told with rfl | rfl <;> simpa [CatalogEvent.Known] using known
  · rw [origins] at found
    split at found
    · cases found
      exact tenant
    · exact invariant.tenants id tenantId restaurantId found
  · rw [origins] at found
    split at found
    · rename_i same
      exact same ▸ listed
    · exact kept id (invariant.ids id found)

end writeMenuItem

/-- An update touches a row that is not deleted, or nothing. -/
theorem updateRestaurant_cases (service : Service) (updated : Restaurant) :
    service.updateRestaurant updated = service ∨
    ∃ restaurant, service.liveRestaurant updated.id = some restaurant ∧ service.updateRestaurant updated =
      { service with
        restaurants := service.restaurants.put (updated.updateVersioned restaurant)
        pending := service.pending ++ [.restaurantUpdated (updated.updateVersioned restaurant)] } := by
  unfold updateRestaurant
  cases found : service.findRestaurant updated.id updated.tenantId with
  | none => exact Or.inl rfl
  | some restaurant =>
    have live := (Option.filter_eq_some_iff.mp found).1
    dsimp only
    split
    · exact Or.inr ⟨restaurant, live, rfl⟩
    · exact Or.inl rfl

theorem updateMenuItem_cases (service : Service) (updated : MenuItem) :
    service.updateMenuItem updated = service ∨
    ∃ menuItem, service.liveMenuItem updated.id = some menuItem ∧ service.updateMenuItem updated =
      { service with
        menuItems := service.menuItems.put (updated.updateVersioned menuItem)
        pending := service.pending ++ [.menuItemUpdated (updated.updateVersioned menuItem)] } := by
  unfold updateMenuItem
  cases found : service.findMenuItem updated.id updated.restaurantId updated.tenantId with
  | none => exact Or.inl rfl
  | some menuItem =>
    have live := (Option.filter_eq_some_iff.mp found).1
    dsimp only
    split
    · exact Or.inr ⟨menuItem, live, rfl⟩
    · exact Or.inl rfl

theorem Invariant.updateRestaurant (invariant : service.Invariant) (updated : Restaurant) :
    (service.updateRestaurant updated).Invariant := by
  rcases service.updateRestaurant_cases updated with same | ⟨restaurant, live, writes⟩
  · rwa [same]
  obtain ⟨stored, undeleted, key⟩ := liveRestaurant_stored live
  rw [writes]
  refine invariant.writeRestaurant (Or.inr rfl) undeleted fun old found => ?_
  cases Option.some.inj ((key ▸ stored).symm.trans found)
  exact ⟨undeleted, rfl, rfl⟩

theorem Invariant.updateMenuItem (invariant : service.Invariant) (updated : MenuItem) :
    (service.updateMenuItem updated).Invariant := by
  rcases service.updateMenuItem_cases updated with same | ⟨menuItem, live, writes⟩
  · rwa [same]
  obtain ⟨stored, undeleted, key⟩ := liveMenuItem_stored live
  have known : service.menuItemOrigin menuItem.id = _ := liveMenuItem_known live
  have owner := invariant.owned updated.id menuItem live
  have listed : menuItem.id ∈ service.itemIds := invariant.ids menuItem.id (by simp [known])
  rw [writes]
  refine invariant.writeMenuItem (Or.inr rfl) undeleted (fun old found => ?_) ?_ owner listed fun _ => id
  · cases Option.some.inj ((key ▸ stored).symm.trans found)
    exact ⟨rfl, rfl⟩
  · exact invariant.tenants _ _ _ known

/-- Deleting the rows of a kind leaves the others live, and every row its origin. -/
theorem live_softDelete (p : MenuItem → Prop) [DecidablePred p] (now : Nat) (stored : Option MenuItem) :
    (stored.map fun menuItem => if p menuItem then menuItem.softDelete now else menuItem).filter
      (fun menuItem => menuItem.deletedAt.isNone) =
      (stored.filter fun menuItem => menuItem.deletedAt.isNone).filter fun menuItem => ¬ p menuItem := by
  cases stored with
  | none => rfl
  | some menuItem =>
    rw [Option.map_some]
    by_cases hit : p menuItem
    · cases gone : menuItem.deletedAt <;> simp [Option.filter, hit, gone, MenuItem.softDelete]
    · cases gone : menuItem.deletedAt <;> simp [Option.filter, hit, gone]

theorem origin_softDelete (p : MenuItem → Prop) [DecidablePred p] (now : Nat) (stored : Option MenuItem) :
    (stored.map fun menuItem => if p menuItem then menuItem.softDelete now else menuItem).map
      (fun menuItem => (menuItem.tenantId, menuItem.restaurantId)) =
      stored.map fun menuItem => (menuItem.tenantId, menuItem.restaurantId) := by
  cases stored with
  | none => rfl
  | some menuItem => by_cases hit : p menuItem <;> simp [hit, MenuItem.softDelete]

theorem liveMenuItem_deleteMenuItem {before : MenuItem} (known : before.Known service) (now : Nat) (id : Uuid) :
    (service.deleteMenuItem before now).liveMenuItem id = if id = before.id then none else service.liveMenuItem id := by
  have swept : (service.deleteMenuItem before now).liveMenuItem id = (service.liveMenuItem id).filter _ :=
    live_softDelete _ now (service.menuItems.find id)
  rw [swept]
  cases live : service.liveMenuItem id with
  | none => simp
  | some menuItem =>
    have key := (liveMenuItem_stored live).2.2
    by_cases same : id = before.id
    · have origin : service.menuItemOrigin before.id = _ := known
      rw [← same, liveMenuItem_origin live] at origin
      have tenant : menuItem.tenantId = before.tenantId := (Prod.mk.inj (Option.some.inj origin)).1
      simp [same, key, tenant]
    · simp [same, key]

theorem Invariant.deleteMenuItem {before : MenuItem} (invariant : service.Invariant) (known : before.Known service)
    (now : Nat) : (service.deleteMenuItem before now).Invariant := by
  have lives := liveMenuItem_deleteMenuItem known now
  have origins (id : Uuid) : (service.deleteMenuItem before now).menuItemOrigin id = service.menuItemOrigin id :=
    origin_softDelete _ now (service.menuItems.find id)
  have grows : Grows service (service.deleteMenuItem before now) :=
    ⟨fun _ _ found => found, fun id _ found => (origins id).trans found⟩
  refine invariant.extend grows rfl rfl rfl (fun id => rfl) (fun id => Or.inl ?_) (fun id menuItem found => ?_)
    (fun deleted pending => ?_) ?_ (fun id tenantId restaurantId found => ?_) (fun id found => ?_)
  · rw [lives, settle_cons, settle_nil, CatalogEvent.writesMenuItem, getD_single]
    split <;> rfl
  · rw [lives] at found
    split at found
    · cases found
    · exact invariant.owned id menuItem found
  · exact invariant.deleted deleted (by simpa using pending)
  · have kept : before.Known (service.deleteMenuItem before now) := grows.menuItems _ _ known
    simpa [CatalogEvent.Known] using kept
  · exact invariant.tenants id tenantId restaurantId ((origins id).symm.trans found)
  · exact invariant.ids id ((origins id).symm.trans_ne found)

theorem settle_menuItemDeleted (items : List MenuItem) (id : Uuid) (value : Option ReadMenuItemRow) :
    settle CatalogEvent.writesMenuItem id value (items.map .menuItemDeleted) =
      if id ∈ items.map (·.id) then none else value := by
  induction items generalizing value with
  | nil => rfl
  | cons item items ih =>
    rw [List.map_cons, settle_cons, ih, CatalogEvent.writesMenuItem]
    by_cases same : item.id = id
    · simp [same]
    · simp [same, Ne.symm same]

section deleteRestaurant

variable {before : Restaurant} {items : List MenuItem} {ids : List Uuid} {now : Nat}

theorem liveRestaurant_deleteRestaurant (items : List MenuItem) (ids : List Uuid) (now : Nat)
    (known : before.Known service) (id : Uuid) :
    (service.deleteRestaurant before items ids now).liveRestaurant id =
      if id = before.id then none else service.liveRestaurant id := by
  unfold liveRestaurant deleteRestaurant
  rw [Table.find_mapRows]
  cases stored : service.restaurants.find id with
  | none => simp
  | some restaurant =>
    have key := service.restaurants.keyed id restaurant stored
    by_cases same : id = before.id
    · have origin : service.restaurantOrigin before.id = _ := known
      have tenant : restaurant.tenantId = before.tenantId := by simp_all [restaurantOrigin]
      simp [Option.filter, key, same, tenant, Restaurant.softDelete]
    · simp [Option.filter, key, same]

theorem restaurantOrigin_deleteRestaurant (id : Uuid) :
    (service.deleteRestaurant before items ids now).restaurantOrigin id = service.restaurantOrigin id := by
  unfold restaurantOrigin deleteRestaurant
  rw [Table.find_mapRows]
  cases service.restaurants.find id with
  | none => rfl
  | some restaurant =>
    by_cases hit : restaurant.id = before.id ∧ restaurant.tenantId = before.tenantId
    · simp [hit, Restaurant.softDelete]
    · simp [hit]

theorem menuItemOrigin_deleteRestaurant (id : Uuid) :
    (service.deleteRestaurant before items ids now).menuItemOrigin id = service.menuItemOrigin id :=
  origin_softDelete _ now (service.menuItems.find id)

/-- The bulk deletion reaches every live menu item of the restaurant that was there when it ran. -/
theorem Invariant.liveMenuItem_deleteRestaurant (invariant : service.Invariant) (known : before.Known service) {id : Uuid}
    {menuItem : MenuItem} (live : (service.deleteRestaurant before items ids now).liveMenuItem id = some menuItem) :
    service.liveMenuItem id = some menuItem ∧ (menuItem.restaurantId = before.id → id ∉ ids) := by
  have swept : (service.deleteRestaurant before items ids now).liveMenuItem id = (service.liveMenuItem id).filter _ :=
    live_softDelete _ now (service.menuItems.find id)
  obtain ⟨found, kept⟩ := Option.filter_eq_some_iff.mp (swept.symm.trans live)
  refine ⟨found, fun owned member => ?_⟩
  have key := (liveMenuItem_stored found).2.2
  have tenant := invariant.tenants _ _ _ (liveMenuItem_origin found)
  have both : service.restaurantOrigin before.id = _ := known
  rw [owned, both] at tenant
  have same : before.tenantId = menuItem.tenantId := Option.some.inj tenant
  simp [owned, same, key, member] at kept

theorem liveMenuItem_deleteRestaurant_other {id : Uuid} {menuItem : MenuItem} (live : service.liveMenuItem id = some menuItem)
    (other : menuItem.restaurantId ≠ before.id) :
    (service.deleteRestaurant before items ids now).liveMenuItem id = some menuItem := by
  have swept : (service.deleteRestaurant before items ids now).liveMenuItem id = (service.liveMenuItem id).filter _ :=
    live_softDelete _ now (service.menuItems.find id)
  rw [swept, live]
  simp [Option.filter, other]

theorem owned_of_listed {id : Uuid} {menuItem : MenuItem} (sound : (Call.swept before items ids).Sound service)
    (live : service.liveMenuItem id = some menuItem) (listed : id ∈ items.map (·.id)) : menuItem.restaurantId = before.id := by
  obtain ⟨item, inItems, rfl⟩ := List.mem_map.mp listed
  obtain ⟨known, owned, -⟩ := sound.2 item inItems
  have origin : service.menuItemOrigin item.id = _ := known
  rw [liveMenuItem_origin live] at origin
  have same : menuItem.restaurantId = item.restaurantId := (Prod.mk.inj (Option.some.inj origin)).2
  exact same.trans owned

variable (invariant : service.Invariant) (sound : (Call.swept before items ids).Sound service)
  (calm : ∀ id menuItem, service.liveMenuItem id = some menuItem → menuItem.restaurantId = before.id →
    id ∈ items.map (·.id) ∨ id ∈ ids ∧ ∀ event ∈ service.pending, event.aggregateId ≠ id)
include invariant sound calm

theorem Invariant.reached (now : Nat) {id : Uuid} {menuItem : MenuItem} (live : service.liveMenuItem id = some menuItem)
    (owned : menuItem.restaurantId = before.id) :
    (service.deleteRestaurant before items ids now).liveMenuItem id = none := by
  by_contra still
  obtain ⟨other, found⟩ := Option.ne_none_iff_exists'.mp still
  obtain ⟨same, missed⟩ := invariant.liveMenuItem_deleteRestaurant sound.1 found
  cases Option.some.inj (live.symm.trans same)
  rcases calm id menuItem live owned with listed | ⟨swept, -⟩
  · obtain ⟨item, inItems, rfl⟩ := List.mem_map.mp listed
    exact missed owned (sound.2 item inItems).2.2.2
  · exact missed owned swept

/-- A deletion is told of all the menu items it listed, and the read model
drops the others that it reached together with the restaurant. -/
theorem Invariant.menuItems_deleteRestaurant (id : Uuid) :
    settle CatalogEvent.writesMenuItem id ((service.liveMenuItem id).map MenuItem.readRow)
        (.restaurantDeleted before :: items.map .menuItemDeleted) =
        ((service.deleteRestaurant before items ids now).liveMenuItem id).map MenuItem.readRow ∨
      (service.deleteRestaurant before items ids now).Dropped id := by
  have restaurantEvent : (CatalogEvent.restaurantDeleted before).writesMenuItem id = none := rfl
  rw [settle_cons, restaurantEvent, Option.getD_none, settle_menuItemDeleted]
  cases live : service.liveMenuItem id with
  | none =>
    have gone : (service.deleteRestaurant before items ids now).liveMenuItem id = none := by
      by_contra still
      obtain ⟨other, found⟩ := Option.ne_none_iff_exists'.mp still
      have before := (invariant.liveMenuItem_deleteRestaurant sound.1 found).1
      simp [live] at before
    simp [gone]
  | some menuItem =>
    by_cases owned : menuItem.restaurantId = before.id
    · have gone := invariant.reached sound calm now live owned
      by_cases told : id ∈ items.map (·.id)
      · exact Or.inl (by rw [if_pos told, gone, Option.map_none])
      · obtain ⟨-, quiet⟩ := (calm id menuItem live owned).resolve_left told
        refine Or.inr ⟨gone, fun event member => ?_, before, ?_, ?_⟩
        · rcases List.mem_append.mp member with old | new
          · exact CatalogEvent.writesMenuItem_other (quiet event old)
          · rcases List.mem_cons.mp new with rfl | deletion
            · rfl
            · obtain ⟨item, inItems, rfl⟩ := List.mem_map.mp deletion
              have other : item.id ≠ id := fun same => told (List.mem_map.mpr ⟨item, inItems, same⟩)
              exact CatalogEvent.writesMenuItem_other other
        · exact List.mem_append_right _ (List.mem_cons_self ..)
        · have origin := liveMenuItem_origin live
          have tenant := invariant.tenants _ _ _ origin
          have known : service.restaurantOrigin before.id = _ := sound.1
          rw [owned, known] at tenant
          rw [menuItemOrigin_deleteRestaurant, origin, owned, ← Option.some.inj tenant]
    · have untold : id ∉ items.map (·.id) := fun told => owned (owned_of_listed sound live told)
      exact Or.inl (by rw [if_neg untold, liveMenuItem_deleteRestaurant_other live owned])

theorem Invariant.deleteRestaurant (now : Nat) : (service.deleteRestaurant before items ids now).Invariant := by
  have lives := liveRestaurant_deleteRestaurant items ids now sound.1
  have grows : Grows service (service.deleteRestaurant before items ids now) :=
    ⟨fun id _ found => (restaurantOrigin_deleteRestaurant id).trans found,
      fun id _ found => (menuItemOrigin_deleteRestaurant id).trans found⟩
  refine @Invariant.extend _ _ (.restaurantDeleted before :: items.map .menuItemDeleted) invariant grows rfl rfl rfl
    (fun id => ?_) (invariant.menuItems_deleteRestaurant sound calm) (fun id menuItem found => ?_)
    (fun deleted pending => ?_) (fun event member => ?_) (fun id tenantId restaurantId found => ?_) (fun id found => ?_)
  · have silent : ∀ event ∈ items.map CatalogEvent.menuItemDeleted, event.writesRestaurant id = none := by
      simp [CatalogEvent.writesRestaurant]
    rw [lives, settle_cons, settle_skip silent, CatalogEvent.writesRestaurant, getD_single]
    split <;> rfl
  · obtain ⟨live, -⟩ := invariant.liveMenuItem_deleteRestaurant sound.1 found
    have other : menuItem.restaurantId ≠ before.id := by
      intro owned
      simp [invariant.reached sound calm now live owned] at found
    rw [lives, if_neg other]
    exact invariant.owned id menuItem live
  · rw [lives]
    split
    · rfl
    · rename_i other
      have old : .restaurantDeleted deleted ∈ service.pending := by
        rcases List.mem_append.mp pending with old | new
        · exact old
        · have same : deleted = before := by simpa using new
          exact absurd (congrArg Restaurant.id same) other
      exact invariant.deleted deleted old
  · rcases List.mem_cons.mp member with rfl | told
    · exact grows.restaurants _ _ sound.1
    · obtain ⟨item, inItems, rfl⟩ := List.mem_map.mp told
      exact grows.menuItems _ _ (sound.2 item inItems).1
  · exact grows.owner (invariant.tenants id tenantId restaurantId ((menuItemOrigin_deleteRestaurant id).symm.trans found))
  · exact invariant.ids id ((menuItemOrigin_deleteRestaurant id).symm.trans_ne found)

end deleteRestaurant

theorem writesRestaurant_known {event : CatalogEvent} {id : Uuid} {row : ReadRestaurantRow} (known : event.Known service)
    (writes : event.writesRestaurant id = some (some row)) :
    row.id = id ∧ service.restaurantOrigin id = some (row.tenantId, row.createdAt) := by
  cases event with
  | restaurantCreated restaurant =>
    simp only [CatalogEvent.writesRestaurant, Option.ite_none_right_eq_some, Option.some.injEq] at writes
    obtain ⟨rfl, rfl⟩ := writes
    exact ⟨rfl, known⟩
  | restaurantUpdated restaurant =>
    simp only [CatalogEvent.writesRestaurant, Option.ite_none_right_eq_some, Option.some.injEq] at writes
    obtain ⟨rfl, rfl⟩ := writes
    exact ⟨rfl, known⟩
  | restaurantDeleted restaurant => simp [CatalogEvent.writesRestaurant] at writes
  | _ => cases writes

theorem writesMenuItem_known {event : CatalogEvent} {id : Uuid} {row : ReadMenuItemRow} (known : event.Known service)
    (writes : event.writesMenuItem id = some (some row)) :
    row.id = id ∧ service.menuItemOrigin id = some (row.tenantId, row.restaurantId) := by
  cases event with
  | menuItemCreated menuItem =>
    simp only [CatalogEvent.writesMenuItem, Option.ite_none_right_eq_some, Option.some.injEq] at writes
    obtain ⟨rfl, rfl⟩ := writes
    exact ⟨rfl, known⟩
  | menuItemUpdated menuItem =>
    simp only [CatalogEvent.writesMenuItem, Option.ite_none_right_eq_some, Option.some.injEq] at writes
    obtain ⟨rfl, rfl⟩ := writes
    exact ⟨rfl, known⟩
  | menuItemDeleted menuItem => simp [CatalogEvent.writesMenuItem] at writes
  | _ => cases writes

/-- A snapshot that meets its row only overwrites the columns that may differ. -/
theorem Invariant.upsertRestaurant (invariant : service.Invariant) {restaurant : Restaurant}
    (known : restaurant.Known service) (id : Uuid) :
    ((service.read.upsertRestaurant restaurant.readRow).restaurants id).map (·.toReadRestaurantRow) =
      if restaurant.id = id then some restaurant.readRow
      else (service.read.restaurants id).map (·.toReadRestaurantRow) := by
  have rows : (service.read.upsertRestaurant restaurant.readRow).restaurants id = if id = restaurant.id then _ else _ :=
    Function.update_apply ..
  rw [rows]
  by_cases same : restaurant.id = id
  · subst same
    rw [if_pos rfl, if_pos rfl, Option.map_some]
    cases shown : service.read.restaurants restaurant.id with
    | none => simp [Catalog.upsertRestaurant, Restaurant.readRow, shown]
    | some row =>
      obtain ⟨key, origin⟩ := invariant.readRestaurants _ row shown
      have both : service.restaurantOrigin restaurant.id = _ := known
      rw [origin] at both
      obtain ⟨tenant, created⟩ := Prod.mk.inj (Option.some.inj both)
      simp [Catalog.upsertRestaurant, Restaurant.readRow, shown, key, tenant, created]
  · rw [if_neg same, if_neg (Ne.symm same)]

theorem Invariant.applyCatalogEvent_restaurants (invariant : service.Invariant) {event : CatalogEvent}
    (known : event.Known service) (id : Uuid) :
    ((applyCatalogEvent service.read event).restaurants id).map (·.toReadRestaurantRow) =
      (event.writesRestaurant id).getD ((service.read.restaurants id).map (·.toReadRestaurantRow)) := by
  cases event with
  | restaurantCreated restaurant =>
    rw [applyCatalogEvent, invariant.upsertRestaurant known, CatalogEvent.writesRestaurant]
    split <;> rfl
  | restaurantUpdated restaurant =>
    rw [applyCatalogEvent, invariant.upsertRestaurant known, CatalogEvent.writesRestaurant]
    split <;> rfl
  | restaurantDeleted restaurant =>
    have rows : (applyCatalogEvent service.read (.restaurantDeleted restaurant)).restaurants id =
        if id = restaurant.id then _ else _ := Function.update_apply ..
    rw [rows, CatalogEvent.writesRestaurant]
    by_cases same : restaurant.id = id
    · subst same
      cases shown : service.read.restaurants restaurant.id with
      | none => simp
      | some row =>
        have both : service.restaurantOrigin restaurant.id = _ := known
        rw [(invariant.readRestaurants _ row shown).2] at both
        have tenant := (Prod.mk.inj (Option.some.inj both)).1
        simp [Option.filter, tenant]
    · simp [same, Ne.symm same]
  | _ => rfl

theorem upsertMenuItem_menuItems (menuItem : MenuItem) (id : Uuid) :
    (service.read.upsertMenuItem menuItem.readRow).menuItems id =
      (if menuItem.id = id then some (some menuItem.readRow) else none).getD (service.read.menuItems id) := by
  rw [getD_single]
  exact Function.update_apply ..

theorem Invariant.applyCatalogEvent_menuItems (invariant : service.Invariant) {event : CatalogEvent}
    (known : event.Known service) (single : ∀ restaurant, event ≠ .restaurantDeleted restaurant) (id : Uuid) :
    (applyCatalogEvent service.read event).menuItems id = (event.writesMenuItem id).getD (service.read.menuItems id) := by
  cases event with
  | menuItemCreated menuItem => exact upsertMenuItem_menuItems menuItem id
  | menuItemUpdated menuItem => exact upsertMenuItem_menuItems menuItem id
  | menuItemDeleted menuItem =>
    have rows : (applyCatalogEvent service.read (.menuItemDeleted menuItem)).menuItems id =
        if id = menuItem.id then _ else _ := Function.update_apply ..
    rw [rows, CatalogEvent.writesMenuItem]
    by_cases same : menuItem.id = id
    · subst same
      cases shown : service.read.menuItems menuItem.id with
      | none => simp
      | some row =>
        have both : service.menuItemOrigin menuItem.id = _ := known
        rw [(invariant.readMenuItems _ row shown).2] at both
        have tenant := (Prod.mk.inj (Option.some.inj both)).1
        simp [Option.filter, tenant]
    · simp [same, Ne.symm same]
  | restaurantDeleted restaurant => exact absurd rfl (single restaurant)
  | _ => rfl

section removeRestaurant

variable {restaurant : Restaurant} {id : Uuid} (invariant : service.Invariant)
include invariant

theorem Invariant.gone_with_restaurant (told : .restaurantDeleted restaurant ∈ service.pending)
    (belongs : service.menuItemOrigin id = some (restaurant.tenantId, restaurant.id)) : service.liveMenuItem id = none := by
  by_contra still
  obtain ⟨menuItem, live⟩ := Option.ne_none_iff_exists'.mp still
  have owner := invariant.owned id menuItem live
  have origin := (liveMenuItem_origin live).symm.trans belongs
  rw [(Prod.mk.inj (Option.some.inj origin)).2, invariant.deleted restaurant told] at owner
  cases owner

theorem Invariant.removed_with_restaurant (belongs : service.menuItemOrigin id = some (restaurant.tenantId, restaurant.id)) :
    (applyCatalogEvent service.read (.restaurantDeleted restaurant)).menuItems id = none := by
  cases shown : service.read.menuItems id with
  | none => simp [applyCatalogEvent, ReadModel.removeRestaurant, shown]
  | some row =>
    have origin := (invariant.readMenuItems id row shown).2.symm.trans belongs
    obtain ⟨tenant, owner⟩ := Prod.mk.inj (Option.some.inj origin)
    simp [applyCatalogEvent, ReadModel.removeRestaurant, shown, Option.filter, tenant, owner]

theorem Invariant.kept_beside_restaurant (other : service.menuItemOrigin id ≠ some (restaurant.tenantId, restaurant.id)) :
    (applyCatalogEvent service.read (.restaurantDeleted restaurant)).menuItems id = service.read.menuItems id := by
  cases shown : service.read.menuItems id with
  | none => simp [applyCatalogEvent, ReadModel.removeRestaurant, shown]
  | some row =>
    have origin := (invariant.readMenuItems id row shown).2
    have foreign : ¬ (row.restaurantId = restaurant.id ∧ row.tenantId = restaurant.tenantId) := by
      rintro ⟨owner, tenant⟩
      exact other (by rw [origin, owner, tenant])
    simp [applyCatalogEvent, ReadModel.removeRestaurant, shown, Option.filter, foreign]

end removeRestaurant

theorem still_pending {before after : List CatalogEvent} {event : CatalogEvent}
    (pending : service.pending = before ++ event :: after) : before ++ after ⊆ service.pending :=
  pending ▸ ((List.sublist_cons_self event after).append_left before).subset

section deliver

variable {before after : List CatalogEvent} {event : CatalogEvent} (invariant : service.Invariant)
  (pending : service.pending = before ++ event :: after) (first : ∀ earlier ∈ before, earlier.aggregateId ≠ event.aggregateId)
include invariant pending

theorem Invariant.readMenuItems_deliver (id : Uuid) (row : ReadMenuItemRow)
    (shown : (applyCatalogEvent service.read event).menuItems id = some row) :
    row.id = id ∧ service.menuItemOrigin id = some (row.tenantId, row.restaurantId) := by
  have known : event.Known service := invariant.known event (by simp [pending])
  by_cases single : ∀ restaurant, event ≠ .restaurantDeleted restaurant
  · rw [invariant.applyCatalogEvent_menuItems known single] at shown
    cases writes : event.writesMenuItem id with
    | none =>
      rw [writes, Option.getD_none] at shown
      exact invariant.readMenuItems id row shown
    | some written =>
      rw [writes, Option.getD_some] at shown
      exact writesMenuItem_known known (writes.trans (congrArg some shown))
  · obtain ⟨restaurant, rfl⟩ : ∃ restaurant, event = .restaurantDeleted restaurant := by simpa using single
    exact invariant.readMenuItems id row (Option.filter_eq_some_iff.mp shown).1

theorem Invariant.readRestaurants_deliver (id : Uuid) (row : ReadRestaurant)
    (shown : (applyCatalogEvent service.read event).restaurants id = some row) :
    row.id = id ∧ service.restaurantOrigin id = some (row.tenantId, row.createdAt) := by
  have known : event.Known service := invariant.known event (by simp [pending])
  have columns := invariant.applyCatalogEvent_restaurants known id
  rw [shown, Option.map_some] at columns
  cases writes : event.writesRestaurant id with
  | none =>
    rw [writes, Option.getD_none] at columns
    obtain ⟨old, stored, same⟩ := Option.map_eq_some_iff.mp columns.symm
    rw [← same]
    exact invariant.readRestaurants id old stored
  | some written =>
    rw [writes, Option.getD_some] at columns
    exact writesRestaurant_known known (writes.trans (congrArg some columns.symm))

/-- The deletion of a restaurant takes its menu items out of the read model;
none of them is live. -/
theorem Invariant.menuItems_restaurantDeleted {restaurant : Restaurant} (deletion : event = .restaurantDeleted restaurant)
    (id : Uuid) :
    settle CatalogEvent.writesMenuItem id ((applyCatalogEvent service.read event).menuItems id) (before ++ after) =
        (service.liveMenuItem id).map MenuItem.readRow ∨
      service.liveMenuItem id = none ∧ (∀ later ∈ before ++ after, later.writesMenuItem id = none) ∧
        ∃ other, .restaurantDeleted other ∈ before ++ after ∧
          service.menuItemOrigin id = some (other.tenantId, other.id) := by
  subst deletion
  have silent : (CatalogEvent.restaurantDeleted restaurant).writesMenuItem id = none := rfl
  have skips (value : Option ReadMenuItemRow) : settle CatalogEvent.writesMenuItem id value (before ++ after) =
      settle CatalogEvent.writesMenuItem id value service.pending := by
    rw [pending]
    exact settle_deliver (e := CatalogEvent.restaurantDeleted restaurant) fun writes => absurd silent writes
  have told : CatalogEvent.restaurantDeleted restaurant ∈ service.pending := by simp [pending]
  have rest := still_pending pending
  by_cases belongs : service.menuItemOrigin id = some (restaurant.tenantId, restaurant.id)
  · have gone := invariant.gone_with_restaurant told belongs
    left
    rw [invariant.removed_with_restaurant belongs, gone, Option.map_none]
    by_cases written : ∃ later ∈ before ++ after, later.writesMenuItem id ≠ none
    · obtain ⟨later, member, writes⟩ := written
      rw [settle_written member writes (service.read.menuItems id), skips]
      rcases invariant.menuItems id with settled | ⟨-, quiet, -⟩
      · exact settled.trans (by rw [gone, Option.map_none])
      · exact absurd (quiet later (rest member)) writes
    · exact settle_skip (by simpa using written)
  · rw [invariant.kept_beside_restaurant belongs, skips]
    rcases invariant.menuItems id with settled | ⟨gone, quiet, other, otherTold, origin⟩
    · exact Or.inl settled
    · refine Or.inr ⟨gone, fun later member => quiet later (rest member), other, ?_, origin⟩
      rw [pending] at otherTold
      rcases List.mem_append.mp otherTold with earlier | later
      · exact List.mem_append_left _ earlier
      · rcases List.mem_cons.mp later with same | after
        · cases same
          exact absurd origin belongs
        · exact List.mem_append_right _ after

include first

theorem Invariant.restaurants_deliver (id : Uuid) :
    settle CatalogEvent.writesRestaurant id
      (((applyCatalogEvent service.read event).restaurants id).map (·.toReadRestaurantRow)) (before ++ after) =
      (service.liveRestaurant id).map Restaurant.readRow := by
  have known : event.Known service := invariant.known event (by simp [pending])
  rw [← invariant.restaurants id, settledRestaurant, pending, invariant.applyCatalogEvent_restaurants known]
  refine settle_deliver fun writes earlier member => ?_
  have about : event.aggregateId = id := by
    by_contra other
    exact writes (CatalogEvent.writesRestaurant_other other)
  exact CatalogEvent.writesRestaurant_other (about ▸ first earlier member)

theorem Invariant.menuItems_deliver (id : Uuid) :
    settle CatalogEvent.writesMenuItem id ((applyCatalogEvent service.read event).menuItems id) (before ++ after) =
        (service.liveMenuItem id).map MenuItem.readRow ∨
      service.liveMenuItem id = none ∧ (∀ later ∈ before ++ after, later.writesMenuItem id = none) ∧
        ∃ other, .restaurantDeleted other ∈ before ++ after ∧
          service.menuItemOrigin id = some (other.tenantId, other.id) := by
  by_cases single : ∀ restaurant, event ≠ .restaurantDeleted restaurant
  · have known : event.Known service := invariant.known event (by simp [pending])
    rw [invariant.applyCatalogEvent_menuItems known single]
    rcases invariant.menuItems id with settled | ⟨gone, quiet, other, told, origin⟩
    · left
      rw [← settled, settledMenuItem, pending]
      refine settle_deliver fun writes earlier member => ?_
      have about : event.aggregateId = id := by
        by_contra other
        exact writes (CatalogEvent.writesMenuItem_other other)
      exact CatalogEvent.writesMenuItem_other (about ▸ first earlier member)
    · have rest := still_pending pending
      refine Or.inr ⟨gone, fun later member => quiet later (rest member), other, ?_, origin⟩
      rw [pending] at told
      rcases List.mem_append.mp told with earlier | later
      · exact List.mem_append_left _ earlier
      · exact List.mem_append_right _ (List.mem_of_ne_of_mem (single other).symm later)
  · obtain ⟨restaurant, deletion⟩ : ∃ restaurant, event = .restaurantDeleted restaurant := by simpa using single
    exact invariant.menuItems_restaurantDeleted pending deletion id

theorem Invariant.deliver {applied : List CatalogEvent} :
    ({ service with
        pending := before ++ after, applied := applied
        read := applyCatalogEvent service.read event } : Service).Invariant := by
  have rest := still_pending pending
  have same : Grows service { service with
      pending := before ++ after, applied := applied, read := applyCatalogEvent service.read event } :=
    ⟨fun _ _ found => found, fun _ _ found => found⟩
  exact ⟨invariant.restaurants_deliver pending first, invariant.menuItems_deliver pending first, invariant.owned,
    fun restaurant told => invariant.deleted restaurant (rest told),
    fun later member => same.known (invariant.known later (rest member)), invariant.readRestaurants_deliver pending,
    invariant.readMenuItems_deliver pending, invariant.tenants, invariant.ids, fun call => same.call (invariant.calls call)⟩

end deliver

theorem Invariant.setCall {call : Nat} {stage : Call} (invariant : service.Invariant) (sound : stage.Sound service) :
    (service.setCall call stage).Invariant := by
  have same : Grows service (service.setCall call stage) := ⟨fun _ _ found => found, fun _ _ found => found⟩
  refine ⟨invariant.restaurants, invariant.menuItems, invariant.owned, invariant.deleted,
    fun event member => same.known (invariant.known event member), invariant.readRestaurants, invariant.readMenuItems,
    invariant.tenants, invariant.ids, ?_⟩
  refine (Function.forall_update_iff service.calls fun _ stage => stage.Sound _).mpr ⟨same.call sound, ?_⟩
  exact fun other _ => same.call (invariant.calls other)

theorem Invariant.lookUp {Row : Type} {call : Nat} {found : Option Row} {next : Row → Call} (invariant : service.Invariant)
    (step : service.lookUp call found next = some service') (sound : ∀ row, found = some row → (next row).Sound service) :
    service'.Invariant := by
  unfold Service.lookUp at step
  split at step
  · cases step
    cases found with
    | none => exact invariant.setCall trivial
    | some row => exact invariant.setCall (sound row rfl)
  · cases step

theorem findRestaurant_live {id tenantId : Uuid} {restaurant : Restaurant}
    (found : service.findRestaurant id tenantId = some restaurant) :
    service.liveRestaurant id = some restaurant ∧ restaurant.tenantId = tenantId := by
  obtain ⟨live, tenant⟩ := Option.filter_eq_some_iff.mp found
  exact ⟨live, by simpa using tenant⟩

theorem findMenuItem_live {id restaurantId tenantId : Uuid} {menuItem : MenuItem}
    (found : service.findMenuItem id restaurantId tenantId = some menuItem) :
    service.liveMenuItem id = some menuItem ∧ menuItem.restaurantId = restaurantId ∧ menuItem.tenantId = tenantId := by
  obtain ⟨live, owner⟩ := Option.filter_eq_some_iff.mp found
  exact ⟨live, by simpa using owner⟩

theorem findAllByRestaurant_known {restaurantId tenantId : Uuid} {item : MenuItem}
    (member : item ∈ service.findAllByRestaurant restaurantId tenantId) :
    item.Known service ∧ item.restaurantId = restaurantId ∧ item.tenantId = tenantId := by
  obtain ⟨id, -, found⟩ := List.mem_filterMap.mp member
  obtain ⟨live, owner⟩ := findMenuItem_live found
  exact ⟨liveMenuItem_known live, owner⟩

theorem Invariant.commit {call now : Nat} {after : Service} (invariant : service.Invariant)
    (calm : Calm ⟨service, .commit call now, after⟩) (step : service.commit now (service.calls call) = some service') :
    service'.Invariant := by
  have sound := invariant.calls call
  obtain ⟨creates, deletes⟩ := calm call now rfl
  cases stage : service.calls call with
  | creatingRestaurant restaurant =>
    rw [stage] at sound step
    simp only [Service.commit, Option.isNone_iff_eq_none] at step
    split at step
    · rename_i fresh
      cases step
      exact invariant.writeRestaurant (Or.inl rfl) sound (by simp [fresh])
    · cases step
  | creatingMenuItem menuItem =>
    rw [stage] at sound step
    simp only [Service.commit, Option.isNone_iff_eq_none] at step
    split at step
    · rename_i fresh
      cases step
      exact invariant.writeMenuItem (Or.inl rfl) sound.1 (by simp [fresh]) sound.2 (creates menuItem stage)
        (List.mem_cons_self ..) fun _ => List.mem_cons_of_mem _
    · cases step
  | updatingRestaurant updated =>
    rw [stage] at step
    cases step
    exact invariant.updateRestaurant updated
  | updatingMenuItem updated =>
    rw [stage] at step
    cases step
    exact invariant.updateMenuItem updated
  | deletingMenuItem before =>
    rw [stage] at sound step
    cases step
    exact invariant.deleteMenuItem sound now
  | swept before items ids =>
    rw [stage] at sound step
    cases step
    exact invariant.deleteRestaurant sound (deletes before items ids stage) now
  | _ =>
    rw [stage] at step
    cases step

theorem Invariant.step {action : Action} (invariant : service.Invariant) (calm : Calm ⟨service, action, service'⟩)
    (step : service.step action = some service') : service'.Invariant := by
  cases action with
  | createRestaurant call id tenantId name description isActive now =>
    exact invariant.lookUp step fun _ _ => rfl
  | updateRestaurant call id tenantId changes expectedVersion now => exact invariant.lookUp step fun _ _ => trivial
  | deleteRestaurant call id tenantId =>
    exact invariant.lookUp step fun restaurant found => liveRestaurant_known (findRestaurant_live found).1
  | createMenuItem call id tenantId restaurantId name description priceCents isAvailable now =>
    refine invariant.lookUp step fun restaurant found => ⟨rfl, ?_⟩
    obtain ⟨live, tenant⟩ := findRestaurant_live found
    have known : service.restaurantOrigin restaurant.id = _ := liveRestaurant_known live
    rw [(liveRestaurant_stored live).2.2] at known
    simp [MenuItem.create, known, tenant]
  | updateMenuItem call id tenantId restaurantId changes expectedVersion now =>
    exact invariant.lookUp step fun _ _ => trivial
  | deleteMenuItem call id tenantId restaurantId =>
    exact invariant.lookUp step fun menuItem found => liveMenuItem_known (findMenuItem_live found).1
  | list call =>
    simp only [Service.step] at step
    split at step
    · rename_i before stage
      cases step
      have known := invariant.calls call
      rw [stage] at known
      exact invariant.setCall ⟨known, fun item member => findAllByRestaurant_known member⟩
    · cases step
  | sweep call =>
    simp only [Service.step] at step
    split at step
    · rename_i before items stage
      cases step
      have sound := invariant.calls call
      rw [stage] at sound
      refine invariant.setCall ⟨sound.1, fun item member => ?_⟩
      obtain ⟨known, owner, tenant⟩ := sound.2 item member
      have origin : service.menuItemOrigin item.id = _ := known
      exact ⟨known, owner, tenant, invariant.ids item.id (by simp [origin])⟩
    · cases step
  | commit call now =>
    obtain ⟨committed, commits, rfl⟩ := Option.map_eq_some_iff.mp step
    have kept := invariant.commit calm commits
    exact kept.setCall trivial
  | abandon call =>
    cases step
    exact invariant.setCall trivial
  | deliver n =>
    simp only [Service.step] at step
    split at step
    · rename_i event here
      split at step
      · rename_i first
        cases step
        have split : service.pending = service.pending.take n ++ event :: service.pending.drop (n + 1) := by
          obtain ⟨short, rfl⟩ := List.getElem?_eq_some_iff.mp here
          rw [← List.drop_eq_getElem_cons short, List.take_append_drop]
        exact invariant.deliver split first
      · cases step
    · cases step
  | redeliver event =>
    simp only [Service.step] at step
    split at step <;> cases step
    exact invariant

end Service

/-- A run in which no transaction overtakes the deletion of a restaurant: whenever
every event has been applied, the read model shows the write model. -/
theorem converges_while_calm {log : List (Commit Service Action)} (run : Run log service)
    (calm : ∀ commit ∈ log, Calm commit) : ∀ s, Seen log service s → s.pending = [] → s.Converged := by
  intro s seen applied
  have invariant : s.Invariant := by
    refine run.invariant_of (I := Service.Invariant) ?_ (fun _ _ _ _ step calm kept => kept.step calm step) calm s seen
    rintro _ rfl
    exact Service.Invariant.empty
  exact invariant.converged applied

def sampleMenuItem : List Action :=
  [.createRestaurant 0 "restaurant-1" "tenant-1" "Nhà hàng" none true 1, .commit 0 1,
    .createMenuItem 1 "item-1" "tenant-1" "restaurant-1" "Phở" none 50 true 2, .commit 1 2]

theorem converges_of_sample_deletion : ∃ log service, Run log service ∧ service.pending = [] ∧ service.Converged ∧
    service.applied.length = 4 := by
  have start : Run [] Service.empty := History.start rfl
  have opened := (start.commit (a := sampleMenuItem[0]) rfl).commit (a := .commit 0 1) rfl
  have added := (opened.commit (a := sampleMenuItem[2]) rfl).commit (a := .commit 1 2) rfl
  have swept := ((added.commit (a := .deleteRestaurant 2 "restaurant-1" "tenant-1") rfl).commit (a := .list 2) rfl).commit
    (a := .sweep 2) rfl
  have deleted := swept.commit (a := .commit 2 3) rfl
  have projected := ((deleted.commit (a := .deliver 1) rfl).commit (a := .deliver 0) rfl).commit (a := .deliver 0) rfl
  have applied := projected.commit (a := .deliver 0) rfl
  refine ⟨_, _, applied, rfl, converges_while_calm applied ?_ _ Seen.current rfl, rfl⟩
  have idle (commit : Commit Service Action) (other : ∀ call now, commit.act ≠ .commit call now) : Calm commit :=
    fun call now same => absurd same (other call now)
  simp only [List.forall_mem_cons]
  refine ⟨idle _ nofun, idle _ nofun, idle _ nofun, idle _ nofun, ?_, idle _ nofun, idle _ nofun, idle _ nofun, ?_,
    idle _ nofun, ?_, idle _ nofun, by simp⟩
  · rintro call now ⟨⟩
    refine ⟨nofun, fun before items ids stage id menuItem live owned => ?_⟩
    cases stage
    obtain ⟨stored, -, -⟩ := Service.liveMenuItem_stored live
    rcases Table.cases_put stored with ⟨rfl, -⟩ | ⟨-, absent⟩
    · exact Or.inl (List.mem_singleton.mpr rfl)
    · cases absent
  · rintro call now ⟨⟩
    refine ⟨fun menuItem stage => ?_, nofun⟩
    cases stage
    rfl
  · rintro call now ⟨⟩
    exact ⟨nofun, nofun⟩

/-- A menu item whose restaurant was looked up before its deletion is created
after it and stays for sale. One that was created between the listing and the
bulk deletion is deleted without an event, and its own, applied last, brings it back. -/
theorem sold_after_deletion : ∃ log service, Run log service ∧ service.pending = [] ∧ ¬ service.Converged ∧
    service.liveRestaurant "restaurant-1" = none ∧ (service.liveMenuItem "item-1").isSome ∧
    (service.read.menuItems "item-1").isSome ∧ service.liveMenuItem "item-2" = none ∧
    (service.read.menuItems "item-2").isSome := by
  obtain ⟨log, service, run, applied, gone, live, shown, dropped, back⟩ : ∃ log service, Run log service ∧
      service.pending = [] ∧ service.liveRestaurant "restaurant-1" = none ∧
      ((service.liveMenuItem "item-1").map (·.restaurantId) = some "restaurant-1") ∧
      (service.read.menuItems "item-1").isSome ∧ service.liveMenuItem "item-2" = none ∧
      (service.read.menuItems "item-2").isSome :=
    History.replayed (sampleMenuItem.take 3 ++ [.createMenuItem 2 "item-2" "tenant-1" "restaurant-1" "Bún" none 40 true 2,
      .deleteRestaurant 3 "restaurant-1" "tenant-1", .list 3, .commit 2 3, .sweep 3, .commit 3 4, .commit 1 5, .deliver 0,
      .deliver 1, .deliver 0, .deliver 0]) ⟨_, rfl, rfl, rfl, rfl, rfl, rfl, rfl⟩
  obtain ⟨menuItem, found, owner⟩ := Option.map_eq_some_iff.mp live
  refine ⟨log, service, run, applied, fun converged => ?_, gone, by simp [found], shown, dropped, back⟩
  have owned := converged.owned "item-1" menuItem found
  rw [owner, gone] at owned
  cases owned

end FoodDelivery.Catalog
