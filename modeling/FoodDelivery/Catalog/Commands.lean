import FoodDelivery.Lib.History
import FoodDelivery.Lib.Table
import FoodDelivery.Catalog.ReadModel

namespace FoodDelivery.Catalog

def Restaurant.create (id tenantId : Uuid) (name : String) (description : Option String) (isActive : Bool) (now : Nat) :
    Restaurant where
  id := id
  tenantId := tenantId
  name := name
  description := description
  isActive := isActive
  createdAt := now
  updatedAt := now
  deletedAt := none
  version := 1

structure UpdateRestaurantProps where
  name : Option String
  description : Option (Option String)
  isActive : Option Bool

/-- `Restaurant.update`; names are trimmed and checked already. -/
def Restaurant.update (restaurant : Restaurant) (changes : UpdateRestaurantProps) (now : Nat) : Restaurant :=
  { restaurant with
    name := changes.name.getD restaurant.name
    description := changes.description.getD restaurant.description
    isActive := changes.isActive.getD restaurant.isActive
    updatedAt := now }

def MenuItem.create (id tenantId restaurantId : Uuid) (name : String) (description : Option String) (priceCents : Nat)
    (isAvailable : Bool) (now : Nat) : MenuItem where
  id := id
  tenantId := tenantId
  restaurantId := restaurantId
  name := name
  description := description
  priceCents := priceCents
  isAvailable := isAvailable
  createdAt := now
  updatedAt := now
  deletedAt := none
  version := 1

structure UpdateMenuItemProps where
  name : Option String
  description : Option (Option String)
  priceCents : Option Nat
  isAvailable : Option Bool

def MenuItem.update (menuItem : MenuItem) (changes : UpdateMenuItemProps) (now : Nat) : MenuItem :=
  { menuItem with
    name := changes.name.getD menuItem.name
    description := changes.description.getD menuItem.description
    priceCents := changes.priceCents.getD menuItem.priceCents
    isAvailable := changes.isAvailable.getD menuItem.isAvailable
    updatedAt := now }

/-- `softDelete` also moves the version and the time of the update. -/
def Restaurant.softDelete (now : Nat) (restaurant : Restaurant) : Restaurant :=
  { restaurant with deletedAt := some now, updatedAt := now, version := restaurant.version + 1 }

def MenuItem.softDelete (now : Nat) (menuItem : MenuItem) : MenuItem :=
  { menuItem with deletedAt := some now, updatedAt := now, version := menuItem.version + 1 }

/-- The columns that `updateVersioned` sets, on the stored row. -/
def Restaurant.updateVersioned (updated restaurant : Restaurant) : Restaurant :=
  { restaurant with
    name := updated.name, description := updated.description, isActive := updated.isActive
    updatedAt := updated.updatedAt, version := restaurant.version + 1 }

def MenuItem.updateVersioned (updated menuItem : MenuItem) : MenuItem :=
  { menuItem with
    name := updated.name, description := updated.description, priceCents := updated.priceCents
    isAvailable := updated.isAvailable, updatedAt := updated.updatedAt, version := menuItem.version + 1 }

/-- A call of one of the handlers: after its lookup and, for the deletion of a
restaurant, after each of its transaction's statements that reads or writes
menu items. -/
inductive Call
  | idle
  | creatingRestaurant (restaurant : Restaurant)
  | updatingRestaurant (updated : Restaurant)
  | deletingRestaurant (before : Restaurant)
  | listed (before : Restaurant) (items : List MenuItem)
  | swept (before : Restaurant) (items : List MenuItem) (ids : List Uuid)
  | creatingMenuItem (menuItem : MenuItem)
  | updatingMenuItem (updated : MenuItem)
  | deletingMenuItem (before : MenuItem)
  | ended

/-- The write model, the handler calls, the events not yet applied in the order
their transactions committed, those applied, and the read model. -/
structure Service where
  restaurants : Table Restaurant.id
  menuItems : Table MenuItem.id
  itemIds : List Uuid
  calls : Nat → Call
  pending : List CatalogEvent
  applied : List CatalogEvent
  read : ReadModel

inductive Action
  | createRestaurant (call : Nat) (id tenantId : Uuid) (name : String) (description : Option String) (isActive : Bool) (now : Nat)
  | updateRestaurant (call : Nat) (id tenantId : Uuid) (changes : UpdateRestaurantProps) (expectedVersion : Option Nat)
    (now : Nat)
  | deleteRestaurant (call : Nat) (id tenantId : Uuid)
  | createMenuItem (call : Nat) (id tenantId restaurantId : Uuid) (name : String) (description : Option String)
    (priceCents : Nat) (isAvailable : Bool) (now : Nat)
  | updateMenuItem (call : Nat) (id tenantId restaurantId : Uuid) (changes : UpdateMenuItemProps)
    (expectedVersion : Option Nat) (now : Nat)
  | deleteMenuItem (call : Nat) (id tenantId restaurantId : Uuid)
  | list (call : Nat)
  | sweep (call : Nat)
  | commit (call now : Nat)
  | abandon (call : Nat)
  | deliver (n : Nat)
  | redeliver (event : CatalogEvent)

namespace Service

def empty : Service where
  restaurants := .empty
  menuItems := .empty
  itemIds := []
  calls _ := .idle
  pending := []
  applied := []
  read := { restaurants := fun _ => none, menuItems := fun _ => none }

def setCall (service : Service) (call : Nat) (stage : Call) : Service :=
  { service with calls := Function.update service.calls call stage }

/-- The row unless it has been deleted, as the repositories find it. -/
def liveRestaurant (service : Service) (id : Uuid) : Option Restaurant :=
  (service.restaurants.find id).filter fun restaurant => restaurant.deletedAt.isNone

def liveMenuItem (service : Service) (id : Uuid) : Option MenuItem :=
  (service.menuItems.find id).filter fun menuItem => menuItem.deletedAt.isNone

def findRestaurant (service : Service) (id tenantId : Uuid) : Option Restaurant :=
  (service.liveRestaurant id).filter fun restaurant => restaurant.tenantId = tenantId

def findMenuItem (service : Service) (id restaurantId tenantId : Uuid) : Option MenuItem :=
  (service.liveMenuItem id).filter fun menuItem => menuItem.restaurantId = restaurantId ∧ menuItem.tenantId = tenantId

def findAllByRestaurant (service : Service) (restaurantId tenantId : Uuid) : List MenuItem :=
  service.itemIds.filterMap fun id => service.findMenuItem id restaurantId tenantId

/-- `save` of a new row with its event. -/
def saveRestaurant (service : Service) (restaurant : Restaurant) : Service :=
  { service with
    restaurants := service.restaurants.put restaurant
    pending := service.pending ++ [.restaurantCreated restaurant] }

def saveMenuItem (service : Service) (menuItem : MenuItem) : Service :=
  { service with
    menuItems := service.menuItems.put menuItem
    itemIds := menuItem.id :: service.itemIds
    pending := service.pending ++ [.menuItemCreated menuItem] }

/-- `updateVersioned` and its event; nothing is left of the transaction when
the version has moved or the row, reloaded, is deleted. -/
def updateRestaurant (service : Service) (updated : Restaurant) : Service :=
  match service.findRestaurant updated.id updated.tenantId with
  | some restaurant =>
    if restaurant.version = updated.version then
      { service with
        restaurants := service.restaurants.put (updated.updateVersioned restaurant)
        pending := service.pending ++ [.restaurantUpdated (updated.updateVersioned restaurant)] }
    else service
  | none => service

def updateMenuItem (service : Service) (updated : MenuItem) : Service :=
  match service.findMenuItem updated.id updated.restaurantId updated.tenantId with
  | some menuItem =>
    if menuItem.version = updated.version then
      { service with
        menuItems := service.menuItems.put (updated.updateVersioned menuItem)
        pending := service.pending ++ [.menuItemUpdated (updated.updateVersioned menuItem)] }
    else service
  | none => service

def deleteMenuItem (service : Service) (before : MenuItem) (now : Nat) : Service :=
  { service with
    menuItems := service.menuItems.mapRows
      (fun menuItem => if menuItem.id = before.id ∧ menuItem.tenantId = before.tenantId then menuItem.softDelete now else menuItem)
      (fun menuItem => by split <;> rfl)
    pending := service.pending ++ [.menuItemDeleted before] }

/-- The end of the deletion of a restaurant: `softDeleteByRestaurant` reached
the rows that were there when it ran. -/
def deleteRestaurant (service : Service) (before : Restaurant) (items : List MenuItem) (ids : List Uuid) (now : Nat) : Service :=
  { service with
    restaurants := service.restaurants.mapRows
      (fun restaurant =>
        if restaurant.id = before.id ∧ restaurant.tenantId = before.tenantId then restaurant.softDelete now else restaurant)
      (fun restaurant => by split <;> rfl)
    menuItems := service.menuItems.mapRows
      (fun menuItem =>
        if menuItem.restaurantId = before.id ∧ menuItem.tenantId = before.tenantId ∧ menuItem.id ∈ ids then menuItem.softDelete now
        else menuItem)
      (fun menuItem => by split <;> rfl)
    pending := service.pending ++ .restaurantDeleted before :: items.map .menuItemDeleted }

/-- The lookup before a transaction, which throws where it finds nothing. -/
def lookUp {Row : Type} (service : Service) (call : Nat) (found : Option Row) (next : Row → Call) : Option Service :=
  match service.calls call with
  | .idle => some (service.setCall call ((found.map next).getD .ended))
  | _ => none

def commit (service : Service) (now : Nat) : Call → Option Service
  | .creatingRestaurant restaurant =>
    if (service.restaurants.find restaurant.id).isNone then some (service.saveRestaurant restaurant) else none
  | .creatingMenuItem menuItem =>
    if (service.menuItems.find menuItem.id).isNone then some (service.saveMenuItem menuItem) else none
  | .updatingRestaurant updated => some (service.updateRestaurant updated)
  | .updatingMenuItem updated => some (service.updateMenuItem updated)
  | .deletingMenuItem before => some (service.deleteMenuItem before now)
  | .swept before items ids => some (service.deleteRestaurant before items ids now)
  | _ => none

/-- One step. A transaction with one statement on the tables takes effect when
it commits; a call may throw at any time before; an event is applied once,
after the earlier ones of its aggregate. -/
def step (service : Service) : Action → Option Service
  | .createRestaurant call id tenantId name description isActive now =>
    service.lookUp call (some ()) fun _ => .creatingRestaurant (.create id tenantId name description isActive now)
  | .updateRestaurant call id tenantId changes expectedVersion now =>
    service.lookUp call
      ((service.findRestaurant id tenantId).filter fun before => expectedVersion.all fun version => version = before.version)
      fun before => .updatingRestaurant (before.update changes now)
  | .deleteRestaurant call id tenantId => service.lookUp call (service.findRestaurant id tenantId) .deletingRestaurant
  | .createMenuItem call id tenantId restaurantId name description priceCents isAvailable now =>
    service.lookUp call (service.findRestaurant restaurantId tenantId) fun _ =>
      .creatingMenuItem (.create id tenantId restaurantId name description priceCents isAvailable now)
  | .updateMenuItem call id tenantId restaurantId changes expectedVersion now =>
    service.lookUp call
      ((service.findMenuItem id restaurantId tenantId).filter fun before =>
        expectedVersion.all fun version => version = before.version)
      fun before => .updatingMenuItem (before.update changes now)
  | .deleteMenuItem call id tenantId restaurantId =>
    service.lookUp call (service.findMenuItem id restaurantId tenantId) .deletingMenuItem
  | .list call =>
    match service.calls call with
    | .deletingRestaurant before =>
      some (service.setCall call (.listed before (service.findAllByRestaurant before.id before.tenantId)))
    | _ => none
  | .sweep call =>
    match service.calls call with
    | .listed before items => some (service.setCall call (.swept before items service.itemIds))
    | _ => none
  | .commit call now => (service.commit now (service.calls call)).map fun service => service.setCall call .ended
  | .abandon call => some (service.setCall call .ended)
  | .deliver n =>
    match service.pending[n]? with
    | some event =>
      if ∀ earlier ∈ service.pending.take n, earlier.aggregateId ≠ event.aggregateId then
        some { service with
          pending := service.pending.take n ++ service.pending.drop (n + 1)
          applied := event :: service.applied
          read := applyCatalogEvent service.read event }
      else none
    | none => none
  | .redeliver event => if event ∈ service.applied then some service else none

end Service

end FoodDelivery.Catalog
