import Mathlib.Logic.Function.Basic
import FoodDelivery.Lib.Binary64
import FoodDelivery.Messaging.Envelope

namespace FoodDelivery.Catalog

open Binary64

/-- A row of restaurants; dates are milliseconds. -/
structure Restaurant where
  id : Uuid
  tenantId : Uuid
  name : String
  description : Option String
  isActive : Bool
  createdAt : Nat
  updatedAt : Nat
  deletedAt : Option Nat
  version : Nat
  deriving DecidableEq, Repr

/-- A row of menu_items. -/
structure MenuItem where
  id : Uuid
  tenantId : Uuid
  restaurantId : Uuid
  name : String
  description : Option String
  priceCents : Nat
  isAvailable : Bool
  createdAt : Nat
  updatedAt : Nat
  deletedAt : Option Nat
  version : Nat
  deriving DecidableEq, Repr

/-- What `CatalogEventFactory` makes of a row; the payload is its snapshot. -/
inductive CatalogEvent
  | restaurantCreated (restaurant : Restaurant)
  | restaurantUpdated (restaurant : Restaurant)
  | restaurantDeleted (restaurant : Restaurant)
  | menuItemCreated (menuItem : MenuItem)
  | menuItemUpdated (menuItem : MenuItem)
  | menuItemDeleted (menuItem : MenuItem)
  deriving DecidableEq, Repr

def CatalogEvent.aggregateId : CatalogEvent → Uuid
  | .restaurantCreated restaurant => restaurant.id
  | .restaurantUpdated restaurant => restaurant.id
  | .restaurantDeleted restaurant => restaurant.id
  | .menuItemCreated menuItem => menuItem.id
  | .menuItemUpdated menuItem => menuItem.id
  | .menuItemDeleted menuItem => menuItem.id

structure ReadRestaurantRow where
  id : Uuid
  tenantId : Uuid
  name : String
  description : Option String
  isActive : Bool
  version : Nat
  createdAt : Nat
  updatedAt : Nat
  deriving DecidableEq, Repr

/-- A row of read_restaurants. -/
structure ReadRestaurant extends ReadRestaurantRow where
  rating : Number
  reviewCount : Nat
  deriving DecidableEq

/-- A row of read_menu_items. -/
structure ReadMenuItemRow where
  id : Uuid
  restaurantId : Uuid
  tenantId : Uuid
  name : String
  description : Option String
  priceCents : Nat
  isAvailable : Bool
  version : Nat
  createdAt : Nat
  updatedAt : Nat
  deriving DecidableEq, Repr

/-- The row that a snapshot of a restaurant is projected to. -/
def Restaurant.readRow (restaurant : Restaurant) : ReadRestaurantRow where
  id := restaurant.id
  tenantId := restaurant.tenantId
  name := restaurant.name
  description := restaurant.description
  isActive := restaurant.isActive
  version := restaurant.version
  createdAt := restaurant.createdAt
  updatedAt := restaurant.updatedAt

def MenuItem.readRow (menuItem : MenuItem) : ReadMenuItemRow where
  id := menuItem.id
  restaurantId := menuItem.restaurantId
  tenantId := menuItem.tenantId
  name := menuItem.name
  description := menuItem.description
  priceCents := menuItem.priceCents
  isAvailable := menuItem.isAvailable
  version := menuItem.version
  createdAt := menuItem.createdAt
  updatedAt := menuItem.updatedAt

/-- `upsert` of read_restaurants: the columns it sets on a conflict leave the
owner, the rating and the time of creation alone. -/
def upsertRestaurant (row : ReadRestaurantRow) : Option ReadRestaurant → ReadRestaurant
  | none => { row with rating := 0, reviewCount := 0 }
  | some read =>
    { read with
      name := row.name, description := row.description, isActive := row.isActive
      version := row.version, updatedAt := row.updatedAt }

/-- `updateRating`, which finds the row by its id and tenant. -/
def updateRating (tenantId : Uuid) (rating : Number) (reviewCount : Nat) (read : ReadRestaurant) : ReadRestaurant :=
  if read.tenantId = tenantId then { read with rating, reviewCount } else read

structure ReadModel where
  restaurants : Uuid → Option ReadRestaurant
  menuItems : Uuid → Option ReadMenuItemRow

/-- `remove` and `removeByRestaurant` delete rows of the event's tenant only. -/
def ReadModel.removeRestaurant (model : ReadModel) (id tenantId : Uuid) : ReadModel where
  restaurants := Function.update model.restaurants id ((model.restaurants id).filter fun read => read.tenantId ≠ tenantId)
  menuItems row := (model.menuItems row).filter fun read => ¬ (read.restaurantId = id ∧ read.tenantId = tenantId)

def ReadModel.removeMenuItem (model : ReadModel) (id tenantId : Uuid) : ReadModel :=
  { model with
    menuItems := Function.update model.menuItems id ((model.menuItems id).filter fun read => read.tenantId ≠ tenantId) }

def ReadModel.upsertRestaurant (model : ReadModel) (row : ReadRestaurantRow) : ReadModel :=
  { model with
    restaurants := Function.update model.restaurants row.id (some (Catalog.upsertRestaurant row (model.restaurants row.id))) }

/-- `upsert` of read_menu_items sets every column. -/
def ReadModel.upsertMenuItem (model : ReadModel) (row : ReadMenuItemRow) : ReadModel :=
  { model with menuItems := Function.update model.menuItems row.id (some row) }

def applyCatalogEvent (model : ReadModel) : CatalogEvent → ReadModel
  | .restaurantCreated restaurant => model.upsertRestaurant restaurant.readRow
  | .restaurantUpdated restaurant => model.upsertRestaurant restaurant.readRow
  | .restaurantDeleted restaurant => model.removeRestaurant restaurant.id restaurant.tenantId
  | .menuItemCreated menuItem => model.upsertMenuItem menuItem.readRow
  | .menuItemUpdated menuItem => model.upsertMenuItem menuItem.readRow
  | .menuItemDeleted menuItem => model.removeMenuItem menuItem.id menuItem.tenantId

/-- `applyReviewEvent` for a RestaurantRatingChanged event. -/
def applyReviewEvent (model : ReadModel) (aggregateId tenantId : Uuid) (avgRating : Number) (reviewCount : Nat) : ReadModel :=
  { model with
    restaurants := Function.update model.restaurants aggregateId
      ((model.restaurants aggregateId).map (updateRating tenantId avgRating reviewCount)) }

/-- `findById` of the read model. -/
def ReadModel.findRestaurant (id tenantId : Uuid) (model : ReadModel) : Option ReadRestaurant :=
  (model.restaurants id).filter fun read => read.tenantId = tenantId

end FoodDelivery.Catalog
