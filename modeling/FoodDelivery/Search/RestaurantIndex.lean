import FoodDelivery.Lib.History
import FoodDelivery.Catalog.ReadModel

namespace FoodDelivery.Search

open CommitLog Catalog

structure RestaurantDetails where
  tenantId : Uuid
  name : String
  description : Option String
  isActive : Bool
  createdAt : Nat
  updatedAt : Nat
  deriving DecidableEq, Repr

structure RestaurantIndexSource extends RestaurantDetails where
  rating : Rat
  deriving DecidableEq

structure RestaurantSearchDocument extends RestaurantIndexSource where
  id : Uuid
  version : Nat
  deriving DecidableEq

/-- What Elasticsearch keeps under an id: nothing, a document with its version,
or for some time after a deletion the version alone. -/
inductive Slot
  | missing
  | live (source : RestaurantIndexSource) (version : Nat)
  | tombstone (version : Nat)
  deriving DecidableEq

def Slot.source : Slot → Option RestaurantIndexSource
  | .live source _ => some source
  | _ => none

def Slot.version : Slot → Nat
  | .missing => 0
  | .live _ version => version
  | .tombstone version => version

/-- A partial update, which writes nothing where it changes nothing; a write
without a version takes the next one. -/
def Slot.merge (change : RestaurantIndexSource → RestaurantIndexSource) : Slot → Slot
  | .live source version => if change source = source then .live source version else .live (change source) (version + 1)
  | slot => slot

/-- `upsert`: the details of a document that is there, or a new one without a rating. -/
def upsert (document : RestaurantSearchDocument) (slot : Slot) : Slot :=
  match slot.source with
  | some _ => slot.merge fun source => { source with toRestaurantDetails := document.toRestaurantDetails }
  | none => .live { toRestaurantDetails := document.toRestaurantDetails, rating := 0 } (slot.version + 1)

/-- `updateRating`, which takes a missing document for done. -/
def updateRating (rating : Rat) (slot : Slot) : Slot := slot.merge fun source => { source with rating }

/-- `remove` with an external version, which a later one that is there already
refuses; neither that nor a missing document is an error. -/
def remove (version : Nat) : Slot → Slot
  | .missing => .tombstone version
  | .live source current => if current ≤ version then .tombstone version else .live source current
  | .tombstone current => if current ≤ version then .tombstone version else .tombstone current

def detailsOf (restaurant : Restaurant) : RestaurantDetails where
  tenantId := restaurant.tenantId
  name := restaurant.name
  description := restaurant.description
  isActive := restaurant.isActive
  createdAt := restaurant.createdAt
  updatedAt := restaurant.updatedAt

def applyRestaurantSearchEvent (occurredAt : Nat) (event : CatalogEvent) (slot : Slot) : Slot :=
  match event with
  | .restaurantCreated restaurant | .restaurantUpdated restaurant =>
    upsert { toRestaurantDetails := detailsOf restaurant, rating := 0, id := event.aggregateId, version := occurredAt }
      slot
  | .restaurantDeleted _ => remove occurredAt slot
  | _ => slot

def applyReviewRatingEvent (avgRating : Rat) (slot : Slot) : Slot := updateRating avgRating slot

/-- The events of one restaurant on both topics, those of the catalog with the
time they occurred at. -/
structure Feed where
  created : Nat × Restaurant
  updates : List (Nat × Restaurant)
  deleted : Option (Nat × Restaurant)
  ratings : List Rat

def Feed.catalog (feed : Feed) : List (Nat × CatalogEvent) :=
  feed.created.map id .restaurantCreated :: feed.updates.map (·.map id .restaurantUpdated) ++
    feed.deleted.toList.map (·.map id .restaurantDeleted)

/-- The document's slot and the offsets at which the two consumers go on. -/
structure Index where
  slot : Slot
  catalogOffset : Nat
  ratingOffset : Nat

inductive Action
  | deliverCatalog
  | deliverRating
  | restartCatalog (offset : Nat)
  | restartRating (offset : Nat)
  | collectTombstone
  deriving DecidableEq

namespace Index

def empty : Index where
  slot := .missing
  catalogOffset := 0
  ratingOffset := 0

/-- One step: the next event of a topic is applied, a consumer restarts from an
earlier offset, or Elasticsearch forgets a deleted document's version. -/
def step (feed : Feed) (index : Index) : Action → Option Index
  | .deliverCatalog =>
    match feed.catalog[index.catalogOffset]? with
    | some (occurredAt, event) => some { index with
        slot := applyRestaurantSearchEvent occurredAt event index.slot, catalogOffset := index.catalogOffset + 1 }
    | none => none
  | .deliverRating =>
    match feed.ratings[index.ratingOffset]? with
    | some avgRating => some { index with
        slot := applyReviewRatingEvent avgRating index.slot, ratingOffset := index.ratingOffset + 1 }
    | none => none
  | .restartCatalog offset => if offset ≤ index.catalogOffset then some { index with catalogOffset := offset } else none
  | .restartRating offset => if offset ≤ index.ratingOffset then some { index with ratingOffset := offset } else none
  | .collectTombstone =>
    match index.slot with
    | .tombstone _ => some { index with slot := .missing }
    | _ => none

/-- Every event has been delivered since the last restart. -/
structure Delivered (feed : Feed) (index : Index) : Prop where
  catalog : index.catalogOffset = feed.catalog.length
  ratings : index.ratingOffset = feed.ratings.length

end Index

end FoodDelivery.Search
