import FoodDelivery.Lib.IsoTime
import FoodDelivery.Catalog.Commands

namespace FoodDelivery.Catalog

/-- A time that a database keeps to the microsecond; its year has four digits
in every zone. -/
structure Timestamp where
  micros : Nat
  from_1970 : 86400000000 ≤ micros
  before_10000 : micros + 86400000000 < 1000000 * IsoTime.limit

/-- The `Date` that a query gives. -/
def Timestamp.toDate (timestamp : Timestamp) : Nat := timestamp.micros / 1000

/-- How many minutes east of Greenwich the clocks of a session are. -/
structure ZoneOffset where
  minutes : Int
  inDay : minutes.natAbs < 1440

/-- A row of restaurants that is not deleted. -/
structure RestaurantRow where
  id : Uuid
  tenantId : Uuid
  name : String
  description : Option String
  isActive : Bool
  createdAt : Timestamp
  updatedAt : Timestamp
  version : Nat

/-- A row of menu_items that is not deleted. -/
structure MenuItemRow where
  id : Uuid
  tenantId : Uuid
  restaurantId : Uuid
  name : String
  description : Option String
  priceCents : Nat
  isAvailable : Bool
  createdAt : Timestamp
  updatedAt : Timestamp
  version : Nat

def RestaurantRow.toDomain (row : RestaurantRow) : Restaurant where
  id := row.id
  tenantId := row.tenantId
  name := row.name
  description := row.description
  isActive := row.isActive
  createdAt := row.createdAt.toDate
  updatedAt := row.updatedAt.toDate
  deletedAt := none
  version := row.version

def MenuItemRow.toDomain (row : MenuItemRow) : MenuItem where
  id := row.id
  tenantId := row.tenantId
  restaurantId := row.restaurantId
  name := row.name
  description := row.description
  priceCents := row.priceCents
  isAvailable := row.isAvailable
  createdAt := row.createdAt.toDate
  updatedAt := row.updatedAt.toDate
  deletedAt := none
  version := row.version

inductive Json
  | null
  | bool (value : Bool)
  | number (value : Nat)
  | text (value : String)
  deriving DecidableEq, Repr

abbrev Payload := List (String × Json)

namespace Json

def date (ms : Nat) : Json := .text (.ofList (IsoTime.toISOString ms))

/-- How `jsonb_build_object` shows a timestamp. -/
def timestamptz (zone : ZoneOffset) (timestamp : Timestamp) : Json :=
  .text (.ofList (IsoTime.withZone zone.minutes timestamp.micros))

def nullable {α : Type} (json : α → Json) (value : Option α) : Json := (value.map json).getD .null

def asText : Json → Option String
  | .text value => some value
  | _ => none

def asBool : Json → Option Bool
  | .bool value => some value
  | _ => none

def asNumber : Json → Option Nat
  | .number value => some value
  | _ => none

def asNullable {α : Type} (read : Json → Option α) : Json → Option (Option α)
  | .null => some none
  | json => (read json).map some

end Json

/-- `new Date` of what a payload has for a key; an invalid date is `none`, and
no time is before 1970. -/
def newDate : Option Json → Option Nat
  | none => none
  | some .null => some 0
  | some (.bool value) => some value.toNat
  | some (.number ms) => some ms
  | some (.text value) => (IsoTime.parse value.toList).map Int.toNat

def Restaurant.toSnapshot (restaurant : Restaurant) : Payload :=
  [("id", .text restaurant.id), ("tenantId", .text restaurant.tenantId), ("name", .text restaurant.name),
    ("description", .nullable .text restaurant.description), ("isActive", .bool restaurant.isActive),
    ("createdAt", .date restaurant.createdAt), ("updatedAt", .date restaurant.updatedAt),
    ("deletedAt", .nullable .date restaurant.deletedAt), ("version", .number restaurant.version)]

def MenuItem.toSnapshot (menuItem : MenuItem) : Payload :=
  [("id", .text menuItem.id), ("tenantId", .text menuItem.tenantId), ("restaurantId", .text menuItem.restaurantId),
    ("name", .text menuItem.name), ("description", .nullable .text menuItem.description),
    ("priceCents", .number menuItem.priceCents), ("isAvailable", .bool menuItem.isAvailable),
    ("createdAt", .date menuItem.createdAt), ("updatedAt", .date menuItem.updatedAt),
    ("deletedAt", .nullable .date menuItem.deletedAt), ("version", .number menuItem.version)]

inductive CatalogEventType
  | restaurantCreated
  | restaurantUpdated
  | restaurantDeleted
  | menuItemCreated
  | menuItemUpdated
  | menuItemDeleted
  | other (name : String)
  deriving DecidableEq, Repr

/-- A row of the outbox as its consumer gets it. -/
structure OutboxEntry where
  type : CatalogEventType
  aggregateId : Uuid
  tenantId : Uuid
  payload : Payload

/-- `CatalogEventFactory`, for the tenant of the aggregate. -/
def CatalogEvent.entry : CatalogEvent → OutboxEntry
  | .restaurantCreated restaurant => ⟨.restaurantCreated, restaurant.id, restaurant.tenantId, restaurant.toSnapshot⟩
  | .restaurantUpdated restaurant => ⟨.restaurantUpdated, restaurant.id, restaurant.tenantId, restaurant.toSnapshot⟩
  | .restaurantDeleted restaurant => ⟨.restaurantDeleted, restaurant.id, restaurant.tenantId, restaurant.toSnapshot⟩
  | .menuItemCreated menuItem => ⟨.menuItemCreated, menuItem.id, menuItem.tenantId, menuItem.toSnapshot⟩
  | .menuItemUpdated menuItem => ⟨.menuItemUpdated, menuItem.id, menuItem.tenantId, menuItem.toSnapshot⟩
  | .menuItemDeleted menuItem => ⟨.menuItemDeleted, menuItem.id, menuItem.tenantId, menuItem.toSnapshot⟩

/-- The rows that `backfill` inserts; the zone of a session may have a summer time. -/
def RestaurantRow.backfill (zone : Timestamp → ZoneOffset) (row : RestaurantRow) : OutboxEntry where
  type := .restaurantCreated
  aggregateId := row.id
  tenantId := row.tenantId
  payload :=
    [("id", .text row.id), ("tenantId", .text row.tenantId), ("name", .text row.name),
      ("description", .nullable .text row.description), ("isActive", .bool row.isActive),
      ("createdAt", .timestamptz (zone row.createdAt) row.createdAt),
      ("updatedAt", .timestamptz (zone row.updatedAt) row.updatedAt), ("deletedAt", .null)]

def MenuItemRow.backfill (zone : Timestamp → ZoneOffset) (row : MenuItemRow) : OutboxEntry where
  type := .menuItemCreated
  aggregateId := row.id
  tenantId := row.tenantId
  payload :=
    [("id", .text row.id), ("tenantId", .text row.tenantId), ("restaurantId", .text row.restaurantId),
      ("name", .text row.name), ("description", .nullable .text row.description), ("priceCents", .number row.priceCents),
      ("isAvailable", .bool row.isAvailable), ("createdAt", .timestamptz (zone row.createdAt) row.createdAt),
      ("updatedAt", .timestamptz (zone row.updatedAt) row.updatedAt), ("deletedAt", .null)]

/-- `RestaurantSnapshot` with the keys of a payload that may be missing. -/
structure RestaurantSnapshot where
  name : Option Json
  description : Option Json
  isActive : Option Json
  version : Option Json
  createdAt : Option Json
  updatedAt : Option Json

def RestaurantSnapshot.of (payload : Payload) : RestaurantSnapshot where
  name := payload.lookup "name"
  description := payload.lookup "description"
  isActive := payload.lookup "isActive"
  version := payload.lookup "version"
  createdAt := payload.lookup "createdAt"
  updatedAt := payload.lookup "updatedAt"

structure MenuItemSnapshot where
  restaurantId : Option Json
  name : Option Json
  description : Option Json
  priceCents : Option Json
  isAvailable : Option Json
  version : Option Json
  createdAt : Option Json
  updatedAt : Option Json

def MenuItemSnapshot.of (payload : Payload) : MenuItemSnapshot where
  restaurantId := payload.lookup "restaurantId"
  name := payload.lookup "name"
  description := payload.lookup "description"
  priceCents := payload.lookup "priceCents"
  isAvailable := payload.lookup "isAvailable"
  version := payload.lookup "version"
  createdAt := payload.lookup "createdAt"
  updatedAt := payload.lookup "updatedAt"

/-- A parameter of a statement: `undefined` is sent as NULL, which a NOT NULL
column refuses. -/
def parameter {α : Type} (read : Json → Option α) (field : Option Json) : Option α := read (field.getD .null)

/-- The statement of `upsert` of read_restaurants. Its row is checked before
the conflict with an earlier one is. -/
def RestaurantSnapshot.upsert (snapshot : RestaurantSnapshot) (id tenantId : Uuid) (earlier : Option ReadRestaurant) :
    Option ReadRestaurant := do
  let name ← parameter Json.asText snapshot.name
  let description ← parameter (Json.asNullable Json.asText) snapshot.description
  let isActive ← parameter Json.asBool snapshot.isActive
  let version ← parameter Json.asNumber snapshot.version
  let createdAt ← newDate snapshot.createdAt
  let updatedAt ← newDate snapshot.updatedAt
  some (upsertRestaurant { id, tenantId, name, description, isActive, version, createdAt, updatedAt } earlier)

/-- A column of an entity to `upsert`: where it is undefined the default is
inserted, and an earlier row keeps its value. -/
def column {α : Type} (read : Json → Option α) (initial earlier : Option α) : Option Json → Option α
  | some value => read value
  | none => initial.map fun value => earlier.getD value

/-- `upsert` of read_menu_items. -/
def MenuItemSnapshot.upsert (snapshot : MenuItemSnapshot) (id tenantId : Uuid) (earlier : Option ReadMenuItemRow) :
    Option ReadMenuItemRow := do
  let restaurantId ← column Json.asText none (earlier.map (·.restaurantId)) snapshot.restaurantId
  let name ← column Json.asText none (earlier.map (·.name)) snapshot.name
  let description ← column (Json.asNullable Json.asText) (some none) (earlier.map (·.description)) snapshot.description
  let priceCents ← column Json.asNumber none (earlier.map (·.priceCents)) snapshot.priceCents
  let isAvailable ← column Json.asBool (some true) (earlier.map (·.isAvailable)) snapshot.isAvailable
  let version ← column Json.asNumber (some 1) (earlier.map (·.version)) snapshot.version
  let createdAt ← newDate snapshot.createdAt
  let updatedAt ← newDate snapshot.updatedAt
  some { id, restaurantId, tenantId, name, description, priceCents, isAvailable, version, createdAt, updatedAt }

/-- `applyCatalogEvent`; nothing is written when it throws. -/
def OutboxEntry.apply (entry : OutboxEntry) (model : ReadModel) : Option ReadModel :=
  match entry.type with
  | .restaurantCreated | .restaurantUpdated =>
    ((RestaurantSnapshot.of entry.payload).upsert entry.aggregateId entry.tenantId (model.restaurants entry.aggregateId)).map
      fun row => { model with restaurants := Function.update model.restaurants entry.aggregateId (some row) }
  | .restaurantDeleted => some (model.removeRestaurant entry.aggregateId entry.tenantId)
  | .menuItemCreated | .menuItemUpdated =>
    ((MenuItemSnapshot.of entry.payload).upsert entry.aggregateId entry.tenantId (model.menuItems entry.aggregateId)).map
      fun row => { model with menuItems := Function.update model.menuItems entry.aggregateId (some row) }
  | .menuItemDeleted => some (model.removeMenuItem entry.aggregateId entry.tenantId)
  | .other _ => some model

section dates

theorem Timestamp.toDate_lt (timestamp : Timestamp) : timestamp.toDate / 1000 < IsoTime.limit := by
  have bound := timestamp.before_10000
  unfold toDate
  omega

theorem newDate_date {ms : Nat} (bound : ms / 1000 < IsoTime.limit) : newDate (some (.date ms)) = some ms := by
  rw [Json.date, newDate, String.toList_ofList, IsoTime.parse_toISOString bound, Option.map_some, Int.toNat_natCast]

/-- What the backfill sends is read as the `Date` that a query gives. -/
theorem newDate_timestamptz (zone : ZoneOffset) (timestamp : Timestamp) :
    newDate (some (.timestamptz zone timestamp)) = some timestamp.toDate := by
  have inDay := zone.inDay
  have early := timestamp.from_1970
  have late := timestamp.before_10000
  rw [Json.timestamptz, newDate, String.toList_ofList, IsoTime.parse_withZone inDay (by omega) (by omega), Option.map_some,
    Int.toNat_natCast, Timestamp.toDate]

end dates

theorem Json.asNullable_nullable (value : Option String) : asNullable asText (nullable .text value) = some value := by
  cases value <;> rfl

section factory

variable {model : ReadModel}

/-- The texts of the dates have years of four digits. -/
def CatalogEvent.Dated : CatalogEvent → Prop
  | .restaurantCreated restaurant | .restaurantUpdated restaurant =>
    restaurant.createdAt / 1000 < IsoTime.limit ∧ restaurant.updatedAt / 1000 < IsoTime.limit
  | .menuItemCreated menuItem | .menuItemUpdated menuItem =>
    menuItem.createdAt / 1000 < IsoTime.limit ∧ menuItem.updatedAt / 1000 < IsoTime.limit
  | _ => True

theorem RestaurantSnapshot.of_toSnapshot (restaurant : Restaurant) :
    RestaurantSnapshot.of restaurant.toSnapshot =
      { name := some (.text restaurant.name)
        description := some (.nullable .text restaurant.description)
        isActive := some (.bool restaurant.isActive)
        version := some (.number restaurant.version)
        createdAt := some (.date restaurant.createdAt)
        updatedAt := some (.date restaurant.updatedAt) } := by
  simp [RestaurantSnapshot.of, Restaurant.toSnapshot, List.lookup_cons]

theorem RestaurantSnapshot.of_backfill (zone : Timestamp → ZoneOffset) (row : RestaurantRow) :
    RestaurantSnapshot.of (row.backfill zone).payload =
      { name := some (.text row.name)
        description := some (.nullable .text row.description)
        isActive := some (.bool row.isActive)
        version := none
        createdAt := some (.timestamptz (zone row.createdAt) row.createdAt)
        updatedAt := some (.timestamptz (zone row.updatedAt) row.updatedAt) } := by
  simp [RestaurantSnapshot.of, RestaurantRow.backfill, List.lookup_cons]

theorem MenuItemSnapshot.of_toSnapshot (menuItem : MenuItem) :
    MenuItemSnapshot.of menuItem.toSnapshot =
      { restaurantId := some (.text menuItem.restaurantId)
        name := some (.text menuItem.name)
        description := some (.nullable .text menuItem.description)
        priceCents := some (.number menuItem.priceCents)
        isAvailable := some (.bool menuItem.isAvailable)
        version := some (.number menuItem.version)
        createdAt := some (.date menuItem.createdAt)
        updatedAt := some (.date menuItem.updatedAt) } := by
  simp [MenuItemSnapshot.of, MenuItem.toSnapshot, List.lookup_cons]

theorem MenuItemSnapshot.of_backfill (zone : Timestamp → ZoneOffset) (row : MenuItemRow) :
    MenuItemSnapshot.of (row.backfill zone).payload =
      { restaurantId := some (.text row.restaurantId)
        name := some (.text row.name)
        description := some (.nullable .text row.description)
        priceCents := some (.number row.priceCents)
        isAvailable := some (.bool row.isAvailable)
        version := none
        createdAt := some (.timestamptz (zone row.createdAt) row.createdAt)
        updatedAt := some (.timestamptz (zone row.updatedAt) row.updatedAt) } := by
  simp [MenuItemSnapshot.of, MenuItemRow.backfill, List.lookup_cons]

theorem RestaurantSnapshot.upsert_toSnapshot {restaurant : Restaurant} (created : restaurant.createdAt / 1000 < IsoTime.limit)
    (updated : restaurant.updatedAt / 1000 < IsoTime.limit) (earlier : Option ReadRestaurant) :
    (RestaurantSnapshot.of restaurant.toSnapshot).upsert restaurant.id restaurant.tenantId earlier =
      some (upsertRestaurant restaurant.readRow earlier) := by
  rw [of_toSnapshot]
  simp only [RestaurantSnapshot.upsert, bind, parameter, Option.getD_some, Json.asText, Json.asBool, Json.asNumber,
    Json.asNullable_nullable, newDate_date created, newDate_date updated, Option.bind_some]
  rfl

theorem MenuItemSnapshot.upsert_toSnapshot {menuItem : MenuItem} (created : menuItem.createdAt / 1000 < IsoTime.limit)
    (updated : menuItem.updatedAt / 1000 < IsoTime.limit) (earlier : Option ReadMenuItemRow) :
    (MenuItemSnapshot.of menuItem.toSnapshot).upsert menuItem.id menuItem.tenantId earlier = some menuItem.readRow := by
  rw [of_toSnapshot]
  simp only [MenuItemSnapshot.upsert, bind, column, Json.asText, Json.asBool, Json.asNumber, Json.asNullable_nullable,
    newDate_date created, newDate_date updated, Option.bind_some]
  rfl

/-- A version that is not sent is NULL in the statement, whatever row it meets. -/
theorem RestaurantSnapshot.upsert_backfill (zone : Timestamp → ZoneOffset) (row : RestaurantRow) (id tenantId : Uuid)
    (earlier : Option ReadRestaurant) : (RestaurantSnapshot.of (row.backfill zone).payload).upsert id tenantId earlier = none := by
  rw [of_backfill]
  simp only [RestaurantSnapshot.upsert, bind, parameter, Option.getD_some, Option.getD_none, Json.asText, Json.asBool,
    Json.asNumber, Json.asNullable_nullable, Option.bind_some, Option.bind_none]

theorem MenuItemSnapshot.upsert_backfill (zone : Timestamp → ZoneOffset) (row : MenuItemRow) (earlier : Option ReadMenuItemRow) :
    (MenuItemSnapshot.of (row.backfill zone).payload).upsert row.id row.tenantId earlier =
      some { row.toDomain.readRow with version := (earlier.map (·.version)).getD 1 } := by
  rw [of_backfill]
  simp only [MenuItemSnapshot.upsert, bind, column, Json.asText, Json.asBool, Json.asNumber, Json.asNullable_nullable,
    newDate_timestamptz, Option.bind_some, Option.map_some]
  rfl

/-- The projector makes of what the factory sends what the events stand for. -/
theorem CatalogEvent.apply_entry {event : CatalogEvent} (dated : event.Dated) :
    event.entry.apply model = some (applyCatalogEvent model event) := by
  cases event with
  | restaurantCreated restaurant | restaurantUpdated restaurant =>
    simp only [entry, OutboxEntry.apply, RestaurantSnapshot.upsert_toSnapshot dated.1 dated.2, Option.map_some]
    rfl
  | menuItemCreated menuItem | menuItemUpdated menuItem =>
    simp only [entry, OutboxEntry.apply, MenuItemSnapshot.upsert_toSnapshot dated.1 dated.2, Option.map_some]
    rfl
  | restaurantDeleted restaurant | menuItemDeleted menuItem => rfl

end factory

section again

/-- A row that has been projected is left as it is when it is projected again. -/
theorem upsertRestaurant_again (row : ReadRestaurantRow) (earlier : Option ReadRestaurant) :
    upsertRestaurant row (some (upsertRestaurant row earlier)) = upsertRestaurant row earlier := by
  cases earlier <;> rfl

theorem ReadModel.upsertRestaurant_again (model : ReadModel) (row : ReadRestaurantRow) :
    (model.upsertRestaurant row).upsertRestaurant row = model.upsertRestaurant row := by
  simp only [ReadModel.upsertRestaurant, Function.update_self, Function.update_idem, Catalog.upsertRestaurant_again]

theorem ReadModel.upsertMenuItem_again (model : ReadModel) (row : ReadMenuItemRow) :
    (model.upsertMenuItem row).upsertMenuItem row = model.upsertMenuItem row := by
  simp only [ReadModel.upsertMenuItem, Function.update_idem]

end again

/-- The ways in which a row is announced. -/
inductive Announcement
  | created
  | updated
  | backfilled (zone : Timestamp → ZoneOffset)

/-- The backfill leaves the version out. -/
def Announcement.sendsVersion : Announcement → Bool
  | .created | .updated => true
  | .backfilled _ => false

variable {announcement : Announcement} {model : ReadModel}

namespace RestaurantRow

def announce (row : RestaurantRow) : Announcement → OutboxEntry
  | .created => (CatalogEvent.restaurantCreated row.toDomain).entry
  | .updated => (CatalogEvent.restaurantUpdated row.toDomain).entry
  | .backfilled zone => row.backfill zone

/-- The columns of a row in the read model, with its times to the millisecond. -/
structure Shown (row : RestaurantRow) (read : ReadRestaurant) : Prop where
  name : read.name = row.name
  description : read.description = row.description
  isActive : read.isActive = row.isActive
  version : read.version = row.version
  createdAt : read.createdAt = row.createdAt.toDate
  updatedAt : read.updatedAt = row.updatedAt.toDate

/-- An update that expects the version goes on to its transaction wherever the
row is stored. -/
def Accepts (row : RestaurantRow) (version : Nat) : Prop :=
  ∀ (service : Service) (call : Nat) (changes : UpdateRestaurantProps) (now : Nat), service.calls call = .idle →
    service.findRestaurant row.id row.tenantId = some row.toDomain →
    service.step (.updateRestaurant call row.id row.tenantId changes (some version) now) =
      some (service.setCall call (.updatingRestaurant (row.toDomain.update changes now)))

/-- The projector takes the announcement and then shows the row, with the
rating that it had; the announcement changes nothing when it comes again. -/
def Agrees (row : RestaurantRow) (announcement : Announcement) (model : ReadModel) : Prop :=
  ∃ model' read, (row.announce announcement).apply model = some model' ∧ model'.restaurants row.id = some read ∧ row.Shown read ∧
    (∀ earlier, model.restaurants row.id = some earlier →
      read.rating = earlier.rating ∧ read.reviewCount = earlier.reviewCount) ∧
    (row.announce announcement).apply model' = some model' ∧ row.Accepts read.version

variable {row : RestaurantRow}

theorem accepts_version (row : RestaurantRow) : row.Accepts row.version := by
  intro service call changes now idle found
  have expected : (some row.version).all fun version => version = row.toDomain.version := by
    rw [Option.all_some, decide_eq_true_eq]
    rfl
  simp only [Service.step, Service.lookUp, idle, found, Option.filter_some, expected, if_true, Option.map_some, Option.getD_some]

theorem apply_announce (sent : announcement.sendsVersion) (model : ReadModel) :
    (row.announce announcement).apply model = some (model.upsertRestaurant row.toDomain.readRow) := by
  have dated := And.intro row.createdAt.toDate_lt row.updatedAt.toDate_lt
  cases announcement with
  | created => exact @CatalogEvent.apply_entry model (.restaurantCreated row.toDomain) dated
  | updated => exact @CatalogEvent.apply_entry model (.restaurantUpdated row.toDomain) dated
  | backfilled zone => cases sent

theorem apply_backfill (zone : Timestamp → ZoneOffset) (model : ReadModel) : (row.backfill zone).apply model = none :=
  congrArg (Option.map _) (RestaurantSnapshot.upsert_backfill zone row row.id row.tenantId (model.restaurants row.id))

/-- An earlier row keeps the time of its creation. -/
theorem shown_upsert_iff {earlier : Option ReadRestaurant} : row.Shown (upsertRestaurant row.toDomain.readRow earlier) ↔
    ∀ read, earlier = some read → read.createdAt = row.createdAt.toDate := by
  cases earlier with
  | none =>
    refine ⟨fun _ read before => ?_, fun _ => ⟨rfl, rfl, rfl, rfl, rfl, rfl⟩⟩
    cases before
  | some read =>
    constructor
    · intro shown other before
      cases before
      exact shown.createdAt
    · intro same
      exact ⟨rfl, rfl, rfl, rfl, same read rfl, rfl⟩

theorem agrees_iff : row.Agrees announcement model ↔
    announcement.sendsVersion ∧ ∀ earlier, model.restaurants row.id = some earlier → earlier.createdAt = row.createdAt.toDate := by
  have stored : (model.upsertRestaurant row.toDomain.readRow).restaurants row.id =
      some (upsertRestaurant row.toDomain.readRow (model.restaurants row.id)) := Function.update_self ..
  constructor
  · rintro ⟨model', read, applied, found, shown, -, -, -⟩
    have sent : announcement.sendsVersion := by
      cases announcement with
      | created | updated => rfl
      | backfilled zone => cases (apply_backfill zone model).symm.trans applied
    cases (apply_announce sent model).symm.trans applied
    cases stored.symm.trans found
    exact ⟨sent, shown_upsert_iff.mp shown⟩
  · rintro ⟨sent, same⟩
    have shown := shown_upsert_iff.mpr same
    refine ⟨_, _, apply_announce sent model, stored, shown, fun earlier before => ?_, ?_, ?_⟩
    · rw [before]
      exact ⟨rfl, rfl⟩
    · rw [apply_announce sent, ReadModel.upsertRestaurant_again]
    · rw [shown.version]
      exact accepts_version row

end RestaurantRow

namespace MenuItemRow

def announce (row : MenuItemRow) : Announcement → OutboxEntry
  | .created => (CatalogEvent.menuItemCreated row.toDomain).entry
  | .updated => (CatalogEvent.menuItemUpdated row.toDomain).entry
  | .backfilled zone => row.backfill zone

structure Shown (row : MenuItemRow) (read : ReadMenuItemRow) : Prop where
  restaurantId : read.restaurantId = row.restaurantId
  name : read.name = row.name
  description : read.description = row.description
  priceCents : read.priceCents = row.priceCents
  isAvailable : read.isAvailable = row.isAvailable
  version : read.version = row.version
  createdAt : read.createdAt = row.createdAt.toDate
  updatedAt : read.updatedAt = row.updatedAt.toDate

def Accepts (row : MenuItemRow) (version : Nat) : Prop :=
  ∀ (service : Service) (call : Nat) (changes : UpdateMenuItemProps) (now : Nat), service.calls call = .idle →
    service.findMenuItem row.id row.restaurantId row.tenantId = some row.toDomain →
    service.step (.updateMenuItem call row.id row.tenantId row.restaurantId changes (some version) now) =
      some (service.setCall call (.updatingMenuItem (row.toDomain.update changes now)))

def Agrees (row : MenuItemRow) (announcement : Announcement) (model : ReadModel) : Prop :=
  ∃ model' read, (row.announce announcement).apply model = some model' ∧ model'.menuItems row.id = some read ∧ row.Shown read ∧
    (row.announce announcement).apply model' = some model' ∧ row.Accepts read.version

variable {row : MenuItemRow}

/-- The version that the read model comes to show: without one in the payload
it keeps its own, or has the default of the column. -/
def shownVersion (row : MenuItemRow) (announcement : Announcement) (model : ReadModel) : Nat :=
  if announcement.sendsVersion then row.version else ((model.menuItems row.id).map (·.version)).getD 1

/-- What an announcement makes of the row in the read model. -/
def readRow (row : MenuItemRow) (announcement : Announcement) (model : ReadModel) : ReadMenuItemRow :=
  { row.toDomain.readRow with version := row.shownVersion announcement model }

theorem accepts_version (row : MenuItemRow) : row.Accepts row.version := by
  intro service call changes now idle found
  have expected : (some row.version).all fun version => version = row.toDomain.version := by
    rw [Option.all_some, decide_eq_true_eq]
    rfl
  simp only [Service.step, Service.lookUp, idle, found, Option.filter_some, expected, if_true, Option.map_some, Option.getD_some]

theorem apply_announce (announcement : Announcement) (model : ReadModel) :
    (row.announce announcement).apply model = some (model.upsertMenuItem (row.readRow announcement model)) := by
  have dated := And.intro row.createdAt.toDate_lt row.updatedAt.toDate_lt
  cases announcement with
  | created => exact @CatalogEvent.apply_entry model (.menuItemCreated row.toDomain) dated
  | updated => exact @CatalogEvent.apply_entry model (.menuItemUpdated row.toDomain) dated
  | backfilled zone => exact congrArg (Option.map _) (MenuItemSnapshot.upsert_backfill zone row (model.menuItems row.id))

theorem menuItems_upsert (announcement : Announcement) (model : ReadModel) :
    (model.upsertMenuItem (row.readRow announcement model)).menuItems row.id = some (row.readRow announcement model) :=
  Function.update_self ..

theorem readRow_again (announcement : Announcement) (model : ReadModel) :
    row.readRow announcement (model.upsertMenuItem (row.readRow announcement model)) = row.readRow announcement model := by
  have version : row.shownVersion announcement (model.upsertMenuItem (row.readRow announcement model)) =
      row.shownVersion announcement model := by
    cases announcement with
    | created | updated => rfl
    | backfilled zone =>
      rw [shownVersion, menuItems_upsert]
      rfl
  exact congrArg (fun version => { row.toDomain.readRow with version }) version

theorem shown_readRow_iff : row.Shown (row.readRow announcement model) ↔ row.version = row.shownVersion announcement model :=
  ⟨fun shown => shown.version.symm, fun same => ⟨rfl, rfl, rfl, rfl, rfl, same.symm, rfl, rfl⟩⟩

theorem agrees_iff : row.Agrees announcement model ↔ row.version = row.shownVersion announcement model := by
  have stored := @menuItems_upsert row announcement model
  constructor
  · rintro ⟨model', read, applied, found, shown, -, -⟩
    cases (apply_announce announcement model).symm.trans applied
    cases stored.symm.trans found
    exact shown_readRow_iff.mp shown
  · intro same
    have shown := shown_readRow_iff.mpr same
    refine ⟨_, _, apply_announce announcement model, stored, shown, ?_, ?_⟩
    · rw [apply_announce, readRow_again, ReadModel.upsertMenuItem_again]
    · rw [shown.version]
      exact accepts_version row

end MenuItemRow

/-- Exactly which announcements the read model follows: those of the factory,
and of a menu item the backfill's where its default is the version or its own
version is; an earlier restaurant has been created when the row was. -/
theorem announcements_agree_iff (row : RestaurantRow) (menuItem : MenuItemRow) (announcement : Announcement) (model : ReadModel) :
    (row.Agrees announcement model ↔
      announcement.sendsVersion ∧
        ∀ earlier, model.restaurants row.id = some earlier → earlier.createdAt = row.createdAt.toDate) ∧
    (menuItem.Agrees announcement model ↔
      announcement.sendsVersion ∨ menuItem.version = ((model.menuItems menuItem.id).map (·.version)).getD 1) := by
  refine ⟨RestaurantRow.agrees_iff, ?_⟩
  rw [MenuItemRow.agrees_iff, MenuItemRow.shownVersion]
  by_cases sent : announcement.sendsVersion
  · rw [if_pos sent]
    exact ⟨fun _ => Or.inl sent, fun _ => rfl⟩
  · rw [if_neg sent]
    exact ⟨Or.inr, fun same => same.resolve_left sent⟩

def newYear : Timestamp where
  micros := 1735689600123456
  from_1970 := by decide
  before_10000 := by decide

def greenwich : ZoneOffset where
  minutes := 0
  inDay := by decide

def noodleBar : RestaurantRow where
  id := "noodle-bar"
  tenantId := "tenant"
  name := "Noodle Bar"
  description := none
  isActive := true
  createdAt := newYear
  updatedAt := newYear
  version := 1

def beefNoodles : MenuItemRow where
  id := "beef-noodles"
  tenantId := "tenant"
  restaurantId := "noodle-bar"
  name := "Beef Noodles"
  description := none
  priceCents := 8500
  isAvailable := true
  createdAt := newYear
  updatedAt := newYear
  version := 4

/-- A backfill of an empty read model brings no restaurant into it, and menu
items with the version 1. -/
theorem backfill_disagrees :
    ¬ noodleBar.Agrees (.backfilled fun _ => greenwich) Service.empty.read ∧
    ¬ beefNoodles.Agrees (.backfilled fun _ => greenwich) Service.empty.read := by
  constructor
  · intro agrees
    cases (RestaurantRow.agrees_iff.mp agrees).1
  · intro agrees
    cases MenuItemRow.agrees_iff.mp agrees

end FoodDelivery.Catalog
