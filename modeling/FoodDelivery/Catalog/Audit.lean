import FoodDelivery.Lib.AuditTrail
import FoodDelivery.Catalog.Steps

namespace FoodDelivery.Catalog

open CommitLog AuditTrail

/-- What `toSnapshot` keeps of a row. -/
inductive Snapshot
  | restaurant (restaurant : Restaurant)
  | menuItem (menuItem : MenuItem)
  deriving DecidableEq, Repr

/-- What an audit row or an event is about. -/
inductive Subject
  | restaurant (id : Uuid)
  | menuItem (id : Uuid)
  deriving DecidableEq, Repr

def Subject.entity : Subject → String
  | .restaurant _ => "restaurant"
  | .menuItem _ => "menu_item"

def Subject.entityId : Subject → Uuid
  | .restaurant id => id
  | .menuItem id => id

def Snapshot.subject : Snapshot → Subject
  | .restaurant row => .restaurant row.id
  | .menuItem row => .menuItem row.id

def Snapshot.Deleted : Snapshot → Prop
  | .restaurant row => row.deletedAt ≠ none
  | .menuItem row => row.deletedAt ≠ none

def CatalogEvent.subject : CatalogEvent → Subject
  | .restaurantCreated restaurant | .restaurantUpdated restaurant | .restaurantDeleted restaurant => .restaurant restaurant.id
  | .menuItemCreated menuItem | .menuItemUpdated menuItem | .menuItemDeleted menuItem => .menuItem menuItem.id

def Service.stored (service : Service) : Subject → Option Snapshot
  | .restaurant id => (service.restaurants.find id).map .restaurant
  | .menuItem id => (service.menuItems.find id).map .menuItem

structure AuditEntry extends Record Snapshot where
  entity : String
  entityId : Uuid
  deriving DecidableEq, Repr

/-- A row of audit_log. -/
structure AuditLog extends AuditEntry where
  tenantId : Uuid
  actor : String
  deriving DecidableEq, Repr

def AuditLog.isAbout (row : AuditLog) (subject : Subject) : Bool := row.entity = subject.entity ∧ row.entityId = subject.entityId

def Subject.entry (subject : Subject) (record : Record Snapshot) : AuditEntry :=
  { record with entity := subject.entity, entityId := subject.entityId }

/-- What a handler holds from before its transaction: its context and the row
that it is going to change. -/
structure CallLocals where
  tenantId : Uuid
  actor : String
  before : Option Snapshot

/-- The call that an action begins, with its tenant. -/
def Action.begins : Action → Option (Nat × Uuid)
  | .createRestaurant call _ tenantId .. | .updateRestaurant call _ tenantId .. | .deleteRestaurant call _ tenantId
  | .createMenuItem call _ tenantId .. | .updateMenuItem call _ tenantId .. | .deleteMenuItem call _ tenantId _ =>
    some (call, tenantId)
  | _ => none

/-- `getRestaurant` and `getMenuItem`, where the handler keeps what they return. -/
def Service.lookedUp (service : Service) : Action → Option Snapshot
  | .updateRestaurant _ id tenantId .. | .deleteRestaurant _ id tenantId => (service.findRestaurant id tenantId).map .restaurant
  | .updateMenuItem _ id tenantId restaurantId .. | .deleteMenuItem _ id tenantId restaurantId =>
    (service.findMenuItem id restaurantId tenantId).map .menuItem
  | _ => none

/-- What a transaction records, unless it is rolled back. -/
def Service.audit (service : Service) (before : Option Snapshot) : Call → Option AuditEntry
  | .creatingRestaurant saved => some ((Subject.restaurant saved.id).entry ⟨.create, none, some (.restaurant saved)⟩)
  | .creatingMenuItem saved => some ((Subject.menuItem saved.id).entry ⟨.create, none, some (.menuItem saved)⟩)
  | .updatingRestaurant updated =>
    ((service.findRestaurant updated.id updated.tenantId).filter fun row => row.version = updated.version).map fun row =>
      (Subject.restaurant updated.id).entry ⟨.update, before, some (.restaurant (updated.updateVersioned row))⟩
  | .updatingMenuItem updated =>
    ((service.findMenuItem updated.id updated.restaurantId updated.tenantId).filter fun row =>
      row.version = updated.version).map fun row =>
      (Subject.menuItem updated.id).entry ⟨.update, before, some (.menuItem (updated.updateVersioned row))⟩
  | .swept before _ _ => some ((Subject.restaurant before.id).entry ⟨.delete, some (.restaurant before), none⟩)
  | .deletingMenuItem before => some ((Subject.menuItem before.id).entry ⟨.delete, some (.menuItem before), none⟩)
  | _ => none

/-- The catalog with its audit log, whose newest row comes first. -/
structure AuditedService where
  service : Service
  locals : Nat → CallLocals
  auditLog : List AuditLog

namespace AuditedService

def empty : AuditedService where
  service := .empty
  locals _ := { tenantId := "", actor := "system", before := none }
  auditLog := []

/-- `TypeOrmAuditAdapter.record`. -/
def record (locals : CallLocals) (entry : AuditEntry) : AuditLog :=
  { entry with tenantId := locals.tenantId, actor := locals.actor }

/-- A step of the catalog; the audit row of a transaction is part of it. -/
def step (s : AuditedService) (actor : String) (action : Action) : Option AuditedService :=
  (s.service.step action).map fun service =>
    match action with
    | .commit call _ =>
      { s with
        service
        auditLog := ((s.service.audit (s.locals call).before (s.service.calls call)).map (record (s.locals call))).toList ++
          s.auditLog }
    | _ =>
      match action.begins with
      | some (call, tenantId) =>
        { s with
          service
          locals := Function.update s.locals call { tenantId, actor, before := s.service.lookedUp action } }
      | none => { s with service }

def trail (s : AuditedService) (subject : Subject) : List (Record Snapshot) :=
  (s.auditLog.filter fun row => row.isAbout subject).map fun row => row.toRecord

end AuditedService

/-- The runs of the catalog, with the actor of each call. -/
abbrev AuditedRun : List (Commit AuditedService (String × Action)) → AuditedService → Prop :=
  History (· = AuditedService.empty) fun _ act s s' => s.step act.1 act.2 = some s'

/-- How many audit rows and events about a subject a commit adds. -/
def Writes (commit : Commit AuditedService (String × Action)) (subject : Subject) (rows events : Nat) : Prop :=
  ∃ newRows newEvents, commit.after.auditLog = newRows ++ commit.before.auditLog ∧
    commit.after.service.pending = commit.before.service.pending ++ newEvents ∧
    newRows.countP (fun row => row.isAbout subject) = rows ∧
    newEvents.countP (fun event => event.subject = subject) = events

/-- A commit deletes the menu item along with its restaurant, whose deletion
has one audit row and an event for every item that it listed. -/
def DeletedWithRestaurant (commit : Commit AuditedService (String × Action)) (id : Uuid) : Prop :=
  ∃ call now before items ids old, commit.act.2 = .commit call now ∧ commit.before.service.calls call = .swept before items ids ∧
    commit.before.service.menuItems.find id = some old ∧ old.restaurantId = before.id ∧
    Writes commit (.restaurant before.id) 1 1 ∧ Writes commit (.menuItem id) 0 (items.countP fun item => item.id = id)

/-- What a call at the end of a deletion deletes. -/
def Call.deletes : Call → Option Snapshot
  | .swept before _ _ => some (.restaurant before)
  | .deletingMenuItem before => some (.menuItem before)
  | _ => none

/-- A deletion of the subject finds it as its lookup read it. -/
def DeletesAsRead (subject : Subject) (commit : Commit AuditedService (String × Action)) : Prop :=
  ∀ call now before, commit.act.2 = .commit call now → (commit.before.service.calls call).deletes = some before →
    before.subject = subject → commit.before.service.stored subject = some before

end FoodDelivery.Catalog
