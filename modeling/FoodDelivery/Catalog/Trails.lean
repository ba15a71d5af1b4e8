import FoodDelivery.Catalog.Audit

namespace FoodDelivery.Catalog

open CommitLog AuditTrail OptimisticLock

theorem Subject.isAbout_entry (subject other : Subject) (record : Record Snapshot) (locals : CallLocals) :
    (AuditedService.record locals (subject.entry record)).isAbout other = decide (subject = other) := by
  cases subject <;> cases other <;>
    simp [AuditLog.isAbout, AuditedService.record, Subject.entry, Subject.entity, Subject.entityId]

/-- The row was read, not deleted, and stands as it was or has been written since. -/
def Snapshot.Behind (service : Service) : Snapshot → Prop
  | .restaurant row => row.deletedAt = none ∧
    ∃ stored, service.restaurants.find row.id = some stored ∧ restaurantLock.RowLater row stored
  | .menuItem row => row.deletedAt = none ∧
    ∃ stored, service.menuItems.find row.id = some stored ∧ menuItemLock.RowLater row stored

/-- The row that a handler keeps is the one that its transaction is about. -/
def Call.Reads (before : Option Snapshot) : Call → Prop
  | .updatingRestaurant updated =>
    ∃ row, before = some (.restaurant row) ∧ row.id = updated.id ∧ row.version = updated.version
  | .updatingMenuItem updated =>
    ∃ row, before = some (.menuItem row) ∧ row.id = updated.id ∧ row.version = updated.version
  | .deletingRestaurant row | .listed row _ | .swept row _ _ => before = some (.restaurant row)
  | .deletingMenuItem row => before = some (.menuItem row)
  | _ => True

namespace Service

variable {service after : Service}

theorem stored_writeRestaurant (service : Service) (row : Restaurant) (event : CatalogEvent) (subject : Subject) :
    (service.writeRestaurant row event).stored subject =
      if subject = .restaurant row.id then some (.restaurant row) else service.stored subject := by
  cases subject with
  | restaurant id =>
    simp only [stored, writeRestaurant, Table.find_put, Subject.restaurant.injEq]
    split <;> rfl
  | menuItem id =>
    have other : Subject.menuItem id ≠ .restaurant row.id := Subject.noConfusion
    rw [if_neg other]
    rfl

theorem stored_writeMenuItem (service : Service) (row : MenuItem) (itemIds : List Uuid) (event : CatalogEvent)
    (subject : Subject) :
    (service.writeMenuItem row itemIds event).stored subject =
      if subject = .menuItem row.id then some (.menuItem row) else service.stored subject := by
  cases subject with
  | menuItem id =>
    simp only [stored, writeMenuItem, Table.find_put, Subject.menuItem.injEq]
    split <;> rfl
  | restaurant id =>
    have other : Subject.restaurant id ≠ .menuItem row.id := Subject.noConfusion
    rw [if_neg other]
    rfl

/-- How many events about a subject a transaction adds to the outbox. -/
def Adds (service after : Service) (subject : Subject) (n : Nat) : Prop :=
  ∃ events, after.pending = service.pending ++ events ∧ events.countP (fun event => event.subject = subject) = n

theorem Adds.one {event : CatalogEvent} {subject : Subject} (about : event.subject = subject)
    (pending : after.pending = service.pending ++ [event]) : service.Adds after subject 1 :=
  ⟨[event], pending, by simp [about]⟩

/-- What a transaction does to one row, in its table, the audit log and the outbox. -/
inductive Effect (service after : Service) (before : Option Snapshot) (stage : Call) : Subject → Prop
  | kept {subject : Subject} : after.stored subject = service.stored subject →
    (∀ entry, service.audit before stage = some entry → ∃ other record, entry = Subject.entry other record ∧ other ≠ subject) →
    Effect service after before stage subject
  | created {subject : Subject} (new : Snapshot) : service.stored subject = none → after.stored subject = some new →
    service.audit before stage = some (subject.entry ⟨.create, none, some new⟩) → service.Adds after subject 1 →
    Effect service after before stage subject
  | updated {subject : Subject} (old new : Snapshot) : service.stored subject = some old → ¬old.Deleted →
    after.stored subject = some new → service.audit before stage = some (subject.entry ⟨.update, some old, some new⟩) →
    service.Adds after subject 1 → Effect service after before stage subject
  | deleted {subject : Subject} (read old new : Snapshot) : stage.deletes = some read → read.subject = subject → ¬read.Deleted →
    service.stored subject = some old → after.stored subject = some new → new.Deleted →
    service.audit before stage = some (subject.entry ⟨.delete, some read, none⟩) → service.Adds after subject 1 →
    Effect service after before stage subject
  | swept (row : Restaurant) (items : List MenuItem) (ids : List Uuid) (old new : MenuItem) (id : Uuid) :
    stage = .swept row items ids → service.menuItems.find id = some old → old.restaurantId = row.id →
    after.stored (.menuItem id) = some (.menuItem new) → new.deletedAt ≠ none →
    service.audit before stage = some ((Subject.restaurant row.id).entry ⟨.delete, some (.restaurant row), none⟩) →
    service.Adds after (.restaurant row.id) 1 → service.Adds after (.menuItem id) (items.countP fun item => item.id = id) →
    Effect service after before stage (.menuItem id)

theorem updateRestaurant_none {updated : Restaurant}
    (refused : ((service.findRestaurant updated.id updated.tenantId).filter fun row => row.version = updated.version) = none) :
    service.updateRestaurant updated = service := by
  rcases service.updateRestaurant_some_or updated with same | ⟨row, found, current⟩
  · exact same
  · rw [found, Option.filter_some, if_pos (decide_eq_true current)] at refused
    cases refused

theorem updateMenuItem_none {updated : MenuItem}
    (refused : ((service.findMenuItem updated.id updated.restaurantId updated.tenantId).filter fun row =>
      row.version = updated.version) = none) :
    service.updateMenuItem updated = service := by
  rcases service.updateMenuItem_some_or updated with same | ⟨row, found, current⟩
  · exact same
  · rw [found, Option.filter_some, if_pos (decide_eq_true current)] at refused
    cases refused

section effect

variable {now : Nat} {before : Option Snapshot} (subject : Subject)

theorem effect_createRestaurant {row : Restaurant} (fresh : service.restaurants.find row.id = none) :
    Effect service (service.saveRestaurant row) before (.creatingRestaurant row) subject := by
  have stored := service.stored_writeRestaurant row (.restaurantCreated row) subject
  rcases eq_or_ne subject (.restaurant row.id) with rfl | other
  · have absent : service.stored (.restaurant row.id) = none := by simp [Service.stored, fresh]
    exact .created (.restaurant row) absent (stored.trans (if_pos rfl)) rfl (.one rfl rfl)
  · refine .kept (stored.trans (if_neg other)) ?_
    rintro entry ⟨⟩
    exact ⟨_, _, rfl, other.symm⟩

theorem effect_createMenuItem {row : MenuItem} (fresh : service.menuItems.find row.id = none) :
    Effect service (service.saveMenuItem row) before (.creatingMenuItem row) subject := by
  have stored := service.stored_writeMenuItem row (row.id :: service.itemIds) (.menuItemCreated row) subject
  rcases eq_or_ne subject (.menuItem row.id) with rfl | other
  · have absent : service.stored (.menuItem row.id) = none := by simp [Service.stored, fresh]
    exact .created (.menuItem row) absent (stored.trans (if_pos rfl)) rfl (.one rfl rfl)
  · refine .kept (stored.trans (if_neg other)) ?_
    rintro entry ⟨⟩
    exact ⟨_, _, rfl, other.symm⟩

/-- Where the version of the row has not moved, the row is what the handler read. -/
theorem effect_updateRestaurant {updated : Restaurant} (reads : (Call.updatingRestaurant updated).Reads before)
    (behind : ∀ snapshot, before = some snapshot → snapshot.Behind service) :
    Effect service (service.updateRestaurant updated) before (.updatingRestaurant updated) subject := by
  cases accepted : (service.findRestaurant updated.id updated.tenantId).filter fun row => row.version = updated.version with
  | none =>
    rw [updateRestaurant_none accepted]
    refine .kept rfl fun entry written => ?_
    simp only [Service.audit, accepted] at written
    cases written
  | some row =>
    obtain ⟨found, current⟩ := Option.filter_eq_some_iff.mp accepted
    replace current : row.version = updated.version := by simpa using current
    obtain ⟨atRow, undeleted, key⟩ := liveRestaurant_stored (findRestaurant_live found).1
    obtain ⟨read, rfl, sameId, sameVersion⟩ := reads
    obtain ⟨-, row', atRow', later⟩ := behind _ rfl
    cases Option.some.inj (atRow'.symm.trans (sameId ▸ atRow))
    cases show read = row from later.core (sameVersion.trans current.symm)
    have written : service.audit (some (.restaurant row)) (.updatingRestaurant updated) =
        some ((Subject.restaurant row.id).entry
          ⟨.update, some (.restaurant row), some (.restaurant (updated.updateVersioned row))⟩) := by
      simp only [Service.audit, accepted, Option.map_some, key]
    have stored := service.stored_writeRestaurant (updated.updateVersioned row)
      (.restaurantUpdated (updated.updateVersioned row)) subject
    rw [updateRestaurant_some found current]
    rcases eq_or_ne subject (.restaurant row.id) with rfl | other
    · have stands : service.stored (.restaurant row.id) = some (.restaurant row) := by simp [Service.stored, key, atRow]
      exact .updated (.restaurant row) (.restaurant (updated.updateVersioned row)) stands (fun deleted => deleted undeleted)
        (stored.trans (if_pos rfl)) written (.one rfl rfl)
    · refine .kept (stored.trans (if_neg other)) fun entry known => ?_
      cases written.symm.trans known
      exact ⟨_, _, rfl, other.symm⟩

theorem effect_updateMenuItem {updated : MenuItem} (reads : (Call.updatingMenuItem updated).Reads before)
    (behind : ∀ snapshot, before = some snapshot → snapshot.Behind service) :
    Effect service (service.updateMenuItem updated) before (.updatingMenuItem updated) subject := by
  cases accepted : (service.findMenuItem updated.id updated.restaurantId updated.tenantId).filter fun row =>
      row.version = updated.version with
  | none =>
    rw [updateMenuItem_none accepted]
    refine .kept rfl fun entry written => ?_
    simp only [Service.audit, accepted] at written
    cases written
  | some row =>
    obtain ⟨found, current⟩ := Option.filter_eq_some_iff.mp accepted
    replace current : row.version = updated.version := by simpa using current
    obtain ⟨atRow, undeleted, key⟩ := liveMenuItem_stored (findMenuItem_live found).1
    obtain ⟨read, rfl, sameId, sameVersion⟩ := reads
    obtain ⟨-, row', atRow', later⟩ := behind _ rfl
    cases Option.some.inj (atRow'.symm.trans (sameId ▸ atRow))
    cases show read = row from later.core (sameVersion.trans current.symm)
    have written : service.audit (some (.menuItem row)) (.updatingMenuItem updated) =
        some ((Subject.menuItem row.id).entry
          ⟨.update, some (.menuItem row), some (.menuItem (updated.updateVersioned row))⟩) := by
      simp only [Service.audit, accepted, Option.map_some, key]
    have stored := service.stored_writeMenuItem (updated.updateVersioned row) service.itemIds
      (.menuItemUpdated (updated.updateVersioned row)) subject
    rw [updateMenuItem_some found current]
    rcases eq_or_ne subject (.menuItem row.id) with rfl | other
    · have stands : service.stored (.menuItem row.id) = some (.menuItem row) := by simp [Service.stored, key, atRow]
      exact .updated (.menuItem row) (.menuItem (updated.updateVersioned row)) stands (fun deleted => deleted undeleted)
        (stored.trans (if_pos rfl)) written (.one rfl rfl)
    · refine .kept (stored.trans (if_neg other)) fun entry known => ?_
      cases written.symm.trans known
      exact ⟨_, _, rfl, other.symm⟩

theorem effect_deleteMenuItem {row : MenuItem} (behind : (Snapshot.menuItem row).Behind service) :
    Effect service (service.deleteMenuItem row now) before (.deletingMenuItem row) subject := by
  obtain ⟨undeleted, old, atRow, later⟩ := behind
  rcases eq_or_ne subject (.menuItem row.id) with rfl | other
  · have target : old.id = row.id ∧ old.tenantId = row.tenantId :=
      ⟨(congrArg Prod.fst later.fixed).symm, (congrArg (fun fixed => fixed.2.1) later.fixed).symm⟩
    have stands : service.stored (.menuItem row.id) = some (.menuItem old) := by simp [Service.stored, atRow]
    have after : (service.deleteMenuItem row now).stored (.menuItem row.id) = some (.menuItem (old.softDelete now)) := by
      simp only [Service.stored, deleteMenuItem, Table.find_mapRows, atRow, Option.map_some, if_pos target]
    exact .deleted (.menuItem row) (.menuItem old) (.menuItem (old.softDelete now)) rfl rfl (fun deleted => deleted undeleted)
      stands after nofun rfl (.one rfl rfl)
  · refine .kept ?_ ?_
    · cases subject with
      | restaurant id => rfl
      | menuItem id =>
        have unmoved : (service.deleteMenuItem row now).menuItems.find id = service.menuItems.find id := by
          refine Table.map_find_of_fixed fun old stored => if_neg ?_
          rintro ⟨same, -⟩
          exact other (congrArg _ ((service.menuItems.keyed id old stored).symm.trans same))
        rw [Service.stored, Service.stored, unmoved]
    · rintro entry ⟨⟩
      exact ⟨_, _, rfl, other.symm⟩

/-- The deletion of a restaurant records nothing about the menu items that it deletes. -/
theorem effect_deleteRestaurant {row : Restaurant} {items : List MenuItem} {ids : List Uuid}
    (behind : (Snapshot.restaurant row).Behind service) :
    Effect service (service.deleteRestaurant row items ids now) before (.swept row items ids) subject := by
  obtain ⟨undeleted, old, atRow, later⟩ := behind
  have told : service.Adds (service.deleteRestaurant row items ids now) (.restaurant row.id) 1 := by
    refine ⟨.restaurantDeleted row :: items.map .menuItemDeleted, rfl, ?_⟩
    have others : (items.map CatalogEvent.menuItemDeleted).countP (fun event => event.subject = .restaurant row.id) = 0 := by
      simp [List.countP_eq_zero, CatalogEvent.subject]
    rw [List.countP_cons_of_pos (by simp [CatalogEvent.subject]), others]
  cases subject with
  | restaurant id =>
    rcases eq_or_ne id row.id with rfl | other
    · have target : old.id = row.id ∧ old.tenantId = row.tenantId :=
        ⟨(congrArg Prod.fst later.fixed).symm, (congrArg (fun fixed => fixed.2.1) later.fixed).symm⟩
      have stands : service.stored (.restaurant row.id) = some (.restaurant old) := by simp [Service.stored, atRow]
      have after : (service.deleteRestaurant row items ids now).stored (.restaurant row.id) =
          some (.restaurant (old.softDelete now)) := by
        simp only [Service.stored, deleteRestaurant, Table.find_mapRows, atRow, Option.map_some, if_pos target]
      exact .deleted (.restaurant row) (.restaurant old) (.restaurant (old.softDelete now)) rfl rfl
        (fun deleted => deleted undeleted) stands after nofun rfl told
    · refine .kept ?_ ?_
      · have unmoved : (service.deleteRestaurant row items ids now).restaurants.find id = service.restaurants.find id := by
          refine Table.map_find_of_fixed fun old stored => if_neg ?_
          rintro ⟨same, -⟩
          exact other ((service.restaurants.keyed id old stored).symm.trans same)
        rw [Service.stored, Service.stored, unmoved]
      · rintro entry ⟨⟩
        exact ⟨_, _, rfl, fun same => other (Subject.restaurant.inj same).symm⟩
  | menuItem id =>
    have elsewhere : ∀ entry, service.audit before (.swept row items ids) = some entry →
        ∃ other record, entry = Subject.entry other record ∧ other ≠ .menuItem id := by
      rintro entry ⟨⟩
      exact ⟨_, _, rfl, nofun⟩
    cases stored : service.menuItems.find id with
    | none =>
      refine .kept ?_ elsewhere
      simp only [Service.stored, deleteRestaurant, Table.find_mapRows, stored, Option.map_none]
    | some item =>
      by_cases reached : item.restaurantId = row.id ∧ item.tenantId = row.tenantId ∧ item.id ∈ ids
      · have after : (service.deleteRestaurant row items ids now).stored (.menuItem id) =
            some (.menuItem (item.softDelete now)) := by
          simp only [Service.stored, deleteRestaurant, Table.find_mapRows, stored, Option.map_some, if_pos reached]
        refine .swept row items ids item (item.softDelete now) id rfl stored reached.1 after nofun rfl told ?_
        refine ⟨.restaurantDeleted row :: items.map .menuItemDeleted, rfl, ?_⟩
        rw [List.countP_cons_of_neg (by simp [CatalogEvent.subject]), List.countP_map]
        refine congrFun (congrArg _ (funext fun item => ?_)) items
        simp [CatalogEvent.subject]
      · refine .kept ?_ elsewhere
        simp only [Service.stored, deleteRestaurant, Table.find_mapRows, stored, Option.map_some, if_neg reached]

variable {stage : Call} in
/-- What any transaction that commits does to one row. -/
theorem commit_effect (commits : service.commit now stage = some after) (reads : stage.Reads before)
    (behind : ∀ snapshot, before = some snapshot → snapshot.Behind service) : Effect service after before stage subject := by
  cases stage with
  | creatingRestaurant row =>
    simp only [Service.commit, Option.isNone_iff_eq_none] at commits
    split at commits
    · rename_i fresh
      cases commits
      exact effect_createRestaurant subject fresh
    · cases commits
  | creatingMenuItem row =>
    simp only [Service.commit, Option.isNone_iff_eq_none] at commits
    split at commits
    · rename_i fresh
      cases commits
      exact effect_createMenuItem subject fresh
    · cases commits
  | updatingRestaurant updated =>
    cases commits
    exact effect_updateRestaurant subject reads behind
  | updatingMenuItem updated =>
    cases commits
    exact effect_updateMenuItem subject reads behind
  | deletingMenuItem row =>
    cases commits
    exact effect_deleteMenuItem subject (behind _ reads)
  | swept row items ids =>
    cases commits
    exact effect_deleteRestaurant subject (behind _ reads)
  | _ => cases commits

end effect

end Service

theorem Snapshot.Behind.step {snapshot : Snapshot} {service service' : Service} {action : Action}
    (behind : snapshot.Behind service) (step : service.step action = some service') : snapshot.Behind service' := by
  cases snapshot with
  | restaurant row =>
    obtain ⟨undeleted, stored, atRow, later⟩ := behind
    obtain ⟨stored', stands, grows⟩ := Service.step_restaurants_later step row.id stored atRow
    exact ⟨undeleted, stored', stands, later.trans grows⟩
  | menuItem row =>
    obtain ⟨undeleted, stored, atRow, later⟩ := behind
    obtain ⟨stored', stands, grows⟩ := Service.step_menuItems_later step row.id stored atRow
    exact ⟨undeleted, stored', stands, later.trans grows⟩

theorem behind_findRestaurant {service : Service} {id tenantId : Uuid} {snapshot : Snapshot}
    (read : (service.findRestaurant id tenantId).map Snapshot.restaurant = some snapshot) : snapshot.Behind service := by
  obtain ⟨row, found, rfl⟩ := Option.map_eq_some_iff.mp read
  obtain ⟨stored, undeleted, rfl⟩ := Service.liveRestaurant_stored (Service.findRestaurant_live found).1
  exact ⟨undeleted, row, stored, .refl row⟩

theorem behind_findMenuItem {service : Service} {id restaurantId tenantId : Uuid} {snapshot : Snapshot}
    (read : (service.findMenuItem id restaurantId tenantId).map Snapshot.menuItem = some snapshot) : snapshot.Behind service := by
  obtain ⟨row, found, rfl⟩ := Option.map_eq_some_iff.mp read
  obtain ⟨stored, undeleted, rfl⟩ := Service.liveMenuItem_stored (Service.findMenuItem_live found).1
  exact ⟨undeleted, row, stored, .refl row⟩

/-- A handler keeps only rows that it has just read. -/
theorem behind_lookedUp {service : Service} {action : Action} {snapshot : Snapshot}
    (read : service.lookedUp action = some snapshot) : snapshot.Behind service := by
  cases action with
  | updateRestaurant | deleteRestaurant => exact behind_findRestaurant read
  | updateMenuItem | deleteMenuItem => exact behind_findMenuItem read
  | _ => cases read

theorem Call.reads_found {Row : Type} {found : Option Row} {next : Row → Call} {before : Option Snapshot}
    (reads : ∀ row, found = some row → (next row).Reads before) : ((found.map next).getD .ended).Reads before := by
  cases found with
  | none => exact trivial
  | some row => exact reads row rfl

/-- The lookup of a handler brings its call to a transaction on the row that it keeps. -/
theorem Service.step_begins {service service' : Service} {action : Action} {call : Nat} {tenantId : Uuid}
    (begins : action.begins = some (call, tenantId)) (step : service.step action = some service') :
    ∃ stage, service' = service.setCall call stage ∧ stage.Reads (service.lookedUp action) := by
  cases action with
  | createRestaurant | createMenuItem =>
    cases begins
    obtain ⟨-, rfl⟩ := lookUp_some step
    exact ⟨_, rfl, Call.reads_found fun _ _ => trivial⟩
  | updateRestaurant _ id _ changes expectedVersion now =>
    cases begins
    obtain ⟨-, rfl⟩ := lookUp_some step
    refine ⟨_, rfl, Call.reads_found fun row found => ⟨row, ?_, rfl, rfl⟩⟩
    exact congrArg (Option.map _) (Option.filter_eq_some_iff.mp found).1
  | updateMenuItem _ id _ restaurantId changes expectedVersion now =>
    cases begins
    obtain ⟨-, rfl⟩ := lookUp_some step
    refine ⟨_, rfl, Call.reads_found fun row found => ⟨row, ?_, rfl, rfl⟩⟩
    exact congrArg (Option.map _) (Option.filter_eq_some_iff.mp found).1
  | deleteRestaurant | deleteMenuItem =>
    cases begins
    obtain ⟨-, rfl⟩ := lookUp_some step
    exact ⟨_, rfl, Call.reads_found fun row found => congrArg (Option.map _) found⟩
  | _ => cases begins

namespace AuditedService

variable {exact : Prop} {subject : Subject} {s s' : AuditedService}

/-- The trail of a row fits the row, and what the handlers keep was read from
the rows that their transactions are about. -/
structure Invariant (exact : Prop) (subject : Subject) (s : AuditedService) : Prop where
  audited : Audited exact Snapshot.Deleted (s.service.stored subject) (s.trail subject)
  read : ∀ call snapshot, (s.locals call).before = some snapshot → snapshot.Behind s.service
  reads : ∀ call, (s.service.calls call).Reads (s.locals call).before

theorem Invariant.empty : AuditedService.empty.Invariant exact subject where
  audited := by
    cases subject <;> exact .empty
  read _ _ absurd := nomatch absurd
  reads _ := trivial

/-- A step on the calls alone, none of which comes to a transaction on another row. -/
theorem Invariant.stages (invariant : s.Invariant exact subject) {service : Service}
    (restaurants : service.restaurants = s.service.restaurants) (menuItems : service.menuItems = s.service.menuItems)
    (reads : ∀ call, (service.calls call).Reads (s.locals call).before) :
    ({ s with service } : AuditedService).Invariant exact subject where
  audited := by
    have same : service.stored subject = s.service.stored subject := by
      cases subject <;> simp only [Service.stored, restaurants, menuItems]
    exact same ▸ invariant.audited
  read call snapshot known := by
    have behind := invariant.read call snapshot known
    cases snapshot <;> simpa only [Snapshot.Behind, restaurants, menuItems] using behind
  reads := reads

theorem Invariant.setCall (invariant : s.Invariant exact subject) {call : Nat} {stage : Call}
    (reads : stage.Reads (s.locals call).before) :
    ({ s with service := s.service.setCall call stage } : AuditedService).Invariant exact subject := by
  refine invariant.stages rfl rfl fun other => ?_
  by_cases same : other = call
  · subst same
    rw [Service.setCall_self]
    exact reads
  · rw [Service.setCall_other stage same]
    exact invariant.reads other

theorem Invariant.begin (invariant : s.Invariant exact subject) {call : Nat} {stage : Call} {locals : CallLocals}
    (behind : ∀ snapshot, locals.before = some snapshot → snapshot.Behind s.service) (reads : stage.Reads locals.before) :
    ({ s with
      service := s.service.setCall call stage
      locals := Function.update s.locals call locals } : AuditedService).Invariant exact subject where
  audited := by
    have same : (s.service.setCall call stage).stored subject = s.service.stored subject := by cases subject <;> rfl
    exact same ▸ invariant.audited
  read other snapshot known := by
    have still : snapshot.Behind s.service := by
      by_cases same : other = call
      · subst same
        exact behind snapshot ((congrArg CallLocals.before (Function.update_self ..)).symm.trans known)
      · exact invariant.read other snapshot ((congrArg CallLocals.before (Function.update_of_ne same ..)).symm.trans known)
    cases snapshot <;> exact still
  reads other := by
    by_cases same : other = call
    · subst same
      dsimp only
      rw [Service.setCall_self, Function.update_self]
      exact reads
    · dsimp only
      rw [Service.setCall_other stage same, Function.update_of_ne same]
      exact invariant.reads other

section trail

variable {written : Option AuditEntry} {locals : CallLocals}
  (auditLog : s'.auditLog = (written.map (record locals)).toList ++ s.auditLog)
include auditLog

theorem trail_other
    (elsewhere : ∀ entry, written = some entry → ∃ other record, entry = Subject.entry other record ∧ other ≠ subject) :
    s'.trail subject = s.trail subject := by
  rw [trail, auditLog]
  cases written with
  | none => rfl
  | some entry =>
    obtain ⟨other, known, rfl, different⟩ := elsewhere entry rfl
    rw [Option.map_some, Option.toList_some, List.singleton_append, List.filter_cons_of_neg]
    · rfl
    · rw [Subject.isAbout_entry]
      simpa using different

theorem trail_cons {known : Record Snapshot} (here : written = some (subject.entry known)) :
    s'.trail subject = known :: s.trail subject := by
  subst here
  rw [trail, auditLog, Option.map_some, Option.toList_some, List.singleton_append, List.filter_cons_of_pos]
  · rfl
  · rw [Subject.isAbout_entry]
    exact decide_eq_true rfl

theorem countP_written {other : Subject} {known : Record Snapshot} (here : written = some (other.entry known)) :
    ((written.map (record locals)).toList).countP (fun row => row.isAbout subject) = if other = subject then 1 else 0 := by
  subst here
  rw [Option.map_some, Option.toList_some, List.countP_singleton, Subject.isAbout_entry]
  simp only [decide_eq_true_eq]

end trail

/-- A transaction that commits, with the audit row that it writes. -/
theorem step_commit {actor : String} {call now : Nat} (step : s.step actor (.commit call now) = some s') :
    ∃ after, s.service.commit now (s.service.calls call) = some after ∧ s'.service = after.setCall call .ended ∧
      s'.locals = s.locals ∧
      s'.auditLog = ((s.service.audit (s.locals call).before (s.service.calls call)).map (record (s.locals call))).toList ++
        s.auditLog := by
  obtain ⟨service, run, rfl⟩ := Option.map_eq_some_iff.mp step
  obtain ⟨after, commits, rfl⟩ := Option.map_eq_some_iff.mp run
  exact ⟨after, commits, rfl, rfl, rfl⟩

theorem Invariant.effect (invariant : s.Invariant exact subject) {call now : Nat} {after : Service}
    (commits : s.service.commit now (s.service.calls call) = some after) (other : Subject) :
    Service.Effect s.service after (s.locals call).before (s.service.calls call) other :=
  Service.commit_effect other commits (invariant.reads call) (invariant.read call)

theorem Invariant.commit {actor : String} {call now : Nat} (invariant : s.Invariant exact subject)
    (step : s.step actor (.commit call now) = some s')
    (asRead : exact → DeletesAsRead subject ⟨s, (actor, .commit call now), s'⟩) : s'.Invariant exact subject := by
  obtain ⟨after, commits, service, locals, auditLog⟩ := step_commit step
  have run : s.service.step (.commit call now) = some s'.service := by
    rw [service]
    exact Option.map_eq_some_iff.mpr ⟨after, commits, rfl⟩
  have stored : s'.service.stored subject = after.stored subject := by
    rw [service]
    cases subject <;> rfl
  have audited := invariant.audited
  refine ⟨?_, fun other snapshot known => ?_, fun other => ?_⟩
  · rw [stored]
    cases invariant.effect commits subject with
    | kept same elsewhere =>
      rw [same, trail_other auditLog elsewhere]
      exact audited
    | created new absent now here =>
      rw [now, trail_cons auditLog here]
      rw [absent] at audited
      exact audited.create
    | updated old new stands live now here =>
      rw [now, trail_cons auditLog here]
      rw [stands] at audited
      exact audited.update live
    | deleted read old new deletes about undeleted stands now gone here =>
      rw [now, trail_cons auditLog here]
      rw [stands] at audited
      refine audited.delete gone fun holds => ?_
      have current : s.service.stored subject = some read := asRead holds call _ read rfl deletes about
      cases Option.some.inj (stands.symm.trans current)
      exact ⟨rfl, undeleted⟩
    | swept row items ids old new id stage stands owner now gone here =>
      have atItem : s.service.stored (.menuItem id) = some (.menuItem old) := by simp [Service.stored, stands]
      have elsewhere : ∀ entry, s.service.audit (s.locals call).before (s.service.calls call) = some entry →
          ∃ other record, entry = Subject.entry other record ∧ other ≠ .menuItem id :=
        fun entry known => ⟨_, _, Option.some.inj (known.symm.trans here), nofun⟩
      rw [now, trail_other auditLog elsewhere]
      rw [atItem] at audited
      exact audited.sweep gone
  · rw [locals] at known
    exact (invariant.read other snapshot known).step run
  · rw [service, locals]
    by_cases same : other = call
    · subst same
      rw [Service.setCall_self]
      exact trivial
    · rw [Service.setCall_other _ same, Service.commit_calls commits]
      exact invariant.reads other

theorem Invariant.begun {actor : String} {action : Action} {call : Nat} {tenantId : Uuid} {service : Service}
    (invariant : s.Invariant exact subject) (begins : action.begins = some (call, tenantId))
    (step : s.service.step action = some service) :
    ({ s with
      service
      locals := Function.update s.locals call { tenantId, actor, before := s.service.lookedUp action } } : AuditedService).Invariant
        exact subject := by
  obtain ⟨stage, rfl, reads⟩ := Service.step_begins begins step
  exact invariant.begin (fun _ read => behind_lookedUp read) reads

theorem Invariant.step {actor : String} {action : Action} (invariant : s.Invariant exact subject)
    (step : s.step actor action = some s') (asRead : exact → DeletesAsRead subject ⟨s, (actor, action), s'⟩) :
    s'.Invariant exact subject := by
  cases action with
  | commit call now => exact invariant.commit step asRead
  | list call =>
    obtain ⟨service, run, rfl⟩ := Option.map_eq_some_iff.mp step
    simp only [Service.step] at run
    split at run
    · rename_i row stage
      cases run
      have reads := invariant.reads call
      rw [stage] at reads
      exact invariant.setCall reads
    · cases run
  | sweep call =>
    obtain ⟨service, run, rfl⟩ := Option.map_eq_some_iff.mp step
    simp only [Service.step] at run
    split at run
    · rename_i row items stage
      cases run
      have reads := invariant.reads call
      rw [stage] at reads
      exact invariant.setCall reads
    · cases run
  | abandon call =>
    obtain ⟨service, run, rfl⟩ := Option.map_eq_some_iff.mp step
    cases run
    exact invariant.setCall trivial
  | deliver n =>
    obtain ⟨service, run, rfl⟩ := Option.map_eq_some_iff.mp step
    simp only [Service.step] at run
    split at run
    · split at run
      · cases run
        exact invariant.stages rfl rfl invariant.reads
      · cases run
    · cases run
  | redeliver event =>
    obtain ⟨service, run, rfl⟩ := Option.map_eq_some_iff.mp step
    simp only [Service.step] at run
    split at run
    · cases run
      exact invariant
    · cases run
  | _ =>
    obtain ⟨service, run, rfl⟩ := Option.map_eq_some_iff.mp step
    exact invariant.begun rfl run

/-- A transaction that changes a row writes one audit row and one event about
it, but for the menu items of a restaurant that it deletes. -/
theorem Invariant.writes {actor : String} {call now : Nat} (invariant : s.Invariant exact subject)
    (step : s.step actor (.commit call now) = some s') {changed : Subject}
    (moves : s'.service.stored changed ≠ s.service.stored changed) :
    Writes ⟨s, (actor, .commit call now), s'⟩ changed 1 1 ∨
      ∃ id, changed = .menuItem id ∧ DeletedWithRestaurant ⟨s, (actor, .commit call now), s'⟩ id := by
  obtain ⟨after, commits, service, locals, auditLog⟩ := step_commit step
  have stored : s'.service.stored changed = after.stored changed := by
    rw [service]
    cases changed <;> rfl
  have writes {other about : Subject} {known : Record Snapshot} {n rows : Nat} (count : (if other = about then 1 else 0) = rows)
      (here : s.service.audit (s.locals call).before (s.service.calls call) = some (other.entry known))
      (adds : s.service.Adds after about n) : Writes ⟨s, (actor, .commit call now), s'⟩ about rows n := by
    obtain ⟨events, pending, told⟩ := adds
    refine ⟨_, events, auditLog, ?_, (countP_written auditLog here).trans count, told⟩
    rw [service]
    exact pending
  cases invariant.effect commits changed with
  | kept same => exact absurd (stored.trans same) moves
  | created new absent now here adds => exact Or.inl (writes (if_pos rfl) here adds)
  | updated old new stands live now here adds => exact Or.inl (writes (if_pos rfl) here adds)
  | deleted read old new deletes about undeleted stands now gone here adds => exact Or.inl (writes (if_pos rfl) here adds)
  | swept row items ids old new id stage stands owner now gone here told adds =>
    have own := writes (if_pos rfl) here told
    have item := writes (if_neg nofun) here adds
    exact Or.inr ⟨id, rfl, call, _, row, items, ids, old, rfl, stage, stands, owner, own, item⟩

theorem step_service {actor : String} {action : Action} (step : s.step actor action = some s') :
    s.service.step action = some s'.service := by
  obtain ⟨service, run, rfl⟩ := Option.map_eq_some_iff.mp step
  rw [run]
  cases action <;> rfl

/-- Only a transaction that commits changes a row. -/
theorem step_stored {actor : String} {action : Action} {changed : Subject} (step : s.step actor action = some s')
    (moves : s'.service.stored changed ≠ s.service.stored changed) : ∃ call now, action = .commit call now := by
  rcases Service.step_tables (step_service step) with ⟨restaurants, menuItems⟩ | ⟨call, now, -, rfl, -⟩
  · refine absurd ?_ moves
    cases changed <;> simp only [Service.stored, restaurants, menuItems]
  · exact ⟨call, now, rfl⟩

end AuditedService

variable {log : List (Commit AuditedService (String × Action))} {s : AuditedService}

theorem AuditedRun.invariant {exact : Prop} {subject : Subject} (run : AuditedRun log s)
    (asRead : exact → ∀ commit ∈ log, DeletesAsRead subject commit) : s.Invariant exact subject := by
  induction run with
  | start first =>
    subst first
    exact .empty
  | commit _ step ih =>
    refine (ih fun holds => ?_).step step fun holds => ?_
    · exact (List.forall_mem_cons.mp (asRead holds)).2
    · exact (List.forall_mem_cons.mp (asRead holds)).1

/-- Every transaction that changes a row records and tells it once, the menu
items of a deleted restaurant with their restaurant, and the records of a row
make a trail, with one deletion at most where deletions find the row as they read it. -/
theorem AuditedRun.trails_while_as_read (run : AuditedRun log s) :
    (∀ commit ∈ log, ∀ subject, commit.after.service.stored subject ≠ commit.before.service.stored subject →
      Writes commit subject 1 1 ∨ ∃ id, subject = .menuItem id ∧ DeletedWithRestaurant commit id) ∧
    ∀ subject, Trail (∀ commit ∈ log, DeletesAsRead subject commit) (s.trail subject) ∧
      ((∀ commit ∈ log, DeletesAsRead subject commit) → ∀ record ∈ (s.trail subject).tail, record.action ≠ .delete) := by
  constructor
  · refine run.forall_commits fun log s act s' previous step subject moves => ?_
    have invariant : s.Invariant False subject := AuditedRun.invariant previous nofun
    obtain ⟨actor, action⟩ := act
    obtain ⟨call, now, rfl⟩ := AuditedService.step_stored step moves
    exact invariant.writes step moves
  · intro subject
    have invariant : s.Invariant (∀ commit ∈ log, DeletesAsRead subject commit) subject := AuditedRun.invariant run id
    exact ⟨invariant.audited.chained, invariant.audited.chained.delete_newest⟩

def sampleUpdate : UpdateMenuItemProps where
  name := none
  description := none
  priceCents := some 60
  isAvailable := none

/-- A menu item is created, repriced and deleted. -/
theorem trails_of_deleted_sample : ∃ log s, AuditedRun log s ∧
    Trail True (s.trail (.menuItem "item-1")) ∧ (s.trail (.menuItem "item-1")).length = 3 := by
  have start : AuditedRun [] .empty := .start rfl
  have opened := (start.commit (a := ("owner-1", sampleMenuItem[0])) rfl).commit (a := ("owner-1", .commit 0 1)) rfl
  have added := (opened.commit (a := ("owner-1", sampleMenuItem[2])) rfl).commit (a := ("owner-1", .commit 1 2)) rfl
  have priced := (added.commit (a := ("owner-1", .updateMenuItem 2 "item-1" "tenant-1" "restaurant-1" sampleUpdate none 3))
    rfl).commit (a := ("owner-1", .commit 2 3)) rfl
  have run := (priced.commit (a := ("owner-1", .deleteMenuItem 3 "item-1" "tenant-1" "restaurant-1")) rfl).commit
    (a := ("owner-1", .commit 3 4)) rfl
  obtain ⟨log, s, run, asRead, length⟩ : ∃ log s, AuditedRun log s ∧
      (∀ commit ∈ log, DeletesAsRead (.menuItem "item-1") commit) ∧ (s.trail (.menuItem "item-1")).length = 3 := by
    refine ⟨_, _, run, ?_, rfl⟩
    simp only [List.forall_mem_cons]
    refine ⟨?_, nofun, ?_, nofun, ?_, nofun, ?_, nofun, by simp⟩
    · rintro call now before ⟨⟩ ⟨⟩ -
      rfl
    all_goals
      rintro call now before ⟨⟩ ⟨⟩
  have whole := ((AuditedRun.trails_while_as_read run).2 (.menuItem "item-1")).1
  rw [eq_true asRead] at whole
  exact ⟨log, s, run, whole, length⟩

/-- Two deletions of a restaurant find it at once: it is recorded as deleted
twice, and of its menu item, deleted with it, nothing is recorded. Of an item
that is created when the items have been listed nothing is even told. -/
theorem deleted_twice_and_unrecorded : ∃ log s, AuditedRun log s ∧
    (s.trail (.restaurant "restaurant-1")).map (·.action) = [.delete, .delete, .create] ∧
    s.service.liveMenuItem "item-1" = none ∧ (s.trail (.menuItem "item-1")).map (·.action) = [.create] ∧
    s.service.liveMenuItem "item-2" = none ∧ (s.service.menuItems.find "item-2").isSome ∧
    (s.trail (.menuItem "item-2")).map (·.action) = [.create] ∧
    s.service.pending.countP (fun event => event.subject = .menuItem "item-2") = 1 := by
  have start : AuditedRun [] .empty := .start rfl
  have opened := (start.commit (a := ("owner-1", sampleMenuItem[0])) rfl).commit (a := ("owner-1", .commit 0 1)) rfl
  have added := (opened.commit (a := ("owner-1", sampleMenuItem[2])) rfl).commit (a := ("owner-1", .commit 1 2)) rfl
  have found := (added.commit (a := ("owner-1", .deleteRestaurant 2 "restaurant-1" "tenant-1")) rfl).commit
    (a := ("owner-1", .deleteRestaurant 3 "restaurant-1" "tenant-1")) rfl
  have listed := (found.commit
    (a := ("owner-1", .createMenuItem 4 "item-2" "tenant-1" "restaurant-1" "Bún" none 40 true 2)) rfl).commit
    (a := ("owner-1", .list 2)) rfl
  have created := listed.commit (a := ("owner-1", .commit 4 3)) rfl
  have first := (created.commit (a := ("owner-1", .sweep 2)) rfl).commit (a := ("owner-1", .commit 2 3)) rfl
  have run := ((first.commit (a := ("owner-1", .list 3)) rfl).commit (a := ("owner-1", .sweep 3)) rfl).commit
    (a := ("owner-1", .commit 3 4)) rfl
  exact ⟨_, _, run, rfl, rfl, rfl, rfl, rfl, rfl, rfl⟩

end FoodDelivery.Catalog
