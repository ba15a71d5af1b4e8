import FoodDelivery.Catalog.Convergence

namespace FoodDelivery.Catalog

open OptimisticLock

/-- What a transaction that commits makes of a restaurant that is stored. -/
def Call.ChangesRestaurant (now : Nat) (old new : Restaurant) : Call → Prop
  | .updatingRestaurant updated => old.id = updated.id ∧ old.tenantId = updated.tenantId ∧ old.deletedAt = none ∧
    old.version = updated.version ∧ new = updated.updateVersioned old
  | .swept before _ _ => old.id = before.id ∧ old.tenantId = before.tenantId ∧ new = old.softDelete now
  | _ => False

def Call.ChangesMenuItem (now : Nat) (old new : MenuItem) : Call → Prop
  | .updatingMenuItem updated => old.id = updated.id ∧ old.restaurantId = updated.restaurantId ∧
    old.tenantId = updated.tenantId ∧ old.deletedAt = none ∧ old.version = updated.version ∧
    new = updated.updateVersioned old
  | .deletingMenuItem before => old.id = before.id ∧ old.tenantId = before.tenantId ∧ new = old.softDelete now
  | .swept before _ ids => old.restaurantId = before.id ∧ old.tenantId = before.tenantId ∧ old.id ∈ ids ∧
    new = old.softDelete now
  | _ => False

/-- A stage from which a call only commits or throws. -/
def Call.Prepared : Call → Prop
  | .creatingRestaurant _ | .updatingRestaurant _ | .swept .. | .creatingMenuItem _ | .updatingMenuItem _
  | .deletingMenuItem _ | .ended => True
  | _ => False

namespace Service

variable {service service' : Service}

theorem lookUp_some {Row : Type} {call : Nat} {found : Option Row} {next : Row → Call}
    (step : service.lookUp call found next = some service') :
    service.calls call = .idle ∧ service' = service.setCall call ((found.map next).getD .ended) := by
  unfold lookUp at step
  split at step
  · rename_i idle
    exact ⟨idle, (Option.some.inj step).symm⟩
  · cases step

@[simp] theorem setCall_self (call : Nat) (stage : Call) : (service.setCall call stage).calls call = stage :=
  Function.update_self ..

theorem setCall_other {call other : Nat} (stage : Call) (different : other ≠ call) :
    (service.setCall call stage).calls other = service.calls other :=
  Function.update_of_ne different ..

theorem updateRestaurant_some {updated old : Restaurant} (found : service.findRestaurant updated.id updated.tenantId = some old)
    (current : old.version = updated.version) : service.updateRestaurant updated =
      { service with
        restaurants := service.restaurants.put (updated.updateVersioned old)
        pending := service.pending ++ [.restaurantUpdated (updated.updateVersioned old)] } := by
  rw [updateRestaurant, found]
  exact if_pos current

theorem updateMenuItem_some {updated old : MenuItem}
    (found : service.findMenuItem updated.id updated.restaurantId updated.tenantId = some old)
    (current : old.version = updated.version) : service.updateMenuItem updated =
      { service with
        menuItems := service.menuItems.put (updated.updateVersioned old)
        pending := service.pending ++ [.menuItemUpdated (updated.updateVersioned old)] } := by
  rw [updateMenuItem, found]
  exact if_pos current

/-- An update finds its row as it was, not deleted and with its version, or is
rolled back. -/
theorem updateRestaurant_some_or (service : Service) (updated : Restaurant) :
    service.updateRestaurant updated = service ∨
      ∃ old, service.findRestaurant updated.id updated.tenantId = some old ∧ old.version = updated.version := by
  unfold updateRestaurant
  split
  · rename_i old found
    split
    · rename_i current
      exact Or.inr ⟨old, found, current⟩
    · exact Or.inl rfl
  · exact Or.inl rfl

theorem updateMenuItem_some_or (service : Service) (updated : MenuItem) :
    service.updateMenuItem updated = service ∨
      ∃ old, service.findMenuItem updated.id updated.restaurantId updated.tenantId = some old ∧
        old.version = updated.version := by
  unfold updateMenuItem
  split
  · rename_i old found
    split
    · rename_i current
      exact Or.inr ⟨old, found, current⟩
    · exact Or.inl rfl
  · exact Or.inl rfl

section commits

variable {now : Nat} {stage : Call} {after : Service} (commits : service.commit now stage = some after)
include commits

theorem commit_restaurant {id : Uuid} {old : Restaurant} (stored : service.restaurants.find id = some old) :
    ∃ new, after.restaurants.find id = some new ∧ (new = old ∨ stage.ChangesRestaurant now old new) := by
  cases stage with
  | creatingRestaurant restaurant =>
    simp only [Service.commit, Option.isNone_iff_eq_none] at commits
    split at commits
    · rename_i fresh
      cases commits
      exact ⟨old, Table.find_put_of_absent fresh stored, Or.inl rfl⟩
    · cases commits
  | creatingMenuItem menuItem =>
    simp only [Service.commit] at commits
    split at commits <;> cases commits
    exact ⟨old, stored, Or.inl rfl⟩
  | updatingRestaurant updated =>
    cases commits
    rcases service.updateRestaurant_some_or updated with same | ⟨row, found, current⟩
    · rw [same]
      exact ⟨old, stored, Or.inl rfl⟩
    obtain ⟨live, tenant⟩ := findRestaurant_live found
    obtain ⟨atRow, undeleted, key⟩ := liveRestaurant_stored live
    rw [updateRestaurant_some found current]
    by_cases same : id = updated.id
    · subst same
      cases Option.some.inj (atRow.symm.trans stored)
      exact ⟨_, Table.find_put_key key, Or.inr ⟨key, tenant, undeleted, current, rfl⟩⟩
    · have other : id ≠ (updated.updateVersioned row).id := fun here => same (here.trans key)
      exact ⟨old, (Table.find_put_of_ne other).trans stored, Or.inl rfl⟩
  | updatingMenuItem updated =>
    cases commits
    rcases service.updateMenuItem_some_or updated with same | ⟨row, found, current⟩
    · rw [same]
      exact ⟨old, stored, Or.inl rfl⟩
    · rw [updateMenuItem_some found current]
      exact ⟨old, stored, Or.inl rfl⟩
  | deletingMenuItem before =>
    cases commits
    exact ⟨old, stored, Or.inl rfl⟩
  | swept before items ids =>
    cases commits
    refine ⟨_, congrArg (Option.map _) stored, ?_⟩
    dsimp only
    split
    · rename_i target
      exact Or.inr ⟨target.1, target.2, rfl⟩
    · exact Or.inl rfl
  | _ => cases commits

theorem commit_menuItem {id : Uuid} {old : MenuItem} (stored : service.menuItems.find id = some old) :
    ∃ new, after.menuItems.find id = some new ∧ (new = old ∨ stage.ChangesMenuItem now old new) := by
  cases stage with
  | creatingRestaurant restaurant =>
    simp only [Service.commit] at commits
    split at commits <;> cases commits
    exact ⟨old, stored, Or.inl rfl⟩
  | creatingMenuItem menuItem =>
    simp only [Service.commit, Option.isNone_iff_eq_none] at commits
    split at commits
    · rename_i fresh
      cases commits
      exact ⟨old, Table.find_put_of_absent fresh stored, Or.inl rfl⟩
    · cases commits
  | updatingRestaurant updated =>
    cases commits
    rcases service.updateRestaurant_some_or updated with same | ⟨row, found, current⟩
    · rw [same]
      exact ⟨old, stored, Or.inl rfl⟩
    · rw [updateRestaurant_some found current]
      exact ⟨old, stored, Or.inl rfl⟩
  | updatingMenuItem updated =>
    cases commits
    rcases service.updateMenuItem_some_or updated with same | ⟨row, found, current⟩
    · rw [same]
      exact ⟨old, stored, Or.inl rfl⟩
    obtain ⟨live, owner, tenant⟩ := findMenuItem_live found
    obtain ⟨atRow, undeleted, key⟩ := liveMenuItem_stored live
    rw [updateMenuItem_some found current]
    by_cases same : id = updated.id
    · subst same
      cases Option.some.inj (atRow.symm.trans stored)
      exact ⟨_, Table.find_put_key key, Or.inr ⟨key, owner, tenant, undeleted, current, rfl⟩⟩
    · have other : id ≠ (updated.updateVersioned row).id := fun here => same (here.trans key)
      exact ⟨old, (Table.find_put_of_ne other).trans stored, Or.inl rfl⟩
  | deletingMenuItem before =>
    cases commits
    refine ⟨_, congrArg (Option.map _) stored, ?_⟩
    dsimp only
    split
    · rename_i target
      exact Or.inr ⟨target.1, target.2, rfl⟩
    · exact Or.inl rfl
  | swept before items ids =>
    cases commits
    refine ⟨_, congrArg (Option.map _) stored, ?_⟩
    dsimp only
    split
    · rename_i target
      exact Or.inr ⟨target.1, target.2.1, target.2.2, rfl⟩
    · exact Or.inl rfl
  | _ => cases commits

end commits

section step

variable {action : Action} (step : service.step action = some service')
include step

/-- Only a commit touches the tables. -/
theorem step_tables : service'.restaurants = service.restaurants ∧ service'.menuItems = service.menuItems ∨
    ∃ call now after, action = .commit call now ∧ service.commit now (service.calls call) = some after ∧
      service' = after.setCall call .ended := by
  cases action with
  | commit call now =>
    obtain ⟨after, commits, rfl⟩ := Option.map_eq_some_iff.mp step
    exact Or.inr ⟨call, now, after, rfl, commits, rfl⟩
  | list call =>
    simp only [Service.step] at step
    split at step <;> cases step
    exact Or.inl ⟨rfl, rfl⟩
  | sweep call =>
    simp only [Service.step] at step
    split at step <;> cases step
    exact Or.inl ⟨rfl, rfl⟩
  | abandon call =>
    cases step
    exact Or.inl ⟨rfl, rfl⟩
  | deliver n =>
    simp only [Service.step] at step
    split at step
    · split at step <;> cases step
      exact Or.inl ⟨rfl, rfl⟩
    · cases step
  | redeliver event =>
    simp only [Service.step] at step
    split at step <;> cases step
    exact Or.inl ⟨rfl, rfl⟩
  | _ =>
    obtain ⟨-, rfl⟩ := lookUp_some step
    exact Or.inl ⟨rfl, rfl⟩

theorem step_restaurant {id : Uuid} {old : Restaurant} (stored : service.restaurants.find id = some old) :
    ∃ new, service'.restaurants.find id = some new ∧ (new = old ∨
      ∃ call now, action = .commit call now ∧ (service.calls call).ChangesRestaurant now old new) := by
  rcases step_tables step with ⟨restaurants, -⟩ | ⟨call, now, after, rfl, commits, rfl⟩
  · exact ⟨old, restaurants ▸ stored, Or.inl rfl⟩
  · obtain ⟨new, stands, same | changes⟩ := commit_restaurant commits stored
    · exact ⟨new, stands, Or.inl same⟩
    · exact ⟨new, stands, Or.inr ⟨call, now, rfl, changes⟩⟩

theorem step_menuItem {id : Uuid} {old : MenuItem} (stored : service.menuItems.find id = some old) :
    ∃ new, service'.menuItems.find id = some new ∧ (new = old ∨
      ∃ call now, action = .commit call now ∧ (service.calls call).ChangesMenuItem now old new) := by
  rcases step_tables step with ⟨-, menuItems⟩ | ⟨call, now, after, rfl, commits, rfl⟩
  · exact ⟨old, menuItems ▸ stored, Or.inl rfl⟩
  · obtain ⟨new, stands, same | changes⟩ := commit_menuItem commits stored
    · exact ⟨new, stands, Or.inl same⟩
    · exact ⟨new, stands, Or.inr ⟨call, now, rfl, changes⟩⟩

end step

/-- A commit leaves the stages of the calls alone. -/
theorem commit_calls {now : Nat} {stage : Call} {after : Service} (commits : service.commit now stage = some after) :
    after.calls = service.calls := by
  cases stage with
  | creatingRestaurant restaurant =>
    simp only [Service.commit] at commits
    split at commits <;> cases commits
    rfl
  | creatingMenuItem menuItem =>
    simp only [Service.commit] at commits
    split at commits <;> cases commits
    rfl
  | updatingRestaurant updated =>
    cases commits
    rcases service.updateRestaurant_some_or updated with same | ⟨row, found, current⟩
    · rw [same]
    · rw [updateRestaurant_some found current]
  | updatingMenuItem updated =>
    cases commits
    rcases service.updateMenuItem_some_or updated with same | ⟨row, found, current⟩
    · rw [same]
    · rw [updateMenuItem_some found current]
  | deletingMenuItem before =>
    cases commits
    rfl
  | swept before items ids =>
    cases commits
    rfl
  | _ => cases commits

/-- A prepared call stays so until it ends. -/
theorem step_prepared {action : Action} (step : service.step action = some service') (call : Nat)
    (prepared : (service.calls call).Prepared) :
    service'.calls call = service.calls call ∨ service'.calls call = .ended := by
  have moved (other : Nat) (stage : Call) (unprepared : ¬(service.calls other).Prepared) :
      (service.setCall other stage).calls call = service.calls call := by
    refine setCall_other stage ?_
    rintro rfl
    exact unprepared prepared
  have ended (base : Service) (calls : base.calls = service.calls) (other : Nat) :
      (base.setCall other .ended).calls call = service.calls call ∨ (base.setCall other .ended).calls call = .ended := by
    by_cases same : call = other
    · subst same
      exact Or.inr (setCall_self ..)
    · exact Or.inl ((setCall_other _ same).trans (congrFun calls call))
  cases action with
  | commit other now =>
    obtain ⟨after, commits, rfl⟩ := Option.map_eq_some_iff.mp step
    exact ended after (commit_calls commits) other
  | list other =>
    simp only [Service.step] at step
    split at step
    · rename_i before stage
      cases step
      exact Or.inl (moved other _ (by rw [stage]; exact not_false))
    · cases step
  | sweep other =>
    simp only [Service.step] at step
    split at step
    · rename_i before items stage
      cases step
      exact Or.inl (moved other _ (by rw [stage]; exact not_false))
    · cases step
  | abandon other =>
    cases step
    exact ended service rfl other
  | deliver n =>
    simp only [Service.step] at step
    split at step
    · split at step <;> cases step
      exact Or.inl rfl
    · cases step
  | redeliver event =>
    simp only [Service.step] at step
    split at step <;> cases step
    exact Or.inl rfl
  | _ =>
    obtain ⟨idle, rfl⟩ := lookUp_some step
    exact Or.inl (moved _ _ (by rw [idle]; exact not_false))

end Service

/-- Every write of a restaurant moves its version and keeps its owner. -/
def restaurantLock : Versioned Restaurant Nat Restaurant (Uuid × Uuid × Nat) where
  version restaurant := restaurant.version
  core restaurant := restaurant
  fixed restaurant := (restaurant.id, restaurant.tenantId, restaurant.createdAt)

def menuItemLock : Versioned MenuItem Nat MenuItem (Uuid × Uuid × Uuid) where
  version menuItem := menuItem.version
  core menuItem := menuItem
  fixed menuItem := (menuItem.id, menuItem.tenantId, menuItem.restaurantId)

theorem Call.ChangesRestaurant.version {now : Nat} {old new : Restaurant} {stage : Call}
    (changes : stage.ChangesRestaurant now old new) : new.version = old.version + 1 := by
  cases stage with
  | updatingRestaurant updated =>
    obtain ⟨-, -, -, -, rfl⟩ := changes
    rfl
  | swept before items ids =>
    obtain ⟨-, -, rfl⟩ := changes
    rfl
  | _ => cases changes

theorem Call.ChangesMenuItem.version {now : Nat} {old new : MenuItem} {stage : Call}
    (changes : stage.ChangesMenuItem now old new) : new.version = old.version + 1 := by
  cases stage with
  | updatingMenuItem updated =>
    obtain ⟨-, -, -, -, -, rfl⟩ := changes
    rfl
  | deletingMenuItem before =>
    obtain ⟨-, -, rfl⟩ := changes
    rfl
  | swept before items ids =>
    obtain ⟨-, -, -, rfl⟩ := changes
    rfl
  | _ => cases changes

theorem Call.ChangesRestaurant.fixed {now : Nat} {old new : Restaurant} {stage : Call}
    (changes : stage.ChangesRestaurant now old new) : restaurantLock.fixed old = restaurantLock.fixed new := by
  cases stage with
  | updatingRestaurant updated =>
    obtain ⟨-, -, -, -, rfl⟩ := changes
    rfl
  | swept before items ids =>
    obtain ⟨-, -, rfl⟩ := changes
    rfl
  | _ => cases changes

theorem Call.ChangesMenuItem.fixed {now : Nat} {old new : MenuItem} {stage : Call}
    (changes : stage.ChangesMenuItem now old new) : menuItemLock.fixed old = menuItemLock.fixed new := by
  cases stage with
  | updatingMenuItem updated =>
    obtain ⟨-, -, -, -, -, rfl⟩ := changes
    rfl
  | deletingMenuItem before =>
    obtain ⟨-, -, rfl⟩ := changes
    rfl
  | swept before items ids =>
    obtain ⟨-, -, -, rfl⟩ := changes
    rfl
  | _ => cases changes

theorem Service.step_restaurants_later {service service' : Service} {action : Action}
    (step : service.step action = some service') : restaurantLock.Later service.restaurants service'.restaurants := by
  refine .rows fun id old stored => ?_
  obtain ⟨new, stands, same | ⟨call, now, -, changes⟩⟩ := step_restaurant step stored
  · exact ⟨new, stands, Or.inl same⟩
  · have moves : restaurantLock.version old < restaurantLock.version new :=
      Nat.lt_of_lt_of_eq (Nat.lt_succ_self _) changes.version.symm
    exact ⟨new, stands, Or.inr (.moved moves changes.fixed)⟩

theorem Service.step_menuItems_later {service service' : Service} {action : Action}
    (step : service.step action = some service') : menuItemLock.Later service.menuItems service'.menuItems := by
  refine .rows fun id old stored => ?_
  obtain ⟨new, stands, same | ⟨call, now, -, changes⟩⟩ := step_menuItem step stored
  · exact ⟨new, stands, Or.inl same⟩
  · have moves : menuItemLock.version old < menuItemLock.version new :=
      Nat.lt_of_lt_of_eq (Nat.lt_succ_self _) changes.version.symm
    exact ⟨new, stands, Or.inr (.moved moves changes.fixed)⟩

end FoodDelivery.Catalog
