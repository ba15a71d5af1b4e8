import FoodDelivery.Lib.Except
import FoodDelivery.Catalog.Steps
import FoodDelivery.Gateway.HttpForwarder
import FoodDelivery.Tenancy.Propagation

namespace FoodDelivery.Catalog

open CommitLog OptimisticLock Tenancy Gateway

def ifMatchHeader : String := "if-match"

def ifMatchMessage : String := s!"\"{ifMatchHeader}\" header must be a positive integer"

def parseIfMatchVersion (ifMatch : Option String) : Except HttpException (Option Nat) :=
  match ifMatch.filter fun text => trim text ≠ "" with
  | none => pure none
  | some text =>
    match decimal text with
    | none => throw (.badRequest ifMatchMessage)
    | some version => if version < 1 then throw (.badRequest ifMatchMessage) else pure (some version)

def catalogWriteRoles : List String := ["restaurant-owner", "admin"]

/-- The gateway's signing key and the catalog's verifier. -/
structure Deployment where
  hmac : Hmac
  signingKey : Option String
  verifier : IdentitySignatureVerifier

/-- A PATCH on its way to the handler: through the gateway, then the roles
guard, the identity interceptor and the controller. -/
def Deployment.receive (deployment : Deployment) (request : AuthenticatedRequest) (forwardedAt receivedAt : Nat) :
    Except HttpException (TenantRequestContext × Option Nat) := do
  let headers := forwardHeaders deployment.hmac deployment.signingKey request forwardedAt
  canActivate catalogWriteRoles headers
  let context ← intercept deployment.verifier deployment.hmac headers receivedAt
  let expectedVersion ← parseIfMatchVersion (headers.first ifMatchHeader)
  pure (context, expectedVersion)

/-- What the client of a PATCH sent and when its changes were made. -/
structure Patch (Changes : Type) where
  request : AuthenticatedRequest
  changes : Changes
  now : Nat

/-- Whether the client's If-Match, if it sent one, names the version. -/
def MeetsIfMatch (request : AuthenticatedRequest) (version : Nat) : Prop :=
  ∀ expected, parseIfMatchVersion (request.headers.first ifMatchHeader) = .ok (some expected) → version = expected

/-- The catalog service behind the gateway. Which PATCH a call carries out is
kept for the statements only. -/
structure PatchedService where
  service : Service
  restaurantPatches : Nat → Option (Patch UpdateRestaurantProps)
  menuItemPatches : Nat → Option (Patch UpdateMenuItemProps)

inductive Traffic
  | patchRestaurant (call : Nat) (request : AuthenticatedRequest) (id : Uuid) (changes : UpdateRestaurantProps)
    (forwardedAt receivedAt now : Nat)
  | patchMenuItem (call : Nat) (request : AuthenticatedRequest) (restaurantId id : Uuid) (changes : UpdateMenuItemProps)
    (forwardedAt receivedAt now : Nat)
  | other (action : Action)

/-- Updates come through the gateway only. -/
def Action.IsUpdate : Action → Bool
  | .updateRestaurant .. | .updateMenuItem .. => true
  | _ => false

namespace PatchedService

def empty : PatchedService where
  service := .empty
  restaurantPatches _ := none
  menuItemPatches _ := none

/-- The handler's lookup, unless the request has been refused. -/
def handle (service : Service) (call : Nat) (received : Except HttpException (TenantRequestContext × Option Nat))
    (action : Uuid → Option Nat → Action) : Option Service :=
  match received with
  | .ok (context, expectedVersion) => service.step (action context.tenantId expectedVersion)
  | .error _ => service.lookUp call none fun _ : Unit => .ended

def step (deployment : Deployment) (s : PatchedService) : Traffic → Option PatchedService
  | .patchRestaurant call request id changes forwardedAt receivedAt now =>
    (handle s.service call (deployment.receive request forwardedAt receivedAt) fun tenantId expectedVersion =>
      .updateRestaurant call id tenantId changes expectedVersion now).map fun service =>
        { s with
          service
          restaurantPatches := Function.update s.restaurantPatches call (some { request, changes, now }) }
  | .patchMenuItem call request restaurantId id changes forwardedAt receivedAt now =>
    (handle s.service call (deployment.receive request forwardedAt receivedAt) fun tenantId expectedVersion =>
      .updateMenuItem call id tenantId restaurantId changes expectedVersion now).map fun service =>
        { s with
          service
          menuItemPatches := Function.update s.menuItemPatches call (some { request, changes, now }) }
  | .other action => if action.IsUpdate then none else (s.service.step action).map fun service => { s with service }

end PatchedService

abbrev PatchRun (deployment : Deployment) : List (Commit PatchedService Traffic) → PatchedService → Prop :=
  History (· = PatchedService.empty) fun _ traffic s s' => s.step deployment traffic = some s'

/-- Optimistic locking in one step: a row changes by one version at a time and,
where a PATCH changes it, to what the changes make of the row as it stands. -/
structure NoLostUpdate (commit : Commit PatchedService Traffic) : Prop where
  restaurantVersions : ∀ id old new, commit.before.service.restaurants.find id = some old →
    commit.after.service.restaurants.find id = some new → new = old ∨ new.version = old.version + 1
  menuItemVersions : ∀ id old new, commit.before.service.menuItems.find id = some old →
    commit.after.service.menuItems.find id = some new → new = old ∨ new.version = old.version + 1
  restaurants : ∀ call now patch, commit.act = .other (.commit call now) →
    commit.before.restaurantPatches call = some patch → ∀ id old new, commit.before.service.restaurants.find id = some old →
      commit.after.service.restaurants.find id = some new →
        new = old ∨ new = (old.update patch.changes patch.now).updateVersioned old
  menuItems : ∀ call now patch, commit.act = .other (.commit call now) →
    commit.before.menuItemPatches call = some patch → ∀ id old new, commit.before.service.menuItems.find id = some old →
      commit.after.service.menuItems.find id = some new →
        new = old ∨ new = (old.update patch.changes patch.now).updateVersioned old

/-- A PATCH changes a row only at the version its client asked for. -/
structure MatchedVersion (commit : Commit PatchedService Traffic) : Prop where
  restaurants : ∀ call now patch, commit.act = .other (.commit call now) →
    commit.before.restaurantPatches call = some patch → ∀ id old new, commit.before.service.restaurants.find id = some old →
      commit.after.service.restaurants.find id = some new → new = old ∨ MeetsIfMatch patch.request old.version
  menuItems : ∀ call now patch, commit.act = .other (.commit call now) →
    commit.before.menuItemPatches call = some patch → ∀ id old new, commit.before.service.menuItems.find id = some old →
      commit.after.service.menuItems.find id = some new → new = old ∨ MeetsIfMatch patch.request old.version

/-- The client of a PATCH that reaches its handler asked for the version that is
stored at the lookup. -/
structure CurrentWhenRead (deployment : Deployment) (commit : Commit PatchedService Traffic) : Prop where
  restaurants : ∀ call request id changes forwardedAt receivedAt now,
    commit.act = .patchRestaurant call request id changes forwardedAt receivedAt now →
      ∀ received, deployment.receive request forwardedAt receivedAt = .ok received →
        ∀ row, commit.before.service.findRestaurant id request.identity.tenantId = some row → MeetsIfMatch request row.version
  menuItems : ∀ call request restaurantId id changes forwardedAt receivedAt now,
    commit.act = .patchMenuItem call request restaurantId id changes forwardedAt receivedAt now →
      ∀ received, deployment.receive request forwardedAt receivedAt = .ok received →
        ∀ row, commit.before.service.findMenuItem id restaurantId request.identity.tenantId = some row →
          MeetsIfMatch request row.version

section received

variable {deployment : Deployment} {request : AuthenticatedRequest} {forwardedAt receivedAt : Nat}
  {context : TenantRequestContext} {expectedVersion : Option Nat}

/-- Whatever the client sent, the controller sees no If-Match. -/
theorem parseIfMatchVersion_forwarded : parseIfMatchVersion
    ((forwardHeaders deployment.hmac deployment.signingKey request forwardedAt).first ifMatchHeader) = .ok none := by
  rw [forwardHeaders_dropped _ _ _ _ (by decide)]
  rfl

theorem intercept_tenantId {verifier : IdentitySignatureVerifier} {hmac : Hmac} {headers : Headers} {now : Nat}
    (run : intercept verifier hmac headers now = .ok context) : headers.first tenantIdHeader = some context.tenantId := by
  unfold intercept at run
  split at run
  · cases run
  · rename_i tenantId present
    split at run
    · cases run
    · cases run
      exact (filled_eq_some (Option.filter_eq_some_iff.mp present).1).1

theorem Deployment.receive_ok (run : deployment.receive request forwardedAt receivedAt = .ok (context, expectedVersion)) :
    expectedVersion = none ∧ context.tenantId = request.identity.tenantId := by
  obtain ⟨-, -, run⟩ := Except.bind_ok.mp run
  obtain ⟨context', intercepted, run⟩ := Except.bind_ok.mp run
  obtain ⟨expected, parsed, run⟩ := Except.bind_ok.mp run
  cases Except.pure_ok.mp run
  have tenant := intercept_tenantId intercepted
  rw [forwardHeaders, applyTrustedIdentityHeaders_tenantId] at tenant
  cases Except.ok.inj (parsed.symm.trans parseIfMatchVersion_forwarded)
  exact ⟨rfl, (Option.some.inj tenant).symm⟩

end received

/-- What is known of a PATCH past its lookup: it has ended, or it is about to
write what its changes make of a row that was read, which stands as it was or
has moved on since. -/
def Patch.Sound {K R V C F : Type} [PartialOrder V] {key : R → K} (strict : Prop) (lock : Versioned R V C F)
    (version : R → Nat) (rows : Table key) (ended : Prop) (updating : R → Prop) {Changes : Type}
    (update : R → Changes → Nat → R) (patch : Patch Changes) : Prop :=
  ended ∨ ∃ before, updating (update before patch.changes patch.now) ∧
    (∃ row, rows.find (key before) = some row ∧ lock.RowLater before row) ∧
    (strict → MeetsIfMatch patch.request (version before))

theorem Patch.Sound.later {K R V C F : Type} [PartialOrder V] {key : R → K} {strict : Prop} {lock : Versioned R V C F}
    {version : R → Nat} {rows rows' : Table key} {ended ended' : Prop} {updating updating' : R → Prop} {Changes : Type}
    {update : R → Changes → Nat → R} {patch : Patch Changes} (later : lock.Later rows rows') (ends : ended → ended')
    (moves : ∀ updated, updating updated → updating' updated ∨ ended')
    (sound : patch.Sound strict lock version rows ended updating update) :
    patch.Sound strict lock version rows' ended' updating' update := by
  rcases sound with finished | ⟨before, writes, ⟨row, stored, grown⟩, asked⟩
  · exact Or.inl (ends finished)
  · rcases moves _ writes with still | finished
    · obtain ⟨row', stands, grows⟩ := later _ row stored
      exact Or.inr ⟨before, still, ⟨row', stands, grown.trans grows⟩, asked⟩
    · exact Or.inl finished

namespace PatchedService

/-- Where strict, every PATCH past its lookup has read the version that its
client asked for. -/
structure Invariant (strict : Prop) (s : PatchedService) : Prop where
  restaurants : ∀ call patch, s.restaurantPatches call = some patch →
    patch.Sound strict restaurantLock Restaurant.version s.service.restaurants (s.service.calls call = .ended)
      (fun updated => s.service.calls call = .updatingRestaurant updated) Restaurant.update
  menuItems : ∀ call patch, s.menuItemPatches call = some patch →
    patch.Sound strict menuItemLock MenuItem.version s.service.menuItems (s.service.calls call = .ended)
      (fun updated => s.service.calls call = .updatingMenuItem updated) MenuItem.update

variable {strict : Prop} {s : PatchedService}

theorem Invariant.empty : PatchedService.empty.Invariant strict := ⟨nofun, nofun⟩

/-- A step of the service itself. -/
theorem Invariant.service {action : Action} {service : Service} (invariant : s.Invariant strict)
    (step : s.service.step action = some service) : ({ s with service } : PatchedService).Invariant strict := by
  have kept {call : Nat} {stage : Call} (reached : s.service.calls call = stage) (prepared : stage.Prepared) :
      service.calls call = stage ∨ service.calls call = .ended := by
    have moved := Service.step_prepared step call (reached.symm ▸ prepared)
    rwa [reached] at moved
  refine ⟨fun call patch known => ?_, fun call patch known => ?_⟩
  · refine (invariant.restaurants call patch known).later (Service.step_restaurants_later step) ?_ ?_
    · exact fun ended => (kept ended trivial).elim id id
    · exact fun updated reached => kept reached trivial
  · refine (invariant.menuItems call patch known).later (Service.step_menuItems_later step) ?_ ?_
    · exact fun ended => (kept ended trivial).elim id id
    · exact fun updated reached => kept reached trivial

theorem handle_step {service service' : Service} {call : Nat}
    {received : Except HttpException (TenantRequestContext × Option Nat)} {action : Uuid → Option Nat → Action}
    (run : handle service call received action = some service') :
    (service.calls call = .idle ∧ service' = service.setCall call .ended) ∨
      ∃ context expectedVersion, received = .ok (context, expectedVersion) ∧
        service.step (action context.tenantId expectedVersion) = some service' := by
  unfold handle at run
  split at run
  · exact Or.inr ⟨_, _, rfl, run⟩
  · exact Or.inl (Service.lookUp_some run)

/-- A PATCH that is received is looked up for its client's tenant and without
a version, others end at once. -/
theorem handle_received {deployment : Deployment} {service service' : Service} {call : Nat} {request : AuthenticatedRequest}
    {forwardedAt receivedAt : Nat} {action : Uuid → Option Nat → Action}
    (run : handle service call (deployment.receive request forwardedAt receivedAt) action = some service') :
    service.step (.abandon call) = some service' ∧ service'.calls call = .ended ∨
      (∃ received, deployment.receive request forwardedAt receivedAt = .ok received) ∧
        service.step (action request.identity.tenantId none) = some service' := by
  rcases handle_step run with ⟨-, rfl⟩ | ⟨context, expectedVersion, received, step⟩
  · exact Or.inl ⟨rfl, Service.setCall_self ..⟩
  · obtain ⟨rfl, tenant⟩ := Deployment.receive_ok received
    exact Or.inr ⟨⟨_, received⟩, tenant ▸ step⟩

theorem cases_recorded {Changes : Type} {patches : Nat → Option (Patch Changes)} {call other : Nat} {latest patch : Patch Changes}
    (known : Function.update patches call (some latest) other = some patch) :
    other = call ∧ patch = latest ∨ patches other = some patch := by
  by_cases same : other = call
  · subst same
    rw [Function.update_self] at known
    exact Or.inl ⟨rfl, (Option.some.inj known).symm⟩
  · rw [Function.update_of_ne same] at known
    exact Or.inr known

variable {deployment : Deployment} {traffic : Traffic} {s' : PatchedService}

theorem Invariant.patchRestaurant {call : Nat} {request : AuthenticatedRequest} {id : Uuid} {changes : UpdateRestaurantProps}
    {forwardedAt receivedAt now : Nat} {service : Service} (invariant : s.Invariant strict)
    (read : strict → ∀ received, deployment.receive request forwardedAt receivedAt = .ok received →
      ∀ row, s.service.findRestaurant id request.identity.tenantId = some row → MeetsIfMatch request row.version)
    (run : handle s.service call (deployment.receive request forwardedAt receivedAt) (fun tenantId expectedVersion =>
      .updateRestaurant call id tenantId changes expectedVersion now) = some service) :
    ({ s with
        service
        restaurantPatches := Function.update s.restaurantPatches call (some { request, changes, now }) } :
      PatchedService).Invariant strict := by
  have served : ({ s with service } : PatchedService).Invariant strict ∧
      Patch.Sound strict restaurantLock Restaurant.version service.restaurants (service.calls call = .ended)
        (fun updated => service.calls call = .updatingRestaurant updated) Restaurant.update
        ({ request, changes, now } : Patch UpdateRestaurantProps) := by
    rcases handle_received run with ⟨dropped, ended⟩ | ⟨⟨received, accepted⟩, step⟩
    · exact ⟨invariant.service dropped, Or.inl ended⟩
    · refine ⟨invariant.service step, ?_⟩
      obtain ⟨idle, rfl⟩ := Service.lookUp_some step
      cases found : s.service.findRestaurant id request.identity.tenantId with
      | none => exact Or.inl (Service.setCall_self ..)
      | some before =>
        obtain ⟨stored, -, key⟩ := Service.liveRestaurant_stored (Service.findRestaurant_live found).1
        refine Or.inr ⟨before, Service.setCall_self .., ⟨before, key ▸ stored, .refl before⟩, ?_⟩
        exact fun holds => read holds received accepted before found
  refine ⟨fun other patch known => ?_, served.1.menuItems⟩
  rcases cases_recorded known with ⟨rfl, rfl⟩ | known
  · exact served.2
  · exact served.1.restaurants other patch known

theorem Invariant.patchMenuItem {call : Nat} {request : AuthenticatedRequest} {restaurantId id : Uuid}
    {changes : UpdateMenuItemProps} {forwardedAt receivedAt now : Nat} {service : Service} (invariant : s.Invariant strict)
    (read : strict → ∀ received, deployment.receive request forwardedAt receivedAt = .ok received →
      ∀ row, s.service.findMenuItem id restaurantId request.identity.tenantId = some row → MeetsIfMatch request row.version)
    (run : handle s.service call (deployment.receive request forwardedAt receivedAt) (fun tenantId expectedVersion =>
      .updateMenuItem call id tenantId restaurantId changes expectedVersion now) = some service) :
    ({ s with
        service
        menuItemPatches := Function.update s.menuItemPatches call (some { request, changes, now }) } :
      PatchedService).Invariant strict := by
  have served : ({ s with service } : PatchedService).Invariant strict ∧
      Patch.Sound strict menuItemLock MenuItem.version service.menuItems (service.calls call = .ended)
        (fun updated => service.calls call = .updatingMenuItem updated) MenuItem.update
        ({ request, changes, now } : Patch UpdateMenuItemProps) := by
    rcases handle_received run with ⟨dropped, ended⟩ | ⟨⟨received, accepted⟩, step⟩
    · exact ⟨invariant.service dropped, Or.inl ended⟩
    · refine ⟨invariant.service step, ?_⟩
      obtain ⟨idle, rfl⟩ := Service.lookUp_some step
      cases found : s.service.findMenuItem id restaurantId request.identity.tenantId with
      | none => exact Or.inl (Service.setCall_self ..)
      | some before =>
        obtain ⟨stored, -, key⟩ := Service.liveMenuItem_stored (Service.findMenuItem_live found).1
        refine Or.inr ⟨before, Service.setCall_self .., ⟨before, key ▸ stored, .refl before⟩, ?_⟩
        exact fun holds => read holds received accepted before found
  refine ⟨served.1.restaurants, fun other patch known => ?_⟩
  rcases cases_recorded known with ⟨rfl, rfl⟩ | known
  · exact served.2
  · exact served.1.menuItems other patch known

theorem Invariant.step (invariant : s.Invariant strict) (read : strict → CurrentWhenRead deployment ⟨s, traffic, s'⟩)
    (step : s.step deployment traffic = some s') : s'.Invariant strict := by
  cases traffic with
  | patchRestaurant call request id changes forwardedAt receivedAt now =>
    obtain ⟨service, run, rfl⟩ := Option.map_eq_some_iff.mp step
    exact invariant.patchRestaurant (fun holds => (read holds).restaurants call request id changes forwardedAt receivedAt now rfl)
      run
  | patchMenuItem call request restaurantId id changes forwardedAt receivedAt now =>
    obtain ⟨service, run, rfl⟩ := Option.map_eq_some_iff.mp step
    exact invariant.patchMenuItem
      (fun holds => (read holds).menuItems call request restaurantId id changes forwardedAt receivedAt now rfl) run
  | other action =>
    simp only [PatchedService.step] at step
    split at step
    · cases step
    · obtain ⟨service, run, rfl⟩ := Option.map_eq_some_iff.mp step
      exact invariant.service run

/-- A PATCH that changes a restaurant had read it as it stands. -/
theorem Invariant.restaurant_changed {call now : Nat} {patch : Patch UpdateRestaurantProps} {old new : Restaurant} {id : Uuid}
    (invariant : s.Invariant strict) (known : s.restaurantPatches call = some patch)
    (stored : s.service.restaurants.find id = some old)
    (changes : (s.service.calls call).ChangesRestaurant now old new) :
    new = (old.update patch.changes patch.now).updateVersioned old ∧ (strict → MeetsIfMatch patch.request old.version) := by
  rcases invariant.restaurants call patch known with ended | ⟨before, updating, ⟨row, atRow, later⟩, asked⟩
  · rw [ended] at changes
    cases changes
  · rw [updating] at changes
    obtain ⟨key, -, -, current, rfl⟩ := changes
    have here : id = before.id := (s.service.restaurants.keyed id old stored).symm.trans key
    subst here
    cases Option.some.inj (atRow.symm.trans stored)
    have same : before = old := later.core current.symm
    subst same
    exact ⟨rfl, asked⟩

theorem Invariant.menuItem_changed {call now : Nat} {patch : Patch UpdateMenuItemProps} {old new : MenuItem} {id : Uuid}
    (invariant : s.Invariant strict) (known : s.menuItemPatches call = some patch)
    (stored : s.service.menuItems.find id = some old)
    (changes : (s.service.calls call).ChangesMenuItem now old new) :
    new = (old.update patch.changes patch.now).updateVersioned old ∧ (strict → MeetsIfMatch patch.request old.version) := by
  rcases invariant.menuItems call patch known with ended | ⟨before, updating, ⟨row, atRow, later⟩, asked⟩
  · rw [ended] at changes
    cases changes
  · rw [updating] at changes
    obtain ⟨key, -, -, -, current, rfl⟩ := changes
    have here : id = before.id := (s.service.menuItems.keyed id old stored).symm.trans key
    subst here
    cases Option.some.inj (atRow.symm.trans stored)
    have same : before = old := later.core current.symm
    subst same
    exact ⟨rfl, asked⟩

/-- What one step makes of a row of either table. -/
theorem step_rows (step : s.step deployment traffic = some s') :
    (∀ id old new, s.service.restaurants.find id = some old → s'.service.restaurants.find id = some new → new = old ∨
      ∃ call now, traffic = .other (.commit call now) ∧ (s.service.calls call).ChangesRestaurant now old new) ∧
    ∀ id old new, s.service.menuItems.find id = some old → s'.service.menuItems.find id = some new → new = old ∨
      ∃ call now, traffic = .other (.commit call now) ∧ (s.service.calls call).ChangesMenuItem now old new := by
  have unchanged {call : Nat} {received : Except HttpException (TenantRequestContext × Option Nat)}
      {action : Uuid → Option Nat → Action} {service : Service} (lookups : ∀ tenantId version call now, action tenantId version ≠
        .commit call now) (run : handle s.service call received action = some service) :
      (∀ id old new, s.service.restaurants.find id = some old → service.restaurants.find id = some new → new = old) ∧
      ∀ id old new, s.service.menuItems.find id = some old → service.menuItems.find id = some new → new = old := by
    have tables : service.restaurants = s.service.restaurants ∧ service.menuItems = s.service.menuItems := by
      rcases handle_step run with ⟨-, rfl⟩ | ⟨context, expectedVersion, -, step⟩
      · exact ⟨rfl, rfl⟩
      · rcases Service.step_tables step with same | ⟨call, now, after, commits, -⟩
        · exact same
        · exact absurd commits (lookups _ _ _ _)
    rw [tables.1, tables.2]
    constructor
    · exact fun id old new before after => Option.some.inj (after.symm.trans before)
    · exact fun id old new before after => Option.some.inj (after.symm.trans before)
  cases traffic with
  | patchRestaurant call request id changes forwardedAt receivedAt now =>
    obtain ⟨service, run, rfl⟩ := Option.map_eq_some_iff.mp step
    obtain ⟨restaurants, menuItems⟩ := unchanged (fun _ _ _ _ absurd => by cases absurd) run
    exact ⟨fun id old new before after => Or.inl (restaurants id old new before after),
      fun id old new before after => Or.inl (menuItems id old new before after)⟩
  | patchMenuItem call request restaurantId id changes forwardedAt receivedAt now =>
    obtain ⟨service, run, rfl⟩ := Option.map_eq_some_iff.mp step
    obtain ⟨restaurants, menuItems⟩ := unchanged (fun _ _ _ _ absurd => by cases absurd) run
    exact ⟨fun id old new before after => Or.inl (restaurants id old new before after),
      fun id old new before after => Or.inl (menuItems id old new before after)⟩
  | other action =>
    simp only [PatchedService.step] at step
    split at step
    · cases step
    · obtain ⟨service, run, rfl⟩ := Option.map_eq_some_iff.mp step
      refine ⟨fun id old new before after => ?_, fun id old new before after => ?_⟩
      · obtain ⟨new', stands, changes⟩ := Service.step_restaurant run before
        cases Option.some.inj (stands.symm.trans after)
        exact changes.imp_right fun ⟨call, now, commits, changes⟩ => ⟨call, now, congrArg _ commits, changes⟩
      · obtain ⟨new', stands, changes⟩ := Service.step_menuItem run before
        cases Option.some.inj (stands.symm.trans after)
        exact changes.imp_right fun ⟨call, now, commits, changes⟩ => ⟨call, now, congrArg _ commits, changes⟩

theorem Invariant.commit (invariant : s.Invariant strict) (step : s.step deployment traffic = some s') :
    NoLostUpdate ⟨s, traffic, s'⟩ ∧ (strict → MatchedVersion ⟨s, traffic, s'⟩) := by
  obtain ⟨restaurants, menuItems⟩ := step_rows step
  have restaurant (call now : Nat) (patch : Patch UpdateRestaurantProps) (commits : traffic = .other (.commit call now))
      (known : s.restaurantPatches call = some patch) (id : Uuid) (old new : Restaurant)
      (before : s.service.restaurants.find id = some old) (after : s'.service.restaurants.find id = some new) : new = old ∨
        new = (old.update patch.changes patch.now).updateVersioned old ∧ (strict → MeetsIfMatch patch.request old.version) := by
    refine (restaurants id old new before after).imp_right ?_
    rintro ⟨call', now', commits', changes⟩
    cases commits.symm.trans commits'
    exact invariant.restaurant_changed known before changes
  have menuItem (call now : Nat) (patch : Patch UpdateMenuItemProps) (commits : traffic = .other (.commit call now))
      (known : s.menuItemPatches call = some patch) (id : Uuid) (old new : MenuItem)
      (before : s.service.menuItems.find id = some old) (after : s'.service.menuItems.find id = some new) : new = old ∨
        new = (old.update patch.changes patch.now).updateVersioned old ∧ (strict → MeetsIfMatch patch.request old.version) := by
    refine (menuItems id old new before after).imp_right ?_
    rintro ⟨call', now', commits', changes⟩
    cases commits.symm.trans commits'
    exact invariant.menuItem_changed known before changes
  refine ⟨⟨?_, ?_, ?_, ?_⟩, fun holds => ⟨?_, ?_⟩⟩
  · intro id old new before after
    exact (restaurants id old new before after).imp_right fun ⟨_, _, _, changes⟩ => changes.version
  · intro id old new before after
    exact (menuItems id old new before after).imp_right fun ⟨_, _, _, changes⟩ => changes.version
  · intro call now patch commits known id old new before after
    exact (restaurant call now patch commits known id old new before after).imp_right And.left
  · intro call now patch commits known id old new before after
    exact (menuItem call now patch commits known id old new before after).imp_right And.left
  · intro call now patch commits known id old new before after
    exact (restaurant call now patch commits known id old new before after).imp_right fun changed => changed.2 holds
  · intro call now patch commits known id old new before after
    exact (menuItem call now patch commits known id old new before after).imp_right fun changed => changed.2 holds

end PatchedService

section run

variable {deployment : Deployment} {log : List (Commit PatchedService Traffic)} {s : PatchedService}

theorem PatchRun.no_lost_update (run : PatchRun deployment log s) : ∀ commit ∈ log, NoLostUpdate commit := by
  refine History.forall_commits run fun log s traffic s' previous step => ?_
  have invariant : s.Invariant False := by
    refine History.invariant previous ?_ fun _ _ _ _ step invariant => invariant.step (fun absurd => absurd.elim) step
    rintro _ rfl
    exact .empty
  exact (invariant.commit step).1

/-- No update is lost in any run; and while every client that sends an If-Match
names the version stored at the lookup of its PATCH, the PATCH changes a row at
that version only. -/
theorem PatchRun.matched_while_current (run : PatchRun deployment log s) :
    (∀ commit ∈ log, NoLostUpdate commit) ∧
    ((∀ commit ∈ log, CurrentWhenRead deployment commit) → ∀ commit ∈ log, MatchedVersion commit) := by
  refine ⟨PatchRun.no_lost_update run, ?_⟩
  intro current
  have both : s.Invariant True ∧ ∀ commit ∈ log, MatchedVersion commit := by
    induction run with
    | start first =>
      cases first
      exact ⟨.empty, by simp⟩
    | commit previous step ih =>
      obtain ⟨now, earlier⟩ := List.forall_mem_cons.mp current
      obtain ⟨invariant, matched⟩ := ih earlier
      exact ⟨invariant.step (fun _ => now) step,
        List.forall_mem_cons.mpr ⟨(invariant.commit step).2 trivial, matched⟩⟩
  exact both.2

end run

def sampleDeployment : Deployment where
  hmac := sampleHmac
  signingKey := some sampleKey
  verifier := sampleVerifier

def patchBy (role ifMatch : String) : AuthenticatedRequest where
  headers := Headers.set (fun _ => none) ifMatchHeader ifMatch
  identity := sampleIdentity [role]

def samplePatch (ifMatch : String) : AuthenticatedRequest := patchBy "restaurant-owner" ifMatch

def sampleChanges (name : String) : UpdateRestaurantProps where
  name := some name
  description := none
  isActive := none

theorem receive_sample (ifMatch : String) : sampleDeployment.receive (samplePatch ifMatch) 1000 1100 =
    .ok ({ tenantId := sampleTenant, actor := "user-123", roles := ["restaurant-owner"] }, none) := by
  have admitted (headers : Headers) : canActivate catalogWriteRoles
      (signedHeaders sampleHmac sampleKey headers (sampleIdentity ["restaurant-owner"]) 1000) = .ok () :=
    (canActivate_signedHeaders (by decide) (by decide)).mpr ⟨"restaurant-owner", by decide, by decide⟩
  have accepted (headers : Headers) : sampleVerifier.verify sampleHmac
      (signedHeaders sampleHmac sampleKey headers (sampleIdentity ["restaurant-owner"]) 1000) 1100 = .ok () :=
    verify_signedHeaders sampleHmac headers (by decide) (by decide) (by decide) rfl (by decide +kernel)
  have context (headers : Headers) := intercept_signedHeaders (by decide) (by decide) (by decide) (accepted headers)
  exact Except.bind_ok.mpr ⟨(), admitted _, Except.bind_ok.mpr ⟨_, context _,
    Except.bind_ok.mpr ⟨none, parseIfMatchVersion_forwarded, rfl⟩⟩⟩

/-- A PATCH of the sample restaurant, up to its lookup. -/
theorem patch_sample {s : PatchedService} {before : Restaurant} {call now : Nat} {ifMatch name : String}
    (idle : s.service.calls call = .idle) (found : s.service.findRestaurant "restaurant-1" sampleTenant = some before) :
    s.step sampleDeployment (.patchRestaurant call (samplePatch ifMatch) "restaurant-1" (sampleChanges name) 1000 1100 now) =
      some { s with
        service := s.service.setCall call (.updatingRestaurant (before.update (sampleChanges name) now))
        restaurantPatches := Function.update s.restaurantPatches call
          (some { request := samplePatch ifMatch, changes := sampleChanges name, now }) } := by
  simp only [PatchedService.step, receive_sample, PatchedService.handle, Service.step, Service.lookUp, idle, found]
  rfl

theorem receive_customer (ifMatch : String) :
    ∀ received, sampleDeployment.receive (patchBy "customer" ifMatch) 1000 1100 ≠ .ok received := by
  intro received run
  obtain ⟨_, admitted, -⟩ := Except.bind_ok.mp run
  have subject : (sampleIdentity ["customer"]).sub ≠ "" := by decide
  have held : ∃ role ∈ catalogWriteRoles, role ∈ parseRolesHeader (some (joinRoles (sampleIdentity ["customer"]).roles)) :=
    (canActivate_signedHeaders subject (by decide)).mp admitted
  exact absurd held (by decide)

/-- The roles guard refuses a customer's PATCH before any lookup. -/
theorem patch_refused {s : PatchedService} {call now : Nat} {ifMatch name : String} (idle : s.service.calls call = .idle) :
    s.step sampleDeployment (.patchRestaurant call (patchBy "customer" ifMatch) "restaurant-1" (sampleChanges name) 1000 1100 now) =
      some { s with
        service := s.service.setCall call .ended
        restaurantPatches := Function.update s.restaurantPatches call
          (some { request := patchBy "customer" ifMatch, changes := sampleChanges name, now }) } := by
  simp only [PatchedService.step]
  cases refused : sampleDeployment.receive (patchBy "customer" ifMatch) 1000 1100 with
  | ok received => exact absurd refused (receive_customer ifMatch received)
  | error error =>
    simp only [PatchedService.handle, Service.lookUp, idle]
    rfl

/-- The owner's PATCH names the stored version; the one of a customer, which
names another, is refused and counts for nothing. -/
theorem matched_of_patched_sample : ∃ log s, PatchRun sampleDeployment log s ∧ (∀ commit ∈ log, MatchedVersion commit) ∧
    (s.service.liveRestaurant "restaurant-1").map Restaurant.version = some 2 := by
  have start : PatchRun sampleDeployment [] .empty := History.start rfl
  have opened := start.commit (a := .other (.createRestaurant 0 "restaurant-1" sampleTenant "Nhà hàng" none true 1)) rfl
  have created := opened.commit (a := .other (.commit 0 1)) rfl
  have patched := created.commit (a := .patchRestaurant 1 (samplePatch "1") "restaurant-1" (sampleChanges "Phở") 1000 1100 2)
    (patch_sample rfl rfl)
  have updated := patched.commit (a := .other (.commit 1 2)) rfl
  have refused := updated.commit (a := .patchRestaurant 2 (patchBy "customer" "99") "restaurant-1" (sampleChanges "Bún") 1000 1100 3)
    (patch_refused rfl)
  refine ⟨_, _, refused, (PatchRun.matched_while_current refused).2 ?_, rfl⟩
  simp only [List.forall_mem_cons]
  refine ⟨⟨?_, nofun⟩, ⟨nofun, nofun⟩, ⟨?_, nofun⟩, ⟨nofun, nofun⟩, ⟨nofun, nofun⟩, by simp⟩
  · intro call request id changes forwardedAt receivedAt now same received accepted
    cases same
    exact absurd accepted (receive_customer "99" received)
  · intro call request id changes forwardedAt receivedAt now same received accepted row found expected parsed
    cases same
    cases found
    cases parsed
    rfl

/-- A client that still asks for version 1 changes the row at version 2. -/
theorem patched_at_other_version : ∃ log s, PatchRun sampleDeployment log s ∧ ¬ ∀ commit ∈ log, MatchedVersion commit := by
  have start : PatchRun sampleDeployment [] .empty := History.start rfl
  have opened := start.commit (a := .other (.createRestaurant 0 "restaurant-1" sampleTenant "Nhà hàng" none true 1)) rfl
  have created := opened.commit (a := .other (.commit 0 1)) rfl
  have patched := created.commit (a := .patchRestaurant 1 (samplePatch "1") "restaurant-1" (sampleChanges "Phở") 1000 1100 2)
    (patch_sample rfl rfl)
  have updated := patched.commit (a := .other (.commit 1 2)) rfl
  have again := updated.commit (a := .patchRestaurant 2 (samplePatch "1") "restaurant-1" (sampleChanges "Bún") 1000 1100 3)
    (patch_sample rfl rfl)
  have overwritten := again.commit (a := .other (.commit 2 3)) rfl
  refine ⟨_, _, overwritten, fun matched => ?_⟩
  have last := (List.forall_mem_cons.mp matched).1
  rcases last.restaurants 2 3 _ rfl rfl "restaurant-1" _ _ rfl rfl with same | asked
  · exact absurd (congrArg Restaurant.version same) (by decide)
  · exact absurd (asked 1 rfl) (by decide)

end FoodDelivery.Catalog
