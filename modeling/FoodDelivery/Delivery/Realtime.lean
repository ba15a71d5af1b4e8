import FoodDelivery.Delivery.Assignment
import FoodDelivery.Delivery.LocationRate

namespace FoodDelivery.Delivery.Realtime

open CommitLog Settings
open Messaging (EventType)
open Tenancy (VerifiedIdentity)

/-- What the gateway emits to a socket. -/
inductive ServerEvent
  | location (driverId : String) (location : Location)
  | joined (orderId : String)
  | assigned (orderId driverId : String)
  | error (message : String)
  deriving DecidableEq

def orderRoom (tenantId orderId : String) : String := "t:" ++ tenantId ++ ":order:" ++ orderId

/-- What one replica publishes to the sockets of a room on all of them. -/
structure Broadcast where
  room : String
  event : ServerEvent
  deriving DecidableEq

/-- A call that goes on when Redis has answered: a location that is stored
looks for the orders of its driver, a socket that asked for an order is let in
or not, and a confirmed order claims one of the drivers found online. -/
inductive Task
  | locate (id : Nat) (location : Location)
  | lookup (id : Nat) (orderId : String)
  | join (id : Nat) (orderId : String)
  | claim (tenantId : TenantId) (orderId : String) (candidates : List String)

/-- The gateway's replicas, the assignments in Redis, and what has been sent. -/
structure State where
  service : Service
  redis : Redis
  rooms : Nat → Finset String
  tasks : List Task
  broadcasts : List Broadcast
  received : List (Nat × ServerEvent)

def State.empty (rateLimitPerSec : Nat) : State where
  service := .empty rateLimitPerSec
  redis := Keyspace.empty
  rooms _ := ∅
  tasks := []
  broadcasts := []
  received := []

/-- The errors that `onLocation` answers with. -/
def locationErrors (socket : DeliverySocket) (nowMs : Int) (lat lng : Option Rat) : List ServerEvent :=
  if driverRole ∉ socket.identity.roles then [.error "location requires the driver role"]
  else if (socket.rateLimiter.allow nowMs).1 = false then []
  else match createLocation lat lng with
    | .error (.invalid message) => [.error message]
    | .ok _ => []

/-- A `push` that Redis has carried out is followed by `ordersForDriver`; one
that it refuses throws. -/
def followUp (id : Nat) : LocationCommand → List Task
  | .geoadd location => if LocationCommand.accepts (.geoadd location) then [.locate id location] else []
  | .zrem => []

inductive Event
  | socket (event : Delivery.Event)
  | joinOrder (id : Nat) (orderId : Option String)
  | serve (task : Task)
  | fail (task : Task)
  | handle (tenantId : TenantId) (eventType : EventType) (orderId : Option String)
  | deliver (id : Nat) (broadcast : Broadcast)

/-- The steps of the delivery service. The tenants of tokens and of events
are UUIDs, and a socket's calls are made in the tenant of its token. -/
inductive Step : Event → State → State → Prop
  | connect {s service} (id : Nat) (identity : VerifiedIdentity) : s.service.step (.connect id identity) = some service →
      Step (.socket (.connect id identity)) s { s with service }
  | location {s service socket} (id : Nat) (nowMs : Int) (lat lng : Option Rat) : s.service.sockets id = some socket →
      s.service.step (.location id nowMs lat lng) = some service →
      Step (.socket (.location id nowMs lat lng)) s { s with
        service
        received := s.received ++ (locationErrors socket nowMs lat lng).map fun event => (id, event) }
  | disconnect {s service} (id : Nat) : s.service.step (.disconnect id) = some service →
      Step (.socket (.disconnect id)) s { s with service, rooms := Function.update s.rooms id ∅ }
  | apply {s service socket command rest} (id : Nat) : s.service.sockets id = some socket →
      socket.outstanding = command :: rest → s.service.step (.apply id) = some service →
      Step (.socket (.apply id)) s { s with service, tasks := s.tasks ++ followUp id command }
  | ask {s socket} (id : Nat) (orderId : String) : s.service.sockets id = some socket → socket.connected = true → orderId ≠ "" →
      Step (.joinOrder id (some orderId)) s { s with tasks := s.tasks ++ [.lookup id orderId] }
  | askNothing {s socket} (id : Nat) (orderId : Option String) : s.service.sockets id = some socket → socket.connected = true →
      orderId.filter (· ≠ "") = none →
      Step (.joinOrder id orderId) s { s with received := s.received ++ [(id, .error "orderId is required")] }
  | letIn {s before after socket tenantId assignment} (id : Nat) (orderId : String) :
      s.tasks = before ++ .lookup id orderId :: after → s.service.sockets id = some socket →
      socket.identity.tenantId = tenantId.text → RedisAssignmentStore.get tenantId orderId s.redis = some assignment →
      Step (.serve (.lookup id orderId)) s { s with tasks := before ++ .join id orderId :: after }
  | turnAway {s before after socket tenantId} (id : Nat) (orderId : String) :
      s.tasks = before ++ .lookup id orderId :: after → s.service.sockets id = some socket →
      socket.identity.tenantId = tenantId.text → RedisAssignmentStore.get tenantId orderId s.redis = none →
      Step (.serve (.lookup id orderId)) s { s with
        tasks := before ++ after
        received := s.received ++ [(id, .error "order is not assigned or not permitted")] }
  | join {s before after socket} (id : Nat) (orderId : String) : s.tasks = before ++ .join id orderId :: after →
      s.service.sockets id = some socket →
      Step (.serve (.join id orderId)) s { s with
        tasks := before ++ after
        rooms := Function.update s.rooms id (insert (orderRoom socket.identity.tenantId orderId) (s.rooms id))
        received := s.received ++ [(id, .joined orderId)] }
  | locate {s before after socket tenantId} (id : Nat) (location : Location) (orderIds : List String) :
      s.tasks = before ++ .locate id location :: after → s.service.sockets id = some socket →
      socket.identity.tenantId = tenantId.text →
      (∀ orderId, orderId ∈ orderIds ↔ orderId ∈ s.redis.set (driverOrdersPrefix tenantId ++ socket.identity.sub)) →
      Step (.serve (.locate id location)) s { s with
        tasks := before ++ after
        broadcasts := s.broadcasts ++ orderIds.map fun orderId =>
          { room := orderRoom tenantId.text orderId, event := .location socket.identity.sub location } }
  | skip {s} (tenantId : TenantId) (eventType : EventType) (orderId : Option String) :
      eventType ≠ .orderConfirmed ∧ eventType ≠ .orderCancelled ∨ orderId.filter (· ≠ "") = none →
      Step (.handle tenantId eventType orderId) s s
  | release {s} (tenantId : TenantId) (orderId : String) : orderId ≠ "" →
      Step (.handle tenantId .orderCancelled (some orderId)) s
        { s with redis := RedisAssignmentStore.unassign tenantId orderId s.redis }
  | candidates {s} (tenantId : TenantId) (orderId : String) (candidates : List String) : orderId ≠ "" →
      (∀ driverId, driverId ∈ candidates ↔ s.service.Online tenantId.text driverId) →
      Step (.handle tenantId .orderConfirmed (some orderId)) s
        { s with tasks := s.tasks ++ [.claim tenantId orderId candidates] }
  | claimed {s before after claim redis} (tenantId : TenantId) (orderId : String) (candidates : List String) :
      s.tasks = before ++ .claim tenantId orderId candidates :: after →
      RedisAssignmentStore.assign tenantId orderId candidates s.redis = (some claim, redis) →
      Step (.serve (.claim tenantId orderId candidates)) s { s with
        redis
        tasks := before ++ after
        broadcasts := s.broadcasts ++ if claim.created then
          [{ room := orderRoom tenantId.text orderId, event := .assigned orderId claim.assignment.driverId }] else [] }
  | unclaimed {s before after redis} (tenantId : TenantId) (orderId : String) (candidates : List String) :
      s.tasks = before ++ .claim tenantId orderId candidates :: after →
      RedisAssignmentStore.assign tenantId orderId candidates s.redis = (none, redis) →
      Step (.serve (.claim tenantId orderId candidates)) s { s with redis, tasks := before ++ after }
  | fail {s before after} (task : Task) : s.tasks = before ++ task :: after →
      Step (.fail task) s { s with tasks := before ++ after }
  | deliver {s socket} (id : Nat) (broadcast : Broadcast) : broadcast ∈ s.broadcasts →
      s.service.sockets id = some socket → socket.connected = true → broadcast.room ∈ s.rooms id →
      Step (.deliver id broadcast) s { s with received := s.received ++ [(id, broadcast.event)] }

abbrev Run : List (Commit State Event) → State → Prop :=
  History (fun s => ∃ rateLimitPerSec, s = State.empty rateLimitPerSec) fun _ => Step

section told

variable (log : List (Commit State Event)) (s : State)

/-- The order has been the driver's. -/
def WasAssigned (tenantId : TenantId) (orderId driverId : String) : Prop :=
  ∃ p, Seen log s p ∧ p.redis.hash (assignHashKey tenantId) orderId = some driverId

/-- A socket of the driver, with the driver's role, has sent the position. -/
def Sent (tenantId driverId : String) (location : Location) : Prop :=
  ∃ c ∈ log, ∃ id nowMs lat lng socket, c.act = .socket (.location id nowMs lat lng) ∧
    c.before.service.sockets id = some socket ∧ socket.Of tenantId driverId ∧ driverRole ∈ socket.identity.roles ∧
    createLocation lat lng = .ok location

def Asked (id : Nat) (orderId : String) : Prop := ∃ c ∈ log, c.act = .joinOrder id (some orderId)

/-- The socket has asked for an order that has been assigned in its tenant. -/
def Follows (id : Nat) (tenantId : TenantId) (orderId : String) : Prop :=
  Asked log id orderId ∧ ∃ driverId, WasAssigned log s tenantId orderId driverId

/-- What the followers of an order may be told. -/
def Permitted (tenantId : TenantId) (orderId : String) : ServerEvent → Prop
  | .location driverId location => WasAssigned log s tenantId orderId driverId ∧ Sent log tenantId.text driverId location
  | .assigned announced driverId => announced = orderId ∧ WasAssigned log s tenantId orderId driverId ∧
      ∃ location, Sent log tenantId.text driverId location
  | _ => False

def errorTexts : List String :=
  ["location requires the driver role", "latitude must be a finite number in [-90, 90]",
    "longitude must be a finite number in [-180, 180]", "orderId is required", "order is not assigned or not permitted"]

/-- What a socket is told: of the orders it follows in its own tenant, the
driver and the driver's positions; of its own requests, the outcome. -/
def Told (id : Nat) (socket : DeliverySocket) : ServerEvent → Prop
  | .joined orderId => ∃ tenantId : TenantId, socket.identity.tenantId = tenantId.text ∧ Follows log s id tenantId orderId
  | .error message => message ∈ errorTexts
  | event => ∃ (tenantId : TenantId) (orderId : String), socket.identity.tenantId = tenantId.text ∧
      Follows log s id tenantId orderId ∧ Permitted log s tenantId orderId event

def Task.Justified : Task → Prop
  | .locate id location => ∃ socket, s.service.sockets id = some socket ∧
      Sent log socket.identity.tenantId socket.identity.sub location
  | .lookup id orderId => Asked log id orderId
  | .join id orderId => ∃ (socket : DeliverySocket) (tenantId : TenantId), s.service.sockets id = some socket ∧
      socket.identity.tenantId = tenantId.text ∧ Follows log s id tenantId orderId
  | .claim tenantId _ candidates => ∀ driverId ∈ candidates, ∃ location, Sent log tenantId.text driverId location

def Joined (id : Nat) (room : String) : Prop :=
  ∃ (socket : DeliverySocket) (tenantId : TenantId) (orderId : String), s.service.sockets id = some socket ∧
    socket.identity.tenantId = tenantId.text ∧ room = orderRoom tenantId.text orderId ∧ Follows log s id tenantId orderId

def Broadcast.Justified (broadcast : Broadcast) : Prop :=
  ∃ (tenantId : TenantId) (orderId : String), broadcast.room = orderRoom tenantId.text orderId ∧
    Permitted log s tenantId orderId broadcast.event

def Received (id : Nat) (event : ServerEvent) : Prop :=
  ∃ socket, s.service.sockets id = some socket ∧ Told log s id socket event

/-- Every step of the service keeps to what may be told. -/
structure Private : Prop where
  consistent : ∀ tenantId, Consistent (scriptKeys tenantId) s.redis
  outstanding : ∀ id socket location, s.service.sockets id = some socket → .geoadd location ∈ socket.outstanding →
    Sent log socket.identity.tenantId socket.identity.sub location
  online : ∀ tenantId driverId location, s.service.geo (driversKey tenantId) driverId = some location →
    Sent log tenantId driverId location
  waiting : ∀ task ∈ s.tasks, task.Justified log s
  rooms : ∀ id, ∀ room ∈ s.rooms id, Joined log s id room
  broadcasts : ∀ broadcast ∈ s.broadcasts, broadcast.Justified log s
  received : ∀ id event, (id, event) ∈ s.received → Received log s id event

end told

theorem orderRoom_toList (tenantId orderId : String) :
    (orderRoom tenantId orderId).toList = "t:".toList ++ (tenantId.toList ++ ':' :: ("order:".toList ++ orderId.toList)) := by
  simp [orderRoom]

/-- A room tells its tenant and its order. -/
theorem orderRoom_inj {tenantId tenantId' : TenantId} {orderId orderId' : String}
    (same : orderRoom tenantId.text orderId = orderRoom tenantId'.text orderId') : tenantId = tenantId' ∧ orderId = orderId' := by
  have lists := congrArg String.toList same
  rw [orderRoom_toList, orderRoom_toList, List.append_right_inj] at lists
  obtain ⟨texts, orders⟩ := Delimited.append_sep_inj tenantId.plain tenantId'.plain lists
  rw [List.append_right_inj] at orders
  constructor
  · cases tenantId
    cases tenantId'
    cases String.toList_inj.mp texts
    rfl
  · exact String.toList_inj.mp orders

section sockets

variable {service service' : Service} {event : Delivery.Event} {id : Nat} {socket : DeliverySocket} {location : Location}

/-- What a step of the sockets does: it opens one, or it leaves one with its
identity and changes the positions by its oldest command, if at all. -/
theorem service_step (step : service.step event = some service') :
    (∃ id identity, event = .connect id identity ∧ service.sockets id = none ∧
      service' = service.set id (.open identity service.rateLimitPerSec)) ∨
    ∃ id socket socket', service.sockets id = some socket ∧ socket'.identity = socket.identity ∧
      service'.sockets = Function.update service.sockets id (some socket') ∧
      (∀ location, .geoadd location ∈ socket'.outstanding → .geoadd location ∈ socket.outstanding ∨
        ∃ nowMs lat lng, event = .location id nowMs lat lng ∧ driverRole ∈ socket.identity.roles ∧
          createLocation lat lng = .ok location) ∧
      (service'.geo = service.geo ∨ ∃ command rest, socket.outstanding = command :: rest ∧
        service'.geo = command.run service.geo (driversKey socket.identity.tenantId) socket.identity.sub) := by
  cases event with
  | connect id identity =>
    simp only [Service.step] at step
    split at step
    · cases step
    · rename_i unused
      cases step
      exact Or.inl ⟨id, identity, rfl, unused, rfl⟩
  | location id nowMs lat lng =>
    simp only [Service.step] at step
    split at step
    · cases step
    · rename_i socket found
      split at step
      · cases step
        refine Or.inr ⟨id, socket, _, found, socket.onLocation_identity nowMs lat lng, rfl, ?_, Or.inl rfl⟩
        intro location member
        rcases socket.onLocation_cases nowMs lat lng with ⟨rateLimiter, same⟩ | ⟨rateLimiter, stored, driver, created, same⟩
        · rw [same] at member
          exact Or.inl member
        · rw [same] at member
          rcases List.mem_append.mp member with old | new
          · exact Or.inl old
          · cases List.mem_singleton.mp new
            exact Or.inr ⟨nowMs, lat, lng, rfl, driver, created⟩
      · cases step
  | disconnect id =>
    simp only [Service.step] at step
    split at step
    · cases step
    · rename_i socket found
      split at step
      · cases step
        refine Or.inr ⟨id, socket, _, found, socket.onDisconnect_identity, rfl, ?_, Or.inl rfl⟩
        intro location member
        unfold DeliverySocket.onDisconnect at member
        split at member
        · rcases List.mem_append.mp member with old | new
          · exact Or.inl old
          · cases List.mem_singleton.mp new
        · exact Or.inl member
      · cases step
  | apply id =>
    simp only [Service.step] at step
    split at step
    · cases step
    · rename_i socket found
      unfold Service.applyNext at step
      split at step
      · cases step
      · rename_i command rest outstanding
        cases step
        refine Or.inr ⟨id, socket, { socket with outstanding := rest }, found, rfl, rfl, ?_, Or.inr ⟨command, rest, outstanding, rfl⟩⟩
        intro location member
        exact Or.inl (outstanding ▸ List.mem_cons_of_mem _ member)

theorem service_identity (step : service.step event = some service') (found : service.sockets id = some socket) :
    ∃ socket', service'.sockets id = some socket' ∧ socket'.identity = socket.identity := by
  rcases service_step step with ⟨other, identity, -, unused, rfl⟩ | ⟨other, old, new, atOther, same, sockets, -⟩
  · have different : id ≠ other := by
      rintro rfl
      rw [unused] at found
      cases found
    exact ⟨socket, (Function.update_of_ne different ..).trans found, rfl⟩
  · rw [sockets]
    by_cases here : id = other
    · subst here
      cases Option.some.inj (found.symm.trans atOther)
      exact ⟨new, Function.update_self .., same⟩
    · exact ⟨socket, (Function.update_of_ne here ..).trans found, rfl⟩

end sockets

section grows

variable {log : List (Commit State Event)} {s s' : State} {act : Event} {tenantId : TenantId} {orderId driverId : String}
  {id : Nat} {location : Location} {event : ServerEvent}

theorem WasAssigned.commit (assigned : WasAssigned log s tenantId orderId driverId) :
    WasAssigned (⟨s, act, s'⟩ :: log) s' tenantId orderId driverId := by
  obtain ⟨p, seen, stood⟩ := assigned
  exact ⟨p, seen.commit, stood⟩

theorem Sent.commit {tenantId : String} (sent : Sent log tenantId driverId location) :
    Sent (⟨s, act, s'⟩ :: log) tenantId driverId location := by
  obtain ⟨c, member, rest⟩ := sent
  exact ⟨c, List.mem_cons_of_mem _ member, rest⟩

theorem Asked.commit (asked : Asked log id orderId) : Asked (⟨s, act, s'⟩ :: log) id orderId := by
  obtain ⟨c, member, same⟩ := asked
  exact ⟨c, List.mem_cons_of_mem _ member, same⟩

theorem Follows.commit (follows : Follows log s id tenantId orderId) :
    Follows (⟨s, act, s'⟩ :: log) s' id tenantId orderId := by
  obtain ⟨asked, driverId, assigned⟩ := follows
  exact ⟨asked.commit, driverId, assigned.commit⟩

theorem Permitted.commit (permitted : Permitted log s tenantId orderId event) :
    Permitted (⟨s, act, s'⟩ :: log) s' tenantId orderId event := by
  cases event with
  | location driverId location => exact ⟨permitted.1.commit, permitted.2.commit⟩
  | joined orderId => exact permitted
  | assigned announced driverId =>
    obtain ⟨same, assigned, location, sent⟩ := permitted
    exact ⟨same, assigned.commit, location, sent.commit⟩
  | error message => exact permitted

theorem Told.commit {socket socket' : DeliverySocket} (told : Told log s id socket event)
    (identity : socket'.identity = socket.identity) : Told (⟨s, act, s'⟩ :: log) s' id socket' event := by
  cases event with
  | joined orderId =>
    obtain ⟨tenantId, own, follows⟩ := told
    exact ⟨tenantId, identity ▸ own, follows.commit⟩
  | error message => exact told
  | location driverId location =>
    obtain ⟨tenantId, orderId, own, follows, permitted⟩ := told
    exact ⟨tenantId, orderId, identity ▸ own, follows.commit, permitted.commit⟩
  | assigned announced driverId =>
    obtain ⟨tenantId, orderId, own, follows, permitted⟩ := told
    exact ⟨tenantId, orderId, identity ▸ own, follows.commit, permitted.commit⟩

/-- A socket keeps the identity of its token. -/
def Keeps (s s' : State) : Prop :=
  ∀ id socket, s.service.sockets id = some socket →
    ∃ socket', s'.service.sockets id = some socket' ∧ socket'.identity = socket.identity

theorem Keeps.of_service (same : s'.service = s.service) : Keeps s s' := by
  intro id socket found
  rw [same]
  exact ⟨socket, found, rfl⟩

theorem Task.Justified.commit {task : Task} (justified : task.Justified log s) (keeps : Keeps s s') :
    task.Justified (⟨s, act, s'⟩ :: log) s' := by
  cases task with
  | locate id location =>
    obtain ⟨socket, found, sent⟩ := justified
    obtain ⟨socket', found', identity⟩ := keeps id socket found
    exact ⟨socket', found', identity ▸ sent.commit⟩
  | lookup id orderId => exact Asked.commit justified
  | join id orderId =>
    obtain ⟨socket, tenantId, found, own, follows⟩ := justified
    obtain ⟨socket', found', identity⟩ := keeps id socket found
    exact ⟨socket', tenantId, found', identity ▸ own, follows.commit⟩
  | claim tenantId orderId candidates =>
    intro driverId member
    obtain ⟨location, sent⟩ := justified driverId member
    exact ⟨location, sent.commit⟩

theorem Joined.commit {room : String} (joined : Joined log s id room) (keeps : Keeps s s') :
    Joined (⟨s, act, s'⟩ :: log) s' id room := by
  obtain ⟨socket, tenantId, orderId, found, own, same, follows⟩ := joined
  obtain ⟨socket', found', identity⟩ := keeps id socket found
  exact ⟨socket', tenantId, orderId, found', identity ▸ own, same, follows.commit⟩

theorem Broadcast.Justified.commit {broadcast : Broadcast} (justified : broadcast.Justified log s) :
    broadcast.Justified (⟨s, act, s'⟩ :: log) s' := by
  obtain ⟨tenantId, orderId, same, permitted⟩ := justified
  exact ⟨tenantId, orderId, same, permitted.commit⟩

theorem Received.commit (received : Received log s id event) (keeps : Keeps s s') :
    Received (⟨s, act, s'⟩ :: log) s' id event := by
  obtain ⟨socket, found, told⟩ := received
  obtain ⟨socket', found', identity⟩ := keeps id socket found
  exact ⟨socket', found', told.commit identity⟩

/-- A step is judged by what it adds. -/
theorem Private.next (before : Private log s) (keeps : Keeps s s')
    (consistent : ∀ tenantId, Consistent (scriptKeys tenantId) s'.redis)
    (outstanding : ∀ id socket location, s'.service.sockets id = some socket → .geoadd location ∈ socket.outstanding →
      Sent (⟨s, act, s'⟩ :: log) socket.identity.tenantId socket.identity.sub location)
    (online : ∀ tenantId driverId location, s'.service.geo (driversKey tenantId) driverId = some location →
      Sent (⟨s, act, s'⟩ :: log) tenantId driverId location)
    (waiting : ∀ task ∈ s'.tasks, task ∈ s.tasks ∨ task.Justified (⟨s, act, s'⟩ :: log) s')
    (rooms : ∀ id, ∀ room ∈ s'.rooms id, room ∈ s.rooms id ∨ Joined (⟨s, act, s'⟩ :: log) s' id room)
    (broadcasts : ∀ broadcast ∈ s'.broadcasts, broadcast ∈ s.broadcasts ∨ broadcast.Justified (⟨s, act, s'⟩ :: log) s')
    (received : ∀ id event, (id, event) ∈ s'.received → (id, event) ∈ s.received ∨ Received (⟨s, act, s'⟩ :: log) s' id event) :
    Private (⟨s, act, s'⟩ :: log) s' where
  consistent := consistent
  outstanding := outstanding
  online := online
  waiting task member := (waiting task member).elim (fun old => (before.waiting task old).commit keeps) id
  rooms id room member := (rooms id room member).elim (fun old => (before.rooms id room old).commit keeps) fun new => new
  broadcasts broadcast member := (broadcasts broadcast member).elim (fun old => (before.broadcasts broadcast old).commit) id
  received id event member := (received id event member).elim (fun old => (before.received id event old).commit keeps)
    fun new => new

/-- The same for a step that leaves the sockets and the positions alone. -/
theorem Private.next_served (before : Private log s) (service : s'.service = s.service)
    (consistent : ∀ tenantId, Consistent (scriptKeys tenantId) s'.redis)
    (waiting : ∀ task ∈ s'.tasks, task ∈ s.tasks ∨ task.Justified (⟨s, act, s'⟩ :: log) s')
    (rooms : ∀ id, ∀ room ∈ s'.rooms id, room ∈ s.rooms id ∨ Joined (⟨s, act, s'⟩ :: log) s' id room)
    (broadcasts : ∀ broadcast ∈ s'.broadcasts, broadcast ∈ s.broadcasts ∨ broadcast.Justified (⟨s, act, s'⟩ :: log) s')
    (received : ∀ id event, (id, event) ∈ s'.received → (id, event) ∈ s.received ∨ Received (⟨s, act, s'⟩ :: log) s' id event) :
    Private (⟨s, act, s'⟩ :: log) s' := by
  refine before.next (.of_service service) consistent ?_ ?_ waiting rooms broadcasts received
  · intro id socket location found member
    rw [service] at found
    exact (before.outstanding id socket location found member).commit
  · intro tenantId driverId location found
    rw [service] at found
    exact (before.online tenantId driverId location found).commit

end grows

/-- A position under a key was there before, or the command has stored it. -/
theorem run_stored {geo : GeoSets} {key member key' member' : String} {command : LocationCommand} {location : Location}
    (found : command.run geo key member key' member' = some location) :
    geo key' member' = some location ∨ command = .geoadd location ∧ key' = key ∧ member' = member := by
  by_cases own : key' = key ∧ member' = member
  · obtain ⟨rfl, rfl⟩ := own
    cases command with
    | geoadd stored =>
      simp only [LocationCommand.run] at found
      split at found
      · rw [Function.update_self, Function.update_self] at found
        cases found
        exact Or.inr ⟨rfl, rfl, rfl⟩
      · exact Or.inl found
    | zrem =>
      rw [LocationCommand.run_zrem] at found
      cases found
  · rw [command.run_other own] at found
    exact Or.inl found

section steps

variable {log : List (Commit State Event)} {s s' : State} {event : Delivery.Event}

theorem Private.outstanding_next (before : Private log s) (step : s.service.step event = some s'.service) (id : Nat)
    (socket : DeliverySocket) (location : Location) (found : s'.service.sockets id = some socket)
    (member : .geoadd location ∈ socket.outstanding) :
    Sent (⟨s, .socket event, s'⟩ :: log) socket.identity.tenantId socket.identity.sub location := by
  rcases service_step step with ⟨other, identity, -, unused, opened⟩ | ⟨other, old, new, atOther, same, sockets, grown, -⟩
  · rw [opened] at found
    rcases Service.cases_sockets_set found with rfl | earlier
    · cases member
    · exact (before.outstanding id socket location earlier member).commit
  · rw [sockets, Function.update_apply] at found
    split at found
    · rename_i here
      cases found
      rw [same]
      rcases grown location member with earlier | ⟨nowMs, lat, lng, rfl, driver, created⟩
      · exact (before.outstanding other old location atOther earlier).commit
      · exact ⟨_, List.mem_cons_self .., other, nowMs, lat, lng, old, rfl, atOther, ⟨rfl, rfl⟩, driver, created⟩
    · exact (before.outstanding id socket location found member).commit

theorem Private.online_next (before : Private log s) (step : s.service.step event = some s'.service) (tenantId driverId : String)
    (location : Location) (found : s'.service.geo (driversKey tenantId) driverId = some location) :
    Sent (⟨s, .socket event, s'⟩ :: log) tenantId driverId location := by
  rcases service_step step with ⟨other, identity, -, unused, opened⟩ | ⟨other, old, new, atOther, -, -, -, geo⟩
  · rw [opened] at found
    exact (before.online tenantId driverId location found).commit
  · rcases geo with kept | ⟨command, rest, outstanding, ran⟩
    · rw [kept] at found
      exact (before.online tenantId driverId location found).commit
    · rw [ran] at found
      rcases run_stored found with earlier | ⟨rfl, sameKey, rfl⟩
      · exact (before.online tenantId driverId location earlier).commit
      · rw [driversKey_inj sameKey]
        exact (before.outstanding other old location atOther (outstanding ▸ List.mem_cons_self ..)).commit

theorem mem_serve {before after : List Task} {task other : Task} (tasks : s.tasks = before ++ task :: after)
    (member : other ∈ before ++ after) : other ∈ s.tasks := by
  rw [tasks]
  exact (List.sublist_cons_self task after).append_left before |>.subset member

theorem Private.serves (holds : Private log s) {before after : List Task} {task : Task}
    (tasks : s.tasks = before ++ task :: after) : task.Justified log s :=
  holds.waiting task (tasks ▸ List.mem_append_right _ (List.mem_cons_self ..))

theorem locationErrors_texts {socket : DeliverySocket} {nowMs : Int} {lat lng : Option Rat} {event : ServerEvent}
    (member : event ∈ locationErrors socket nowMs lat lng) : ∃ message ∈ errorTexts, event = .error message := by
  unfold locationErrors at member
  split at member
  · exact ⟨_, by simp [errorTexts], List.mem_singleton.mp member⟩
  · split at member
    · cases member
    · split at member
      · rename_i message refused
        refine ⟨message, ?_, List.mem_singleton.mp member⟩
        unfold createLocation at refused
        split at refused
        · cases refused
          simp [errorTexts]
        · split at refused
          · cases refused
            simp [errorTexts]
          · cases refused
      · cases member

theorem followUp_locate {id : Nat} {command : LocationCommand} {task : Task} (member : task ∈ followUp id command) :
    ∃ location, command = .geoadd location ∧ task = .locate id location := by
  cases command with
  | geoadd location =>
    simp only [followUp] at member
    split at member
    · exact ⟨location, rfl, List.mem_singleton.mp member⟩
    · cases member
  | zrem => cases member

/-- The steps of a socket's own. -/
theorem Private.socket_step (before : Private log s) (step : Step (.socket event) s s') :
    Private (⟨s, .socket event, s'⟩ :: log) s' := by
  have keeps {service : Service} (run : s.service.step event = some service) (rest : State) (same : rest.service = service) :
      Keeps s rest := by
    intro id socket found
    rw [same]
    exact service_identity run found
  cases step with
  | connect id identity run =>
    exact before.next (keeps run _ rfl) before.consistent (before.outstanding_next run) (before.online_next run)
      (fun _ => Or.inl) (fun _ _ => Or.inl) (fun _ => Or.inl) fun _ _ => Or.inl
  | @location _ _ socket id nowMs lat lng found run =>
    refine before.next (keeps run _ rfl) before.consistent (before.outstanding_next run) (before.online_next run)
      (fun _ => Or.inl) (fun _ _ => Or.inl) (fun _ => Or.inl) ?_
    intro receiver event member
    rcases List.mem_append.mp member with old | new
    · exact Or.inl old
    · obtain ⟨error, listed, same⟩ := List.mem_map.mp new
      cases same
      obtain ⟨message, known, rfl⟩ := locationErrors_texts listed
      obtain ⟨socket', found', -⟩ := service_identity run found
      exact Or.inr ⟨socket', found', known⟩
  | disconnect id run =>
    refine before.next (keeps run _ rfl) before.consistent (before.outstanding_next run) (before.online_next run)
      (fun _ => Or.inl) ?_ (fun _ => Or.inl) fun _ _ => Or.inl
    intro other room member
    simp only [Function.update_apply] at member
    split at member
    · exact absurd member (Finset.notMem_empty _)
    · exact Or.inl member
  | @apply _ _ socket command rest id found outstanding run =>
    refine before.next (keeps run _ rfl) before.consistent (before.outstanding_next run) (before.online_next run)
      ?_ (fun _ _ => Or.inl) (fun _ => Or.inl) fun _ _ => Or.inl
    intro task member
    rcases List.mem_append.mp member with old | new
    · exact Or.inl old
    · obtain ⟨location, rfl, rfl⟩ := followUp_locate new
      obtain ⟨socket', found', identity⟩ := service_identity run found
      have sent := before.outstanding id socket location found (outstanding ▸ List.mem_cons_self ..)
      exact Or.inr ⟨socket', found', identity ▸ sent.commit⟩

/-- What an assignment that was made or found says. -/
theorem assign_assigned {tenantId : TenantId} {orderId : String} {candidates : List String} {redis redis' : Redis}
    {claim : AssignmentClaim} (run : RedisAssignmentStore.assign tenantId orderId candidates redis = (some claim, redis')) :
    redis'.hash (assignHashKey tenantId) orderId = some claim.assignment.driverId ∧
      (claim.created = true → claim.assignment.driverId ∈ candidates) := by
  cases assigned : redis.hash (assignHashKey tenantId) orderId with
  | some incumbent =>
    rw [RedisAssignmentStore.assign_incumbent assigned] at run
    cases run
    exact ⟨assigned, nofun⟩
  | none =>
    cases first : candidates.find? (· ∉ redis.set (busyKey tenantId)) with
    | none =>
      rw [RedisAssignmentStore.assign_none assigned first] at run
      cases run
    | some driver =>
      rw [RedisAssignmentStore.assign_free assigned first] at run
      cases run
      exact ⟨((scriptKeys tenantId).bind_assigned orderId).trans (if_pos rfl), fun _ => List.mem_of_find?_eq_some first⟩

theorem Private.assign (holds : Private log s) {owner : TenantId} {orderId : String} {candidates : List String}
    {result : Option AssignmentClaim} {redis : Redis}
    (run : RedisAssignmentStore.assign owner orderId candidates s.redis = (result, redis)) (tenantId : TenantId) :
    Consistent (scriptKeys tenantId) redis := by
  have after := (holds.consistent tenantId).step (.assign owner orderId candidates)
  rwa [StoreCall.run, run] at after

/-- The steps in which Redis answers. -/
theorem Private.serve_step {task : Task} (holds : Private log s) (step : Step (.serve task) s s') :
    Private (⟨s, .serve task, s'⟩ :: log) s' := by
  cases step with
  | @letIn _ before after socket tenantId assignment id orderId tasks found own assigned =>
    refine holds.next_served rfl holds.consistent ?_ (fun _ _ => Or.inl) (fun _ => Or.inl) fun _ _ => Or.inl
    intro other member
    rcases List.mem_append.mp member with old | later
    · exact Or.inl (mem_serve tasks (List.mem_append_left _ old))
    · rcases List.mem_cons.mp later with rfl | old
      · have asked : Asked log id orderId := holds.serves tasks
        obtain ⟨driverId, stands, -⟩ := Option.map_eq_some_iff.mp assigned
        exact Or.inr ⟨socket, tenantId, found, own, asked.commit, driverId, s, Seen.current.commit, stands⟩
      · exact Or.inl (mem_serve tasks (List.mem_append_right _ old))
  | @turnAway _ before after socket tenantId id orderId tasks found own assigned =>
    refine holds.next_served rfl holds.consistent (fun _ member => Or.inl (mem_serve tasks member)) (fun _ _ => Or.inl)
      (fun _ => Or.inl) ?_
    intro receiver event member
    rcases List.mem_append.mp member with old | new
    · exact Or.inl old
    · cases List.mem_singleton.mp new
      exact Or.inr ⟨socket, found, by simp [Told, errorTexts]⟩
  | @join _ before after socket id orderId tasks found =>
    obtain ⟨socket', tenantId, found', own, follows⟩ : (Task.join id orderId).Justified log s := holds.serves tasks
    cases Option.some.inj (found.symm.trans found')
    refine holds.next_served rfl holds.consistent (fun _ member => Or.inl (mem_serve tasks member)) ?_ (fun _ => Or.inl) ?_
    · intro other room member
      simp only [Function.update_apply] at member
      split at member
      · rename_i here
        subst here
        rcases Finset.mem_insert.mp member with rfl | old
        · exact Or.inr ⟨socket, tenantId, orderId, found, own, by rw [own], follows.commit⟩
        · exact Or.inl old
      · exact Or.inl member
    · intro receiver event member
      rcases List.mem_append.mp member with old | new
      · exact Or.inl old
      · cases List.mem_singleton.mp new
        exact Or.inr ⟨socket, found, tenantId, own, follows.commit⟩
  | @locate _ before after socket tenantId id location orderIds tasks found own served =>
    obtain ⟨socket', found', sent⟩ : (Task.locate id location).Justified log s := holds.serves tasks
    cases Option.some.inj (found.symm.trans found')
    refine holds.next_served rfl holds.consistent (fun _ member => Or.inl (mem_serve tasks member)) (fun _ _ => Or.inl) ?_
      fun _ _ => Or.inl
    intro broadcast member
    rcases List.mem_append.mp member with old | new
    · exact Or.inl old
    · obtain ⟨orderId, listed, rfl⟩ := List.mem_map.mp new
      have assigned := ((holds.consistent tenantId).orders orderId socket.identity.sub).mp ((served orderId).mp listed)
      rw [own] at sent
      exact Or.inr ⟨tenantId, orderId, rfl, ⟨s, Seen.current.commit, assigned⟩, sent.commit⟩
  | @claimed _ before after claim redis tenantId orderId candidates tasks run =>
    have found : (Task.claim tenantId orderId candidates).Justified log s := holds.serves tasks
    refine holds.next_served rfl (holds.assign run) (fun _ member => Or.inl (mem_serve tasks member)) (fun _ _ => Or.inl) ?_
      fun _ _ => Or.inl
    intro broadcast member
    rcases List.mem_append.mp member with old | new
    · exact Or.inl old
    · split at new
      · rename_i created
        rw [List.mem_singleton.mp new]
        obtain ⟨assigned, chosen⟩ := assign_assigned run
        obtain ⟨location, sent⟩ := found _ (chosen created)
        exact Or.inr ⟨tenantId, orderId, rfl, rfl, ⟨_, Seen.current, assigned⟩, location, sent.commit⟩
      · cases new
  | unclaimed tenantId orderId candidates tasks run =>
    exact holds.next_served rfl (holds.assign run) (fun _ member => Or.inl (mem_serve tasks member)) (fun _ _ => Or.inl)
      (fun _ => Or.inl) fun _ _ => Or.inl

theorem Private.step {act : Event} (holds : Private log s) (step : Step act s s') : Private (⟨s, act, s'⟩ :: log) s' := by
  cases act with
  | socket event => exact holds.socket_step step
  | serve task => exact holds.serve_step step
  | joinOrder id orderId =>
    cases step with
    | ask id orderId found connected named =>
      refine holds.next_served rfl holds.consistent ?_ (fun _ _ => Or.inl) (fun _ => Or.inl) fun _ _ => Or.inl
      intro task member
      rcases List.mem_append.mp member with old | new
      · exact Or.inl old
      · rw [List.mem_singleton.mp new]
        exact Or.inr ⟨_, List.mem_cons_self .., rfl⟩
    | askNothing id orderId found connected unnamed =>
      refine holds.next_served rfl holds.consistent (fun _ => Or.inl) (fun _ _ => Or.inl) (fun _ => Or.inl) ?_
      intro receiver event member
      rcases List.mem_append.mp member with old | new
      · exact Or.inl old
      · cases List.mem_singleton.mp new
        exact Or.inr ⟨_, found, by simp [Told, errorTexts]⟩
  | fail task =>
    cases step with
    | fail task tasks =>
      exact holds.next_served rfl holds.consistent (fun _ member => Or.inl (mem_serve tasks member)) (fun _ _ => Or.inl)
        (fun _ => Or.inl) fun _ _ => Or.inl
  | handle tenantId eventType orderId =>
    cases step with
    | skip =>
      exact holds.next_served rfl holds.consistent (fun _ => Or.inl) (fun _ _ => Or.inl) (fun _ => Or.inl) fun _ _ => Or.inl
    | release tenantId orderId named =>
      exact holds.next_served rfl (fun owner => (holds.consistent owner).step (.unassign tenantId orderId)) (fun _ => Or.inl)
        (fun _ _ => Or.inl) (fun _ => Or.inl) fun _ _ => Or.inl
    | candidates tenantId orderId candidates named online =>
      refine holds.next_served rfl holds.consistent ?_ (fun _ _ => Or.inl) (fun _ => Or.inl) fun _ _ => Or.inl
      intro task member
      rcases List.mem_append.mp member with old | new
      · exact Or.inl old
      · rw [List.mem_singleton.mp new]
        refine Or.inr fun driverId listed => ?_
        obtain ⟨location, stored⟩ := Option.isSome_iff_exists.mp ((online driverId).mp listed)
        exact ⟨location, (holds.online tenantId.text driverId location stored).commit⟩
  | deliver id broadcast =>
    cases step with
    | @deliver _ socket id broadcast published found connected inRoom =>
      refine holds.next_served rfl holds.consistent (fun _ => Or.inl) (fun _ _ => Or.inl) (fun _ => Or.inl) ?_
      intro receiver event member
      rcases List.mem_append.mp member with old | new
      · exact Or.inl old
      · cases List.mem_singleton.mp new
        obtain ⟨tenantId, orderId, room, permitted⟩ := holds.broadcasts broadcast published
        obtain ⟨socket', owner, followed, found', own, room', follows⟩ := holds.rooms id broadcast.room inRoom
        cases Option.some.inj (found.symm.trans found')
        obtain ⟨rfl, rfl⟩ := orderRoom_inj (room.symm.trans room')
        refine Or.inr ⟨socket, found, ?_⟩
        generalize broadcast.event = event at permitted
        cases event with
        | location driverId location => exact ⟨tenantId, orderId, own, follows.commit, permitted.commit⟩
        | assigned announced driverId => exact ⟨tenantId, orderId, own, follows.commit, permitted.commit⟩
        | joined orderId => exact permitted.elim
        | error message => exact permitted.elim

end steps

theorem Private.empty (rateLimitPerSec : Nat) : Private [] (State.empty rateLimitPerSec) where
  consistent _ := Consistent.empty
  outstanding _ _ _ found := by cases found
  online _ _ _ found := by cases found
  waiting _ member := by cases member
  rooms _ _ member := absurd member (Finset.notMem_empty _)
  broadcasts _ member := by cases member
  received _ _ member := by cases member

theorem Run.keeps_private {log : List (Commit State Event)} {s : State} (run : Run log s) : Private log s := by
  induction run with
  | start first =>
    obtain ⟨rateLimitPerSec, rfl⟩ := first
    exact .empty rateLimitPerSec
  | commit _ step ih => exact ih.step step

section sample

def sampleCustomer : VerifiedIdentity where
  sub := "c1"
  tenantId := "t1"
  roles := ["customer"]

/-- Redis once the only driver has been given the only order. -/
def sampleAssigned : Redis := (scriptKeys sampleTenant).bind "o1" "d1" Keyspace.empty

theorem sampleAssigned_orders (orderId : String) :
    orderId ∈ ["o1"] ↔ orderId ∈ sampleAssigned.set (driverOrdersPrefix sampleTenant ++ "d1") := by
  have orders := @ScriptKeys.bind_orders (scriptKeys sampleTenant) "o1" "d1" Keyspace.empty "d1"
  rw [if_pos rfl] at orders
  rw [sampleAssigned, show driverOrdersPrefix sampleTenant = (scriptKeys sampleTenant).driverOrders from rfl, orders]
  simp [Keyspace.empty]

theorem sampleOnline (driverId : String) : driverId ∈ ["d1"] ↔
    (Function.update (fun _ => none) "d1" (some (⟨1, 2⟩ : Location)) driverId).isSome := by
  rw [List.mem_singleton, Function.update_apply]
  split <;> simp_all

/-- A customer follows an order whose driver then reports a position. -/
theorem sampleRun : ∃ log s, Run log s ∧ (1, .location "d1" ⟨1, 2⟩) ∈ s.received := by
  have start : Run [] (State.empty 1) := .start ⟨1, rfl⟩
  have located := ((start.commit (Step.connect 0 sampleDriver rfl)).commit (Step.location 0 1000 (some 1) (some 2) rfl rfl)).commit
    (Step.apply 0 rfl rfl rfl)
  have confirmed := located.commit (Step.candidates sampleTenant "o1" ["d1"] (by decide) sampleOnline)
  have claimed := confirmed.commit (@Step.claimed _ [_] [] _ sampleAssigned sampleTenant "o1" ["d1"] rfl rfl)
  have joined := (((claimed.commit (Step.connect 1 sampleCustomer rfl)).commit (Step.ask 1 "o1" rfl rfl (by decide))).commit
    (@Step.letIn _ [_] [] _ sampleTenant _ 1 "o1" rfl rfl rfl rfl)).commit (@Step.join _ [_] [] _ 1 "o1" rfl rfl)
  have read := joined.commit (@Step.locate _ [] [] _ sampleTenant 0 ⟨1, 2⟩ ["o1"] rfl rfl rfl sampleAssigned_orders)
  have delivered := read.commit (Step.deliver 1 ⟨orderRoom "t1" "o1", .location "d1" ⟨1, 2⟩⟩
    (List.mem_append_right _ (List.mem_singleton_self _)) rfl rfl (Finset.mem_insert_self ..))
  exact ⟨_, _, delivered, List.mem_append_right _ (List.mem_singleton_self _)⟩

end sample

end FoodDelivery.Delivery.Realtime
