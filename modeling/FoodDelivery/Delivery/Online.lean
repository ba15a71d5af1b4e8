import FoodDelivery.Delivery.Presence

namespace FoodDelivery.Delivery

open CommitLog
open Tenancy (VerifiedIdentity)

def DeliverySocket.Of (socket : DeliverySocket) (tenantId driverId : String) : Prop :=
  socket.identity.tenantId = tenantId ∧ socket.identity.sub = driverId

theorem DeliverySocket.Of.same {socket other : DeliverySocket} {tenantId driverId : String} (own : socket.Of tenantId driverId)
    (identity : other.identity = socket.identity) : other.Of tenantId driverId := by
  rw [DeliverySocket.Of, identity]
  exact own

namespace Service

/-- Some socket of the driver. -/
def Has (s : Service) (tenantId driverId : String) (P : DeliverySocket → Prop) : Prop :=
  ∃ id socket, s.sockets id = some socket ∧ socket.Of tenantId driverId ∧ P socket

/-- The driver is among `onlineDriverIds`. -/
def Online (s : Service) (tenantId driverId : String) : Prop := (s.geo (driversKey tenantId) driverId).isSome

/-- Some still connected socket of the driver has had a location accepted. -/
def Live (s : Service) (tenantId driverId : String) : Prop :=
  s.Has tenantId driverId fun socket => socket.connected = true ∧ socket.accepted = true

/-- No command of the driver is outstanding. -/
def Quiet (s : Service) (tenantId driverId : String) : Prop :=
  ¬ s.Has tenantId driverId fun socket => socket.outstanding ≠ []

/-- A location of the driver is on its way to Redis. -/
def Announced (s : Service) (tenantId driverId : String) : Prop :=
  s.Has tenantId driverId fun socket => ∃ location, .geoadd location ∈ socket.outstanding

def Leaving (s : Service) (tenantId driverId : String) : Prop :=
  s.Has tenantId driverId fun socket => .zrem ∈ socket.outstanding

end Service

/-- A removal, or a position that Redis refuses, is applied while a connected
socket of the driver has had a location accepted: then a further location is
outstanding, or the driver was on the set and the command no removal. -/
def Recovers (tenantId driverId : String) (commit : Commit Service Event) : Prop :=
  ∀ id socket command rest, commit.act = .apply id → commit.before.sockets id = some socket →
    socket.Of tenantId driverId → socket.outstanding = command :: rest → command.accepts = false →
    commit.before.Live tenantId driverId →
    (commit.before.set id { socket with outstanding := rest }).Announced tenantId driverId ∨
      command ≠ .zrem ∧ commit.before.Online tenantId driverId

/-- Nothing is issued by a closed socket, and a removal when it is closed. -/
structure DeliverySocket.Sound (socket : DeliverySocket) : Prop where
  driver : socket.accepted = true → driverRole ∈ socket.identity.roles
  opened : socket.connected = true → ∀ command ∈ socket.outstanding, socket.accepted = true ∧ command ≠ .zrem
  closed : socket.connected = false → socket.outstanding = [] ∨ socket.outstanding.getLast? = some .zrem

structure Invariant (tenantId driverId : String) (s : Service) : Prop where
  sound : ∀ id socket, s.sockets id = some socket → socket.Sound
  present : s.Live tenantId driverId → s.Online tenantId driverId ∨ s.Announced tenantId driverId
  absent : s.Online tenantId driverId → s.Live tenantId driverId ∨ s.Leaving tenantId driverId

theorem Invariant.online_iff {tenantId driverId : String} {s : Service} (invariant : Invariant tenantId driverId s)
    (quiet : s.Quiet tenantId driverId) : s.Online tenantId driverId ↔ s.Live tenantId driverId := by
  constructor
  · intro online
    rcases invariant.absent online with live | ⟨id, socket, found, own, member⟩
    · exact live
    · exact absurd ⟨id, socket, found, own, List.ne_nil_of_mem member⟩ quiet
  · intro live
    rcases invariant.present live with online | ⟨id, socket, found, own, _, member⟩
    · exact online
    · exact absurd ⟨id, socket, found, own, List.ne_nil_of_mem member⟩ quiet

namespace Service.Has

variable {s : Service} {tenantId driverId : String} {id : Nat} {new : DeliverySocket} {P : DeliverySocket → Prop}

theorem set (has : s.Has tenantId driverId P)
    (here : ∀ old, s.sockets id = some old → old.Of tenantId driverId → P old → new.Of tenantId driverId ∧ P new) :
    (s.set id new).Has tenantId driverId P := by
  obtain ⟨other, socket, found, own, holds⟩ := has
  by_cases same : other = id
  · subst same
    obtain ⟨newOwn, newHolds⟩ := here socket found own holds
    exact ⟨other, new, Function.update_self .., newOwn, newHolds⟩
  · exact ⟨other, socket, (Function.update_of_ne same ..).trans found, own, holds⟩

theorem of_new (own : new.Of tenantId driverId) (holds : P new) : (s.set id new).Has tenantId driverId P :=
  ⟨id, new, Function.update_self .., own, holds⟩

theorem cases_set (has : (s.set id new).Has tenantId driverId P) :
    new.Of tenantId driverId ∧ P new ∨ s.Has tenantId driverId P := by
  obtain ⟨other, socket, found, own, holds⟩ := has
  have sockets : (s.set id new).sockets other = if other = id then some new else s.sockets other :=
    Function.update_apply ..
  rw [sockets] at found
  split at found
  · cases found
    exact Or.inl ⟨own, holds⟩
  · exact Or.inr ⟨other, socket, found, own, holds⟩

end Service.Has

theorem Service.cases_sockets_set {s : Service} {id other : Nat} {new socket : DeliverySocket}
    (found : (s.set id new).sockets other = some socket) : socket = new ∨ s.sockets other = some socket := by
  have sockets : (s.set id new).sockets other = if other = id then some new else s.sockets other :=
    Function.update_apply ..
  rw [sockets] at found
  split at found
  · exact Or.inl (Option.some.inj found).symm
  · exact Or.inr found

/-- What a location message makes of a socket. -/
theorem DeliverySocket.onLocation_cases (socket : DeliverySocket) (nowMs : Int) (lat lng : Option Rat) :
    (∃ rateLimiter, socket.onLocation nowMs lat lng = { socket with rateLimiter }) ∨
      ∃ rateLimiter location, driverRole ∈ socket.identity.roles ∧ createLocation lat lng = .ok location ∧
        socket.onLocation nowMs lat lng = { socket.issue (.geoadd location) with rateLimiter, accepted := true } := by
  unfold DeliverySocket.onLocation
  split
  · exact Or.inl ⟨socket.rateLimiter, rfl⟩
  · rename_i driver
    split
    · rename_i rateLimiter _
      exact Or.inl ⟨rateLimiter, rfl⟩
    · rename_i rateLimiter _
      split
      · exact Or.inl ⟨rateLimiter, rfl⟩
      · rename_i location created
        exact Or.inr ⟨rateLimiter, location, not_not.mp driver, created, rfl⟩

theorem DeliverySocket.onDisconnect_connected (socket : DeliverySocket) : socket.onDisconnect.connected = false := by
  unfold DeliverySocket.onDisconnect
  split <;> rfl

theorem DeliverySocket.onDisconnect_identity (socket : DeliverySocket) : socket.onDisconnect.identity = socket.identity := by
  unfold DeliverySocket.onDisconnect
  split <;> rfl

namespace DeliverySocket.Sound

variable {socket : DeliverySocket}

theorem fresh (identity : VerifiedIdentity) (rateLimitPerSec : Nat) : (DeliverySocket.open identity rateLimitPerSec).Sound where
  driver := nofun
  opened _ _ member := by cases member
  closed := nofun

theorem accepts (sound : socket.Sound) (connected : socket.connected = true) (driver : driverRole ∈ socket.identity.roles)
    (rateLimiter : LocationRateLimiter) (location : Location) :
    DeliverySocket.Sound { socket.issue (.geoadd location) with rateLimiter, accepted := true } where
  driver _ := driver
  opened _ command member := by
    rcases List.mem_append.mp member with old | added
    · exact ⟨rfl, (sound.opened connected command old).2⟩
    · cases List.mem_singleton.mp added
      exact ⟨rfl, nofun⟩
  closed closed := by simp [DeliverySocket.issue, connected] at closed

theorem onDisconnect (sound : socket.Sound) (connected : socket.connected = true) : socket.onDisconnect.Sound := by
  unfold DeliverySocket.onDisconnect
  split
  · rename_i driver
    exact ⟨fun _ => driver, nofun, fun _ => Or.inr List.getLast?_concat⟩
  · rename_i noDriver
    refine ⟨sound.driver, nofun, fun _ => Or.inl ?_⟩
    refine List.eq_nil_iff_forall_not_mem.mpr fun command member => ?_
    exact noDriver (sound.driver (sound.opened connected command member).1)

theorem applied {command : LocationCommand} {rest : List LocationCommand} (sound : socket.Sound)
    (outstanding : socket.outstanding = command :: rest) : DeliverySocket.Sound { socket with outstanding := rest } where
  driver := sound.driver
  opened connected other member := sound.opened connected other (outstanding ▸ List.mem_cons_of_mem _ member)
  closed closed := by
    rcases sound.closed closed with none | last
    · rw [outstanding] at none
      cases none
    · cases rest with
      | nil => exact Or.inl rfl
      | cons next rest =>
        rw [outstanding, List.getLast?_cons_cons] at last
        exact Or.inr last

end DeliverySocket.Sound

theorem driversKey_inj {tenantId tenantId' : Uuid} (same : driversKey tenantId = driversKey tenantId') :
    tenantId = tenantId' := by
  simpa [driversKey] using same

namespace LocationCommand

variable {geo : GeoSets} {key member : String}

theorem run_other {key' member' : String} (command : LocationCommand) (other : ¬ (key' = key ∧ member' = member)) :
    command.run geo key member key' member' = geo key' member' := by
  have kept (value : Option Location) :
      Function.update geo key (Function.update (geo key) member value) key' member' = geo key' member' := by
    by_cases sameKey : key' = key
    · subst sameKey
      rw [Function.update_self]
      exact Function.update_of_ne (fun same => other ⟨rfl, same⟩) ..
    · rw [Function.update_of_ne sameKey]
  cases command with
  | geoadd location =>
    simp only [run]
    split
    · exact kept _
    · rfl
  | zrem => exact kept _

theorem run_accepted {command : LocationCommand} (accepts : command.accepts = true) :
    (command.run geo key member key member).isSome := by
  cases command with
  | geoadd location => simp [run, accepts]
  | zrem => cases accepts

theorem run_refused {command : LocationCommand} (refused : command.accepts = false) (position : command ≠ .zrem) :
    command.run geo key member = geo := by
  cases command with
  | geoadd location => simp [run, refused]
  | zrem => exact absurd rfl position

theorem run_zrem : LocationCommand.zrem.run geo key member key member = none := by
  simp [run]

end LocationCommand

namespace Invariant

variable {tenantId driverId : String} {s : Service} {id : Nat} {socket : DeliverySocket}

theorem empty (rateLimitPerSec : Nat) : Invariant tenantId driverId (.empty rateLimitPerSec) where
  sound _ _ found := by cases found
  present := by
    rintro ⟨id, socket, found, _⟩
    cases found
  absent := nofun

theorem sound_set (invariant : Invariant tenantId driverId s) (sound : socket.Sound) (other : Nat) (found : DeliverySocket)
    (atOther : (s.set id socket).sockets other = some found) : found.Sound := by
  rcases Service.cases_sockets_set atOther with rfl | old
  · exact sound
  · exact invariant.sound other found old

theorem connect (invariant : Invariant tenantId driverId s) (identity : VerifiedIdentity) (unused : s.sockets id = none) :
    Invariant tenantId driverId (s.set id (.open identity s.rateLimitPerSec)) where
  sound := invariant.sound_set (.fresh identity s.rateLimitPerSec)
  present live := by
    rcases live.cases_set with ⟨_, _, accepted⟩ | before
    · cases accepted
    · exact (invariant.present before).imp_right fun announced => announced.set (by simp [unused])
  absent online :=
    (invariant.absent online).imp (fun live => live.set (by simp [unused])) fun leaving => leaving.set (by simp [unused])

/-- A socket that stays as connected as it was issues another command. -/
theorem update {new : DeliverySocket} (invariant : Invariant tenantId driverId s) (found : s.sockets id = some socket)
    (identity : new.identity = socket.identity) (connected : new.connected = socket.connected) (sound : new.Sound)
    (accepted : socket.accepted = true → new.accepted = true)
    (grows : ∀ command ∈ socket.outstanding, command ∈ new.outstanding)
    (first : new.accepted = true → socket.accepted = true ∨ ∃ location, .geoadd location ∈ new.outstanding) :
    Invariant tenantId driverId (s.set id new) where
  sound := invariant.sound_set sound
  present live := by
    have before (live : s.Live tenantId driverId) : s.Online tenantId driverId ∨ (s.set id new).Announced tenantId driverId := by
      refine (invariant.present live).imp_right fun announced => announced.set ?_
      rintro old atId own ⟨location, member⟩
      cases Option.some.inj (found.symm.trans atId)
      exact ⟨own.same identity, location, grows _ member⟩
    rcases live.cases_set with ⟨own, open_, now⟩ | old
    · rcases first now with already | announced
      · exact before ⟨id, socket, found, own.same identity.symm, connected ▸ open_, already⟩
      · exact Or.inr (.of_new own announced)
    · exact before old
  absent online := by
    refine (invariant.absent online).imp (fun live => live.set ?_) fun leaving => leaving.set ?_
    · rintro old atId own ⟨open_, already⟩
      cases Option.some.inj (found.symm.trans atId)
      exact ⟨own.same identity, connected ▸ open_, accepted already⟩
    · rintro old atId own member
      cases Option.some.inj (found.symm.trans atId)
      exact ⟨own.same identity, grows _ member⟩

theorem location (invariant : Invariant tenantId driverId s) (found : s.sockets id = some socket)
    (connected : socket.connected = true) (nowMs : Int) (lat lng : Option Rat) :
    Invariant tenantId driverId (s.set id (socket.onLocation nowMs lat lng)) := by
  have sound := invariant.sound id socket found
  rcases socket.onLocation_cases nowMs lat lng with ⟨rateLimiter, kept⟩ | ⟨rateLimiter, location, driver, _, issued⟩
  · rw [kept]
    exact invariant.update found rfl rfl ⟨sound.driver, sound.opened, sound.closed⟩ (fun already => already)
      (fun _ member => member) Or.inl
  · rw [issued]
    refine invariant.update found rfl rfl (sound.accepts connected driver rateLimiter location) (fun _ => rfl) ?_ ?_
    · exact fun command member => List.mem_append_left _ member
    · exact fun _ => Or.inr ⟨location, List.mem_append_right _ (List.mem_singleton_self _)⟩

theorem disconnect (invariant : Invariant tenantId driverId s) (found : s.sockets id = some socket)
    (connected : socket.connected = true) : Invariant tenantId driverId (s.set id socket.onDisconnect) where
  sound := invariant.sound_set ((invariant.sound id socket found).onDisconnect connected)
  present live := by
    have grows : ∀ command ∈ socket.outstanding, command ∈ socket.onDisconnect.outstanding := by
      intro command member
      unfold DeliverySocket.onDisconnect
      split
      · exact List.mem_append_left _ member
      · exact member
    rcases live.cases_set with ⟨_, open_, _⟩ | before
    · rw [socket.onDisconnect_connected] at open_
      cases open_
    · refine (invariant.present before).imp_right fun announced => announced.set ?_
      rintro old atId own ⟨location, member⟩
      cases Option.some.inj (found.symm.trans atId)
      exact ⟨own.same socket.onDisconnect_identity, location, grows _ member⟩
  absent online := by
    have sound := invariant.sound id socket found
    rcases invariant.absent online with ⟨other, old, atOther, own, open_, accepted⟩ | leaving
    · by_cases same : other = id
      · subst same
        cases Option.some.inj (found.symm.trans atOther)
        have closes : socket.onDisconnect = { socket.issue .zrem with connected := false } := if_pos (sound.driver accepted)
        rw [closes]
        exact Or.inr (.of_new own (List.mem_append_right _ (List.mem_singleton_self _)))
      · exact Or.inl ⟨other, old, (Function.update_of_ne same ..).trans atOther, own, open_, accepted⟩
    · refine Or.inr (leaving.set ?_)
      rintro old atId own member
      cases Option.some.inj (found.symm.trans atId)
      refine ⟨own.same socket.onDisconnect_identity, ?_⟩
      exact absurd rfl (sound.opened connected _ member).2

section CarryOut

variable {command : LocationCommand} {rest : List LocationCommand}

theorem live_carryOut (found : s.sockets id = some socket) :
    (s.carryOut id socket command rest).Live tenantId driverId ↔ s.Live tenantId driverId := by
  constructor
  · intro live
    rcases Service.Has.cases_set live with ⟨own, holds⟩ | before
    · exact ⟨id, socket, found, own, holds⟩
    · exact before
  · intro live
    refine Service.Has.set live ?_
    rintro old atId own holds
    cases Option.some.inj (found.symm.trans atId)
    exact ⟨own, holds⟩

theorem online_foreign (other : ¬ socket.Of tenantId driverId) :
    (s.carryOut id socket command rest).geo (driversKey tenantId) driverId = s.geo (driversKey tenantId) driverId := by
  refine command.run_other ?_
  rintro ⟨sameKey, rfl⟩
  exact other ⟨(driversKey_inj sameKey).symm, rfl⟩

theorem sound_carryOut (invariant : Invariant tenantId driverId s) (found : s.sockets id = some socket)
    (outstanding : socket.outstanding = command :: rest) (other : Nat) (atOther : DeliverySocket)
    (there : (s.carryOut id socket command rest).sockets other = some atOther) : atOther.Sound :=
  invariant.sound_set ((invariant.sound id socket found).applied outstanding) other atOther there

/-- A removal that is outstanding stays so while another command is applied. -/
theorem leaving_carryOut (found : s.sockets id = some socket) (outstanding : socket.outstanding = command :: rest)
    (position : command ≠ .zrem) (leaving : s.Leaving tenantId driverId) :
    (s.carryOut id socket command rest).Leaving tenantId driverId := by
  refine Service.Has.set leaving ?_
  rintro old atId own member
  cases Option.some.inj (found.symm.trans atId)
  rw [outstanding] at member
  exact ⟨own, (List.mem_cons.mp member).resolve_left position.symm⟩

theorem accepted (invariant : Invariant tenantId driverId s) (found : s.sockets id = some socket)
    (outstanding : socket.outstanding = command :: rest) (own : socket.Of tenantId driverId) (accepts : command.accepts = true) :
    Invariant tenantId driverId (s.carryOut id socket command rest) where
  sound := invariant.sound_carryOut found outstanding
  present _ := by
    obtain ⟨rfl, rfl⟩ := own
    exact Or.inl (LocationCommand.run_accepted accepts)
  absent _ := by
    have sound := invariant.sound id socket found
    have position : command ≠ .zrem := by
      rintro rfl
      cases accepts
    cases connected : socket.connected with
    | true =>
      have already := (sound.opened connected command (outstanding ▸ List.mem_cons_self ..)).1
      exact Or.inl ((live_carryOut found).mpr ⟨id, socket, found, own, connected, already⟩)
    | false =>
      rcases sound.closed connected with none | last
      · rw [outstanding] at none
        cases none
      · exact Or.inr (leaving_carryOut found outstanding position ⟨id, socket, found, own, List.mem_of_getLast? last⟩)

theorem refused (invariant : Invariant tenantId driverId s) (found : s.sockets id = some socket)
    (outstanding : socket.outstanding = command :: rest) (own : socket.Of tenantId driverId) (refuses : command.accepts = false)
    (recovers : Recovers tenantId driverId ⟨s, .apply id, s.carryOut id socket command rest⟩) :
    Invariant tenantId driverId (s.carryOut id socket command rest) where
  sound := invariant.sound_carryOut found outstanding
  present live := by
    rcases recovers id socket command rest rfl found own outstanding refuses ((live_carryOut found).mp live) with
      announced | ⟨position, online⟩
    · exact Or.inr announced
    · have untouched : (s.carryOut id socket command rest).geo = s.geo := LocationCommand.run_refused refuses position
      rw [Service.Online, untouched]
      exact Or.inl online
  absent online := by
    obtain ⟨rfl, rfl⟩ := own
    have position : command ≠ .zrem := by
      rintro rfl
      have gone : (s.carryOut id socket .zrem rest).geo (driversKey socket.identity.tenantId) socket.identity.sub = none :=
        LocationCommand.run_zrem
      rw [Service.Online, gone] at online
      cases online
    have untouched : (s.carryOut id socket command rest).geo = s.geo := LocationCommand.run_refused refuses position
    rw [Service.Online, untouched] at online
    exact (invariant.absent online).imp (live_carryOut found).mpr (leaving_carryOut found outstanding position)

theorem foreign (invariant : Invariant tenantId driverId s) (found : s.sockets id = some socket)
    (outstanding : socket.outstanding = command :: rest) (other : ¬ socket.Of tenantId driverId) :
    Invariant tenantId driverId (s.carryOut id socket command rest) where
  sound := invariant.sound_carryOut found outstanding
  present live := by
    refine (invariant.present ((live_carryOut found).mp live)).imp (fun online => ?_) fun announced => ?_
    · rw [Service.Online, online_foreign other]
      exact online
    · exact Service.Has.set announced fun old atId own _ => absurd (Option.some.inj (found.symm.trans atId) ▸ own) other
  absent online := by
    rw [Service.Online, online_foreign other] at online
    refine (invariant.absent online).imp (live_carryOut found).mpr fun leaving => ?_
    exact Service.Has.set leaving fun old atId own _ => absurd (Option.some.inj (found.symm.trans atId) ▸ own) other

theorem apply {s' : Service} (invariant : Invariant tenantId driverId s) (found : s.sockets id = some socket)
    (step : s.applyNext id socket = some s') (recovers : Recovers tenantId driverId ⟨s, .apply id, s'⟩) :
    Invariant tenantId driverId s' := by
  unfold Service.applyNext at step
  split at step
  · cases step
  · rename_i command rest outstanding
    cases step
    by_cases own : socket.Of tenantId driverId
    · cases accepts : command.accepts with
      | true => exact invariant.accepted found outstanding own accepts
      | false => exact invariant.refused found outstanding own accepts recovers
    · exact invariant.foreign found outstanding own

end CarryOut

theorem step {event : Event} {s' : Service} (invariant : Invariant tenantId driverId s) (step : s.step event = some s')
    (recovers : Recovers tenantId driverId ⟨s, event, s'⟩) : Invariant tenantId driverId s' := by
  cases event with
  | connect id identity =>
    simp only [Service.step] at step
    split at step
    · cases step
    · rename_i unused
      cases step
      exact invariant.connect identity unused
  | location id nowMs lat lng =>
    simp only [Service.step] at step
    split at step
    · cases step
    · rename_i socket found
      split at step
      · rename_i connected
        cases step
        exact invariant.location found connected nowMs lat lng
      · cases step
  | disconnect id =>
    simp only [Service.step] at step
    split at step
    · cases step
    · rename_i socket found
      split at step
      · rename_i connected
        cases step
        exact invariant.disconnect found connected
      · cases step
  | apply id =>
    simp only [Service.step] at step
    split at step
    · cases step
    · rename_i socket found
      exact invariant.apply found step recovers

end Invariant

/-- The runs of the gateway's replicas, from an empty Redis. -/
abbrev Service.Run := History (fun s => ∃ rateLimitPerSec, s = Service.empty rateLimitPerSec)
  fun _ (event : Event) s s' => s.step event = some s'

/-- If every command that takes the driver off the set, or fails to put it on,
while a connected socket has had a location accepted is followed by a further
location, then the set is right whenever no command of the driver is outstanding. -/
theorem Service.Run.online_iff_live {log : List (Commit Service Event)} {s : Service} (run : Service.Run log s)
    (tenantId driverId : String) (recovers : ∀ commit ∈ log, Recovers tenantId driverId commit) :
    ∀ p, Seen log s p → p.Quiet tenantId driverId → (p.Online tenantId driverId ↔ p.Live tenantId driverId) := by
  intro p seen quiet
  have invariant : Invariant tenantId driverId p := by
    refine run.invariant_of ?_ ?_ recovers p seen
    · rintro _ ⟨rateLimitPerSec, rfl⟩
      exact .empty rateLimitPerSec
    · intro _ event s s' step recovers before
      exact before.step step recovers
  exact invariant.online_iff quiet

def sampleDriver : VerifiedIdentity where
  sub := "d1"
  tenantId := "t1"
  roles := [driverRole]

theorem recovers_other {tenantId driverId : String} {commit : Commit Service Event} (other : ∀ id, commit.act ≠ .apply id) :
    Recovers tenantId driverId commit :=
  fun id _ _ _ applied => absurd applied (other id)

theorem recovers_accepted {tenantId driverId : String} {s s' : Service} {id : Nat} {socket : DeliverySocket}
    {command : LocationCommand} {rest : List LocationCommand} (found : s.sockets id = some socket)
    (outstanding : socket.outstanding = command :: rest) (accepts : command.accepts = true) :
    Recovers tenantId driverId ⟨s, .apply id, s'⟩ := by
  rintro other socket' command' rest' applied found' - outstanding' refuses -
  cases applied
  cases found.symm.trans found'
  cases outstanding.symm.trans outstanding'
  cases accepts.symm.trans refuses

/-- The driver's socket is closed after a location was accepted, and a new one
sends a location. -/
theorem reconnectedRun : ∃ log s, Service.Run log s ∧ (∀ commit ∈ log, Recovers "t1" "d1" commit) ∧ s.Quiet "t1" "d1" ∧
    s.Live "t1" "d1" := by
  have start : Service.Run [] (.empty 1) := .start ⟨1, rfl⟩
  have sent := ((start.commit (a := .connect 0 sampleDriver) rfl).commit (a := .location 0 1000 (some 1) (some 2)) rfl).commit
    (a := .apply 0) rfl
  have closed := (sent.commit (a := .disconnect 0) rfl).commit (a := .apply 0) rfl
  have run := ((closed.commit (a := .connect 1 sampleDriver) rfl).commit (a := .location 1 3000 (some 1) (some 2)) rfl).commit
    (a := .apply 1) rfl
  refine ⟨_, _, run, ?_, ?_, ⟨1, _, rfl, ⟨rfl, rfl⟩, rfl, rfl⟩⟩
  · simp only [List.forall_mem_cons]
    refine ⟨recovers_accepted rfl rfl rfl, recovers_other nofun, recovers_other nofun, ?_, recovers_other nofun,
      recovers_accepted rfl rfl rfl, recovers_other nofun, recovers_other nofun, List.forall_mem_nil _⟩
    -- when the removal is applied, the driver has no socket open
    rintro id socket command rest - - - - - ⟨other, live, found, -, connected, -⟩
    match other, found with
    | 0, found =>
      cases found
      cases connected
  · rintro ⟨id, socket, found, _, more⟩
    match id, found with
    | 0, found =>
      cases found
      exact more rfl
    | 1, found =>
      cases found
      exact more rfl

theorem online_iff_live_of_reconnected_sample :
    ∃ log s, Service.Run log s ∧ s.Quiet "t1" "d1" ∧ s.Live "t1" "d1" ∧ (s.Online "t1" "d1" ↔ s.Live "t1" "d1") := by
  obtain ⟨log, s, run, recovers, quiet, live⟩ := reconnectedRun
  exact ⟨log, s, run, quiet, live, Service.Run.online_iff_live run "t1" "d1" recovers s Seen.current quiet⟩

/-- The driver's old socket is closed after the new one has sent a location. -/
theorem offline_after_reconnect :
    ∃ log s, Service.Run log s ∧ s.Quiet "t1" "d1" ∧ ¬ (s.Online "t1" "d1" ↔ s.Live "t1" "d1") := by
  have start : Service.Run [] (.empty 1) := .start ⟨1, rfl⟩
  have first := ((start.commit (a := .connect 0 sampleDriver) rfl).commit (a := .location 0 1000 (some 1) (some 2)) rfl).commit
    (a := .apply 0) rfl
  have second := ((first.commit (a := .connect 1 sampleDriver) rfl).commit (a := .location 1 1000 (some 1) (some 2)) rfl).commit
    (a := .apply 1) rfl
  have run := (second.commit (a := .disconnect 0) rfl).commit (a := .apply 0) rfl
  refine ⟨_, _, run, ?_, ?_⟩
  · rintro ⟨id, socket, found, _, more⟩
    match id, found with
    | 0, found =>
      cases found
      exact more rfl
    | 1, found =>
      cases found
      exact more rfl
  · intro same
    have online := same.mpr ⟨1, _, rfl, ⟨rfl, rfl⟩, rfl, rfl⟩
    cases online

end FoodDelivery.Delivery
