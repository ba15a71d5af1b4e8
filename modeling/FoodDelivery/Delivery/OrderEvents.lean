import FoodDelivery.Delivery.Realtime

namespace FoodDelivery.Delivery.Realtime

open CommitLog Settings
open Messaging (EventType)

def ServerEvent.isAssigned : ServerEvent → Bool
  | .assigned _ _ => true
  | _ => false

namespace State

def holder (s : State) (tenantId : TenantId) (orderId : String) : Option String :=
  s.redis.hash (assignHashKey tenantId) orderId

/-- How often an order's driver has been announced. -/
def announcements (s : State) (tenantId : TenantId) (orderId : String) : Nat :=
  s.broadcasts.countP fun broadcast => broadcast.room = orderRoom tenantId.text orderId ∧ broadcast.event.isAssigned

end State

def Handled (log : List (Commit State Event)) (tenantId : TenantId) (eventType : EventType) (orderId : String) : Prop :=
  ∃ c ∈ log, c.act = .handle tenantId eventType (some orderId)

/-- No order is both confirmed and cancelled. -/
def OneEnd (log : List (Commit State Event)) : Prop :=
  ∀ tenantId orderId, Handled log tenantId .orderConfirmed orderId → ¬ Handled log tenantId .orderCancelled orderId

variable {log : List (Commit State Event)} {s s' : State} {act : Event} {tenantId : TenantId} {orderId : String}

theorem Handled.commit {eventType : EventType} (handled : Handled log tenantId eventType orderId) :
    Handled (⟨s, act, s'⟩ :: log) tenantId eventType orderId := by
  obtain ⟨c, member, same⟩ := handled
  exact ⟨c, List.mem_cons_of_mem _ member, same⟩

theorem OneEnd.earlier {c : Commit State Event} (one : OneEnd (c :: log)) : OneEnd log := by
  rintro tenantId orderId ⟨first, member, same⟩ ⟨last, member', same'⟩
  exact one tenantId orderId ⟨first, List.mem_cons_of_mem _ member, same⟩ ⟨last, List.mem_cons_of_mem _ member', same'⟩

section redis

variable {redis redis' : Redis} {owner : TenantId} {other : String}

theorem unbind_elsewhere {driver : String} (elsewhere : ¬ (owner = tenantId ∧ other = orderId)) :
    ((scriptKeys owner).unbind other driver redis).hash (assignHashKey tenantId) orderId =
      redis.hash (assignHashKey tenantId) orderId := by
  by_cases same : tenantId = owner
  · subst same
    exact ((scriptKeys tenantId).unbind_assigned orderId).trans (if_neg fun here => elsewhere ⟨rfl, here.symm⟩)
  · rw [(scriptKeys owner).unbind_hash_other (scriptKeys_apart same).1]

theorem bind_elsewhere {driver : String} (elsewhere : ¬ (owner = tenantId ∧ other = orderId)) :
    ((scriptKeys owner).bind other driver redis).hash (assignHashKey tenantId) orderId =
      redis.hash (assignHashKey tenantId) orderId := by
  by_cases same : tenantId = owner
  · subst same
    exact ((scriptKeys tenantId).bind_assigned orderId).trans (if_neg fun here => elsewhere ⟨rfl, here.symm⟩)
  · rw [(scriptKeys owner).bind_hash_other (scriptKeys_apart same).1]

theorem unassign_elsewhere (elsewhere : ¬ (owner = tenantId ∧ other = orderId)) :
    (RedisAssignmentStore.unassign owner other redis).hash (assignHashKey tenantId) orderId =
      redis.hash (assignHashKey tenantId) orderId := by
  cases assigned : redis.hash (assignHashKey owner) other with
  | none => rw [RedisAssignmentStore.unassign_unassigned assigned]
  | some driver => rw [RedisAssignmentStore.unassign_assigned assigned, unbind_elsewhere elsewhere]

theorem unassign_here : (RedisAssignmentStore.unassign tenantId orderId redis).hash (assignHashKey tenantId) orderId = none := by
  cases assigned : redis.hash (assignHashKey tenantId) orderId with
  | none => rw [RedisAssignmentStore.unassign_unassigned assigned, assigned]
  | some driver =>
    rw [RedisAssignmentStore.unassign_assigned assigned]
    exact ((scriptKeys tenantId).unbind_assigned orderId).trans (if_pos rfl)

/-- A call of `assign` gives at most its own order to a driver, and says so
when it does. -/
theorem assign_cases {candidates : List String} {result : Option AssignmentClaim}
    (run : RedisAssignmentStore.assign owner other candidates redis = (result, redis')) :
    redis' = redis ∧ (∀ claim, result = some claim → claim.created = false) ∨
      ∃ driver, redis.hash (assignHashKey owner) other = none ∧ redis' = (scriptKeys owner).bind other driver redis ∧
        result = some ⟨⟨other, driver⟩, true⟩ := by
  cases assigned : redis.hash (assignHashKey owner) other with
  | some incumbent =>
    rw [RedisAssignmentStore.assign_incumbent assigned] at run
    cases run
    refine Or.inl ⟨rfl, ?_⟩
    intro claim same
    cases same
    rfl
  | none =>
    cases first : candidates.find? (· ∉ redis.set (busyKey owner)) with
    | none =>
      rw [RedisAssignmentStore.assign_none assigned first] at run
      cases run
      exact Or.inl ⟨rfl, nofun⟩
    | some driver =>
      rw [RedisAssignmentStore.assign_free assigned first] at run
      cases run
      exact Or.inr ⟨driver, rfl, rfl, rfl⟩

end redis

theorem countP_append_none {α : Type} {p : α → Bool} {old new : List α} (none : ∀ x ∈ new, p x = false) :
    (old ++ new).countP p = old.countP p := by
  have zero : new.countP p = 0 := List.countP_eq_zero.mpr fun x member => by simp [none x member]
  rw [List.countP_append, zero, Nat.add_zero]

/-- What a step does to one order's assignment: nothing, or a claim gives the
order to a driver and announces it, or the order is cancelled. -/
inductive Effect (tenantId : TenantId) (orderId : String) (act : Event) (s s' : State) : Prop
  | same : s'.holder tenantId orderId = s.holder tenantId orderId →
      s'.announcements tenantId orderId = s.announcements tenantId orderId → Effect tenantId orderId act s s'
  | claimed (candidates : List String) : .claim tenantId orderId candidates ∈ s.tasks → s.holder tenantId orderId = none →
      (s'.holder tenantId orderId).isSome → s'.announcements tenantId orderId = s.announcements tenantId orderId + 1 →
      Effect tenantId orderId act s s'
  | cancelled : act = .handle tenantId .orderCancelled (some orderId) → s'.holder tenantId orderId = none →
      s'.announcements tenantId orderId = s.announcements tenantId orderId → Effect tenantId orderId act s s'

theorem Step.effect (step : Step act s s') (tenantId : TenantId) (orderId : String) : Effect tenantId orderId act s s' := by
  cases step with
  | locate id location orderIds =>
    refine .same rfl (countP_append_none fun broadcast member => ?_)
    obtain ⟨order, -, rfl⟩ := List.mem_map.mp member
    simp [ServerEvent.isAssigned]
  | release owner other named =>
    by_cases here : owner = tenantId ∧ other = orderId
    · obtain ⟨rfl, rfl⟩ := here
      exact .cancelled rfl unassign_here rfl
    · exact .same (unassign_elsewhere here) rfl
  | @claimed _ before after claim redis owner other candidates tasks run =>
    rcases assign_cases run with ⟨rfl, found⟩ | ⟨driver, unassigned, rfl, created⟩
    · refine .same rfl ?_
      simp only [State.announcements, found claim rfl, Bool.false_eq_true, if_false, List.append_nil]
    · cases created
      by_cases here : owner = tenantId ∧ other = orderId
      · obtain ⟨rfl, rfl⟩ := here
        refine .claimed candidates (tasks ▸ List.mem_append_right _ (List.mem_cons_self ..)) unassigned ?_ ?_
        · have bound : ((scriptKeys owner).bind other driver s.redis).hash (assignHashKey owner) other = some driver :=
            ((scriptKeys owner).bind_assigned other).trans (if_pos rfl)
          simp only [State.holder, bound, Option.isSome_some]
        · simp [State.announcements, List.countP_append, ServerEvent.isAssigned]
      · refine .same (bind_elsewhere here) (countP_append_none fun broadcast member => ?_)
        rw [if_pos rfl, List.mem_singleton] at member
        subst member
        refine decide_eq_false fun announced => here ?_
        obtain ⟨tenants, orders⟩ := orderRoom_inj announced.1
        exact ⟨tenants, orders⟩
  | unclaimed owner other candidates tasks run =>
    rcases assign_cases run with ⟨rfl, -⟩ | ⟨driver, -, -, created⟩
    · exact .same rfl rfl
    · cases created
  | _ => exact .same rfl rfl

theorem Step.claims (step : Step act s s') {candidates : List String} (claims : .claim tenantId orderId candidates ∈ s'.tasks) :
    .claim tenantId orderId candidates ∈ s.tasks ∨ act = .handle tenantId .orderConfirmed (some orderId) := by
  have served {before after : List Task} {task : Task} (tasks : s.tasks = before ++ task :: after)
      (member : .claim tenantId orderId candidates ∈ before ++ after) : .claim tenantId orderId candidates ∈ s.tasks :=
    mem_serve tasks member
  cases step with
  | @apply _ _ socket command rest id =>
    rcases List.mem_append.mp claims with old | new
    · exact Or.inl old
    · obtain ⟨location, -, same⟩ := followUp_locate new
      cases same
  | ask id other =>
    rcases List.mem_append.mp claims with old | new
    · exact Or.inl old
    · cases List.mem_singleton.mp new
  | @letIn _ before after socket owner assignment id other tasks =>
    rcases List.mem_append.mp claims with old | later
    · exact Or.inl (served tasks (List.mem_append_left _ old))
    · rcases List.mem_cons.mp later with same | old
      · cases same
      · exact Or.inl (served tasks (List.mem_append_right _ old))
  | turnAway id other tasks => exact Or.inl (served tasks claims)
  | join id other tasks => exact Or.inl (served tasks claims)
  | locate id location orderIds tasks => exact Or.inl (served tasks claims)
  | candidates owner other found =>
    rcases List.mem_append.mp claims with old | new
    · exact Or.inl old
    · cases List.mem_singleton.mp new
      exact Or.inr rfl
  | claimed owner other candidates tasks => exact Or.inl (served tasks claims)
  | unclaimed owner other candidates tasks => exact Or.inl (served tasks claims)
  | fail task tasks => exact Or.inl (served tasks claims)
  | _ => exact Or.inl claims

/-- While no order has two ends, only a confirmed order is given to a driver,
it stays with the driver, and it is announced when it is given. -/
structure Settled (log : List (Commit State Event)) (s : State) (tenantId : TenantId) (orderId : String) : Prop where
  claiming : ∀ candidates, .claim tenantId orderId candidates ∈ s.tasks → Handled log tenantId .orderConfirmed orderId
  confirmed : (s.holder tenantId orderId).isSome → Handled log tenantId .orderConfirmed orderId
  stays : ∀ driverId, WasAssigned log s tenantId orderId driverId → s.holder tenantId orderId = some driverId
  announced : s.announcements tenantId orderId ≤ if (s.holder tenantId orderId).isSome then 1 else 0

theorem Settled.step (settled : Settled log s tenantId orderId) (step : Step act s s') (one : OneEnd (⟨s, act, s'⟩ :: log)) :
    Settled (⟨s, act, s'⟩ :: log) s' tenantId orderId := by
  obtain ⟨claiming, confirmed, stays, announced⟩ := settled
  have claims : ∀ candidates, .claim tenantId orderId candidates ∈ s'.tasks →
      Handled (⟨s, act, s'⟩ :: log) tenantId .orderConfirmed orderId := by
    intro candidates member
    rcases step.claims member with old | rfl
    · exact (claiming candidates old).commit
    · exact ⟨_, List.mem_cons_self .., rfl⟩
  -- an order that has had no driver is not in the way of its first one
  have next (held : s.holder tenantId orderId = s'.holder tenantId orderId ∨ s.holder tenantId orderId = none) (driverId : String)
      (was : WasAssigned (⟨s, act, s'⟩ :: log) s' tenantId orderId driverId) : s'.holder tenantId orderId = some driverId := by
    obtain ⟨p, seen, stood⟩ := was
    rcases seen.cases_commit with rfl | earlier
    · exact stood
    · have before := stays driverId ⟨p, earlier, stood⟩
      rcases held with same | none
      · rw [← same, before]
      · cases before.symm.trans none
  cases step.effect tenantId orderId with
  | same holder announcements =>
    refine ⟨claims, ?_, next (Or.inl holder.symm), ?_⟩
    · rw [holder]
      exact fun held => (confirmed held).commit
    · rw [holder, announcements]
      exact announced
  | claimed candidates member none some announcements =>
    refine ⟨claims, fun _ => (claiming candidates member).commit, next (Or.inr none), ?_⟩
    rw [none, Option.isSome_none, if_neg Bool.false_ne_true] at announced
    rw [some, if_pos rfl]
    omega
  | cancelled ends none announcements =>
    have never : s.holder tenantId orderId = Option.none := by
      by_contra held
      have confirmation := confirmed (Option.isSome_iff_ne_none.mpr held)
      exact one tenantId orderId confirmation.commit ⟨_, List.mem_cons_self .., ends⟩
    refine ⟨claims, ?_, next (Or.inr never), ?_⟩
    · rw [none]
      exact nofun
    · rw [none]
      rw [never] at announced
      omega

theorem Run.settled (run : Run log s) (one : OneEnd log) (tenantId : TenantId) (orderId : String) :
    Settled log s tenantId orderId := by
  induction run with
  | start first =>
    obtain ⟨rateLimitPerSec, rfl⟩ := first
    refine ⟨fun _ member => absurd member List.not_mem_nil, nofun, ?_, Nat.zero_le _⟩
    intro driverId was
    obtain ⟨p, seen, stood⟩ := was
    rcases seen with rfl | ⟨c, member, -⟩
    · exact stood
    · cases member
  | commit _ step ih => exact (ih one.earlier).step step one

/-- However often and in whatever order the order events arrive, while no
order is both confirmed and cancelled: an order that is given to a driver
stays with the driver, its driver is announced at most once, a cancelled order
is given to nobody, and no driver is ever given a second order. -/
theorem Run.assigned_once (run : Run log s) (one : OneEnd log) (tenantId : TenantId) (orderId : String) :
    (∀ driverId, WasAssigned log s tenantId orderId driverId → s.holder tenantId orderId = some driverId) ∧
      s.announcements tenantId orderId ≤ 1 ∧
      (Handled log tenantId .orderCancelled orderId → s.holder tenantId orderId = none) ∧
      ∀ other driverId, WasAssigned log s tenantId orderId driverId → WasAssigned log s tenantId other driverId →
        other = orderId := by
  have settled := run.settled one tenantId orderId
  refine ⟨settled.stays, ?_, ?_, ?_⟩
  · have announced := settled.announced
    split at announced <;> omega
  · intro cancelled
    by_contra held
    exact one tenantId orderId (settled.confirmed (Option.isSome_iff_ne_none.mpr held)) cancelled
  · intro other driverId was wasToo
    have holds := settled.stays driverId was
    have holdsToo := (run.settled one tenantId other).stays driverId wasToo
    exact (run.keeps_private.consistent tenantId).oneOrder other orderId driverId holdsToo holds

theorem OneEnd.of_uncancelled (uncancelled : ∀ c ∈ log, ∀ tenantId orderId, c.act ≠ .handle tenantId .orderCancelled orderId) :
    OneEnd log := by
  rintro tenantId orderId - ⟨c, member, cancels⟩
  exact uncancelled c member tenantId _ cancels

/-- The only driver is online and the only order was confirmed to the service twice. -/
theorem twiceConfirmed : ∃ log s, Run log s ∧ OneEnd log ∧ s.holder sampleTenant "o1" = some "d1" := by
  have start : Run [] (State.empty 1) := .start ⟨1, rfl⟩
  have located := ((start.commit (Step.connect 0 sampleDriver rfl)).commit (Step.location 0 1000 (some 1) (some 2) rfl rfl)).commit
    (Step.apply 0 rfl rfl rfl)
  have confirmed := (located.commit (Step.candidates sampleTenant "o1" ["d1"] (by decide) sampleOnline)).commit
    (Step.candidates sampleTenant "o1" ["d1"] (by decide) sampleOnline)
  have claimed := (confirmed.commit (@Step.claimed _ [_] [_] _ sampleAssigned sampleTenant "o1" ["d1"] rfl rfl)).commit
    (@Step.claimed _ [_] [] _ sampleAssigned sampleTenant "o1" ["d1"] rfl rfl)
  refine ⟨_, _, claimed, .of_uncancelled ?_, ((scriptKeys sampleTenant).bind_assigned "o1").trans (if_pos rfl)⟩
  simp

/-- Its driver is announced at most once. -/
theorem assigned_once_of_sample : ∃ log s, Run log s ∧ s.holder sampleTenant "o1" = some "d1" ∧
    s.announcements sampleTenant "o1" ≤ 1 := by
  obtain ⟨log, s, run, one, held⟩ := twiceConfirmed
  exact ⟨log, s, run, held, (Run.assigned_once run one sampleTenant "o1").2.1⟩

end FoodDelivery.Delivery.Realtime
