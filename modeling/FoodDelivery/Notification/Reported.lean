import FoodDelivery.Notification.Delivery

namespace FoodDelivery.NotificationService

open CommitLog

variable {config : Config} {event : OrderEvent} {service service' : Service}

def Failure.Last (config : Config) (failure : Failure) : Prop := config.maxAttempts ≤ failure.attemptsMade

/-- The handler of the last failed attempt has not returned. -/
def Service.Outstanding (config : Config) (service : Service) (id : Uuid) : Prop :=
  ∃ failure ∈ service.failures, failure.Last config ∧ failure.payload.notificationId = id

/-- The job used all its attempts without success, and its payload was parked. -/
def Service.Buried (config : Config) (service : Service) (id : Uuid) : Prop :=
  ∃ job error, service.jobs id = some job ∧ job.phase = .exhausted ∧ config.maxAttempts ≤ job.attemptsMade ∧
    (job.payload, error) ∈ service.notifyDlq

/-- No notification is lost or misreported. -/
structure Service.Reported (config : Config) (event : OrderEvent) (service : Service) : Prop where
  complete : service.acknowledged = true → (notificationType event.eventType).isSome → ∀ channel,
    (service.rows.map (·.channel)).count channel = if config.enabled channel then 1 else 0
  sent : ∀ row ∈ service.rows, row.id ∈ service.marked → row.status = .sent
  dead : ∀ row ∈ service.rows, ¬ service.Outstanding config row.id →
    (row.status = .dead ↔ service.Buried config row.id)
  pursued : service.acknowledged = true → ∀ row ∈ service.rows, row.status ≠ .sent → row.status ≠ .dead →
    (∃ job, service.jobs row.id = some job ∧ job.phase ≠ .exhausted) ∨
      ∃ failure ∈ service.failures, failure.payload.notificationId = row.id

/-- A failure handler comes in time: its update does not find the row SENT,
nor, unless it is the last one's, DEAD. -/
def InTime (config : Config) (commit : Commit Service Action) : Prop :=
  ∀ failure, commit.act = .record failure → ∀ row ∈ commit.before.rows, row.id = failure.payload.notificationId →
    row.status ≠ .sent ∧ (failure.attemptsMade < config.maxAttempts → row.status ≠ .dead)

abbrev Run (config : Config) (event : OrderEvent) : List (Commit Service Action) → Service → Prop :=
  History (· = Service.empty) fun _ action service service' => service.step config event action = some service'

/-- What a dispatch that has created or found the rows can rely on. -/
def Dispatch.Sound (service : Service) : Dispatch → Prop
  | .created => service.processed = true
  | .enqueuing pending => service.processed = true ∧
    ∀ id ∈ service.rows.map (·.id), id ∈ service.enqueued ∨ id ∈ pending.map (·.id)
  | _ => True

/-- The columns of a row that no update writes. -/
def Notification.identity (row : Notification) : Uuid × Uuid × Uuid × ChannelName :=
  (row.id, row.tenantId, row.eventId, row.channel)

theorem updateById_identity (rows : List Notification) (id : Uuid) {write : Notification → Notification}
    (keeps : ∀ row, (write row).identity = row.identity) :
    (updateById rows id write).map Notification.identity = rows.map Notification.identity := by
  rw [updateById, List.map_map]
  refine List.map_congr_left fun row _ => ?_
  simp only [Function.comp_apply]
  split
  · exact keeps row
  · rfl

/-- The rows are created once, and an acknowledged event has all of them enqueued. -/
structure Service.Dispatched (config : Config) (event : OrderEvent) (service : Service) : Prop where
  unprocessed : service.processed = false → service.rows = [] ∧ service.enqueued = []
  channels : service.processed = true → service.rows.map (·.channel) = config.enabledChannels
  owned : ∀ row ∈ service.rows, row.tenantId = event.tenantId ∧ row.eventId = event.eventId
  handled : service.processed = true → (notificationType event.eventType).isSome
  calls : ∀ call, (service.dispatches call).Sound service
  acknowledged : service.acknowledged = true →
    ((notificationType event.eventType).isSome → service.rows.map (·.channel) = config.enabledChannels) ∧
      ∀ id ∈ service.rows.map (·.id), id ∈ service.enqueued

structure Notification.Sound (config : Config) (service : Service) (row : Notification) : Prop where
  marked : row.id ∈ service.marked ↔ row.status = .sent
  fresh : row.id ∉ service.enqueued → row.status = .pending
  dead : row.status = .dead → service.Buried config row.id ∧ ¬ service.Outstanding config row.id
  spent : ∀ job, service.jobs row.id = some job → job.phase = .exhausted →
    row.status = .dead ∨ service.Outstanding config row.id
  gone : row.id ∈ service.enqueued → service.jobs row.id = none → row.status = .sent
  succeeded : ∀ job, service.jobs row.id = some job → job.phase = .succeeded → row.status = .sent

structure Job.Sound (config : Config) (enqueued : List Uuid) (id : Uuid) (job : Job) : Prop where
  payload : job.payload.notificationId = id
  enqueued : id ∈ enqueued
  exhausted : job.phase = .exhausted → config.maxAttempts ≤ job.attemptsMade

structure Failure.Sound (config : Config) (enqueued : List Uuid) (jobs : Uuid → Option Job)
    (notifyDlq : List (NotificationJobPayload × String)) (failure : Failure) : Prop where
  enqueued : failure.payload.notificationId ∈ enqueued
  last : failure.Last config → ∃ job, jobs failure.payload.notificationId = some job ∧
    job.phase = .exhausted ∧ job.payload = failure.payload
  parked : failure.parked = true → (failure.payload, failure.error) ∈ notifyDlq

/-- Rows, jobs and handlers agree on how far each notification is. -/
structure Service.Tracked (config : Config) (service : Service) : Prop where
  marked : ∀ id ∈ service.marked, id ∈ service.enqueued
  rows : ∀ row ∈ service.rows, row.Sound config service
  jobs : ∀ id job, service.jobs id = some job → job.Sound config service.enqueued id
  failures : ∀ failure ∈ service.failures, failure.Sound config service.enqueued service.jobs service.notifyDlq
  once : service.failures.Pairwise fun first second => first.Last config → second.Last config →
    first.payload.notificationId ≠ second.payload.notificationId

theorem Config.count_enabledChannels (config : Config) (channel : ChannelName) :
    config.enabledChannels.count channel = if config.enabled channel then 1 else 0 := by
  have named : channelNames.count channel = 1 := by cases channel <;> rfl
  cases enabled : config.enabled channel with
  | true => exact (List.count_filter enabled).trans named
  | false =>
    refine List.count_eq_zero.mpr fun member => ?_
    simp [Config.enabledChannels, enabled] at member

theorem Dispatch.Sound.mono {stage : Dispatch} (sound : stage.Sound service)
    (processed : service'.processed = service.processed) (ids : service'.rows.map (·.id) = service.rows.map (·.id))
    (enqueued : ∀ id ∈ service.enqueued, id ∈ service'.enqueued) : stage.Sound service' := by
  cases stage with
  | created => exact processed.trans sound
  | enqueuing pending =>
    refine ⟨processed.trans sound.1, fun id member => ?_⟩
    exact (sound.2 id (ids ▸ member)).imp_left (enqueued id)
  | _ => trivial

namespace Service

theorem Tracked.empty : (Service.empty).Tracked config := by
  refine ⟨?_, ?_, ?_, ?_, List.Pairwise.nil⟩ <;> simp [Service.empty]

theorem Dispatched.empty : (Service.empty).Dispatched config event := by
  refine ⟨fun _ => ⟨rfl, rfl⟩, nofun, nofun, nofun, fun _ => trivial, nofun⟩

/-- The rows, jobs and handlers tell what has become of every notification. -/
theorem Reported.of_invariants (dispatched : service.Dispatched config event) (tracked : service.Tracked config) :
    service.Reported config event := by
  refine ⟨?_, ?_, ?_, ?_⟩
  · intro acknowledged handled channel
    rw [(dispatched.acknowledged acknowledged).1 handled]
    exact config.count_enabledChannels channel
  · exact fun row member => (tracked.rows row member).marked.mp
  · intro row member settled
    constructor
    · exact fun dead => ((tracked.rows row member).dead dead).1
    · rintro ⟨job, _, stands, exhausted, -, -⟩
      exact ((tracked.rows row member).spent job stands exhausted).resolve_right settled
  · intro acknowledged row member unsent undead
    have sound := tracked.rows row member
    have enqueued := (dispatched.acknowledged acknowledged).2 row.id (List.mem_map_of_mem member)
    cases stands : service.jobs row.id with
    | none => exact absurd (sound.gone enqueued stands) unsent
    | some job =>
      by_cases exhausted : job.phase = .exhausted
      · rcases sound.spent job stands exhausted with dead | ⟨failure, outstanding, -, same⟩
        · exact absurd dead undead
        · exact Or.inr ⟨failure, outstanding, same⟩
      · exact Or.inl ⟨job, rfl, exhausted⟩

section steps

theorem setJob_jobs (service : Service) (id other : Uuid) (job : Option Job) :
    (service.setJob id job).jobs other = if other = id then job else service.jobs other := Function.update_apply ..

theorem setJob_other {id other : Uuid} {job : Option Job} (different : other ≠ id) :
    (service.setJob id job).jobs other = service.jobs other := (setJob_jobs ..).trans (if_neg different)

theorem setJob_found {id other : Uuid} {job found : Job} (at' : (service.setJob id (some job)).jobs other = some found) :
    other = id ∧ found = job ∨ service.jobs other = some found := by
  rw [setJob_jobs] at at'
  split at at'
  · next same => exact Or.inl ⟨same, (Option.some.inj at').symm⟩
  · exact Or.inr at'

theorem setJob_none {id other : Uuid} {job : Job} (none : (service.setJob id (some job)).jobs other = none) :
    service.jobs other = .none := by
  rw [setJob_jobs] at none
  split at none
  · cases none
  · exact none

theorem Buried.setJob {id other : Uuid} {job : Option Job} (buried : service.Buried config other)
    (different : other ≠ id) : (service.setJob id job).Buried config other := by
  obtain ⟨job, error, stands, rest⟩ := buried
  exact ⟨job, error, (setJob_other different).trans stands, rest⟩

/-- A DEAD row and a last failure belong to a job that is used up. -/
theorem Tracked.dead_ne {id : Uuid} {job : Job} {row : Notification} (tracked : service.Tracked config)
    (stands : service.jobs id = some job) (live : job.phase ≠ .exhausted) (member : row ∈ service.rows)
    (dead : row.status = .dead) : row.id ≠ id := by
  rintro rfl
  obtain ⟨used, _, at', exhausted, -⟩ := ((tracked.rows row member).dead dead).1
  cases stands.symm.trans at'
  exact live exhausted

theorem Tracked.last_ne {id : Uuid} {job : Job} {failure : Failure} (tracked : service.Tracked config)
    (stands : service.jobs id = some job) (live : job.phase ≠ .exhausted) (member : failure ∈ service.failures)
    (last : failure.Last config) : failure.payload.notificationId ≠ id := by
  rintro rfl
  obtain ⟨used, at', exhausted, -⟩ := (tracked.failures failure member).last last
  cases stands.symm.trans at'
  exact live exhausted

/-- A job that is not used up changes to another such. -/
theorem Tracked.advance {id : Uuid} {job job' : Job} (tracked : service.Tracked config) (stands : service.jobs id = some job)
    (live : job.phase ≠ .exhausted) (payload : job'.payload = job.payload) (live' : job'.phase ≠ .exhausted)
    (succeeded : job'.phase = .succeeded → ∀ row ∈ service.rows, row.id = id → row.status = .sent) :
    (service.setJob id (some job')).Tracked config := by
  refine { tracked with rows := ?_, jobs := ?_, failures := ?_ }
  · intro row member
    have sound := tracked.rows row member
    refine ⟨sound.marked, sound.fresh, fun dead => ?_, fun found at' exhausted => ?_, fun enqueued none => ?_,
      fun found at' done => ?_⟩
    · obtain ⟨buried, settled⟩ := sound.dead dead
      exact ⟨buried.setJob (tracked.dead_ne stands live member dead), settled⟩
    · rcases setJob_found at' with ⟨-, rfl⟩ | old
      · exact absurd exhausted live'
      · exact sound.spent found old exhausted
    · exact sound.gone enqueued (setJob_none none)
    · rcases setJob_found at' with ⟨same, rfl⟩ | old
      · exact succeeded done row member same
      · exact sound.succeeded found old done
  · intro other found at'
    rcases setJob_found at' with ⟨rfl, rfl⟩ | old
    · have sound := tracked.jobs other job stands
      exact ⟨payload ▸ sound.payload, sound.enqueued, fun exhausted => absurd exhausted live'⟩
    · exact tracked.jobs other found old
  · intro failure member
    have sound := tracked.failures failure member
    refine { sound with last := fun last => ?_ }
    obtain ⟨used, at', exhausted, same⟩ := sound.last last
    exact ⟨used, (setJob_other (tracked.last_ne stands live member last)).trans at', exhausted, same⟩

theorem Tracked.markSent {id : Uuid} {job : Job} (tracked : service.Tracked config) (stands : service.jobs id = some job)
    (live : job.phase ≠ .exhausted) : (service.markSent id).Tracked config := by
  have enqueued : id ∈ service.enqueued := (tracked.jobs id job stands).enqueued
  refine { tracked with marked := List.forall_mem_cons.mpr ⟨enqueued, tracked.marked⟩, rows := ?_ }
  intro row' member'
  obtain ⟨row, member, rfl⟩ := List.mem_map.mp member'
  have sound := tracked.rows row member
  split
  · rename_i same
    subst same
    refine ⟨by simp [Service.markSent], fun fresh => absurd enqueued fresh, nofun, fun found at' exhausted => ?_,
      fun _ _ => rfl, fun _ _ _ => rfl⟩
    cases stands.symm.trans at'
    exact absurd exhausted live
  · rename_i different
    exact ⟨by simp [Service.markSent, different, sound.marked], sound.fresh, sound.dead, sound.spent, sound.gone,
      sound.succeeded⟩

/-- A failed attempt that was not the last. -/
theorem Tracked.retry {failure : Failure} (tracked : service.Tracked config)
    (enqueued : failure.payload.notificationId ∈ service.enqueued) (early : ¬ failure.Last config)
    (unparked : failure.parked = false) : Tracked config { service with failures := failure :: service.failures } := by
  have same (id : Uuid) : Outstanding config { service with failures := failure :: service.failures } id ↔
      service.Outstanding config id := by simp [Outstanding, early]
  refine { tracked with rows := ?_, failures := ?_, once := ?_ }
  · intro row member
    have sound := tracked.rows row member
    exact { sound with
      dead := fun dead => (sound.dead dead).imp_right fun settled outstanding => settled ((same row.id).mp outstanding)
      spent := fun job stands exhausted => (sound.spent job stands exhausted).imp_right (same row.id).mpr }
  · refine List.forall_mem_cons.mpr ⟨⟨enqueued, fun last => absurd last early, fun parked => ?_⟩, tracked.failures⟩
    simp [unparked] at parked
  · exact List.pairwise_cons.mpr ⟨fun _ _ last => absurd last early, tracked.once⟩

/-- The last failed attempt: the job is used up and its handler starts. -/
theorem Tracked.exhaust {id : Uuid} {job job' : Job} {failure : Failure} (tracked : service.Tracked config)
    (stands : service.jobs id = some job) (live : job.phase ≠ .exhausted) (payload : job'.payload = job.payload)
    (used : job'.phase = .exhausted) (attempts : config.maxAttempts ≤ job'.attemptsMade)
    (carried : failure.payload = job.payload) (last : failure.Last config) (unparked : failure.parked = false) :
    Tracked config { service.setJob id (some job') with failures := failure :: service.failures } := by
  have known := tracked.jobs id job stands
  have own : failure.payload.notificationId = id := carried ▸ known.payload
  refine { tracked with rows := ?_, jobs := ?_, failures := ?_, once := ?_ }
  · intro row member
    have sound := tracked.rows row member
    refine ⟨sound.marked, sound.fresh, fun dead => ?_, fun found at' exhausted => ?_, fun enqueued none => ?_,
      fun found at' done => ?_⟩
    · obtain ⟨buried, settled⟩ := sound.dead dead
      have different := tracked.dead_ne stands live member dead
      refine ⟨buried.setJob different, ?_⟩
      rintro ⟨other, outstanding, otherLast, same⟩
      rcases List.mem_cons.mp outstanding with rfl | old
      · exact different (same.symm.trans own)
      · exact settled ⟨other, old, otherLast, same⟩
    · rcases setJob_found at' with ⟨same, rfl⟩ | old
      · exact Or.inr ⟨failure, List.mem_cons_self .., last, own.trans same.symm⟩
      · refine (sound.spent found old exhausted).imp_right ?_
        rintro ⟨other, outstanding, rest⟩
        exact ⟨other, List.mem_cons_of_mem _ outstanding, rest⟩
    · exact sound.gone enqueued (setJob_none none)
    · rcases setJob_found at' with ⟨-, rfl⟩ | old
      · simp [used] at done
      · exact sound.succeeded found old done
  · intro other found at'
    rcases setJob_found at' with ⟨rfl, rfl⟩ | old
    · exact ⟨payload ▸ known.payload, known.enqueued, fun _ => attempts⟩
    · exact tracked.jobs other found old
  · refine List.forall_mem_cons.mpr ⟨⟨own ▸ known.enqueued, fun _ => ?_, fun parked => ?_⟩, ?_⟩
    · exact ⟨job', by rw [own]; exact (setJob_jobs ..).trans (if_pos rfl), used, payload.trans carried.symm⟩
    · simp [unparked] at parked
    · intro other member
      have sound := tracked.failures other member
      refine { sound with last := fun otherLast => ?_ }
      obtain ⟨old, at', exhausted, same⟩ := sound.last otherLast
      exact ⟨old, (setJob_other (tracked.last_ne stands live member otherLast)).trans at', exhausted, same⟩
  · refine List.pairwise_cons.mpr ⟨fun other member _ otherLast same => ?_, tracked.once⟩
    exact tracked.last_ne stands live member otherLast (same.symm.trans own)

theorem Tracked.fail {id : Uuid} {job : Job} {error : String} (tracked : service.Tracked config)
    (stands : service.jobs id = some job) (live : job.phase ≠ .exhausted) :
    (service.fail config id job error).Tracked config := by
  have known := tracked.jobs id job stands
  unfold Service.fail
  by_cases early : job.attemptsMade + 1 < config.maxAttempts
  · simp only [early, if_true]
    have waiting :
        (service.setJob id (some { job with attemptsMade := job.attemptsMade + 1, phase := .waiting })).Tracked config :=
      tracked.advance stands live rfl nofun nofun
    exact waiting.retry (known.payload.symm ▸ known.enqueued) (Nat.not_le_of_lt early) rfl
  · simp only [early, if_false]
    have late : config.maxAttempts ≤ job.attemptsMade + 1 := by omega
    exact tracked.exhaust stands live rfl rfl late rfl late rfl

theorem Tracked.complete {id : Uuid} {job : Job} (tracked : service.Tracked config) (stands : service.jobs id = some job)
    (succeeded : job.phase = .succeeded) : (service.setJob id none).Tracked config := by
  have live : job.phase ≠ .exhausted := by simp [succeeded]
  have kept {other : Uuid} {found : Job} (at' : (service.setJob id none).jobs other = some found) :
      service.jobs other = some found := by
    rw [setJob_jobs] at at'
    split at at'
    · cases at'
    · exact at'
  refine { tracked with rows := ?_, jobs := ?_, failures := ?_ }
  · intro row member
    have sound := tracked.rows row member
    refine { sound with dead := fun dead => ?_, spent := ?_, gone := fun enqueued none => ?_, succeeded := ?_ }
    · obtain ⟨buried, settled⟩ := sound.dead dead
      exact ⟨buried.setJob (tracked.dead_ne stands live member dead), settled⟩
    · exact fun found at' => sound.spent found (kept at')
    · rw [setJob_jobs] at none
      split at none
      · rename_i same
        subst same
        exact sound.succeeded job stands succeeded
      · exact sound.gone enqueued none
    · exact fun found at' => sound.succeeded found (kept at')
  · exact fun other found at' => tracked.jobs other found (kept at')
  · intro failure member
    have sound := tracked.failures failure member
    refine { sound with last := fun last => ?_ }
    obtain ⟨used, at', rest⟩ := sound.last last
    exact ⟨used, (setJob_other (tracked.last_ne stands live member last)).trans at', rest⟩

theorem Tracked.park {failure : Failure} (tracked : service.Tracked config) (member : failure ∈ service.failures) :
    Tracked config { service with
      notifyDlq := (failure.payload, failure.error) :: service.notifyDlq
      failures := { failure with parked := true } :: service.failures.erase failure } := by
  have order : service.failures.Perm (failure :: service.failures.erase failure) := List.perm_cons_erase member
  have same (id : Uuid) : Outstanding config { service with
      notifyDlq := (failure.payload, failure.error) :: service.notifyDlq
      failures := { failure with parked := true } :: service.failures.erase failure } id ↔
      service.Outstanding config id := by
    simp [Outstanding, order.mem_iff, Failure.Last]
  refine { tracked with rows := ?_, failures := ?_, once := ?_ }
  · intro row inside
    have sound := tracked.rows row inside
    refine { sound with dead := fun dead => ?_, spent := fun job stands used => ?_ }
    · obtain ⟨⟨job, error, stands, used, attempts, parked⟩, settled⟩ := sound.dead dead
      exact ⟨⟨job, error, stands, used, attempts, List.mem_cons_of_mem _ parked⟩,
        fun outstanding => settled ((same row.id).mp outstanding)⟩
    · exact (sound.spent job stands used).imp_right (same row.id).mpr
  · have sound := tracked.failures failure member
    refine List.forall_mem_cons.mpr ⟨⟨sound.enqueued, sound.last, fun _ => List.mem_cons_self ..⟩, ?_⟩
    intro other inside
    have sound := tracked.failures other (List.mem_of_mem_erase inside)
    exact { sound with parked := fun parked => List.mem_cons_of_mem _ (sound.parked parked) }
  · have once := (order.pairwise_iff fun apart last last' => (apart last' last).symm).mp tracked.once
    rw [List.pairwise_cons] at once ⊢
    exact once

theorem Outstanding.of_record {failure : Failure} {id : Uuid}
    (outstanding : (service.record config failure).Outstanding config id) : service.Outstanding config id := by
  obtain ⟨other, inside, rest⟩ := outstanding
  exact ⟨other, List.mem_of_mem_erase inside, rest⟩

theorem Outstanding.record {failure : Failure} {id : Uuid} (outstanding : service.Outstanding config id)
    (different : failure.Last config → id ≠ failure.payload.notificationId) :
    (service.record config failure).Outstanding config id := by
  obtain ⟨other, inside, last, own⟩ := outstanding
  refine ⟨other, (List.mem_erase_of_ne ?_).mpr inside, last, own⟩
  rintro rfl
  exact different last own.symm

theorem Tracked.record_other {failure : Failure} {row : Notification} (tracked : service.Tracked config)
    (member : row ∈ service.rows) (different : row.id ≠ failure.payload.notificationId) :
    row.Sound config (service.record config failure) := by
  have sound := tracked.rows row member
  exact { sound with
    dead := fun dead => (sound.dead dead).imp_right fun settled outstanding => settled outstanding.of_record
    spent := fun job stands used => (sound.spent job stands used).imp_right fun outstanding =>
      outstanding.record fun _ => different }

/-- An attempt that was not the last leaves its row FAILED. -/
theorem Tracked.record_failed {failure : Failure} {row row' : Notification} (tracked : service.Tracked config)
    (early : failure.attemptsMade < config.maxAttempts) (member : row ∈ service.rows)
    (enqueued : row.id ∈ service.enqueued) (unsent : row.status ≠ .sent) (undead : row.status ≠ .dead)
    (same : row'.id = row.id) (status : row'.status = .failed) : row'.Sound config (service.record config failure) := by
  have sound := tracked.rows row member
  rw [← same] at enqueued
  refine ⟨?_, fun fresh => absurd enqueued fresh, fun dead => ?_, ?_, ?_, ?_⟩
  · have unmarked := mt sound.marked.mp unsent
    simp [Service.record, same, status, unmarked]
  · simp [status] at dead
  · rw [same]
    intro job stands used
    have outstanding := (sound.spent job stands used).resolve_left undead
    exact Or.inr (outstanding.record fun last => absurd last (Nat.not_le_of_lt early))
  · rw [same]
    exact fun enqueued none => absurd (sound.gone enqueued none) unsent
  · rw [same]
    exact fun job stands done => absurd (sound.succeeded job stands done) unsent

/-- The last attempt's handler has parked the payload and leaves its row DEAD. -/
theorem Tracked.record_dead {failure : Failure} {row row' : Notification} (tracked : service.Tracked config)
    (inside : failure ∈ service.failures) (last : failure.Last config) (parked : failure.parked = true)
    (member : row ∈ service.rows) (own : row.id = failure.payload.notificationId) (unsent : row.status ≠ .sent)
    (same : row'.id = row.id) (status : row'.status = .dead) : row'.Sound config (service.record config failure) := by
  have sound := tracked.rows row member
  have known := tracked.failures failure inside
  obtain ⟨job, stands, used, payload⟩ := known.last last
  rw [← own, ← same] at stands
  have order : service.failures.Perm (failure :: service.failures.erase failure) := List.perm_cons_erase inside
  have once := (order.pairwise_iff fun apart last last' => (apart last' last).symm).mp tracked.once
  refine ⟨?_, fun fresh => ?_, fun _ => ⟨?_, ?_⟩, fun _ _ _ => Or.inl status, fun _ none => ?_, fun other stands' done => ?_⟩
  · have unmarked := mt sound.marked.mp unsent
    simp [Service.record, same, status, unmarked]
  · rw [same, own] at fresh
    exact absurd known.enqueued fresh
  · exact ⟨job, failure.error, stands, used, (tracked.jobs _ job stands).exhausted used, payload ▸ known.parked parked⟩
  · rintro ⟨other, outstanding, otherLast, otherOwn⟩
    exact (List.pairwise_cons.mp once).1 other outstanding last otherLast (otherOwn.trans (same.trans own)).symm
  · cases stands.symm.trans none
  · cases stands.symm.trans stands'
    simp [used] at done

/-- The end of a handler that comes in time. -/
theorem Tracked.record {failure : Failure} (tracked : service.Tracked config) (inside : failure ∈ service.failures)
    (due : failure.attemptsMade < config.maxAttempts ∨ failure.parked = true)
    (inTime : ∀ row ∈ service.rows, row.id = failure.payload.notificationId →
      row.status ≠ .sent ∧ (failure.attemptsMade < config.maxAttempts → row.status ≠ .dead)) :
    (service.record config failure).Tracked config := by
  refine { tracked with rows := ?_, failures := ?_, once := tracked.once.sublist List.erase_sublist }
  · intro row' member'
    by_cases early : failure.attemptsMade < config.maxAttempts
    · simp only [Service.record, early, if_true] at member'
      obtain ⟨row, member, rfl⟩ := List.mem_map.mp member'
      split
      · rename_i own
        have enqueued : row.id ∈ service.enqueued := own ▸ (tracked.failures failure inside).enqueued
        exact tracked.record_failed early member enqueued (inTime row member own).1 ((inTime row member own).2 early) rfl rfl
      · rename_i different
        exact tracked.record_other member different
    · simp only [Service.record, early, if_false] at member'
      obtain ⟨row, member, rfl⟩ := List.mem_map.mp member'
      split
      · rename_i own
        exact tracked.record_dead inside (Nat.le_of_not_lt early) (due.resolve_left early) member own (inTime row member own).1
          rfl rfl
      · rename_i different
        exact tracked.record_other member different
  · exact fun other inside => tracked.failures other (List.mem_of_mem_erase inside)

theorem Tracked.enqueue {payload : NotificationJobPayload} (tracked : service.Tracked config) :
    (service.enqueue payload).Tracked config := by
  unfold Service.enqueue
  cases absent : service.jobs payload.notificationId with
  | some job => exact tracked
  | none =>
    have jobs (other : Uuid) := setJob_jobs service payload.notificationId other
      (some { payload, attemptsMade := 0, phase := .waiting })
    have ne {id : Uuid} {job : Job} (stands : service.jobs id = some job) : id ≠ payload.notificationId := by
      rintro rfl
      cases stands.symm.trans absent
    refine { tracked with marked := ?_, rows := ?_, jobs := ?_, failures := ?_ }
    · exact fun id marked => List.mem_cons_of_mem _ (tracked.marked id marked)
    · intro row member
      have sound := tracked.rows row member
      refine ⟨sound.marked, fun fresh => ?_, fun dead => ?_, fun job stands used => ?_, fun enqueued none => ?_,
        fun job stands done => ?_⟩
      · exact sound.fresh fun enqueued => fresh (List.mem_cons_of_mem _ enqueued)
      · obtain ⟨buried, settled⟩ := sound.dead dead
        obtain ⟨job, _, stands, -⟩ := buried
        exact ⟨(sound.dead dead).1.setJob (ne stands), settled⟩
      · change (service.setJob _ _).jobs row.id = _ at stands
        rw [jobs] at stands
        split at stands
        · cases stands
          cases used
        · exact sound.spent job stands used
      · change (service.setJob _ _).jobs row.id = _ at none
        rw [jobs] at none
        split at none
        · cases none
        · rename_i different
          exact sound.gone ((List.mem_cons.mp enqueued).resolve_left different) none
      · change (service.setJob _ _).jobs row.id = _ at stands
        rw [jobs] at stands
        split at stands
        · cases stands
          cases done
        · exact sound.succeeded job stands done
    · intro id job stands
      change (service.setJob _ _).jobs id = _ at stands
      rw [jobs] at stands
      split at stands
      · rename_i same
        cases stands
        exact ⟨same.symm, same ▸ List.mem_cons_self .., nofun⟩
      · have sound := tracked.jobs id job stands
        exact { sound with enqueued := List.mem_cons_of_mem _ sound.enqueued }
    · intro failure inside
      have sound := tracked.failures failure inside
      refine { sound with enqueued := List.mem_cons_of_mem _ sound.enqueued, last := fun last => ?_ }
      obtain ⟨job, stands, rest⟩ := sound.last last
      exact ⟨job, by rw [jobs, if_neg (ne stands), stands], rest⟩

theorem Tracked.create {type : String} {recipient : Recipient} {ids : ChannelName → Uuid}
    (tracked : service.Tracked config) (dispatched : service.Dispatched config event) :
    (service.create config event type recipient ids).Tracked config := by
  cases processed : service.processed with
  | true => simpa only [Service.create, processed, if_true] using tracked
  | false =>
    have none (id : Uuid) : id ∉ service.enqueued := by simp [(dispatched.unprocessed processed).2]
    simp only [Service.create, processed]
    refine { tracked with rows := ?_ }
    intro row member
    obtain ⟨channel, -, rfl⟩ := List.mem_map.mp member
    refine ⟨?_, fun _ => rfl, nofun, fun job stands => ?_, fun enqueued => absurd enqueued (none _), fun job stands => ?_⟩
    · constructor
      · exact fun marked => absurd (tracked.marked _ marked) (none _)
      · nofun
    · exact absurd (tracked.jobs _ job stands).enqueued (none _)
    · exact absurd (tracked.jobs _ job stands).enqueued (none _)

end steps

section dispatches

theorem Dispatched.of_rows {rows : List Notification} {jobs : Uuid → Option Job}
    {notifyDlq : List (NotificationJobPayload × String)} {failures : List Failure} {marked : List Uuid}
    (dispatched : service.Dispatched config event)
    (same : rows.map Notification.identity = service.rows.map Notification.identity) :
    Dispatched config event { service with rows, jobs, notifyDlq, failures, marked } := by
  have ids : rows.map (·.id) = service.rows.map (·.id) := by
    simpa only [List.map_map, Function.comp_def, Notification.identity] using congrArg (List.map Prod.fst) same
  have channels : rows.map (·.channel) = service.rows.map (·.channel) := by
    simpa only [List.map_map, Function.comp_def, Notification.identity] using
      congrArg (List.map fun identity => identity.2.2.2) same
  refine ⟨fun unprocessed => ?_, fun processed => ?_, fun row member => ?_, dispatched.handled, fun call => ?_,
    fun acknowledged => ?_⟩
  · obtain ⟨none, unqueued⟩ := dispatched.unprocessed unprocessed
    rw [none, List.map_nil, List.map_eq_nil_iff] at same
    exact ⟨same, unqueued⟩
  · exact channels.trans (dispatched.channels processed)
  · have identity : row.identity ∈ service.rows.map Notification.identity := same ▸ List.mem_map_of_mem member
    obtain ⟨before, inside, equal⟩ := List.mem_map.mp identity
    simp only [Notification.identity, Prod.mk.injEq] at equal
    obtain ⟨-, tenant, event, -⟩ := equal
    exact ⟨tenant ▸ (dispatched.owned before inside).1, event ▸ (dispatched.owned before inside).2⟩
  · exact (dispatched.calls call).mono rfl ids fun _ enqueued => enqueued
  · exact ⟨fun handled => channels.trans ((dispatched.acknowledged acknowledged).1 handled),
      fun id member => (dispatched.acknowledged acknowledged).2 id (ids ▸ member)⟩

theorem Dispatched.setDispatch {call : Nat} {stage : Dispatch} (dispatched : service.Dispatched config event)
    (sound : stage.Sound service) : (service.setDispatch call stage).Dispatched config event := by
  refine { dispatched with calls := (Function.forall_update_iff service.dispatches fun _ stage => stage.Sound _).mpr ⟨?_, ?_⟩ }
  · exact sound.mono rfl rfl fun _ enqueued => enqueued
  · exact fun other _ => (dispatched.calls other).mono rfl rfl fun _ enqueued => enqueued

theorem Dispatched.acknowledge {call : Nat} (dispatched : service.Dispatched config event)
    (complete : (notificationType event.eventType).isSome → service.rows.map (·.channel) = config.enabledChannels)
    (enqueued : ∀ id ∈ service.rows.map (·.id), id ∈ service.enqueued) :
    Dispatched config event { service.setDispatch call .returned with acknowledged := true } := by
  have returned : (service.setDispatch call .returned).Dispatched config event := dispatched.setDispatch trivial
  refine { returned with calls := fun call => ?_, acknowledged := fun _ => ⟨complete, enqueued⟩ }
  exact (returned.calls call).mono rfl rfl fun _ enqueued => enqueued

theorem Dispatched.create {type : String} {recipient : Recipient} {ids : ChannelName → Uuid}
    (dispatched : service.Dispatched config event) (handled : (notificationType event.eventType).isSome) :
    (service.create config event type recipient ids).Dispatched config event ∧
      (service.create config event type recipient ids).processed = true := by
  cases processed : service.processed with
  | true => simpa only [Service.create, processed, if_true, and_true] using dispatched
  | false =>
    obtain ⟨none, unqueued⟩ := dispatched.unprocessed processed
    simp only [Service.create, processed, Bool.false_eq_true, if_false]
    refine ⟨⟨nofun, fun _ => ?_, ?_, fun _ => handled, fun call => ?_, fun acknowledged => ?_⟩, trivial⟩
    · simp [pendingRow, Function.comp_def]
    · intro row member
      obtain ⟨channel, -, rfl⟩ := List.mem_map.mp member
      exact ⟨rfl, rfl⟩
    · have sound := dispatched.calls call
      cases stage : service.dispatches call with
      | created => simp [stage, Dispatch.Sound, processed] at sound
      | enqueuing pending => simp [stage, Dispatch.Sound, processed] at sound
      | _ => exact trivial
    · have channels := (dispatched.acknowledged acknowledged).1 handled
      rw [none, List.map_nil] at channels
      simp [← channels]

theorem Dispatched.enqueue {payload : NotificationJobPayload} (dispatched : service.Dispatched config event)
    (processed : service.processed = true) : (service.enqueue payload).Dispatched config event := by
  unfold Service.enqueue
  split
  · exact dispatched
  · have more (id : Uuid) (enqueued : id ∈ service.enqueued) : id ∈ payload.notificationId :: service.enqueued :=
      List.mem_cons_of_mem _ enqueued
    refine ⟨fun unprocessed => ?_, dispatched.channels, dispatched.owned, dispatched.handled, fun call => ?_,
      fun acknowledged => ?_⟩
    · cases processed.symm.trans unprocessed
    · exact (dispatched.calls call).mono rfl rfl more
    · exact (dispatched.acknowledged acknowledged).imp_right fun all id member => more id (all id member)

/-- What was found pending and is no longer pending has been enqueued. -/
theorem Dispatched.found (dispatched : service.Dispatched config event) (tracked : service.Tracked config)
    (processed : service.processed = true) :
    (Dispatch.enqueuing (findPendingByEvent service.rows event.tenantId event.eventId)).Sound service := by
  refine ⟨processed, fun id member => ?_⟩
  obtain ⟨row, inside, rfl⟩ := List.mem_map.mp member
  by_cases enqueued : row.id ∈ service.enqueued
  · exact Or.inl enqueued
  · obtain ⟨tenant, event⟩ := dispatched.owned row inside
    have pending := (tracked.rows row inside).fresh enqueued
    exact Or.inr (List.mem_map_of_mem (List.mem_filter.mpr ⟨inside, by simp [tenant, event, pending]⟩))

theorem Tracked.calls {dispatches : Nat → Dispatch} {acknowledged : Bool} (tracked : service.Tracked config) :
    Tracked config { service with dispatches, acknowledged } :=
  { tracked with rows := fun row member => { tracked.rows row member with } }

theorem Dispatched.no_rows (dispatched : service.Dispatched config event)
    (unwanted : notificationType event.eventType = none ∨ config.enabledChannels = []) : service.rows = [] := by
  cases processed : service.processed with
  | false => exact (dispatched.unprocessed processed).1
  | true =>
    have channels := dispatched.channels processed
    have handled := dispatched.handled processed
    rcases unwanted with unknown | none
    · simp [unknown] at handled
    · rwa [none, List.map_eq_nil_iff] at channels

/-- An event of another type, or without channels, is acknowledged at once. -/
theorem Dispatched.skip {call : Nat} (dispatched : service.Dispatched config event)
    (unwanted : notificationType event.eventType = none ∨ config.enabledChannels = []) :
    Dispatched config event { service.setDispatch call .returned with acknowledged := true } := by
  have none := dispatched.no_rows unwanted
  refine dispatched.acknowledge (fun handled => ?_) (by simp [none])
  rcases unwanted with unknown | unwanted
  · simp [unknown] at handled
  · simp [none, unwanted]

theorem Tracked.mem_enqueue {payload : NotificationJobPayload} (tracked : service.Tracked config) {id : Uuid} :
    id ∈ (service.enqueue payload).enqueued ↔ id ∈ service.enqueued ∨ id = payload.notificationId := by
  unfold Service.enqueue
  cases stands : service.jobs payload.notificationId with
  | some job =>
    have enqueued := (tracked.jobs _ job stands).enqueued
    exact ⟨Or.inl, fun either => either.elim (fun known => known) fun same => same ▸ enqueued⟩
  | none => exact List.mem_cons.trans or_comm

@[simp] theorem enqueue_rows (payload : NotificationJobPayload) : (service.enqueue payload).rows = service.rows := by
  unfold Service.enqueue
  split <;> rfl

@[simp] theorem enqueue_processed (payload : NotificationJobPayload) :
    (service.enqueue payload).processed = service.processed := by
  unfold Service.enqueue
  split <;> rfl

theorem Dispatched.enqueued {notification : Notification} {pending : List Notification} (tracked : service.Tracked config)
    (sound : (Dispatch.enqueuing (notification :: pending)).Sound service) :
    (Dispatch.enqueuing pending).Sound (service.enqueue (jobPayload event notification)) := by
  refine ⟨by simp [sound.1], fun id member => ?_⟩
  rw [enqueue_rows] at member
  rw [tracked.mem_enqueue]
  rcases sound.2 id member with enqueued | waiting
  · exact Or.inl (Or.inl enqueued)
  · rw [List.map_cons, List.mem_cons] at waiting
    exact waiting.imp_left Or.inr

end dispatches

section run

/-- A loaded job whose row stands SENT has nothing left to do. -/
theorem Tracked.load {id : Uuid} {job : Job} {row : Notification} (tracked : service.Tracked config)
    (stands : service.jobs id = some job) (phase : job.phase = .started)
    (found : service.rows.find? (fun row => row.id = job.payload.notificationId) = some row) :
    (service.setJob id (some { job with phase := if row.status = .sent then .succeeded else .found })).Tracked config := by
  refine tracked.advance stands (by simp [phase]) rfl ?_ ?_
  · dsimp only
    split <;> nofun
  · intro done other member same
    have sent : row.status = .sent := by
      by_contra unsent
      simp [unsent] at done
    have own : row.id = job.payload.notificationId := by simpa using List.find?_some found
    have marked := (tracked.rows row (List.mem_of_find?_eq_some found)).marked.mpr sent
    rw [own, (tracked.jobs id job stands).payload, ← same] at marked
    exact (tracked.rows other member).marked.mp marked

theorem Tracked.sent {id : Uuid} {job : Job} (tracked : service.Tracked config) (stands : service.jobs id = some job)
    (phase : job.phase = .delivered) :
    ((service.markSent job.payload.notificationId).setJob id (some { job with phase := .succeeded })).Tracked config := by
  have live : job.phase ≠ .exhausted := by simp [phase]
  rw [(tracked.jobs id job stands).payload]
  refine (tracked.markSent stands live).advance stands live rfl nofun ?_
  rintro - row' member' same
  obtain ⟨row, member, rfl⟩ := List.mem_map.mp member'
  split at same
  · rename_i here
    simp [here]
  · contradiction

/-- The answer to the markSent is lost: the row stands SENT and the attempt fails. -/
theorem Tracked.lost {id : Uuid} {job : Job} {error : String} (tracked : service.Tracked config)
    (stands : service.jobs id = some job) (phase : job.phase = .delivered) :
    ((service.markSent job.payload.notificationId).fail config id job error).Tracked config := by
  have live : job.phase ≠ .exhausted := by simp [phase]
  rw [(tracked.jobs id job stands).payload]
  exact (tracked.markSent stands live).fail stands live

theorem record_identity (failure : Failure) :
    (service.record config failure).rows.map Notification.identity = service.rows.map Notification.identity := by
  unfold Service.record
  dsimp only
  split
  · exact updateById_identity _ _ fun _ => rfl
  · exact updateById_identity _ _ fun _ => rfl

theorem Dispatched.step {action : Action} (dispatched : service.Dispatched config event) (tracked : service.Tracked config)
    (step : service.step config event action = some service') : service'.Dispatched config event := by
  cases moves_of_step step with
  | skip _ unwanted => exact dispatched.skip unwanted
  | create _ known =>
    have handled : (notificationType event.eventType).isSome := by simp [known]
    exact (dispatched.create handled).1.setDispatch (dispatched.create handled).2
  | @find call stage =>
    have sound := dispatched.calls call
    rw [stage] at sound
    exact dispatched.setDispatch (dispatched.found tracked sound)
  | @enqueue call _ _ stage =>
    have sound := dispatched.calls call
    rw [stage] at sound
    exact (dispatched.enqueue sound.1).setDispatch (Dispatched.enqueued tracked sound)
  | @acknowledge call stage =>
    have sound := dispatched.calls call
    rw [stage] at sound
    exact dispatched.acknowledge (fun _ => dispatched.channels sound.1) (by simpa using sound.2)
  | abandon => exact dispatched.setDispatch trivial
  | sent | lost => exact dispatched.of_rows (updateById_identity _ _ fun _ => rfl)
  | record => exact dispatched.of_rows (record_identity _)
  | _ => exact dispatched.of_rows rfl

/-- Every step keeps the jobs tracked, a failure handler's last if it comes in time. -/
theorem Tracked.step {action : Action} (dispatched : service.Dispatched config event) (tracked : service.Tracked config)
    (step : service.step config event action = some service') (inTime : InTime config ⟨service, action, service'⟩) :
    service'.Tracked config := by
  cases moves_of_step step with
  | create => exact (tracked.create dispatched).calls
  | enqueue => exact tracked.enqueue.calls
  | skip | find | acknowledge | abandon => exact tracked.calls
  | take stands phase => exact tracked.advance stands (by simp [phase]) rfl nofun nofun
  | load stands phase found => exact tracked.load stands phase found
  | send stands phase => exact tracked.advance stands (by simp [phase]) rfl nofun nofun
  | sent stands phase => exact tracked.sent stands phase
  | lost stands phase => exact tracked.lost stands phase
  | complete stands phase => exact tracked.complete stands phase
  | throw stands phase => exact tracked.fail stands (by rcases phase with phase | phase | phase <;> simp [phase])
  | park inside => exact tracked.park inside
  | record inside due => exact tracked.record inside due (inTime _ rfl)

/-- A handler that comes too late leaves the row misreported. -/
theorem Reported.in_time {action : Action} (tracked : service.Tracked config)
    (step : service.step config event action = some service') (reported : service'.Reported config event) :
    InTime config ⟨service, action, service'⟩ := by
  rintro failure rfl row member own
  cases moves_of_step step
  have sound := tracked.rows row member
  have written (write : Notification → Notification)
      (rows : (service.record config failure).rows = updateById service.rows failure.payload.notificationId write) :
      write row ∈ (service.record config failure).rows := by
    rw [rows]
    exact List.mem_map.mpr ⟨row, member, if_pos own⟩
  by_cases early : failure.attemptsMade < config.maxAttempts
  · have failed := written (fun row => { row with status := .failed, attempts := failure.attemptsMade, error := some failure.error })
      (by simp only [Service.record, early, if_true]; rfl)
    constructor
    · intro sent
      cases reported.sent _ failed (sound.marked.mpr sent)
    · intro _ dead
      obtain ⟨buried, settled⟩ := sound.dead dead
      cases (reported.dead _ failed fun outstanding => settled outstanding.of_record).mpr buried
  · have died := written (fun row => { row with status := .dead, attempts := failure.attemptsMade, error := some failure.error })
      (by simp only [Service.record, early, if_false]; rfl)
    constructor
    · intro sent
      cases reported.sent _ died (sound.marked.mpr sent)
    · exact fun early' => absurd early' early

end run

end Service

/-- Notifications are reported truthfully in every state exactly in the runs
whose failure handlers all come in time. -/
theorem Run.reported_iff_in_time {log : List (Commit Service Action)} (run : Run config event log service) :
    (∀ s, Seen log service s → s.Reported config event) ↔ ∀ commit ∈ log, InTime config commit := by
  refine run.forall_iff_of_invariant (I := fun s => s.Dispatched config event ∧ s.Tracked config) ?_ ?_ ?_ ?_
  · rintro _ rfl
    exact ⟨.empty, .empty⟩
  · rintro s ⟨dispatched, tracked⟩
    exact .of_invariants dispatched tracked
  · rintro _ action s s' step inTime ⟨dispatched, tracked⟩
    exact ⟨dispatched.step tracked step, tracked.step dispatched step inTime⟩
  · rintro _ action s s' step ⟨-, tracked⟩ reported
    exact reported.in_time tracked step

section samples

def sampleConfig : Config where
  maxAttempts := 2
  enabled channel := channel = .email

def sampleEvent : OrderEvent where
  eventId := "event-1"
  eventType := .orderConfirmed
  tenantId := "tenant-a"
  orderId := "order-1"

/-- The event is dispatched, acknowledged and the first attempt fails. -/
def firstAttempt : List Action :=
  [.create 0 ⟨"user-1@example.test", "+15551234567", "token-1"⟩ fun _ => "notification-1", .find 0, .enqueue 0, .acknowledge 0,
    .take "notification-1", .load "notification-1", .throw "notification-1" "smtp timeout"]

def firstFailure : Failure where
  payload := ⟨"notification-1", .email, "order-confirmed", "user-1@example.test", "tenant-a", "order-1"⟩
  attemptsMade := 1
  error := "smtp timeout"
  parked := false

/-- The handler of the first attempt ends before the second begins. -/
theorem reported_of_failed_sample : ∃ log service, Run sampleConfig sampleEvent log service ∧
    service.rows.map (·.status) = [.failed] ∧ ∀ s, Seen log service s → s.Reported sampleConfig sampleEvent := by
  have start : Run sampleConfig sampleEvent [] Service.empty := History.start rfl
  have created := start.commit (a := firstAttempt[0]) rfl
  have dispatched := ((created.commit (a := .find 0) rfl).commit (a := .enqueue 0) rfl).commit (a := .acknowledge 0) rfl
  have taken := (dispatched.commit (a := .take "notification-1") rfl).commit (a := .load "notification-1") rfl
  have thrown := taken.commit (a := .throw "notification-1" "smtp timeout") rfl
  have recorded := thrown.commit (a := .record firstFailure) rfl
  refine ⟨_, _, recorded, rfl, (Run.reported_iff_in_time recorded).mpr ?_⟩
  refine List.forall_mem_cons.mpr ⟨?_, by simp [InTime, firstAttempt]⟩
  rintro failure ⟨⟩ row member -
  cases List.mem_singleton.mp member
  exact ⟨nofun, fun _ => nofun⟩

theorem reported_broken_by_late_handler : ∃ log service, Run sampleConfig sampleEvent log service ∧
    ¬ service.Reported sampleConfig sampleEvent := by
  obtain ⟨log, service, run, failed, marked⟩ : ∃ log service, Run sampleConfig sampleEvent log service ∧
      (∃ row ∈ service.rows, row.id = "notification-1" ∧ row.status = .failed) ∧ service.marked = ["notification-1"] :=
    History.replayed (firstAttempt ++ [.take "notification-1", .load "notification-1", .send "notification-1",
      .markSent "notification-1" none, .complete "notification-1", .record firstFailure])
      ⟨_, rfl, ⟨_, List.mem_cons_self .., rfl, rfl⟩, rfl⟩
  refine ⟨log, service, run, fun reported => ?_⟩
  obtain ⟨row, member, own, failed⟩ := failed
  have sent := reported.sent row member (by simp [own, marked])
  cases failed.symm.trans sent

end samples

end FoodDelivery.NotificationService
