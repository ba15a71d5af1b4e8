import FoodDelivery.Media.Uploads

namespace FoodDelivery.Media

open CommitLog

/-- What a step makes of the service, and the stage of its call or attempt
that it starts from. -/
inductive Moves (s : Service) : Action → Service → Prop
  | wait {seconds} : Moves s (.wait seconds) { s with now := s.now + seconds }
  | createUpload {tenantId id contentType sizeBytes presigned s'} :
      s.createUpload tenantId id contentType sizeBytes presigned = some s' →
      Moves s (.createUpload tenantId id contentType sizeBytes presigned) s'
  | clientPut {objectKey sizeBytes} : (s.uploadUrls.any fun url => url.objectKey = objectKey ∧ s.now < url.expiresAt) →
      Moves s (.clientPut objectKey sizeBytes) (s.store objectKey (some sizeBytes))
  | complete {call id tenantId} : s.completions call = .idle →
      Moves s (.complete call id tenantId) (s.complete call id tenantId)
  | statObject {call media} : s.completions call = .found media → Moves s (.statObject call) (s.statObject call media)
  | removeObject {call media} : s.completions call = .oversized media →
      Moves s (.removeObject call) ((s.store media.objectKey none).setCall call .idle)
  | saveUploaded {call media} : s.completions call = .fits media → Moves s (.saveUploaded call) (s.saveUploaded call media)
  | enqueue {call media} : s.completions call = .saved media →
      Moves s (.enqueue call) ({ s with jobs := Function.update s.jobs media.id true }.setCall call .idle)
  | abandonCall {call} : Moves s (.abandonCall call) (s.setCall call .idle)
  | startJob {attempt mediaId} : s.jobs mediaId = true → s.attempts attempt = .idle →
      Moves s (.startJob attempt mediaId) (s.startJob attempt mediaId)
  | getObject {attempt media} : s.attempts attempt = .found media → Moves s (.getObject attempt) (s.getObject attempt media)
  | resize {attempt sizeBytes media} : s.attempts attempt = .loaded media →
      Moves s (.resize attempt sizeBytes) (s.setAttempt attempt (.resized media sizeBytes))
  | putObject {attempt media sizeBytes} : s.attempts attempt = .resized media sizeBytes →
      Moves s (.putObject attempt) (s.putObject attempt media sizeBytes)
  | saveReady {attempt media thumbnailKey} : s.attempts attempt = .stored media thumbnailKey →
      Moves s (.saveReady attempt) (s.saveReady attempt media thumbnailKey)
  | abandonAttempt {attempt} : Moves s (.abandonAttempt attempt) (s.setAttempt attempt .idle)

theorem Service.step_moves {s s' : Service} {action : Action} (step : s.step action = some s') : Moves s action s' := by
  cases action with
  | wait seconds =>
    cases step
    exact .wait
  | createUpload tenantId id contentType sizeBytes presigned => exact .createUpload step
  | clientPut objectKey sizeBytes =>
    simp only [Service.step] at step
    split at step
    · rename_i offered
      cases step
      exact .clientPut offered
    · cases step
  | complete call id tenantId =>
    simp only [Service.step] at step
    split at step
    · rename_i idle
      cases step
      exact .complete idle
    · cases step
  | startJob attempt mediaId =>
    simp only [Service.step] at step
    split at step
    · rename_i starts
      cases step
      exact .startJob starts.1 starts.2
    · cases step
  | abandonCall call =>
    cases step
    exact .abandonCall
  | abandonAttempt attempt =>
    cases step
    exact .abandonAttempt
  | statObject call =>
    simp only [Service.step] at step
    split at step
    · rename_i reached
      cases step
      exact .statObject reached
    · cases step
  | removeObject call =>
    simp only [Service.step] at step
    split at step
    · rename_i reached
      cases step
      exact .removeObject reached
    · cases step
  | saveUploaded call =>
    simp only [Service.step] at step
    split at step
    · rename_i reached
      cases step
      exact .saveUploaded reached
    · cases step
  | enqueue call =>
    simp only [Service.step] at step
    split at step
    · rename_i reached
      cases step
      exact .enqueue reached
    · cases step
  | getObject attempt =>
    simp only [Service.step] at step
    split at step
    · rename_i reached
      cases step
      exact .getObject reached
    · cases step
  | resize attempt sizeBytes =>
    simp only [Service.step] at step
    split at step
    · rename_i reached
      cases step
      exact .resize reached
    · cases step
  | putObject attempt =>
    simp only [Service.step] at step
    split at step
    · rename_i reached
      cases step
      exact .putObject reached
    · cases step
  | saveReady attempt =>
    simp only [Service.step] at step
    split at step
    · rename_i reached
      cases step
      exact .saveReady reached
    · cases step

/-- A thumbnail key stands in the rows that are ready, and the object key is
the one the row was created with. -/
structure MediaObject.Shaped (media : MediaObject) : Prop where
  thumbnail : media.thumbnailKey.isSome = media.isReady
  objectKey : media.objectKey = buildObjectKey media.tenantId media.id

/-- A row that a call has read: it is still there, and it has not become pending again. -/
structure Known (rows : Table MediaObject.id) (media : MediaObject) : Prop where
  shaped : media.Shaped
  row : ∃ row, rows.find media.id = some row ∧ row.tenantId = media.tenantId ∧
    (media.isPending = false → row.isPending = false)

def Completion.Sound (s : Service) : Completion → Prop
  | .idle => True
  | .found media => Known s.rows media ∧ media.isReady = false
  | .oversized media => Known s.rows media ∧ media.isReady = false
  | .fits media => Known s.rows media ∧ media.isReady = false
  | .saved media => Known s.rows media ∧ media.isPending = false

def Attempt.Sound (s : Service) : Attempt → Prop
  | .idle => True
  | .found media => Known s.rows media ∧ media.isPending = false
  | .loaded media => Known s.rows media ∧ media.isPending = false
  | .resized media _ => Known s.rows media ∧ media.isPending = false
  | .stored media thumbnailKey => (Known s.rows media ∧ media.isPending = false) ∧ thumbnailKey ∈ s.written

structure Invariant (s : Service) : Prop where
  rows : ∀ id media, s.rows.find id = some media →
    media.Shaped ∧ ∀ key, media.thumbnailKey = some key → key ∈ s.written
  jobs : ∀ id, s.jobs id = true → ∃ row, s.rows.find id = some row ∧ row.isPending = false
  calls : ∀ call, (s.completions call).Sound s
  attempts : ∀ attempt, (s.attempts attempt).Sound s

/-- What has become of the rows and of the keys written later on. -/
structure Later (s s' : Service) : Prop where
  rows : ∀ id row, s.rows.find id = some row → ∃ row', s'.rows.find id = some row' ∧ row'.tenantId = row.tenantId ∧
    (row.isPending = false → row'.isPending = false)
  written : ∀ key ∈ s.written, key ∈ s'.written

theorem Known.later {s s' : Service} {media : MediaObject} (later : Later s s') (known : Known s.rows media) :
    Known s'.rows media := by
  obtain ⟨shaped, row, found, tenant, keeps⟩ := known
  obtain ⟨row', found', tenant', keeps'⟩ := later.rows media.id row found
  exact ⟨shaped, row', found', tenant'.trans tenant, fun notPending => keeps' (keeps notPending)⟩

theorem Completion.Sound.later {s s' : Service} {completion : Completion} (later : Later s s')
    (sound : completion.Sound s) : completion.Sound s' := by
  cases completion with
  | idle => trivial
  | _ => exact ⟨sound.1.later later, sound.2⟩

theorem Attempt.Sound.later {s s' : Service} {attempt : Attempt} (later : Later s s') (sound : attempt.Sound s) :
    attempt.Sound s' := by
  cases attempt with
  | idle => trivial
  | stored => exact ⟨⟨sound.1.1.later later, sound.1.2⟩, later.written _ sound.2⟩
  | _ => exact ⟨sound.1.later later, sound.2⟩

/-- The completion and the attempt hold rows that are known as long as rows
and keys written are only added to. -/
theorem Invariant.kept {s s' : Service} (invariant : Invariant s) (later : Later s s')
    (rows : ∀ id media, s'.rows.find id = some media →
      media.Shaped ∧ ∀ key, media.thumbnailKey = some key → key ∈ s'.written)
    (jobs : s'.jobs = s.jobs) (calls : s'.completions = s.completions) (attempts : s'.attempts = s.attempts) : Invariant s' where
  rows := rows
  jobs id queued := by
    obtain ⟨row, found, notPending⟩ := invariant.jobs id (jobs ▸ queued)
    obtain ⟨row', found', _, keeps⟩ := later.rows id row found
    exact ⟨row', found', keeps notPending⟩
  calls call := calls ▸ (invariant.calls call).later later
  attempts attempt := attempts ▸ (invariant.attempts attempt).later later

theorem Later.of_rows {s s' : Service} (rows : s'.rows = s.rows) (written : ∀ key ∈ s.written, key ∈ s'.written) :
    Later s s' where
  rows _ row found := ⟨row, rows ▸ found, rfl, fun notPending => notPending⟩
  written := written

namespace Invariant

variable {s : Service}

theorem initial (first : s.Initial) : Invariant s := by
  obtain ⟨rows, -, jobs, completions, attempts⟩ := first
  refine ⟨?_, ?_, ?_, ?_⟩
  · intro id media found
    rw [rows] at found
    cases found
  · intro id queued
    rw [jobs] at queued
    cases queued
  · intro call
    rw [completions]
    trivial
  · intro attempt
    rw [attempts]
    trivial

theorem setCall {completion : Completion} (invariant : Invariant s) (call : Nat) (sound : completion.Sound s) :
    Invariant (s.setCall call completion) where
  rows := invariant.rows
  jobs := invariant.jobs
  calls := by
    have later : Later s (s.setCall call completion) := .of_rows rfl fun _ member => member
    refine (Function.forall_update_iff s.completions fun _ completion => completion.Sound _).mpr ⟨sound.later later, ?_⟩
    exact fun other _ => (invariant.calls other).later later
  attempts attempt := (invariant.attempts attempt).later (.of_rows rfl fun _ member => member)

theorem setAttempt {phase : Attempt} (invariant : Invariant s) (attempt : Nat) (sound : phase.Sound s) :
    Invariant (s.setAttempt attempt phase) where
  rows := invariant.rows
  jobs := invariant.jobs
  calls call := (invariant.calls call).later (.of_rows rfl fun _ member => member)
  attempts := by
    have later : Later s (s.setAttempt attempt phase) := .of_rows rfl fun _ member => member
    refine (Function.forall_update_iff s.attempts fun _ phase => phase.Sound _).mpr ⟨sound.later later, ?_⟩
    exact fun other _ => (invariant.attempts other).later later

theorem setJob {queued : Bool} (invariant : Invariant s) (id : PlainId)
    (known : queued = true → ∃ row, s.rows.find id = some row ∧ row.isPending = false) :
    Invariant { s with jobs := Function.update s.jobs id queued } where
  rows := invariant.rows
  jobs := (Function.forall_update_iff s.jobs fun id queued =>
    queued = true → ∃ row, s.rows.find id = some row ∧ row.isPending = false).mpr ⟨known, fun other _ => invariant.jobs other⟩
  calls call := (invariant.calls call).later (.of_rows rfl fun _ member => member)
  attempts attempt := (invariant.attempts attempt).later (.of_rows rfl fun _ member => member)

theorem store (invariant : Invariant s) (key : String) (sizeBytes : Option Nat) : Invariant (s.store key sizeBytes) :=
  invariant.kept (.of_rows rfl fun _ member => member) invariant.rows rfl rfl rfl

theorem write (invariant : Invariant s) (key : String) : Invariant { s with written := key :: s.written } := by
  refine invariant.kept (.of_rows rfl fun _ member => List.mem_cons_of_mem _ member) ?_ rfl rfl rfl
  intro id media found
  obtain ⟨shaped, written⟩ := invariant.rows id media found
  exact ⟨shaped, fun key has => List.mem_cons_of_mem _ (written key has)⟩

end Invariant

theorem Later.save {s : Service} {media : MediaObject}
    (keeps : ∀ row, s.rows.find media.id = some row → media.tenantId = row.tenantId ∧
      (row.isPending = false → media.isPending = false)) : Later s (s.save media) where
  rows id row found := by
    by_cases same : id = media.id
    · subst same
      obtain ⟨tenant, notPending⟩ := keeps row found
      exact ⟨media, s.rows.find_put_self media, tenant, notPending⟩
    · exact ⟨row, (Table.find_put_of_ne same).trans found, rfl, fun notPending => notPending⟩
  written _ member := member

theorem Invariant.save {s : Service} {media : MediaObject} (invariant : Invariant s) (shaped : media.Shaped)
    (written : ∀ key, media.thumbnailKey = some key → key ∈ s.written)
    (keeps : ∀ row, s.rows.find media.id = some row → media.tenantId = row.tenantId ∧
      (row.isPending = false → media.isPending = false)) : Invariant (s.save media) := by
  refine invariant.kept (.save keeps) ?_ rfl rfl rfl
  intro id found atId
  rcases Table.cases_put atId with ⟨_, rfl⟩ | ⟨_, old⟩
  · exact ⟨shaped, written⟩
  · exact invariant.rows id found old

theorem MediaObject.Shaped.markUploaded {media : MediaObject} (shaped : media.Shaped) (pending : media.isPending = true) :
    media.markUploaded.Shaped where
  thumbnail := by
    have noThumbnail := shaped.thumbnail
    simp only [MediaObject.isReady, MediaObject.isPending, beq_iff_eq] at noThumbnail pending
    simp [MediaObject.markUploaded, MediaObject.isReady, noThumbnail, pending]
  objectKey := shaped.objectKey

theorem MediaObject.Shaped.markReady {media : MediaObject} (shaped : media.Shaped) (thumbnailKey : String) :
    (media.markReady thumbnailKey).Shaped where
  thumbnail := rfl
  objectKey := shaped.objectKey

theorem MediaObject.Shaped.noThumbnail {media : MediaObject} (shaped : media.Shaped) (notReady : media.isReady = false) :
    media.thumbnailKey = none := by
  simpa [notReady] using shaped.thumbnail

theorem Known.of_found {s : Service} {id : PlainId} {media : MediaObject} (invariant : Invariant s)
    (found : s.rows.find id = some media) : Known s.rows media :=
  ⟨(invariant.rows id media found).1, media, s.rows.keyed id media found ▸ found, rfl, fun notPending => notPending⟩

theorem Known.stored {s : Service} {media row : MediaObject} (known : Known s.rows media)
    (found : s.rows.find media.id = some row) :
    media.tenantId = row.tenantId ∧ (media.isPending = false → row.isPending = false) := by
  obtain ⟨-, other, atOther, tenant, keeps⟩ := known
  cases Option.some.inj (atOther.symm.trans found)
  exact ⟨tenant.symm, keeps⟩

theorem Service.findById_some {s : Service} {id tenantId : PlainId} {media : MediaObject}
    (found : s.findById id tenantId = some media) : s.rows.find id = some media ∧ media.tenantId = tenantId := by
  simpa [Service.findById, Option.filter_eq_some_iff] using found

namespace Invariant

variable {s : Service}

theorem createUpload {s' : Service} {tenantId id : PlainId} {contentType : String} {sizeBytes : Rat} {presigned : Bool}
    (invariant : Invariant s) (step : s.createUpload tenantId id contentType sizeBytes presigned = some s') : Invariant s' := by
  unfold Service.createUpload at step
  split at step
  · rename_i unused
    have saved : Invariant (s.save (.create id tenantId (buildObjectKey tenantId id) contentType sizeBytes)) := by
      refine invariant.save ⟨rfl, rfl⟩ nofun fun row found => ?_
      cases unused.symm.trans found
    cases step
    split
    · exact ⟨saved.rows, saved.jobs, saved.calls, saved.attempts⟩
    · exact saved
  · cases step

theorem complete (invariant : Invariant s) (call : Nat) (id tenantId : PlainId) : Invariant (s.complete call id tenantId) := by
  unfold Service.complete
  split
  · exact invariant
  · rename_i media found
    split
    · exact invariant
    · rename_i notReady
      exact invariant.setCall call ⟨.of_found invariant (Service.findById_some found).1, Bool.not_eq_true _ ▸ notReady⟩

theorem statObject {media : MediaObject} {call : Nat} (invariant : Invariant s)
    (reached : s.completions call = .found media) : Invariant (s.statObject call media) := by
  have sound : (Completion.found media).Sound s := reached ▸ invariant.calls call
  unfold Service.statObject
  split
  · exact invariant.setCall call trivial
  · split
    · exact invariant.setCall call sound
    · exact invariant.setCall call sound

theorem saveUploaded {media : MediaObject} {call : Nat} (invariant : Invariant s)
    (reached : s.completions call = .fits media) : Invariant (s.saveUploaded call media) := by
  obtain ⟨known, notReady⟩ : (Completion.fits media).Sound s := reached ▸ invariant.calls call
  unfold Service.saveUploaded
  split
  · rename_i pending
    have noThumbnail := known.shaped.noThumbnail notReady
    have keeps (row : MediaObject) (found : s.rows.find media.id = some row) :
        media.tenantId = row.tenantId ∧ (row.isPending = false → media.markUploaded.isPending = false) :=
      ⟨(known.stored found).1, fun _ => rfl⟩
    have saved : Invariant (s.save media.markUploaded) := by
      refine invariant.save (known.shaped.markUploaded pending) (fun key has => ?_) keeps
      cases noThumbnail.symm.trans has
    exact saved.setCall call ⟨.of_found saved (s.rows.find_put_self media.markUploaded), rfl⟩
  · rename_i notPending
    exact invariant.setCall call ⟨known, Bool.not_eq_true _ ▸ notPending⟩

theorem enqueue {media : MediaObject} {call : Nat} (invariant : Invariant s) (reached : s.completions call = .saved media) :
    Invariant ({ s with jobs := Function.update s.jobs media.id true }.setCall call .idle) := by
  obtain ⟨known, notPending⟩ : (Completion.saved media).Sound s := reached ▸ invariant.calls call
  obtain ⟨row, found, _, keeps⟩ := known.row
  exact (invariant.setJob media.id fun _ => ⟨row, found, keeps notPending⟩).setCall call trivial

theorem startJob {mediaId : PlainId} {attempt : Nat} (invariant : Invariant s) (queued : s.jobs mediaId = true) :
    Invariant (s.startJob attempt mediaId) := by
  unfold Service.startJob
  split
  · exact invariant
  · rename_i media found
    split
    · exact invariant.setJob mediaId nofun
    · obtain ⟨row, atId, notPending⟩ := invariant.jobs mediaId queued
      cases Option.some.inj (found.symm.trans atId)
      exact invariant.setAttempt attempt ⟨.of_found invariant found, notPending⟩

theorem getObject {media : MediaObject} {attempt : Nat} (invariant : Invariant s)
    (reached : s.attempts attempt = .found media) : Invariant (s.getObject attempt media) := by
  have sound : (Attempt.found media).Sound s := reached ▸ invariant.attempts attempt
  unfold Service.getObject
  split
  · exact invariant.setAttempt attempt trivial
  · split
    · exact invariant.setAttempt attempt trivial
    · exact invariant.setAttempt attempt sound

theorem putObject {media : MediaObject} {attempt sizeBytes : Nat} (invariant : Invariant s)
    (reached : s.attempts attempt = .resized media sizeBytes) : Invariant (s.putObject attempt media sizeBytes) := by
  obtain ⟨known, notPending⟩ : (Attempt.resized media sizeBytes).Sound s := reached ▸ invariant.attempts attempt
  have stored := (invariant.store (buildThumbnailKey media.tenantId media.id) (some sizeBytes)).write
    (buildThumbnailKey media.tenantId media.id)
  exact stored.setAttempt attempt ⟨⟨known, notPending⟩, List.mem_cons_self ..⟩

theorem saveReady {media : MediaObject} {attempt : Nat} {thumbnailKey : String} (invariant : Invariant s)
    (reached : s.attempts attempt = .stored media thumbnailKey) : Invariant (s.saveReady attempt media thumbnailKey) := by
  obtain ⟨⟨known, notPending⟩, written⟩ : (Attempt.stored media thumbnailKey).Sound s := reached ▸ invariant.attempts attempt
  have saved : Invariant (s.save (media.markReady thumbnailKey)) := by
    refine invariant.save (known.shaped.markReady thumbnailKey) ?_ fun row found => ⟨(known.stored found).1, fun _ => rfl⟩
    rintro key has
    cases has
    exact written
  have idle : Attempt.idle.Sound (s.save (media.markReady thumbnailKey)) := trivial
  exact (saved.setAttempt attempt idle).setJob media.id nofun

theorem step {action : Action} {s' : Service} (invariant : Invariant s) (step : s.step action = some s') : Invariant s' := by
  cases Service.step_moves step with
  | wait => exact ⟨invariant.rows, invariant.jobs, invariant.calls, invariant.attempts⟩
  | createUpload created => exact invariant.createUpload created
  | clientPut => exact invariant.store _ _
  | complete => exact invariant.complete _ _ _
  | statObject reached => exact invariant.statObject reached
  | removeObject => exact (invariant.store _ none).setCall _ trivial
  | saveUploaded reached => exact invariant.saveUploaded reached
  | enqueue reached => exact invariant.enqueue reached
  | abandonCall => exact invariant.setCall _ trivial
  | startJob queued => exact invariant.startJob queued
  | getObject reached => exact invariant.getObject reached
  | @resize attempt _ media reached =>
    have sound : (Attempt.loaded media).Sound s := reached ▸ invariant.attempts attempt
    exact invariant.setAttempt attempt sound
  | putObject reached => exact invariant.putObject reached
  | saveReady reached => exact invariant.saveReady reached
  | abandonAttempt => exact invariant.setAttempt _ trivial

end Invariant

/-- What holds in every state of every run. -/
theorem Run.invariant_of_run {log : List (Commit Service Action)} {s : Service} (run : Run log s) : Invariant s :=
  run.invariant (fun _ => Invariant.initial) fun _ _ _ _ step invariant => invariant.step step

/-- The writes of a row. -/
inductive RowWrite (s : Service) : Action → MediaObject → Prop
  | created {tenantId id contentType sizeBytes presigned} : s.rows.find id = none →
      RowWrite s (.createUpload tenantId id contentType sizeBytes presigned)
        (.create id tenantId (buildObjectKey tenantId id) contentType sizeBytes)
  | uploaded {call media} : s.completions call = .fits media → media.isPending = true →
      RowWrite s (.saveUploaded call) media.markUploaded
  | ready {attempt media thumbnailKey} : s.attempts attempt = .stored media thumbnailKey →
      RowWrite s (.saveReady attempt) (media.markReady thumbnailKey)

/-- The writes of an object, and its removal. -/
inductive ObjectWrite (s : Service) : Action → String → Option Nat → Prop
  | uploaded {objectKey sizeBytes} : ObjectWrite s (.clientPut objectKey sizeBytes) objectKey (some sizeBytes)
  | removed {call media} : s.completions call = .oversized media → ObjectWrite s (.removeObject call) media.objectKey none
  | thumbnail {attempt media sizeBytes} : s.attempts attempt = .resized media sizeBytes →
      ObjectWrite s (.putObject attempt) (buildThumbnailKey media.tenantId media.id) (some sizeBytes)

/-- All that a step may change of the rows and of the objects. -/
structure Change (s : Service) (action : Action) (s' : Service) : Prop where
  maxBytes : s'.maxBytes = s.maxBytes
  rows : (∀ media, ¬ RowWrite s action media) ∧ s'.rows = s.rows ∨
    ∃ media, RowWrite s action media ∧ s'.rows = s.rows.put media
  objects : (∀ key sizeBytes, ¬ ObjectWrite s action key sizeBytes) ∧ s'.objects = s.objects ∨
    ∃ key sizeBytes, ObjectWrite s action key sizeBytes ∧ s'.objects = Function.update s.objects key sizeBytes

theorem Service.step_change {s s' : Service} {action : Action} (step : s.step action = some s') : Change s action s' := by
  cases Service.step_moves step with
  | wait => exact ⟨rfl, .inl ⟨nofun, rfl⟩, .inl ⟨nofun, rfl⟩⟩
  | createUpload created =>
    unfold Service.createUpload at created
    split at created
    · rename_i unused
      cases created
      split
      · exact ⟨rfl, .inr ⟨_, .created unused, rfl⟩, .inl ⟨nofun, rfl⟩⟩
      · exact ⟨rfl, .inr ⟨_, .created unused, rfl⟩, .inl ⟨nofun, rfl⟩⟩
    · cases created
  | clientPut => exact ⟨rfl, .inl ⟨nofun, rfl⟩, .inr ⟨_, _, .uploaded, rfl⟩⟩
  | complete =>
    unfold Service.complete
    split
    · exact ⟨rfl, .inl ⟨nofun, rfl⟩, .inl ⟨nofun, rfl⟩⟩
    · split <;> exact ⟨rfl, .inl ⟨nofun, rfl⟩, .inl ⟨nofun, rfl⟩⟩
  | statObject =>
    unfold Service.statObject
    split
    · exact ⟨rfl, .inl ⟨nofun, rfl⟩, .inl ⟨nofun, rfl⟩⟩
    · split <;> exact ⟨rfl, .inl ⟨nofun, rfl⟩, .inl ⟨nofun, rfl⟩⟩
  | removeObject reached => exact ⟨rfl, .inl ⟨nofun, rfl⟩, .inr ⟨_, _, .removed reached, rfl⟩⟩
  | saveUploaded reached =>
    unfold Service.saveUploaded
    split
    · rename_i pending
      exact ⟨rfl, .inr ⟨_, .uploaded reached pending, rfl⟩, .inl ⟨nofun, rfl⟩⟩
    · rename_i notPending
      refine ⟨rfl, .inl ⟨?_, rfl⟩, .inl ⟨nofun, rfl⟩⟩
      rintro _ (_ | ⟨other, pending⟩)
      cases reached.symm.trans other
      exact notPending pending
  | enqueue => exact ⟨rfl, .inl ⟨nofun, rfl⟩, .inl ⟨nofun, rfl⟩⟩
  | abandonCall => exact ⟨rfl, .inl ⟨nofun, rfl⟩, .inl ⟨nofun, rfl⟩⟩
  | startJob =>
    unfold Service.startJob
    split
    · exact ⟨rfl, .inl ⟨nofun, rfl⟩, .inl ⟨nofun, rfl⟩⟩
    · split <;> exact ⟨rfl, .inl ⟨nofun, rfl⟩, .inl ⟨nofun, rfl⟩⟩
  | getObject =>
    unfold Service.getObject
    split
    · exact ⟨rfl, .inl ⟨nofun, rfl⟩, .inl ⟨nofun, rfl⟩⟩
    · split <;> exact ⟨rfl, .inl ⟨nofun, rfl⟩, .inl ⟨nofun, rfl⟩⟩
  | resize => exact ⟨rfl, .inl ⟨nofun, rfl⟩, .inl ⟨nofun, rfl⟩⟩
  | putObject reached => exact ⟨rfl, .inl ⟨nofun, rfl⟩, .inr ⟨_, _, .thumbnail reached, rfl⟩⟩
  | saveReady reached => exact ⟨rfl, .inr ⟨_, .ready reached, rfl⟩, .inl ⟨nofun, rfl⟩⟩
  | abandonAttempt => exact ⟨rfl, .inl ⟨nofun, rfl⟩, .inl ⟨nofun, rfl⟩⟩

def sampleTenant : PlainId where
  text := "t1"
  plain := by decide

def sampleMedia : PlainId where
  text := "m1"
  plain := by decide

def sampleService : Service where
  maxBytes := 100
  allowedMimes := ["image/png"]
  presignTtlSeconds := 300
  now := 0
  rows := .empty
  objects _ := none
  uploadUrls := []
  jobs _ := false
  completions _ := .idle
  attempts _ := .idle
  written := []

end FoodDelivery.Media
