import FoodDelivery.Media.Steps

namespace FoodDelivery.Media

open CommitLog

namespace Service

/-- An object within the limit stands under the key. -/
def Fits (s : Service) (key : String) : Prop := ∃ sizeBytes, s.objects key = some sizeBytes ∧ sizeBytes ≤ s.maxBytes

/-- `GetMediaHandler` hands out a URL for the key. -/
def Offered (s : Service) (key : String) : Prop :=
  ∃ id media, s.rows.find id = some media ∧ media.isPending = false ∧ media.objectKey = key

/-- Whatever is offered is there and within the limit. -/
def ServesWithinLimit (s : Service) : Prop :=
  ∀ id media, s.rows.find id = some media → media.isPending = false → s.Fits media.objectKey

theorem servesWithinLimit_iff (s : Service) : s.ServesWithinLimit ↔ ∀ key, s.Offered key → s.Fits key := by
  constructor
  · rintro serves key ⟨id, media, found, notPending, rfl⟩
    exact serves id media found notPending
  · intro serves id media found notPending
    exact serves _ ⟨id, media, found, notPending, rfl⟩

/-- The URL that `GetMediaHandler` returns leads to an object within the limit. -/
theorem ServesWithinLimit.getMedia {s : Service} {id tenantId : PlainId} {view : MediaView} {url : String}
    (serves : s.ServesWithinLimit) (got : s.getMedia id tenantId = .ok view) (has : view.url = some url) : s.Fits url := by
  unfold Service.getMedia at got
  split at got
  · cases got
  · rename_i media found
    cases got
    simp only at has
    split at has
    · cases has
    · rename_i notPending
      cases has
      exact serves id media (findById_some found).1 (Bool.not_eq_true _ ▸ notPending)

end Service

/-- No client writes an object over the limit where one is offered, no
completion removes one that is offered, and the object that a completion has
checked is still there and no larger when the row is saved. -/
def KeepsServing (commit : Commit Service Action) : Prop :=
  match commit.act with
  | .clientPut objectKey sizeBytes => commit.before.maxBytes < sizeBytes → ¬ commit.before.Offered objectKey
  | .removeObject call => ∀ media, commit.before.completions call = .oversized media → ¬ commit.before.Offered media.objectKey
  | .saveUploaded call => ∀ media, commit.before.completions call = .fits media → media.isPending = true →
      commit.before.Fits media.objectKey
  | _ => True

theorem thumbnailKey_ne_objectKey (tenantId tenantId' id id' : PlainId) :
    buildObjectKey tenantId id ≠ buildThumbnailKey tenantId' id' := by
  intro same
  have noUnderscore : '_' ∉ (buildObjectKey tenantId id).toList := by
    simp [buildObjectKey, tenantId.plain, id.plain]
  rw [same] at noUnderscore
  simp [buildThumbnailKey] at noUnderscore

namespace Service

variable {s s' : Service}

theorem fits_same (objects : s'.objects = s.objects) (maxBytes : s'.maxBytes = s.maxBytes) (key : String) :
    s'.Fits key ↔ s.Fits key := by
  rw [Service.Fits, Service.Fits, objects, maxBytes]

theorem serves_save {media : MediaObject} (serves : s.ServesWithinLimit) (rows : s'.rows = s.rows.put media)
    (objects : s'.objects = s.objects) (maxBytes : s'.maxBytes = s.maxBytes) :
    s'.ServesWithinLimit ↔ (media.isPending = false → s.Fits media.objectKey) := by
  constructor
  · intro serves' notPending
    have stored : s'.rows.find media.id = some media := by
      rw [rows]
      exact s.rows.find_put_self media
    exact (fits_same objects maxBytes _).mp (serves' media.id media stored notPending)
  · intro fits id found atId notPending
    rw [fits_same objects maxBytes]
    rw [rows] at atId
    rcases Table.cases_put atId with ⟨_, rfl⟩ | ⟨_, old⟩
    · exact fits notPending
    · exact serves id found old notPending

theorem serves_write {key : String} {value : Option Nat} (serves : s.ServesWithinLimit) (rows : s'.rows = s.rows)
    (objects : s'.objects = Function.update s.objects key value) (maxBytes : s'.maxBytes = s.maxBytes) :
    s'.ServesWithinLimit ↔ (s.Offered key → ∃ sizeBytes, value = some sizeBytes ∧ sizeBytes ≤ s.maxBytes) := by
  have written : s'.objects key = value := by
    rw [objects]
    exact Function.update_self ..
  constructor
  · rintro serves' ⟨id, media, found, notPending, rfl⟩
    obtain ⟨sizeBytes, stored, within⟩ := serves' id media (rows ▸ found) notPending
    exact ⟨sizeBytes, written.symm.trans stored, maxBytes ▸ within⟩
  · intro fits id media found notPending
    rw [rows] at found
    by_cases here : media.objectKey = key
    · obtain ⟨sizeBytes, stored, within⟩ := fits ⟨id, media, found, notPending, here⟩
      exact ⟨sizeBytes, (here ▸ written).trans stored, maxBytes ▸ within⟩
    · obtain ⟨sizeBytes, stored, within⟩ := serves id media found notPending
      refine ⟨sizeBytes, ?_, maxBytes ▸ within⟩
      rw [objects, Function.update_of_ne here]
      exact stored

end Service

namespace Invariant

variable {s s' : Service}

/-- A step serves what is within the limit exactly when it meets the condition. -/
theorem serves_iff {action : Action} (invariant : Invariant s) (step : s.step action = some s') (serves : s.ServesWithinLimit) :
    s'.ServesWithinLimit ↔ KeepsServing ⟨s, action, s'⟩ := by
  obtain ⟨maxBytes, rows, objects⟩ := Service.step_change step
  rcases objects with ⟨noObject, objects⟩ | ⟨key, value, write, objects⟩
  · rcases rows with ⟨noRow, rows⟩ | ⟨media, write, rows⟩
    · have same : s'.ServesWithinLimit := by
        intro id media found notPending
        rw [rows] at found
        exact (Service.fits_same objects maxBytes _).mpr (serves id media found notPending)
      refine iff_of_true same ?_
      cases action with
      | clientPut objectKey sizeBytes => exact absurd .uploaded (noObject _ _)
      | removeObject call => exact fun media reached => absurd (.removed reached) (noObject _ _)
      | saveUploaded call => exact fun media reached pending => absurd (.uploaded reached pending) (noRow _)
      | _ => trivial
    · rw [Service.serves_save serves rows objects maxBytes]
      cases write with
      | created unused => exact iff_of_true nofun trivial
      | @uploaded call media reached pending =>
        constructor
        · intro fits other reached' _
          cases reached.symm.trans reached'
          exact fits rfl
        · exact fun keeps _ => keeps media reached pending
      | @ready attempt media thumbnailKey reached =>
        refine iff_of_true (fun _ => ?_) trivial
        obtain ⟨⟨known, notPending⟩, -⟩ : (Attempt.stored media thumbnailKey).Sound s := reached ▸ invariant.attempts attempt
        obtain ⟨row, found, tenant, keeps⟩ := known.row
        have sameKey : row.objectKey = media.objectKey := by
          rw [(invariant.rows _ row found).1.objectKey, known.shaped.objectKey, tenant, s.rows.keyed _ row found]
        exact sameKey ▸ serves media.id row found (keeps notPending)
  · have rows : s'.rows = s.rows := by
      rcases rows with ⟨-, rows⟩ | ⟨media, row, -⟩
      · exact rows
      · cases write <;> cases row
    rw [Service.serves_write serves rows objects maxBytes]
    cases write with
    | @uploaded objectKey sizeBytes =>
      constructor
      · intro fits tooLarge offered
        obtain ⟨_, ⟨⟩, within⟩ := fits offered
        exact absurd within (Nat.not_le_of_lt tooLarge)
      · intro keeps offered
        exact ⟨sizeBytes, rfl, Nat.le_of_not_lt fun tooLarge => keeps tooLarge offered⟩
    | @removed call media reached =>
      constructor
      · intro fits other reached' offered
        cases reached.symm.trans reached'
        obtain ⟨_, ⟨⟩, _⟩ := fits offered
      · exact fun keeps offered => absurd offered (keeps media reached)
    | thumbnail reached =>
      refine iff_of_true ?_ trivial
      rintro ⟨id, row, found, -, same⟩
      rw [(invariant.rows id row found).1.objectKey] at same
      exact absurd same (thumbnailKey_ne_objectKey _ _ _ _)

end Invariant

/-- Every media object that is offered has an object within the limit, in
every state of a run, exactly when all steps of the run meet the condition. -/
theorem Run.serves_within_limit_iff {log : List (Commit Service Action)} {s : Service} (run : Run log s) :
    (∀ p, Seen log s p → p.ServesWithinLimit) ↔ ∀ commit ∈ log, KeepsServing commit := by
  refine run.forall_iff ?_ ?_
  · rintro first ⟨rows, -⟩ id media found
    rw [rows] at found
    cases found
  · intro log s action s' history step serves
    exact (Run.invariant_of_run history).serves_iff step serves

theorem uploadedRun : ∃ log s, Run log s ∧ s.Offered "t1/m1" ∧ ∀ commit ∈ log, KeepsServing commit := by
  have start : Run [] sampleService := .start ⟨rfl, rfl, rfl, rfl, rfl⟩
  have created := (start.commit (a := .createUpload sampleTenant sampleMedia "image/png" 8 true) rfl).commit
    (a := .clientPut "t1/m1" 8) rfl
  have run := ((created.commit (a := .complete 0 sampleMedia sampleTenant) rfl).commit (a := .statObject 0) rfl).commit
    (a := .saveUploaded 0) rfl
  refine ⟨_, _, run, ⟨sampleMedia, _, rfl, rfl, rfl⟩, ?_⟩
  simp only [List.forall_mem_cons]
  refine ⟨?_, trivial, trivial, fun tooLarge => absurd tooLarge (by decide), trivial, by simp⟩
  rintro media reached -
  cases reached
  exact ⟨8, rfl, by decide⟩

/-- An upload within the limit that is completed. -/
theorem serves_within_limit_of_uploaded_sample :
    ∃ log s, Run log s ∧ s.Offered "t1/m1" ∧ ∀ p, Seen log s p → p.ServesWithinLimit := by
  obtain ⟨log, s, run, offered, keeps⟩ := uploadedRun
  exact ⟨log, s, run, offered, (Run.serves_within_limit_iff run).mpr keeps⟩

/-- The client replaces the object by one over the limit once it has been
checked; the next completion removes it, and the row stays uploaded. -/
theorem removed_while_offered : ∃ log s, Run log s ∧ ¬ s.ServesWithinLimit ∧ s.objects "t1/m1" = none ∧
    ∃ p, Seen log s p ∧ ¬ p.ServesWithinLimit ∧ p.objects "t1/m1" = some 101 := by
  have start : Run [] sampleService := .start ⟨rfl, rfl, rfl, rfl, rfl⟩
  have created := (start.commit (a := .createUpload sampleTenant sampleMedia "image/png" 8 true) rfl).commit
    (a := .clientPut "t1/m1" 8) rfl
  have completed := (((created.commit (a := .complete 0 sampleMedia sampleTenant) rfl).commit (a := .statObject 0) rfl).commit
    (a := .saveUploaded 0) rfl).commit (a := .enqueue 0) rfl
  have replaced := completed.commit (a := .clientPut "t1/m1" 101) rfl
  have run := ((replaced.commit (a := .complete 1 sampleMedia sampleTenant) rfl).commit (a := .statObject 1) rfl).commit
    (a := .removeObject 1) rfl
  refine ⟨_, _, run, fun serves => ?_, rfl, _, Seen.current.commit.commit.commit, fun serves => ?_, rfl⟩
  · obtain ⟨sizeBytes, stored, -⟩ := serves sampleMedia _ rfl rfl
    cases stored
  · obtain ⟨sizeBytes, stored, within⟩ := serves sampleMedia _ rfl rfl
    cases stored
    exact absurd within (by decide)

end FoodDelivery.Media
