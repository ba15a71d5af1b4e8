import FoodDelivery.Media.Steps

namespace FoodDelivery.Media

open CommitLog

/-- The row of a media object moves forward only: its status does not fall
and its thumbnail key is not cleared. -/
def Forward (id : PlainId) (commit : Commit Service Action) : Prop :=
  ∀ row, commit.before.rows.find id = some row → ∃ row', commit.after.rows.find id = some row' ∧
    row.status.rank ≤ row'.status.rank ∧ (row.thumbnailKey.isSome → row'.thumbnailKey.isSome)

/-- A completion that has read the row while it was pending saves it before
any thumbnail job has. -/
def NotOvertaken (id : PlainId) (commit : Commit Service Action) : Prop :=
  ∀ call media row, commit.act = .saveUploaded call → commit.before.completions call = .fits media →
    media.id = id → media.isPending = true → commit.before.rows.find id = some row → row.isReady = false

/-- The thumbnail of a row that is ready has been put into storage. -/
def Service.Illustrated (s : Service) (id : PlainId) : Prop :=
  ∀ media, s.rows.find id = some media → media.isReady = true →
    ∃ thumbnailKey, media.thumbnailKey = some thumbnailKey ∧ thumbnailKey ∈ s.written

theorem Invariant.illustrated {s : Service} (invariant : Invariant s) (id : PlainId) : s.Illustrated id := by
  intro media found ready
  obtain ⟨shaped, written⟩ := invariant.rows id media found
  obtain ⟨key, has⟩ := Option.isSome_iff_exists.mp (shaped.thumbnail.trans ready)
  exact ⟨key, has, written key has⟩

/-- A step that does not touch the rows. -/
theorem Forward.of_rows {id : PlainId} {s s' : Service} {action : Action} (same : s'.rows = s.rows) :
    Forward id ⟨s, action, s'⟩ :=
  fun row found => ⟨row, same ▸ found, le_rfl, fun has => has⟩

theorem Forward.of_save {id : PlainId} {s s' : Service} {action : Action} {media : MediaObject}
    (saved : s'.rows = s.rows.put media)
    (grows : media.id = id → ∀ row, s.rows.find id = some row → row.status.rank ≤ media.status.rank ∧
      (row.thumbnailKey.isSome → media.thumbnailKey.isSome)) : Forward id ⟨s, action, s'⟩ := by
  intro row found
  rw [saved]
  by_cases same : id = media.id
  · exact ⟨media, Table.find_put_key same.symm, grows same.symm row found⟩
  · exact ⟨row, (Table.find_put_of_ne same).trans found, le_rfl, fun has => has⟩

theorem NotOvertaken.other {id : PlainId} {s s' : Service} {action : Action} (other : ∀ call, action ≠ .saveUploaded call) :
    NotOvertaken id ⟨s, action, s'⟩ :=
  fun call _ _ saves => absurd saves (other call)

namespace Invariant

variable {s s' : Service} {id : PlainId}

/-- A completion takes the row back exactly when a thumbnail job was faster. -/
theorem forward_uploaded {media : MediaObject} {call : Nat} (invariant : Invariant s)
    (reached : s.completions call = .fits media) (pending : media.isPending = true)
    (saved : s'.rows = s.rows.put media.markUploaded) :
    Forward id ⟨s, .saveUploaded call, s'⟩ ↔ NotOvertaken id ⟨s, .saveUploaded call, s'⟩ := by
  constructor
  · rintro forward _ _ row ⟨⟩ other rfl - found
    cases reached.symm.trans other
    obtain ⟨row', found', rank, -⟩ := forward row found
    have stored : s'.rows.find media.id = some media.markUploaded := by
      rw [saved]
      exact s.rows.find_put_self media.markUploaded
    cases Option.some.inj (stored.symm.trans found')
    cases status : row.status with
    | ready =>
      rw [status] at rank
      cases Nat.not_succ_le_self 1 rank
    | _ => simp [MediaObject.isReady, status]
  · intro notOvertaken
    refine .of_save saved ?_
    rintro rfl row found
    have notReady := notOvertaken call media row rfl reached rfl pending found
    have noThumbnail := (invariant.rows _ row found).1.noThumbnail notReady
    refine ⟨?_, by simp [noThumbnail]⟩
    cases status : row.status with
    | ready => simp [MediaObject.isReady, status] at notReady
    | pending => exact Nat.zero_le 1
    | uploaded => exact le_rfl

theorem forward_iff {action : Action} (invariant : Invariant s) (step : s.step action = some s') :
    Forward id ⟨s, action, s'⟩ ↔ NotOvertaken id ⟨s, action, s'⟩ := by
  rcases (Service.step_change step).rows with ⟨noWrite, same⟩ | ⟨media, write, saved⟩
  · refine iff_of_true (.of_rows same) ?_
    rintro call media row rfl reached - pending -
    exact absurd (RowWrite.uploaded reached pending) (noWrite _)
  · cases write with
    | created unused =>
      refine iff_of_true (.of_save saved ?_) (.other nofun)
      rintro rfl row found
      cases unused.symm.trans found
    | uploaded reached pending => exact invariant.forward_uploaded reached pending saved
    | ready reached =>
      exact iff_of_true (.of_save saved fun _ row _ => ⟨row.status.rank_le_ready, fun _ => rfl⟩) (.other nofun)

end Invariant

/-- The row of a media object moves forward in every step of a run, and its
thumbnail stands in storage when it is ready, exactly when no completion saves
a row that it read pending after a thumbnail job has. -/
theorem Run.forward_iff_not_overtaken {log : List (Commit Service Action)} {s : Service} (run : Run log s) (id : PlainId) :
    ((∀ commit ∈ log, Forward id commit) ∧ ∀ p, Seen log s p → p.Illustrated id) ↔
      ∀ commit ∈ log, NotOvertaken id commit := by
  have steps : ∀ commit ∈ log, (Forward id commit ↔ NotOvertaken id commit) := by
    refine run.forall_commits fun log s action s' history step => ?_
    exact (Run.invariant_of_run history).forward_iff step
  have illustrated : ∀ p, Seen log s p → p.Illustrated id := by
    intro p seen
    have invariant : Invariant p :=
      run.invariant_seen (fun _ => Invariant.initial) (fun _ _ _ _ step invariant => invariant.step step) p seen
    exact invariant.illustrated id
  constructor
  · rintro ⟨forward, -⟩ commit member
    exact (steps commit member).mp (forward commit member)
  · intro notOvertaken
    exact ⟨fun commit member => (steps commit member).mpr (notOvertaken commit member), illustrated⟩

theorem readyRun : ∃ log s, Run log s ∧ (s.rows.find sampleMedia).map (·.status) = some .ready ∧
    ∀ commit ∈ log, NotOvertaken sampleMedia commit := by
  have start : Run [] sampleService := .start ⟨rfl, rfl, rfl, rfl, rfl⟩
  have created := (start.commit (a := .createUpload sampleTenant sampleMedia "image/png" 8 true) rfl).commit
    (a := .clientPut "t1/m1" 8) rfl
  have completed := (((created.commit (a := .complete 0 sampleMedia sampleTenant) rfl).commit (a := .statObject 0) rfl).commit
    (a := .saveUploaded 0) rfl).commit (a := .enqueue 0) rfl
  have run := ((((completed.commit (a := .startJob 0 sampleMedia) rfl).commit (a := .getObject 0) rfl).commit
    (a := .resize 0 4) rfl).commit (a := .putObject 0) rfl).commit (a := .saveReady 0) rfl
  refine ⟨_, _, run, rfl, ?_⟩
  simp only [List.forall_mem_cons]
  refine ⟨.other nofun, .other nofun, .other nofun, .other nofun, .other nofun, .other nofun, ?_, .other nofun, .other nofun,
    .other nofun, .other nofun, by simp⟩
  rintro _ media row ⟨⟩ - - - found
  cases found
  rfl

/-- An upload that is completed once. -/
theorem forward_iff_not_overtaken_of_ready_sample :
    ∃ log s, Run log s ∧ (s.rows.find sampleMedia).map (·.status) = some .ready ∧
      (∀ commit ∈ log, Forward sampleMedia commit) ∧ ∀ p, Seen log s p → p.Illustrated sampleMedia := by
  obtain ⟨log, s, run, ready, notOvertaken⟩ := readyRun
  exact ⟨log, s, run, ready, (Run.forward_iff_not_overtaken run sampleMedia).mpr notOvertaken⟩

/-- A second completion that has read the row while it was pending saves it
after the thumbnail job of the first one. -/
theorem ready_taken_back : ∃ log s, Run log s ∧ ∃ commit ∈ log, ¬ Forward sampleMedia commit := by
  have start : Run [] sampleService := .start ⟨rfl, rfl, rfl, rfl, rfl⟩
  have created := (start.commit (a := .createUpload sampleTenant sampleMedia "image/png" 8 true) rfl).commit
    (a := .clientPut "t1/m1" 8) rfl
  have slow := (created.commit (a := .complete 1 sampleMedia sampleTenant) rfl).commit (a := .statObject 1) rfl
  have completed := (((slow.commit (a := .complete 0 sampleMedia sampleTenant) rfl).commit (a := .statObject 0) rfl).commit
    (a := .saveUploaded 0) rfl).commit (a := .enqueue 0) rfl
  have ready := ((((completed.commit (a := .startJob 0 sampleMedia) rfl).commit (a := .getObject 0) rfl).commit
    (a := .resize 0 4) rfl).commit (a := .putObject 0) rfl).commit (a := .saveReady 0) rfl
  have run := ready.commit (a := .saveUploaded 1) rfl
  refine ⟨_, _, run, _, List.mem_cons_self .., fun forward => ?_⟩
  obtain ⟨row', found, rank, -⟩ := forward _ rfl
  cases found
  exact absurd rank (by decide)

end FoodDelivery.Media
