import Mathlib.Data.List.Basic
import FoodDelivery.Lib.History

namespace FoodDelivery.Messaging.RelayLoop

open CommitLog

structure OutboxRelayOptions where
  intervalMs : Nat
  maxBackoffMs : Nat

structure Timeout where
  handle : Nat
  delayMs : Nat
  deriving DecidableEq, Repr

/-- An `OutboxRelay`, the timers of the process that are still to fire and the
ticks that have not ended, by the handles of the timers that began them.
Whether the last call was a `stop` is kept for the statements only. -/
structure OutboxRelay where
  options : OutboxRelayOptions
  timer : Option Nat
  currentBackoffMs : Nat
  pending : List Timeout
  ticks : List Nat
  nextHandle : Nat
  stopped : Bool

/-- A drain takes as long as it likes: its tick settles at any later step. -/
inductive Event
  | start
  | stop
  | fire (handle : Nat)
  | settle (tick : Nat) (succeeds : Bool)

namespace OutboxRelay

def new (options : OutboxRelayOptions) : OutboxRelay where
  options := options
  timer := none
  currentBackoffMs := options.intervalMs
  pending := []
  ticks := []
  nextHandle := 0
  stopped := true

def scheduleNext (relay : OutboxRelay) (delayMs : Nat) : OutboxRelay :=
  { relay with
    timer := some relay.nextHandle
    pending := { handle := relay.nextHandle, delayMs } :: relay.pending
    nextHandle := relay.nextHandle + 1 }

def clearTimeout (relay : OutboxRelay) (handle : Nat) : OutboxRelay :=
  { relay with pending := relay.pending.filter fun timeout => timeout.handle ≠ handle }

def start (relay : OutboxRelay) : OutboxRelay :=
  match relay.timer with
  | some _ => { relay with stopped := false }
  | none => { relay.scheduleNext 0 with stopped := false }

def stop (relay : OutboxRelay) : OutboxRelay :=
  match relay.timer with
  | some handle => { relay.clearTimeout handle with timer := none, stopped := true }
  | none => { relay with stopped := true }

/-- The end of a tick, which arms the next timer. -/
def settled (relay : OutboxRelay) (tick : Nat) (succeeds : Bool) : OutboxRelay :=
  let relay := { relay with ticks := relay.ticks.erase tick }
  if succeeds then
    { relay with currentBackoffMs := relay.options.intervalMs }.scheduleNext relay.options.intervalMs
  else
    { relay.scheduleNext relay.currentBackoffMs with
      currentBackoffMs := min (relay.currentBackoffMs * 2) relay.options.maxBackoffMs }

def step (relay : OutboxRelay) : Event → Option OutboxRelay
  | .start => some relay.start
  | .stop => some relay.stop
  | .fire handle =>
    if handle ∈ relay.pending.map (·.handle) then
      some { relay.clearTimeout handle with ticks := handle :: relay.ticks }
    else none
  | .settle tick succeeds => if tick ∈ relay.ticks then some (relay.settled tick succeeds) else none

/-- At most one polling loop is live. -/
def Single (relay : OutboxRelay) : Prop := relay.pending.length + relay.ticks.length ≤ 1

instance (relay : OutboxRelay) : Decidable relay.Single := inferInstanceAs (Decidable (_ ≤ _))

/-- After a `stop` no timer is armed, so that no drain will begin. -/
def Quiet (relay : OutboxRelay) : Prop := relay.stopped = true → relay.pending = []

end OutboxRelay

abbrev Run (options : OutboxRelayOptions) : List (Commit OutboxRelay Event) → OutboxRelay → Prop :=
  History (· = OutboxRelay.new options) fun _ event relay relay' => relay.step event = some relay'

/-- No tick ends after a `stop`, and no `start` comes while a tick runs on
after one. -/
structure Undisturbed (commit : Commit OutboxRelay Event) : Prop where
  ends : ∀ tick succeeds, commit.act = .settle tick succeeds → commit.before.timer ≠ none
  starts : commit.act = .start → commit.before.timer = none → commit.before.ticks = []

namespace OutboxRelay

variable {relay relay' : OutboxRelay} {event : Event}

/-- The handle is the running flag, and what is armed is armed under it. -/
structure Looping (relay : OutboxRelay) : Prop where
  single : relay.Single
  flag : relay.timer = none ↔ relay.stopped = true
  armed : ∀ timeout ∈ relay.pending, relay.timer = some timeout.handle

theorem Looping.new (options : OutboxRelayOptions) : (new options).Looping :=
  ⟨Nat.zero_le 1, iff_of_true rfl rfl, nofun⟩

theorem Looping.quiet (looping : relay.Looping) : relay.Quiet := by
  intro stopped
  have off := looping.flag.mpr stopped
  rw [List.eq_nil_iff_forall_not_mem]
  intro timeout member
  cases off.symm.trans (looping.armed timeout member)

/-- The only timer is armed where no loop has been live. -/
theorem Looping.armed_alone {delayMs : Nat} (pending : relay.pending = []) (ticks : relay.ticks = []) :
    Looping { relay.scheduleNext delayMs with stopped := false } := by
  refine ⟨?_, iff_of_false (Option.some_ne_none _) Bool.false_ne_true, ?_⟩
  · simp [Single, scheduleNext, pending, ticks]
  · simp [scheduleNext, pending]

theorem Looping.start (looping : relay.Looping) (free : relay.timer = none → relay.ticks = []) : relay.start.Looping := by
  unfold OutboxRelay.start
  split
  · rename_i handle on
    refine ⟨looping.single, iff_of_false ?_ Bool.false_ne_true, looping.armed⟩
    show relay.timer ≠ none
    simp [on]
  · rename_i off
    exact .armed_alone (looping.quiet (looping.flag.mp off)) (free off)

theorem Looping.stop (looping : relay.Looping) : relay.stop.Looping := by
  unfold OutboxRelay.stop
  split
  · rename_i handle on
    have cleared : (relay.clearTimeout handle).pending = [] := by
      refine List.filter_eq_nil_iff.mpr fun timeout member => ?_
      have same := Option.some.inj (on.symm.trans (looping.armed timeout member))
      simp [same]
    refine ⟨?_, iff_of_true rfl rfl, ?_⟩
    · have single : relay.pending.length + relay.ticks.length ≤ 1 := looping.single
      show (relay.clearTimeout handle).pending.length + relay.ticks.length ≤ 1
      rw [cleared, List.length_nil]
      omega
    · show ∀ timeout ∈ (relay.clearTimeout handle).pending, _
      rw [cleared]
      exact nofun
  · rename_i off
    exact ⟨looping.single, iff_of_true off rfl, looping.armed⟩

theorem Looping.fire {handle : Nat} (looping : relay.Looping) (due : handle ∈ relay.pending.map (·.handle)) :
    Looping { relay.clearTimeout handle with ticks := handle :: relay.ticks } := by
  obtain ⟨timeout, member, rfl⟩ := List.mem_map.mp due
  refine ⟨?_, looping.flag, fun other kept => looping.armed other (List.mem_of_mem_filter kept)⟩
  have single : relay.pending.length + relay.ticks.length ≤ 1 := looping.single
  have fewer : (relay.pending.filter fun other => other.handle ≠ timeout.handle).length < relay.pending.length := by
    refine List.length_filter_lt_length_iff_exists.mpr ⟨timeout, member, ?_⟩
    simp
  show (relay.pending.filter fun other => other.handle ≠ timeout.handle).length + (relay.ticks.length + 1) ≤ 1
  omega

/-- A tick ends by arming one timer, whatever becomes of the delay. -/
theorem settled_eq (relay : OutboxRelay) (tick : Nat) (succeeds : Bool) : ∃ delayMs backoffMs,
    relay.settled tick succeeds =
      { ({ relay with ticks := relay.ticks.erase tick }.scheduleNext delayMs) with currentBackoffMs := backoffMs } := by
  cases succeeds with
  | false => exact ⟨_, _, rfl⟩
  | true => exact ⟨_, _, rfl⟩

theorem Looping.settled {tick : Nat} (looping : relay.Looping) (running : tick ∈ relay.ticks) (on : relay.timer ≠ none)
    (succeeds : Bool) : (relay.settled tick succeeds).Looping := by
  obtain ⟨delayMs, backoffMs, same⟩ := relay.settled_eq tick succeeds
  rw [same]
  have single : relay.pending.length + relay.ticks.length ≤ 1 := looping.single
  have some := List.length_pos_of_mem running
  have none : relay.pending = [] := List.length_eq_zero_iff.mp (by omega)
  have last : (relay.ticks.erase tick).length = 0 := by
    rw [List.length_erase_of_mem running]
    omega
  refine ⟨?_, iff_of_false (Option.some_ne_none _) fun stopped => on (looping.flag.mpr stopped), ?_⟩
  · simp [Single, scheduleNext, none, last]
  · simp [scheduleNext, none]

theorem Looping.step (looping : relay.Looping) (step : relay.step event = some relay')
    (undisturbed : Undisturbed ⟨relay, event, relay'⟩) : relay'.Looping := by
  cases event with
  | start =>
    cases step
    exact looping.start (undisturbed.starts rfl)
  | stop =>
    cases step
    exact looping.stop
  | fire handle =>
    simp only [OutboxRelay.step] at step
    split at step
    · rename_i due
      cases step
      exact looping.fire due
    · cases step
  | settle tick succeeds =>
    simp only [OutboxRelay.step] at step
    split at step
    · rename_i running
      cases step
      exact looping.settled running (undisturbed.ends tick succeeds rfl) succeeds
    · cases step

/-- A step after which one loop is live, and none after a `stop`, is undisturbed. -/
theorem Looping.undisturbed (looping : relay.Looping) (step : relay.step event = some relay') (single : relay'.Single)
    (quiet : relay'.Quiet) : Undisturbed ⟨relay, event, relay'⟩ := by
  refine ⟨fun tick succeeds act off => ?_, fun act off => ?_⟩
  · obtain rfl : event = .settle tick succeeds := act
    simp only [OutboxRelay.step] at step
    split at step
    · cases step
      obtain ⟨delayMs, backoffMs, same⟩ := relay.settled_eq tick succeeds
      rw [same] at quiet
      cases quiet (looping.flag.mp off)
    · cases step
  · obtain rfl : event = .start := act
    cases step
    have alone : (relay.start).pending.length + (relay.start).ticks.length ≤ 1 := single
    replace off : relay.timer = none := off
    simp only [OutboxRelay.start, scheduleNext, off, List.length_cons] at alone
    have none : relay.ticks.length = 0 := by omega
    exact List.length_eq_zero_iff.mp none

/-- No drain begins where no timer is armed. -/
theorem Quiet.fires {handle : Nat} (quiet : relay.Quiet) (step : relay.step (.fire handle) = some relay') :
    relay.stopped = false := by
  simp only [OutboxRelay.step] at step
  split at step
  · rename_i due
    by_contra stopped
    rw [quiet (by simpa using stopped)] at due
    cases due
  · cases step

end OutboxRelay

variable {options : OutboxRelayOptions} {log : List (Commit OutboxRelay Event)} {relay : OutboxRelay}

/-- One loop is live at most, and none is armed after a `stop`, exactly as long
as no `stop` comes in the middle of a tick; then no drain begins after one. -/
theorem Run.obeys (run : Run options log relay) :
    ((∀ p, Seen log relay p → p.Single ∧ p.Quiet) ↔ ∀ commit ∈ log, Undisturbed commit) ∧
      ((∀ commit ∈ log, Undisturbed commit) → ∀ commit ∈ log, ∀ handle, commit.act = .fire handle →
        commit.before.stopped = false) := by
  have start (relay : OutboxRelay) (begins : relay = .new options) : relay.Looping := by
    rw [begins]
    exact .new options
  have exactly : (∀ p, Seen log relay p → p.Single ∧ p.Quiet) ↔ ∀ commit ∈ log, Undisturbed commit := by
    refine run.forall_iff_of_invariant start (fun _ looping => ⟨looping.single, looping.quiet⟩) ?_ ?_
    · exact fun _ _ _ _ step undisturbed looping => looping.step step undisturbed
    · exact fun _ _ _ _ step looping kept => looping.undisturbed step kept.1 kept.2
  have steps : ∀ commit ∈ log, commit.before.step commit.act = some commit.after :=
    run.forall_commits (P := fun commit => commit.before.step commit.act = some commit.after) fun _ _ _ _ _ step => step
  refine ⟨exactly, fun undisturbed commit member handle fires => ?_⟩
  have quiet := (exactly.mpr undisturbed commit.before (Or.inr ⟨commit, member, rfl⟩)).2
  have step := steps commit member
  rw [fires] at step
  exact quiet.fires step

section samples

def sampleOptions : OutboxRelayOptions where
  intervalMs := 1000
  maxBackoffMs := 30000

/-- A failed drain, and a `stop` before the next. -/
theorem obeys_between_drains : ∃ log relay, Run sampleOptions log relay ∧ relay.currentBackoffMs = 2000 ∧
    (∀ p, Seen log relay p → p.Single ∧ p.Quiet) ∧
    ∀ commit ∈ log, ∀ handle, commit.act = .fire handle → commit.before.stopped = false := by
  have start : Run sampleOptions [] (.new sampleOptions) := .start rfl
  have drains := (start.commit (a := .start) rfl).commit (a := .fire 0) rfl
  have run := (drains.commit (a := .settle 0 false) rfl).commit (a := .stop) rfl
  refine ⟨_, _, run, rfl, ?_⟩
  obtain ⟨exactly, fires⟩ := Run.obeys run
  rw [exactly]
  refine and_iff_left_of_imp fires |>.mpr fun commit member => ?_
  simp only [List.mem_cons, List.not_mem_nil, or_false] at member
  rcases member with rfl | rfl | rfl | rfl
  · exact ⟨(fun _ _ act => by cases act), fun act => by cases act⟩
  · exact ⟨fun _ _ _ => Option.some_ne_none 0, fun act => by cases act⟩
  · exact ⟨(fun _ _ act => by cases act), fun act => by cases act⟩
  · exact ⟨(fun _ _ act => by cases act), fun _ _ => rfl⟩

/-- A `stop` in the middle of a drain is forgotten at its end: the next timer
is armed and fires. A `start` before that end makes two loops. -/
theorem stop_during_drain :
    (∃ log relay, Run sampleOptions log relay ∧ ∃ commit ∈ log, commit.act = .fire 1 ∧
      commit.before.stopped = true ∧ commit.before.ticks = []) ∧
    ∃ log relay, Run sampleOptions log relay ∧ ¬ relay.Single := by
  constructor
  · have start : Run sampleOptions [] (.new sampleOptions) := .start rfl
    have stopped := ((start.commit (a := .start) rfl).commit (a := .fire 0) rfl).commit (a := .stop) rfl
    have run := (stopped.commit (a := .settle 0 true) rfl).commit (a := .fire 1) rfl
    exact ⟨_, _, run, _, List.mem_cons_self .., rfl, rfl, rfl⟩
  · exact History.replayed [.start, .fire 0, .stop, .start] ⟨_, rfl, by decide⟩

end samples

end FoodDelivery.Messaging.RelayLoop
