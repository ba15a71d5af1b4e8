import Mathlib.Logic.Function.Basic
import FoodDelivery.Lib.History

namespace FoodDelivery.Locking

open CommitLog

/-- FENCE_COUNTER_TTL_MS. -/
def fenceCounterTtlMs : Nat := 3600000

/-- A token as `INCR` has returned it to a call of `acquire`. Which call, how
many tokens were drawn before and how often the counter had started anew are
kept for the statements only. Redis stores tokens as decimal texts, which
differ where the numbers do. -/
structure Draw where
  token : Nat
  call : Nat
  number : Nat
  generation : Nat
  deriving DecidableEq, Repr

/-- The value under the key, which `SET PX` lets expire. -/
structure Lock where
  draw : Draw
  expires : Nat
  deriving DecidableEq, Repr

/-- The value under `fenceCounterKey`: `INCR` makes one that stays, and
`PEXPIRE` lets it expire. -/
structure FenceCounter where
  value : Nat
  expires : Option Nat
  deriving DecidableEq, Repr

/-- A call of `acquire`, between its three commands and after them. -/
inductive Acquire
  | idle
  | drawn (draw : Draw)
  | refreshed (draw : Draw)
  | held (draw : Draw)
  | refused
  deriving DecidableEq, Repr

def Acquire.draw : Acquire → Option Draw
  | .drawn draw => some draw
  | .refreshed draw => some draw
  | .held draw => some draw
  | _ => none

/-- Redis as far as one key is concerned, and the calls of its clients. The
tokens drawn and those granted, newest first, and the number of times the
counter was gone are kept for the statements only. -/
structure Redis where
  now : Nat
  lock : Option Lock
  counter : Option FenceCounter
  acquires : Nat → Acquire
  draws : List Draw
  granted : List Draw
  restarts : Nat

inductive Command
  | wait (ms : Nat)
  | incr (call : Nat)
  | pexpire (call : Nat)
  | set (call ttlMs : Nat)
  | release (call : Nat)
  deriving DecidableEq, Repr

namespace Redis

def empty : Redis where
  now := 0
  lock := none
  counter := none
  acquires _ := .idle
  draws := []
  granted := []
  restarts := 0

/-- The lock, unless it has expired. -/
def liveLock (redis : Redis) : Option Lock := redis.lock.filter fun lock => redis.now < lock.expires

def liveCounter (redis : Redis) : Option FenceCounter :=
  redis.counter.filter fun counter => counter.expires.all fun expires => redis.now < expires

def setAcquire (redis : Redis) (call : Nat) (stage : Acquire) : Redis :=
  { redis with acquires := Function.update redis.acquires call stage }

/-- `INCR`: a counter that is gone starts anew at 1, without a lifetime. -/
def incr (redis : Redis) (call : Nat) : Redis :=
  let counter : FenceCounter := match redis.liveCounter with
    | some counter => { counter with value := counter.value + 1 }
    | none => { value := 1, expires := none }
  let restarts := if redis.liveCounter.isSome then redis.restarts else redis.restarts + 1
  let draw : Draw := { token := counter.value, call, number := redis.draws.length, generation := restarts }
  { redis.setAcquire call (.drawn draw) with counter := some counter, draws := draw :: redis.draws, restarts }

/-- `PEXPIRE`, which does nothing for a counter that is gone. -/
def pexpire (redis : Redis) (call : Nat) (draw : Draw) : Redis :=
  { redis.setAcquire call (.refreshed draw) with
    counter := redis.liveCounter.map fun counter => { counter with expires := some (redis.now + fenceCounterTtlMs) } }

/-- `SET NX PX`. -/
def set (redis : Redis) (call : Nat) (draw : Draw) (ttlMs : Nat) : Redis :=
  match redis.liveLock with
  | some _ => redis.setAcquire call .refused
  | none => { redis.setAcquire call (.held draw) with
      lock := some { draw, expires := redis.now + ttlMs }
      granted := draw :: redis.granted }

/-- `RELEASE_SCRIPT`: compare and delete. -/
def release (redis : Redis) (token : Nat) : Redis :=
  match redis.liveLock with
  | some lock => if lock.draw.token = token then { redis with lock := none } else redis
  | none => redis

/-- One command of one client. Between any two others may come and time may
pass; a call may also stop anywhere, and release more than once. -/
def step (redis : Redis) : Command → Option Redis
  | .wait ms => some { redis with now := redis.now + ms }
  | .incr call =>
    match redis.acquires call with
    | .idle => some (redis.incr call)
    | _ => none
  | .pexpire call =>
    match redis.acquires call with
    | .drawn draw => some (redis.pexpire call draw)
    | _ => none
  | .set call ttlMs =>
    match redis.acquires call with
    | .refreshed draw => if ttlMs ≤ fenceCounterTtlMs then some (redis.set call draw ttlMs) else none
    | _ => none
  | .release call =>
    match redis.acquires call with
    | .held draw => some (redis.release draw.token)
    | _ => none

end Redis

abbrev Run : List (Commit Redis Command) → Redis → Prop :=
  History (· = Redis.empty) fun _ command redis redis' => redis.step command = some redis'

/-- Within one life of the counter a later draw is a greater token. -/
structure Redis.Invariant (redis : Redis) : Prop where
  ordered : ∀ first ∈ redis.draws, ∀ second ∈ redis.draws, first.number < second.number →
    first.generation = second.generation → first.token < second.token
  numbered : ∀ draw ∈ redis.draws, draw.number < redis.draws.length
  current : ∀ draw ∈ redis.draws, draw.generation ≤ redis.restarts
  counted : ∀ counter, redis.counter = some counter → ∀ draw ∈ redis.draws, draw.generation = redis.restarts →
    draw.token ≤ counter.value
  calls : ∀ call draw, (redis.acquires call).draw = some draw → draw ∈ redis.draws ∧ draw.call = call
  held : ∀ call draw, redis.acquires call = .held draw → draw ∈ redis.granted
  granted : ∀ draw ∈ redis.granted, draw ∈ redis.draws
  lock : ∀ lock, redis.lock = some lock → lock.draw ∈ redis.granted

namespace Redis

variable {redis : Redis}

theorem Invariant.empty : Invariant empty := by
  refine ⟨?_, ?_, ?_, ?_, ?_, ?_, ?_, ?_⟩ <;> simp [Redis.empty, Acquire.draw]

theorem liveLock_some {lock : Lock} (live : redis.liveLock = some lock) : redis.lock = some lock :=
  (Option.filter_eq_some_iff.mp live).1

theorem liveCounter_some {counter : FenceCounter} (live : redis.liveCounter = some counter) : redis.counter = some counter :=
  (Option.filter_eq_some_iff.mp live).1

theorem Invariant.setAcquire (invariant : Invariant redis) {call : Nat} {stage : Acquire}
    (drawn : ∀ draw, stage.draw = some draw → draw ∈ redis.draws ∧ draw.call = call)
    (held : ∀ draw, stage = .held draw → draw ∈ redis.granted) : Invariant (redis.setAcquire call stage) := by
  have stages (other : Nat) : (redis.setAcquire call stage).acquires other =
      if other = call then stage else redis.acquires other := Function.update_apply ..
  refine { invariant with calls := ?_, held := ?_ }
  · intro other draw found
    rw [stages] at found
    split at found
    · rename_i same
      exact same ▸ drawn draw found
    · exact invariant.calls other draw found
  · intro other draw found
    rw [stages] at found
    split at found
    · exact held draw found
    · exact invariant.held other draw found

/-- A new token is above all that its counter has given. -/
theorem Invariant.draw (invariant : Invariant redis) {draw : Draw} {counter : FenceCounter} {restarts : Nat}
    (number : draw.number = redis.draws.length) (generation : draw.generation = restarts) (token : draw.token = counter.value)
    (later : redis.restarts ≤ restarts)
    (above : ∀ old ∈ redis.draws, old.generation = restarts → old.token < counter.value) :
    Invariant { redis with counter := some counter, draws := draw :: redis.draws, restarts } := by
  refine ⟨?_, ?_, ?_, ?_, ?_, invariant.held, ?_, invariant.lock⟩
  · intro first firstDrawn second secondDrawn before same
    rcases List.mem_cons.mp firstDrawn with rfl | old
    · rcases List.mem_cons.mp secondDrawn with rfl | old'
      · omega
      · have bound := invariant.numbered second old'
        omega
    · rcases List.mem_cons.mp secondDrawn with rfl | old'
      · rw [token]
        exact above first old (same.trans generation)
      · exact invariant.ordered first old second old' before same
  · intro other drawn
    rcases List.mem_cons.mp drawn with rfl | old
    · simp [number]
    · have bound := invariant.numbered other old
      simp only [List.length_cons]
      omega
  · intro other drawn
    rcases List.mem_cons.mp drawn with rfl | old
    · exact Nat.le_of_eq generation
    · exact Nat.le_trans (invariant.current other old) later
  · rintro _ ⟨⟩ other drawn same
    rcases List.mem_cons.mp drawn with rfl | old
    · exact Nat.le_of_eq token
    · exact Nat.le_of_lt (above other old same)
  · intro call other found
    exact (invariant.calls call other found).imp_left (List.mem_cons_of_mem _)
  · exact fun other given => List.mem_cons_of_mem _ (invariant.granted other given)

theorem Invariant.incr (invariant : Invariant redis) {call : Nat} : Invariant (redis.incr call) := by
  unfold Redis.incr
  cases live : redis.liveCounter with
  | some counter =>
    have counted := invariant.counted counter (liveCounter_some live)
    refine (invariant.draw rfl rfl rfl (Nat.le_refl _) fun old drawn same => ?_).setAcquire ?_ nofun
    · have bound := counted old drawn same
      simp only
      omega
    · rintro _ ⟨⟩
      exact ⟨List.mem_cons_self .., rfl⟩
  | none =>
    refine (invariant.draw rfl rfl rfl (Nat.le_succ _) fun old drawn same => ?_).setAcquire ?_ nofun
    · have bound := invariant.current old drawn
      simp at same
      omega
    · rintro _ ⟨⟩
      exact ⟨List.mem_cons_self .., rfl⟩

theorem Invariant.pexpire (invariant : Invariant redis) {call : Nat} {draw : Draw} (stage : redis.acquires call = .drawn draw) :
    Invariant (redis.pexpire call draw) := by
  have refreshed : Invariant { redis with counter := redis.liveCounter.map fun counter =>
      { counter with expires := some (redis.now + fenceCounterTtlMs) } } := by
    refine { invariant with counted := ?_ }
    intro counter found
    obtain ⟨before, live, rfl⟩ := Option.map_eq_some_iff.mp found
    exact invariant.counted before (liveCounter_some live)
  refine refreshed.setAcquire ?_ nofun
  rintro _ ⟨⟩
  exact invariant.calls call draw (by rw [stage]; rfl)

theorem Invariant.set (invariant : Invariant redis) {call ttlMs : Nat} {draw : Draw}
    (stage : redis.acquires call = .refreshed draw) : Invariant (redis.set call draw ttlMs) := by
  have drawn := invariant.calls call draw (by rw [stage]; rfl)
  unfold Redis.set
  split
  · exact invariant.setAcquire nofun nofun
  · have granted : Invariant { redis with
        lock := some { draw, expires := redis.now + ttlMs }
        granted := draw :: redis.granted } := by
      refine { invariant with held := ?_, granted := ?_, lock := ?_ }
      · exact fun other given found => List.mem_cons_of_mem _ (invariant.held other given found)
      · exact List.forall_mem_cons.mpr ⟨drawn.1, invariant.granted⟩
      · rintro _ ⟨⟩
        exact List.mem_cons_self ..
    refine granted.setAcquire ?_ ?_
    · rintro _ ⟨⟩
      exact drawn
    · rintro _ ⟨⟩
      exact List.mem_cons_self ..

theorem Invariant.release (invariant : Invariant redis) (token : Nat) : Invariant (redis.release token) := by
  unfold Redis.release
  split
  · split
    · exact { invariant with lock := nofun }
    · exact invariant
  · exact invariant

theorem Invariant.step (invariant : Invariant redis) {command : Command} {redis' : Redis}
    (run : redis.step command = some redis') : Invariant redis' := by
  cases command with
  | wait ms =>
    cases run
    exact { invariant with }
  | incr call =>
    simp only [Redis.step] at run
    split at run
    · cases run
      exact invariant.incr
    · cases run
  | pexpire call =>
    simp only [Redis.step] at run
    split at run
    · rename_i stage
      cases run
      exact invariant.pexpire stage
    · cases run
  | set call ttlMs =>
    simp only [Redis.step] at run
    split at run
    · rename_i stage
      split at run
      · cases run
        exact invariant.set stage
      · cases run
    · cases run
  | release call =>
    simp only [Redis.step] at run
    split at run
    · cases run
      exact invariant.release _
    · cases run

/-- The tokens of successive successful acquires increase. -/
def Increasing (redis : Redis) : Prop := redis.granted.Pairwise fun later earlier => earlier.token < later.token

theorem token_unique {draws : List Draw} (increasing : draws.Pairwise fun later earlier => earlier.token < later.token)
    {first second : Draw} (known : first ∈ draws) (known' : second ∈ draws) (same : first.token = second.token) :
    first = second := by
  induction draws with
  | nil => cases known
  | cons draw rest ih =>
    obtain ⟨above, tail⟩ := List.pairwise_cons.mp increasing
    rcases List.mem_cons.mp known with rfl | old
    · rcases List.mem_cons.mp known' with rfl | old'
      · rfl
      · have less := above second old'
        omega
    · rcases List.mem_cons.mp known' with rfl | old'
      · have less := above first old
        omega
      · exact ih tail old old'

/-- A token that was granted belongs to the call that the lock was granted to. -/
theorem Invariant.owner (invariant : Invariant redis) (increasing : redis.Increasing) {call : Nat} {draw : Draw}
    {lock : Lock} (stage : redis.acquires call = .held draw) (stored : redis.lock = some lock)
    (same : lock.draw.token = draw.token) : lock.draw.call = call := by
  have mine := (invariant.calls call draw (by rw [stage]; rfl)).2
  rw [token_unique increasing (invariant.lock lock stored) (invariant.held call draw stage) same, mine]

end Redis

/-- A release deletes no lock but the one its own acquire has set. -/
def OnlyHolder (commit : Commit Redis Command) : Prop :=
  ∀ call lock, commit.act = .release call → commit.before.liveLock = some lock → commit.after.lock = none →
    lock.draw.call = call

/-- Where a `SET` succeeds, all acquires that succeeded before it have drawn
their tokens before it, and the counter has not started anew since. -/
def Calm (commit : Commit Redis Command) : Prop :=
  ∀ call ttlMs draw, commit.act = .set call ttlMs → commit.before.acquires call = .refreshed draw →
    commit.before.liveLock = none →
    ∀ earlier ∈ commit.before.granted, earlier.number < draw.number ∧ earlier.generation = draw.generation

section run

variable {log : List (Commit Redis Command)} {redis : Redis}

/-- A release deletes the lock whose token it brings, or nothing. -/
theorem Redis.release_deletes {redis : Redis} {token : Nat} {lock : Lock} (live : redis.liveLock = some lock)
    (gone : (redis.release token).lock = none) : lock.draw.token = token := by
  unfold Redis.release at gone
  simp only [live] at gone
  split at gone
  · assumption
  · cases gone.symm.trans (liveLock_some live)

theorem Redis.Invariant.onlyHolder (invariant : redis.Invariant) (increasing : redis.Increasing) {command : Command}
    {redis' : Redis} (step : redis.step command = some redis') : OnlyHolder ⟨redis, command, redis'⟩ := by
  rintro call lock rfl live gone
  simp only [Redis.step] at step
  split at step
  · rename_i draw stage
    cases step
    exact invariant.owner increasing stage (liveLock_some live) (Redis.release_deletes live gone)
  · cases step

theorem Redis.Invariant.increasing_step (invariant : redis.Invariant) (increasing : redis.Increasing) {command : Command}
    {redis' : Redis} (step : redis.step command = some redis') (calm : Calm ⟨redis, command, redis'⟩) :
    redis'.Increasing := by
  cases command with
  | wait ms =>
    cases step
    exact increasing
  | incr call =>
    simp only [Redis.step] at step
    split at step
    · cases step
      exact increasing
    · cases step
  | pexpire call =>
    simp only [Redis.step] at step
    split at step
    · cases step
      exact increasing
    · cases step
  | set call ttlMs =>
    simp only [Redis.step] at step
    split at step
    · rename_i draw stage
      split at step
      · cases step
        have drawn := (invariant.calls call draw (by rw [stage]; rfl)).1
        unfold Redis.set
        split
        · exact increasing
        · rename_i free
          refine List.pairwise_cons.mpr ⟨fun earlier given => ?_, increasing⟩
          obtain ⟨before, same⟩ := calm call ttlMs draw rfl stage free earlier given
          exact invariant.ordered earlier (invariant.granted earlier given) draw drawn before same
      · cases step
    · cases step
  | release call =>
    simp only [Redis.step] at step
    split at step
    · cases step
      unfold Redis.release
      split
      · split <;> exact increasing
      · exact increasing
    · cases step

/-- Where no successful acquire is overtaken and the counter outlives all that
were granted, tokens increase and a release deletes its own lock only. -/
theorem Run.released_by_holder (run : Run log redis) (calm : ∀ commit ∈ log, Calm commit) :
    (∀ s, Seen log redis s → s.Increasing) ∧ ∀ commit ∈ log, OnlyHolder commit := by
  have all : ∀ s, Seen log redis s → s.Invariant ∧ s.Increasing := by
    refine run.invariant_of ?_ ?_ calm
    · rintro _ rfl
      exact ⟨Redis.Invariant.empty, List.Pairwise.nil⟩
    · rintro _ command redis redis' step now ⟨invariant, increasing⟩
      exact ⟨invariant.step step, invariant.increasing_step increasing step now⟩
  have steps : ∀ commit ∈ log, commit.before.step commit.act = some commit.after :=
    run.forall_commits fun _ _ _ _ _ step => step
  refine ⟨fun s seen => (all s seen).2, fun commit member => ?_⟩
  obtain ⟨invariant, increasing⟩ := all commit.before (Or.inr ⟨commit, member, rfl⟩)
  exact invariant.onlyHolder increasing (steps commit member)

end run

section samples

def acquired (call : Nat) : List Command := [.incr call, .pexpire call, .set call 5000]

theorem calm_of_first {commit : Commit Redis Command} (none : commit.before.granted = []) : Calm commit := by
  intro call ttlMs draw _ _ _ earlier given
  rw [none] at given
  cases given

/-- A lock taken, given back and taken again. -/
theorem released_by_holder_sample : ∃ log redis, Run log redis ∧ redis.granted.map (·.token) = [2, 1] ∧
    (∀ s, Seen log redis s → s.Increasing) ∧ ∀ commit ∈ log, OnlyHolder commit := by
  have start : Run [] Redis.empty := History.start rfl
  have first : Run _ _ := ((start.commit (a := .incr 0) rfl).commit (a := .pexpire 0) rfl).commit (a := .set 0 5000) rfl
  have second : Run _ _ := ((first.commit (a := .release 0) rfl).commit (a := .incr 1) rfl).commit (a := .pexpire 1) rfl
  have third : Run _ _ := second.commit (a := .set 1 5000) rfl
  refine ⟨_, _, third, rfl, third.released_by_holder ?_⟩
  simp only [List.forall_mem_cons]
  refine ⟨?_, nofun, nofun, nofun, calm_of_first rfl, nofun, nofun, by simp⟩
  rintro call ttlMs draw ⟨⟩ stage _ earlier given
  cases stage
  cases List.mem_singleton.mp given
  decide

/-- A holder that pauses for an hour comes back to a counter that has started
anew, and its release deletes the lock of another. -/
theorem released_by_stalled_holder : ∃ log redis, Run log redis ∧ ¬ redis.Increasing ∧
    ∃ commit ∈ log, ¬ OnlyHolder commit := by
  obtain ⟨log, redis, run, stage, live, granted⟩ : ∃ log redis, Run log redis ∧ redis.acquires 0 = .held ⟨1, 0, 0, 1⟩ ∧
      redis.liveLock = some ⟨⟨1, 1, 1, 2⟩, 3605000⟩ ∧ redis.granted = [⟨1, 1, 1, 2⟩, ⟨1, 0, 0, 1⟩] :=
    History.replayed (acquired 0 ++ [.wait fenceCounterTtlMs] ++ acquired 1) ⟨_, rfl, rfl, by decide, rfl⟩
  have step : redis.step (.release 0) = some (redis.release 1) := by simp only [Redis.step, stage]
  have freed : redis.release 1 = { redis with lock := none } := by simp [Redis.release, live]
  refine ⟨_, _, run.commit step, ?_, _, List.mem_cons_self .., ?_⟩
  · rw [freed, Redis.Increasing, granted]
    decide
  · intro only
    have mine := only 0 _ rfl live (by rw [freed])
    cases mine

end samples

end FoodDelivery.Locking
