import Mathlib.Data.Finset.Card
import Mathlib.Order.Interval.Finset.Nat
import FoodDelivery.Lib.History
import FoodDelivery.Tenancy.Identity

namespace FoodDelivery.Gateway.RateLimit

open CommitLog Tenancy

structure RateLimitResult where
  count : Nat
  ttlSec : Int
  deriving DecidableEq, Repr

/-- HTTP 429, with the `Retry-After` that was set. -/
structure TooManyRequests where
  retryAfter : String
  deriving DecidableEq, Repr

structure RateLimitGuard where
  enabled : Bool
  max : Nat
  windowSec : Nat
  positive : 0 < windowSec

def resolveKey (sub ip : Option String) : String :=
  match filled sub with
  | some sub => "rl:sub:" ++ sub
  | none => "rl:ip:" ++ ip.getD "unknown"

/-- A hit that fails lets the request pass. -/
def RateLimitGuard.canActivate (guard : RateLimitGuard) (skip : Bool) (sub ip : Option String)
    (hit : (key : String) → (windowSec : Nat) → Except String RateLimitResult) : Except TooManyRequests Unit :=
  if guard.enabled = false then pure ()
  else if skip then pure ()
  else
    match hit (resolveKey sub ip) guard.windowSec with
    | .error _ => pure ()
    | .ok result => if guard.max < result.count then throw { retryAfter := toString result.ttlSec } else pure ()

/-- The value under the key. -/
structure Counter where
  count : Nat
  expires : Option Nat
  deriving DecidableEq, Repr

/-- How a hit was counted, and in which of the keys there have been. -/
structure Counted where
  key : Nat
  count : Nat
  deriving DecidableEq, Repr

/-- A call of `RedisRateLimitStore.hit`: before its commands, before its
`EXPIRE` or `TTL`, before the `EXPIRE` of a key without ttl, completed at some
time, or dead between two commands. -/
inductive Hit
  | idle
  | expiring (counted : Counted)
  | reading (counted : Counted)
  | repairing (counted : Counted)
  | completed (counted : Counted) (ttlSec : Int) (time : Nat)
  | dead (counted : Counted)
  deriving DecidableEq, Repr

def Hit.counted : Hit → Option Counted
  | .idle => none
  | .expiring counted => some counted
  | .reading counted => some counted
  | .repairing counted => some counted
  | .completed counted .. => some counted
  | .dead counted => some counted

/-- What `hit` does with the reply to its `INCR`. -/
def Counted.next (counted : Counted) : Hit := if counted.count = 1 then .expiring counted else .reading counted

/-- Redis as far as one key is concerned, at a time in milliseconds, with the
calls that use it. The number of keys is kept for the statements only. -/
structure Redis where
  now : Nat
  counter : Option Counter
  keys : Nat
  hits : Nat → Hit

inductive Event
  | wait (ms : Nat)
  | incr (call : Nat)
  | ttl (call : Nat)
  | expire (call : Nat)
  | die (call : Nat)
  deriving DecidableEq, Repr

namespace Redis

def empty : Redis where
  now := 0
  counter := none
  keys := 0
  hits _ := .idle

/-- The counter, unless its ttl has run out. -/
def live (redis : Redis) : Option Counter :=
  redis.counter.filter fun counter => counter.expires.all fun expires => redis.now < expires

def setHit (redis : Redis) (call : Nat) (hit : Hit) : Redis := { redis with hits := Function.update redis.hits call hit }

/-- `INCR`. -/
def incr (redis : Redis) (call : Nat) : Redis :=
  let counter : Counter := match redis.live with
    | some counter => { counter with count := counter.count + 1 }
    | none => { count := 1, expires := none }
  let keys := if redis.live.isSome then redis.keys else redis.keys + 1
  { redis.setHit call (Counted.next { key := keys, count := counter.count }) with counter := some counter, keys }

/-- `TTL`: seconds, rounded, or -1 for a key without and -2 for none. -/
def ttl (redis : Redis) : Int :=
  match redis.live with
  | none => -2
  | some counter =>
    match counter.expires with
    | none => -1
    | some expires => (expires - redis.now + 500) / 1000

/-- What `hit` does with the reply to its `TTL`. -/
def read (redis : Redis) (call : Nat) (counted : Counted) : Redis :=
  redis.setHit call (if redis.ttl < 0 then .repairing counted else .completed counted redis.ttl redis.now)

/-- `EXPIRE`, which does nothing for a key that is gone, and with it `hit` returns. -/
def expire (redis : Redis) (windowSec call : Nat) (counted : Counted) : Redis :=
  { redis.setHit call (.completed counted windowSec redis.now) with
    counter := redis.live.map fun counter => { counter with expires := some (redis.now + windowSec * 1000) } }

/-- One command of one call. Between any two others may come, time may pass and
the caller may die. -/
def step (windowSec : Nat) (redis : Redis) : Event → Option Redis
  | .wait ms => some { redis with now := redis.now + ms }
  | .incr call =>
    match redis.hits call with
    | .idle => some (redis.incr call)
    | _ => none
  | .ttl call =>
    match redis.hits call with
    | .reading counted => some (redis.read call counted)
    | _ => none
  | .expire call =>
    match redis.hits call with
    | .expiring counted => some (redis.expire windowSec call counted)
    | .repairing counted => some (redis.expire windowSec call counted)
    | _ => none
  | .die call =>
    match redis.hits call with
    | .expiring counted => some (redis.setHit call (.dead counted))
    | .reading counted => some (redis.setHit call (.dead counted))
    | .repairing counted => some (redis.setHit call (.dead counted))
    | _ => none

end Redis

abbrev Run (windowSec : Nat) : List (Commit Redis Event) → Redis → Prop :=
  History (· = Redis.empty) fun _ event redis redis' => redis.step windowSec event = some redis'

/-- A request counted in a key that the guard has let pass. -/
def Redis.Admitted (redis : Redis) (guard : RateLimitGuard) (key call : Nat) : Prop :=
  ∃ count ttlSec time sub ip, redis.hits call = .completed { key, count } ttlSec time ∧
    guard.canActivate false sub ip (fun _ _ => .ok { count, ttlSec }) = .ok ()

/-- No key admits more than the limit. -/
def Redis.Admits (redis : Redis) (guard : RateLimitGuard) : Prop :=
  ∀ key (calls : Finset Nat), (∀ call ∈ calls, redis.Admitted guard key call) → calls.card ≤ guard.max

/-- Once a hit on the current key has completed, the key has a ttl of at most
the window. -/
def Redis.Armed (redis : Redis) (windowSec : Nat) : Prop :=
  ∀ call count ttlSec time, redis.hits call = .completed { key := redis.keys, count } ttlSec time →
    ∀ counter, redis.live = some counter → ∃ expires, counter.expires = some expires ∧ expires ≤ redis.now + windowSec * 1000

/-- The current key goes at the latest a window after the hit that counted 1 in
it completed. -/
def Redis.Fixed (redis : Redis) (windowSec : Nat) : Prop :=
  ∀ call ttlSec time, redis.hits call = .completed { key := redis.keys, count := 1 } ttlSec time →
    ∀ counter, redis.live = some counter →
      redis.now < time + windowSec * 1000 ∧ ∃ expires, counter.expires = some expires ∧ expires ≤ time + windowSec * 1000

/-- No `EXPIRE` reaches a key after the hit that counted 1 in it has completed. -/
def Punctual (commit : Commit Redis Event) : Prop :=
  ∀ call, commit.act = .expire call → commit.before.live.isSome →
    ∀ first ttlSec time, commit.before.hits first = .completed { key := commit.before.keys, count := 1 } ttlSec time →
      commit.before.now ≤ time

/-- The hits on a key are counted one by one, and a key that one has left stays armed. -/
structure Redis.Invariant (redis : Redis) (windowSec : Nat) : Prop where
  positive : ∀ call counted, (redis.hits call).counted = some counted → 0 < counted.count
  current : ∀ call counted, (redis.hits call).counted = some counted → counted.key ≤ redis.keys
  counted : ∀ call count, (redis.hits call).counted = some { key := redis.keys, count } →
    ∀ counter, redis.counter = some counter → count ≤ counter.count
  distinct : ∀ call call' counted, (redis.hits call).counted = some counted → (redis.hits call').counted = some counted → call = call'
  reading : ∀ call counted, redis.hits call = .reading counted → counted.count ≠ 1
  bounded : ∀ counter expires, redis.counter = some counter → counter.expires = some expires →
    expires ≤ redis.now + windowSec * 1000
  armed : ∀ call count ttlSec time, redis.hits call = .completed { key := redis.keys, count } ttlSec time →
    ∀ counter, redis.counter = some counter → counter.expires ≠ none

/-- The window of the current key is that of the hit that counted 1 in it, once
that has completed. -/
def Redis.Timely (redis : Redis) (windowSec : Nat) : Prop :=
  ∀ call ttlSec time, redis.hits call = .completed { key := redis.keys, count := 1 } ttlSec time →
    ∀ counter, redis.counter = some counter → ∃ expires, counter.expires = some expires ∧ expires ≤ time + windowSec * 1000

namespace Redis

variable {redis redis' : Redis} {windowSec call : Nat} {event : Event}

theorem Invariant.empty : Invariant empty windowSec := by
  refine ⟨?_, ?_, ?_, ?_, ?_, ?_, ?_⟩ <;> simp [Redis.empty, Hit.counted]

theorem live_some {counter : Counter} (live : redis.live = some counter) :
    redis.counter = some counter ∧ ∀ expires, counter.expires = some expires → redis.now < expires := by
  obtain ⟨found, alive⟩ := Option.filter_eq_some_iff.mp live
  refine ⟨found, fun expires ends => ?_⟩
  rw [ends] at alive
  exact of_decide_eq_true alive

theorem setHit_hits (hit : Hit) (other : Nat) : (redis.setHit call hit).hits other = if other = call then hit else redis.hits other :=
  Function.update_apply ..

theorem counted_of_completed {counted : Counted} {ttlSec : Int} {time : Nat} (completed : redis.hits call = .completed counted ttlSec time) :
    (redis.hits call).counted = some counted := by
  rw [completed]
  rfl

/-- A call that goes on stays counted as it was. -/
theorem setHit_counted {hit : Hit} (same : hit.counted = (redis.hits call).counted) (other : Nat) :
    ((redis.setHit call hit).hits other).counted = (redis.hits other).counted := by
  rw [setHit_hits]
  split
  · next here => rw [here, same]
  · rfl

/-- A call goes on, and the counter keeps its count and stays armed. -/
theorem Invariant.advance (invariant : Invariant redis windowSec) {hit : Hit} {counter : Option Counter}
    (same : hit.counted = (redis.hits call).counted) (notReading : ∀ counted, hit ≠ .reading counted)
    (kept : ∀ after, counter = some after → ∃ before, redis.counter = some before ∧ after.count = before.count ∧
      (after.expires = before.expires ∨ after.expires = some (redis.now + windowSec * 1000)))
    (armed : ∀ count ttlSec time, hit = .completed { key := redis.keys, count } ttlSec time → ∀ after, counter = some after →
      after.expires ≠ none) : Invariant { redis.setHit call hit with counter } windowSec := by
  have counted := @setHit_counted redis call hit same
  refine ⟨?_, ?_, ?_, ?_, ?_, ?_, ?_⟩
  · intro other found
    rw [counted]
    exact invariant.positive other found
  · intro other found
    rw [counted]
    exact invariant.current other found
  · intro other count found after present
    rw [counted] at found
    obtain ⟨before, was, count', -⟩ := kept after present
    rw [count']
    exact invariant.counted other count found before was
  · intro other other' found here there
    rw [counted] at here there
    exact invariant.distinct other other' found here there
  · intro other found reading
    rw [setHit_hits] at reading
    split at reading
    · exact absurd reading (notReading found)
    · exact invariant.reading other found reading
  · intro after expires present ends
    obtain ⟨before, was, -, old | new⟩ := kept after present
    · exact invariant.bounded before expires was (old.symm.trans ends)
    · cases new.symm.trans ends
      exact Nat.le_refl _
  · intro other count ttlSec time completed after present
    rw [setHit_hits] at completed
    split at completed
    · exact armed count ttlSec time completed after present
    · obtain ⟨before, was, -, old | new⟩ := kept after present
      · rw [old]
        exact invariant.armed other count ttlSec time completed before was
      · rw [new]
        exact Option.some_ne_none _

theorem kept_live {counter : Option Counter} {expires : Nat} (mapped : counter = redis.live.map fun counter => { counter with expires := some expires })
    (after : Counter) (present : counter = some after) :
    ∃ before, redis.counter = some before ∧ after.count = before.count ∧
      (after.expires = before.expires ∨ after.expires = some expires) := by
  rw [mapped] at present
  obtain ⟨before, live, rfl⟩ := Option.map_eq_some_iff.mp present
  exact ⟨before, (live_some live).1, rfl, Or.inr rfl⟩

theorem Invariant.expire (invariant : Invariant redis windowSec) {counted : Counted} (counts : (redis.hits call).counted = some counted) :
    Invariant (redis.expire windowSec call counted) windowSec := by
  refine invariant.advance counts.symm nofun (kept_live rfl) ?_
  intro _ _ _ _ after present
  obtain ⟨before, -, rfl⟩ := Option.map_eq_some_iff.mp present
  exact Option.some_ne_none _

theorem ttl_nonneg (armed : 0 ≤ redis.ttl) : ∃ counter, redis.live = some counter ∧ counter.expires ≠ none := by
  unfold ttl at armed
  split at armed
  · omega
  · next counter live =>
    split at armed
    · omega
    · next expires ends => exact ⟨counter, live, by rw [ends]; exact Option.some_ne_none _⟩

theorem Invariant.setHit (invariant : Invariant redis windowSec) {hit : Hit} (same : hit.counted = (redis.hits call).counted)
    (notReading : ∀ counted, hit ≠ .reading counted)
    (armed : ∀ count ttlSec time, hit = .completed { key := redis.keys, count } ttlSec time → ∀ counter, redis.counter = some counter →
      counter.expires ≠ none) : Invariant (redis.setHit call hit) windowSec :=
  invariant.advance same notReading (fun after present => ⟨after, present, rfl, Or.inl rfl⟩) armed

theorem Invariant.read (invariant : Invariant redis windowSec) {counted : Counted} (reading : redis.hits call = .reading counted) :
    Invariant (redis.read call counted) windowSec := by
  unfold Redis.read
  split
  · exact invariant.setHit (by rw [reading]; rfl) nofun nofun
  · next armed =>
    refine invariant.setHit (by rw [reading]; rfl) nofun ?_
    intro _ _ _ _ counter present
    obtain ⟨live, alive, ends⟩ := ttl_nonneg (not_lt.mp armed)
    rw [(live_some alive).1] at present
    cases present
    exact ends

/-- A hit is counted as one that no other of its key is counted as. -/
theorem Invariant.count (invariant : Invariant redis windowSec) {hit : Hit} {counter : Counter} {keys : Nat}
    (counted : hit.counted = some { key := keys, count := counter.count }) (positive : 0 < counter.count) (later : redis.keys ≤ keys)
    (above : ∀ other count, (redis.hits other).counted = some { key := keys, count } → count < counter.count)
    (reading : ∀ counted, hit = .reading counted → counted.count ≠ 1) (notCompleted : ∀ counted ttlSec time, hit ≠ .completed counted ttlSec time)
    (bounded : ∀ expires, counter.expires = some expires → expires ≤ redis.now + windowSec * 1000)
    (armed : ∀ other count ttlSec time, redis.hits other = .completed { key := keys, count } ttlSec time → counter.expires ≠ none) :
    Invariant { redis.setHit call hit with counter := some counter, keys } windowSec := by
  have counts (other : Nat) (found : Counted) (is : ((redis.setHit call hit).hits other).counted = some found) :
      (other = call ∧ found = { key := keys, count := counter.count }) ∨ (redis.hits other).counted = some found := by
    rw [setHit_hits] at is
    split at is
    · next here => exact Or.inl ⟨here, Option.some.inj (is.symm.trans counted)⟩
    · exact Or.inr is
  refine ⟨?_, ?_, ?_, ?_, ?_, ?_, ?_⟩
  · intro other found is
    rcases counts other found is with ⟨-, rfl⟩ | old
    · exact positive
    · exact invariant.positive other found old
  · intro other found is
    rcases counts other found is with ⟨-, rfl⟩ | old
    · exact Nat.le_refl _
    · exact (invariant.current other found old).trans later
  · rintro other count is _ ⟨⟩
    rcases counts other _ is with ⟨-, same⟩ | old
    · cases same
      exact Nat.le_refl _
    · exact (above other count old).le
  · intro other other' found here there
    rcases counts other found here with ⟨rfl, rfl⟩ | old
    · rcases counts other' _ there with ⟨rfl, -⟩ | old'
      · rfl
      · exact absurd (above other' _ old') (lt_irrefl _)
    · rcases counts other' found there with ⟨rfl, rfl⟩ | old'
      · exact absurd (above other _ old) (lt_irrefl _)
      · exact invariant.distinct other other' found old old'
  · intro other found is
    rw [setHit_hits] at is
    split at is
    · exact reading found is
    · exact invariant.reading other found is
  · rintro _ expires ⟨⟩ ends
    exact bounded expires ends
  · rintro other count ttlSec time completed _ ⟨⟩
    rw [setHit_hits] at completed
    split at completed
    · exact absurd completed (notCompleted _ _ _)
    · exact armed other count ttlSec time completed

theorem next_counted (counted : Counted) : counted.next.counted = some counted := by
  unfold Counted.next
  split <;> rfl

theorem next_reading {counted found : Counted} (reading : counted.next = .reading found) : found.count ≠ 1 := by
  unfold Counted.next at reading
  split at reading
  · cases reading
  · cases reading
    assumption

theorem next_ne_completed (counted found : Counted) (ttlSec : Int) (time : Nat) : counted.next ≠ .completed found ttlSec time := by
  unfold Counted.next
  split <;> exact nofun

theorem incr_of_live {counter : Counter} (live : redis.live = some counter) : redis.incr call =
    { redis.setHit call (Counted.next { key := redis.keys, count := counter.count + 1 }) with
      counter := some { counter with count := counter.count + 1 } } := by
  simp only [Redis.incr, live]
  rfl

theorem incr_of_gone (gone : redis.live = none) : redis.incr call =
    { redis.setHit call (Counted.next { key := redis.keys + 1, count := 1 }) with
      counter := some { count := 1, expires := none }, keys := redis.keys + 1 } := by
  simp only [Redis.incr, gone]
  rfl

/-- No hit has been counted in a key that there has not been. -/
theorem Invariant.fresh (invariant : Invariant redis windowSec) {other count : Nat} :
    (redis.hits other).counted ≠ some { key := redis.keys + 1, count } :=
  fun counted => Nat.not_succ_le_self _ (invariant.current other _ counted)

theorem Invariant.incr (invariant : Invariant redis windowSec) : Invariant (redis.incr call) windowSec := by
  cases live : redis.live with
  | some counter =>
    have present := (live_some live).1
    rw [incr_of_live live]
    refine invariant.count (next_counted _) (Nat.succ_pos _) (Nat.le_refl _) ?_ (fun _ => next_reading) (next_ne_completed _) ?_ ?_
    · exact fun other count is => Nat.lt_succ_of_le (invariant.counted other count is counter present)
    · exact fun expires ends => invariant.bounded counter expires present ends
    · exact fun other count ttlSec time completed => invariant.armed other count ttlSec time completed counter present
  | none =>
    rw [incr_of_gone live]
    refine invariant.count (next_counted _) Nat.one_pos (Nat.le_succ _) ?_ (fun _ => next_reading) (next_ne_completed _) nofun ?_
    · exact fun other count is => (invariant.fresh is).elim
    · intro other count ttlSec time completed
      exact absurd (counted_of_completed completed) invariant.fresh

/-- What each event finds and does. -/
theorem step_cases (step : redis.step windowSec event = some redis') :
    (∃ ms, event = .wait ms ∧ redis' = { redis with now := redis.now + ms }) ∨
    (∃ call, event = .incr call ∧ redis' = redis.incr call) ∨
    (∃ call counted, event = .ttl call ∧ redis.hits call = .reading counted ∧ redis' = redis.read call counted) ∨
    (∃ call counted, event = .expire call ∧ (redis.hits call).counted = some counted ∧
      (∀ found ttlSec time, redis.hits call ≠ .completed found ttlSec time) ∧ redis' = redis.expire windowSec call counted) ∨
    ∃ call counted, event = .die call ∧ (redis.hits call).counted = some counted ∧ redis' = redis.setHit call (.dead counted) := by
  cases event with
  | wait ms =>
    cases step
    exact Or.inl ⟨ms, rfl, rfl⟩
  | incr call =>
    simp only [Redis.step] at step
    split at step
    · cases step
      exact Or.inr (Or.inl ⟨call, rfl, rfl⟩)
    · cases step
  | ttl call =>
    simp only [Redis.step] at step
    split at step
    · next counted reading =>
      cases step
      exact Or.inr (Or.inr (Or.inl ⟨call, counted, rfl, reading, rfl⟩))
    · cases step
  | expire call =>
    simp only [Redis.step] at step
    split at step
    · next counted expiring =>
      cases step
      refine Or.inr (Or.inr (Or.inr (Or.inl ⟨call, counted, rfl, ?_, ?_, rfl⟩))) <;> rw [expiring]
      · rfl
      · exact nofun
    · next counted repairing =>
      cases step
      refine Or.inr (Or.inr (Or.inr (Or.inl ⟨call, counted, rfl, ?_, ?_, rfl⟩))) <;> rw [repairing]
      · rfl
      · exact nofun
    · cases step
  | die call =>
    refine Or.inr (Or.inr (Or.inr (Or.inr ?_)))
    simp only [Redis.step] at step
    split at step
    · next counted expiring =>
      cases step
      exact ⟨call, counted, rfl, by rw [expiring]; rfl, rfl⟩
    · next counted reading =>
      cases step
      exact ⟨call, counted, rfl, by rw [reading]; rfl, rfl⟩
    · next counted repairing =>
      cases step
      exact ⟨call, counted, rfl, by rw [repairing]; rfl, rfl⟩
    · cases step

theorem Invariant.step (invariant : Invariant redis windowSec) (step : redis.step windowSec event = some redis') :
    Invariant redis' windowSec := by
  rcases step_cases step with ⟨ms, -, rfl⟩ | ⟨call, -, rfl⟩ | ⟨call, counted, -, reading, rfl⟩ | ⟨call, counted, -, counts, -, rfl⟩ |
    ⟨call, counted, -, counts, rfl⟩
  · refine { invariant with bounded := ?_ }
    intro counter expires present ends
    have bound := invariant.bounded counter expires present ends
    simp only
    omega
  · exact invariant.incr
  · exact invariant.read reading
  · exact invariant.expire counts
  · exact invariant.setHit counts.symm nofun nofun

theorem Timely.empty : Timely empty windowSec := nofun

theorem Timely.incr (timely : Timely redis windowSec) (invariant : Invariant redis windowSec) : Timely (redis.incr call) windowSec := by
  cases live : redis.live with
  | some counter =>
    rw [incr_of_live live]
    rintro other ttlSec time completed _ ⟨⟩
    rw [setHit_hits] at completed
    split at completed
    · exact absurd completed (next_ne_completed _ _ _ _)
    · exact timely other ttlSec time completed counter (live_some live).1
  | none =>
    rw [incr_of_gone live]
    intro other ttlSec time completed
    rw [setHit_hits] at completed
    split at completed
    · exact absurd completed (next_ne_completed _ _ _ _)
    · exact absurd (counted_of_completed completed) invariant.fresh

/-- An `EXPIRE` that comes in time leaves the window as it should be. -/
theorem Timely.expire {counted : Counted}
    (punctual : redis.live.isSome → ∀ first ttlSec time, redis.hits first = .completed { key := redis.keys, count := 1 } ttlSec time →
      redis.now ≤ time) : Timely (redis.expire windowSec call counted) windowSec := by
  intro other ttlSec time completed counter present
  obtain ⟨before, live, rfl⟩ := Option.map_eq_some_iff.mp present
  refine ⟨_, rfl, ?_⟩
  unfold Redis.expire at completed
  rw [setHit_hits] at completed
  split at completed
  · injection completed with _ _ now
    rw [now]
  · exact Nat.add_le_add_right (punctual (by rw [live]; rfl) other ttlSec time completed) _

theorem Timely.step (timely : Timely redis windowSec) (invariant : Invariant redis windowSec)
    (step : redis.step windowSec event = some redis') (punctual : Punctual ⟨redis, event, redis'⟩) : Timely redis' windowSec := by
  rcases step_cases step with ⟨ms, -, rfl⟩ | ⟨call, -, rfl⟩ | ⟨call, counted, -, reading, rfl⟩ | ⟨call, counted, rfl, -, -, rfl⟩ |
    ⟨call, counted, -, -, rfl⟩
  · exact timely
  · exact timely.incr invariant
  · intro other ttlSec time completed
    unfold Redis.read at completed
    rw [setHit_hits] at completed
    split at completed
    · split at completed
      · cases completed
      · injection completed with same
        exact absurd (congrArg Counted.count same) (invariant.reading call _ reading)
    · exact timely other ttlSec time completed
  · exact Timely.expire (punctual call rfl)
  · intro other ttlSec time completed
    rw [setHit_hits] at completed
    split at completed
    · cases completed
    · exact timely other ttlSec time completed

/-- An `EXPIRE` that comes late makes the window longer. -/
theorem Fixed.punctual (fixed : Fixed redis' windowSec) (positive : 0 < windowSec) (step : redis.step windowSec event = some redis') :
    Punctual ⟨redis, event, redis'⟩ := by
  intro call act present first ttlSec time completed
  obtain rfl : event = .expire call := act
  rcases step_cases step with ⟨_, act', -⟩ | ⟨_, act', -⟩ | ⟨_, _, act', -, -⟩ | ⟨_, counted, act', -, running, rfl⟩ | ⟨_, _, act', -, -⟩
  · cases act'
  · cases act'
  · cases act'
  · cases act'
    obtain ⟨counter, live⟩ := Option.isSome_iff_exists.mp present
    have other : first ≠ call := by
      rintro rfl
      exact running _ _ _ completed
    have still : (redis.expire windowSec call counted).hits first = .completed { key := redis.keys, count := 1 } ttlSec time :=
      (setHit_hits _ first).trans ((if_neg other).trans completed)
    have alive : (redis.expire windowSec call counted).live = some { counter with expires := some (redis.now + windowSec * 1000) } := by
      refine Option.filter_eq_some_iff.mpr ⟨?_, decide_eq_true (Nat.lt_add_of_pos_right (by omega))⟩
      exact Option.map_eq_some_iff.mpr ⟨counter, live, rfl⟩
    obtain ⟨-, _, ends, bound⟩ := fixed first ttlSec time still _ alive
    cases ends
    exact Nat.le_of_add_le_add_right bound
  · cases act'

theorem Invariant.armed_live (invariant : Invariant redis windowSec) : Armed redis windowSec := by
  intro call count ttlSec time completed counter live
  have present := (live_some live).1
  obtain ⟨expires, ends⟩ := Option.ne_none_iff_exists'.mp (invariant.armed call count ttlSec time completed counter present)
  exact ⟨expires, ends, invariant.bounded counter expires present ends⟩

theorem Timely.fixed (timely : Timely redis windowSec) : Fixed redis windowSec := by
  intro call ttlSec time completed counter live
  obtain ⟨present, alive⟩ := live_some live
  obtain ⟨expires, ends, bound⟩ := timely call ttlSec time completed counter present
  exact ⟨(alive expires ends).trans_le bound, expires, ends, bound⟩

/-- A key is gone a window after the hit that counted 1 in it completed. -/
theorem Fixed.gone (fixed : Fixed redis windowSec) {ttlSec : Int} {time : Nat}
    (completed : redis.hits call = .completed { key := redis.keys, count := 1 } ttlSec time) (later : time + windowSec * 1000 ≤ redis.now) :
    redis.live = none := by
  cases live : redis.live with
  | none => rfl
  | some counter => exact absurd (fixed call ttlSec time completed counter live).1 (not_lt.mpr later)

theorem canActivate_iff {guard : RateLimitGuard} (enabled : guard.enabled = true) (sub ip : Option String) (result : RateLimitResult) :
    guard.canActivate false sub ip (fun _ _ => .ok result) = .ok () ↔ result.count ≤ guard.max := by
  unfold RateLimitGuard.canActivate
  rw [if_neg (by rw [enabled]; exact nofun), if_neg nofun]
  by_cases beyond : guard.max < result.count
  · simp only [if_pos beyond]
    exact iff_of_false nofun (not_le.mpr beyond)
  · simp only [if_neg beyond]
    exact iff_of_true rfl (not_lt.mp beyond)

/-- The hits that a key admits are numbered from one to the limit. -/
theorem Invariant.admits (invariant : Invariant redis windowSec) {guard : RateLimitGuard} (enabled : guard.enabled = true) :
    Admits redis guard := by
  intro key calls admitted
  let number (call : Nat) : Nat := ((redis.hits call).counted.map Counted.count).getD 0
  have numbered (call : Nat) (member : call ∈ calls) : (redis.hits call).counted = some { key, count := number call } ∧ number call ≤ guard.max := by
    obtain ⟨count, ttlSec, time, sub, ip, completed, allowed⟩ := admitted call member
    have counted := counted_of_completed completed
    have same : number call = count := by simp only [number, counted, Option.map_some, Option.getD_some]
    rw [same]
    exact ⟨counted, (canActivate_iff enabled sub ip _).mp allowed⟩
  have within : ∀ call ∈ calls, number call ∈ Finset.Icc 1 guard.max := fun call member =>
    Finset.mem_Icc.mpr ⟨invariant.positive call _ (numbered call member).1, (numbered call member).2⟩
  have apart : Set.InjOn number calls := by
    intro call member call' member' same
    have counted' := (numbered call' member').1
    rw [← same] at counted'
    exact invariant.distinct call call' _ (numbered call member).1 counted'
  exact (Finset.card_le_card_of_injOn number within apart).trans_eq (by rw [Nat.card_Icc, Nat.add_sub_cancel])

end Redis

variable {guard : RateLimitGuard} {log : List (Commit Redis Event)} {redis : Redis}

/-- No key admits more than the limit and none stays without a ttl; and each is
gone in time exactly as long as no `EXPIRE` comes late. -/
theorem Run.limits (enabled : guard.enabled = true) (run : Run guard.windowSec log redis) :
    ((∀ p, Seen log redis p → p.Admits guard ∧ p.Armed guard.windowSec ∧ p.Fixed guard.windowSec) ↔ ∀ commit ∈ log, Punctual commit) ∧
      ∀ p, Seen log redis p → p.Admits guard ∧ p.Armed guard.windowSec := by
  constructor
  · refine run.forall_iff_of_invariant (I := fun p => p.Invariant guard.windowSec ∧ p.Timely guard.windowSec) ?_ ?_ ?_ ?_
    · rintro _ rfl
      exact ⟨.empty, .empty⟩
    · exact fun p kept => ⟨kept.1.admits enabled, kept.1.armed_live, kept.2.fixed⟩
    · exact fun _ _ _ _ step punctual kept => ⟨kept.1.step step, kept.2.step kept.1 step punctual⟩
    · exact fun _ _ _ _ step _ limited => limited.2.2.punctual guard.positive step
  · intro p seen
    have invariant := run.invariant_seen (I := fun p => p.Invariant guard.windowSec) (fun _ start => start ▸ .empty)
      (fun _ _ _ _ step invariant => invariant.step step) p seen
    exact ⟨invariant.admits enabled, invariant.armed_live⟩

section samples

def sampleGuard : RateLimitGuard where
  enabled := true
  max := 2
  windowSec := 60
  positive := by decide

/-- Three requests in a window: the third is not admitted, and the key has gone
when the window is over, although the first caller of the next key dies. -/
theorem limits_of_punctual : ∃ log redis, Run sampleGuard.windowSec log redis ∧ redis.keys = 2 ∧ redis.now = 60000 ∧
    (∀ p, Seen log redis p → p.Admits sampleGuard ∧ p.Armed sampleGuard.windowSec ∧ p.Fixed sampleGuard.windowSec) ∧
    ∀ p, Seen log redis p → p.Admits sampleGuard ∧ p.Armed sampleGuard.windowSec := by
  have start : Run 60 [] .empty := .start rfl
  have first := (start.commit (a := .incr 0) rfl).commit (a := .expire 0) rfl
  have second := (first.commit (a := .incr 1) rfl).commit (a := .ttl 1) rfl
  have third := (second.commit (a := .incr 2) rfl).commit (a := .ttl 2) rfl
  have run := ((third.commit (a := .wait 60000) rfl).commit (a := .incr 3) rfl).commit (a := .die 3) rfl
  refine ⟨_, _, run, rfl, rfl, ?_⟩
  obtain ⟨exactly, always⟩ := @Run.limits sampleGuard _ _ rfl run
  refine ⟨exactly.mpr fun commit member => ?_, always⟩
  simp only [List.mem_cons, List.not_mem_nil, or_false] at member
  rcases member with rfl | rfl | rfl | rfl | rfl | rfl | rfl | rfl | rfl
  · exact fun _ act => nomatch act
  · exact fun _ act => nomatch act
  · exact fun _ act => nomatch act
  · exact fun _ act => nomatch act
  · exact fun _ act => nomatch act
  · exact fun _ act => nomatch act
  · exact fun _ act => nomatch act
  · intro call _ _ caller ttlSec time completed
    have stage : (Redis.empty.incr 0).hits caller = if caller = 0 then .expiring { key := 1, count := 1 } else .idle :=
      Redis.setHit_hits _ caller
    rw [stage] at completed
    split at completed <;> cases completed
  · exact fun _ act => nomatch act

/-- A hit that has read no ttl sends its `EXPIRE` fifty seconds after the first
has completed: after ninety the key of a window of sixty is still there. -/
theorem late_expire : ∃ log redis, Run sampleGuard.windowSec log redis ∧ redis.now = 90000 ∧ redis.live.isSome ∧
    redis.hits 0 = .completed { key := redis.keys, count := 1 } 60 0 ∧ ¬ redis.Fixed sampleGuard.windowSec := by
  obtain ⟨log, redis, run, now, alive, completed⟩ : ∃ log redis, Run sampleGuard.windowSec log redis ∧ redis.now = 90000 ∧
      redis.live.isSome ∧ redis.hits 0 = .completed { key := redis.keys, count := 1 } 60 0 :=
    History.replayed [.incr 0, .incr 1, .ttl 1, .expire 0, .wait 50000, .expire 1, .wait 40000] ⟨_, rfl, rfl, rfl, rfl⟩
  refine ⟨log, redis, run, now, alive, completed, fun fixed => ?_⟩
  have beyond : 0 + sampleGuard.windowSec * 1000 ≤ redis.now := by
    rw [now]
    decide
  rw [fixed.gone completed beyond] at alive
  cases alive

end samples

end FoodDelivery.Gateway.RateLimit
