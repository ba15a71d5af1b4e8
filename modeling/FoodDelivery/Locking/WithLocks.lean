import Mathlib.Data.List.Dedup
import Mathlib.Data.List.Lex
import Mathlib.Data.List.Sort
import Mathlib.Data.List.Perm.Subperm
import FoodDelivery.Messaging.Envelope
import FoodDelivery.Locking.RedisLock

namespace FoodDelivery.Locking.WithLocks

open CommitLog Messaging

/-- The UTF-16 code units of a text, by which `sort` compares. -/
def codeUnits (text : String) : List Nat :=
  text.toList.flatMap fun c =>
    if c.toNat < 0x10000 then [c.toNat]
    else [0xD800 + (c.toNat - 0x10000) / 0x400, 0xDC00 + (c.toNat - 0x10000) % 0x400]

def fenceCounterKey (key : String) : String := key ++ ":fence"

structure HeldLock where
  key : String
  token : Nat
  deriving DecidableEq, Repr

/-- The three commands of `acquire`, the later ones with the token it has drawn. -/
inductive AcquireCommand
  | incr
  | pexpire (token : Nat)
  | set (token : Nat)
  deriving DecidableEq, Repr

inductive Failure (E : Type)
  | lockContention (key : String)
  | thrown (error : E)
  deriving DecidableEq, Repr

/-- What follows `releaseAll`: the result of the callback, or another look at the deadline. -/
inductive After (T E : Type)
  | finish (result : Except (Failure E) T)
  | contended (key : String)
  deriving Repr

/-- A call of `withLocks`, at each of its awaits. -/
inductive Stage (T E : Type)
  | idle
  | acquiring (key : String) (rest : List String) (held : List HeldLock) (command : AcquireCommand)
  | running (held : List HeldLock)
  | releasing (lock : HeldLock) (queue : List HeldLock) (after : After T E)
  | deciding (contendedKey : String)
  | sleeping
  | returned (result : Except (Failure E) T)

/-- A lock that Redis has granted to a call, in which of its passes. -/
structure Grant where
  pass : Nat
  lock : HeldLock
  deriving DecidableEq, Repr

/-- A call with its arguments. Its passes, the locks it was granted, those it
has tried to release and the times its callback has been called are kept for
the statements only. -/
structure Call (T E : Type) where
  keys : List String
  ttlMs : Int
  deadline : Nat
  stage : Stage T E
  pass : Nat
  granted : List Grant
  attempted : List HeldLock
  runs : Nat

/-- What a call gets at its next await. `granted` tells of a `SET` whose answer
was lost whether it had been carried out. -/
inductive Answer (T E : Type)
  | drawn (token : Nat)
  | refreshed
  | set (granted : Bool)
  | throws (error : E) (granted : Bool)
  | settled (result : Except E T)
  | released
  | clock (now : Nat)
  | wake

namespace Call

variable {T E : Type}

def idle : Call T E where
  keys := []
  ttlMs := 0
  deadline := 0
  stage := .idle
  pass := 0
  granted := []
  attempted := []
  runs := 0

/-- `[...new Set(keys)].sort()`. -/
def ordered (call : Call T E) : List String :=
  call.keys.dedup.insertionSort fun a b => codeUnits a ≤ codeUnits b

/-- The loop of `tryAcquireAll`, after which the callback is called. -/
def acquireNext (call : Call T E) (held : List HeldLock) : List String → Call T E
  | [] => { call with stage := .running held, runs := call.runs + 1 }
  | key :: rest => { call with stage := .acquiring key rest held .incr }

def startPass (call : Call T E) : Call T E :=
  { call with pass := call.pass + 1 }.acquireNext [] call.ordered

def start (keys : List String) (ttlMs : Int) (deadline : Nat) : Call T E :=
  { idle with keys, ttlMs, deadline }.startPass

/-- The loop of `releaseAll`, over the locks that are left. -/
def releaseNext (call : Call T E) (after : After T E) : List HeldLock → Call T E
  | lock :: queue => { call with stage := .releasing lock queue after }
  | [] => match after with
    | .finish result => { call with stage := .returned result }
    | .contended key => { call with stage := .deciding key }

def releaseAll (call : Call T E) (held : List HeldLock) (after : After T E) : Call T E :=
  call.releaseNext after held.reverse

def grant (call : Call T E) (lock : HeldLock) : Call T E :=
  { call with granted := { pass := call.pass, lock } :: call.granted }

/-- `withLocks` up to its next await. -/
def step (call : Call T E) (answer : Answer T E) : Option (Call T E) :=
  match call.stage, answer with
  | .acquiring key rest held .incr, .drawn token => some { call with stage := .acquiring key rest held (.pexpire token) }
  | .acquiring key rest held (.pexpire token), .refreshed => some { call with stage := .acquiring key rest held (.set token) }
  | .acquiring key rest held (.set token), .set true =>
    some ((call.grant { key, token }).acquireNext (held ++ [{ key, token }]) rest)
  | .acquiring key _ held (.set _), .set false => some (call.releaseAll held (.contended key))
  | .acquiring key _ _ (.set token), .throws error true =>
    some { call.grant { key, token } with stage := .returned (.error (.thrown error)) }
  | .acquiring .., .throws error false => some { call with stage := .returned (.error (.thrown error)) }
  | .running held, .settled result => some (call.releaseAll held (.finish (result.mapError .thrown)))
  -- A release that throws is logged, and the next one follows.
  | .releasing lock queue after, .released => some ({ call with attempted := lock :: call.attempted }.releaseNext after queue)
  | .deciding key, .clock now =>
    if now ≥ call.deadline then some { call with stage := .returned (.error (.lockContention key)) }
    else some { call with stage := .sleeping }
  | .sleeping, .wake => some call.startPass
  | _, _ => none

end Call

/-- A value of Redis: a counter, or the token of a lock. Whose lock it is is
kept for the statements only. -/
structure Entry where
  value : Nat
  owner : Option Nat
  expires : Option Nat
  deriving DecidableEq, Repr

structure Redis where
  now : Nat
  entries : String → Option Entry

namespace Redis

def empty : Redis := { now := 0, entries := fun _ => none }

/-- The value under a key, unless it has expired. -/
def get (redis : Redis) (key : String) : Option Entry :=
  (redis.entries key).filter fun entry => entry.expires.all fun expires => redis.now < expires

def put (redis : Redis) (key : String) (entry : Option Entry) : Redis :=
  { redis with entries := Function.update redis.entries key entry }

/-- `INCR` counts up whatever number it finds, and starts at 1 without a lifetime. -/
def incr (redis : Redis) (key : String) : Nat × Redis :=
  match redis.get key with
  | some entry => (entry.value + 1, redis.put key (some { entry with value := entry.value + 1 }))
  | none => (1, redis.put key (some { value := 1, owner := none, expires := none }))

def pexpire (redis : Redis) (key : String) (ttlMs : Nat) : Redis :=
  redis.put key ((redis.get key).map fun entry => { entry with expires := some (redis.now + ttlMs) })

/-- `SET PX NX`. -/
def set (redis : Redis) (key : String) (token owner ttlMs : Nat) : Bool × Redis :=
  match redis.get key with
  | some _ => (false, redis)
  | none => (true, redis.put key (some { value := token, owner := some owner, expires := some (redis.now + ttlMs) }))

/-- `RELEASE_SCRIPT`. -/
def compareAndDelete (redis : Redis) (lock : HeldLock) : Redis :=
  match redis.get lock.key with
  | some entry => if entry.value = lock.token then redis.put lock.key none else redis
  | none => redis

end Redis

/-- Redis and the calls of all its clients. -/
structure System (T E : Type) where
  redis : Redis
  calls : Nat → Call T E

/-- A command of `acquire` or a release has a result; the clock is the client's own. -/
inductive Event (T E : Type)
  | wait (ms : Nat)
  | start (call : Nat) (keys : List String) (ttlMs : Int) (waitTimeoutMs clock : Nat)
  | acquire (call : Nat) (result : RequestResult) (error : E)
  | callback (call : Nat) (result : Except E T)
  | release (call : Nat) (result : RequestResult)
  | clock (call now : Nat)
  | wake (call : Nat)

namespace System

variable {T E : Type}

def empty : System T E := { redis := .empty, calls := fun _ => .idle }

/-- One command of `acquire`: what the call gets, and Redis afterwards. A `SET`
whose lifetime is not positive is refused with an error. -/
def command (redis : Redis) (id : Nat) (call : Call T E) (key : String) (result : RequestResult) (error : E) :
    AcquireCommand → Option (Answer T E × Redis)
  | .incr =>
    let (token, after) := redis.incr (fenceCounterKey key)
    match result with
    | .done => some (.drawn token, after)
    | .lostAnswer => some (.throws error false, after)
    | .failed => some (.throws error false, redis)
  | .pexpire _ =>
    let after := redis.pexpire (fenceCounterKey key) fenceCounterTtlMs
    match result with
    | .done => some (.refreshed, after)
    | .lostAnswer => some (.throws error false, after)
    | .failed => some (.throws error false, redis)
  | .set token =>
    let (granted, after) := redis.set key token id call.ttlMs.toNat
    match result with
    | .done => if 0 < call.ttlMs then some (.set granted, after) else none
    | .lostAnswer => if 0 < call.ttlMs then some (.throws error granted, after) else none
    | .failed => some (.throws error false, redis)

/-- A call gets an answer and goes on to its next await. -/
def answer (s : System T E) (id : Nat) (answer : Answer T E) (redis : Redis) : Option (System T E) :=
  ((s.calls id).step answer).map fun call => { redis, calls := Function.update s.calls id call }

def step (s : System T E) : Event T E → Option (System T E)
  | .wait ms => some { s with redis := { s.redis with now := s.redis.now + ms } }
  | .start id keys ttlMs waitTimeoutMs clock =>
    match (s.calls id).stage with
    | .idle => some { s with calls := Function.update s.calls id (Call.start keys ttlMs (clock + waitTimeoutMs)) }
    | _ => none
  | .acquire id result error =>
    match (s.calls id).stage with
    | .acquiring key _ _ next =>
      (command s.redis id (s.calls id) key result error next).bind fun (answer, redis) => s.answer id answer redis
    | _ => none
  | .callback id result => s.answer id (.settled result) s.redis
  | .release id result =>
    match (s.calls id).stage with
    | .releasing lock _ _ =>
      s.answer id .released (if result = .failed then s.redis else s.redis.compareAndDelete lock)
    | _ => none
  | .clock id now => s.answer id (.clock now) s.redis
  | .wake id => s.answer id .wake s.redis

end System

/-- The locks that a call still has to release. -/
def Stage.toRelease {T E : Type} : Stage T E → List HeldLock
  | .acquiring _ _ held _ => held
  | .running held => held
  | .releasing lock queue _ => lock :: queue
  | _ => []

namespace Call

variable {T E : Type} {call next : Call T E}

/-- The callback is called at most once, and then every requested key has been
acquired in the same pass. -/
structure Guarded (call : Call T E) : Prop where
  once : call.runs ≤ 1
  acquired : ∀ held, call.stage = .running held → ∀ key ∈ call.keys, ∃ token, { pass := call.pass, lock := { key, token } } ∈ call.granted

/-- A call that has returned has tried to release every lock it was granted. -/
def Released (call : Call T E) : Prop :=
  ∀ result, call.stage = .returned result → (call.granted.map Grant.lock).Subperm call.attempted

/-- How far a pass has come, and whether the callback has been called. -/
def Orderly (call : Call T E) : Prop :=
  match call.stage with
  | .acquiring key rest held _ => call.runs = 0 ∧ held.map HeldLock.key ++ key :: rest = call.ordered ∧
      ∀ lock ∈ held, { pass := call.pass, lock } ∈ call.granted
  | .running held => call.runs = 1 ∧ held.map HeldLock.key = call.ordered ∧
      ∀ lock ∈ held, { pass := call.pass, lock } ∈ call.granted
  | .releasing _ _ (.finish _) => call.runs ≤ 1
  | .returned _ => call.runs ≤ 1
  | _ => call.runs = 0

/-- Every lock granted so far has been released, or is known to be held. -/
def Accounted (call : Call T E) : Prop :=
  (call.granted.map Grant.lock).Perm (call.attempted ++ call.stage.toRelease)

theorem mem_ordered {key : String} : key ∈ call.ordered ↔ key ∈ call.keys := by
  rw [ordered, List.mem_insertionSort, List.mem_dedup]

theorem Orderly.guarded (orderly : call.Orderly) : call.Guarded := by
  constructor
  · simp only [Orderly] at orderly
    split at orderly <;> omega
  · intro held running key requested
    simp only [Orderly, running] at orderly
    obtain ⟨-, keys, granted⟩ := orderly
    rw [← mem_ordered, ← keys] at requested
    obtain ⟨lock, member, rfl⟩ := List.mem_map.mp requested
    exact ⟨lock.token, granted lock member⟩

theorem Orderly.acquireNext {held : List HeldLock} {keys : List String} (unrun : call.runs = 0)
    (progress : held.map HeldLock.key ++ keys = call.ordered)
    (granted : ∀ lock ∈ held, { pass := call.pass, lock } ∈ call.granted) : (call.acquireNext held keys).Orderly := by
  cases keys with
  | nil =>
    rw [List.append_nil] at progress
    exact ⟨congrArg (· + 1) unrun, progress, granted⟩
  | cons key rest => exact ⟨unrun, progress, granted⟩

theorem Orderly.startPass (unrun : call.runs = 0) : call.startPass.Orderly :=
  .acquireNext unrun rfl nofun

theorem Orderly.releaseNext {after : After T E} {queue : List HeldLock} (unrun : ∀ key, after = .contended key → call.runs = 0)
    (once : call.runs ≤ 1) : (call.releaseNext after queue).Orderly := by
  cases queue with
  | nil =>
    cases after with
    | finish result => exact once
    | contended key => exact unrun key rfl
  | cons lock queue =>
    cases after with
    | finish result => exact once
    | contended key => exact unrun key rfl

theorem Orderly.step {answer : Answer T E} (orderly : call.Orderly) (step : call.step answer = some next) : next.Orderly := by
  simp only [Call.step] at step
  split at step
  case h_11 => cases step
  all_goals
    rename_i stage
    simp only [Orderly, stage] at orderly
  case h_1 =>
    cases step
    exact orderly
  case h_2 =>
    cases step
    exact orderly
  case h_3 key rest held token =>
    cases step
    obtain ⟨unrun, progress, granted⟩ := orderly
    refine .acquireNext unrun ?_ ?_
    · rw [List.map_append, List.append_assoc]
      exact progress
    · intro lock member
      rcases List.mem_append.mp member with earlier | now
      · exact List.mem_cons_of_mem _ (granted lock earlier)
      · rw [List.mem_singleton.mp now]
        exact List.mem_cons_self ..
  case h_4 =>
    cases step
    exact .releaseNext (fun _ _ => orderly.1) (Nat.le_succ_of_le (Nat.le_of_eq orderly.1))
  case h_5 =>
    cases step
    exact Nat.le_succ_of_le (Nat.le_of_eq orderly.1)
  case h_6 =>
    cases step
    exact Nat.le_succ_of_le (Nat.le_of_eq orderly.1)
  case h_7 =>
    cases step
    exact .releaseNext nofun (Nat.le_of_eq orderly.1)
  case h_8 lock queue after =>
    cases step
    cases after with
    | finish result => exact .releaseNext nofun orderly
    | contended key => exact .releaseNext (fun _ _ => orderly) (Nat.le_succ_of_le (Nat.le_of_eq orderly))
  case h_9 =>
    split at step
    · cases step
      exact Nat.le_succ_of_le (Nat.le_of_eq orderly)
    · cases step
      exact orderly
  case h_10 =>
    cases step
    exact .startPass orderly

@[simp]
theorem toRelease_acquireNext (held : List HeldLock) (keys : List String) :
    (call.acquireNext held keys).stage.toRelease = held := by
  cases keys <;> rfl

@[simp]
theorem toRelease_releaseNext (after : After T E) (queue : List HeldLock) :
    (call.releaseNext after queue).stage.toRelease = queue := by
  cases queue with
  | nil => cases after <;> rfl
  | cons lock queue => rfl

/-- The two lists do not change while a call acquires and releases. -/
@[simp]
theorem granted_acquireNext (held : List HeldLock) (keys : List String) : (call.acquireNext held keys).granted = call.granted := by
  cases keys <;> rfl

@[simp]
theorem attempted_acquireNext (held : List HeldLock) (keys : List String) :
    (call.acquireNext held keys).attempted = call.attempted := by
  cases keys <;> rfl

@[simp]
theorem granted_releaseNext (after : After T E) (queue : List HeldLock) :
    (call.releaseNext after queue).granted = call.granted := by
  cases queue with
  | nil => cases after <;> rfl
  | cons lock queue => rfl

@[simp]
theorem attempted_releaseNext (after : After T E) (queue : List HeldLock) :
    (call.releaseNext after queue).attempted = call.attempted := by
  cases queue with
  | nil => cases after <;> rfl
  | cons lock queue => rfl

/-- A command of `acquire` throws only where no lock is held, and is not granted. -/
def KeepsHeld (call : Call T E) (answer : Answer T E) : Prop :=
  ∀ error granted, answer = .throws error granted → granted = false ∧ call.stage.toRelease = []

theorem Accounted.step {answer : Answer T E} (accounted : call.Accounted) (keeps : call.KeepsHeld answer)
    (step : call.step answer = some next) : next.Accounted := by
  simp only [Call.step] at step
  split at step
  case h_11 => cases step
  all_goals
    rename_i stage
    simp only [Accounted, stage, Stage.toRelease] at accounted
  case h_1 =>
    cases step
    exact accounted
  case h_2 =>
    cases step
    exact accounted
  case h_3 key rest held token =>
    cases step
    simp only [Accounted, toRelease_acquireNext, granted_acquireNext, attempted_acquireNext, grant, List.map_cons]
    rw [← List.append_assoc]
    exact (accounted.cons _).trans (List.perm_append_singleton ..).symm
  case h_4 =>
    cases step
    simp only [Accounted, releaseAll, toRelease_releaseNext, granted_releaseNext, attempted_releaseNext]
    exact accounted.trans ((List.reverse_perm _).symm.append_left _)
  case h_5 =>
    cases (keeps _ true rfl).1
  case h_6 =>
    cases step
    have none := (keeps _ false rfl).2
    simp only [stage, Stage.toRelease] at none
    subst none
    exact accounted
  case h_7 =>
    cases step
    simp only [Accounted, releaseAll, toRelease_releaseNext, granted_releaseNext, attempted_releaseNext]
    exact accounted.trans ((List.reverse_perm _).symm.append_left _)
  case h_8 lock queue after =>
    cases step
    simp only [Accounted, toRelease_releaseNext, granted_releaseNext, attempted_releaseNext]
    exact accounted.trans List.perm_middle
  case h_9 =>
    split at step
    · cases step
      exact accounted
    · cases step
      exact accounted
  case h_10 =>
    cases step
    simp only [Accounted, startPass, toRelease_acquireNext, granted_acquireNext, attempted_acquireNext]
    exact accounted

theorem Accounted.released (accounted : call.Accounted) : call.Released := by
  intro result returned
  simp only [Accounted, returned, Stage.toRelease, List.append_nil] at accounted
  exact accounted.subperm

/-- Only a lock that is granted comes to those that are to be released. -/
theorem toRelease_step {answer : Answer T E} (step : call.step answer = some next) :
    (∀ lock ∈ next.stage.toRelease, lock ∈ call.stage.toRelease) ∨
      ∃ key rest held token, call.stage = .acquiring key rest held (.set token) ∧ answer = .set true ∧
        ∀ lock ∈ next.stage.toRelease, lock ∈ call.stage.toRelease ∨ lock = { key, token } := by
  simp only [Call.step] at step
  split at step
  case h_11 => cases step
  all_goals rename_i stage
  case h_3 key rest held token =>
    cases step
    refine Or.inr ⟨key, rest, held, token, stage, rfl, ?_⟩
    rw [toRelease_acquireNext, stage]
    intro lock member
    exact (List.mem_append.mp member).imp_right List.mem_singleton.mp
  all_goals refine Or.inl ?_
  case h_4 =>
    cases step
    rw [releaseAll, toRelease_releaseNext, stage]
    exact fun lock => List.mem_reverse.mp
  case h_7 =>
    cases step
    rw [releaseAll, toRelease_releaseNext, stage]
    exact fun lock => List.mem_reverse.mp
  case h_8 =>
    cases step
    rw [toRelease_releaseNext, stage]
    exact fun lock => List.mem_cons_of_mem _
  case h_9 =>
    split at step
    · cases step
      exact nofun
    · cases step
      exact nofun
  case h_10 =>
    cases step
    rw [startPass, toRelease_acquireNext]
    exact nofun
  all_goals
    cases step
    rw [stage]
  case h_1 => exact fun _ => id
  case h_2 => exact fun _ => id
  case h_5 => exact nofun
  case h_6 => exact nofun

/-- A command that throws ends the call. -/
theorem step_throws {error : E} {granted : Bool} (step : call.step (.throws error granted) = some next) :
    next.stage = .returned (.error (.thrown error)) ∧ next.attempted = call.attempted ∧
      next.granted.length = call.granted.length + if granted then 1 else 0 := by
  simp only [Call.step] at step
  split at step
  case h_5 answer =>
    cases step
    cases answer
    exact ⟨rfl, rfl, rfl⟩
  case h_6 answer =>
    cases step
    cases answer
    exact ⟨rfl, rfl, rfl⟩
  case h_11 => cases step
  all_goals rename_i absurd; cases absurd

/-- A command that throws although a lock is held, or is granted, loses it. -/
theorem Accounted.keepsHeld {answer : Answer T E} (accounted : call.Accounted) (step : call.step answer = some next)
    (released : next.Released) : call.KeepsHeld answer := by
  rintro error granted rfl
  obtain ⟨returned, attempted, more⟩ := step_throws step
  have all := accounted.length_eq
  have shorter := (released _ returned).length_le
  rw [List.length_append, List.length_map] at all
  rw [attempted, List.length_map, more] at shorter
  cases granted with
  | true =>
    rw [if_pos rfl] at shorter
    omega
  | false => exact ⟨rfl, List.eq_nil_of_length_eq_zero (by omega)⟩

end Call

namespace Redis

variable {redis redis' : Redis} {key other : String}

theorem get_put_self (entry : Option Entry) :
    (redis.put key entry).get key = entry.filter fun entry => entry.expires.all fun expires => redis.now < expires := by
  have same : (redis.put key entry).entries key = entry := Function.update_self ..
  rw [get, same]
  rfl

theorem get_put_of_ne (entry : Option Entry) (apart : other ≠ key) : (redis.put key entry).get other = redis.get other := by
  have same : (redis.put key entry).entries other = redis.entries other := Function.update_of_ne apart ..
  rw [get, same]
  rfl

/-- Every lock there is was there before, with the same token. -/
def Keeps (redis redis' : Redis) : Prop :=
  ∀ key entry owner, redis'.get key = some entry → entry.owner = some owner →
    ∃ before, redis.get key = some before ∧ before.value = entry.value ∧ before.owner = some owner

theorem Keeps.refl : redis.Keeps redis := fun _ entry _ found owned => ⟨entry, found, rfl, owned⟩

theorem Keeps.wait (ms : Nat) : redis.Keeps { redis with now := redis.now + ms } := by
  intro key entry owner found owned
  refine ⟨entry, ?_, rfl, owned⟩
  simp only [get, Option.filter_eq_some_iff] at found ⊢
  refine ⟨found.1, ?_⟩
  cases expires : entry.expires with
  | none => rfl
  | some time =>
    have alive := found.2
    simp only [expires, Option.all_some, decide_eq_true_eq] at alive ⊢
    omega

/-- What is put under a key is no lock, or the lock that was there. -/
theorem Keeps.put {entry : Option Entry}
    (lock : ∀ entry' owner, entry = some entry' → entry'.owner = some owner →
      ∃ before, redis.get key = some before ∧ before.value = entry'.value ∧ before.owner = some owner) :
    redis.Keeps (redis.put key entry) := by
  intro key' entry' owner found owned
  by_cases same : key' = key
  · subst same
    rw [get_put_self, Option.filter_eq_some_iff] at found
    exact lock entry' owner found.1 owned
  · rw [get_put_of_ne entry same] at found
    exact ⟨entry', found, rfl, owned⟩

theorem Keeps.incr (counter : ∀ entry, redis.get key = some entry → entry.owner = none) : redis.Keeps (redis.incr key).2 := by
  cases found : redis.get key with
  | none =>
    simp only [Redis.incr, found]
    refine .put ?_
    rintro _ owner ⟨⟩ ⟨⟩
  | some entry =>
    simp only [Redis.incr, found]
    refine .put ?_
    rintro _ owner ⟨⟩ owned
    cases (counter entry found).symm.trans owned

theorem Keeps.pexpire (ttlMs : Nat) : redis.Keeps (redis.pexpire key ttlMs) := by
  refine .put ?_
  intro entry owner now owned
  obtain ⟨before, found, rfl⟩ := Option.map_eq_some_iff.mp now
  exact ⟨before, found, rfl, owned⟩

theorem Keeps.compareAndDelete (lock : HeldLock) : redis.Keeps (redis.compareAndDelete lock) := by
  unfold Redis.compareAndDelete
  split
  · split
    · exact .put nofun
    · exact .refl
  · exact .refl

/-- `SET NX` puts a lock under a key that has none. -/
theorem set_cases (redis : Redis) (key : String) (token owner ttlMs : Nat) :
    (redis.set key token owner ttlMs).1 = false ∧ redis.get key ≠ none ∧ (redis.set key token owner ttlMs).2 = redis ∨
      (redis.set key token owner ttlMs).1 = true ∧ redis.get key = none ∧ ∃ expires,
        (redis.set key token owner ttlMs).2 = redis.put key (some { value := token, owner := some owner, expires }) := by
  cases found : redis.get key with
  | none => exact Or.inr ⟨by simp only [set, found], rfl, some (redis.now + ttlMs), by simp only [set, found]⟩
  | some entry => exact Or.inl ⟨by simp only [set, found], nofun, by simp only [set, found]⟩

end Redis

abbrev Run (T E : Type) : List (Commit (System T E) (Event T E)) → System T E → Prop :=
  History (· = System.empty) fun _ event s s' => s.step event = some s'

section run

variable {T E : Type}

/-- A command of `acquire` throws only where no lock is held, and no `SET` that
is carried out loses its answer. -/
def KeepsHeld (commit : Commit (System T E) (Event T E)) : Prop :=
  ∀ id result error key rest held command, commit.act = .acquire id result error → result ≠ .done →
    (commit.before.calls id).stage = .acquiring key rest held command →
      held = [] ∧ ∀ token, command = .set token → result = .lostAnswer → commit.before.redis.get key ≠ none

/-- `INCR` finds no lock under the key of its counter, and no token is put under
a key that another call would still release with the same token. -/
structure FreshToken (commit : Commit (System T E) (Event T E)) : Prop where
  counters : ∀ id result error key rest held entry, commit.act = .acquire id result error → result ≠ .failed →
    (commit.before.calls id).stage = .acquiring key rest held .incr →
      commit.before.redis.get (fenceCounterKey key) = some entry → entry.owner = none
  tokens : ∀ id result error key rest held token, commit.act = .acquire id result error → result ≠ .failed →
    (commit.before.calls id).stage = .acquiring key rest held (.set token) → commit.before.redis.get key = none →
      ∀ other, other ≠ id → { key, token } ∉ (commit.before.calls other).stage.toRelease

/-- A release leaves every lock that another call was granted. -/
def OthersKept (commit : Commit (System T E) (Event T E)) : Prop :=
  ∀ id result key entry owner, commit.act = .release id result → commit.before.redis.get key = some entry →
    entry.owner = some owner → owner ≠ id → commit.after.redis.get key = some entry

namespace System

variable {s s' : System T E} {event : Event T E}

/-- The events at which a call gets an answer. -/
inductive Gives (s : System T E) : Event T E → Nat → Answer T E → Redis → Prop
  | acquire {id result error key rest held next answer redis} (stage : (s.calls id).stage = .acquiring key rest held next)
      (given : command s.redis id (s.calls id) key result error next = some (answer, redis)) :
      Gives s (.acquire id result error) id answer redis
  | callback {id result} : Gives s (.callback id result) id (.settled result) s.redis
  | release {id result lock queue after} (stage : (s.calls id).stage = .releasing lock queue after) :
      Gives s (.release id result) id .released (if result = .failed then s.redis else s.redis.compareAndDelete lock)
  | clock {id now} : Gives s (.clock id now) id (.clock now) s.redis
  | wake {id} : Gives s (.wake id) id .wake s.redis

theorem step_cases (step : s.step event = some s') :
    (∃ ms, event = .wait ms ∧ s' = { s with redis := { s.redis with now := s.redis.now + ms } }) ∨
    (∃ id keys ttlMs waitTimeoutMs clock, event = .start id keys ttlMs waitTimeoutMs clock ∧
      s' = { s with calls := Function.update s.calls id (Call.start keys ttlMs (clock + waitTimeoutMs)) }) ∨
    ∃ id answer redis call, s.Gives event id answer redis ∧ (s.calls id).step answer = some call ∧
      s' = { redis, calls := Function.update s.calls id call } := by
  cases event with
  | wait ms =>
    cases step
    exact Or.inl ⟨ms, rfl, rfl⟩
  | start id keys ttlMs waitTimeoutMs clock =>
    simp only [System.step] at step
    split at step
    · cases step
      exact Or.inr (Or.inl ⟨id, keys, ttlMs, waitTimeoutMs, clock, rfl, rfl⟩)
    · cases step
  | acquire id result error =>
    simp only [System.step] at step
    split at step
    · rename_i key rest held next stage
      obtain ⟨⟨answer, redis⟩, given, answered⟩ := Option.bind_eq_some_iff.mp step
      obtain ⟨call, moved, rfl⟩ := Option.map_eq_some_iff.mp answered
      exact Or.inr (Or.inr ⟨id, answer, redis, call, .acquire stage given, moved, rfl⟩)
    · cases step
  | callback id result =>
    obtain ⟨call, moved, rfl⟩ := Option.map_eq_some_iff.mp step
    exact Or.inr (Or.inr ⟨id, _, _, call, .callback, moved, rfl⟩)
  | release id result =>
    simp only [System.step] at step
    split at step
    · rename_i lock queue after stage
      obtain ⟨call, moved, rfl⟩ := Option.map_eq_some_iff.mp step
      exact Or.inr (Or.inr ⟨id, _, _, call, .release stage, moved, rfl⟩)
    · cases step
  | clock id now =>
    obtain ⟨call, moved, rfl⟩ := Option.map_eq_some_iff.mp step
    exact Or.inr (Or.inr ⟨id, _, _, call, .clock, moved, rfl⟩)
  | wake id =>
    obtain ⟨call, moved, rfl⟩ := Option.map_eq_some_iff.mp step
    exact Or.inr (Or.inr ⟨id, _, _, call, .wake, moved, rfl⟩)

/-- A command throws where its result is a failure, and only a `SET` whose
answer was lost has been carried out then. -/
theorem command_throws {redis redis' : Redis} {id : Nat} {call : Call T E} {key : String} {result : RequestResult}
    {error : E} {next : AcquireCommand} {answer : Answer T E}
    (given : command redis id call key result error next = some (answer, redis')) :
    (result = .done → ∀ error granted, answer ≠ .throws error granted) ∧
      (result ≠ .done → ∃ granted, answer = .throws error granted ∧
        (granted = true ↔ ∃ token, next = .set token ∧ result = .lostAnswer ∧ redis.get key = none)) := by
  cases next with
  | incr =>
    cases result <;> cases given <;> simp
  | pexpire token =>
    cases result <;> cases given <;> simp
  | set token =>
    have tells : (redis.set key token id call.ttlMs.toNat).1 = true ↔ redis.get key = none := by
      rcases redis.set_cases key token id call.ttlMs.toNat with ⟨refused, found, -⟩ | ⟨granted, free, -⟩
      · simp [refused, found]
      · simp [granted, free]
    cases result with
    | done =>
      simp only [command] at given
      split at given <;> cases given
      exact ⟨nofun, nofun⟩
    | lostAnswer =>
      simp only [command] at given
      split at given <;> cases given
      exact ⟨nofun, fun _ => ⟨_, rfl, by simp [tells]⟩⟩
    | failed =>
      cases given
      exact ⟨nofun, fun _ => ⟨_, rfl, by simp⟩⟩

/-- What a command makes of the locks: a `SET` that is carried out puts its own
under a free key, and nothing else puts one anywhere. -/
theorem command_redis {redis redis' : Redis} {id : Nat} {call : Call T E} {key : String} {result : RequestResult}
    {error : E} {next : AcquireCommand} {answer : Answer T E}
    (given : command redis id call key result error next = some (answer, redis'))
    (counters : next = .incr → result ≠ .failed → ∀ entry, redis.get (fenceCounterKey key) = some entry → entry.owner = none) :
    answer ≠ .set true ∧ redis.Keeps redis' ∨ ∃ token expires, next = .set token ∧ result ≠ .failed ∧ redis.get key = none ∧
      redis' = redis.put key (some { value := token, owner := some id, expires }) := by
  cases next with
  | incr =>
    cases result with
    | done =>
      cases given
      exact Or.inl ⟨nofun, .incr (counters rfl nofun)⟩
    | lostAnswer =>
      cases given
      exact Or.inl ⟨nofun, .incr (counters rfl nofun)⟩
    | failed =>
      cases given
      exact Or.inl ⟨nofun, .refl⟩
  | pexpire token =>
    cases result with
    | done =>
      cases given
      exact Or.inl ⟨nofun, .pexpire _⟩
    | lostAnswer =>
      cases given
      exact Or.inl ⟨nofun, .pexpire _⟩
    | failed =>
      cases given
      exact Or.inl ⟨nofun, .refl⟩
  | set token =>
    rcases redis.set_cases key token id call.ttlMs.toNat with ⟨refused, -, same⟩ | ⟨-, free, expires, put⟩
    · refine Or.inl ?_
      cases result with
      | done =>
        simp only [command] at given
        split at given <;> cases given
        rw [refused, same]
        exact ⟨nofun, .refl⟩
      | lostAnswer =>
        simp only [command] at given
        split at given <;> cases given
        rw [same]
        exact ⟨nofun, .refl⟩
      | failed =>
        cases given
        exact ⟨nofun, .refl⟩
    · cases result with
      | done =>
        simp only [command] at given
        split at given <;> cases given
        exact Or.inr ⟨token, expires, rfl, nofun, free, put⟩
      | lostAnswer =>
        simp only [command] at given
        split at given <;> cases given
        exact Or.inr ⟨token, expires, rfl, nofun, free, put⟩
      | failed =>
        cases given
        exact Or.inl ⟨nofun, .refl⟩

/-- A call keeps track of its locks where its commands keep them. -/
theorem keepsHeld_iff {id : Nat} {answer : Answer T E} {redis : Redis} (gives : s.Gives event id answer redis) :
    (s.calls id).KeepsHeld answer ↔ KeepsHeld ⟨s, event, s'⟩ := by
  have neither (act : ∀ id result error, event ≠ .acquire id result error) (unthrown : ∀ error granted, answer ≠ .throws error granted) :
      (s.calls id).KeepsHeld answer ↔ KeepsHeld ⟨s, event, s'⟩ :=
    ⟨fun _ id result error _ _ _ _ now => absurd now (act id result error),
      fun _ error granted thrown => absurd thrown (unthrown error granted)⟩
  cases gives with
  | @acquire id result error key rest held next answer redis stage given =>
    obtain ⟨answers, throws⟩ := command_throws given
    constructor
    · rintro keeps _ _ _ key' rest' held' command' ⟨⟩ fails stage'
      cases stage.symm.trans stage'
      obtain ⟨granted, thrown, tells⟩ := throws fails
      obtain ⟨refused, none⟩ := keeps error granted thrown
      rw [stage] at none
      refine ⟨none, fun token isSet lost free => ?_⟩
      cases refused.symm.trans (tells.mpr ⟨token, isSet, lost, free⟩)
    · rintro keeps error' granted rfl
      have fails : result ≠ .done := fun done => answers done error' granted rfl
      obtain ⟨none, carried⟩ := keeps id result error key rest held next rfl fails stage
      obtain ⟨granted', thrown, tells⟩ := throws fails
      cases thrown
      refine ⟨Bool.eq_false_iff.mpr fun took => ?_, ?_⟩
      · obtain ⟨token, isSet, lost, free⟩ := tells.mp took
        exact carried token isSet lost free
      · rw [stage, none]
        rfl
  | callback => exact neither nofun nofun
  | release stage => exact neither nofun nofun
  | clock => exact neither nofun nofun
  | wake => exact neither nofun nofun

/-- Every lock whose token a call would release is its own. -/
def Owned (s : System T E) : Prop :=
  ∀ id lock entry owner, lock ∈ (s.calls id).stage.toRelease → s.redis.get lock.key = some entry →
    entry.value = lock.token → entry.owner = some owner → owner = id

/-- No lock comes to Redis, or to those that a call has to release. -/
theorem Owned.keeps {calls : Nat → Call T E} {redis : Redis} (owned : s.Owned) (keeps : s.redis.Keeps redis)
    (fewer : ∀ id, ∀ lock ∈ (calls id).stage.toRelease, lock ∈ (s.calls id).stage.toRelease) : Owned { redis, calls } := by
  intro id lock entry owner member found value isOwner
  obtain ⟨before, was, same, also⟩ := keeps lock.key entry owner found isOwner
  exact owned id lock before owner (fewer id lock member) was (same.trans value) also

/-- A `SET` puts the token of a call under a free key, where no other call
would release it. -/
theorem Owned.set {id token : Nat} {key : String} {expires : Option Nat} {call : Call T E} (owned : s.Owned)
    (more : ∀ lock ∈ call.stage.toRelease, lock ∈ (s.calls id).stage.toRelease ∨ lock = { key, token })
    (fresh : ∀ other, other ≠ id → { key, token } ∉ (s.calls other).stage.toRelease) :
    Owned { redis := s.redis.put key (some { value := token, owner := some id, expires })
            calls := Function.update s.calls id call } := by
  intro other lock entry owner member found value isOwner
  have calls : other ≠ id → lock ∈ (s.calls other).stage.toRelease := by
    intro isOther
    simpa only [Function.update_of_ne isOther] using member
  by_cases same : lock.key = key
  · -- The lock that is found is the one just set.
    have now : entry = { value := token, owner := some id, expires } := by
      rw [same, Redis.get_put_self, Option.filter_eq_some_iff] at found
      exact (Option.some.inj found.1).symm
    subst now
    cases isOwner
    by_contra isOther
    have mine : lock = { key, token } := by
      cases lock
      cases same
      cases value
      rfl
    exact fresh other (Ne.symm isOther) (mine ▸ calls (Ne.symm isOther))
  · rw [Redis.get_put_of_ne _ same] at found
    by_cases isOther : other = id
    · subst isOther
      simp only [Function.update_self] at member
      rcases more lock member with old | rfl
      · exact owned other lock entry owner old found value isOwner
      · exact absurd rfl same
    · exact owned other lock entry owner (calls isOther) found value isOwner

theorem Owned.step (owned : s.Owned) (step : s.step event = some s') (fresh : FreshToken ⟨s, event, s'⟩) : s'.Owned := by
  rcases step_cases step with ⟨ms, rfl, rfl⟩ | ⟨id, keys, ttlMs, waitTimeoutMs, clock, rfl, rfl⟩ |
    ⟨id, answer, redis, call, gives, moved, rfl⟩
  · exact owned.keeps (.wait ms) fun _ _ => id
  · refine owned.keeps .refl fun other => ?_
    by_cases isOther : other = id
    · subst isOther
      rw [Function.update_self, Call.start, Call.startPass, Call.toRelease_acquireNext]
      exact nofun
    · rw [Function.update_of_ne isOther]
      exact fun _ member => member
  · have kept (keeps : s.redis.Keeps redis) (fewer : ∀ lock ∈ call.stage.toRelease, lock ∈ (s.calls id).stage.toRelease) :
        Owned { redis, calls := Function.update s.calls id call } := by
      refine owned.keeps keeps fun other => ?_
      by_cases isOther : other = id
      · subst isOther
        rw [Function.update_self]
        exact fewer
      · rw [Function.update_of_ne isOther]
        exact fun _ member => member
    cases gives with
    | @acquire _ result error key rest held next _ _ stage given =>
      have counters : next = .incr → result ≠ .failed →
          ∀ entry, s.redis.get (fenceCounterKey key) = some entry → entry.owner = none := by
        rintro rfl carried entry found
        exact fresh.counters id result error key rest held entry rfl carried stage found
      rcases command_redis given counters with ⟨unset, keeps⟩ | ⟨token, expires, rfl, carried, free, rfl⟩
      · rcases Call.toRelease_step moved with fewer | ⟨_, _, _, _, _, isSet, _⟩
        · exact kept keeps fewer
        · exact absurd isSet unset
      · refine owned.set ?_ (fresh.tokens id result error key rest held token rfl carried stage free)
        rcases Call.toRelease_step moved with fewer | ⟨key', rest', held', token', stage', -, more⟩
        · exact fun lock member => Or.inl (fewer lock member)
        · cases stage.symm.trans stage'
          exact more
    | callback =>
      rcases Call.toRelease_step moved with fewer | ⟨_, _, _, _, _, isSet, _⟩
      · exact kept .refl fewer
      · cases isSet
    | release stage =>
      rcases Call.toRelease_step moved with fewer | ⟨_, _, _, _, _, isSet, _⟩
      · refine kept ?_ fewer
        split
        · exact .refl
        · exact .compareAndDelete _
      · cases isSet
    | clock =>
      rcases Call.toRelease_step moved with fewer | ⟨_, _, _, _, _, isSet, _⟩
      · exact kept .refl fewer
      · cases isSet
    | wake =>
      rcases Call.toRelease_step moved with fewer | ⟨_, _, _, _, _, isSet, _⟩
      · exact kept .refl fewer
      · cases isSet

/-- A release whose lock is not there any more deletes nothing. -/
theorem Owned.othersKept (owned : s.Owned) (step : s.step event = some s') : OthersKept ⟨s, event, s'⟩ := by
  rintro id result key entry owner ⟨⟩ found isOwner isOther
  rcases step_cases step with ⟨_, absurd, _⟩ | ⟨_, _, _, _, _, absurd, _⟩ | ⟨_, _, redis, call, gives, -, rfl⟩
  · cases absurd
  · cases absurd
  · cases gives with
    | @release _ _ lock queue after stage =>
      have member : lock ∈ (s.calls id).stage.toRelease := by
        rw [stage]
        exact List.mem_cons_self ..
      split
      · exact found
      · unfold Redis.compareAndDelete
        split
        · rename_i entry' there
          split
          · rename_i value
            have apart : key ≠ lock.key := by
              rintro rfl
              cases there.symm.trans found
              exact isOther (owned id lock entry owner member found value isOwner)
            exact (Redis.get_put_of_ne none apart).trans found
          · exact found
        · exact found

/-- A step of the system is one of a single call, or leaves the calls alone. -/
theorem forall_calls {I : Call T E → Prop} (step : s.step event = some s') (all : ∀ id, I (s.calls id))
    (start : ∀ keys ttlMs deadline, I (Call.start keys ttlMs deadline))
    (moves : ∀ id answer redis call, s.Gives event id answer redis → (s.calls id).step answer = some call → I call) :
    ∀ id, I (s'.calls id) := by
  rcases step_cases step with ⟨_, -, rfl⟩ | ⟨id, keys, ttlMs, waitTimeoutMs, clock, -, rfl⟩ |
    ⟨id, answer, redis, call, gives, moved, rfl⟩
  · exact all
  · exact (Function.forall_update_iff s.calls fun _ => I).mpr ⟨start keys ttlMs _, fun other _ => all other⟩
  · exact (Function.forall_update_iff s.calls fun _ => I).mpr ⟨moves id answer redis call gives moved, fun other _ => all other⟩

end System

theorem Call.Orderly.start (keys : List String) (ttlMs : Int) (deadline : Nat) :
    (Call.start keys ttlMs deadline : Call T E).Orderly := .startPass rfl

theorem Call.Accounted.start (keys : List String) (ttlMs : Int) (deadline : Nat) :
    (Call.start keys ttlMs deadline : Call T E).Accounted := by
  simp [Accounted, Call.start, startPass, idle]

variable {log : List (Commit (System T E) (Event T E))} {s : System T E}

theorem Run.orderly (run : Run T E log s) (p : System T E) (seen : Seen log s p) (id : Nat) : (p.calls id).Orderly := by
  refine run.invariant_seen (I := fun p => ∀ id, (p.calls id).Orderly) ?_ ?_ p seen id
  · rintro _ rfl id
    rfl
  · intro _ _ s s' step orderly
    exact System.forall_calls step orderly Call.Orderly.start fun id _ _ _ _ moved => (orderly id).step moved

/-- Every lock that was granted is released exactly where no call loses track of one. -/
theorem Run.released_iff (run : Run T E log s) :
    (∀ p, Seen log s p → ∀ id, (p.calls id).Released) ↔ ∀ commit ∈ log, KeepsHeld commit := by
  refine run.forall_iff_of_invariant (I := fun s => ∀ id, (s.calls id).Accounted) (P := fun s => ∀ id, (s.calls id).Released)
    ?_ (fun s accounted id => (accounted id).released) ?_ ?_
  · rintro _ rfl id
    exact List.Perm.refl _
  · intro _ event s s' step keeps accounted
    refine System.forall_calls step accounted Call.Accounted.start fun id _ _ _ gives moved => ?_
    exact (accounted id).step ((System.keepsHeld_iff gives).mpr keeps) moved
  · intro _ event s s' step accounted released
    rcases System.step_cases step with ⟨_, rfl, -⟩ | ⟨_, _, _, _, _, rfl, -⟩ | ⟨id, answer, redis, call, gives, moved, rfl⟩
    · exact fun _ _ _ _ _ _ _ act => nomatch act
    · exact fun _ _ _ _ _ _ _ act => nomatch act
    · have mine := released id
      simp only [Function.update_self] at mine
      exact (System.keepsHeld_iff gives).mp ((accounted id).keepsHeld moved mine)

theorem Run.others_kept (run : Run T E log s) (fresh : ∀ commit ∈ log, FreshToken commit) :
    ∀ commit ∈ log, OthersKept commit := by
  have owned := run.invariant_of (I := System.Owned) (fun _ start => by cases start; exact nofun)
    (fun _ _ _ _ step fresh owned => owned.step step fresh) fresh
  have steps : ∀ commit ∈ log, commit.before.step commit.act = some commit.after :=
    run.forall_commits fun _ _ _ _ _ step => step
  intro commit member
  exact (owned commit.before (Or.inr ⟨commit, member, rfl⟩)).othersKept (steps commit member)

/-- The callback is called at most once and with all keys acquired in one pass;
exactly where no command of `acquire` loses a lock, all have been released when
a call returns; and with fresh tokens no release deletes the lock of another. -/
theorem Run.cleans_up (run : Run T E log s) : (∀ p, Seen log s p → ∀ id, (p.calls id).Guarded) ∧
    ((∀ p, Seen log s p → ∀ id, (p.calls id).Released) ↔ ∀ commit ∈ log, KeepsHeld commit) ∧
    ((∀ commit ∈ log, FreshToken commit) → ∀ commit ∈ log, OthersKept commit) :=
  ⟨fun p seen id => (run.orderly p seen id).guarded, run.released_iff, run.others_kept⟩

end run

section samples

/-- Commands that all succeed, of two calls that draw no token twice. -/
def clean (s : System Nat String) : Event Nat String → Bool
  | .start id .. => id < 2
  | .acquire id result _ => result == .done && match (s.calls id).stage with
    | .acquiring key _ _ .incr => (s.redis.get (fenceCounterKey key)).all (·.owner = none)
    | .acquiring key _ _ (.set token) =>
      (s.redis.get key).isSome || !(s.calls (1 - id)).stage.toRelease.contains { key, token }
    | _ => true
  | _ => true

section clean

variable {log : List (Commit (System Nat String) (Event Nat String))} {s : System Nat String}

theorem idle_of_clean (run : Run Nat String log s) (checked : ∀ c ∈ log, clean c.before c.act = true) :
    ∀ p, Seen log s p → ∀ id, 2 ≤ id → (p.calls id).stage = .idle := by
  refine run.invariant_of ?_ ?_ checked
  · rintro _ rfl id _
    rfl
  · intro _ event s s' step checks idle id other
    rcases System.step_cases step with ⟨_, -, rfl⟩ | ⟨started, _, _, _, _, rfl, rfl⟩ | ⟨moved, _, _, _, -, went, rfl⟩
    · exact idle id other
    · have first : started < 2 := of_decide_eq_true checks
      have apart : id ≠ started := by omega
      simpa only [Function.update_of_ne apart] using idle id other
    · by_cases same : id = moved
      · subst same
        simp [Call.step, idle id other] at went
      · simpa only [Function.update_of_ne same] using idle id other

theorem fresh_of_clean (run : Run Nat String log s) (checked : ∀ c ∈ log, clean c.before c.act = true) :
    ∀ c ∈ log, FreshToken c := by
  intro c member
  have checks := checked c member
  have idle := idle_of_clean run checked c.before (Or.inr ⟨c, member, rfl⟩)
  obtain ⟨before, act, after⟩ := c
  constructor
  · rintro id result error key rest held entry rfl - stage found
    dsimp only at stage found
    simp only [clean, stage, found, Option.all_some, decide_eq_true_eq, Bool.and_eq_true] at checks
    exact checks.2
  · rintro id result error key rest held token rfl - stage absent other different member
    dsimp only at stage absent member
    have active : ∀ call, { key, token } ∈ (before.calls call).stage.toRelease ∨
        (before.calls call).stage = .acquiring key rest held (.set token) → call < 2 := by
      intro call busy
      by_contra beyond
      have nothing := idle call (by omega)
      rcases busy with releases | acquires
      · rw [nothing] at releases
        cases releases
      · rw [nothing] at acquires
        cases acquires
    have two := active other (Or.inl member)
    have one := active id (Or.inr stage)
    obtain rfl : other = 1 - id := by omega
    simp [clean, stage, absent, member] at checks

theorem keeps_of_clean (checked : ∀ c ∈ log, clean c.before c.act = true) : ∀ c ∈ log, KeepsHeld c := by
  rintro ⟨before, act, after⟩ member id result error key rest held command rfl failed stage
  have checks := checked _ member
  simp [clean, failed] at checks

end clean

/-- Two calls contend for a key. The lock of the first expires before it has
released it, and its release leaves the lock of the second. -/
theorem cleans_up_two_calls : ∃ log s, Run Nat String log s ∧ (s.calls 0).stage = .returned (.ok 1) ∧
    (s.calls 1).stage = .returned (.ok 2) ∧ (s.calls 0).attempted = [⟨"item-a", 1⟩, ⟨"item-b", 1⟩] ∧
    (s.calls 1).attempted = [⟨"item-a", 3⟩] ∧ (∀ p, Seen log s p → ∀ id, (p.calls id).Guarded ∧ (p.calls id).Released) ∧
    ∀ commit ∈ log, OthersKept commit := by
  obtain ⟨log, s, run, checked, first, second, released, released'⟩ : ∃ log s, Run Nat String log s ∧
      (∀ c ∈ log, clean c.before c.act = true) ∧ (s.calls 0).stage = .returned (.ok 1) ∧
      (s.calls 1).stage = .returned (.ok 2) ∧ (s.calls 0).attempted = [⟨"item-a", 1⟩, ⟨"item-b", 1⟩] ∧
      (s.calls 1).attempted = [⟨"item-a", 3⟩] :=
    History.checked (by rfl) [.start 0 ["item-b", "item-a", "item-b"] 5000 9000 0,
      .acquire 0 .done "", .acquire 0 .done "", .acquire 0 .done "",
      .acquire 0 .done "", .acquire 0 .done "", .acquire 0 .done "", .start 1 ["item-a"] 5000 9000 0,
      .acquire 1 .done "", .acquire 1 .done "", .acquire 1 .done "", .clock 1 10, .wait 6000, .wake 1,
      .acquire 1 .done "", .acquire 1 .done "", .acquire 1 .done "", .callback 0 (.ok 1), .release 0 .done, .release 0 .done,
      .callback 1 (.ok 2), .release 1 .done] ⟨_, rfl, rfl, rfl, rfl, rfl⟩
  obtain ⟨guarded, accounted, kept⟩ := Run.cleans_up run
  have all := accounted.mpr (keeps_of_clean checked)
  exact ⟨log, s, run, first, second, released, released', fun p seen id => ⟨guarded p seen id, all p seen id⟩,
    kept (fresh_of_clean run checked)⟩

/-- The counter of the second key cannot be reached: the first key stays locked
until it expires. -/
theorem acquire_throws_while_held : ∃ log s, Run Nat String log s ∧ ¬ (s.calls 0).Released := by
  obtain ⟨log, s, run, stage, granted, attempted⟩ : ∃ log s, Run Nat String log s ∧
      (s.calls 0).stage = .returned (.error (.thrown "connection lost")) ∧
      (s.calls 0).granted.map Grant.lock = [⟨"item-a", 1⟩] ∧ (s.calls 0).attempted = [] :=
    History.replayed [.start 0 ["item-a", "item-b"] 5000 5000 0, .acquire 0 .done "unused", .acquire 0 .done "unused",
      .acquire 0 .done "unused", .acquire 0 .failed "connection lost"] ⟨_, rfl, rfl, rfl, rfl⟩
  refine ⟨log, s, run, fun released => ?_⟩
  have shorter := (released _ stage).length_le
  rw [granted, attempted] at shorter
  simp at shorter

end samples

end FoodDelivery.Locking.WithLocks
