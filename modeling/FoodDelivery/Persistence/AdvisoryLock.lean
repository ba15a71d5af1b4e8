import Mathlib.Logic.Function.Basic
import FoodDelivery.Lib.History
import FoodDelivery.Messaging.Envelope

namespace FoodDelivery.Persistence

open CommitLog Messaging

inductive AdvisoryLockOutcome (T : Type)
  | ran (result : T)
  | notRan
  deriving DecidableEq, Repr

/-- A connection of some process's pool. -/
structure Connection where
  alive : Bool
  taken : Bool
  deriving DecidableEq, Repr

/-- The session that holds the lock, and how often it has taken it. -/
structure Holder where
  connection : Nat
  count : Nat
  deriving DecidableEq, Repr

/-- A call of `withAdvisoryLock`, after each of its awaits. -/
inductive Call (T E : Type)
  | idle
  | connected (connection : Nat)
  | running (connection : Nat)
  | settled (connection : Nat) (outcome : Except E T)
  | releasing (connection : Nat) (answer : Except E (AdvisoryLockOutcome T))
  | returned (answer : Except E (AdvisoryLockOutcome T))

def Call.connection {T E : Type} : Call T E → Option Nat
  | .connected connection => some connection
  | .running connection => some connection
  | .settled connection _ => some connection
  | .releasing connection _ => some connection
  | _ => none

/-- Postgres as far as one lock key is concerned, the pools of all processes
and the calls. How each callback ended is kept for the statements only. -/
structure Postgres (T E : Type) where
  connections : Nat → Connection
  holder : Option Holder
  calls : Nat → Call T E
  callbacks : Nat → Option (Except E T)

/-- A query that fails does so with some error. -/
inductive Event (T E : Type)
  | connect (call connection : Nat)
  | connectFails (call : Nat) (error : E)
  | tryLock (call : Nat) (result : RequestResult) (error : E)
  | callback (call : Nat) (outcome : Except E T)
  | unlock (call : Nat) (result : RequestResult) (error : E)
  | release (call : Nat)
  | endSession (connection : Nat)

/-- `pg_try_advisory_lock`: a session that holds the lock gets it again. -/
def pgTryAdvisoryLock (connection : Nat) : Option Holder → Option Holder
  | none => some { connection, count := 1 }
  | some holder => if holder.connection = connection then some { holder with count := holder.count + 1 } else none

/-- `pg_advisory_unlock`, which does nothing where the session does not hold the lock. -/
def pgAdvisoryUnlock (connection : Nat) : Option Holder → Option Holder
  | none => none
  | some holder =>
    if holder.connection = connection then
      if holder.count ≤ 1 then none else some { holder with count := holder.count - 1 }
    else some holder

namespace Postgres

variable {T E : Type}

def empty : Postgres T E where
  connections _ := { alive := true, taken := false }
  holder := none
  calls _ := .idle
  callbacks _ := none

def setCall (s : Postgres T E) (call : Nat) (stage : Call T E) : Postgres T E :=
  { s with calls := Function.update s.calls call stage }

/-- A query on a session that has ended fails. -/
def Answers (s : Postgres T E) (connection : Nat) (result : RequestResult) : Bool :=
  (s.connections connection).alive || result = .failed

/-- The lock query, at which a call either starts its callback or is done. -/
def tryLock (s : Postgres T E) (call connection : Nat) (result : RequestResult) (error : E) : Postgres T E :=
  match result, pgTryAdvisoryLock connection s.holder with
  | .done, some holder => { s.setCall call (.running connection) with holder := some holder }
  | .done, none => s.setCall call (.releasing connection (.ok .notRan))
  | .lostAnswer, some holder => { s.setCall call (.releasing connection (.error error)) with holder := some holder }
  | .lostAnswer, none => s.setCall call (.releasing connection (.error error))
  | .failed, _ => s.setCall call (.releasing connection (.error error))

/-- The unlock in the inner `finally`, whose failure takes the place of the
callback's result. -/
def unlock (s : Postgres T E) (call connection : Nat) (outcome : Except E T) (result : RequestResult) (error : E) :
    Postgres T E :=
  match result with
  | .done => { s.setCall call (.releasing connection (outcome.map .ran)) with holder := pgAdvisoryUnlock connection s.holder }
  | .lostAnswer => { s.setCall call (.releasing connection (.error error)) with
      holder := pgAdvisoryUnlock connection s.holder }
  | .failed => s.setCall call (.releasing connection (.error error))

def setConnection (s : Postgres T E) (connection : Nat) (state : Connection) : Postgres T E :=
  { s with connections := Function.update s.connections connection state }

/-- A session that ends gives up its lock. -/
def endSession (s : Postgres T E) (connection : Nat) : Postgres T E :=
  { s.setConnection connection { s.connections connection with alive := false } with
    holder := s.holder.filter fun holder => holder.connection ≠ connection }

/-- One step of one call, or the end of a session, which can come at any time. -/
def step (s : Postgres T E) : Event T E → Option (Postgres T E)
  | .connect call connection =>
    match s.calls call with
    | .idle =>
      if (s.connections connection).alive ∧ (s.connections connection).taken = false then
        some ((s.setCall call (.connected connection)).setConnection connection { alive := true, taken := true })
      else none
    | _ => none
  | .connectFails call error =>
    match s.calls call with
    | .idle => some (s.setCall call (.returned (.error error)))
    | _ => none
  | .tryLock call result error =>
    match s.calls call with
    | .connected connection => if s.Answers connection result then some (s.tryLock call connection result error) else none
    | _ => none
  | .callback call outcome =>
    match s.calls call with
    | .running connection =>
      some { s.setCall call (.settled connection outcome) with
        callbacks := Function.update s.callbacks call (some outcome) }
    | _ => none
  | .unlock call result error =>
    match s.calls call with
    | .settled connection outcome =>
      if s.Answers connection result then some (s.unlock call connection outcome result error) else none
    | _ => none
  | .release call =>
    match s.calls call with
    | .releasing connection answer =>
      some ((s.setCall call (.returned answer)).setConnection connection { s.connections connection with taken := false })
    | _ => none
  | .endSession connection => some (s.endSession connection)

/-- The callbacks of two calls never overlap. -/
def Exclusive (s : Postgres T E) : Prop :=
  ∀ first second c c', s.calls first = .running c → s.calls second = .running c' → first = second

/-- A call that has not run its callback says so or throws. -/
def Truthful (s : Postgres T E) : Prop :=
  ∀ call answer, s.calls call = .returned answer → s.callbacks call = none →
    answer = .ok .notRan ∨ ∃ error, answer = .error error

/-- The caller sees the error of the callback. -/
def ErrorSeen (s : Postgres T E) : Prop :=
  ∀ call answer error, s.calls call = .returned answer → s.callbacks call = some (.error error) → answer = .error error

/-- Where no call is in progress, no live session holds the lock. -/
def GivenBack (s : Postgres T E) : Prop :=
  (∀ call, s.calls call = .idle ∨ ∃ answer, s.calls call = .returned answer) →
    ∀ holder, s.holder = some holder → (s.connections holder.connection).alive = false

end Postgres

abbrev Run (T E : Type) : List (Commit (Postgres T E) (Event T E)) → Postgres T E → Prop :=
  History (· = Postgres.empty) fun _ event s s' => s.step event = some s'

section run

variable {T E : Type}

/-- No lock is granted while a callback still runs whose session has ended,
a lock query fails only where it is not granted, and an unlock fails only once
its session has ended and its callback has not thrown. -/
structure Clean (commit : Commit (Postgres T E) (Event T E)) : Prop where
  grants : ∀ call connection error, commit.act = .tryLock call .done error →
    commit.before.calls call = .connected connection →
      ∀ other connection', commit.before.calls other = .running connection' →
        (commit.before.connections connection').alive = false → pgTryAdvisoryLock connection commit.before.holder = none
  locks : ∀ call connection error, commit.act = .tryLock call .lostAnswer error →
    commit.before.calls call = .connected connection → pgTryAdvisoryLock connection commit.before.holder = none
  unlocks : ∀ call connection outcome result error, commit.act = .unlock call result error →
    commit.before.calls call = .settled connection outcome →
      (result = .failed → (commit.before.connections connection).alive = false) ∧
        ∀ thrown, outcome = .error thrown → result = .done

/-- What a call answers of the end of its callback. -/
def Call.Reports (callback : Option (Except E T)) : Call T E → Prop
  | .settled _ outcome => callback = some outcome
  | .releasing _ answer => ∀ result, answer = .ok (.ran result) → callback = some (.ok result)
  | .returned answer => ∀ result, answer = .ok (.ran result) → callback = some (.ok result)
  | _ => callback = none

/-- The call has been granted the lock and has not given it back. -/
def Call.Holds (connection : Nat) : Call T E → Prop
  | .running connection' => connection' = connection
  | .settled connection' _ => connection' = connection
  | _ => False

theorem Call.Holds.connection {connection : Nat} {stage : Call T E} (holds : stage.Holds connection) :
    stage.connection = some connection := by
  cases stage with
  | running _ => exact congrArg some holds
  | settled _ _ => exact congrArg some holds
  | idle => cases holds
  | connected _ => cases holds
  | releasing _ _ => cases holds
  | returned _ => cases holds

def Call.KeepsError (callback : Option (Except E T)) : Call T E → Prop
  | .releasing _ answer => ∀ error, callback = some (.error error) → answer = .error error
  | .returned answer => ∀ error, callback = some (.error error) → answer = .error error
  | _ => True

namespace Postgres

variable {s s' : Postgres T E} {call : Nat}

/-- A connection is taken by one call, which knows how its callback has ended. -/
structure Invariant (s : Postgres T E) : Prop where
  apart : ∀ first second connection, (s.calls first).connection = some connection →
    (s.calls second).connection = some connection → first = second
  taken : ∀ call connection, (s.calls call).connection = some connection → (s.connections connection).taken = true
  reports : ∀ call, (s.calls call).Reports (s.callbacks call)

/-- The lock is held once, by the live session of the call that took it. -/
structure Guarded (s : Postgres T E) : Prop where
  exclusive : s.Exclusive
  running : ∀ call connection, s.calls call = .running connection → (s.connections connection).alive = true →
    s.holder = some { connection, count := 1 }
  held : ∀ holder, s.holder = some holder → (s.connections holder.connection).alive = true ∧ holder.count = 1 ∧
    ∃ call, (s.calls call).Holds holder.connection
  errors : ∀ call, (s.calls call).KeepsError (s.callbacks call)

theorem Invariant.empty : (empty : Postgres T E).Invariant := ⟨nofun, nofun, fun _ => rfl⟩

theorem Guarded.empty : (empty : Postgres T E).Guarded := ⟨nofun, nofun, nofun, fun _ => trivial⟩

/-- A call moves on; a connection that it has then is its own. -/
theorem Invariant.moved {stage : Call T E} (invariant : s.Invariant) (calls : s'.calls = Function.update s.calls call stage)
    (alone : ∀ connection, stage.connection = some connection →
      (s'.connections connection).taken = true ∧ ∀ other, other ≠ call → (s.calls other).connection ≠ some connection)
    (frame : ∀ other connection, other ≠ call → (s.calls other).connection = some connection →
      (s'.connections connection).taken = (s.connections connection).taken)
    (reports : stage.Reports (s'.callbacks call)) (others : ∀ other, other ≠ call → s'.callbacks other = s.callbacks other) :
    s'.Invariant := by
  have mine : s'.calls call = stage := by rw [calls, Function.update_self]
  have kept (other : Nat) (isOther : other ≠ call) : s'.calls other = s.calls other := by
    rw [calls, Function.update_of_ne isOther]
  refine ⟨fun first second connection one two => ?_, fun other connection now => ?_, ?_⟩
  · by_cases isFirst : first = call
    · by_cases isSecond : second = call
      · rw [isFirst, isSecond]
      · subst isFirst
        rw [mine] at one
        rw [kept second isSecond] at two
        exact absurd two ((alone connection one).2 second isSecond)
    · rw [kept first isFirst] at one
      by_cases isSecond : second = call
      · subst isSecond
        rw [mine] at two
        exact absurd one ((alone connection two).2 first isFirst)
      · rw [kept second isSecond] at two
        exact invariant.apart first second connection one two
  · by_cases isOther : other = call
    · subst isOther
      rw [mine] at now
      exact (alone connection now).1
    · rw [kept other isOther] at now
      rw [frame other connection isOther now]
      exact invariant.taken other connection now
  · rw [calls]
    refine (Function.forall_update_iff s.calls fun other stage => stage.Reports (s'.callbacks other)).mpr ⟨reports, ?_⟩
    intro other isOther
    rw [others other isOther]
    exact invariant.reports other

/-- A call moves on with the connection it has. -/
theorem Invariant.stays {connection : Nat} {stage : Call T E} (invariant : s.Invariant)
    (has : (s.calls call).connection = some connection) (calls : s'.calls = Function.update s.calls call stage)
    (connections : s'.connections = s.connections) (same : stage.connection = some connection)
    (reports : stage.Reports (s'.callbacks call)) (others : ∀ other, other ≠ call → s'.callbacks other = s.callbacks other) :
    s'.Invariant := by
  refine invariant.moved calls ?_ (fun _ _ _ _ => by rw [connections]) reports others
  intro connection' now
  cases same.symm.trans now
  rw [connections]
  exact ⟨invariant.taken call connection has, fun other isOther also => isOther (invariant.apart other call connection also has)⟩

/-- What the lock query makes of its call, and of the lock. -/
theorem tryLock_cases (s : Postgres T E) (call connection : Nat) (result : RequestResult) (error : E) :
    (∃ holder, result = .done ∧ pgTryAdvisoryLock connection s.holder = some holder ∧
      s.tryLock call connection result error = { s.setCall call (.running connection) with holder := some holder }) ∨
    ∃ answer holder, (∀ result, answer ≠ .ok (.ran result)) ∧
      s.tryLock call connection result error = { s.setCall call (.releasing connection answer) with holder } ∧
      (holder = s.holder ∨ result = .lostAnswer ∧ pgTryAdvisoryLock connection s.holder = holder ∧ holder.isSome) := by
  cases result with
  | done =>
    cases granted : pgTryAdvisoryLock connection s.holder with
    | some holder => exact Or.inl ⟨holder, rfl, rfl, by simp only [tryLock, granted]⟩
    | none => exact Or.inr ⟨.ok .notRan, s.holder, by simp, by simp only [tryLock, granted]; rfl, Or.inl rfl⟩
  | lostAnswer =>
    cases granted : pgTryAdvisoryLock connection s.holder with
    | some holder =>
      exact Or.inr ⟨.error error, some holder, by simp, by simp only [tryLock, granted], Or.inr ⟨rfl, rfl, rfl⟩⟩
    | none => exact Or.inr ⟨.error error, s.holder, by simp, by simp only [tryLock, granted]; rfl, Or.inl rfl⟩
  | failed => exact Or.inr ⟨.error error, s.holder, by simp, rfl, Or.inl rfl⟩

/-- What the unlock makes of its call, and of the lock. -/
theorem unlock_cases (s : Postgres T E) (call connection : Nat) (outcome : Except E T) (result : RequestResult) (error : E) :
    ∃ answer holder, s.unlock call connection outcome result error =
        { s.setCall call (.releasing connection answer) with holder } ∧
      (answer = outcome.map .ran ∨ result ≠ .done ∧ answer = .error error) ∧
      (result ≠ .failed ∧ holder = pgAdvisoryUnlock connection s.holder ∨ result = .failed ∧ holder = s.holder) := by
  cases result with
  | done => exact ⟨_, _, rfl, Or.inl rfl, Or.inl ⟨nofun, rfl⟩⟩
  | lostAnswer => exact ⟨_, _, rfl, Or.inr ⟨nofun, rfl⟩, Or.inl ⟨nofun, rfl⟩⟩
  | failed => exact ⟨_, _, rfl, Or.inr ⟨nofun, rfl⟩, Or.inr ⟨rfl, rfl⟩⟩

/-- What a step does: a call at one of its awaits moves on, or a session ends. -/
inductive Moves (s : Postgres T E) : Event T E → Postgres T E → Prop
  | connect {call connection} : s.calls call = .idle → (s.connections connection).alive = true →
      (s.connections connection).taken = false → Moves s (.connect call connection)
        ((s.setCall call (.connected connection)).setConnection connection { alive := true, taken := true })
  | connectFails {call error} : s.calls call = .idle →
      Moves s (.connectFails call error) (s.setCall call (.returned (.error error)))
  | tryLock {call connection result error} : s.calls call = .connected connection → s.Answers connection result = true →
      Moves s (.tryLock call result error) (s.tryLock call connection result error)
  | callback {call connection outcome} : s.calls call = .running connection → Moves s (.callback call outcome)
      { s.setCall call (.settled connection outcome) with callbacks := Function.update s.callbacks call (some outcome) }
  | unlock {call connection outcome result error} : s.calls call = .settled connection outcome →
      s.Answers connection result = true →
      Moves s (.unlock call result error) (s.unlock call connection outcome result error)
  | release {call connection answer} : s.calls call = .releasing connection answer → Moves s (.release call)
      ((s.setCall call (.returned answer)).setConnection connection { s.connections connection with taken := false })
  | endSession {connection} : Moves s (.endSession connection) (s.endSession connection)

theorem moves_of_step {event : Event T E} (step : s.step event = some s') : Moves s event s' := by
  cases event with
  | endSession connection =>
    cases step
    exact .endSession
  | _ =>
    simp only [Postgres.step] at step
    split at step
    · rename_i stage
      first
      | cases step
        exact .connectFails stage
      | cases step
        exact .callback stage
      | cases step
        exact .release stage
      | split at step
        · rename_i allowed
          cases step
          first
          | exact .connect stage allowed.1 allowed.2
          | exact .tryLock stage allowed
          | exact .unlock stage allowed
        · cases step
    · cases step

theorem Invariant.step {event : Event T E} (invariant : s.Invariant) (step : s.step event = some s') : s'.Invariant := by
  cases moves_of_step step with
  | @connect call connection idle _ free =>
    refine invariant.moved rfl ?_ ?_ ?_ fun _ _ => rfl
    · rintro _ ⟨⟩
      refine ⟨by simp [setConnection], fun other _ has => ?_⟩
      cases free.symm.trans (invariant.taken other connection has)
    · intro other connection' _ has
      have apart : connection' ≠ connection := by
        rintro rfl
        cases free.symm.trans (invariant.taken other connection' has)
      exact congrArg Connection.taken (Function.update_of_ne apart ..)
    · have before := invariant.reports call
      rwa [idle] at before
  | connectFails =>
    exact invariant.moved rfl nofun (fun _ _ _ _ => rfl) (fun _ absurd => by cases absurd) fun _ _ => rfl
  | @tryLock call connection result error connected =>
    have has : (s.calls call).connection = some connection := by rw [connected]; rfl
    have before := invariant.reports call
    rw [connected] at before
    rcases s.tryLock_cases call connection result error with ⟨holder, -, -, same⟩ | ⟨answer, holder, other, same, -⟩
    · rw [same]
      exact invariant.stays has rfl rfl rfl before fun _ _ => rfl
    · rw [same]
      exact invariant.stays has rfl rfl rfl (fun result ran => absurd ran (other result)) fun _ _ => rfl
  | @callback call connection outcome running =>
    have has : (s.calls call).connection = some connection := by rw [running]; rfl
    exact invariant.stays has rfl rfl rfl (Function.update_self ..) fun other apart => Function.update_of_ne apart ..
  | @unlock call connection outcome result error settled =>
    have has : (s.calls call).connection = some connection := by rw [settled]; rfl
    have before := invariant.reports call
    rw [settled] at before
    obtain ⟨answer, holder, same, answered, -⟩ := s.unlock_cases call connection outcome result error
    rw [same]
    refine invariant.stays has rfl rfl rfl ?_ fun _ _ => rfl
    intro value ran
    rcases answered with rfl | ⟨-, rfl⟩
    · cases outcome with
      | error thrown => cases ran
      | ok value' =>
        cases ran
        exact before
    · cases ran
  | @release call connection answer releasing =>
    have has : (s.calls call).connection = some connection := by rw [releasing]; rfl
    refine invariant.moved rfl nofun ?_ ?_ fun _ _ => rfl
    · intro other connection' isOther also
      have apart : connection' ≠ connection := by
        rintro rfl
        exact isOther (invariant.apart other call connection' also has)
      exact congrArg Connection.taken (Function.update_of_ne apart ..)
    · have before := invariant.reports call
      rwa [releasing] at before
  | @endSession connection =>
    refine ⟨invariant.apart, fun call connection' has => ?_, invariant.reports⟩
    have before := invariant.taken call connection' has
    by_cases same : connection' = connection
    · subst same
      simpa [endSession, setConnection] using before
    · exact (congrArg Connection.taken (Function.update_of_ne same ..)).trans before

/-- A call moves on without starting its callback. -/
theorem Guarded.moved {stage : Call T E} (guarded : s.Guarded) (calls : s'.calls = Function.update s.calls call stage)
    (alive : ∀ connection, (s'.connections connection).alive = (s.connections connection).alive)
    (stops : ∀ connection, stage ≠ .running connection)
    (running : ∀ other connection, other ≠ call → s.calls other = .running connection →
      s.holder = some { connection, count := 1 } → s'.holder = s.holder)
    (held : ∀ holder, s'.holder = some holder → s.holder = some holder ∧
      ((s.calls call).Holds holder.connection → stage.Holds holder.connection))
    (errors : stage.KeepsError (s'.callbacks call)) (others : ∀ other, other ≠ call → s'.callbacks other = s.callbacks other) :
    s'.Guarded := by
  have mine : s'.calls call = stage := by rw [calls, Function.update_self]
  have kept (other : Nat) (isOther : other ≠ call) : s'.calls other = s.calls other := by
    rw [calls, Function.update_of_ne isOther]
  have ran (other connection : Nat) (runs : s'.calls other = .running connection) :
      other ≠ call ∧ s.calls other = .running connection := by
    have isOther : other ≠ call := by
      rintro rfl
      exact stops connection (mine.symm.trans runs)
    exact ⟨isOther, (kept other isOther).symm.trans runs⟩
  refine ⟨fun first second c c' one two => ?_, fun other connection runs lives => ?_, fun holder now => ?_, ?_⟩
  · exact guarded.exclusive first second c c' (ran first c one).2 (ran second c' two).2
  · obtain ⟨isOther, before⟩ := ran other connection runs
    have holds := guarded.running other connection before ((alive connection).symm.trans lives)
    rw [running other connection isOther before holds, holds]
  · obtain ⟨before, still⟩ := held holder now
    obtain ⟨lives, once, other, holds⟩ := guarded.held holder before
    refine ⟨(alive holder.connection).trans lives, once, other, ?_⟩
    by_cases isOther : other = call
    · subst isOther
      rw [mine]
      exact still holds
    · rw [kept other isOther]
      exact holds
  · rw [calls]
    refine (Function.forall_update_iff s.calls fun other stage => stage.KeepsError (s'.callbacks other)).mpr ⟨errors, ?_⟩
    intro other isOther
    rw [others other isOther]
    exact guarded.errors other

/-- A lock that is granted was free. -/
theorem Guarded.granted {connection : Nat} {holder : Holder} (guarded : s.Guarded) (invariant : s.Invariant)
    (connected : s.calls call = .connected connection) (grants : pgTryAdvisoryLock connection s.holder = some holder) :
    s.holder = none ∧ holder = { connection, count := 1 } := by
  cases free : s.holder with
  | none =>
    rw [free] at grants
    exact ⟨rfl, (Option.some.inj grants).symm⟩
  | some holder' =>
    rw [free] at grants
    simp only [pgTryAdvisoryLock] at grants
    split at grants
    · rename_i same
      obtain ⟨-, -, other, holds⟩ := guarded.held holder' free
      have has : (s.calls call).connection = some holder'.connection := by rw [connected, same]; rfl
      cases invariant.apart other call holder'.connection holds.connection has
      rw [connected] at holds
      exact holds.elim
    · cases grants

/-- What the unlock leaves of the lock. -/
theorem Guarded.unlocked {connection : Nat} (guarded : s.Guarded) :
    pgAdvisoryUnlock connection s.holder = s.holder.filter fun holder => holder.connection ≠ connection := by
  cases before : s.holder with
  | none => rfl
  | some holder =>
    have once := (guarded.held holder before).2.1
    by_cases same : holder.connection = connection
    · simp [pgAdvisoryUnlock, Option.filter_some, same, once]
    · simp [pgAdvisoryUnlock, Option.filter_some, same]

/-- A session that ends, or that gives the lock back, takes no lock from another. -/
theorem filter_kept {connection connection' : Nat} (holder : Option Holder) (apart : connection' ≠ connection)
    (holds : holder = some { connection := connection', count := 1 }) :
    (holder.filter fun holder => holder.connection ≠ connection) = holder := by
  rw [holds]
  simp [Option.filter_some, apart]

/-- A call is granted the lock while no callback runs. -/
theorem Guarded.starts {connection : Nat} (guarded : s.Guarded) (none : ∀ other connection, s.calls other ≠ .running connection)
    (lives : (s.connections connection).alive = true) :
    Guarded { s.setCall call (.running connection) with holder := some { connection, count := 1 } } := by
  have ran (other connection' : Nat) (runs : Function.update s.calls call (.running connection) other = .running connection') :
      other = call ∧ connection' = connection := by
    by_cases isOther : other = call
    · subst isOther
      rw [Function.update_self] at runs
      cases runs
      exact ⟨rfl, rfl⟩
    · rw [Function.update_of_ne isOther] at runs
      exact absurd runs (none other connection')
  refine ⟨fun first second c c' one two => ?_, fun other connection' runs _ => ?_, ?_, ?_⟩
  · rw [(ran first c one).1, (ran second c' two).1]
  · rw [(ran other connection' runs).2]
  · rintro _ ⟨⟩
    refine ⟨lives, rfl, call, ?_⟩
    simp only [setCall, Function.update_self]
    rfl
  · exact (Function.forall_update_iff s.calls fun other stage => stage.KeepsError (s.callbacks other)).mpr
      ⟨trivial, fun other _ => guarded.errors other⟩

theorem Guarded.tryLock {connection : Nat} {result : RequestResult} {error : E} (guarded : s.Guarded)
    (invariant : s.Invariant) (connected : s.calls call = .connected connection) (answers : s.Answers connection result = true)
    (clean : Clean ⟨s, .tryLock call result error, s'⟩) : (s.tryLock call connection result error).Guarded := by
  have before := invariant.reports call
  rw [connected] at before
  rcases s.tryLock_cases call connection result error with ⟨holder, rfl, grants, same⟩ | ⟨answer, holder, -, same, kept⟩
  · -- the lock was free, so that no callback runs under a live session
    rw [same]
    obtain ⟨free, rfl⟩ := guarded.granted invariant connected grants
    have none (other connection' : Nat) (runs : s.calls other = .running connection') : False := by
      by_cases lives : (s.connections connection').alive = true
      · cases free.symm.trans (guarded.running other connection' runs lives)
      · have refused := clean.grants call connection error rfl connected other connection' runs (by simpa using lives)
        cases refused.symm.trans grants
    have lives : (s.connections connection).alive = true := by simpa [Answers] using answers
    exact guarded.starts (fun other connection' runs => none other connection' runs) lives
  · rw [same]
    have unchanged : holder = s.holder := by
      rcases kept with kept | ⟨rfl, grants, isSome⟩
      · exact kept
      · cases (clean.locks call connection error rfl connected).symm.trans grants
        cases isSome
    subst unchanged
    refine guarded.moved rfl (fun _ => rfl) nofun (fun _ _ _ _ _ => rfl) (fun _ now => ⟨now, ?_⟩) ?_ fun _ _ => rfl
    · rw [connected]
      exact False.elim
    · intro thrown ended
      cases before.symm.trans ended

theorem Guarded.unlock {connection : Nat} {outcome : Except E T} {result : RequestResult} {error : E} (guarded : s.Guarded)
    (invariant : s.Invariant) (settled : s.calls call = .settled connection outcome)
    (clean : Clean ⟨s, .unlock call result error, s'⟩) : (s.unlock call connection outcome result error).Guarded := by
  have before := invariant.reports call
  rw [settled] at before
  have has : (s.calls call).connection = some connection := by rw [settled]; rfl
  obtain ⟨failsDead, failsQuiet⟩ := clean.unlocks call connection outcome result error rfl settled
  obtain ⟨answer, holder, same, answered, kept⟩ := s.unlock_cases call connection outcome result error
  rw [guarded.unlocked] at kept
  rw [same]
  refine guarded.moved rfl (fun _ => rfl) nofun ?_ ?_ ?_ fun _ _ => rfl
  · intro other connection' isOther runs holds
    rcases kept with ⟨-, rfl⟩ | ⟨-, rfl⟩
    · have apart : connection' ≠ connection := by
        rintro rfl
        exact isOther (invariant.apart other call connection' (by rw [runs]; rfl) has)
      exact filter_kept s.holder apart holds
    · rfl
  · intro holder' now
    have still : s.holder = some holder' ∧ holder'.connection ≠ connection := by
      rcases kept with ⟨-, rfl⟩ | ⟨rfl, rfl⟩
      · simpa [Option.filter_eq_some_iff] using now
      · refine ⟨now, fun isOwn => ?_⟩
        have lives := (guarded.held holder' now).1
        rw [isOwn, failsDead rfl] at lives
        cases lives
    refine ⟨still.1, fun holds => ?_⟩
    rw [settled] at holds
    exact absurd holds.symm still.2
  · intro thrown ended
    cases Option.some.inj (before.symm.trans ended)
    rcases answered with rfl | ⟨failed, -⟩
    · rfl
    · exact absurd (failsQuiet thrown rfl) failed

theorem Guarded.endSession (guarded : s.Guarded) (connection : Nat) : (s.endSession connection).Guarded := by
  refine ⟨guarded.exclusive, fun call connection' runs lives => ?_, fun holder now => ?_, guarded.errors⟩
  · have apart : connection' ≠ connection := by
      rintro rfl
      simp [Postgres.endSession, setConnection] at lives
    have before : (s.connections connection').alive = true := by
      simpa [Postgres.endSession, setConnection, apart] using lives
    have holds := guarded.running call connection' runs before
    exact (filter_kept s.holder apart holds).trans holds
  · obtain ⟨before, apart⟩ : s.holder = some holder ∧ holder.connection ≠ connection := by
      simpa [Postgres.endSession, Option.filter_eq_some_iff] using now
    obtain ⟨lives, once, holds⟩ := guarded.held holder before
    refine ⟨?_, once, holds⟩
    simpa [Postgres.endSession, setConnection, apart] using lives

theorem Guarded.step {event : Event T E} (guarded : s.Guarded) (invariant : s.Invariant) (step : s.step event = some s')
    (clean : Clean ⟨s, event, s'⟩) : s'.Guarded := by
  cases moves_of_step step with
  | @connect call connection idle lives free =>
    refine guarded.moved rfl ?_ nofun (fun _ _ _ _ _ => rfl) (fun _ now => ⟨now, ?_⟩) trivial fun _ _ => rfl
    · intro other
      by_cases same : other = connection
      · subst same
        simp [setConnection, lives]
      · simp [setConnection, setCall, same]
    · rw [idle]
      exact False.elim
  | @connectFails call error idle =>
    refine guarded.moved rfl (fun _ => rfl) nofun (fun _ _ _ _ _ => rfl) (fun _ now => ⟨now, ?_⟩) ?_ fun _ _ => rfl
    · rw [idle]
      exact False.elim
    · intro thrown ended
      have before := invariant.reports call
      rw [idle] at before
      cases before.symm.trans ended
  | tryLock connected answers => exact guarded.tryLock invariant connected answers clean
  | @callback call connection outcome running =>
    refine guarded.moved rfl (fun _ => rfl) nofun (fun _ _ _ _ _ => rfl) (fun _ now => ⟨now, ?_⟩) trivial ?_
    · rw [running]
      exact id
    · intro other apart
      exact Function.update_of_ne apart ..
  | unlock settled => exact guarded.unlock invariant settled clean
  | @release call connection answer releasing =>
    refine guarded.moved rfl ?_ nofun (fun _ _ _ _ _ => rfl) (fun _ now => ⟨now, ?_⟩) ?_ fun _ _ => rfl
    · intro other
      by_cases same : other = connection
      · subst same
        simp [setConnection]
      · simp [setConnection, setCall, same]
    · rw [releasing]
      exact False.elim
    · have before := guarded.errors call
      rwa [releasing] at before
  | endSession => exact guarded.endSession _

theorem Invariant.truthful (invariant : s.Invariant) : s.Truthful := by
  intro call answer returned unrun
  have reports := invariant.reports call
  rw [returned, unrun] at reports
  cases answer with
  | error error => exact Or.inr ⟨error, rfl⟩
  | ok outcome =>
    cases outcome with
    | notRan => exact Or.inl rfl
    | ran result => cases reports result rfl

theorem Guarded.errorSeen (guarded : s.Guarded) : s.ErrorSeen := by
  intro call answer error returned thrown
  have keeps := guarded.errors call
  rw [returned] at keeps
  exact keeps error thrown

theorem Guarded.givenBack (guarded : s.Guarded) : s.GivenBack := by
  intro quiet holder held
  obtain ⟨-, -, call, holds⟩ := guarded.held holder held
  rcases quiet call with idle | ⟨answer, returned⟩
  · rw [idle] at holds
    exact holds.elim
  · rw [returned] at holds
    exact holds.elim

end Postgres

variable {log : List (Commit (Postgres T E) (Event T E))} {s : Postgres T E}

theorem Run.invariant (run : Run T E log s) (p : Postgres T E) (seen : Seen log s p) : p.Invariant := by
  refine run.invariant_seen ?_ (fun _ _ _ _ step invariant => invariant.step step) p seen
  rintro _ rfl
  exact Postgres.Invariant.empty

theorem Run.guarded (run : Run T E log s) (clean : ∀ commit ∈ log, Clean commit) (p : Postgres T E) (seen : Seen log s p) :
    p.Guarded := by
  have both : p.Invariant ∧ p.Guarded := by
    refine run.invariant_of (I := fun p => p.Invariant ∧ p.Guarded) ?_ ?_ clean p seen
    · rintro _ rfl
      exact ⟨Postgres.Invariant.empty, Postgres.Guarded.empty⟩
    · intro _ _ _ _ step clean ⟨invariant, guarded⟩
      exact ⟨invariant.step step, guarded.step invariant step clean⟩
  exact both.2

/-- The lock excludes, its callers learn what happened, and it is given back
when it is no longer needed. -/
theorem Run.excludes_and_gives_back (run : Run T E log s) : (∀ p, Seen log s p → p.Truthful) ∧
    ((∀ commit ∈ log, Clean commit) → ∀ p, Seen log s p → p.Exclusive ∧ p.ErrorSeen ∧ p.GivenBack) := by
  refine ⟨fun p seen => (run.invariant p seen).truthful, fun clean p seen => ?_⟩
  have guarded := run.guarded clean p seen
  exact ⟨guarded.exclusive, guarded.errorSeen, guarded.givenBack⟩

end run

section samples

/-- Queries that succeed, on sessions that do not end. -/
def smooth (_ : Postgres Nat String) : Event Nat String → Bool
  | .tryLock _ result _ => result = .done
  | .unlock _ result _ => result = .done
  | .endSession _ => false
  | _ => true

section smooth

variable {log : List (Commit (Postgres Nat String) (Event Nat String))} {s : Postgres Nat String}

theorem alive_of_smooth (run : Run Nat String log s) (checked : ∀ c ∈ log, smooth c.before c.act = true) :
    ∀ p, Seen log s p → ∀ connection, (p.connections connection).alive = true := by
  refine run.invariant_of ?_ ?_ checked
  · rintro _ rfl connection
    rfl
  · intro _ event s s' step checks alive other
    cases Postgres.moves_of_step step with
    | @connect call connection =>
      by_cases same : other = connection
      · simp [Postgres.setConnection, same]
      · simpa [Postgres.setConnection, Postgres.setCall, same] using alive other
    | connectFails => exact alive other
    | tryLock =>
      rcases Postgres.tryLock_cases s _ _ _ _ with ⟨_, -, -, same⟩ | ⟨_, _, -, same, -⟩ <;> rw [same] <;> exact alive other
    | callback => exact alive other
    | unlock =>
      obtain ⟨_, _, same, -⟩ := Postgres.unlock_cases s _ _ _ _ _
      rw [same]
      exact alive other
    | @release call connection =>
      by_cases same : other = connection
      · simpa [Postgres.setConnection, same] using alive connection
      · simpa [Postgres.setConnection, Postgres.setCall, same] using alive other
    | endSession => cases checks

theorem clean_of_smooth (run : Run Nat String log s) (checked : ∀ c ∈ log, smooth c.before c.act = true) :
    ∀ c ∈ log, Clean c := by
  rintro ⟨before, event, after⟩ member
  have alive := alive_of_smooth run checked before (Or.inr ⟨_, member, rfl⟩)
  have checks := checked _ member
  refine ⟨?_, ?_, ?_⟩
  · intro call connection error _ _ other connection' _ ended
    cases (alive connection').symm.trans ended
  · rintro call connection error rfl
    cases checks
  · rintro call connection outcome result error rfl _
    cases of_decide_eq_true checks
    exact ⟨nofun, fun _ _ => rfl⟩

end smooth

/-- A publish fails under the lock, and then the query that unlocks. -/
def sampleFailure : List (Event Nat String) :=
  [.connect 0 0, .tryLock 0 .done "unused", .callback 0 (.error "publish failed"), .unlock 0 .failed "query timeout", .release 0]

/-- A call is refused while another holds the lock, which publishes in vain. -/
theorem excludes_and_gives_back_failure : ∃ log s, Run Nat String log s ∧ s.calls 0 = .returned (.error "publish failed") ∧
    s.calls 1 = .returned (.ok .notRan) ∧ s.calls 2 = .returned (.ok (.ran 7)) ∧
    ∀ p, Seen log s p → p.Truthful ∧ p.Exclusive ∧ p.ErrorSeen ∧ p.GivenBack := by
  obtain ⟨log, s, run, checked, failed, refused, ran⟩ : ∃ log s, Run Nat String log s ∧
      (∀ c ∈ log, smooth c.before c.act = true) ∧ s.calls 0 = .returned (.error "publish failed") ∧
      s.calls 1 = .returned (.ok .notRan) ∧ s.calls 2 = .returned (.ok (.ran 7)) :=
    History.checked (by rfl) [.connect 0 0, .tryLock 0 .done "", .connect 1 1, .tryLock 1 .done "", .release 1,
      .callback 0 (.error "publish failed"), .unlock 0 .done "", .release 0, .connect 2 1, .tryLock 2 .done "",
      .callback 2 (.ok 7), .unlock 2 .done "", .release 2] ⟨_, rfl, rfl, rfl, rfl⟩
  obtain ⟨truthful, rest⟩ := Run.excludes_and_gives_back run
  have guarded := rest (clean_of_smooth run checked)
  exact ⟨log, s, run, failed, refused, ran, fun p seen => ⟨truthful p seen, guarded p seen⟩⟩

/-- The query that unlocks times out: the connection goes back to its pool with
the lock, another process is refused, and the error of the callback is lost. -/
theorem unlock_fails_after_failure : ∃ log s, Run Nat String log s ∧ ¬ s.ErrorSeen ∧ ¬ s.GivenBack := by
  obtain ⟨log, s, run, answer, others, callback, holder, alive⟩ : ∃ log s, Run Nat String log s ∧
      s.calls 0 = .returned (.error "query timeout") ∧ (∀ call, call ≠ 0 → s.calls call = .idle) ∧
      s.callbacks 0 = some (.error "publish failed") ∧ s.holder = some ⟨0, 1⟩ ∧ (s.connections 0).alive = true := by
    refine History.replayed sampleFailure ⟨_, rfl, rfl, fun call other => ?_, rfl, rfl, rfl⟩
    simp [Postgres.setConnection, Postgres.setCall, Postgres.unlock, Postgres.tryLock, Postgres.empty, pgTryAdvisoryLock, other]
  refine ⟨log, s, run, fun seen => ?_, fun givenBack => ?_⟩
  · have shown := seen 0 _ "publish failed" answer callback
    simp at shown
  · have quiet (call : Nat) : s.calls call = .idle ∨ ∃ answer, s.calls call = .returned answer := by
      by_cases same : call = 0
      · exact Or.inr ⟨_, same ▸ answer⟩
      · exact Or.inl (others call same)
    cases alive.symm.trans (givenBack quiet ⟨0, 1⟩ holder)

end samples

end FoodDelivery.Persistence
