import FoodDelivery.Lib.History
import FoodDelivery.Lib.Timeline
import FoodDelivery.Settings.Cache

namespace FoodDelivery.Settings

open CommitLog

variable {V : Type}

/-- CONFIG_CACHE_TTL_MS is positive. -/
structure SettingsClientOptions where
  ttlMs : Nat
  lasts : 0 < ttlMs

/-- A call of `getInt` or `isEnabled`. How many changes had been committed and
which of them processed when it started is kept for the statements only. -/
structure Request (V : Type) where
  tenantId : TenantId
  key : String
  defaultValue : V
  changes : Nat
  processed : List (Nat × ConfigChangeMessage)

inductive Outcome (V : Type)
  | hit (value : V)
  | fetched (value : V)
  | missing
  | failed

/-- What the call returns. -/
def Outcome.result (defaultValue : V) : Outcome V → V
  | .hit value => value
  | .fetched value => value
  | .missing => defaultValue
  | .failed => defaultValue

inductive Call (V : Type)
  | idle
  | fetching (request : Request V)
  | answered (request : Request V) (value : Option V)
  | returned (request : Request V) (outcome : Outcome V)

/-- One kind of setting: numbers for `getInt`, booleans for `isEnabled`. The
config service's entries with the message of each change, and one process's
cache and calls. The changes whose messages have been processed and the calls
that have returned are kept for the statements only. -/
structure Client (V : Type) where
  now : Nat
  config : Timeline (Entries V)
  messages : Nat → Option ConfigChangeMessage
  cache : SettingsCache V
  calls : Nat → Call V
  processed : List (Nat × ConfigChangeMessage)
  answers : List (Request V × Outcome V)

inductive Action (V : Type)
  | wait (ms : Nat)
  | change (message : ConfigChangeMessage) (value : V)
  | process (change : Nat)
  | evict (message : ConfigChangeMessage)
  | get (call : Nat) (tenantId : TenantId) (key : String) (defaultValue : V)
  | answer (call : Nat)
  | receive (call : Nat)
  | fail (call : Nat)

namespace Client

def start (entries : Entries V) : Client V where
  now := 0
  config := .start entries
  messages _ := none
  cache := .empty
  calls _ := .idle
  processed := []
  answers := []

def setCall (client : Client V) (call : Nat) (stage : Call V) : Client V :=
  { client with calls := Function.update client.calls call stage }

def returns (client : Client V) (call : Nat) (request : Request V) (outcome : Outcome V) : Client V :=
  { client.setCall call (.returned request outcome) with answers := (request, outcome) :: client.answers }

def get (client : Client V) (call : Nat) (tenantId : TenantId) (key : String) (defaultValue : V) : Client V :=
  let request : Request V :=
    { tenantId, key, defaultValue, changes := client.config.changes, processed := client.processed }
  let looked := client.cache.get client.now (buildCacheKey tenantId key)
  let client : Client V := { client with cache := looked.2 }
  match looked.1 with
  | some value => client.returns call request (.hit value)
  | none => client.setCall call (.fetching request)

/-- The response of the config service: a 404 is not cached. -/
def receive (options : SettingsClientOptions) (client : Client V) (call : Nat) (request : Request V) (value : Option V) :
    Client V :=
  match value with
  | some value =>
    { client.returns call request (.fetched value) with
      cache := client.cache.set client.now (buildCacheKey request.tenantId request.key) value options.ttlMs }
  | none => client.returns call request .missing

/-- One step. The config service answers a fetch at some moment before its
response arrives; a message is processed after its change has committed, and
a message may also be of the other kind of setting. -/
def step (options : SettingsClientOptions) (client : Client V) : Action V → Option (Client V)
  | .wait ms => some { client with now := client.now + ms }
  | .change message value =>
    some { client with
      config := client.config.commit (client.config.current.upsert message.tenantId message.key value)
      messages := Function.update client.messages (client.config.changes + 1) (some message) }
  | .process change =>
    match client.messages change with
    | some message =>
      some { client with cache := client.cache.evictFor message, processed := (change, message) :: client.processed }
    | none => none
  | .evict message => some { client with cache := client.cache.evictFor message }
  | .get call tenantId key defaultValue =>
    match client.calls call with
    | .idle => some (client.get call tenantId key defaultValue)
    | _ => none
  | .answer call =>
    match client.calls call with
    | .fetching request =>
      some (client.setCall call (.answered request (client.config.current.resolved request.tenantId request.key)))
    | _ => none
  | .receive call =>
    match client.calls call with
    | .answered request value => some (client.receive options call request value)
    | _ => none
  | .fail call =>
    match client.calls call with
    | .fetching request => some (client.returns call request .failed)
    | .answered request _ => some (client.returns call request .failed)
    | _ => none

/-- The value was resolved for the setting at or after each of the changes that concern it. -/
def Current (client : Client V) (processed : List (Nat × ConfigChangeMessage)) (tenantId : TenantId) (key : String)
    (value : V) : Prop :=
  ∀ change ∈ processed, change.2.Concerns tenantId key →
    client.config.Since (Entries.resolved tenantId key) change.1 (some value)

/-- What a call may return: a current value or, where the fetch fails or the
key does not exist, the caller's default. -/
def Right (client : Client V) (request : Request V) (outcome : Outcome V) : Prop :=
  client.Current request.processed request.tenantId request.key (outcome.result request.defaultValue) ∨
    outcome = .failed ∨
    outcome = .missing ∧ client.config.Since (Entries.resolved request.tenantId request.key) request.changes none

/-- No call returns, nor would one that started now return, a value superseded
by a change whose message has been processed. -/
structure NeverSuperseded (client : Client V) : Prop where
  answers : ∀ answer ∈ client.answers, client.Right answer.1 answer.2
  hits : ∀ tenantId key value, (client.cache.get client.now (buildCacheKey tenantId key)).1 = some value →
    client.Current client.processed tenantId key value

end Client

/-- A fetch is not overtaken: the value it stores was still resolved at or
after every change to it whose message has been processed. -/
def InTime (commit : Commit (Client V) (Action V)) : Prop :=
  ∀ call request value, commit.act = .receive call → commit.before.calls call = .answered request (some value) →
    commit.before.Current commit.before.processed request.tenantId request.key value

abbrev Run (options : SettingsClientOptions) : List (Commit (Client V) (Action V)) → Client V → Prop :=
  History (fun client => ∃ entries, client = .start entries) fun _ action client client' =>
    client.step options action = some client'

namespace Client

variable {options : SettingsClientOptions} {client client' : Client V}

structure Invariant (client : Client V) : Prop where
  processed : ∀ change ∈ client.processed, change.1 ≤ client.config.changes
  messages : ∀ change message, client.messages change = some message → change ≤ client.config.changes
  requests : ∀ call request, client.calls call = .fetching request →
    request.changes ≤ client.config.changes ∧ ∀ change ∈ request.processed, change.1 ≤ request.changes
  answered : ∀ call request value, client.calls call = .answered request value →
    (∀ change ∈ request.processed, change.1 ≤ request.changes) ∧
      client.config.Since (Entries.resolved request.tenantId request.key) request.changes value
  answers : ∀ answer ∈ client.answers, client.Right answer.1 answer.2
  stored : ∀ tenantId key record, client.cache.store (buildCacheKey tenantId key) = some record →
    client.Current client.processed tenantId key record.value

theorem Invariant.start (entries : Entries V) : (Client.start entries).Invariant := by
  refine ⟨?_, ?_, ?_, ?_, ?_, ?_⟩ <;> simp [Client.start, SettingsCache.empty]

theorem Invariant.neverSuperseded (invariant : client.Invariant) : client.NeverSuperseded := by
  refine ⟨invariant.answers, fun tenantId key value hit => ?_⟩
  obtain ⟨record, stored, rfl⟩ := SettingsCache.get_hit hit
  exact invariant.stored tenantId key record stored

theorem Current.commit {processed : List (Nat × ConfigChangeMessage)} {tenantId : TenantId} {key : String} {value : V}
    (current : client.Current processed tenantId key value) (entries : Entries V)
    (messages : Nat → Option ConfigChangeMessage) :
    Current { client with config := client.config.commit entries, messages } processed tenantId key value :=
  fun change member concerns => (current change member concerns).commit entries

theorem Right.commit {request : Request V} {outcome : Outcome V} (right : client.Right request outcome) (entries : Entries V)
    (messages : Nat → Option ConfigChangeMessage) :
    Right { client with config := client.config.commit entries, messages } request outcome := by
  rcases right with current | failed | ⟨missing, since⟩
  · exact Or.inl (current.commit entries messages)
  · exact Or.inr (Or.inl failed)
  · exact Or.inr (Or.inr ⟨missing, since.commit entries⟩)

/-- What a fetch begun after a change answers is not superseded by it. -/
theorem Current.of_since {request : Request V} {value : V} (known : ∀ change ∈ request.processed, change.1 ≤ request.changes)
    (since : client.config.Since (Entries.resolved request.tenantId request.key) request.changes (some value)) :
    client.Current request.processed request.tenantId request.key value :=
  fun change member _ => since.mono (known change member)

theorem Invariant.change (invariant : client.Invariant) (message : ConfigChangeMessage) (entries : Entries V) :
    Invariant { client with
      config := client.config.commit entries
      messages := Function.update client.messages (client.config.changes + 1) (some message) } := by
  refine ⟨?_, ?_, ?_, ?_, ?_, ?_⟩
  · exact fun change member => Nat.le_succ_of_le (invariant.processed change member)
  · intro change found sent
    have updates : Function.update client.messages (client.config.changes + 1) (some message) change =
        if change = client.config.changes + 1 then some message else client.messages change := Function.update_apply ..
    simp only [updates] at sent
    split at sent
    · rename_i new
      exact Nat.le_of_eq new
    · exact Nat.le_succ_of_le (invariant.messages change found sent)
  · intro call request stage
    exact (invariant.requests call request stage).imp_left Nat.le_succ_of_le
  · intro call request value stage
    exact (invariant.answered call request value stage).imp_right fun since => since.commit entries
  · exact fun answer member => (invariant.answers answer member).commit entries _
  · exact fun tenantId key record stored => (invariant.stored tenantId key record stored).commit entries _

theorem Invariant.setCall {call : Nat} {stage : Call V} (invariant : client.Invariant)
    (fetching : ∀ request, stage = .fetching request →
      request.changes ≤ client.config.changes ∧ ∀ change ∈ request.processed, change.1 ≤ request.changes)
    (answered : ∀ request value, stage = .answered request value →
      (∀ change ∈ request.processed, change.1 ≤ request.changes) ∧
        client.config.Since (Entries.resolved request.tenantId request.key) request.changes value) :
    (client.setCall call stage).Invariant := by
  have stages (other : Nat) : (client.setCall call stage).calls other =
      if other = call then stage else client.calls other := Function.update_apply ..
  refine { invariant with requests := ?_, answered := ?_ }
  · intro other request found
    rw [stages] at found
    split at found
    · exact fetching request found
    · exact invariant.requests other request found
  · intro other request value found
    rw [stages] at found
    split at found
    · exact answered request value found
    · exact invariant.answered other request value found

theorem Invariant.returns {call : Nat} {request : Request V} {outcome : Outcome V} (invariant : client.Invariant)
    (right : client.Right request outcome) : (client.returns call request outcome).Invariant := by
  have set : (client.setCall call (.returned request outcome)).Invariant := invariant.setCall nofun nofun
  exact { set with answers := List.forall_mem_cons.mpr ⟨right, set.answers⟩ }

/-- A cache with no other records is as good. -/
theorem Invariant.cache {cache : SettingsCache V} (invariant : client.Invariant)
    (fewer : ∀ cacheKey record, cache.store cacheKey = some record → client.cache.store cacheKey = some record) :
    Invariant { client with cache } :=
  { invariant with stored := fun tenantId key record stored => invariant.stored tenantId key record (fewer _ _ stored) }

theorem Invariant.evictFor (invariant : client.Invariant) (message : ConfigChangeMessage) :
    Invariant { client with cache := client.cache.evictFor message } :=
  { invariant with stored := fun tenantId key record stored =>
      invariant.stored tenantId key record (SettingsCache.evictFor_some stored).2 }

/-- The message of a change is processed: what it concerns is gone from the cache. -/
theorem Invariant.process {change : Nat} {message : ConfigChangeMessage} (invariant : client.Invariant)
    (sent : client.messages change = some message) :
    Invariant { client with
      cache := client.cache.evictFor message, processed := (change, message) :: client.processed } := by
  refine { invariant with
    processed := List.forall_mem_cons.mpr ⟨invariant.messages change message sent, invariant.processed⟩, stored := ?_ }
  intro tenantId key record stored
  obtain ⟨spared, before⟩ := SettingsCache.evictFor_some stored
  exact List.forall_mem_cons.mpr ⟨fun concerns => absurd concerns spared, invariant.stored tenantId key record before⟩

theorem Invariant.get {call : Nat} {tenantId : TenantId} {key : String} {defaultValue : V} (invariant : client.Invariant) :
    (client.get call tenantId key defaultValue).Invariant := by
  have looked : Invariant { client with cache := (client.cache.get client.now (buildCacheKey tenantId key)).2 } :=
    invariant.cache fun _ _ => SettingsCache.get_some
  unfold Client.get
  simp only
  split
  · rename_i value hit
    obtain ⟨record, stored, rfl⟩ := SettingsCache.get_hit hit
    exact looked.returns (Or.inl (invariant.stored tenantId key record stored))
  · refine looked.setCall ?_ nofun
    rintro _ ⟨⟩
    exact ⟨Nat.le_refl _, invariant.processed⟩

theorem Invariant.receive {call : Nat} {request : Request V} {value : Option V} (invariant : client.Invariant)
    (stage : client.calls call = .answered request value)
    (inTime : ∀ found, value = some found → client.Current client.processed request.tenantId request.key found) :
    (client.receive options call request value).Invariant := by
  obtain ⟨known, since⟩ := invariant.answered call request value stage
  unfold Client.receive
  split
  · rename_i value
    have returned : (client.returns call request (.fetched value)).Invariant :=
      invariant.returns (Or.inl (.of_since known since))
    refine { returned with stored := ?_ }
    intro tenantId key record stored
    rcases SettingsCache.set_some stored with ⟨own, rfl⟩ | old
    · obtain ⟨rfl, rfl⟩ := buildCacheKey_inj own
      exact inTime record.value rfl
    · exact invariant.stored tenantId key record old
  · exact invariant.returns (Or.inr (Or.inr ⟨rfl, since⟩))

theorem Invariant.step {action : Action V} (invariant : client.Invariant) (step : client.step options action = some client')
    (inTime : InTime ⟨client, action, client'⟩) : client'.Invariant := by
  cases action with
  | wait ms =>
    cases step
    exact { invariant with }
  | change message value =>
    cases step
    exact invariant.change message _
  | process change =>
    simp only [Client.step] at step
    split at step
    · rename_i message sent
      cases step
      exact invariant.process sent
    · cases step
  | evict message =>
    cases step
    exact invariant.evictFor message
  | get call tenantId key defaultValue =>
    simp only [Client.step] at step
    split at step
    · cases step
      exact invariant.get
    · cases step
  | answer call =>
    simp only [Client.step] at step
    split at step
    · rename_i request stage
      cases step
      obtain ⟨started, known⟩ := invariant.requests call request stage
      refine invariant.setCall nofun ?_
      rintro _ _ ⟨⟩
      exact ⟨known, Timeline.since_current started⟩
    · cases step
  | receive call =>
    simp only [Client.step] at step
    split at step
    · rename_i request value stage
      cases step
      refine invariant.receive stage ?_
      rintro found rfl
      exact inTime call request found rfl stage
    · cases step
  | fail call =>
    simp only [Client.step] at step
    split at step
    · cases step
      exact invariant.returns (Or.inr (Or.inl rfl))
    · cases step
      exact invariant.returns (Or.inr (Or.inl rfl))
    · cases step

/-- Every change is the upsert that its message tells of. -/
def Upserted (client : Client V) : Prop :=
  ∀ k < client.config.changes, ∃ message value, client.messages (k + 1) = some message ∧
    client.config.states (k + 1) = (client.config.states k).upsert message.tenantId message.key value

theorem Upserted.change (upserted : client.Upserted) (message : ConfigChangeMessage) (value : V) :
    Upserted { client with
      config := client.config.commit (client.config.current.upsert message.tenantId message.key value)
      messages := Function.update client.messages (client.config.changes + 1) (some message) } := by
  intro k before
  rcases Nat.lt_succ_iff_lt_or_eq.mp before with old | rfl
  · obtain ⟨earlier, written, sent, states⟩ := upserted k old
    refine ⟨earlier, written, ?_, ?_⟩
    · exact (Function.update_of_ne (by omega) ..).trans sent
    · exact (Timeline.commit_states _ old).trans (states.trans (by rw [Timeline.commit_states _ (Nat.le_of_lt old)]))
  · refine ⟨message, value, Function.update_self .., ?_⟩
    rw [Timeline.commit_states _ (Nat.le_refl _)]
    exact Timeline.commit_current ..

theorem Upserted.step {action : Action V} (upserted : client.Upserted) (step : client.step options action = some client') :
    client'.Upserted := by
  cases action with
  | wait ms =>
    cases step
    exact upserted
  | change message value =>
    cases step
    exact upserted.change message value
  | process change =>
    simp only [Client.step] at step
    split at step
    · cases step
      exact upserted
    · cases step
  | evict message =>
    cases step
    exact upserted
  | get call tenantId key defaultValue =>
    simp only [Client.step] at step
    split at step
    · cases step
      unfold Client.get
      simp only
      split
      · exact upserted
      · exact upserted
    · cases step
  | answer call =>
    simp only [Client.step] at step
    split at step
    · cases step
      exact upserted
    · cases step
  | receive call =>
    simp only [Client.step] at step
    split at step
    · cases step
      unfold Client.receive
      split
      · exact upserted
      · exact upserted
    · cases step
  | fail call =>
    simp only [Client.step] at step
    split at step
    · cases step
      exact upserted
    · cases step
      exact upserted
    · cases step

/-- A value stored too late is what a call that started now would return. -/
theorem NeverSuperseded.in_time {action : Action V} (step : client.step options action = some client')
    (never : client'.NeverSuperseded) : InTime ⟨client, action, client'⟩ := by
  rintro call request value rfl stage
  simp only at stage
  simp only [Client.step, stage] at step
  cases step
  exact never.hits request.tenantId request.key value (SettingsCache.get_set options.lasts)

end Client

section run

variable {options : SettingsClientOptions} {log : List (Commit (Client V) (Action V))} {client : Client V}

/-- Every change is the upsert that its message tells of. -/
theorem Run.upserted (run : Run options log client) : client.Upserted := by
  refine run.invariant ?_ ?_
  · rintro _ ⟨entries, rfl⟩ k none
    cases none
  · intro _ action client client' step upserted
    exact upserted.step step

/-- A value that is current after the last change that concerns the setting is
what the config service resolves now. -/
theorem Run.current_eq_resolved (run : Run options log client) {change : Nat × ConfigChangeMessage}
    {processed : List (Nat × ConfigChangeMessage)} {tenantId : TenantId} {key : String} {value : V}
    (current : client.Current processed tenantId key value) (member : change ∈ processed)
    (known : change.1 ≤ client.config.changes) (concerns : change.2.Concerns tenantId key)
    (last : ∀ later message, change.1 < later → client.messages later = some message → ¬ message.Concerns tenantId key) :
    client.config.current.resolved tenantId key = some value := by
  have untouched : ∀ k, change.1 < k → k ≤ client.config.changes →
      (client.config.states k).resolved tenantId key = (client.config.states (k - 1)).resolved tenantId key := by
    intro k later before
    obtain ⟨message, _, sent, upserted⟩ := run.upserted (k - 1) (by omega)
    rw [Nat.sub_add_cancel (by omega)] at sent upserted
    rw [upserted, Entries.resolved_upsert (last k message later sent)]
  rw [(current change member concerns).unchanged untouched, (Timeline.since_current known).unchanged untouched]

/-- No settings change is hidden after its invalidation exactly in the runs in
which no fetch is overtaken by a change and its message. -/
theorem Run.never_superseded_iff (run : Run options log client) :
    (∀ s, Seen log client s → s.NeverSuperseded) ↔ ∀ commit ∈ log, InTime commit := by
  refine run.forall_iff_of_invariant (I := Client.Invariant) ?_ (fun _ => Client.Invariant.neverSuperseded) ?_ ?_
  · rintro _ ⟨entries, rfl⟩
    exact .start entries
  · intro _ action client client' step inTime invariant
    exact invariant.step step inTime
  · intro _ action client client' step _ never
    exact never.in_time step

end run

section samples

def tenantA : TenantId where
  text := "tenant-a"
  plain := by decide

def deliveryFee : Entries Int := fun tenantId key => if tenantId = none ∧ key = "delivery_fee" then some 20 else none

def sampleOptions : SettingsClientOptions where
  ttlMs := 30000
  lasts := by decide

def feeChanged : ConfigChangeMessage where
  tenantId := none
  key := "delivery_fee"

/-- A fetch after the change, and a lookup that hits its answer. -/
theorem never_superseded_of_refetched_sample : ∃ (log : _) (client : Client Int), Run sampleOptions log client ∧
    client.answers.map (fun answer => answer.2.result answer.1.defaultValue) = [30, 30] ∧
    ∀ s, Seen log client s → s.NeverSuperseded := by
  have start : Run sampleOptions [] (Client.start deliveryFee) := History.start ⟨_, rfl⟩
  have changed := (start.commit (a := .change feeChanged 30) rfl).commit (a := .process 1) rfl
  have fetched := (changed.commit (a := .get 0 tenantA "delivery_fee" 15) rfl).commit (a := .answer 0) rfl
  have received := fetched.commit (a := .receive 0) rfl
  have hit := received.commit (a := .get 1 tenantA "delivery_fee" 15) rfl
  refine ⟨_, _, hit, rfl, (Run.never_superseded_iff hit).mpr ?_⟩
  refine List.forall_mem_cons.mpr ⟨nofun, List.forall_mem_cons.mpr ⟨?_, by simp [InTime]⟩⟩
  rintro _ _ _ ⟨⟩ stage change member -
  cases stage
  cases List.mem_singleton.mp member
  exact ⟨1, Nat.le_refl _, Nat.le_refl _, rfl⟩

/-- A fetch answered before the change and stored after its message. -/
theorem superseded_by_overtaken_fetch : ∃ (log : _) (client : Client Int), Run sampleOptions log client ∧
    ¬ client.NeverSuperseded := by
  have start : Run sampleOptions [] (Client.start deliveryFee) := History.start ⟨_, rfl⟩
  have fetched := (start.commit (a := .get 0 tenantA "delivery_fee" 15) rfl).commit (a := .answer 0) rfl
  have changed := (fetched.commit (a := .change feeChanged 30) rfl).commit (a := .process 1) rfl
  have received := changed.commit (a := .receive 0) rfl
  refine ⟨_, _, received, fun never => ?_⟩
  obtain ⟨k, later, known, shown⟩ := never.hits tenantA "delivery_fee" 20 rfl (1, feeChanged) (List.mem_cons_self ..)
    ⟨rfl, Or.inl rfl⟩
  obtain rfl : k = 1 := Nat.le_antisymm known later
  cases shown

end samples

end FoodDelivery.Settings
