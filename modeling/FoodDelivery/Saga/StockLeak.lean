import FoodDelivery.Saga.Stock

namespace FoodDelivery.StockSaga

open Messaging CommitLog InventoryService
open OrderService (View Progress StockCommands Reserving Releasing)

/-- What is true of one order between the steps: how far its commands are
handled, what is owed and told to the order service, and under which tenants
it holds stock. -/
structure Sound (orderId : Uuid) (view : View) (offset : Nat) (owed : Option OutboxCommandEntry) (replies : List OutboxRow)
    (holds : Uuid → Prop) : Prop where
  lawful : view.Lawful orderId
  bounded : offset ≤ (sentOn view.rows .inventoryCommands).length
  handling : owed ≠ none → offset < (sentOn view.rows .inventoryCommands).length
  addressed : ∀ row ∈ replies, row.payload.orderId = orderId
  owes : ∀ entry, owed = some entry → entry.aggregateId = orderId ∧ entry.payload.orderId = orderId
  tenant : ∀ tenantId, holds tenantId → view.tenantId = some tenantId
  released : ∀ n row, offset = n + 1 → (sentOn view.rows .inventoryCommands)[n]? = some row →
    row.eventType = .releaseStock → ∀ tenantId, ¬ holds tenantId
  releasing : ∀ row, owed ≠ none → (sentOn view.rows .inventoryCommands)[offset]? = some row →
    row.eventType = .releaseStock → ∀ tenantId, ¬ holds tenantId
  refused : ∀ row ∈ replies, row.eventType = .stockReservationFailed → ∀ tenantId, ¬ holds tenantId
  refusing : ∀ entry, owed = some entry → entry.eventType = .stockReservationFailed → ∀ tenantId, ¬ holds tenantId
  cancelled : view.state = some .cancelled → (∃ row ∈ replies, row.eventType = .stockReservationFailed) ∨
    ∃ row ∈ sentOn view.rows .inventoryCommands, row.eventType = .releaseStock

namespace Sound

variable {orderId : Uuid} {view : View} {offset : Nat} {owed : Option OutboxCommandEntry} {replies : List OutboxRow}
  {holds : Uuid → Prop}

/-- After a release there are only releases. -/
theorem release_after (sound : Sound orderId view offset owed replies holds) {m n : Nat} {first last : OutboxRow}
    (le : m ≤ n) (atFirst : (sentOn view.rows .inventoryCommands)[m]? = some first)
    (release : first.eventType = .releaseStock) (atLast : (sentOn view.rows .inventoryCommands)[n]? = some last) :
    last.eventType = .releaseStock := by
  cases atState : view.state with
  | none =>
    rw [sound.lawful.unplaced atState] at atFirst
    cases atFirst
  | some state =>
    obtain ⟨tenantId, -, commands⟩ := sound.lawful.commands state atState
    exact commands.release_after le atFirst release atLast

/-- An order that is cancelled and has nothing undelivered holds no stock. -/
theorem no_leak (sound : Sound orderId view offset owed replies holds) (cancelled : view.state = some .cancelled)
    (delivered : (sentOn view.rows .inventoryCommands).length ≤ offset) (tenantId : Uuid) : ¬ holds tenantId := by
  rcases sound.cancelled cancelled with ⟨row, told, refusal⟩ | ⟨row, member, release⟩
  · exact sound.refused row told refusal tenantId
  · -- the last command is a release, and it has been handled
    obtain ⟨m, within, rfl⟩ := List.mem_iff_getElem.mp member
    have same : offset = (sentOn view.rows .inventoryCommands).length := le_antisymm sound.bounded delivered
    obtain ⟨n, last⟩ : ∃ n, offset = n + 1 := ⟨offset - 1, by omega⟩
    have inside : n < (sentOn view.rows .inventoryCommands).length := by omega
    have atLast := List.getElem?_eq_getElem inside
    have after := sound.release_after (by omega) (List.getElem?_eq_getElem within) release atLast
    exact sound.released n _ last atLast after tenantId

/-- Holding less is as good. -/
theorem fewer (sound : Sound orderId view offset owed replies holds) {holds' : Uuid → Prop}
    (less : ∀ tenantId, holds' tenantId → holds tenantId) : Sound orderId view offset owed replies holds' where
  lawful := sound.lawful
  bounded := sound.bounded
  handling := sound.handling
  addressed := sound.addressed
  owes := sound.owes
  tenant tenantId held := sound.tenant tenantId (less tenantId held)
  released n row last found release tenantId held := sound.released n row last found release tenantId (less tenantId held)
  releasing row owes found release tenantId held := sound.releasing row owes found release tenantId (less tenantId held)
  refused row told refusal tenantId held := sound.refused row told refusal tenantId (less tenantId held)
  refusing entry owes refusal tenantId held := sound.refusing entry owes refusal tenantId (less tenantId held)
  cancelled := sound.cancelled

/-- The order moves on; a refusal it has been told of is one of the replies. -/
theorem progress (sound : Sound orderId view offset owed replies holds) {act : OrderService.Transaction} {view' : View}
    (progress : Progress orderId act view view')
    (told : ∀ envelope now stamp, act = .reply .inventory envelope orderId now stamp →
      envelope.eventType = .stockReservationFailed → ∃ row ∈ replies, row.eventType = .stockReservationFailed) :
    Sound orderId view' offset owed replies holds := by
  have grows : sentOn view.rows .inventoryCommands <+: sentOn view'.rows .inventoryCommands := progress.grows.filter _
  have longer := grows.length_le
  have older {n : Nat} {row : OutboxRow} (within : n < (sentOn view.rows .inventoryCommands).length)
      (found : (sentOn view'.rows .inventoryCommands)[n]? = some row) :
      (sentOn view.rows .inventoryCommands)[n]? = some row := by
    rw [List.getElem?_eq_getElem (by omega)] at found
    rw [List.getElem?_eq_getElem within, grows.getElem within]
    exact found
  refine ⟨progress.lawful sound.lawful, sound.bounded.trans longer, ?_, sound.addressed, sound.owes, ?_, ?_, ?_,
    sound.refused, sound.refusing, ?_⟩
  · intro owes
    exact (sound.handling owes).trans_le longer
  · intro tenantId held
    exact progress.tenantId (sound.tenant tenantId held)
  · intro n row last found
    have within := sound.bounded
    exact sound.released n row last (older (by omega) found)
  · intro row owes found
    exact sound.releasing row owes (older (sound.handling owes) found)
  · intro ended
    rcases progress.cancelled sound.lawful ended with before | ⟨envelope, now, stamp, same, refusal⟩ | ⟨row, member, release⟩
    · rcases sound.cancelled before with refused | ⟨row, member, release⟩
      · exact Or.inl refused
      · exact Or.inr ⟨row, grows.subset member, release⟩
    · exact Or.inl (told envelope now stamp same refusal)
    · exact Or.inr ⟨row, grows.subset member, release⟩

/-- A consumer may go back. -/
theorem rewind (sound : Sound orderId view offset owed replies holds) {offset' : Nat} (back : offset' ≤ offset) :
    Sound orderId view offset' none replies holds := by
  have bounded := sound.bounded
  refine ⟨sound.lawful, back.trans bounded, fun absurd => absurd.irrefl.elim, sound.addressed, ?_, sound.tenant, ?_, ?_,
    sound.refused, ?_, sound.cancelled⟩
  · intro entry absent
    cases absent
  · intro n row last found release
    obtain ⟨m, here⟩ : ∃ m, offset = m + 1 := ⟨offset - 1, by omega⟩
    have atLast := List.getElem?_eq_getElem (show m < (sentOn view.rows .inventoryCommands).length by omega)
    exact sound.released m _ here atLast (sound.release_after (by omega) found release atLast)
  · intro row absent
    exact absurd rfl absent
  · intro entry absent
    cases absent

/-- The effect of the command at the offset has committed. -/
theorem owe (sound : Sound orderId view offset owed replies holds) {row : OutboxRow} {entry : OutboxCommandEntry}
    {holds' : Uuid → Prop} (found : (sentOn view.rows .inventoryCommands)[offset]? = some row)
    (addressed : entry.aggregateId = orderId ∧ entry.payload.orderId = orderId)
    (tenant : ∀ tenantId, holds' tenantId → view.tenantId = some tenantId)
    (releases : row.eventType = .releaseStock → ∀ tenantId, ¬ holds' tenantId)
    (refuses : entry.eventType = .stockReservationFailed → ∀ tenantId, ¬ holds' tenantId)
    (calm : (∀ tenantId, holds' tenantId → holds tenantId) ∨ row.eventType ≠ .releaseStock ∧
      ∀ row ∈ replies, row.eventType ≠ .stockReservationFailed) :
    Sound orderId view offset (some entry) replies holds' := by
  refine ⟨sound.lawful, sound.bounded, fun _ => (List.getElem?_eq_some_iff.mp found).1, sound.addressed, ?_, tenant, ?_, ?_,
    ?_, ?_, sound.cancelled⟩
  · intro other same
    cases same
    exact addressed
  · intro n last here atLast release tenantId held
    rcases calm with less | ⟨reserve, -⟩
    · exact sound.released n last here atLast release tenantId (less tenantId held)
    · exact reserve (sound.release_after (by omega) atLast release found)
  · intro other _ atOther
    cases found.symm.trans atOther
    exact releases
  · intro told member refusal tenantId held
    rcases calm with less | ⟨-, none⟩
    · exact sound.refused told member refusal tenantId (less tenantId held)
    · exact none told member refusal
  · intro other same
    cases same
    exact refuses

/-- The reply that was owed has committed. -/
theorem reply {entry : OutboxCommandEntry} (sound : Sound orderId view offset (some entry) replies holds)
    {replies' : List OutboxRow} (kept : replies ⊆ replies')
    (new : ∀ row ∈ replies', row ∈ replies ∨ row.eventType = entry.eventType ∧ row.payload = entry.payload) :
    Sound orderId view (offset + 1) none replies' holds := by
  have within := sound.handling (Option.some_ne_none entry)
  refine ⟨sound.lawful, within, fun absurd => absurd.irrefl.elim, ?_, ?_, sound.tenant, ?_, ?_, ?_, ?_, ?_⟩
  · intro row member
    rcases new row member with old | ⟨-, same⟩
    · exact sound.addressed row old
    · rw [same]
      exact (sound.owes entry rfl).2
  · intro other absent
    cases absent
  · intro n row here found
    cases here
    exact sound.releasing row (Option.some_ne_none entry) found
  · intro row absent
    exact absurd rfl absent
  · intro row member refusal
    rcases new row member with old | ⟨same, -⟩
    · exact sound.refused row old refusal
    · exact sound.refusing entry rfl (same.symm.trans refusal)
  · intro other absent
    cases absent
  · intro ended
    rcases sound.cancelled ended with ⟨row, member, refusal⟩ | released
    · exact Or.inl ⟨row, kept member, refusal⟩
    · exact Or.inr released

end Sound

/-- What is true of both services between the steps. -/
structure Invariant (system : System) : Prop where
  order : OrderService.Run system.orderLog system.order
  distinct : system.inventory.inventory.Distinct
  sound : ∀ orderId, Sound orderId (system.order.view orderId) (system.commandOffset orderId) (system.owed orderId)
    (system.replies orderId) fun tenantId => system.inventory.inventory.Holds tenantId orderId

theorem mem_told {outbox : List OutboxRow} {orderId : Uuid} {row : OutboxRow} :
    row ∈ sentOn (rowsOf outbox orderId) .inventoryReplies ↔
      row ∈ outbox ∧ row.aggregateId = orderId ∧ row.topic = .inventoryReplies := by
  rw [mem_sentOn, mem_rowsOf, and_assoc]

theorem mem_appendOnce {db : Db} {envelope : EventEnvelopeHeaders} {entry : OutboxCommandEntry} {stamp : Stamp}
    {row : OutboxRow} (member : row ∈ (db.appendOnce envelope entry stamp).outbox) :
    row ∈ db.outbox ∨ row = entry.toRow envelope.tenantId stamp := by
  unfold Db.appendOnce at member
  split at member
  · exact Or.inl member
  · rcases List.mem_append.mp member with old | new
    · exact Or.inl old
    · exact Or.inr (List.mem_singleton.mp new)

theorem replies_appendOnce {system : System} {envelope : EventEnvelopeHeaders} {entry : OutboxCommandEntry} {stamp : Stamp}
    {orderId : Uuid} (other : entry.aggregateId ≠ orderId) :
    sentOn (rowsOf (system.inventory.appendOnce envelope entry stamp).outbox orderId) .inventoryReplies =
      system.replies orderId := by
  unfold Db.appendOnce
  split
  · rfl
  · rw [rowsOf_append_of_ne other]
    rfl

theorem subset_appendOnce (db : Db) (envelope : EventEnvelopeHeaders) (entry : OutboxCommandEntry) (stamp : Stamp) :
    db.outbox ⊆ (db.appendOnce envelope entry stamp).outbox := by
  unfold Db.appendOnce
  split
  · exact List.Subset.refl _
  · exact List.subset_append_left _ _

theorem Invariant.initial {system : System} (initial : system.Initial) : Invariant system := by
  have none : system.inventory.inventory.reservations = [] := initial.inventory.1
  have noReplies (orderId : Uuid) : system.replies orderId = [] := by
    rw [System.replies, initial.inventory.2.1]
    rfl
  refine ⟨?_, ?_, ?_⟩
  · rw [initial.order, initial.orderLog]
    exact .start rfl
  · rw [Inventory.Distinct, none]
    exact List.nodup_nil
  · intro orderId
    rw [initial.order, initial.commandOffset, initial.owed, noReplies]
    have free (tenantId : Uuid) : ¬ system.inventory.inventory.Holds tenantId orderId := by
      rintro ⟨row, member, -⟩
      rw [none] at member
      cases member
    have empty : OrderService.Db.empty.view orderId = ⟨Option.none, Option.none, Option.none, []⟩ := rfl
    rw [empty]
    refine ⟨⟨fun _ => rfl, ?_⟩, le_rfl, fun absurd => absurd.irrefl.elim, ?_, ?_, ?_, ?_, ?_, ?_, ?_, ?_⟩
    · intro state absent
      cases absent
    · intro row absent
      cases absent
    · intro entry absent
      cases absent
    · exact fun tenantId held => absurd held (free tenantId)
    · exact fun _ _ _ _ _ tenantId => free tenantId
    · exact fun _ _ _ _ tenantId => free tenantId
    · exact fun _ _ _ tenantId => free tenantId
    · exact fun _ _ _ tenantId => free tenantId
    · intro absent
      cases absent

/-- A command of an order goes by its payload and its tenant. -/
theorem Sound.command {orderId : Uuid} {view : View} {offset : Nat} {owed : Option OutboxCommandEntry}
    {replies : List OutboxRow} {holds : Uuid → Prop} (sound : Sound orderId view offset owed replies holds) {n : Nat}
    {row : OutboxRow} (found : (sentOn view.rows .inventoryCommands)[n]? = some row) :
    view.tenantId = some row.tenantId ∧ (Reserving row.tenantId orderId row ∨ Releasing row.tenantId orderId row) := by
  have member := List.mem_of_getElem? found
  cases atState : view.state with
  | none =>
    rw [sound.lawful.unplaced atState] at member
    cases member
  | some state =>
    obtain ⟨tenantId, known, commands⟩ := sound.lawful.commands state atState
    rcases commands.either row member with reserving | releasing
    · rw [reserving.tenant]
      exact ⟨known, Or.inl reserving⟩
    · rw [releasing.tenant]
      exact ⟨known, Or.inr releasing⟩

/-- The effect of a command on its own order. -/
theorem Sound.handled {system : System} {orderId : Uuid} {offset : Nat} {owed : Option OutboxCommandEntry} {row : OutboxRow}
    {ids : Nat → Uuid} {entry : OutboxCommandEntry} {inventory : Inventory}
    (sound : Sound orderId (system.order.view orderId) offset owed (system.replies orderId)
      fun tenantId => system.inventory.inventory.Holds tenantId orderId)
    (punctual : ¬ Event.TakesRefused system (.effect orderId)) (at_ : offset = system.commandOffset orderId)
    (found : (system.commands orderId)[offset]? = some row)
    (known : (system.order.view orderId).tenantId = some row.tenantId) (mine : row.payload.orderId = orderId)
    (outcome : Outcome row.envelope ids system.inventory.inventory row.payload entry inventory) :
    Sound orderId (system.order.view orderId) offset (some entry) (system.replies orderId)
      fun tenantId => inventory.Holds tenantId orderId := by
  have tenant (tenantId : Uuid) (held : inventory.Holds tenantId orderId) :
      (system.order.view orderId).tenantId = some tenantId := by
    rcases outcome.holds held with before | ⟨rfl, -⟩
    · exact sound.tenant tenantId before
    · exact known
  have addressed : entry.aggregateId = orderId ∧ entry.payload.orderId = orderId := mine ▸ outcome.addressed
  have reserves (type : row.eventType = .reserveStock) (release : row.eventType = .releaseStock) : False := by
    rw [type] at release
    cases release
  generalize payload : row.payload = sent at outcome mine
  cases outcome with
  | held type =>
    refine sound.owe found addressed tenant (fun release => (reserves type release).elim) ?_ (Or.inl fun _ held => held)
    intro absurd
    cases absurd
  | @taken target items normal type valid free covers =>
    refine sound.owe found addressed tenant (fun release => (reserves type release).elim) ?_ (Or.inr ⟨reserves type, ?_⟩)
    · intro absurd
      cases absurd
    · intro told member refusal
      subst mine at_
      exact punctual ⟨⟨told, member, refusal⟩, row, items, normal, found, payload, valid, free, covers⟩
  | refused type free =>
    refine sound.owe found addressed tenant (fun release => (reserves type release).elim) ?_ (Or.inl fun _ held => held)
    intro _ tenantId held
    cases known.symm.trans (sound.tenant tenantId held)
    subst mine
    exact free held
  | released type =>
    have less (tenantId : Uuid) := system.inventory.inventory.giveBackEach_holds row.tenantId orderId tenantId orderId
    subst mine
    refine sound.owe found addressed tenant ?_ ?_ (Or.inl fun tenantId held => ((less tenantId).mp held).1)
    · intro _ tenantId held
      obtain ⟨before, other⟩ := (less tenantId).mp held
      cases known.symm.trans (sound.tenant tenantId before)
      exact other ⟨rfl, rfl⟩
    · intro absurd
      cases absurd

/-- One step of the services, as long as no ReserveStock takes refused stock. -/
theorem Invariant.step {system system' : System} {event : Event} (step : Step event system system')
    (punctual : ¬ event.TakesRefused system) (invariant : Invariant system) : Invariant system' := by
  obtain ⟨order, distinct, sound⟩ := invariant
  cases step with
  | order act outside next =>
    obtain ⟨reads, later, effect⟩ := OrderService.Run.effect order next
    refine ⟨.commit order next, distinct, fun orderId => (sound orderId).progress (effect.progress later orderId) ?_⟩
    rintro envelope now stamp rfl
    exact outside.elim
  | @effect system row entry inventory orderId ids found drawn run =>
    have tables := runEffect_outcome distinct run
    refine ⟨order, runEffect_distinct drawn distinct run, fun other => ?_⟩
    obtain ⟨known, command⟩ := (sound orderId).command found
    have mine : row.payload.orderId = orderId := by
      rcases command with reserving | releasing
      · obtain ⟨items, payload⟩ := reserving.payload
        rw [payload]
        rfl
      · rw [releasing.payload]
        rfl
    show Sound other (system.order.view other) (system.commandOffset other)
      (Function.update system.owed orderId (some entry) other) (system.replies other)
      fun tenantId => inventory.Holds tenantId other
    by_cases same : other = orderId
    · subst same
      rw [Function.update_self]
      exact (sound other).handled punctual rfl found known mine tables
    · rw [Function.update_of_ne same]
      refine (sound other).fewer fun tenantId held => ?_
      exact (tables.holds held).resolve_right fun new => same (new.2.trans mine)
  | @reply system row entry orderId stamp found owed =>
    have kept : (system.inventory.appendOnce row.envelope entry stamp).inventory = system.inventory.inventory :=
      Db.appendOnce_inventory ..
    refine ⟨order, kept ▸ distinct, fun other => ?_⟩
    show Sound other (system.order.view other) (Function.update system.commandOffset orderId _ other)
      (Function.update system.owed orderId none other)
      (sentOn (rowsOf (system.inventory.appendOnce row.envelope entry stamp).outbox other) .inventoryReplies)
      fun tenantId => (system.inventory.appendOnce row.envelope entry stamp).inventory.Holds tenantId other
    rw [kept]
    by_cases same : other = orderId
    · subst same
      rw [Function.update_self, Function.update_self]
      have before := sound other
      rw [owed] at before
      refine before.reply ?_ ?_
      · intro row member
        obtain ⟨old, address⟩ := mem_told.mp member
        exact mem_told.mpr ⟨subset_appendOnce _ _ _ _ old, address⟩
      · intro row member
        obtain ⟨stored, address⟩ := mem_told.mp member
        rcases mem_appendOnce stored with old | rfl
        · exact Or.inl (mem_told.mpr ⟨old, address⟩)
        · exact Or.inr ⟨rfl, rfl⟩
    · have address := ((sound orderId).owes entry owed).1
      rw [Function.update_of_ne same, Function.update_of_ne same, replies_appendOnce (address.symm ▸ Ne.symm same)]
      exact sound other
  | @deliver system row db orderId now stamp found next =>
    obtain ⟨reads, later, effect⟩ := OrderService.Run.effect order next
    refine ⟨.commit order next, distinct, fun other => (sound other).progress (effect.progress later other) ?_⟩
    intro envelope now stamp same refusal
    have member := List.mem_of_getElem? found
    have addressed := (sound orderId).addressed row member
    cases same
    exact ⟨row, addressed ▸ member, refusal⟩
  | @rewindCommands system orderId offset back =>
    refine ⟨order, distinct, fun other => ?_⟩
    show Sound other (system.order.view other) (Function.update system.commandOffset orderId offset other)
      (Function.update system.owed orderId none other) _ _
    by_cases same : other = orderId
    · subst same
      rw [Function.update_self, Function.update_self]
      exact (sound other).rewind back
    · rw [Function.update_of_ne same, Function.update_of_ne same]
      exact sound other
  | rewindReplies => exact ⟨order, distinct, sound⟩
  | replenish => exact ⟨order, distinct, sound⟩

variable {log : List (Commit System Event)} {system : System}

/-- No stock is leaked in a run in which no ReserveStock takes stock for an
order after its refusal. -/
theorem Run.never_leaks (run : Run log system) (punctual : ∀ c ∈ log, ¬ c.act.TakesRefused c.before) :
    ∀ state, Seen log system state → state.NoLeak := by
  intro state seen orderId cancelled delivered tenantId
  have invariant := run.invariant_of (I := Invariant) (fun _ => Invariant.initial)
    (fun _ _ _ _ step now before => before.step step now) punctual state seen
  exact (invariant.sound orderId).no_leak cancelled delivered.commands tenantId

section sample

/-- One of the dish that is ordered twice. -/
def startSystem : System where
  order := OrderService.Db.empty
  orderLog := []
  inventory := {
    inventory := {
      stock := Table.empty.put { key := { tenantId := "tenant", itemId := "dish" }, available := 1 }
      reservations := [] }
    outbox := []
    processedEvents := [] }
  commandOffset _ := 0
  replyOffset _ := 0
  owed _ := none

theorem startSystem_initial : startSystem.Initial :=
  ⟨rfl, rfl, ⟨rfl, rfl, rfl⟩, fun _ => rfl, fun _ => rfl⟩

def stampSample (id : Uuid) : Stamp where
  id := id
  correlationId := "correlation"

theorem sampleDrawn {inventory : Inventory} (none : inventory.reservations = []) : Drawn inventory sampleIds := by
  refine ⟨sampleIds_injective, ?_⟩
  rw [none]
  exact fun row absent => absurd absent List.not_mem_nil

/-- An order is placed, and its stock refused. -/
theorem refusedRun : ∃ log system, Run log system ∧ system.order.sagaState "order" = some .cancelled ∧
    system.Delivered "order" ∧ ∀ c ∈ log, ¬ c.act.TakesRefused c.before := by
  have start : Run [] startSystem := .start startSystem_initial
  have placed := start.commit (.order OrderService.placeSample trivial ⟨⟨_, _⟩, .current, .current, rfl⟩)
  have tried := placed.commit (.effect "order" sampleIds rfl (sampleDrawn rfl) rfl)
  have refused := tried.commit (.reply "order" (stampSample "refusal") rfl rfl)
  have told := refused.commit (.deliver "order" 1 (stampSample "cancelled") rfl ⟨⟨_, _⟩, .current, .current, rfl⟩)
  refine ⟨_, _, told, rfl, ⟨le_rfl, le_rfl⟩, ?_⟩
  refine List.forall_mem_cons.mpr ⟨not_false, List.forall_mem_cons.mpr ⟨not_false, List.forall_mem_cons.mpr ⟨?_, ?_⟩⟩⟩
  · rintro ⟨⟨row, absent, -⟩, -⟩
    exact List.not_mem_nil (show row ∈ [] from absent)
  · exact List.forall_mem_cons.mpr ⟨not_false, List.forall_mem_nil _⟩

end sample

theorem never_leaks_of_refused_sample : ∃ log system, Run log system ∧ system.order.sagaState "order" = some .cancelled ∧
    system.Delivered "order" ∧ ∀ state, Seen log system state → state.NoLeak := by
  obtain ⟨log, system, run, cancelled, delivered, punctual⟩ := refusedRun
  exact ⟨log, system, run, cancelled, delivered, run.never_leaks punctual⟩

/-- The reaper repeats a reserve whose refusal is under way, stock comes in,
and the repeated reserve takes it for an order that is then cancelled. -/
theorem stock_leaked_by_redrive : ∃ log system, Run log system ∧ ¬ system.NoLeak := by
  have start : Run [] startSystem := .start startSystem_initial
  have placed := start.commit (.order OrderService.placeSample trivial ⟨⟨_, _⟩, .current, .current, rfl⟩)
  have tried := placed.commit (.effect "order" sampleIds rfl (sampleDrawn rfl) rfl)
  have refused := tried.commit (.reply "order" (stampSample "refusal") rfl rfl)
  have redriven := refused.commit (.order (.recoverOne
    { orderId := "order", tenantId := "tenant", state := .started, updatedAt := 0 } 10 "uuid" 1 (stampSample "again"))
    trivial ⟨⟨_, _⟩, .current, .current, rfl⟩)
  have replenished := redriven.commit (.replenish { tenantId := "tenant", itemId := "dish" } 5 rfl (by decide))
  have taken := replenished.commit (.effect "order" sampleIds rfl (sampleDrawn rfl) rfl)
  have reserved := taken.commit (.reply "order" (stampSample "reserved") rfl rfl)
  have cancelled := reserved.commit (.deliver "order" 2 (stampSample "cancelled") rfl ⟨⟨_, _⟩, .current, .current, rfl⟩)
  have ignored := cancelled.commit (.deliver "order" 3 (stampSample "ignored") rfl ⟨⟨_, _⟩, .current, .current, rfl⟩)
  refine ⟨_, _, ignored, ?_⟩
  intro noLeak
  refine noLeak "order" rfl ⟨le_rfl, le_rfl⟩ "tenant" ?_
  exact ⟨_, List.mem_cons_self .., rfl⟩

end FoodDelivery.StockSaga
