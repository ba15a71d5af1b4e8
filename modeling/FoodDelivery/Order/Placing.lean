import Mathlib.Data.List.Nodup
import Mathlib.Logic.Relation
import FoodDelivery.Order.Transactions

namespace FoodDelivery.OrderService.Placing

open Messaging

/-- Where a call of `PlaceOrderHandler.execute` stands: before its lookup,
between the lookup and the transaction, after a lost claim, with an order id
still to load, and its two ends. -/
inductive Phase
  | called
  | building
  | ready (pendingOrder : Order) (correlationId : Uuid)
  | conflicted
  | loading (orderId : Uuid)
  | returned (order : Order)
  | threw (error : OrderError)

def Phase.Running : Phase → Prop
  | .returned _ => False
  | .threw _ => False
  | _ => True

structure Call where
  command : PlaceOrderCommand
  phase : Phase

/-- A transaction that has committed, kept for the statements only. -/
structure Placed where
  call : Nat
  claim : IdempotencyKey
  orderId : Uuid
  correlationId : Uuid

structure State where
  db : Db
  calls : Nat → Option Call
  placed : List Placed

def State.start : State where
  db := Db.empty
  calls _ := none
  placed := []

def State.set (s : State) (i : Nat) (call : Call) : State :=
  { s with calls := Function.update s.calls i (some call) }

def conflict (command : PlaceOrderCommand) : OrderError :=
  .idempotencyConflict ("order for key \"" ++ command.idempotencyKey ++ "\" is being created — retry shortly")

/-- The steps of any number of concurrent calls. -/
inductive Step : State → State → Prop
  | call {s} (i : Nat) (command : PlaceOrderCommand) : s.calls i = none → Step s (s.set i ⟨command, .called⟩)
  | invalid {s command error} (i : Nat) : s.calls i = some ⟨command, .called⟩ → assertValidCommand command = .error error →
      Step s (s.set i ⟨command, .threw error⟩)
  | unclaimed {s command} (i : Nat) : s.calls i = some ⟨command, .called⟩ → assertValidCommand command = .ok () →
      s.db.findOrderId command.claim = none → Step s (s.set i ⟨command, .building⟩)
  | claimed {s command orderId} (i : Nat) : s.calls i = some ⟨command, .called⟩ → assertValidCommand command = .ok () →
      s.db.findOrderId command.claim = some orderId → Step s (s.set i ⟨command, .loading orderId⟩)
  | built {s command order} (i : Nat) (menuItems : List MenuItem) (pricing : OrderPricingInput)
      (orderId correlationId : Uuid) :
      s.calls i = some ⟨command, .building⟩ → command.pendingOrder menuItems pricing orderId = .ok order →
      Step s (s.set i ⟨command, .ready order correlationId⟩)
  | unbuilt {s command menuItems pricing orderId error} (i : Nat) :
      s.calls i = some ⟨command, .building⟩ → command.pendingOrder menuItems pricing orderId = .error error →
      Step s (s.set i ⟨command, .threw error⟩)
  | committed {s command order correlationId db} (i now : Nat) (stamp : Stamp) :
      s.calls i = some ⟨command, .ready order correlationId⟩ →
      command.claimAndInsert order correlationId now stamp s.db = .ok db →
      Step s {
        db
        calls := Function.update s.calls i (some ⟨command, .returned order⟩)
        placed := { call := i, claim := command.claim, orderId := order.id, correlationId } :: s.placed }
  | refused {s command order correlationId} (i now : Nat) (stamp : Stamp) :
      s.calls i = some ⟨command, .ready order correlationId⟩ →
      command.claimAndInsert order correlationId now stamp s.db = .error .uniqueViolation →
      Step s (s.set i ⟨command, .conflicted⟩)
  | resolved {s command orderId} (i : Nat) : s.calls i = some ⟨command, .conflicted⟩ →
      s.db.findOrderId command.claim = some orderId → Step s (s.set i ⟨command, .loading orderId⟩)
  | unresolved {s command} (i : Nat) : s.calls i = some ⟨command, .conflicted⟩ →
      s.db.findOrderId command.claim = none → Step s (s.set i ⟨command, .threw (conflict command)⟩)
  | loaded {s command orderId order} (i : Nat) : s.calls i = some ⟨command, .loading orderId⟩ →
      s.db.findById command.tenantId orderId = some order → Step s (s.set i ⟨command, .returned order⟩)
  | unloaded {s command orderId} (i : Nat) : s.calls i = some ⟨command, .loading orderId⟩ →
      s.db.findById command.tenantId orderId = none → Step s (s.set i ⟨command, .threw (conflict command)⟩)
  /-- A gateway or the database fails; a transaction that was open is rolled back. -/
  | failed {s command phase} (i : Nat) (error : OrderError) : s.calls i = some ⟨command, phase⟩ → phase.Running →
      Step s (s.set i ⟨command, .threw error⟩)

abbrev Reachable (s : State) : Prop := Relation.ReflTransGen Step State.start s

/-- What the database holds of a committed call: its order, its saga and one
entry for the order, the ReserveStock command with the saga's correlation id. -/
structure Stored (db : Db) (p : Placed) : Prop where
  key : db.idempotencyKeys.find p.claim = some { claim := p.claim, orderId := p.orderId }
  order : ∃ order, db.orders.find p.orderId = some order ∧ order.tenantId = p.claim.tenantId ∧
    order.userId = p.claim.userId
  saga : ∃ saga, db.sagas.find p.orderId = some saga ∧ saga.tenantId = p.claim.tenantId ∧
    saga.correlationId = some p.correlationId
  command : ∃ row, db.outbox.filter (·.aggregateId = p.orderId) = [row] ∧ row.eventType = .reserveStock ∧
    row.tenantId = p.claim.tenantId ∧ row.correlationId = p.correlationId

/-- Nothing is in the database that no call committed. -/
structure Accounted (db : Db) (placed : List Placed) : Prop where
  keys : ∀ claim row, db.idempotencyKeys.find claim = some row →
    ∃ p ∈ placed, p.claim = claim ∧ p.orderId = row.orderId
  orders : ∀ id order, db.orders.find id = some order → ∃ p ∈ placed, p.orderId = id
  sagas : ∀ id saga, db.sagas.find id = some saga → ∃ p ∈ placed, p.orderId = id
  outbox : ∀ row ∈ db.outbox, ∃ p ∈ placed, p.orderId = row.aggregateId

/-- What a call knows about its claim. -/
def Phase.Knows (db : Db) (placed : List Placed) (command : PlaceOrderCommand) : Phase → Prop
  | .ready order _ => order.tenantId = command.tenantId ∧ order.userId = command.userId
  | .loading orderId => ∃ p ∈ placed, p.claim = command.claim ∧ p.orderId = orderId
  | .returned order => ∃ p ∈ placed, p.claim = command.claim ∧ p.orderId = order.id ∧
      db.orders.find order.id = some order
  | _ => True

structure Inv (s : State) : Prop where
  unique : (s.placed.map (·.claim)).Nodup
  stored : ∀ p ∈ s.placed, Stored s.db p
  accounted : Accounted s.db s.placed
  knows : ∀ i call, s.calls i = some call → call.phase.Knows s.db s.placed call.command
  own : ∀ p ∈ s.placed, ∃ command order, s.calls p.call = some ⟨command, .returned order⟩ ∧ order.id = p.orderId

theorem Inv.start : Inv State.start := by
  refine ⟨List.nodup_nil, ?_, ⟨?_, ?_, ?_, ?_⟩, ?_, ?_⟩
  · intro p absent
    cases absent
  · intro claim row absent
    cases absent
  · intro id order absent
    cases absent
  · intro id saga absent
    cases absent
  · intro row absent
    cases absent
  · intro i call absent
    cases absent
  · intro p absent
    cases absent

theorem cases_update {calls : Nat → Option Call} {i j : Nat} {call other : Call}
    (atJ : Function.update calls i (some call) j = some other) :
    j = i ∧ other = call ∨ j ≠ i ∧ calls j = some other := by
  by_cases same : j = i
  · subst same
    rw [Function.update_self] at atJ
    exact Or.inl ⟨rfl, (Option.some.inj atJ).symm⟩
  · rw [Function.update_of_ne same] at atJ
    exact Or.inr ⟨same, atJ⟩

/-- A call that moves on without committing only has to know what its next
phase needs, and must not have returned before. -/
theorem Inv.set {s : State} {i : Nat} {call : Call} (inv : Inv s)
    (running : ∀ before, s.calls i = some before → before.phase.Running)
    (knows : call.phase.Knows s.db s.placed call.command) : Inv (s.set i call) := by
  refine ⟨inv.unique, inv.stored, inv.accounted, ?_, ?_⟩
  · intro j other atJ
    rcases cases_update atJ with ⟨-, rfl⟩ | ⟨-, old⟩
    · exact knows
    · exact inv.knows j other old
  · intro p member
    obtain ⟨command, order, atCall, sameId⟩ := inv.own p member
    have different : p.call ≠ i := by
      rintro same
      exact running _ (same ▸ atCall)
    exact ⟨command, order, (Function.update_of_ne different ..).trans atCall, sameId⟩

theorem Phase.Knows.grow {db db' : Db} {placed : List Placed} {p : Placed} {command : PlaceOrderCommand} {phase : Phase}
    (knows : phase.Knows db placed command)
    (orders : ∀ id order, db.orders.find id = some order → db'.orders.find id = some order) :
    phase.Knows db' (p :: placed) command := by
  cases phase with
  | ready => exact knows
  | loading orderId =>
    obtain ⟨q, member, same⟩ := knows
    exact ⟨q, List.mem_cons_of_mem _ member, same⟩
  | returned order =>
    obtain ⟨q, member, sameClaim, sameId, stands⟩ := knows
    exact ⟨q, List.mem_cons_of_mem _ member, sameClaim, sameId, orders _ _ stands⟩
  | _ => trivial

/-- A commit leaves what other calls committed as it was. -/
theorem Stored.grow {db db' : Db} {command : PlaceOrderCommand} {order : Order} {correlationId : Uuid} {now : Nat}
    {stamp : Stamp} {p : Placed} (stored : Stored db p)
    (run : command.claimAndInsert order correlationId now stamp db = .ok db') : Stored db' p := by
  obtain ⟨unclaimed, newOrder, newSaga, rfl⟩ := PlaceOrderCommand.claimAndInsert_ok run
  obtain ⟨key, ⟨order', orderStands, orderOwner⟩, ⟨saga, sagaStands, sagaOwner⟩, ⟨row, only, command'⟩⟩ := stored
  have otherId : p.orderId ≠ order.id := by
    intro same
    rw [same, newOrder] at orderStands
    cases orderStands
  refine ⟨?_, ⟨order', ?_, orderOwner⟩, ⟨saga, ?_, sagaOwner⟩, row, ?_, command'⟩
  · exact Table.find_put_of_absent unclaimed key
  · exact Table.find_put_of_absent newOrder orderStands
  · exact Table.find_put_of_absent newSaga sagaStands
  rw [List.filter_append, only, List.filter_cons_of_neg, List.filter_nil, List.append_nil]
  exact fun same => otherId (of_decide_eq_true same).symm

/-- What a commit itself stores. -/
theorem Stored.commit {db db' : Db} {placed : List Placed} {command : PlaceOrderCommand} {order : Order}
    {correlationId : Uuid} {now : Nat} {stamp : Stamp} {i : Nat} (accounted : Accounted db placed)
    (stored : ∀ p ∈ placed, Stored db p)
    (owner : order.tenantId = command.tenantId ∧ order.userId = command.userId)
    (run : command.claimAndInsert order correlationId now stamp db = .ok db') :
    Stored db' { call := i, claim := command.claim, orderId := order.id, correlationId } := by
  obtain ⟨unclaimed, newOrder, newSaga, rfl⟩ := PlaceOrderCommand.claimAndInsert_ok run
  have noRows : ∀ row ∈ db.outbox, ¬ row.aggregateId = order.id := by
    intro row member same
    obtain ⟨p, placed, sameId⟩ := accounted.outbox row member
    obtain ⟨order', stands, -⟩ := (stored p placed).order
    rw [sameId, same, newOrder] at stands
    cases stands
  refine ⟨Table.find_put_self .., ⟨order, Table.find_put_self .., owner⟩,
    ⟨OrderSaga.start order.id command.tenantId correlationId now, Table.find_put_self .., rfl, rfl⟩,
    (reserveStockCommand order.id order.itemQtys correlationId).toRow command.tenantId stamp, ?_, rfl, rfl, rfl⟩
  rw [List.filter_append, List.filter_eq_nil_iff.mpr (by simpa using noRows), List.nil_append]
  exact List.filter_cons_of_pos (decide_eq_true rfl)

theorem Accounted.commit {db db' : Db} {placed : List Placed} {command : PlaceOrderCommand} {order : Order}
    {correlationId : Uuid} {now : Nat} {stamp : Stamp} {p : Placed} (accounted : Accounted db placed)
    (sameClaim : p.claim = command.claim) (sameId : p.orderId = order.id)
    (run : command.claimAndInsert order correlationId now stamp db = .ok db') : Accounted db' (p :: placed) := by
  obtain ⟨-, -, -, rfl⟩ := PlaceOrderCommand.claimAndInsert_ok run
  have newest {id : Uuid} (same : id = order.id) : ∃ q ∈ p :: placed, q.orderId = id :=
    ⟨p, List.mem_cons_self .., sameId.trans same.symm⟩
  have older {id : Uuid} (old : ∃ q ∈ placed, q.orderId = id) : ∃ q ∈ p :: placed, q.orderId = id := by
    obtain ⟨q, member, same⟩ := old
    exact ⟨q, List.mem_cons_of_mem _ member, same⟩
  refine ⟨?_, ?_, ?_, ?_⟩
  · intro claim row atClaim
    rcases Table.cases_put atClaim with ⟨same, rfl⟩ | ⟨-, old⟩
    · exact ⟨p, List.mem_cons_self .., sameClaim.trans same.symm, sameId⟩
    · obtain ⟨q, member, same⟩ := accounted.keys claim row old
      exact ⟨q, List.mem_cons_of_mem _ member, same⟩
  · intro id order' atId
    rcases Table.cases_put atId with ⟨same, -⟩ | ⟨-, old⟩
    · exact newest same
    · exact older (accounted.orders id order' old)
  · intro id saga atId
    rcases Table.cases_put atId with ⟨same, -⟩ | ⟨-, old⟩
    · exact newest same
    · exact older (accounted.sagas id saga old)
  · intro row member
    rcases List.mem_append.mp member with old | new
    · exact older (accounted.outbox row old)
    · rw [List.mem_singleton.mp new]
      exact newest rfl

/-- A claim is committed only once: the key is in the table from then on. -/
theorem Inv.commit {s : State} {i : Nat} {command : PlaceOrderCommand} {order : Order} {correlationId : Uuid}
    {now : Nat} {stamp : Stamp} {db : Db} (inv : Inv s)
    (ready : s.calls i = some ⟨command, .ready order correlationId⟩)
    (run : command.claimAndInsert order correlationId now stamp s.db = .ok db) :
    Inv {
      db
      calls := Function.update s.calls i (some ⟨command, .returned order⟩)
      placed := { call := i, claim := command.claim, orderId := order.id, correlationId } :: s.placed } := by
  have owner := inv.knows i _ ready
  have stored := Stored.commit (i := i) inv.accounted inv.stored owner run
  have accounted : Accounted db ({ call := i, claim := command.claim, orderId := order.id, correlationId } :: s.placed) :=
    inv.accounted.commit rfl rfl run
  obtain ⟨unclaimed, newOrder, -, same⟩ := PlaceOrderCommand.claimAndInsert_ok run
  have orders : ∀ id order', s.db.orders.find id = some order' → db.orders.find id = some order' := by
    intro id order' stands
    rw [same]
    exact Table.find_put_of_absent newOrder stands
  refine ⟨List.nodup_cons.mpr ⟨?_, inv.unique⟩, ?_, accounted, ?_, ?_⟩
  · intro member
    obtain ⟨p, placed, sameClaim⟩ := List.mem_map.mp member
    have key := (inv.stored p placed).key
    rw [sameClaim, unclaimed] at key
    cases key
  · intro p member
    rcases List.mem_cons.mp member with rfl | old
    · exact stored
    · exact (inv.stored p old).grow run
  · intro j other atJ
    rcases cases_update atJ with ⟨-, rfl⟩ | ⟨-, old⟩
    · refine ⟨_, List.mem_cons_self .., rfl, rfl, ?_⟩
      rw [same]
      exact Table.find_put_self ..
    · exact (inv.knows j other old).grow orders
  · intro p member
    rcases List.mem_cons.mp member with rfl | old
    · exact ⟨command, order, Function.update_self .., rfl⟩
    · obtain ⟨command', order', atCall, sameId⟩ := inv.own p old
      have different : p.call ≠ i := by
        rintro sameCall
        rw [sameCall, ready] at atCall
        cases atCall
      exact ⟨command', order', (Function.update_of_ne different ..).trans atCall, sameId⟩

/-- A key found in the table is one that a call committed. -/
theorem Inv.found {s : State} {claim : IdempotencyKey} {orderId : Uuid} (inv : Inv s)
    (found : s.db.findOrderId claim = some orderId) : ∃ p ∈ s.placed, p.claim = claim ∧ p.orderId = orderId := by
  obtain ⟨row, atClaim, rfl⟩ := Option.map_eq_some_iff.mp found
  exact inv.accounted.keys claim row atClaim

theorem Step.inv {s s' : State} (step : Step s s') (inv : Inv s) : Inv s' := by
  have running {i : Nat} {call : Call} (atI : s.calls i = some call) (open_ : call.phase.Running) :
      ∀ before, s.calls i = some before → before.phase.Running := by
    intro before atBefore
    cases Option.some.inj (atI.symm.trans atBefore)
    exact open_
  cases step with
  | call i command absent => exact inv.set (fun before atBefore => by cases absent.symm.trans atBefore) trivial
  | invalid i called => exact inv.set (running called trivial) trivial
  | unclaimed i called => exact inv.set (running called trivial) trivial
  | claimed i called _ found => exact inv.set (running called trivial) (inv.found found)
  | built i _ _ _ _ building pending =>
    obtain ⟨-, tenantId, userId, -⟩ := PlaceOrderCommand.pendingOrder_ok pending
    exact inv.set (running building trivial) ⟨tenantId, userId⟩
  | unbuilt i building => exact inv.set (running building trivial) trivial
  | committed i _ _ ready run => exact inv.commit ready run
  | refused i _ _ ready => exact inv.set (running ready trivial) trivial
  | resolved i conflicted found => exact inv.set (running conflicted trivial) (inv.found found)
  | unresolved i conflicted => exact inv.set (running conflicted trivial) trivial
  | @loaded command orderId order i loading found =>
    obtain ⟨p, member, sameClaim, sameId⟩ := inv.knows i _ loading
    obtain ⟨stands, -⟩ := Db.findById_some.mp found
    have atId : order.id = orderId := s.db.orders.keyed orderId order stands
    exact inv.set (running loading trivial) ⟨p, member, sameClaim, sameId.trans atId.symm, atId ▸ stands⟩
  | unloaded i loading => exact inv.set (running loading trivial) trivial
  | failed i _ atI open_ => exact inv.set (running atI open_) trivial

theorem Reachable.inv {s : State} (reach : Reachable s) : Inv s := by
  induction reach with
  | refl => exact Inv.start
  | tail _ step ih => exact step.inv ih

/-- What placing an order under a key amounts to, however many calls use it:
one commit at most, complete and with nothing beside it, whose order id is
what every call returns; and a call that threw has committed nothing. -/
structure Idempotent (s : State) (claim : IdempotencyKey) : Prop where
  once : (s.placed.filter (·.claim = claim)).length ≤ 1
  stored : ∀ p ∈ s.placed, p.claim = claim → Stored s.db p
  accounted : Accounted s.db s.placed
  returned : ∀ i command order, s.calls i = some ⟨command, .returned order⟩ → command.claim = claim →
    ∃ p ∈ s.placed, p.claim = claim ∧ p.orderId = order.id
  threw : ∀ i command error, s.calls i = some ⟨command, .threw error⟩ → ∀ p ∈ s.placed, p.call ≠ i

theorem Reachable.idempotent {s : State} (reach : Reachable s) (claim : IdempotencyKey) : Idempotent s claim := by
  obtain ⟨unique, stored, accounted, knows, own⟩ := reach.inv
  refine ⟨?_, fun p member _ => stored p member, accounted, ?_, ?_⟩
  · have counted : (s.placed.filter (·.claim = claim)).length = (s.placed.map (·.claim)).count claim := by
      rw [List.count, List.countP_map, List.countP_eq_length_filter]
      rfl
    rw [counted]
    exact List.nodup_iff_count_le_one.mp unique claim
  · intro i command order atI sameClaim
    obtain ⟨p, member, same, sameId, -⟩ := knows i _ atI
    exact ⟨p, member, same.trans sameClaim, sameId⟩
  · rintro i command error atI p member rfl
    obtain ⟨command', order, atCall, -⟩ := own p member
    rw [atI] at atCall
    cases atCall

/-- Two calls race for one key; the loser returns the winner's order. -/
theorem idempotent_race : ∃ s order, Reachable s ∧ s.calls 1 = some ⟨Placement.sample.command, .returned order⟩ ∧
    order.id = "order" ∧ Idempotent s Placement.sample.command.claim := by
  have called : Reachable _ := (Relation.ReflTransGen.refl.tail (.call 0 Placement.sample.command rfl)).tail
    (.call 1 Placement.sample.command rfl)
  have looked : Reachable _ := (called.tail (.unclaimed 0 rfl rfl rfl)).tail (.unclaimed 1 rfl rfl rfl)
  have built : Reachable _ := (looked.tail (.built 0 Placement.sample.menuItems Placement.sample.pricing "order" "c" rfl rfl)).tail
    (.built 1 Placement.sample.menuItems Placement.sample.pricing "other" "d" rfl rfl)
  have raced : Reachable _ := (built.tail (.committed 0 0 ⟨"row", "c"⟩ rfl rfl)).tail (.refused 1 0 ⟨"row", "d"⟩ rfl rfl)
  have resolved : Reachable _ := (raced.tail (.resolved 1 rfl rfl)).tail (.loaded 1 rfl rfl)
  exact ⟨_, _, resolved, rfl, rfl, resolved.idempotent _⟩

end FoodDelivery.OrderService.Placing
