import FoodDelivery.Locking.WithLocks
import FoodDelivery.Order.Confirmed
import FoodDelivery.Review.SubmitReview
import FoodDelivery.Tenancy.Identity

namespace FoodDelivery.ReviewService.Eligibility

open Messaging CommitLog
open Locking.WithLocks (codeUnits)

inductive ReviewError
  | rejected (error : SubmitReviewError)
  | invalidComment (length : Nat)
  | duplicate (orderId : Uuid)
  deriving DecidableEq

def maxCommentLength : Nat := 1000

/-- `normalizeComment`; a text is as long as it has code units. -/
def normalizeComment : Option String → Except ReviewError (Option String)
  | none => pure none
  | some comment =>
    let trimmed := Tenancy.trim comment
    if (codeUnits trimmed).length = 0 then pure none
    else if maxCommentLength < (codeUnits trimmed).length then throw (.invalidComment (codeUnits trimmed).length)
    else pure (some trimmed)

/-- What a customer submits. -/
structure Submission where
  command : SubmitReviewCommand
  comment : Option String

/-- A row of reviews with its comment. -/
structure ReviewRow where
  review : Review
  comment : Option String
  deriving DecidableEq

/-- The part of `execute` before the transaction, after what `findEligible` returned. -/
def Submission.create (submission : Submission) (id : Uuid) (eligible : Option EligibleOrderRow) :
    Except ReviewError ReviewRow := do
  let review ← (submission.command.create id eligible).mapError .rejected
  let comment ← normalizeComment submission.comment
  return { review, comment }

/-- The tables of the review service that say who may review. -/
structure Db where
  eligible : Table EligibleOrderRow.orderId
  reviews : List ReviewRow
  processedEvents : List Uuid

namespace Db

def empty : Db where
  eligible := Table.empty
  reviews := []
  processedEvents := []

/-- `upsertEligible`, with the event marked processed in its transaction. -/
def record (db : Db) (eventId : Uuid) (row : EligibleOrderRow) : Db :=
  if eventId ∈ db.processedEvents then db
  else { db with
    eligible := db.eligible.put row
    processedEvents := eventId :: db.processedEvents }

def findEligible (db : Db) (tenantId orderId : Uuid) : Option EligibleOrderRow :=
  (db.eligible.find orderId).filter fun row => row.tenantId = tenantId

/-- The insert of a review; `order_id` is unique. -/
def save (db : Db) (row : ReviewRow) : Except ReviewError Db :=
  if ∃ other ∈ db.reviews, other.review.orderId = row.review.orderId then throw (.duplicate row.review.orderId)
  else pure { db with reviews := db.reviews ++ [row] }

end Db

/-- `parseEligibleOrder`, with the tenant of the envelope. -/
def parseEligibleOrder (tenantId : Uuid) : Payload → Option EligibleOrderRow
  | .lifecycle orderId userId _ _ (some restaurantId) =>
    if orderId = "" ∨ userId = "" ∨ restaurantId = "" then none else some { orderId, tenantId, userId, restaurantId }
  | _ => none

/-- `OrderEventsConsumer.handle`. -/
def Db.handle (db : Db) (envelope : EventEnvelopeHeaders) (payload : Payload) : Db :=
  if envelope.eventType ≠ .orderConfirmed then db
  else match parseEligibleOrder envelope.tenantId payload with
    | some row => db.record envelope.eventId row
    | none => db

/-- The order and the review service. -/
structure System where
  order : OrderService.Db
  orderLog : List (Commit OrderService.Db OrderService.Transaction)
  review : Db

structure System.Initial (system : System) : Prop where
  order : system.order = OrderService.Db.empty
  orderLog : system.orderLog = []
  review : system.review = Db.empty

inductive Event
  | order (act : OrderService.Transaction)
  | deliver (row : OutboxRow)
  | submit (submission : Submission)

/-- The steps of the two services. Any replies may reach the order service, and
a row of its outbox may be delivered at any time and any number of times. A
submission looks up the order at an earlier moment than it commits at. -/
inductive Step (seen : System → Prop) : Event → System → System → Prop
  | order {system db} (act : OrderService.Transaction) :
      OrderService.commits (Seen system.orderLog system.order) act system.order db →
      Step seen (.order act) system { system with order := db, orderLog := ⟨system.order, act, db⟩ :: system.orderLog }
  | deliver {system} (row : OutboxRow) : row ∈ system.order.outbox → row.topic = .orderEvents →
      Step seen (.deliver row) system { system with review := system.review.handle row.envelope row.payload }
  | submit {system read row db} (submission : Submission) (id : Uuid) : seen read →
      submission.create id (read.review.findEligible submission.command.tenantId submission.command.orderId) = .ok row →
      system.review.save row = .ok db →
      Step seen (.submit submission) system { system with review := db }

abbrev Run : List (Commit System Event) → System → Prop := History System.Initial Step

/-- The order of the row is confirmed, and is its customer's and restaurant's. -/
def Earned (db : OrderService.Db) (orderId tenantId userId restaurantId : Uuid) : Prop :=
  ∃ order, db.orders.find orderId = some order ∧ order.status = .confirmed ∧ order.tenantId = tenantId ∧
    order.userId = userId ∧ order.restaurantId = restaurantId

/-- What a review says is in range. -/
structure ReviewRow.Proper (row : ReviewRow) : Prop where
  rating : 1 ≤ row.review.rating ∧ row.review.rating ≤ 5
  comment : ∀ comment, row.comment = some comment → comment ≠ "" ∧ Tenancy.trim comment = comment ∧
    (codeUnits comment).length ≤ maxCommentLength

/-- Every review is of a confirmed order, by the customer of that order and for
its restaurant; and no order is reviewed twice. -/
structure System.Deserved (system : System) : Prop where
  earned : ∀ row ∈ system.review.reviews, Earned system.order row.review.orderId row.review.tenantId row.review.userId
    row.review.restaurantId
  proper : ∀ row ∈ system.review.reviews, row.Proper
  once : (system.review.reviews.map (·.review.orderId)).Nodup

theorem codeUnits_length {text : String} : (codeUnits text).length = 0 ↔ text = "" := by
  have nonempty (c : Char) : (if c.toNat < 0x10000 then [c.toNat]
      else [0xD800 + (c.toNat - 0x10000) / 0x400, 0xDC00 + (c.toNat - 0x10000) % 0x400]) ≠ [] := by
    split <;> exact List.cons_ne_nil _ _
  rw [List.length_eq_zero_iff, codeUnits, List.flatMap_eq_nil_iff]
  constructor
  · intro none
    refine String.toList_eq_nil_iff.mp (List.eq_nil_iff_forall_not_mem.mpr fun c member => ?_)
    exact nonempty c (none c member)
  · rintro rfl
    exact fun c absent => absurd absent List.not_mem_nil

theorem trim_trim (text : String) : Tenancy.trim (Tenancy.trim text) = Tenancy.trim text := by
  rw [Tenancy.trim, Tenancy.trim, String.toList_ofList, Delimited.trim_trim]

theorem normalizeComment_ok {comment : Option String} {stored : Option String}
    (run : normalizeComment comment = .ok stored) : ∀ text, stored = some text →
      text ≠ "" ∧ Tenancy.trim text = text ∧ (codeUnits text).length ≤ maxCommentLength := by
  rintro text rfl
  cases comment with
  | none => cases Except.pure_ok.mp run
  | some comment =>
    rw [normalizeComment] at run
    split at run
    · cases Except.pure_ok.mp run
    · rename_i nonempty
      obtain ⟨within, run⟩ := Except.reject_ok.mp run
      cases Except.pure_ok.mp run
      exact ⟨fun empty => nonempty (codeUnits_length.mpr empty), trim_trim comment, Nat.le_of_not_lt within⟩

theorem rating_ok {value : Rat} {rating : Nat} (run : Rating.create value = .ok rating) : 1 ≤ rating ∧ rating ≤ 5 := by
  obtain ⟨range, run⟩ := Except.reject_ok.mp run
  cases Except.pure_ok.mp run
  obtain ⟨integral, range⟩ := not_or.mp range
  obtain ⟨least, greatest⟩ := not_or.mp range
  have whole : value = value.num := by
    have one : value.den = 1 := by simpa [Rat.isInt] using integral
    exact (Rat.den_eq_one_iff value).mp one |>.symm
  rw [whole, minRating, not_lt] at least
  rw [whole, maxRating, not_lt] at greatest
  have low : (1 : Int) ≤ value.num := by exact_mod_cast least
  have high : value.num ≤ 5 := by exact_mod_cast greatest
  omega

/-- What is made of a submission, given the row that allows it. -/
theorem create_ok {submission : Submission} {id : Uuid} {eligible : Option EligibleOrderRow} {row : ReviewRow}
    (run : submission.create id eligible = .ok row) : row.Proper ∧ ∃ allowed, eligible = some allowed ∧
      row.review.orderId = submission.command.orderId ∧ row.review.tenantId = submission.command.tenantId ∧
      row.review.userId = allowed.userId ∧ row.review.restaurantId = allowed.restaurantId := by
  obtain ⟨review, created, run⟩ := Except.bind_ok.mp run
  obtain ⟨comment, normal, run⟩ := Except.bind_ok.mp run
  cases Except.pure_ok.mp run
  have made : submission.command.create id eligible = .ok review := by
    cases made : submission.command.create id eligible with
    | error error =>
      rw [made] at created
      cases created
    | ok other =>
      rw [made] at created
      cases created
      rfl
  obtain ⟨rating, rated, made⟩ := Except.bind_ok.mp made
  cases eligible with
  | none => cases made
  | some allowed =>
    obtain ⟨own, made⟩ := Except.reject_ok.mp made
    cases Except.pure_ok.mp made
    exact ⟨⟨rating_ok rated, normalizeComment_ok normal⟩, allowed, rfl, rfl, rfl, (not_not.mp own).symm, rfl⟩

/-- An order that is confirmed was so for good. -/
def Lasting (old new : OrderService.Db) : Prop := ∀ orderId order, old.orders.find orderId = some order →
  order.status = .confirmed → ∃ order', new.orders.find orderId = some order' ∧ order'.status = .confirmed ∧
    order'.terms = order.terms

theorem Lasting.refl (db : OrderService.Db) : Lasting db db := fun _ order found confirmed => ⟨order, found, confirmed, rfl⟩

theorem Lasting.trans {a b c : OrderService.Db} (first : Lasting a b) (last : Lasting b c) : Lasting a c := by
  intro orderId order found confirmed
  obtain ⟨middle, atMiddle, still, same⟩ := first orderId order found confirmed
  obtain ⟨final, atFinal, ends, equal⟩ := last orderId middle atMiddle still
  exact ⟨final, atFinal, ends, equal.trans same⟩

theorem Earned.lasting {old new : OrderService.Db} {orderId tenantId userId restaurantId : Uuid}
    (earned : Earned old orderId tenantId userId restaurantId) (lasting : Lasting old new) :
    Earned new orderId tenantId userId restaurantId := by
  obtain ⟨order, found, confirmed, rfl, rfl, rfl⟩ := earned
  obtain ⟨order', stands, still, same⟩ := lasting orderId order found confirmed
  exact ⟨order', stands, still, OrderService.Order.terms_tenantId same, OrderService.Order.terms_userId same,
    OrderService.Order.terms_restaurantId same⟩

/-- What is true of both services between the steps. -/
structure Invariant (system : System) : Prop where
  order : OrderService.Run system.orderLog system.order
  eligible : ∀ orderId row, system.review.eligible.find orderId = some row →
    Earned system.order row.orderId row.tenantId row.userId row.restaurantId
  deserved : system.Deserved

theorem Invariant.initial {system : System} (initial : system.Initial) : Invariant system := by
  obtain ⟨order, orderLog, review⟩ := system
  obtain ⟨rfl, rfl, rfl⟩ := initial
  refine ⟨.start rfl, ?_, ?_, ?_, List.nodup_nil⟩
  · intro orderId row absent
    cases absent
  · exact fun row absent => absurd absent List.not_mem_nil
  · exact fun row absent => absurd absent List.not_mem_nil

/-- A row that parses is of the order that the event announces. -/
theorem parseEligibleOrder_earned {db : OrderService.Db} {row : OutboxRow} {allowed : EligibleOrderRow}
    (announces : db.Announces) (member : row ∈ db.outbox) (type : row.eventType = .orderConfirmed)
    (parsed : parseEligibleOrder row.tenantId row.payload = some allowed) :
    Earned db allowed.orderId allowed.tenantId allowed.userId allowed.restaurantId := by
  obtain ⟨order, found, announced⟩ := announces row member (by rw [type]; decide)
  have payload := announced.payload
  rw [type, OrderService.Order.ending] at payload
  rw [payload] at found parsed
  by_cases empty : order.restaurantId = ""
  · rw [if_pos empty] at parsed
    cases parsed
  · rw [if_neg empty, parseEligibleOrder] at parsed
    split at parsed
    · cases parsed
    · cases parsed
      exact ⟨order, found, announced.confirmed type, announced.tenant.symm, rfl, rfl⟩

theorem Invariant.handle {system : System} (invariant : Invariant system) {row : OutboxRow}
    (member : row ∈ system.order.outbox) :
    Invariant { system with review := system.review.handle row.envelope row.payload } := by
  have typed : row.envelope.eventType = row.eventType := rfl
  unfold Db.handle
  split
  · exact invariant
  · rename_i confirmed
    split
    · rename_i allowed parsed
      have earned := parseEligibleOrder_earned invariant.order.announces member (typed ▸ not_not.mp confirmed) parsed
      unfold Db.record
      split
      · exact invariant
      · obtain ⟨reviewed, proper, once⟩ := invariant.deserved
        refine ⟨invariant.order, ?_, ⟨reviewed, proper, once⟩⟩
        intro orderId found atOrder
        rcases Table.cases_put atOrder with ⟨-, rfl⟩ | ⟨-, old⟩
        · exact earned
        · exact invariant.eligible orderId found old
    · exact invariant

theorem Invariant.submit {system : System} (invariant : Invariant system) {read : System} (before : Invariant read)
    (lasting : Lasting read.order system.order) {submission : Submission} {id : Uuid} {row : ReviewRow} {db : Db}
    (created : submission.create id (read.review.findEligible submission.command.tenantId submission.command.orderId) =
      .ok row) (saved : system.review.save row = .ok db) : Invariant { system with review := db } := by
  obtain ⟨proper, allowed, found, order, tenant, user, restaurant⟩ := create_ok created
  obtain ⟨stands, owner⟩ := Option.filter_eq_some_iff.mp found
  obtain ⟨new, saved⟩ := Except.reject_ok.mp saved
  cases Except.pure_ok.mp saved
  have atOrder : allowed.orderId = submission.command.orderId := read.review.eligible.keyed _ allowed stands
  have earned := (before.eligible _ allowed stands).lasting lasting
  have own : allowed.tenantId = submission.command.tenantId := of_decide_eq_true owner
  rw [atOrder, own, ← order, ← tenant, ← user, ← restaurant] at earned
  refine ⟨invariant.order, invariant.eligible, ?_, ?_, ?_⟩
  · intro other member
    rcases List.mem_append.mp member with old | last
    · exact invariant.deserved.earned other old
    · exact List.mem_singleton.mp last ▸ earned
  · intro other member
    rcases List.mem_append.mp member with old | last
    · exact invariant.deserved.proper other old
    · exact List.mem_singleton.mp last ▸ proper
  · show ((system.review.reviews ++ [row]).map _).Nodup
    rw [List.map_append]
    refine List.nodup_append.mpr ⟨invariant.deserved.once, List.nodup_singleton _, ?_⟩
    intro orderId known other single same
    obtain ⟨older, member, rfl⟩ := List.mem_map.mp known
    exact new ⟨older, member, same.trans (List.mem_singleton.mp single)⟩

theorem Invariant.order_commits {system : System} (invariant : Invariant system) {act : OrderService.Transaction}
    {db : OrderService.Db} (next : OrderService.commits (Seen system.orderLog system.order) act system.order db) :
    Invariant { system with order := db, orderLog := ⟨system.order, act, db⟩ :: system.orderLog } ∧
      Lasting system.order db := by
  obtain ⟨reads, later, effect⟩ := OrderService.Run.effect invariant.order next
  have lasting : Lasting system.order db := by
    intro orderId order found confirmed
    obtain ⟨order', stands, same, terms⟩ := effect.ended_order later found (by rw [confirmed]; rfl)
    exact ⟨order', stands, same.trans confirmed, terms⟩
  refine ⟨⟨.commit invariant.order next, ?_, ?_, invariant.deserved.proper, invariant.deserved.once⟩, lasting⟩
  · exact fun orderId row found => (invariant.eligible orderId row found).lasting lasting
  · exact fun row member => (invariant.deserved.earned row member).lasting lasting

theorem Step.invariant {seen : System → Prop} {event : Event} {system system' : System} (step : Step seen event system system')
    (behind : ∀ read, seen read → Invariant read ∧ Lasting read.order system.order) (invariant : Invariant system) :
    Invariant system' ∧ Lasting system.order system'.order := by
  cases step with
  | order act next => exact invariant.order_commits next
  | deliver row member => exact ⟨invariant.handle member, .refl _⟩
  | submit submission id read created saved =>
    obtain ⟨before, lasting⟩ := behind _ read
    exact ⟨invariant.submit before lasting created saved, .refl _⟩

/-- In every run, whatever is delivered or submitted again, reviews are of
confirmed orders, by their customers, one each. -/
theorem Run.reviews_deserved {log : List (Commit System Event)} {system : System} (run : Run log system) :
    ∀ state, Seen log system state → state.Deserved := by
  intro state seen
  have all : ∀ c ∈ log, (fun _ => True) c := fun _ _ => trivial
  refine (run.invariant_le (I := Invariant) (R := fun old new => Lasting old.order new.order) (fun _ => Invariant.initial)
    (fun _ => .refl _) (fun _ _ _ => Lasting.trans) ?_ all state seen).1.deserved
  exact fun _ _ _ _ behind step _ before => step.invariant behind before

section sample

/-- The row that announces the order, once it is confirmed. -/
def confirmedRow : OutboxRow := (OrderService.orderConfirmedEvent "order" "user" "restaurant" 2600 "correlation").toRow "tenant"
  { id := "after-paid", correlationId := "correlation" }

def submissionSample : Submission where
  command := { tenantId := "tenant", userId := "user", orderId := "order", rating := 5 }
  comment := some " Good. "

/-- An order is placed, supplied and paid, and its customer reviews it. -/
theorem reviewedRun : ∃ log system, Run log system ∧ system.review.reviews.length = 1 := by
  have start : Run [] ⟨OrderService.Db.empty, [], Db.empty⟩ := .start ⟨rfl, rfl, rfl⟩
  have placed := start.commit (.order OrderService.placeSample ⟨⟨_, _⟩, .current, .current, rfl⟩)
  have reserved := placed.commit (.order (OrderService.replySample .inventory "stock" .stockReserved)
    ⟨⟨_, _⟩, .current, .current, rfl⟩)
  have confirmed := reserved.commit (.order (OrderService.replySample .payment "paid" .paymentSucceeded)
    ⟨⟨_, _⟩, .current, .current, rfl⟩)
  have told := confirmed.commit (.deliver confirmedRow (.tail _ (.tail _ (.head _))) rfl)
  have reviewed := told.commit (.submit submissionSample "review" .current rfl rfl)
  exact ⟨_, _, reviewed, rfl⟩

end sample

theorem reviews_deserved_of_sample : ∃ log system, Run log system ∧ system.review.reviews.length = 1 ∧
    ∀ state, Seen log system state → state.Deserved := by
  obtain ⟨log, system, run, one⟩ := reviewedRun
  exact ⟨log, system, run, one, run.reviews_deserved⟩

end FoodDelivery.ReviewService.Eligibility
