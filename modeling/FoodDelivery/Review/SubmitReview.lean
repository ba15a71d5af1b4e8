import Mathlib.Algebra.Ring.Nat
import FoodDelivery.Lib.Except
import FoodDelivery.Lib.History
import FoodDelivery.Lib.KeyedLog
import FoodDelivery.Lib.Numeric
import FoodDelivery.Catalog.ReadModel

namespace FoodDelivery.ReviewService

open Binary64 KeyedLog Catalog

/-- A row of reviews. -/
structure Review where
  id : Uuid
  tenantId : Uuid
  orderId : Uuid
  restaurantId : Uuid
  userId : Uuid
  rating : Nat
  deriving DecidableEq, Repr

structure EligibleOrderRow where
  orderId : Uuid
  tenantId : Uuid
  userId : Uuid
  restaurantId : Uuid
  deriving DecidableEq, Repr

structure SubmitReviewCommand where
  tenantId : Uuid
  userId : Uuid
  orderId : Uuid
  rating : Rat

inductive SubmitReviewError
  | invalidRating (value : Rat)
  | eligibilityNotFound (orderId : Uuid)
  | notOwned (orderId : Uuid)
  deriving DecidableEq

def minRating : Rat := 1

def maxRating : Rat := 5

def Rating.create (value : Rat) : Except SubmitReviewError Nat :=
  if value.isInt = false ∨ value < minRating ∨ maxRating < value then throw (.invalidRating value)
  else pure value.num.toNat

/-- The part of `execute` before the transaction, after what `findEligible`
returned; the comment is left out. -/
def SubmitReviewCommand.create (command : SubmitReviewCommand) (id : Uuid) (eligible : Option EligibleOrderRow) :
    Except SubmitReviewError Review := do
  let rating ← Rating.create command.rating
  match eligible with
  | none => throw (.eligibilityNotFound command.orderId)
  | some eligible =>
    if eligible.userId ≠ command.userId then throw (.notOwned command.orderId)
    pure { id, tenantId := command.tenantId, orderId := command.orderId, restaurantId := eligible.restaurantId,
           userId := command.userId, rating }

structure RestaurantRatingAggregate where
  avgRating : Number
  reviewCount : Nat
  deriving DecidableEq

/-- The rows of a restaurant among those a statement sees. -/
def reviewsOf (tenantId restaurantId : Uuid) (rows : List Review) : List Review :=
  rows.filter fun review => review.restaurantId = restaurantId ∧ review.tenantId = tenantId

def ratingSum (reviews : List Review) : Nat := (reviews.map (·.rating)).sum

/-- The AVG of the ratings as a numeric, if there are any, and what `Number`
makes of it. -/
def avg : List Review → Number
  | [] => 0
  | reviews => .ofRat (Numeric.divide (ratingSum reviews) reviews.length)

theorem avg_nil : avg [] = 0 := rfl

theorem avg_cons (review : Review) (reviews : List Review) :
    avg (review :: reviews) = .ofRat (Numeric.divide (ratingSum (review :: reviews)) (review :: reviews).length) := rfl

def aggregateForRestaurant (tenantId restaurantId : Uuid) (rows : List Review) : RestaurantRatingAggregate where
  avgRating := (avg (reviewsOf tenantId restaurantId rows) * 100).roundHalfUp.divNat 100
  reviewCount := (reviewsOf tenantId restaurantId rows).length

/-- A row of the outbox with a RestaurantRatingChanged event. -/
structure RatingChanged where
  aggregateId : Uuid
  tenantId : Uuid
  avgRating : Number
  reviewCount : Nat
  createdAt : Nat
  deriving DecidableEq

def restaurantRatingChangedEvent (review : Review) (aggregate : RestaurantRatingAggregate) (createdAt : Nat) :
    RatingChanged where
  aggregateId := review.restaurantId
  tenantId := review.tenantId
  avgRating := aggregate.avgRating
  reviewCount := aggregate.reviewCount
  createdAt := createdAt

/-- Where a call's transaction stands; `seen` is what had been committed when
its aggregate ran. -/
inductive Stage
  | idle
  | started (startedAt : Nat) (review : Review)
  | inserted (startedAt : Nat) (review : Review)
  | aggregated (startedAt : Nat) (review : Review) (seen : List Review)
  | appended (startedAt : Nat) (review : Review) (seen : List Review)
  | ended

/-- The tables, the calls, the events handed to the relay and not yet applied,
and the catalog's read model. -/
structure Service where
  reviews : List Review
  unpublished : List RatingChanged
  calls : Nat → Stage
  published : List RatingChanged
  read : ReadModel

inductive Action
  | start (call : Nat) (command : SubmitReviewCommand) (id : Uuid) (eligible : Option EligibleOrderRow) (now : Nat)
  | insert (call : Nat)
  | aggregate (call : Nat)
  | append (call : Nat)
  | commit (call : Nat)
  | abandon (call : Nat)
  | fetch (limit : Nat) (order : List RatingChanged)
  | apply

namespace Service

def setCall (service : Service) (call : Nat) (stage : Stage) : Service :=
  { service with calls := Function.update service.calls call stage }

/-- A transaction sees its own review besides those committed before the
statement, and its event carries the time it started at. -/
def commit (service : Service) (startedAt : Nat) (review : Review) (seen : List Review) :
    Service :=
  { service with
    reviews := review :: service.reviews
    unpublished :=
      restaurantRatingChangedEvent review
        (aggregateForRestaurant review.tenantId review.restaurantId (review :: seen)) startedAt ::
        service.unpublished }

/-- One step. A second review of an order waits for the first at its insert,
and fails once that has committed. -/
def step (service : Service) : Action → Option Service
  | .start call command id eligible now =>
    match service.calls call, command.create id eligible with
    | .idle, .ok review => some (service.setCall call (.started now review))
    | .idle, .error _ => some (service.setCall call .ended)
    | _, _ => none
  | .insert call =>
    match service.calls call with
    | .started startedAt review =>
      if ∀ other ∈ service.reviews, other.orderId ≠ review.orderId then
        some (service.setCall call (.inserted startedAt review))
      else some (service.setCall call .ended)
    | _ => none
  | .aggregate call =>
    match service.calls call with
    | .inserted startedAt review => some (service.setCall call (.aggregated startedAt review service.reviews))
    | _ => none
  | .append call =>
    match service.calls call with
    | .aggregated startedAt review seen => some (service.setCall call (.appended startedAt review seen))
    | _ => none
  | .commit call =>
    match service.calls call with
    | .appended startedAt review seen =>
      if ∀ other ∈ service.reviews, other.orderId ≠ review.orderId then
        some ((service.commit startedAt review seen).setCall call .ended)
      else none
    | _ => none
  | .abandon call => some (service.setCall call .ended)
  | .fetch limit order =>
    if Ordered RatingChanged.createdAt service.unpublished order then
      some { service with unpublished := order.drop limit, published := service.published ++ order.take limit }
    else none
  | .apply =>
    match service.published with
    | event :: published => some { service with
        published := published
        read := applyReviewEvent service.read event.aggregateId event.tenantId event.avgRating event.reviewCount }
    | [] => none

/-- What each step does where it happens. -/
inductive Moves (service : Service) : Action → Service → Prop
  | start {call command id eligible now review} : service.calls call = .idle → command.create id eligible = .ok review →
      Moves service (.start call command id eligible now) (service.setCall call (.started now review))
  | invalid {call command id eligible now} : service.calls call = .idle →
      Moves service (.start call command id eligible now) (service.setCall call .ended)
  | insert {call startedAt review} : service.calls call = .started startedAt review →
      (∀ other ∈ service.reviews, other.orderId ≠ review.orderId) →
      Moves service (.insert call) (service.setCall call (.inserted startedAt review))
  | duplicate {call startedAt review} : service.calls call = .started startedAt review →
      Moves service (.insert call) (service.setCall call .ended)
  | aggregate {call startedAt review} : service.calls call = .inserted startedAt review →
      Moves service (.aggregate call) (service.setCall call (.aggregated startedAt review service.reviews))
  | append {call startedAt review seen} : service.calls call = .aggregated startedAt review seen →
      Moves service (.append call) (service.setCall call (.appended startedAt review seen))
  | commit {call startedAt review seen} : service.calls call = .appended startedAt review seen →
      (∀ other ∈ service.reviews, other.orderId ≠ review.orderId) →
      Moves service (.commit call) ((service.commit startedAt review seen).setCall call .ended)
  | abandon {call} : Moves service (.abandon call) (service.setCall call .ended)
  | fetch {limit order} : Ordered RatingChanged.createdAt service.unpublished order →
      Moves service (.fetch limit order)
        { service with unpublished := order.drop limit, published := service.published ++ order.take limit }
  | apply {event published} : service.published = event :: published →
      Moves service .apply { service with
        published := published
        read := applyReviewEvent service.read event.aggregateId event.tenantId event.avgRating event.reviewCount }

theorem moves_of_step {service service' : Service} {action : Action} (step : service.step action = some service') :
    service.Moves action service' := by
  cases action with
  | start =>
    simp only [Service.step] at step
    split at step <;> cases step
    · exact .start ‹_› ‹_›
    · exact .invalid ‹_›
  | insert =>
    simp only [Service.step] at step
    split at step
    · split at step <;> cases step
      · exact .insert ‹_› ‹_›
      · exact .duplicate ‹_›
    · cases step
  | aggregate =>
    simp only [Service.step] at step
    split at step <;> cases step
    exact .aggregate ‹_›
  | append =>
    simp only [Service.step] at step
    split at step <;> cases step
    exact .append ‹_›
  | commit =>
    simp only [Service.step] at step
    split at step
    · split at step <;> cases step
      exact .commit ‹_› ‹_›
    · cases step
  | abandon =>
    cases step
    exact .abandon
  | fetch =>
    simp only [Service.step] at step
    split at step <;> cases step
    exact .fetch ‹_›
  | apply =>
    simp only [Service.step] at step
    split at step <;> cases step
    exact .apply ‹_›

end Service

end FoodDelivery.ReviewService
