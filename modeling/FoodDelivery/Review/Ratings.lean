import FoodDelivery.Review.RoundedAverage

namespace FoodDelivery.ReviewService

open Binary64 CommitLog KeyedLog Catalog

variable {tenantId restaurantId : Uuid} {service service' : Service}

/-- Every event of the restaurant has been applied. -/
def Service.Applied (tenantId restaurantId : Uuid) (service : Service) : Prop :=
  ∀ event ∈ service.published ++ service.unpublished, ¬ (event.tenantId = tenantId ∧ event.aggregateId = restaurantId)

/-- The restaurant's row in the read model, if it has one, shows the number of
its committed reviews and their average of two decimals. -/
def Service.Converged (tenantId restaurantId : Uuid) (service : Service) : Prop :=
  ∀ read, service.read.findRestaurant restaurantId tenantId = some read →
    read.rating = roundedAverage (ratingSum (reviewsOf tenantId restaurantId service.reviews))
        (reviewsOf tenantId restaurantId service.reviews).length ∧
      read.reviewCount = (reviewsOf tenantId restaurantId service.reviews).length

/-- The average of the restaurant's committed reviews is one that is rounded down. -/
def Service.Misrounds (tenantId restaurantId : Uuid) (service : Service) : Prop :=
  Misrounded (ratingSum (reviewsOf tenantId restaurantId service.reviews))
    (reviewsOf tenantId restaurantId service.reviews).length

/-- A review of the restaurant commits with no other since its aggregate, and
after every transaction of the restaurant whose event is unpublished had started. -/
def Serial (tenantId restaurantId : Uuid) (commit : Commit Service Action) : Prop :=
  ∀ call startedAt review seen, commit.act = .commit call → commit.before.calls call = .appended startedAt review seen →
    review.tenantId = tenantId → review.restaurantId = restaurantId →
    reviewsOf tenantId restaurantId commit.before.reviews = reviewsOf tenantId restaurantId seen ∧
    ∀ event ∈ commit.before.unpublished, event.tenantId = tenantId → event.aggregateId = restaurantId →
      event.createdAt < startedAt

structure Service.Initial (service : Service) : Prop where
  reviews : service.reviews = []
  unpublished : service.unpublished = []
  published : service.published = []
  calls : service.calls = fun _ => .idle
  unrated : ∀ id read, service.read.restaurants id = some read → read.rating = 0 ∧ read.reviewCount = 0

abbrev Run : List (Commit Service Action) → Service → Prop :=
  History Service.Initial fun _ action service service' => service.step action = some service'

/-- What an event makes of the rating of a tenant's restaurant, if it is about it. -/
def RatingChanged.rates (restaurant : Uuid × Uuid) (event : RatingChanged) : Option RestaurantRatingAggregate :=
  if event.tenantId = restaurant.1 ∧ event.aggregateId = restaurant.2 then some ⟨event.avgRating, event.reviewCount⟩
  else none

/-- In whatever order the relay reads the unpublished events, the rating ends
as the aggregate of the committed reviews. -/
def Service.Invariant (tenantId restaurantId : Uuid) (service : Service) : Prop :=
  ∀ read, service.read.findRestaurant restaurantId tenantId = some read →
    ∀ order, Ordered RatingChanged.createdAt service.unpublished order →
      settle RatingChanged.rates (tenantId, restaurantId) ⟨read.rating, read.reviewCount⟩ (service.published ++ order) =
        aggregateForRestaurant tenantId restaurantId service.reviews

namespace Service

theorem avg_none : (avg [] * 100).roundHalfUp.divNat 100 = 0 := by
  have zero : (0 : Number).Is (0 : Nat) := Number.ofNat_is (by norm_num)
  have hundred : (100 : Number).Is (100 : Nat) := Number.ofNat_is (by norm_num)
  have product : (0 * 100 : Number) = 0 := by
    rw [zero.mul hundred, Nat.cast_zero, zero_mul, Number.ofRat_zero]
  have rounded : (0 : Number).roundHalfUp = 0 := by
    rw [zero.roundHalfUp, ← Number.ofRat_zero]
    norm_num
  have quotient : (0 : Number).divNat 100 = 0 := by
    rw [zero.divNat, Nat.cast_zero, zero_div, Number.ofRat_zero]
  rw [avg_nil, product, rounded, quotient]

/-- Without reviews the rating is zero. -/
theorem aggregate_none : aggregateForRestaurant tenantId restaurantId [] = ⟨0, 0⟩ := by
  simp only [aggregateForRestaurant, reviewsOf, List.filter_nil, List.length_nil, avg_none]

theorem Initial.invariant (initial : service.Initial) : service.Invariant tenantId restaurantId := by
  intro read found order ordered
  obtain ⟨stored, -⟩ := Option.filter_eq_some_iff.mp found
  obtain ⟨rating, count⟩ := initial.unrated _ read stored
  have nothing : order = [] := by
    have perm := ordered.1
    rw [initial.unpublished] at perm
    exact perm.eq_nil
  rw [nothing, initial.published, initial.reviews, rating, count, aggregate_none]
  rfl

/-- Once every event has been applied the read model shows the aggregate. -/
theorem Invariant.shows (invariant : service.Invariant tenantId restaurantId) (applied : service.Applied tenantId restaurantId)
    {read : ReadRestaurant} (found : service.read.findRestaurant restaurantId tenantId = some read) :
    ⟨read.rating, read.reviewCount⟩ = aggregateForRestaurant tenantId restaurantId service.reviews := by
  obtain ⟨order, ordered⟩ := Ordered.exists RatingChanged.createdAt service.unpublished
  rw [← invariant read found order ordered]
  symm
  refine settle_skip fun event member => if_neg (applied event ?_)
  rcases List.mem_append.mp member with published | unpublished
  · exact List.mem_append_left _ published
  · exact List.mem_append_right _ (ordered.1.mem_iff.mp unpublished)

/-- What an applied event leaves of the row. -/
theorem findRestaurant_applyReviewEvent {event : RatingChanged} {model : ReadModel} {read : ReadRestaurant}
    (found : (applyReviewEvent model event.aggregateId event.tenantId event.avgRating event.reviewCount).findRestaurant
      restaurantId tenantId = some read) :
    ∃ before, model.findRestaurant restaurantId tenantId = some before ∧
      (⟨read.rating, read.reviewCount⟩ : RestaurantRatingAggregate) =
        (event.rates (tenantId, restaurantId)).getD ⟨before.rating, before.reviewCount⟩ := by
  obtain ⟨stored, tenant⟩ := Option.filter_eq_some_iff.mp found
  have rows : (applyReviewEvent model event.aggregateId event.tenantId event.avgRating event.reviewCount).restaurants
      restaurantId = if restaurantId = event.aggregateId then _ else _ := Function.update_apply ..
  rw [rows] at stored
  split at stored
  · rename_i same
    subst same
    obtain ⟨before, there, rfl⟩ := Option.map_eq_some_iff.mp stored
    have owner : before.tenantId = tenantId := by
      unfold updateRating at tenant
      split at tenant <;> simpa using tenant
    refine ⟨before, Option.filter_eq_some_iff.mpr ⟨there, by simpa using owner⟩, ?_⟩
    unfold updateRating RatingChanged.rates
    by_cases own : event.tenantId = tenantId
    · simp [own, owner]
    · simp [own, owner, Ne.symm own]
  · rename_i other
    refine ⟨read, Option.filter_eq_some_iff.mpr ⟨stored, tenant⟩, ?_⟩
    simp [RatingChanged.rates, Ne.symm other]

theorem Invariant.apply {event : RatingChanged} {published : List RatingChanged}
    (invariant : service.Invariant tenantId restaurantId) (next : service.published = event :: published) :
    ({ service with
        published := published
        read := applyReviewEvent service.read event.aggregateId event.tenantId event.avgRating event.reviewCount } :
      Service).Invariant tenantId restaurantId := by
  intro read found order ordered
  obtain ⟨before, there, rating⟩ := findRestaurant_applyReviewEvent found
  have ends := invariant before there order ordered
  rw [next, List.cons_append, settle_cons] at ends
  rw [rating]
  exact ends

theorem Invariant.fetch {limit : Nat} {order : List RatingChanged}
    (invariant : service.Invariant tenantId restaurantId)
    (ordered : Ordered RatingChanged.createdAt service.unpublished order) :
    ({ service with unpublished := order.drop limit, published := service.published ++ order.take limit } :
      Service).Invariant tenantId restaurantId := by
  intro read found rest later
  have ends := invariant read found _ (ordered.take later)
  rwa [← List.append_assoc] at ends

theorem aggregate_congr {rows others : List Review}
    (same : reviewsOf tenantId restaurantId rows = reviewsOf tenantId restaurantId others) :
    aggregateForRestaurant tenantId restaurantId rows =
      aggregateForRestaurant tenantId restaurantId others := by
  unfold aggregateForRestaurant
  rw [same]

/-- The event of a serial transaction is the last word on its restaurant. -/
theorem Invariant.commit {startedAt : Nat} {review : Review} {seen : List Review}
    (invariant : service.Invariant tenantId restaurantId)
    (serial : review.tenantId = tenantId → review.restaurantId = restaurantId →
      reviewsOf tenantId restaurantId service.reviews = reviewsOf tenantId restaurantId seen ∧
      ∀ event ∈ service.unpublished, event.tenantId = tenantId → event.aggregateId = restaurantId →
        event.createdAt < startedAt) :
    (service.commit startedAt review seen).Invariant tenantId restaurantId := by
  intro read found order ordered
  by_cases own : review.tenantId = tenantId ∧ review.restaurantId = restaurantId
  · obtain ⟨rfl, rfl⟩ := own
    obtain ⟨same, earlier⟩ := serial rfl rfl
    have sees : aggregateForRestaurant review.tenantId review.restaurantId (review :: seen) =
        aggregateForRestaurant review.tenantId review.restaurantId (review :: service.reviews) := by
      refine aggregate_congr ?_
      simp only [reviewsOf, List.filter_cons] at same ⊢
      rw [same]
    rw [settle_append]
    refine (settle_latest ordered (if_pos ⟨rfl, rfl⟩) fun event member writes => ?_).trans sees
    obtain ⟨tenant, about⟩ : event.tenantId = review.tenantId ∧ event.aggregateId = review.restaurantId := by
      by_contra other
      exact writes (if_neg other)
    exact earlier event member tenant about
  · have others : reviewsOf tenantId restaurantId (review :: service.reviews) =
        reviewsOf tenantId restaurantId service.reviews := by
      have dropped : ¬ (review.restaurantId = restaurantId ∧ review.tenantId = tenantId) := fun both => own both.symm
      simp [reviewsOf, dropped]
    have silent : (restaurantRatingChangedEvent review (aggregateForRestaurant review.tenantId review.restaurantId
        (review :: seen)) startedAt).rates (tenantId, restaurantId) = none := if_neg own
    rw [settle_append]
    obtain ⟨rest, before, same⟩ := settle_silent ordered silent
    rw [same, ← settle_append]
    exact (invariant read found rest before).trans (aggregate_congr others).symm

theorem Invariant.step {action : Action} (invariant : service.Invariant tenantId restaurantId)
    (serial : Serial tenantId restaurantId ⟨service, action, service'⟩)
    (step : service.step action = some service') : service'.Invariant tenantId restaurantId := by
  cases moves_of_step step with
  | start => exact invariant
  | invalid => exact invariant
  | insert => exact invariant
  | duplicate => exact invariant
  | aggregate => exact invariant
  | append => exact invariant
  | commit stage => exact invariant.commit (serial _ _ _ _ rfl stage)
  | abandon => exact invariant
  | fetch ordered => exact invariant.fetch ordered
  | apply next => exact invariant.apply next

end Service

/-- The review that a call has under way. -/
def Stage.review : Stage → Option Review
  | .started _ review | .inserted _ review | .aggregated _ review _ | .appended _ review _ => some review
  | .idle | .ended => none

def Review.Within (review : Review) : Prop := 1 ≤ review.rating ∧ review.rating ≤ 5

structure Service.Within (service : Service) : Prop where
  reviews : ∀ review ∈ service.reviews, review.Within
  calls : ∀ call review, (service.calls call).review = some review → review.Within

theorem Rating.create_ok {value : Rat} {rating : Nat} (created : Rating.create value = .ok rating) : 1 ≤ rating ∧ rating ≤ 5 := by
  unfold Rating.create at created
  split at created
  · cases created
  · rename_i accepted
    simp only [minRating, maxRating, not_or, Bool.not_eq_false, not_lt, Rat.isInt] at accepted
    obtain ⟨whole, least, most⟩ := accepted
    have integer : value = value.num := (Rat.den_eq_one_iff value).mp (by simpa using whole) |>.symm
    have lower : (1 : ℤ) ≤ value.num := by
      rw [integer] at least
      exact_mod_cast least
    have upper : value.num ≤ 5 := by
      rw [integer] at most
      exact_mod_cast most
    cases created
    omega

theorem SubmitReviewCommand.create_ok {command : SubmitReviewCommand} {id : Uuid} {eligible : Option EligibleOrderRow}
    {review : Review} (created : command.create id eligible = .ok review) : review.Within := by
  obtain ⟨rating, accepted, rest⟩ := Except.bind_ok.mp created
  cases eligible with
  | none => cases rest
  | some eligible =>
    simp only at rest
    split at rest
    · cases rest
    · cases rest
      exact Rating.create_ok accepted

namespace Service

theorem Within.setCall {call : Nat} {stage : Stage} (within : service.Within)
    (sound : ∀ review, stage.review = some review → review.Within) : (service.setCall call stage).Within :=
  ⟨within.reviews, (Function.forall_update_iff service.calls fun _ stage => ∀ review, stage.review = some review →
    review.Within).mpr ⟨sound, fun other _ => within.calls other⟩⟩

theorem Within.step {action : Action} (within : service.Within) (step : service.step action = some service') :
    service'.Within := by
  have kept {call : Nat} {stage : Stage} (before : stage.review = (service.calls call).review) :
      (service.setCall call stage).Within :=
    within.setCall fun review known => within.calls call review (before ▸ known)
  have ended (call : Nat) : (service.setCall call .ended).Within := within.setCall nofun
  cases moves_of_step step with
  | start _ created =>
    refine within.setCall ?_
    rintro _ ⟨⟩
    exact SubmitReviewCommand.create_ok created
  | invalid => exact ended _
  | insert stage => exact kept (by rw [stage]; rfl)
  | duplicate => exact ended _
  | aggregate stage => exact kept (by rw [stage]; rfl)
  | append stage => exact kept (by rw [stage]; rfl)
  | commit stage =>
    refine Within.setCall ⟨?_, within.calls⟩ nofun
    exact List.forall_mem_cons.mpr ⟨within.calls _ _ (by rw [stage]; rfl), within.reviews⟩
  | abandon => exact ended _
  | fetch => exact ⟨within.reviews, within.calls⟩
  | apply => exact ⟨within.reviews, within.calls⟩

end Service

theorem ratingSum_within {reviews : List Review} (within : ∀ review ∈ reviews, review.Within) :
    reviews.length ≤ ratingSum reviews ∧ ratingSum reviews ≤ 5 * reviews.length := by
  induction reviews with
  | nil => exact ⟨Nat.le_refl _, Nat.le_refl _⟩
  | cons review reviews ih =>
    obtain ⟨⟨least, most⟩, rest⟩ := List.forall_mem_cons.mp within
    obtain ⟨lower, upper⟩ := ih rest
    have sum : ratingSum (review :: reviews) = review.rating + ratingSum reviews := rfl
    rw [sum, List.length_cons]
    omega

/-- The aggregate is exact but for the averages that are rounded down. -/
theorem avg_eq_iff {reviews : List Review} (within : ∀ review ∈ reviews, review.Within) (few : reviews.length < 2 ^ 31) :
    (avg reviews * 100).roundHalfUp.divNat 100 = roundedAverage (ratingSum reviews) reviews.length ↔
      ¬ Misrounded (ratingSum reviews) reviews.length := by
  cases reviews with
  | nil =>
    have rating : roundedAverage (ratingSum []) 0 = 0 := by
      rw [roundedAverage, ← Number.ofRat_zero, show hundredths (ratingSum []) 0 = 0 from rfl, Nat.cast_zero, zero_div]
    refine iff_of_true ?_ fun misrounded => absurd misrounded.1 (Nat.lt_irrefl 0)
    exact Service.avg_none.trans rating.symm
  | cons review reviews =>
    obtain ⟨least, most⟩ := ratingSum_within within
    rw [avg_cons]
    exact Rated.rating_eq_iff ⟨Nat.succ_pos _, least, most, few⟩

/-- In a run whose reviews of a restaurant commit serially, its row shows their
number and their average whenever every event of it has been applied, unless the
average is one of those that are rounded down. -/
theorem ratings_converge {log : List (Commit Service Action)} (run : Run log service)
    (serial : ∀ commit ∈ log, Serial tenantId restaurantId commit) :
    ∀ s, Seen log service s → s.Applied tenantId restaurantId → (reviewsOf tenantId restaurantId s.reviews).length < 2 ^ 31 →
      (s.Converged tenantId restaurantId ↔
        ((s.read.findRestaurant restaurantId tenantId).isSome → ¬ s.Misrounds tenantId restaurantId)) := by
  intro s seen applied few
  have invariant : s.Invariant tenantId restaurantId := by
    refine run.invariant_of (I := Service.Invariant tenantId restaurantId) ?_ ?_ serial s seen
    · intro _ initial
      exact initial.invariant
    · intro _ _ _ _ step serial invariant
      exact invariant.step serial step
  have within : s.Within := by
    refine run.invariant_seen ?_ ?_ s seen
    · rintro _ initial
      exact ⟨by simp [initial.reviews], by simp [initial.calls, Stage.review]⟩
    · rintro _ _ _ _ step within
      exact within.step step
  have all : ∀ review ∈ reviewsOf tenantId restaurantId s.reviews, review.Within :=
    fun review member => within.reviews review (List.mem_filter.mp member).1
  have average := avg_eq_iff all few
  constructor
  · intro converged row
    obtain ⟨read, found⟩ := Option.isSome_iff_exists.mp row
    have shown := congrArg RestaurantRatingAggregate.avgRating (invariant.shows applied found)
    exact average.mp (shown.symm.trans (converged read found).1)
  · intro rounded read found
    have shown := invariant.shows applied found
    have rating := average.mpr (rounded (Option.isSome_iff_exists.mpr ⟨read, found⟩))
    exact ⟨(congrArg RestaurantRatingAggregate.avgRating shown).trans rating,
      congrArg RestaurantRatingAggregate.reviewCount shown⟩

def sampleModel : ReadModel where
  restaurants id :=
    if id = "restaurant-1" then
      some { id := "restaurant-1", tenantId := "tenant-1", name := "Phở Hà Nội", description := none, isActive := true,
             version := 1, createdAt := 1, updatedAt := 1, rating := 0, reviewCount := 0 }
    else none
  menuItems _ := none

def startService : Service where
  reviews := []
  unpublished := []
  calls _ := .idle
  published := []
  read := sampleModel

theorem startService_initial : startService.Initial := by
  refine ⟨rfl, rfl, rfl, rfl, fun id read found => ?_⟩
  simp only [startService, sampleModel] at found
  split at found <;> cases found
  exact ⟨rfl, rfl⟩

def submit (call : Nat) (orderId : Uuid) (rating : Rat) (now : Nat) : Action :=
  .start call { tenantId := "tenant-1", userId := "user-1", orderId, rating } orderId
    (some { orderId, tenantId := "tenant-1", userId := "user-1", restaurantId := "restaurant-1" }) now

theorem Service.applied_of_nil (published : service.published = []) (unpublished : service.unpublished = []) :
    service.Applied tenantId restaurantId := by
  simp [Service.Applied, published, unpublished]

theorem Service.fetch_step {limit : Nat} {order : List RatingChanged}
    (ordered : Ordered RatingChanged.createdAt service.unpublished order) :
    service.step (.fetch limit order) =
      some { service with unpublished := order.drop limit, published := service.published ++ order.take limit } :=
  if_pos ordered

theorem ordered_pair {first later : RatingChanged} (earlier : first.createdAt ≤ later.createdAt) :
    Ordered RatingChanged.createdAt [first, later] [first, later] ∧ Ordered RatingChanged.createdAt [later, first] [first, later] := by
  have sorted : [first, later].Pairwise fun first later => first.createdAt ≤ later.createdAt := by simpa using earlier
  exact ⟨⟨.refl _, sorted⟩, List.Perm.swap .., sorted⟩

theorem ratings_converge_sample : ∃ log service, Run log service ∧
    service.Applied "tenant-1" "restaurant-1" ∧ service.Converged "tenant-1" "restaurant-1" ∧
    service.reviews.length = 2 := by
  have start : Run [] startService := History.start startService_initial
  have first := ((start.commit (a := submit 0 "order-1" 5 1) rfl).commit (a := .insert 0) rfl).commit
    (a := .aggregate 0) rfl
  have second := (((first.commit (a := .append 0) rfl).commit (a := .commit 0) rfl).commit
    (a := submit 1 "order-2" 4 2) rfl).commit (a := .insert 1) rfl
  have committed := ((second.commit (a := .aggregate 1) rfl).commit (a := .append 1) rfl).commit (a := .commit 1) rfl
  have fetched := committed.commit (a := .fetch 10 _) (Service.fetch_step (ordered_pair (by decide)).2)
  have applied := (fetched.commit (a := .apply) rfl).commit (a := .apply) rfl
  have other (commit : Commit Service Action) (reads : ∀ call, commit.act ≠ .commit call) :
      Serial "tenant-1" "restaurant-1" commit := fun call _ _ _ same => absurd same (reads call)
  refine ⟨_, _, applied, Service.applied_of_nil rfl rfl, (@ratings_converge "tenant-1" "restaurant-1" _ _ applied ?_ _
    Seen.current (Service.applied_of_nil rfl rfl) (show 2 < 2 ^ 31 by norm_num)).mpr fun _ => show ¬ Misrounded 9 2 by decide, rfl⟩
  simp only [List.forall_mem_cons]
  refine ⟨other _ nofun, other _ nofun, other _ nofun, ?_, other _ nofun, other _ nofun, other _ nofun, other _ nofun,
    ?_, other _ nofun, other _ nofun, other _ nofun, other _ nofun, by simp⟩
  · rintro call startedAt review seen ⟨⟩ ⟨⟩ - -
    refine ⟨rfl, fun event member _ _ => ?_⟩
    cases List.mem_singleton.mp member
    exact Nat.lt_succ_self 1
  · rintro call startedAt review seen ⟨⟩ ⟨⟩ - -
    exact ⟨rfl, fun event member => absurd member List.not_mem_nil⟩

/-- The steps of a call after its start. -/
def transaction (call : Nat) : List Action := [.insert call, .aggregate call, .append call, .commit call]

/-- Two reviews have committed and every event has been applied, but the read
model counts one. -/
def MissesReview (service : Service) : Prop :=
  service.published = [] ∧ service.unpublished = [] ∧
    (reviewsOf "tenant-1" "restaurant-1" service.reviews).length = 2 ∧
    (service.read.findRestaurant "restaurant-1" "tenant-1").map (·.reviewCount) = some 1

theorem MissesReview.diverges (misses : MissesReview service) : service.Applied "tenant-1" "restaurant-1" ∧
    ¬ service.Converged "tenant-1" "restaurant-1" := by
  obtain ⟨published, unpublished, counted, shown⟩ := misses
  refine ⟨Service.applied_of_nil published unpublished, fun converged => ?_⟩
  obtain ⟨read, found, one⟩ := Option.map_eq_some_iff.mp shown
  have both := (converged read found).2
  simp only [counted, one] at both
  cases both

/-- Two reviews whose transactions overlap count only themselves. Where the
earlier one commits last its event is still published first, and the other's,
which does not count it, has the last word. -/
theorem review_lost :
    (∃ log service, Run log service ∧ service.Applied "tenant-1" "restaurant-1" ∧
      ¬ service.Converged "tenant-1" "restaurant-1") ∧
    ∃ log service, Run log service ∧ service.Applied "tenant-1" "restaurant-1" ∧
      ¬ service.Converged "tenant-1" "restaurant-1" := by
  have start : Run [] startService := History.start startService_initial
  constructor
  · obtain ⟨log, committed⟩ := start.continued [submit 0 "order-1" 5 1, submit 1 "order-2" 1 2, .insert 0, .insert 1,
      .aggregate 0, .aggregate 1, .append 0, .append 1, .commit 0, .commit 1] rfl
    have fetched := committed.commit (a := .fetch 10 _) (Service.fetch_step (ordered_pair (by decide)).2)
    have applied := (fetched.commit (a := .apply) rfl).commit (a := .apply) rfl
    exact ⟨_, _, applied, MissesReview.diverges ⟨rfl, rfl, rfl, rfl⟩⟩
  · obtain ⟨log, committed⟩ := start.continued ([submit 0 "order-1" 5 1, submit 1 "order-2" 1 2] ++ transaction 1 ++
      transaction 0) rfl
    have fetched := committed.commit (a := .fetch 10 _) (Service.fetch_step (ordered_pair (by decide)).1)
    have applied := (fetched.commit (a := .apply) rfl).commit (a := .apply) rfl
    exact ⟨_, _, applied, MissesReview.diverges ⟨rfl, rfl, rfl, rfl⟩⟩

end FoodDelivery.ReviewService
