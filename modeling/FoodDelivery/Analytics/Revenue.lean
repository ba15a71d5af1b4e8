import Mathlib.Algebra.Order.BigOperators.Group.Finset
import Mathlib.Algebra.Ring.Int.Defs
import FoodDelivery.Analytics.OrdersFact
import FoodDelivery.Lib.IsoTime
import FoodDelivery.Tenancy.Signatures

namespace FoodDelivery.Analytics

open Binary64 Replacing Tenancy
open Tenancy.Signatures (number)

structure DateRange where
  fromTime : Int
  toTime : Int
  deriving DecidableEq, Repr

structure InvalidDateRangeError where
  message : String
  deriving DecidableEq, Repr

def parseDateRange (newDate : String → Option Int) (fromIso toIso : String) : Except InvalidDateRangeError DateRange :=
  match newDate fromIso with
  | none => throw { message := s!"Invalid \"from\" date: \"{fromIso}\"" }
  | some fromTime =>
    match newDate toIso with
    | none => throw { message := s!"Invalid \"to\" date: \"{toIso}\"" }
    | some toTime =>
      if toTime < fromTime then throw { message := s!"\"from\" ({fromIso}) must not be after \"to\" ({toIso})" }
      else pure { fromTime, toTime }

def parseDateRangeOrThrow (newDate : String → Option Int) (fromIso toIso : String) : Except HttpException DateRange :=
  (parseDateRange newDate fromIso toIso).mapError fun error => .badRequest error.message

/-- A sum of `Int64` values wraps around. -/
def int64 (n : Int) : Int := n.bmod (2 ^ 64)

def sumCents (rows : List OrdersFactRow) : Int := int64 (rows.map OrdersFactRow.totalCents).sum

/-- The `WHERE` that the queries share. -/
def selected (tenantId : String) (range : DateRange) (row : OrdersFactRow) : Bool :=
  row.tenantId = tenantId ∧ range.fromTime ≤ row.occurredAt ∧ row.occurredAt ≤ range.toTime

structure SummaryRow where
  revenueCents : String
  confirmedCount : String
  cancelledCount : String
  deriving DecidableEq, Repr

/-- The query of `ClickHouseSummaryQueryAdapter`, over what `FINAL` keeps. -/
def summaryQuery (tenantId : String) (range : DateRange) (facts : List OrdersFactRow) : SummaryRow :=
  let rows := facts.filter (selected tenantId range)
  { revenueCents := toString (sumCents (rows.filter (·.status = .confirmed)))
    confirmedCount := toString (rows.filter (·.status = .confirmed)).length
    cancelledCount := toString (rows.filter (·.status = .cancelled)).length }

structure SummaryResult where
  revenueCents : Number
  confirmedCount : Number
  cancelledCount : Number

/-- `GetSummaryHandler.execute`, with the adapter. -/
def getSummary (newDate : String → Option Int) (tenantId fromIso toIso : String) (facts : List OrdersFactRow) :
    Except HttpException SummaryResult := do
  let range ← parseDateRangeOrThrow newDate fromIso toIso
  let row := summaryQuery tenantId range facts
  pure
    { revenueCents := number row.revenueCents
      confirmedCount := number row.confirmedCount
      cancelledCount := number row.cancelledCount }

/-- A row of a query that groups by a key. -/
structure Group (K : Type) where
  key : K
  revenueCents : Int
  orderCount : Nat
  deriving DecidableEq, Repr

def groupBy {K : Type} [DecidableEq K] (key : OrdersFactRow → K) (rows : List OrdersFactRow) : List (Group K) :=
  (rows.map key).dedup.map fun k =>
    let group := rows.filter (key · = k)
    { key := k, revenueCents := sumCents group, orderCount := group.length }

structure RevenueSeriesPoint where
  day : String
  revenueCents : Number
  orderCount : Number

/-- `GetRevenueSeriesHandler.execute`, with the adapter: `toDate` is the day of a
time, and `dateText` how it is written. -/
def getRevenueSeries (newDate : String → Option Int) (toDate : Int → Nat) (dateText : Nat → String)
    (tenantId fromIso toIso : String) (facts : List OrdersFactRow) : Except HttpException (List RevenueSeriesPoint) := do
  let range ← parseDateRangeOrThrow newDate fromIso toIso
  let rows := facts.filter fun row => selected tenantId range row ∧ row.status = .confirmed
  let days := (groupBy (fun row => toDate row.occurredAt) rows).mergeSort fun a b => a.key ≤ b.key
  pure (days.map fun group =>
    { day := dateText group.key
      revenueCents := number (toString group.revenueCents)
      orderCount := number (toString group.orderCount) })

structure TopRestaurantEntry where
  restaurantId : String
  revenueCents : Number
  orderCount : Number

/-- `GetTopRestaurantsHandler.execute`, with the adapter. Restaurants of equal
revenue may come in any order; here they come as they are first found. -/
def getTopRestaurants (newDate : String → Option Int) (tenantId fromIso toIso : String) (limit : Nat) (facts : List OrdersFactRow) :
    Except HttpException (List TopRestaurantEntry) := do
  let range ← parseDateRangeOrThrow newDate fromIso toIso
  let rows := facts.filter fun row => selected tenantId range row ∧ row.status = .confirmed ∧ row.restaurantId ≠ ""
  let restaurants := (groupBy OrdersFactRow.restaurantId rows).mergeSort fun a b => b.revenueCents ≤ a.revenueCents
  pure ((restaurants.take limit).map fun group =>
    { restaurantId := group.key
      revenueCents := number (toString group.revenueCents)
      orderCount := number (toString group.orderCount) })

/-- The events of one tenant and status in a range. -/
def having (events : Finset OrderEvent) (tenantId : String) (range : DateRange) (status : OrderFactStatus) : Finset OrderEvent :=
  events.filter fun event =>
    event.tenantId = tenantId ∧ (range.fromTime ≤ event.occurredAt ∧ event.occurredAt ≤ range.toTime) ∧ event.status = status

def revenue (events : Finset OrderEvent) : Int := ∑ event ∈ events, event.totalCents

/-- The events that carry a restaurant. -/
def withRestaurant (events : Finset OrderEvent) : Finset OrderEvent := events.filter fun event => event.restaurantId.getD "" ≠ ""

/-- Numbers that add up to this. -/
def AddUpTo (numbers : List Number) (total : Int) : Prop :=
  (∀ x ∈ numbers, x.isInteger) ∧ (numbers.map Number.toInt).sum = total

section numbers

variable {n : Int}

theorem int64_eq (small : |n| ≤ 2 ^ 53) : int64 n = n := by
  rw [abs_le] at small
  rw [int64, Int.bmod_def]
  omega

theorem number_is (small : |n| ≤ 2 ^ 53) : (number (toString n)).Is n := by
  rw [Tenancy.Signatures.number_toString]
  exact Number.ofInt_is small

theorem toString_natCast (count : Nat) : toString (count : Int) = toString count := rfl

theorem number_count_is {count : Nat} (small : count ≤ 2 ^ 53) : (number (toString count)).Is count := by
  have integer := @number_is count (by rw [Nat.abs_cast]; exact_mod_cast small)
  exact_mod_cast integer

theorem addUpTo_toString {ints : List Int} (small : ∀ n ∈ ints, |n| ≤ 2 ^ 53) :
    AddUpTo (ints.map fun n => number (toString n)) ints.sum := by
  constructor
  · intro x member
    obtain ⟨n, inInts, rfl⟩ := List.mem_map.mp member
    have is := number_is (small n inInts)
    rw [Number.isInteger_iff, is.toInt]
    exact is
  · have same : (ints.map fun n => number (toString n)).map Number.toInt = ints.map id := by
      rw [List.map_map]
      refine List.map_congr_left fun n inInts => ?_
      rw [Function.comp_apply, (number_is (small n inInts)).toInt, id]
    rw [same, List.map_id]

end numbers

section groups

variable {K : Type} [DecidableEq K] {key : OrdersFactRow → K} {rows : List OrdersFactRow} {groups : List (Group K)}

def absolute (rows : List OrdersFactRow) : Int := (rows.map fun row => |row.totalCents|).sum

theorem abs_sum_le (rows : List OrdersFactRow) : |(rows.map OrdersFactRow.totalCents).sum| ≤ absolute rows := by
  induction rows with
  | nil => simp [absolute]
  | cons row rest ih =>
    rw [absolute, List.map_cons, List.sum_cons, List.map_cons, List.sum_cons, ← absolute]
    exact (abs_add_le _ _).trans (by omega)

theorem absolute_filter_le (p : OrdersFactRow → Bool) (rows : List OrdersFactRow) : absolute (rows.filter p) ≤ absolute rows := by
  induction rows with
  | nil => rfl
  | cons row rest ih =>
    have nonneg := abs_nonneg row.totalCents
    rw [List.filter_cons]
    split
    · simp only [absolute, List.map_cons, List.sum_cons] at ih ⊢
      omega
    · simp only [absolute, List.map_cons, List.sum_cons] at ih ⊢
      omega

theorem sumCents_eq (small : absolute rows ≤ 2 ^ 53) : sumCents rows = (rows.map OrdersFactRow.totalCents).sum :=
  int64_eq ((abs_sum_le rows).trans small)

theorem mem_groupBy {group : Group K} (member : group ∈ groupBy key rows) :
    ∃ p : OrdersFactRow → Bool, group.revenueCents = sumCents (rows.filter p) ∧ group.orderCount = (rows.filter p).length := by
  obtain ⟨k, -, rfl⟩ := List.mem_map.mp member
  exact ⟨(key · = k), rfl, rfl⟩

theorem mem_keys : ∀ row ∈ rows, key row ∈ (rows.map key).dedup := fun _ member =>
  List.mem_dedup.mpr (List.mem_map_of_mem member)

theorem groups_revenue (small : absolute rows ≤ 2 ^ 53) :
    ((groupBy key rows).map Group.revenueCents).sum = (rows.map OrdersFactRow.totalCents).sum := by
  have total := @sum_groups OrdersFactRow K Int _ rows _ key _ (List.nodup_dedup _) mem_keys OrdersFactRow.totalCents
  rw [← total, groupBy, List.map_map]
  congr 1
  exact List.map_congr_left fun k _ => sumCents_eq ((absolute_filter_le _ rows).trans small)

theorem groups_count : ((groupBy key rows).map Group.orderCount).sum = rows.length := by
  have total := @length_groups OrdersFactRow K rows _ key _ (List.nodup_dedup _) mem_keys
  rw [← total, groupBy, List.map_map]
  rfl

/-- However they are ordered, the groups add up to the rows. -/
theorem groups_addUpTo (perm : groups.Perm (groupBy key rows)) (small : absolute rows ≤ 2 ^ 53) (few : rows.length ≤ 2 ^ 53) :
    AddUpTo (groups.map fun group => number (toString group.revenueCents)) (rows.map OrdersFactRow.totalCents).sum ∧
      AddUpTo (groups.map fun group => number (toString group.orderCount)) rows.length := by
  constructor
  · have revenues : ∀ n ∈ groups.map Group.revenueCents, |n| ≤ 2 ^ 53 := by
      intro n member
      obtain ⟨group, inGroups, rfl⟩ := List.mem_map.mp member
      obtain ⟨p, cents, -⟩ := mem_groupBy (perm.mem_iff.mp inGroups)
      have small' := (absolute_filter_le p rows).trans small
      rw [cents, sumCents_eq small']
      exact (abs_sum_le _).trans small'
    have total := addUpTo_toString revenues
    rw [(perm.map _).sum_eq, groups_revenue small, List.map_map, Function.comp_def] at total
    exact total
  · have counts : ∀ n ∈ groups.map fun group => (group.orderCount : Int), |n| ≤ 2 ^ 53 := by
      intro n member
      obtain ⟨group, inGroups, rfl⟩ := List.mem_map.mp member
      obtain ⟨p, -, count⟩ := mem_groupBy (perm.mem_iff.mp inGroups)
      have fewer := List.length_filter_le p rows
      rw [Nat.abs_cast, count]
      omega
    have total := addUpTo_toString counts
    have all : (groups.map fun group => (group.orderCount : Int)).sum = rows.length := by
      have counted := @groups_count K _ key rows
      rw [← (perm.map _).sum_eq] at counted
      rw [← counted, Nat.cast_list_sum, List.map_map]
      rfl
    have texts : ((groups.map fun group => (group.orderCount : Int)).map fun n => number (toString n)) =
        groups.map fun group => number (toString group.orderCount) := by
      rw [List.map_map]
      refine List.map_congr_left fun group _ => ?_
      rw [Function.comp_apply, toString_natCast]
    rw [← texts, ← all]
    exact total

theorem length_groupBy : (groupBy key rows).length = (rows.map key).toFinset.card := by
  rw [groupBy, List.length_map, List.card_toFinset]

end groups

section counted

/-- A filter of the rows selects these of the events. -/
def Selects (p : OrdersFactRow → Bool) (events chosen : Finset OrderEvent) : Prop := (events.filter fun event => p event.fact) = chosen

variable {newDate : String → Option Int} {toDate : Int → Nat} {dateText : Nat → String} {events chosen : Finset OrderEvent}
  {facts : List OrdersFactRow} {p : OrdersFactRow → Bool} {tenantId fromIso toIso : String} {range : DateRange}

theorem sum_selected (perm : facts.Perm (events.toList.map OrderEvent.fact)) (selects : Selects p events chosen) :
    ((facts.filter p).map OrdersFactRow.totalCents).sum = revenue chosen := by
  rw [sum_filter_of_perm perm, selects]
  rfl

theorem absolute_selected (perm : facts.Perm (events.toList.map OrderEvent.fact)) (selects : Selects p events chosen) :
    absolute (facts.filter p) = ∑ event ∈ chosen, |event.totalCents| := by
  rw [absolute, sum_filter_of_perm perm, selects]
  rfl

theorem length_selected (perm : facts.Perm (events.toList.map OrderEvent.fact)) (selects : Selects p events chosen) :
    (facts.filter p).length = chosen.card := by
  rw [length_filter_of_perm perm, selects]

theorem mem_selected (perm : facts.Perm (events.toList.map OrderEvent.fact)) (selects : Selects p events chosen) {row : OrdersFactRow}
    (member : row ∈ facts.filter p) : ∃ event ∈ chosen, event.fact = row := by
  obtain ⟨inFacts, taken⟩ := List.mem_filter.mp member
  obtain ⟨event, inEvents, rfl⟩ := List.mem_map.mp (perm.mem_iff.mp inFacts)
  refine ⟨event, ?_, rfl⟩
  rw [← selects]
  exact Finset.mem_filter.mpr ⟨Finset.mem_toList.mp inEvents, taken⟩

theorem selects_having (status : OrderFactStatus) :
    Selects (fun row => selected tenantId range row ∧ row.status = status) events (having events tenantId range status) := by
  refine Finset.filter_congr fun event _ => ?_
  rw [decide_eq_true_iff, selected, decide_eq_true_iff, and_assoc]
  rfl

theorem selects_restaurants :
    Selects (fun row => selected tenantId range row ∧ row.status = .confirmed ∧ row.restaurantId ≠ "") events
      (withRestaurant (having events tenantId range .confirmed)) := by
  rw [Selects, withRestaurant, ← selects_having, Finset.filter_filter]
  refine Finset.filter_congr fun event _ => ?_
  rw [decide_eq_true_iff, decide_eq_true_iff, and_assoc]
  rfl

theorem range_accepted (accepted : parseDateRange newDate fromIso toIso = .ok range) :
    parseDateRangeOrThrow newDate fromIso toIso = .ok range := by
  rw [parseDateRangeOrThrow, accepted]
  rfl

/-- The two filters of a conditional aggregate are one. -/
theorem filter_status (status : OrderFactStatus) (facts : List OrdersFactRow) :
    (facts.filter (selected tenantId range)).filter (fun row => decide (row.status = status)) =
      facts.filter fun row => decide (selected tenantId range row ∧ row.status = status) := by
  rw [List.filter_filter]
  refine List.filter_congr fun row _ => ?_
  rw [Bool.decide_and, Bool.decide_eq_true, Bool.and_comm]

/-- The summary is that of the events themselves, with their total as `Int64`. -/
theorem summaryQuery_eq (perm : facts.Perm (events.toList.map OrderEvent.fact)) :
    summaryQuery tenantId range facts =
      { revenueCents := toString (int64 (revenue (having events tenantId range .confirmed)))
        confirmedCount := toString (having events tenantId range .confirmed).card
        cancelledCount := toString (having events tenantId range .cancelled).card } := by
  have count (status : OrderFactStatus) :
      ((facts.filter (selected tenantId range)).filter (·.status = status)).length = (having events tenantId range status).card := by
    rw [filter_status, length_selected perm (selects_having status)]
  have cents : sumCents ((facts.filter (selected tenantId range)).filter (·.status = .confirmed)) =
      int64 (revenue (having events tenantId range .confirmed)) := by
    rw [filter_status, sumCents, sum_selected perm (selects_having _)]
  simp only [summaryQuery, count, cents]

theorem getSummary_eq (perm : facts.Perm (events.toList.map OrderEvent.fact))
    (accepted : parseDateRange newDate fromIso toIso = .ok range) :
    getSummary newDate tenantId fromIso toIso facts = .ok
      { revenueCents := number (toString (int64 (revenue (having events tenantId range .confirmed))))
        confirmedCount := number (toString (having events tenantId range .confirmed).card)
        cancelledCount := number (toString (having events tenantId range .cancelled).card) } := by
  simp only [getSummary, range_accepted accepted, summaryQuery_eq perm, bind, Except.bind, pure, Except.pure]

theorem getSummary_counts (perm : facts.Perm (events.toList.map OrderEvent.fact))
    (accepted : parseDateRange newDate fromIso toIso = .ok range) (few : ∀ status, (having events tenantId range status).card ≤ 2 ^ 53)
    (small : ∑ event ∈ having events tenantId range .confirmed, |event.totalCents| ≤ 2 ^ 53) :
    ∃ summary, getSummary newDate tenantId fromIso toIso facts = .ok summary ∧
      summary.confirmedCount.Is (having events tenantId range .confirmed).card ∧
      summary.cancelledCount.Is (having events tenantId range .cancelled).card ∧
      summary.revenueCents.Is (revenue (having events tenantId range .confirmed)) := by
  have total : |revenue (having events tenantId range .confirmed)| ≤ 2 ^ 53 := (Finset.abs_sum_le_sum_abs _ _).trans small
  refine ⟨_, getSummary_eq perm accepted, ?_⟩
  simp only [int64_eq total]
  exact ⟨number_count_is (few .confirmed), number_count_is (few .cancelled), number_is total⟩

theorem getRevenueSeries_addsUp (perm : facts.Perm (events.toList.map OrderEvent.fact))
    (accepted : parseDateRange newDate fromIso toIso = .ok range) (few : (having events tenantId range .confirmed).card ≤ 2 ^ 53)
    (small : ∑ event ∈ having events tenantId range .confirmed, |event.totalCents| ≤ 2 ^ 53) :
    ∃ points, getRevenueSeries newDate toDate dateText tenantId fromIso toIso facts = .ok points ∧
      AddUpTo (points.map RevenueSeriesPoint.revenueCents) (revenue (having events tenantId range .confirmed)) ∧
      AddUpTo (points.map RevenueSeriesPoint.orderCount) (having events tenantId range .confirmed).card := by
  have selects := @selects_having events tenantId range .confirmed
  refine ⟨_, by rw [getRevenueSeries, range_accepted accepted]; rfl, ?_⟩
  simp only [List.map_map, Function.comp_def, ← sum_selected perm selects, ← length_selected perm selects]
  rw [← length_selected perm selects] at few
  rw [← absolute_selected perm selects] at small
  exact groups_addUpTo (List.mergeSort_perm _ _) small few

/-- No restaurant has two groups. -/
theorem restaurants_le (perm : facts.Perm (events.toList.map OrderEvent.fact)) (selects : Selects p events chosen) :
    (groupBy OrdersFactRow.restaurantId (facts.filter p)).length ≤ (chosen.image OrderEvent.restaurantId).card := by
  rw [length_groupBy]
  refine (Finset.card_le_card ?_).trans (@Finset.card_image_le _ _ (chosen.image OrderEvent.restaurantId) (fun id => id.getD "") _)
  intro id member
  obtain ⟨row, inRows, rfl⟩ := List.mem_map.mp (List.mem_toFinset.mp member)
  obtain ⟨event, inChosen, rfl⟩ := mem_selected perm selects inRows
  exact Finset.mem_image_of_mem _ (Finset.mem_image_of_mem _ inChosen)

theorem getTopRestaurants_addsUp (perm : facts.Perm (events.toList.map OrderEvent.fact))
    (accepted : parseDateRange newDate fromIso toIso = .ok range) (few : (having events tenantId range .confirmed).card ≤ 2 ^ 53)
    (small : ∑ event ∈ having events tenantId range .confirmed, |event.totalCents| ≤ 2 ^ 53) {limit : Nat}
    (enough : ((withRestaurant (having events tenantId range .confirmed)).image OrderEvent.restaurantId).card ≤ limit) :
    ∃ entries, getTopRestaurants newDate tenantId fromIso toIso limit facts = .ok entries ∧
      AddUpTo (entries.map TopRestaurantEntry.revenueCents) (revenue (withRestaurant (having events tenantId range .confirmed))) ∧
      AddUpTo (entries.map TopRestaurantEntry.orderCount) (withRestaurant (having events tenantId range .confirmed)).card := by
  have selects := @selects_restaurants events tenantId range
  have part : withRestaurant (having events tenantId range .confirmed) ⊆ having events tenantId range .confirmed := Finset.filter_subset _ _
  have few' := (Finset.card_le_card part).trans few
  have small' := (Finset.sum_le_sum_of_subset_of_nonneg part fun event _ _ => abs_nonneg event.totalCents).trans small
  rw [← length_selected perm selects] at few'
  rw [← absolute_selected perm selects] at small'
  have all := (restaurants_le perm selects).trans enough
  refine ⟨_, by rw [getTopRestaurants, range_accepted accepted]; rfl, ?_⟩
  rw [List.take_of_length_le (by rwa [List.length_mergeSort])]
  simp only [List.map_map, Function.comp_def, ← sum_selected perm selects, ← length_selected perm selects]
  exact groups_addUpTo (List.mergeSort_perm _ _) small' few'

end counted

/-- However often its event is delivered, and in whatever order, an order counts
once, and the three queries agree. -/
theorem revenue_counted_once {newDate : String → Option Int} {toDate : Int → Nat} {dateText : Nat → String} {events : Finset OrderEvent}
    {deliveries : List Delivery} {kept : List OrdersFact} {tenantId fromIso toIso : String} {range : DateRange}
    (delivered : Delivered newDate events deliveries)
    (final : Final OrdersFact.key OrdersFact.ingestedAt (ingested newDate deliveries) kept)
    (accepted : parseDateRange newDate fromIso toIso = .ok range)
    (few : ∀ status, (having events tenantId range status).card ≤ 2 ^ 53)
    (small : ∑ event ∈ having events tenantId range .confirmed, |event.totalCents| ≤ 2 ^ 53) :
    (∃ summary, getSummary newDate tenantId fromIso toIso (kept.map OrdersFact.fact) = .ok summary ∧
      summary.confirmedCount.Is (having events tenantId range .confirmed).card ∧
      summary.cancelledCount.Is (having events tenantId range .cancelled).card ∧
      summary.revenueCents.Is (revenue (having events tenantId range .confirmed))) ∧
    (∃ points, getRevenueSeries newDate toDate dateText tenantId fromIso toIso (kept.map OrdersFact.fact) = .ok points ∧
      AddUpTo (points.map RevenueSeriesPoint.revenueCents) (revenue (having events tenantId range .confirmed)) ∧
      AddUpTo (points.map RevenueSeriesPoint.orderCount) (having events tenantId range .confirmed).card) ∧
    ∀ limit, ((withRestaurant (having events tenantId range .confirmed)).image OrderEvent.restaurantId).card ≤ limit →
      ∃ entries, getTopRestaurants newDate tenantId fromIso toIso limit (kept.map OrdersFact.fact) = .ok entries ∧
        AddUpTo (entries.map TopRestaurantEntry.revenueCents) (revenue (withRestaurant (having events tenantId range .confirmed))) ∧
        AddUpTo (entries.map TopRestaurantEntry.orderCount) (withRestaurant (having events tenantId range .confirmed)).card := by
  have perm := delivered.perm final
  refine ⟨getSummary_counts perm accepted few small, getRevenueSeries_addsUp perm accepted (few .confirmed) small, ?_⟩
  intro limit enough
  exact getTopRestaurants_addsUp perm accepted (few .confirmed) small enough

section samples

/-- `Date`, on the texts that `toISOString` writes. -/
def isoDate (text : String) : Option Int := IsoTime.parse text.toList

def OrderEvent.announced (event : OrderEvent) (occurredAt : String) (ingestedAt : Nat) : Delivery where
  envelope :=
    { eventId := event.orderId
      eventType := event.status.eventType
      tenantId := event.tenantId
      correlationId := event.orderId }
  occurredAt
  payload :=
    { orderId := some event.orderId
      userId := some event.userId
      totalCents := some event.totalCents
      restaurantId := event.restaurantId }
  ingestedAt

theorem carries_announced {newDate : String → Option Int} {event : OrderEvent} {occurredAt : String} {ingestedAt : Nat}
    (dated : newDate occurredAt = some event.occurredAt) : Carries newDate (event.announced occurredAt ingestedAt) event :=
  ⟨rfl, rfl, dated, rfl⟩

variable {cents : Int} {count : Nat}

/-- Confirmed orders of one tenant, of equal totals. -/
def equalOrder (cents : Int) (n : Nat) : OrderEvent where
  tenantId := "tenant-1"
  orderId := n.repr
  userId := "user-1"
  restaurantId := none
  status := .confirmed
  totalCents := cents
  occurredAt := 0
  order_named := Nat.repr_ne_empty
  user_named := by decide

theorem equalOrder_injective (cents : Int) : Function.Injective (OrderEvent.order ∘ equalOrder cents) := by
  intro n n' same
  have digits := congrArg String.toList (congrArg Prod.snd same)
  simp only [Function.comp_apply, OrderEvent.order, equalOrder, Nat.toList_repr] at digits
  rw [← @Nat.ofDigitChars_ten_toDigits n, digits, Nat.ofDigitChars_ten_toDigits]

def equalOrders (cents : Int) (count : Nat) : Finset OrderEvent :=
  (Finset.range count).map ⟨equalOrder cents, Function.Injective.of_comp (equalOrder_injective cents)⟩

/-- Each is announced once. -/
def equalDeliveries (cents : Int) (count : Nat) : List Delivery :=
  (List.range count).map fun n => (equalOrder cents n).announced "1970-01-01T00:00:00.000Z" n

theorem delivered_equalOrders : Delivered isoDate (equalOrders cents count) (equalDeliveries cents count) := by
  have dated : isoDate "1970-01-01T00:00:00.000Z" = some 0 := by decide
  refine ⟨?_, ?_, ?_⟩
  · intro event member event' member' same
    obtain ⟨n, -, rfl⟩ := Finset.mem_map.mp member
    obtain ⟨n', -, rfl⟩ := Finset.mem_map.mp member'
    exact congrArg (equalOrder cents) (equalOrder_injective cents same)
  · intro event member
    obtain ⟨n, inRange, rfl⟩ := Finset.mem_map.mp member
    exact ⟨_, List.mem_map_of_mem (List.mem_range.mpr (Finset.mem_range.mp inRange)), carries_announced dated⟩
  · intro delivery member _
    obtain ⟨n, inRange, rfl⟩ := List.mem_map.mp member
    exact ⟨_, Finset.mem_map_of_mem _ (Finset.mem_range.mpr (List.mem_range.mp inRange)), carries_announced dated⟩

theorem having_equalOrders : having (equalOrders cents count) "tenant-1" ⟨0, 0⟩ .confirmed = equalOrders cents count := by
  refine Finset.filter_true_of_mem fun event member => ?_
  obtain ⟨n, -, rfl⟩ := Finset.mem_map.mp member
  exact ⟨rfl, ⟨le_refl 0, le_refl 0⟩, rfl⟩

theorem revenue_equalOrders : revenue (equalOrders cents count) = count * cents := by
  rw [revenue, equalOrders, Finset.sum_map]
  simp [equalOrder]

theorem card_equalOrders : (equalOrders cents count).card = count := by
  rw [equalOrders, Finset.card_map, Finset.card_range]

def keptOf (deliveries : List Delivery) : List OrdersFact :=
  Replacing.final OrdersFact.key OrdersFact.ingestedAt (ingested isoDate deliveries)

theorem accepted_epoch : parseDateRange isoDate "1970-01-01T00:00:00.000Z" "1970-01-01T00:00:00.000Z" = .ok ⟨0, 0⟩ := by decide

theorem getSummary_equalOrders :
    ∃ summary, getSummary isoDate "tenant-1" "1970-01-01T00:00:00.000Z" "1970-01-01T00:00:00.000Z"
        ((keptOf (equalDeliveries cents count)).map OrdersFact.fact) = .ok summary ∧
      summary.revenueCents = number (toString (int64 (count * cents))) ∧ summary.confirmedCount = number (toString count) := by
  have perm := (@delivered_equalOrders cents count).perm (final_spec _)
  have summary := @getSummary_eq isoDate _ _ "tenant-1" _ _ _ perm accepted_epoch
  rw [having_equalOrders, revenue_equalOrders, card_equalOrders] at summary
  refine ⟨_, summary, ?_⟩
  dsimp only
  exact ⟨rfl, rfl⟩

theorem number_not_is {n : Int} (large : 2 ^ 53 < |n|) (odd : ¬ Even n) : ¬ (number (toString n)).Is n := by
  rintro ⟨double, -, value⟩
  exact odd (even_of_mem_grid (value ▸ double.mem) large)

theorem not_revenue {total : Int} (product : count * cents = total) (wraps : int64 total = total) (large : 2 ^ 53 < |total|)
    (odd : ¬ Even total) :
    ∃ summary, getSummary isoDate "tenant-1" "1970-01-01T00:00:00.000Z" "1970-01-01T00:00:00.000Z"
        ((keptOf (equalDeliveries cents count)).map OrdersFact.fact) = .ok summary ∧
      ¬ summary.revenueCents.Is (revenue (having (equalOrders cents count) "tenant-1" ⟨0, 0⟩ .confirmed)) := by
  obtain ⟨summary, shown, revenueCents, -⟩ := @getSummary_equalOrders cents count
  refine ⟨summary, shown, ?_⟩
  rw [having_equalOrders, revenue_equalOrders, revenueCents, product, wraps]
  exact number_not_is large odd

theorem not_count (large : 2 ^ 53 < |(count : Int)|) (odd : ¬ Even (count : Int)) :
    ∃ summary, getSummary isoDate "tenant-1" "1970-01-01T00:00:00.000Z" "1970-01-01T00:00:00.000Z"
        ((keptOf (equalDeliveries cents count)).map OrdersFact.fact) = .ok summary ∧
      ¬ summary.confirmedCount.Is (having (equalOrders cents count) "tenant-1" ⟨0, 0⟩ .confirmed).card := by
  obtain ⟨summary, shown, -, confirmedCount⟩ := @getSummary_equalOrders cents count
  refine ⟨summary, shown, ?_⟩
  rw [having_equalOrders, card_equalOrders, confirmedCount, ← toString_natCast]
  exact_mod_cast number_not_is large odd

/-- The largest totals of more than four million orders add up to a number that
`Number` rounds, and so do more than `2 ^ 53` orders; an event without a user is
refused. -/
theorem revenue_rounded :
    (Delivered isoDate (equalOrders 2147483647 4194305) (equalDeliveries 2147483647 4194305) ∧
      ∃ summary, getSummary isoDate "tenant-1" "1970-01-01T00:00:00.000Z" "1970-01-01T00:00:00.000Z"
          ((keptOf (equalDeliveries 2147483647 4194305)).map OrdersFact.fact) = .ok summary ∧
        ¬ summary.revenueCents.Is (revenue (having (equalOrders 2147483647 4194305) "tenant-1" ⟨0, 0⟩ .confirmed))) ∧
    (Delivered isoDate (equalOrders 0 9007199254740993) (equalDeliveries 0 9007199254740993) ∧
      ∃ summary, getSummary isoDate "tenant-1" "1970-01-01T00:00:00.000Z" "1970-01-01T00:00:00.000Z"
          ((keptOf (equalDeliveries 0 9007199254740993)).map OrdersFact.fact) = .ok summary ∧
        ¬ summary.confirmedCount.Is (having (equalOrders 0 9007199254740993) "tenant-1" ⟨0, 0⟩ .confirmed).card) ∧
    handle isoDate
      { envelope := { eventId := "event-1", eventType := .orderConfirmed, tenantId := "tenant-1", correlationId := "order-1" }
        occurredAt := "1970-01-01T00:00:00.000Z"
        payload := { orderId := some "order-1", userId := some "", totalCents := some 2500, restaurantId := none }
        ingestedAt := 0 } [] = .error "OrderConfirmed missing orderId/userId/totalCents (event event-1)" := by
  have total : ((4194305 : Nat) : Int) * 2147483647 = 9007201398030335 := by norm_num
  have revenue := @not_revenue 2147483647 4194305 _ total (by decide) (by norm_num) (by decide)
  have count := @not_count 0 9007199254740993 (by norm_num) (by decide)
  exact ⟨⟨delivered_equalOrders, revenue⟩, ⟨delivered_equalOrders, count⟩, by decide⟩

def sampleConfirmed : OrderEvent where
  tenantId := "tenant-1"
  orderId := "order-1"
  userId := "user-1"
  restaurantId := some "restaurant-1"
  status := .confirmed
  totalCents := 2500
  occurredAt := 1768471200000
  order_named := by decide
  user_named := by decide

def sampleStraggler : OrderEvent where
  tenantId := "tenant-1"
  orderId := "order-2"
  userId := "user-2"
  restaurantId := none
  status := .confirmed
  totalCents := 1000
  occurredAt := 1768557600000
  order_named := by decide
  user_named := by decide

def sampleCancelled : OrderEvent where
  tenantId := "tenant-1"
  orderId := "order-3"
  userId := "user-3"
  restaurantId := some "restaurant-1"
  status := .cancelled
  totalCents := 500
  occurredAt := 1768471200000
  order_named := by decide
  user_named := by decide

def sampleOrders : Finset OrderEvent := {sampleConfirmed, sampleStraggler, sampleCancelled}

def sampleDeliveries : List Delivery :=
  [sampleConfirmed.announced "2026-01-15T10:00:00.000Z" 1,
    sampleCancelled.announced "2026-01-15T10:00:00.000Z" 2,
    sampleConfirmed.announced "2026-01-15T10:00:00.000Z" 3,
    sampleStraggler.announced "2026-01-16T10:00:00.000Z" 4,
    sampleCancelled.announced "2026-01-15T10:00:00.000Z" 4]

theorem delivered_sample : Delivered isoDate sampleOrders sampleDeliveries := by
  have confirmed (ingestedAt : Nat) : Carries isoDate (sampleConfirmed.announced "2026-01-15T10:00:00.000Z" ingestedAt) sampleConfirmed :=
    carries_announced (by decide)
  have straggler (ingestedAt : Nat) : Carries isoDate (sampleStraggler.announced "2026-01-16T10:00:00.000Z" ingestedAt) sampleStraggler :=
    carries_announced (by decide)
  have cancelled (ingestedAt : Nat) : Carries isoDate (sampleCancelled.announced "2026-01-15T10:00:00.000Z" ingestedAt) sampleCancelled :=
    carries_announced (by decide)
  have apart : ∀ event ∈ sampleOrders, ∀ event' ∈ sampleOrders, event.order = event'.order → event = event' := by decide
  refine ⟨fun event member event' member' => apart event member event' member', ?_, ?_⟩
  · intro event member
    simp only [sampleOrders, Finset.mem_insert, Finset.mem_singleton] at member
    rcases member with rfl | rfl | rfl
    · exact ⟨_, by decide, confirmed 1⟩
    · exact ⟨_, by decide, straggler 4⟩
    · exact ⟨_, by decide, cancelled 2⟩
  · intro delivery member _
    simp only [sampleDeliveries, List.mem_cons, List.not_mem_nil, or_false] at member
    rcases member with rfl | rfl | rfl | rfl | rfl
    · exact ⟨_, by decide, confirmed 1⟩
    · exact ⟨_, by decide, cancelled 2⟩
    · exact ⟨_, by decide, confirmed 3⟩
    · exact ⟨_, by decide, straggler 4⟩
    · exact ⟨_, by decide, cancelled 4⟩

/-- An order announced twice and one with no restaurant, over a month. -/
theorem revenue_counted_once_sample :
    (∃ summary, getSummary isoDate "tenant-1" "2026-01-01T00:00:00.000Z" "2026-01-31T23:59:59.999Z"
        ((keptOf sampleDeliveries).map OrdersFact.fact) = .ok summary ∧
      summary.confirmedCount.Is 2 ∧ summary.cancelledCount.Is 1 ∧ summary.revenueCents.Is 3500) ∧
    (∃ points, getRevenueSeries isoDate (fun ms => (ms / 86400000).toNat)
        (fun day => String.ofList ((IsoTime.toISOString (86400000 * day)).take 10)) "tenant-1" "2026-01-01T00:00:00.000Z"
        "2026-01-31T23:59:59.999Z" ((keptOf sampleDeliveries).map OrdersFact.fact) = .ok points ∧
      AddUpTo (points.map RevenueSeriesPoint.revenueCents) 3500 ∧ AddUpTo (points.map RevenueSeriesPoint.orderCount) 2) ∧
    ∃ entries, getTopRestaurants isoDate "tenant-1" "2026-01-01T00:00:00.000Z" "2026-01-31T23:59:59.999Z" 1
        ((keptOf sampleDeliveries).map OrdersFact.fact) = .ok entries ∧
      AddUpTo (entries.map TopRestaurantEntry.revenueCents) 2500 ∧ AddUpTo (entries.map TopRestaurantEntry.orderCount) 1 := by
  have accepted : parseDateRange isoDate "2026-01-01T00:00:00.000Z" "2026-01-31T23:59:59.999Z" = .ok ⟨1767225600000, 1769903999999⟩ := by
    decide
  have confirmed : having sampleOrders "tenant-1" ⟨1767225600000, 1769903999999⟩ .confirmed = {sampleConfirmed, sampleStraggler} := by
    decide
  have cancelled : having sampleOrders "tenant-1" ⟨1767225600000, 1769903999999⟩ .cancelled = {sampleCancelled} := by decide
  have few (status : OrderFactStatus) : (having sampleOrders "tenant-1" ⟨1767225600000, 1769903999999⟩ status).card ≤ 2 ^ 53 := by
    cases status with
    | confirmed => exact confirmed ▸ by decide
    | cancelled => exact cancelled ▸ by decide
  have small : ∑ event ∈ having sampleOrders "tenant-1" ⟨1767225600000, 1769903999999⟩ .confirmed, |event.totalCents| ≤ 2 ^ 53 :=
    confirmed ▸ by decide
  obtain ⟨summary, series, top⟩ := @revenue_counted_once isoDate (fun ms => (ms / 86400000).toNat)
    (fun day => String.ofList ((IsoTime.toISOString (86400000 * day)).take 10)) _ _ _ _ _ _ _ delivered_sample (final_spec _) accepted few small
  rw [confirmed] at summary series top
  rw [cancelled] at summary
  exact ⟨summary, series, top 1 (by decide)⟩

end samples

end FoodDelivery.Analytics
