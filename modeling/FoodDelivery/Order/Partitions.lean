import Mathlib.Data.Int.Order.Basic
import FoodDelivery.Lib.History
import FoodDelivery.Lib.Months
import FoodDelivery.Lib.RangePartitioned
import FoodDelivery.Messaging.Envelope

namespace FoodDelivery.OrderService.Partitions

open CommitLog

structure MonthPartitionRange where
  partitionName : String
  fromDate : String
  toDateExclusive : String
  deriving DecidableEq, Repr

/-- The month of a `Date`, a number of milliseconds. -/
def utcMonth (date : Nat) : Nat := CivilDate.monthOf (date / 86400000)

/-- `Date.UTC` of the first of a month. -/
def dateUtc (month : Nat) : Nat := (CivilDate.monthStart month).toNat * 86400000

/-- The year and the two digits of the month, for `getUTCFullYear` and
`getUTCMonth` as much as for `to_char(…, 'YYYYMM')`. -/
def yyyyMm (date : CivilDate) : List Char := Nat.toDigits 10 date.year ++ IsoTime.padded 2 date.month

def formatYyyyMm (date : Nat) : List Char := yyyyMm (.ofDays (date / 86400000))

def formatIsoDate (date : Nat) : String := .ofList ((IsoTime.toISOString date).take 10)

def computeMonthPartitionRange (referenceDate : Nat) (monthOffset : Int) : MonthPartitionRange :=
  let start := dateUtc (utcMonth referenceDate + monthOffset).toNat
  let next := dateUtc (utcMonth referenceDate + monthOffset + 1).toNat
  { partitionName := "orders_p" ++ .ofList (formatYyyyMm start)
    fromDate := formatIsoDate start
    toDateExclusive := formatIsoDate next }

/-- A row of `orders`, with its key only. -/
structure OrderRow where
  id : Uuid
  createdAt : Nat
  deriving DecidableEq, Repr

def OrderRow.key (row : OrderRow) : Int := row.createdAt

def OrderRow.month (row : OrderRow) : Nat := CivilDate.monthOf (row.createdAt / 86400000000)

/-- The table `orders`; its times are numbers of microseconds. -/
abbrev OrdersTable := RangePartitioned String Int OrderRow

/-- How the database reads the date of a bound, to which ` 00:00:00+00` is added. -/
def midnight (date : String) : Option Int := do
  let (year, text) ← IsoTime.field 4 date.toList
  let text ← IsoTime.literal '-' text
  let (month, text) ← IsoTime.field 2 text
  let text ← IsoTime.literal '-' text
  let (day, text) ← IsoTime.field 2 text
  if text = [] then some (CivilDate.toDays { year, month, day } * 86400000000) else none

/-- `ensurePartition`: what the statement throws is only logged. -/
def ensurePartition (range : MonthPartitionRange) (table : OrdersTable) : OrdersTable :=
  match midnight range.fromDate, midnight range.toDateExclusive with
  | some lower, some upper =>
    match table.create OrderRow.key { name := range.partitionName, lower, upper } with
    | .ok table => table
    | .error _ => table
  | _, _ => table

def monthOffsets : List Int := [0, 1]

/-- The partition that the migration creates for a month. -/
def monthPartition (month : Nat) : RangePartition String Int where
  name := "orders_p" ++ .ofList (yyyyMm (CivilDate.firstOf month))
  lower := CivilDate.monthStart month * 86400000000
  upper := CivilDate.monthStart (month + 1) * 86400000000

inductive MigrationError
  | create (error : RangePartitioned.CreateError)
  | rowCountMismatch
  deriving DecidableEq, Repr

def startMonth (now : Nat) (orders : List OrderRow) : Nat :=
  CivilDate.monthOf (((orders.map (·.createdAt)).min?.getD now) / 86400000000)

def endMonthExclusive (now : Nat) (orders : List OrderRow) : Nat :=
  CivilDate.monthOf (max ((orders.map (·.createdAt)).max?.getD now) now / 86400000000) + 2

/-- The migration's loop, with the number of months still to go. -/
def createMonths (cur : Nat) : Nat → OrdersTable → Except RangePartitioned.CreateError OrdersTable
  | 0, table => pure table
  | months + 1, table => do
    let table ← table.create OrderRow.key (monthPartition cur)
    createMonths (cur + 1) months table

/-- The statements of the migration, with the months that its block computes. -/
def migrate (startMonth endMonthExclusive : Nat) (orders : List OrderRow) : Except MigrationError OrdersTable :=
  match createMonths startMonth (endMonthExclusive - startMonth) { partitions := [], rows := [] } with
  | .error error => throw (.create error)
  | .ok table =>
    let copied := orders.foldl (RangePartitioned.insert OrderRow.key) table
    if copied.rows.length ≠ orders.length then throw .rowCountMismatch else pure copied

/-- `up` of the migration, in a session whose time zone is UTC. -/
def up (now : Nat) (orders : List OrderRow) : Except MigrationError OrdersTable :=
  migrate (startMonth now orders) (endMonthExclusive now orders) orders

inductive Event
  | ensure (referenceDate : Nat) (monthOffset : Int)
  | insert (row : OrderRow)
  deriving DecidableEq, Repr

/-- The statements of `ensureUpcomingPartitions` of any replica, before the
year 9999, and the inserts of orders. -/
inductive Step : Event → OrdersTable → OrdersTable → Prop
  | ensure {table} (referenceDate : Nat) (monthOffset : Int) : monthOffset ∈ monthOffsets →
      utcMonth referenceDate < 12 * 9999 →
      Step (.ensure referenceDate monthOffset) table
        (ensurePartition (computeMonthPartitionRange referenceDate monthOffset) table)
  | insert {table} (row : OrderRow) : Step (.insert row) table (table.insert OrderRow.key row)

/-- The runs from what a migration left. -/
abbrev Run (now : Nat) (orders : List OrderRow) : List (Commit OrdersTable Event) → OrdersTable → Prop :=
  History (fun table => up now orders = .ok table) fun _ => Step

section months

variable {month : Nat}

theorem monthPartition_proper (after : 12 * 1970 ≤ month) : (monthPartition month).lower < (monthPartition month).upper := by
  have start := @CivilDate.monthStart_lt_succ month (by omega)
  simp only [monthPartition]
  omega

/-- An order goes into the partition of its month. -/
theorem holds_iff (after : 12 * 1970 ≤ month) (row : OrderRow) : (monthPartition month).Holds row.key ↔ row.month = month := by
  have inside := @CivilDate.monthOf_eq_iff (row.createdAt / 86400000000) month (by omega)
  unfold OrderRow.month
  rw [inside]
  simp only [RangePartition.Holds, monthPartition, OrderRow.key]
  omega

theorem not_overlaps {other : Nat} (after : 12 * 1970 ≤ month) (afterToo : 12 * 1970 ≤ other) (different : month ≠ other) :
    ¬ (monthPartition month).Overlaps (monthPartition other) := by
  rintro ⟨left, right⟩
  simp only [monthPartition] at left right
  rcases Nat.lt_or_gt_of_ne different with earlier | later
  · have bound := @CivilDate.monthStart_le (month + 1) other (by omega) earlier
    omega
  · have bound := @CivilDate.monthStart_le (other + 1) month (by omega) later
    omega

/-- The names of two months differ. -/
theorem yyyyMm_inj {other : Nat} (same : yyyyMm (.firstOf month) = yyyyMm (.firstOf other)) : month = other := by
  obtain ⟨years, months⟩ := List.append_inj' same (by rw [IsoTime.length_padded, IsoTime.length_padded])
  have year : month / 12 = other / 12 := by
    rw [← @Nat.ofDigitChars_ten_toDigits (month / 12), ← @Nat.ofDigitChars_ten_toDigits (other / 12)]
    exact congrArg (Nat.ofDigitChars 10 · 0) years
  have two : ∀ n, n % 12 + 1 < 10 ^ 2 := by omega
  have ofYear := congrArg IsoTime.number months
  simp only [CivilDate.firstOf] at ofYear
  rw [IsoTime.number_padded (two month), IsoTime.number_padded (two other), Option.some.injEq] at ofYear
  omega

theorem name_inj {other : Nat} (same : (monthPartition month).name = (monthPartition other).name) : month = other := by
  have texts := congrArg String.toList same
  simp only [monthPartition, String.toList_append, String.toList_ofList] at texts
  exact yyyyMm_inj (List.append_cancel_left texts)

theorem formatYyyyMm_dateUtc (after : 12 * 1970 ≤ month) : formatYyyyMm (dateUtc month) = yyyyMm (.firstOf month) := by
  rw [formatYyyyMm, dateUtc, Nat.mul_div_cancel _ (by omega), CivilDate.ofDays_monthStart after]

/-- The database reads from the text of a month's first day when it begins. -/
theorem midnight_formatIsoDate (after : 12 * 1970 ≤ month) (before : month < 12 * 10000) :
    midnight (formatIsoDate (dateUtc month)) = some (CivilDate.monthStart month * 86400000000) := by
  have days : dateUtc month / 1000 / 86400 = (CivilDate.monthStart month).toNat := by
    unfold dateUtc
    omega
  have date : (IsoTime.Clock.ofSeconds (dateUtc month / 1000)).toCivilDate = .firstOf month := by
    rw [IsoTime.Clock.ofSeconds, days, CivilDate.ofDays_monthStart after]
  have text : formatIsoDate (dateUtc month) = .ofList (IsoTime.padded 4 (month / 12) ++ '-' :: (IsoTime.padded 2 (month % 12 + 1) ++
      '-' :: IsoTime.padded 2 1)) := by
    rw [formatIsoDate, IsoTime.toISOString, IsoTime.Clock.text, date]
    -- ten characters of known lengths
    rfl
  have year : month / 12 < 10 ^ 4 := by omega
  have ofYear : month % 12 + 1 < 10 ^ 2 := by omega
  have one := IsoTime.field_padded (show 1 < 10 ^ 2 by omega) []
  rw [List.append_nil] at one
  simp only [midnight, text, String.toList_ofList, bind, IsoTime.field_padded year, IsoTime.field_padded ofYear, IsoTime.literal_cons,
    one, Option.bind_some, if_true]
  rfl

/-- What the service asks for is the partition that the migration would create. -/
theorem compute_eq {referenceDate : Nat} {monthOffset : Int} (start : utcMonth referenceDate + monthOffset = month)
    (after : 12 * 1970 ≤ month) (before : month < 12 * 9999 + 11) :
    (computeMonthPartitionRange referenceDate monthOffset).partitionName = (monthPartition month).name ∧
      midnight (computeMonthPartitionRange referenceDate monthOffset).fromDate = some (monthPartition month).lower ∧
      midnight (computeMonthPartitionRange referenceDate monthOffset).toDateExclusive = some (monthPartition month).upper := by
  have first : (utcMonth referenceDate + monthOffset).toNat = month := by omega
  have next : (utcMonth referenceDate + monthOffset + 1).toNat = month + 1 := by omega
  simp only [computeMonthPartitionRange, first, next, formatYyyyMm_dateUtc after]
  exact ⟨rfl, midnight_formatIsoDate after (by omega), midnight_formatIsoDate (by omega) (by omega)⟩

end months

/-- The partitions are those of months. -/
structure Monthly (table : OrdersTable) : Prop where
  formed : table.WellFormed OrderRow.key
  months : ∀ partition ∈ table.partitions, ∃ month, 12 * 1970 ≤ month ∧ partition = monthPartition month

def Created (table : OrdersTable) (month : Nat) : Prop := monthPartition month ∈ table.partitions

def HasOrder (table : OrdersTable) (month : Nat) : Prop := ∃ row ∈ table.rows, row.2.month = month

section create

variable {table table' : OrdersTable} {month : Nat}

theorem Monthly.empty : Monthly ⟨[], []⟩ where
  formed := .empty
  months _ member := absurd member List.not_mem_nil

theorem Monthly.insert (monthly : Monthly table) (row : OrderRow) : Monthly (table.insert OrderRow.key row) where
  formed := monthly.formed.insert row
  months := monthly.months

/-- An order stands in the partition of its month, where there is one. -/
theorem Monthly.placed (monthly : Monthly table) {row : Option String × OrderRow} (member : row ∈ table.rows) :
    (Created table row.2.month → row.1 = some (monthPartition row.2.month).name) ∧ (¬ Created table row.2.month → row.1 = none) := by
  have own := (holds_iff (CivilDate.epoch_le_monthOf _) row.2).mpr rfl
  rw [monthly.formed.routed row member]
  refine ⟨fun created => monthly.formed.route_eq created own, fun missing => RangePartitioned.route_none ?_⟩
  intro partition memberToo holds
  obtain ⟨month, after, rfl⟩ := monthly.months partition memberToo
  rw [holds_iff after] at holds
  exact missing (holds ▸ memberToo)

/-- The statement for a month's partition creates it unless an order of the
month stands in the default partition. -/
theorem Monthly.create (monthly : Monthly table) (after : 12 * 1970 ≤ month) :
    (Created table month → table.create OrderRow.key (monthPartition month) = .ok table) ∧
      (¬ Created table month → HasOrder table month →
        table.create OrderRow.key (monthPartition month) = .error .defaultConstraint) ∧
      (¬ Created table month → ¬ HasOrder table month →
        table.create OrderRow.key (monthPartition month) =
          .ok { table with partitions := table.partitions ++ [monthPartition month] }) := by
  have named : (∃ other ∈ table.partitions, other.name = (monthPartition month).name) ↔ Created table month := by
    constructor
    · rintro ⟨other, member, same⟩
      obtain ⟨month', -, rfl⟩ := monthly.months other member
      exact name_inj same ▸ member
    · exact fun created => ⟨_, created, rfl⟩
  have apart (missing : ¬ Created table month) : ¬ ∃ other ∈ table.partitions, (monthPartition month).Overlaps other := by
    rintro ⟨other, member, overlaps⟩
    obtain ⟨month', afterToo, rfl⟩ := monthly.months other member
    exact not_overlaps after afterToo (fun same => missing (same ▸ member)) overlaps
  have unplaced (missing : ¬ Created table month) :
      (∃ row ∈ table.rows, row.1 = none ∧ (monthPartition month).Holds row.2.key) ↔ HasOrder table month := by
    constructor
    · rintro ⟨row, member, -, holds⟩
      exact ⟨row, member, (holds_iff after row.2).mp holds⟩
    · rintro ⟨row, member, rfl⟩
      exact ⟨row, member, (monthly.placed member).2 missing, (holds_iff after row.2).mpr rfl⟩
  unfold RangePartitioned.create
  refine ⟨fun created => if_pos (named.mpr created), fun missing ordered => ?_, fun missing free => ?_⟩
  · rw [if_neg (missing ∘ named.mp), if_neg (not_not.mpr (monthPartition_proper after)), if_neg (apart missing),
      if_pos ((unplaced missing).mpr ordered)]
    rfl
  · rw [if_neg (missing ∘ named.mp), if_neg (not_not.mpr (monthPartition_proper after)), if_neg (apart missing),
      if_neg (free ∘ (unplaced missing).mp)]
    rfl

theorem Monthly.of_create (monthly : Monthly table) (after : 12 * 1970 ≤ month)
    (run : table.create OrderRow.key (monthPartition month) = .ok table') : Monthly table' where
  formed := monthly.formed.create run
  months partition member := by
    rcases RangePartitioned.create_ok run with ⟨-, rfl⟩ | ⟨-, -, -, -, rfl⟩
    · exact monthly.months partition member
    · rcases List.mem_append.mp member with old | new
      · exact monthly.months partition old
      · exact ⟨month, after, List.mem_singleton.mp new⟩

theorem ensurePartition_of {range : MonthPartitionRange} {partition : RangePartition String Int}
    (name : range.partitionName = partition.name) (lower : midnight range.fromDate = some partition.lower)
    (upper : midnight range.toDateExclusive = some partition.upper) :
    ensurePartition range table = (table.create OrderRow.key partition).toOption.getD table := by
  simp only [ensurePartition, name, lower, upper]
  cases table.create OrderRow.key partition <;> rfl

/-- What the service's statement for a month leaves. -/
theorem ensurePartition_eq {referenceDate : Nat} {monthOffset : Int} (start : utcMonth referenceDate + monthOffset = month)
    (after : 12 * 1970 ≤ month) (before : month < 12 * 9999 + 11) :
    ensurePartition (computeMonthPartitionRange referenceDate monthOffset) table =
      (table.create OrderRow.key (monthPartition month)).toOption.getD table := by
  obtain ⟨name, lower, upper⟩ := compute_eq start after before
  exact ensurePartition_of name lower upper

/-- The statement adds at most the month's partition, and that while the month
has no order. -/
theorem Monthly.ensure (monthly : Monthly table) (after : 12 * 1970 ≤ month)
    (run : table' = (table.create OrderRow.key (monthPartition month)).toOption.getD table) :
    Monthly table' ∧ table'.rows = table.rows ∧
      ∀ other, Created table' other ↔ Created table other ∨ other = month ∧ ¬ HasOrder table month := by
  obtain ⟨again, late, first⟩ := monthly.create after
  by_cases created : Created table month
  · rw [again created] at run
    cases run
    refine ⟨monthly, rfl, fun other => ⟨Or.inl, ?_⟩⟩
    rintro (old | ⟨rfl, -⟩)
    · exact old
    · exact created
  · by_cases ordered : HasOrder table month
    · rw [late created ordered] at run
      cases run
      refine ⟨monthly, rfl, fun other => ⟨Or.inl, ?_⟩⟩
      rintro (old | ⟨-, free⟩)
      · exact old
      · exact absurd ordered free
    · have ok := first created ordered
      rw [ok] at run
      cases run
      refine ⟨monthly.of_create after ok, rfl, fun other => ?_⟩
      unfold Created
      constructor
      · intro member
        rcases List.mem_append.mp member with old | new
        · exact Or.inl old
        · exact Or.inr ⟨name_inj (congrArg _ (List.mem_singleton.mp new)), ordered⟩
      · rintro (old | ⟨rfl, -⟩)
        · exact List.mem_append_left _ old
        · exact List.mem_append_right _ (List.mem_singleton_self _)

end create

section migration

variable {table table' : OrdersTable} {cur months : Nat}

theorem createMonths_ok (monthly : Monthly table) (free : table.rows = []) (after : 12 * 1970 ≤ cur) :
    ∃ table', createMonths cur months table = .ok table' ∧ Monthly table' ∧ table'.rows = [] ∧
      ∀ month, Created table' month ↔ Created table month ∨ cur ≤ month ∧ month < cur + months := by
  induction months generalizing table cur with
  | zero =>
    refine ⟨table, rfl, monthly, free, fun month => ⟨Or.inl, ?_⟩⟩
    rintro (old | ⟨lower, upper⟩)
    · exact old
    · omega
  | succ months ih =>
    obtain ⟨next, ok⟩ : ∃ next, table.create OrderRow.key (monthPartition cur) = .ok next := by
      have none : ¬ HasOrder table cur := by
        rintro ⟨row, member, -⟩
        rw [free] at member
        cases member
      obtain ⟨again, -, first⟩ := monthly.create after
      by_cases created : Created table cur
      · exact ⟨table, again created⟩
      · exact ⟨_, first created none⟩
    obtain ⟨kept, same, created⟩ := @Monthly.ensure _ next _ monthly after (by rw [ok]; rfl)
    obtain ⟨last, run, monthly', free', all⟩ := ih kept (same.trans free) (show 12 * 1970 ≤ cur + 1 by omega)
    refine ⟨last, ?_, monthly', free', fun month => ?_⟩
    · rw [createMonths, ok]
      exact run
    · have none : ¬ HasOrder table cur := by
        rintro ⟨row, member, -⟩
        rw [free] at member
        cases member
      rw [all, created]
      have range : month = cur ∨ cur + 1 ≤ month ∧ month < cur + 1 + months ↔ cur ≤ month ∧ month < cur + (months + 1) := by omega
      rw [← range]
      tauto

theorem foldl_insert (orders : List OrderRow) (table : OrdersTable) :
    let copied := orders.foldl (RangePartitioned.insert OrderRow.key) table
    copied.partitions = table.partitions ∧ copied.rows.map (·.2) = table.rows.map (·.2) ++ orders ∧ (Monthly table → Monthly copied) := by
  induction orders generalizing table with
  | nil => exact ⟨rfl, (List.append_nil _).symm, id⟩
  | cons row orders ih =>
    obtain ⟨partitions, rows, monthly⟩ := ih (table.insert OrderRow.key row)
    refine ⟨partitions, rows.trans ?_, fun before => monthly (before.insert row)⟩
    simp [RangePartitioned.insert]

theorem migrate_ok {first last : Nat} (after : 12 * 1970 ≤ first) (orders : List OrderRow) :
    ∃ table, migrate first last orders = .ok table ∧ Monthly table ∧ table.rows.map (·.2) = orders ∧
      ∀ month, Created table month ↔ first ≤ month ∧ month < last := by
  obtain ⟨table, run, monthly, free, created⟩ := @createMonths_ok ⟨[], []⟩ first (last - first) .empty rfl after
  obtain ⟨partitions, rows, kept⟩ := foldl_insert orders table
  rw [free, List.map_nil, List.nil_append] at rows
  have complete : (orders.foldl (RangePartitioned.insert OrderRow.key) table).rows.length = orders.length := by
    rw [← List.length_map (·.2), rows]
  refine ⟨orders.foldl (RangePartitioned.insert OrderRow.key) table, ?_, kept monthly, rows, fun month => ?_⟩
  · rw [migrate, run]
    exact if_neg (not_not.mpr complete)
  · have none : ¬ Created ⟨[], []⟩ month := List.not_mem_nil
    rw [Created, partitions]
    refine (created month).trans ?_
    rw [or_iff_right none]
    omega

def Migrated (now : Nat) (orders : List OrderRow) (month : Nat) : Prop :=
  startMonth now orders ≤ month ∧ month < endMonthExclusive now orders

/-- The migration never fails. -/
theorem up_ok (now : Nat) (orders : List OrderRow) : ∃ table, up now orders = .ok table ∧ Monthly table ∧
    table.rows.map (·.2) = orders ∧ ∀ month, Created table month ↔ Migrated now orders month :=
  migrate_ok (CivilDate.epoch_le_monthOf _) orders

end migration

section run

variable {now : Nat} {orders : List OrderRow} {log : List (Commit OrdersTable Event)} {table table' : OrdersTable} {month : Nat}

/-- The month for which an event ensures the partition. -/
def Event.Ensures (event : Event) (month : Nat) : Prop :=
  ∃ referenceDate monthOffset, event = .ensure referenceDate monthOffset ∧ utcMonth referenceDate + monthOffset = month

def Event.row? : Event → Option OrderRow
  | .insert row => some row
  | .ensure .. => none

/-- The orders that were inserted, the first one first. -/
def inserted (log : List (Commit OrdersTable Event)) : List OrderRow := log.reverse.filterMap fun c => c.act.row?

def Ordered (log : List (Commit OrdersTable Event)) (month : Nat) : Prop := ∃ row ∈ inserted log, row.month = month

/-- A month's partition was ensured before the month had an order. -/
def EnsuredFirst (log : List (Commit OrdersTable Event)) (month : Nat) : Prop :=
  ∃ later earlier, log = later ++ earlier ∧ (∃ c ∈ earlier, c.act.Ensures month) ∧ ¬ Ordered earlier month

theorem inserted_cons (c : Commit OrdersTable Event) : inserted (c :: log) = inserted log ++ c.act.row?.toList := by
  rw [inserted, List.reverse_cons, List.filterMap_append]
  cases row : c.act.row? <;> simp [inserted, row]

theorem not_ensuredFirst_nil : ¬ EnsuredFirst [] month := by
  rintro ⟨later, earlier, split, ⟨c, member, -⟩, -⟩
  cases (List.append_eq_nil_iff.mp split.symm).2
  cases member

theorem ensuredFirst_cons {c : Commit OrdersTable Event} : EnsuredFirst (c :: log) month ↔
    EnsuredFirst log month ∨ c.act.Ensures month ∧ ¬ Ordered log month := by
  constructor
  · rintro ⟨later, earlier, split, ⟨e, member, ensures⟩, unordered⟩
    cases later with
    | nil =>
      cases split
      have before : ¬ Ordered log month := by
        rintro ⟨row, old, same⟩
        exact unordered ⟨row, by rw [inserted_cons]; exact List.mem_append_left _ old, same⟩
      rcases List.mem_cons.mp member with rfl | old
      · exact Or.inr ⟨ensures, before⟩
      · exact Or.inl ⟨[], log, rfl, ⟨e, old, ensures⟩, before⟩
    | cons _ later =>
      cases split
      exact Or.inl ⟨later, earlier, rfl, ⟨e, member, ensures⟩, unordered⟩
  · rintro (⟨later, earlier, rfl, ensured, unordered⟩ | ⟨ensures, unordered⟩)
    · exact ⟨c :: later, earlier, rfl, ensured, unordered⟩
    · refine ⟨[], c :: log, rfl, ⟨c, List.mem_cons_self .., ensures⟩, ?_⟩
      obtain ⟨referenceDate, monthOffset, same, -⟩ := ensures
      unfold Ordered at unordered ⊢
      rw [inserted_cons, same]
      simpa [Event.row?] using unordered

/-- What every run keeps: all orders, and a partition for each month that the
migration made or that was ensured before its first order. -/
structure Stored (now : Nat) (orders : List OrderRow) (log : List (Commit OrdersTable Event)) (table : OrdersTable) : Prop where
  monthly : Monthly table
  rows : table.rows.map (·.2) = orders ++ inserted log
  created : ∀ month, Created table month ↔ Migrated now orders month ∨ EnsuredFirst log month

/-- The months of the migrated orders were migrated. -/
theorem migrated_of_mem {row : OrderRow} (member : row ∈ orders) : Migrated now orders row.month := by
  have time : row.createdAt ∈ orders.map (·.createdAt) := List.mem_map_of_mem member
  have least := @List.min?_getD_le_of_mem _ _ now time
  have greatest := Nat.le_trans (@List.le_max?_getD_of_mem _ _ now time) (Nat.le_max_left _ now)
  have first := CivilDate.monthOf_mono (Nat.div_le_div_right least (c := 86400000000))
  have last := CivilDate.monthOf_mono (Nat.div_le_div_right greatest (c := 86400000000))
  exact ⟨first, Nat.lt_add_right 1 (Nat.lt_succ_of_le last)⟩

theorem Stored.hasOrder (stored : Stored now orders log table) (apart : ¬ Migrated now orders month) :
    HasOrder table month ↔ Ordered log month := by
  have all : HasOrder table month ↔ ∃ row ∈ orders ++ inserted log, row.month = month := by
    rw [← stored.rows]
    constructor
    · rintro ⟨row, member, same⟩
      exact ⟨row.2, List.mem_map_of_mem member, same⟩
    · rintro ⟨_, member, same⟩
      obtain ⟨row, found, rfl⟩ := List.mem_map.mp member
      exact ⟨row, found, same⟩
  rw [all]
  constructor
  · rintro ⟨row, member, rfl⟩
    rcases List.mem_append.mp member with old | new
    · exact absurd (migrated_of_mem old) apart
    · exact ⟨row, new, rfl⟩
  · rintro ⟨row, member, rfl⟩
    exact ⟨row, List.mem_append_right _ member, rfl⟩

theorem Event.ensures_iff {referenceDate : Nat} {monthOffset : Int} (start : utcMonth referenceDate + monthOffset = month)
    (other : Nat) : (Event.ensure referenceDate monthOffset).Ensures other ↔ other = month := by
  constructor
  · rintro ⟨_, _, same, start'⟩
    cases same
    exact Int.ofNat_inj.mp (start'.symm.trans start)
  · rintro rfl
    exact ⟨referenceDate, monthOffset, rfl, start⟩

/-- The month of a statement of the service. -/
theorem exists_month {referenceDate : Nat} {monthOffset : Int} (known : monthOffset ∈ monthOffsets)
    (before : utcMonth referenceDate < 12 * 9999) :
    ∃ month : Nat, utcMonth referenceDate + monthOffset = month ∧ 12 * 1970 ≤ month ∧ month < 12 * 9999 + 11 := by
  have epoch : 12 * 1970 ≤ utcMonth referenceDate := CivilDate.epoch_le_monthOf _
  simp only [monthOffsets, List.mem_cons, List.not_mem_nil, or_false] at known
  generalize utcMonth referenceDate = month at *
  rcases known with rfl | rfl
  · exact ⟨month, by omega⟩
  · exact ⟨month + 1, by omega⟩

theorem Stored.step {event : Event} (stored : Stored now orders log table) (step : Step event table table') :
    Stored now orders (⟨table, event, table'⟩ :: log) table' := by
  have ⟨monthly, rows, created⟩ := stored
  cases step with
  | ensure referenceDate monthOffset known before =>
    obtain ⟨month, start, after, early⟩ := exists_month known before
    obtain ⟨kept, same, all⟩ := monthly.ensure after (ensurePartition_eq start after early)
    generalize ensurePartition (computeMonthPartitionRange referenceDate monthOffset) table = table' at *
    refine ⟨kept, ?_, fun other => ?_⟩
    · rw [same, rows, inserted_cons]
      simp [Event.row?]
    · rw [all, created, ensuredFirst_cons, Event.ensures_iff start, or_assoc]
      by_cases migrated : Migrated now orders other
      · exact iff_of_true (Or.inl migrated) (Or.inl migrated)
      · refine or_congr_right (or_congr_right (and_congr_right fun here => ?_))
        rw [here, stored.hasOrder (here ▸ migrated)]
  | insert row =>
    refine ⟨monthly.insert row, ?_, fun month => ?_⟩
    · rw [inserted_cons, ← List.append_assoc, ← rows]
      simp [RangePartitioned.insert, Event.row?]
    · rw [ensuredFirst_cons]
      refine (created month).trans ?_
      have other : ¬ (Event.insert row).Ensures month := by
        rintro ⟨_, _, same, -⟩
        cases same
      tauto

theorem Run.stored (run : Run now orders log table) : Stored now orders log table := by
  induction run with
  | start migrated =>
    obtain ⟨first, ok, monthly, rows, created⟩ := up_ok now orders
    cases ok.symm.trans migrated
    refine ⟨monthly, rows.trans (List.append_nil _).symm, fun month => (created month).trans ?_⟩
    rw [or_iff_left not_ensuredFirst_nil]
  | commit _ step ih => exact ih.step step

theorem ensurePartition_rows (range : MonthPartitionRange) : (ensurePartition range table).rows = table.rows := by
  unfold ensurePartition
  split
  · split
    · next created => exact RangePartitioned.create_rows created
    · rfl
  · rfl

theorem Step.rows_prefix {event : Event} (step : Step event table table') : table.rows <+: table'.rows := by
  cases step with
  | ensure referenceDate monthOffset => exact ⟨[], by rw [ensurePartition_rows, List.append_nil]⟩
  | insert row => exact List.prefix_append ..

theorem Run.rows_prefix (run : Run now orders log table) (earlier : OrdersTable) (seen : Seen log table earlier) :
    earlier.rows <+: table.rows :=
  run.seen_le (R := fun p s => p.rows <+: s.rows) (fun _ => List.prefix_rfl) (fun _ _ _ => List.IsPrefix.trans)
    (fun _ _ _ _ _ _ step => step.rows_prefix) earlier seen

/-- The service ensures September only after the first order of September. -/
theorem lateSeptember : ∃ log table, Run 1753748200000000 [] log table ∧
    (∃ c ∈ log, c.act.Ensures (12 * 2025 + 8)) ∧ inserted log = [⟨"o1", 1756800000000000⟩] ∧
    ¬ (Migrated 1753748200000000 [] (12 * 2025 + 8) ∨ EnsuredFirst log (12 * 2025 + 8)) := by
  obtain ⟨first, ok, -⟩ := up_ok 1753748200000000 []
  have start : Run 1753748200000000 [] [] first := .start ok
  have ordered := start.commit (.insert ⟨"o1", 1756800000000000⟩)
  have ensured := ordered.commit (.ensure 1757000000000 0 (by decide) (by decide))
  have september : (Event.ensure 1757000000000 0).Ensures (12 * 2025 + 8) := ⟨_, _, rfl, by decide⟩
  refine ⟨_, _, ensured, ⟨_, List.mem_cons_self .., september⟩, rfl, ?_⟩
  rintro (⟨-, migrated⟩ | first)
  · revert migrated
    decide
  · rcases ensuredFirst_cons.mp first with before | ⟨-, none⟩
    · rcases ensuredFirst_cons.mp before with never | ⟨⟨_, _, same, -⟩, -⟩
      · exact not_ensuredFirst_nil never
      · cases same
    · exact none ⟨_, List.mem_singleton_self _, by decide⟩

end run

end FoodDelivery.OrderService.Partitions
