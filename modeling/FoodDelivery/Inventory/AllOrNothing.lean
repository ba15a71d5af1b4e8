import FoodDelivery.Inventory.Conservation
import FoodDelivery.Inventory.OneRequest

namespace FoodDelivery.InventoryService

open Messaging

/-- How much of an item is asked for, over all lines. -/
def total (items : List ItemQty) (itemId : Uuid) : Int :=
  ((items.filter fun item => item.itemId = itemId).map (·.qty)).sum

def Positive (items : List ItemQty) : Prop := ∀ item ∈ items, 0 < item.qty

def SameTotals (items items' : List ItemQty) : Prop := ∀ itemId, total items itemId = total items' itemId

section totals

variable {items items' : List ItemQty}

theorem total_cons (item : ItemQty) (items : List ItemQty) (itemId : Uuid) :
    total (item :: items) itemId = (if item.itemId = itemId then item.qty else 0) + total items itemId := by
  by_cases same : item.itemId = itemId
  · simp [total, same]
  · simp [total, same]

theorem total_perm (same : items.Perm items') (itemId : Uuid) : total items itemId = total items' itemId :=
  ((same.filter _).map _).sum_eq

theorem Positive.tail {item : ItemQty} (positive : Positive (item :: items)) : Positive items :=
  fun other member => positive other (List.mem_cons_of_mem _ member)

theorem Positive.total_nonneg (positive : Positive items) (itemId : Uuid) : 0 ≤ total items itemId := by
  induction items with
  | nil => exact le_refl 0
  | cons item rest ih =>
    have head := positive item (List.mem_cons_self ..)
    have tail := ih positive.tail
    rw [total_cons]
    split <;> omega

theorem Positive.total_pos_iff (positive : Positive items) {itemId : Uuid} :
    0 < total items itemId ↔ itemId ∈ items.map (·.itemId) := by
  induction items with
  | nil => simp [total]
  | cons item rest ih =>
    have head := positive item (List.mem_cons_self ..)
    have tail := positive.tail.total_nonneg itemId
    rw [total_cons, List.map_cons, List.mem_cons, ← ih positive.tail]
    by_cases same : item.itemId = itemId
    · simp only [same, if_true, true_or, iff_true]
      omega
    · simp only [same, if_false, zero_add, Ne.symm same, false_or]

theorem total_addQty (item : ItemQty) (byItem : List ItemQty) (itemId : Uuid) :
    total (addQty item byItem) itemId = total byItem itemId + total [item] itemId := by
  induction byItem with
  | nil => simp [addQty, total]
  | cons known rest ih =>
    rw [addQty]
    split
    · rename_i same
      rw [total_cons, total_cons, total_cons]
      by_cases mine : known.itemId = itemId
      · simp [same, mine, total, add_assoc, add_comm]
      · simp [same, mine, total]
    · rw [total_cons, ih, total_cons known, add_assoc]

theorem sumByItem_total {byItem result : List ItemQty} (run : sumByItem byItem items = .ok result) (itemId : Uuid) :
    total result itemId = total byItem itemId + total items itemId := by
  induction items generalizing byItem with
  | nil =>
    cases Except.ok.inj run
    simp [total]
  | cons item rest ih =>
    rw [sumByItem, Except.reject_ok] at run
    rw [ih run.2, total_addQty, total_cons, total_cons, add_assoc]
    simp [total]

theorem sumByItem_positive (positive : Positive items) (byItem : List ItemQty) : ∃ result, sumByItem byItem items = .ok result := by
  induction items generalizing byItem with
  | nil => exact ⟨byItem, rfl⟩
  | cons item rest ih =>
    obtain ⟨result, run⟩ := ih positive.tail (addQty item byItem)
    refine ⟨result, ?_⟩
    rw [sumByItem, if_neg (not_le.mpr (positive item (List.mem_cons_self ..))), run]

/-- Normalising keeps the totals. -/
theorem normalizeItems_total {normal : List ItemQty} (run : normalizeItems items = .ok normal) (itemId : Uuid) :
    total normal itemId = total items itemId := by
  rw [normalizeItems, Except.reject_ok, Except.bind_ok] at run
  obtain ⟨-, byItem, sums, sorted⟩ := run
  cases Except.pure_ok.mp sorted
  rw [total_perm (List.perm_insertionSort ..), sumByItem_total sums]
  simp [total]

/-- An entry of a normalised list is the total of its item. -/
theorem Normal.total_of_mem {normal : List ItemQty} (isNormal : Normal normal) {item : ItemQty} (member : item ∈ normal) :
    total normal item.itemId = item.qty := by
  induction normal with
  | nil => cases member
  | cons first rest ih =>
    obtain ⟨apart, distinct⟩ := List.nodup_cons.mp isNormal.distinct
    have isNormal' : Normal rest := ⟨distinct, fun other member => isNormal.positive other (List.mem_cons_of_mem _ member)⟩
    have positive : Positive rest := isNormal'.positive
    rw [total_cons]
    rcases List.mem_cons.mp member with rfl | later
    · have none : ¬ 0 < total rest item.itemId := fun some => apart (positive.total_pos_iff.mp some)
      have nonneg := positive.total_nonneg item.itemId
      rw [if_pos rfl]
      omega
    · have other : first.itemId ≠ item.itemId := by
        intro same
        exact apart (List.mem_map.mpr ⟨item, later, same.symm⟩)
      rw [if_neg other, zero_add, ih isNormal' later]

theorem Normal.mem_iff {normal : List ItemQty} (isNormal : Normal normal) {item : ItemQty} :
    item ∈ normal ↔ 0 < item.qty ∧ item.qty = total normal item.itemId := by
  have positive : Positive normal := isNormal.positive
  constructor
  · exact fun member => ⟨positive item member, (isNormal.total_of_mem member).symm⟩
  · rintro ⟨some, qty⟩
    obtain ⟨other, member, same⟩ := List.mem_map.mp (positive.total_pos_iff.mp (qty ▸ some))
    have sameQty : other.qty = item.qty := by rw [qty, ← same, isNormal.total_of_mem member]
    have equal : other = item := by
      cases other
      cases item
      cases same
      cases sameQty
      rfl
    exact equal ▸ member

theorem Normal.nodup {normal : List ItemQty} (isNormal : Normal normal) : normal.Nodup := isNormal.distinct.of_map _

/-- Normalised lists are told apart by their totals. -/
theorem Normal.perm_iff {normal normal' : List ItemQty} (isNormal : Normal normal) (isNormal' : Normal normal') :
    normal.Perm normal' ↔ SameTotals normal normal' := by
  refine ⟨fun same itemId => total_perm same itemId, fun same => ?_⟩
  refine (List.perm_ext_iff_of_nodup isNormal.nodup isNormal'.nodup).mpr fun item => ?_
  rw [isNormal.mem_iff, isNormal'.mem_iff, same item.itemId]

theorem normalizeItems_sorted {normal : List ItemQty} (run : normalizeItems items = .ok normal) :
    normal.Pairwise fun a b => a.itemId ≤ b.itemId := by
  rw [normalizeItems, Except.reject_ok, Except.bind_ok] at run
  obtain ⟨-, byItem, -, sorted⟩ := run
  cases Except.pure_ok.mp sorted
  exact List.pairwise_insertionSort _ byItem

theorem normalizeItems_positive (positive : Positive items) (some : items ≠ []) : ∃ normal, normalizeItems items = .ok normal := by
  obtain ⟨byItem, sums⟩ := sumByItem_positive positive []
  refine ⟨byItem.insertionSort fun a b => a.itemId ≤ b.itemId, ?_⟩
  rw [normalizeItems, if_neg (mt List.length_eq_zero_iff.mp some), sums]
  rfl

/-- Lists with the same totals normalise to the same list. -/
theorem normalizeItems_congr (positive : Positive items) (positive' : Positive items') (same : SameTotals items items') :
    normalizeItems items = normalizeItems items' := by
  have empty (items items' : List ItemQty) (positive' : Positive items') (same : SameTotals items items') (none : items = []) :
      items' = [] := by
    subst none
    refine List.eq_nil_iff_forall_not_mem.mpr fun item member => ?_
    have some := positive'.total_pos_iff.mpr (List.mem_map_of_mem member)
    rw [← same item.itemId] at some
    exact absurd some (lt_irrefl 0)
  by_cases none : items = []
  · rw [none, empty items items' positive' same none]
  · have some' : items' ≠ [] := fun none' => none (empty items' items positive (fun itemId => (same itemId).symm) none')
    obtain ⟨normal, run⟩ := normalizeItems_positive positive none
    obtain ⟨normal', run'⟩ := normalizeItems_positive positive' some'
    have perm : normal.Perm normal' := by
      refine ((normalizeItems_normal run).perm_iff (normalizeItems_normal run')).mpr fun itemId => ?_
      rw [normalizeItems_total run, normalizeItems_total run', same itemId]
    have equal : normal = normal' := by
      refine perm.eq_of_pairwise ?_ (normalizeItems_sorted run) (normalizeItems_sorted run')
      intro a b member member' before after
      exact List.inj_on_of_nodup_map (normalizeItems_normal run).distinct member (perm.mem_iff.mpr member')
        (String.le_antisymm before after)
    rw [run, run', equal]

end totals

/-- What a request for items asks of a stock row. -/
def asked (tenantId : Uuid) (items : List ItemQty) (key : StockKey) : Int :=
  if key.tenantId = tenantId then total items key.itemId else 0

theorem asked_cons (tenantId : Uuid) (item : ItemQty) (items : List ItemQty) (key : StockKey) :
    asked tenantId (item :: items) key =
      (if key = { tenantId, itemId := item.itemId } then item.qty else 0) + asked tenantId items key := by
  obtain ⟨owner, itemId⟩ := key
  by_cases mine : owner = tenantId
  · simp [asked, mine, total_cons, eq_comm]
  · simp [asked, mine]

namespace Inventory

/-- Taking items takes their totals. -/
theorem takeEach_stock (tenantId orderId : Uuid) (ids : Nat → Uuid) (items : List ItemQty) (inventory : Inventory)
    (key : StockKey) : (inventory.takeEach tenantId orderId ids items).stock.find key =
      (inventory.stock.find key).map fun row => { row with available := row.available - asked tenantId items key } := by
  induction items generalizing ids inventory with
  | nil => simp [takeEach, asked, total]
  | cons item rest ih =>
    rw [takeEach, ih, take, apply_stock, apply_stock, asked_cons]
    simp only [stockAfter]
    split
    · rw [Option.map_map]
      congr 1
      funext row
      simp [Int.sub_sub]
    · rw [zero_add]

/-- Giving rows back returns what they hold. -/
theorem giveBackEach_stock (tenantId : Uuid) (rows : List Reservation) (inventory : Inventory) (key : StockKey) :
    (rows.foldl (giveBack tenantId) inventory).stock.find key = (inventory.stock.find key).map fun row =>
      { row with available := row.available + asked tenantId (rows.map (·.item)) key } := by
  induction rows generalizing inventory with
  | nil => simp [asked, total]
  | cons first rest ih =>
    have head : asked tenantId (first.item :: rest.map (·.item)) key =
        (if key = { tenantId, itemId := first.itemId } then first.qty else 0) + asked tenantId (rest.map (·.item)) key :=
      asked_cons ..
    rw [List.foldl_cons, ih, giveBack, apply_stock, apply_stock, List.map_cons, head]
    simp only [stockAfter]
    by_cases same : key = { tenantId, itemId := first.itemId }
    · rw [if_pos same, if_pos same, Option.map_map]
      congr 1
      funext row
      simp [Int.add_assoc]
    · rw [if_neg same, if_neg same, zero_add]

/-- The primary key and the partial unique index of `reservations`. -/
structure Keyed (inventory : Inventory) : Prop where
  distinct : inventory.Distinct
  single : ∀ key, (inventory.activeRows key).length ≤ 1

theorem activeRows_eq (inventory : Inventory) (tenantId orderId itemId : Uuid) :
    inventory.activeRows { tenantId, orderId, itemId } =
      (inventory.findActiveByOrder tenantId orderId).filter fun row => row.itemId = itemId := by
  rw [activeRows, findActiveByOrder, List.filter_filter]
  refine List.filter_congr fun row _ => ?_
  rw [Bool.eq_iff_iff]
  simp only [decide_eq_true_eq, Bool.and_eq_true, Reservation.isActiveOf_iff, Reservation.activeKey, ActiveKey.mk.injEq]
  tauto

theorem Keyed.itemIds {inventory : Inventory} (keyed : inventory.Keyed) (tenantId orderId : Uuid) :
    ((inventory.findActiveByOrder tenantId orderId).map (·.itemId)).Nodup := by
  have rows : (inventory.findActiveByOrder tenantId orderId).Nodup := (keyed.distinct.of_map _).filter _
  refine (List.nodup_map_iff_inj_on rows).mpr fun first one second two same => ?_
  have within (row : Reservation) (member : row ∈ inventory.findActiveByOrder tenantId orderId)
      (item : row.itemId = second.itemId) : row ∈ inventory.activeRows { tenantId, orderId, itemId := second.itemId } := by
    rw [activeRows_eq]
    exact List.mem_filter.mpr ⟨member, decide_eq_true item⟩
  have length := keyed.single { tenantId, orderId, itemId := second.itemId }
  have here := within first one same
  have there := within second two rfl
  obtain ⟨row, only⟩ := List.length_eq_one_iff.mp (le_antisymm length (List.length_pos_of_mem there))
  rw [only] at here there
  rw [List.mem_singleton.mp here, List.mem_singleton.mp there]

end Inventory

/-- A normalised list has one line for each item it names. -/
theorem Normal.lines {normal : List ItemQty} (isNormal : Normal normal) (itemId : Uuid) :
    (normal.filter fun item => item.itemId = itemId).map (·.qty) =
      if itemId ∈ normal.map (·.itemId) then [total normal itemId] else [] := by
  induction normal with
  | nil => rfl
  | cons first rest ih =>
    obtain ⟨apart, distinct⟩ := List.nodup_cons.mp isNormal.distinct
    have ih := ih ⟨distinct, fun other member => isNormal.positive other (List.mem_cons_of_mem _ member)⟩
    by_cases same : first.itemId = itemId
    · subst same
      rw [if_neg apart] at ih
      have none : total rest first.itemId = 0 := by rw [total, ih, List.sum_nil]
      rw [List.filter_cons_of_pos (by simp), List.map_cons, ih, total_cons, if_pos rfl, none, add_zero,
        List.map_cons, if_pos (List.mem_cons_self ..)]
    · rw [List.filter_cons_of_neg (by simpa using same), ih, total_cons, if_neg same, zero_add, List.map_cons]
      simp only [List.mem_cons, Ne.symm same, false_or]

theorem Contents.activeRows {inventory : Inventory} {tenantId orderId : Uuid} {normal : List ItemQty}
    (contents : Contents (inventory.findActiveByOrder tenantId orderId) normal) (isNormal : Normal normal) (itemId : Uuid) :
    (inventory.activeRows { tenantId, orderId, itemId }).map (·.qty) =
      if itemId ∈ normal.map (·.itemId) then [total normal itemId] else [] := by
  have lines := ((contents.filter fun item => item.itemId = itemId).map (·.qty)).trans (by rw [isNormal.lines itemId])
  rw [List.filter_map, List.map_map] at lines
  rw [inventory.activeRows_eq]
  split at lines
  · rename_i asked
    rw [if_pos asked]
    exact List.perm_singleton.mp lines
  · rename_i unasked
    rw [if_neg unasked]
    exact List.perm_nil.mp lines

/-- What a reserve has done that is answered with ok. -/
structure Reserved (command : ReserveStockCommand) (inventory : Inventory) (result : ReserveStockResult) (after : Inventory) :
    Prop where
  rows : ∀ itemId, (after.activeRows { tenantId := command.tenantId, orderId := command.orderId, itemId }).map (·.qty) =
    if itemId ∈ command.items.map (·.itemId) then [total command.items itemId] else []
  ids : result.reservationIds = (after.findActiveByOrder command.tenantId command.orderId).map (·.id)
  covered : ¬ inventory.Holds command.tenantId command.orderId → ∀ itemId ∈ command.items.map (·.itemId),
    ∃ row, inventory.stock.find { tenantId := command.tenantId, itemId } = some row ∧ total command.items itemId ≤ row.available
  drops : ¬ inventory.Holds command.tenantId command.orderId → ∀ key, after.stock.find key = (inventory.stock.find key).map
    fun row => { row with available := row.available - asked command.tenantId command.items key }
  replays : inventory.Holds command.tenantId command.orderId → after = inventory
  again : ∀ ids, ∃ result', command.execute ids after = .ok (result', after) ∧ result'.ok = true ∧
    result'.reservationIds.Perm result.reservationIds
  conflicts : ∀ items ids, Positive items → items ≠ [] → ¬ SameTotals command.items items →
    { command with items }.execute ids after = .error (.idempotencyConflict command.orderId)
  restored : ∃ released, ReleaseStockCommand.execute ⟨command.tenantId, command.orderId⟩ after = .ok ((), released) ∧
    (¬ inventory.Holds command.tenantId command.orderId → ∀ key, released.stock.find key = inventory.stock.find key)

section execute

variable {command : ReserveStockCommand} {ids : Nat → Uuid} {inventory after : Inventory} {result : ReserveStockResult}

/-- What is answered with ok holds what was asked for, under the ids of the answer. -/
theorem ReserveStockCommand.execute_reserves (keyed : inventory.Keyed) (run : command.execute ids inventory = .ok (result, after))
    (ok : result.ok = true) : ∃ normal, normalizeItems command.items = .ok normal ∧
      Contents (after.findActiveByOrder command.tenantId command.orderId) normal ∧
      result.reservationIds = (after.findActiveByOrder command.tenantId command.orderId).map (·.id) ∧
      (inventory.Holds command.tenantId command.orderId ∧ after = inventory ∨
        ¬ inventory.Holds command.tenantId command.orderId ∧ inventory.coversAll command.tenantId normal ∧
          after = inventory.takeEach command.tenantId command.orderId ids normal) := by
  cases valid : normalizeItems command.items with
  | error error =>
    rw [execute_invalid valid] at run
    cases run
  | ok normal =>
    refine ⟨normal, rfl, ?_⟩
    have isNormal := normalizeItems_normal valid
    by_cases held : inventory.findActiveByOrder command.tenantId command.orderId = []
    · have free := execute_free command ids valid held
      have unheld : ¬ inventory.Holds command.tenantId command.orderId := fun holds => Inventory.holds_iff.mp holds held
      split at free
      · rename_i covers
        cases run.symm.trans free
        have rows := inventory.takeEach_active command.tenantId command.orderId ids normal command.tenantId command.orderId
        rw [if_pos ⟨rfl, rfl⟩, held, List.nil_append] at rows
        rw [rows, Contents, newReservations_items]
        exact ⟨.refl _, rfl, Or.inr ⟨unheld, covers, rfl⟩⟩
      · cases run.symm.trans free
        cases ok
    · rw [execute_held valid held] at run
      split at run
      · rename_i matched
        cases run
        have contents := (assertReplayMatches_iff _ (keyed.itemIds ..) isNormal.distinct).mp matched
        exact ⟨contents, rfl, Or.inl ⟨Inventory.holds_iff.mpr held, rfl⟩⟩
      · cases run

theorem asked_normal {items normal : List ItemQty} (valid : normalizeItems items = .ok normal) (tenantId : Uuid)
    (key : StockKey) : asked tenantId normal key = asked tenantId items key := by
  unfold asked
  rw [normalizeItems_total valid]

/-- A later request finds what the first has reserved. -/
theorem ReserveStockCommand.execute_again {normal normal' items : List ItemQty} (valid : normalizeItems command.items = .ok normal)
    (valid' : normalizeItems items = .ok normal')
    (contents : Contents (after.findActiveByOrder command.tenantId command.orderId) normal) (ids : Nat → Uuid) :
    (SameTotals command.items items → { command with items }.execute ids after =
      .ok ({ ok := true, reservationIds := (after.findActiveByOrder command.tenantId command.orderId).map (·.id) }, after)) ∧
      (¬ SameTotals command.items items → { command with items }.execute ids after =
        .error (.idempotencyConflict command.orderId)) := by
  have isNormal := normalizeItems_normal valid
  have isNormal' := normalizeItems_normal valid'
  have held : after.findActiveByOrder command.tenantId command.orderId ≠ [] := by
    intro none
    rw [none, Contents, List.map_nil] at contents
    exact normalizeItems_ne_nil valid (List.nil_perm.mp contents)
  have single : ((after.findActiveByOrder command.tenantId command.orderId).map (·.itemId)).Nodup := by
    have itemIds := contents.map (·.itemId)
    rw [List.map_map] at itemIds
    exact itemIds.nodup_iff.mpr isNormal.distinct
  have matches_iff : assertReplayMatches (after.findActiveByOrder command.tenantId command.orderId) normal' command.orderId = .ok () ↔
      SameTotals command.items items := by
    have totals : SameTotals normal normal' ↔ SameTotals command.items items := by
      refine forall_congr' fun itemId => ?_
      rw [normalizeItems_total valid, normalizeItems_total valid']
    rw [assertReplayMatches_iff _ single isNormal'.distinct, ← totals, ← isNormal.perm_iff isNormal', Contents]
    exact ⟨contents.symm.trans, contents.trans⟩
  rw [@execute_held { command with items } ids after normal' valid' held]
  constructor
  · intro same
    rw [matches_iff.mpr same]
  · intro other
    split
    · rename_i matched
      exact absurd (matches_iff.mp matched) other
    · rfl

/-- A reserve takes all it is asked for or nothing, by the totals of its items;
it can be repeated, and a release undoes it. -/
theorem ReserveStockCommand.all_or_nothing (positive : Positive command.items) (keyed : inventory.Keyed)
    (drawn : Drawn inventory ids) :
    (∀ items, Positive items → SameTotals command.items items →
      { command with items }.execute ids inventory = command.execute ids inventory) ∧
    (∀ result after, command.execute ids inventory = .ok (result, after) → result.ok = true →
      Reserved command inventory result after) ∧
    ((∀ result after, command.execute ids inventory = .ok (result, after) → result.ok = false) →
      stored inventory (command.execute ids inventory) = inventory) := by
  refine ⟨fun items positive' same => ?_, fun result after run ok => ?_, fun refused => ?_⟩
  · have normal := normalizeItems_congr positive positive' same
    simp only [execute, transaction, normal]
    rfl
  · obtain ⟨normal, valid, contents, answered, kept⟩ := execute_reserves keyed run ok
    have isNormal := normalizeItems_normal valid
    have named (itemId : Uuid) : itemId ∈ normal.map (·.itemId) ↔ itemId ∈ command.items.map (·.itemId) := by
      rw [← (show Positive normal from isNormal.positive).total_pos_iff, ← positive.total_pos_iff, normalizeItems_total valid]
    have taken : ¬ inventory.Holds command.tenantId command.orderId → inventory.coversAll command.tenantId normal ∧
        after = inventory.takeEach command.tenantId command.orderId ids normal := by
      intro free
      rcases kept with ⟨holds, -⟩ | ⟨-, covers, same⟩
      · exact absurd holds free
      · exact ⟨covers, same⟩
    have drops : ¬ inventory.Holds command.tenantId command.orderId → ∀ key, after.stock.find key = (inventory.stock.find key).map
        fun row => { row with available := row.available - asked command.tenantId command.items key } := by
      intro free key
      rw [(taken free).2, Inventory.takeEach_stock, asked_normal valid]
    refine ⟨fun itemId => ?_, answered, fun free itemId asks => ?_, drops, fun holds => ?_, fun ids' => ?_, ?_, ?_⟩
    · rw [contents.activeRows isNormal, normalizeItems_total valid]
      simp only [named itemId]
    · obtain ⟨item, member, rfl⟩ := List.mem_map.mp ((named itemId).mpr asks)
      have covers := (taken free).1 item member
      rw [Inventory.covers, Option.any_eq_true] at covers
      obtain ⟨row, found, enough⟩ := covers
      refine ⟨row, found, ?_⟩
      rw [← normalizeItems_total valid, isNormal.total_of_mem member]
      exact of_decide_eq_true enough
    · rcases kept with ⟨-, same⟩ | ⟨free, -⟩
      · exact same
      · exact absurd holds free
    · refine ⟨_, (execute_again valid valid contents ids').1 fun _ => rfl, rfl, ?_⟩
      rw [answered]
    · intro items ids' positive' some other
      obtain ⟨normal', valid'⟩ := normalizeItems_positive positive' some
      exact (execute_again valid valid' contents ids').2 other
    · have distinct : after.Distinct := execute_distinct drawn keyed.distinct run
      refine ⟨_, ReleaseStockCommand.execute_run _ distinct, fun free key => ?_⟩
      have held : asked command.tenantId ((after.findActiveByOrder command.tenantId command.orderId).map (·.item)) key =
          asked command.tenantId command.items key := by
        rw [← asked_normal valid]
        unfold asked
        rw [total_perm contents]
      rw [Inventory.giveBackEach_stock, drops free, Option.map_map, held]
      have even : ((fun row : Stock => { row with available := row.available + asked command.tenantId command.items key }) ∘
          fun row => { row with available := row.available - asked command.tenantId command.items key }) = id := by
        funext row
        simp
      rw [even, Option.map_id, id]
  · cases run : command.execute ids inventory with
    | error error => rfl
    | ok answer =>
      obtain ⟨result, after⟩ := answer
      rcases execute_cases run with same | ⟨normal, valid, free, covers, -⟩
      · exact same
      · have none : inventory.findActiveByOrder command.tenantId command.orderId = [] := by
          by_contra some
          exact free (Inventory.holds_iff.mpr some)
        have taken := execute_free command ids valid none
        rw [if_pos covers, run] at taken
        cases taken
        cases refused _ _ run

end execute

section samples

/-- Two lines of one item. -/
def splitCommand : ReserveStockCommand where
  tenantId := "tenant"
  orderId := "order"
  items := [{ itemId := "item", qty := 1 }, { itemId := "item", qty := 1 }]

theorem splitCommand_positive : Positive splitCommand.items := by
  intro item member
  simp only [splitCommand, List.mem_cons, List.not_mem_nil, or_false, or_self] at member
  rw [member]
  decide

theorem sampleKeyed : sampleDb.inventory.Keyed := ⟨List.nodup_nil, fun _ => Nat.zero_le 1⟩

theorem all_or_nothing_split : ∃ after,
    splitCommand.execute sampleIds sampleDb.inventory = .ok ({ ok := true, reservationIds := [""] }, after) ∧
      Reserved splitCommand sampleDb.inventory { ok := true, reservationIds := [""] } after := by
  have drawn : Drawn sampleDb.inventory sampleIds := ⟨sampleIds_injective, fun row absent => by cases absent⟩
  exact ⟨_, rfl, (ReserveStockCommand.all_or_nothing splitCommand_positive sampleKeyed drawn).2.1 _ _ rfl rfl⟩

/-- An order that has its items already is told so: nothing is taken again, and
a release after that gives back what was taken before. A request without items
after it is refused as invalid, not as a conflict. -/
theorem replay_takes_nothing : ∃ ids result after released, reservedDb.inventory.Keyed ∧ Drawn reservedDb.inventory ids ∧
    splitCommand.execute ids reservedDb.inventory = .ok (result, after) ∧ result.ok = true ∧
    after.available ⟨"tenant", "item"⟩ ≠ reservedDb.inventory.available ⟨"tenant", "item"⟩ - total splitCommand.items "item" ∧
    ReleaseStockCommand.execute ⟨"tenant", "order"⟩ after = .ok ((), released) ∧
    released.available ⟨"tenant", "item"⟩ ≠ reservedDb.inventory.available ⟨"tenant", "item"⟩ ∧
    ¬ SameTotals splitCommand.items [] ∧
    { splitCommand with items := [] }.execute ids after ≠ .error (.idempotencyConflict "order") := by
  have rows : reservedDb.inventory.reservations.length = 1 := rfl
  refine ⟨fun n => sampleIds (n + 1), _, _, _, ⟨?_, fun key => ?_⟩, ⟨?_, ?_⟩, rfl, rfl, ?_, rfl, ?_, fun same => ?_, ?_⟩
  · exact List.nodup_singleton _
  · exact (List.length_filter_le ..).trans rows.le
  · exact fun m n same => Nat.succ.inj (sampleIds_injective same)
  · intro row member n same
    rw [List.mem_singleton.mp member] at same
    exact absurd (sampleIds_injective same) (Nat.succ_ne_zero n).symm
  · decide
  · decide
  · have two := same "item"
    revert two
    decide
  · rw [ReserveStockCommand.execute_invalid (show normalizeItems [] = .error _ from rfl)]
    exact nofun

end samples

end FoodDelivery.InventoryService
