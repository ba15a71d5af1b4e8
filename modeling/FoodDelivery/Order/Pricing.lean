import FoodDelivery.Lib.Binary64
import FoodDelivery.Lib.Related
import FoodDelivery.Order.Domain

namespace FoodDelivery.OrderService.Pricing

open Binary64

structure OrderItem where
  itemId : Uuid
  qty : Number
  unitPriceCents : Number
  lineTotalCents : Number

def maxMoneyCents : Number := 2147483647

def assertPositiveInteger (value : Number) (label : String) : Except OrderError Unit :=
  if !value.isInteger || value.lessEq 0 then throw (.invalidOrderRequest (label ++ " must be a positive integer"))
  else pure ()

def assertNonNegativeInteger (value : Number) (label : String) : Except OrderError Unit :=
  if !value.isInteger || value.less 0 then throw (.invalidOrderRequest (label ++ " must be a non-negative integer"))
  else pure ()

def OrderItem.create (itemId : Uuid) (qty unitPriceCents : Number) : Except OrderError OrderItem := do
  assertPositiveInteger qty "quantity"
  assertNonNegativeInteger unitPriceCents "unit price"
  let lineTotalCents := qty * unitPriceCents
  if maxMoneyCents.less lineTotalCents then
    throw (.invalidOrderRequest ("line total for item \"" ++ itemId ++ "\" exceeds the maximum allowed amount"))
  else return { itemId, qty, unitPriceCents, lineTotalCents }

structure OrderPricingInput where
  deliveryFeeCents : Number
  vatRateBps : Number
  discountCents : Number

/-- What `Order.create` makes of its arguments. -/
structure Order where
  id : Uuid
  tenantId : Uuid
  userId : String
  restaurantId : Uuid
  status : OrderStatus
  items : List OrderItem
  subtotalCents : Number
  deliveryFeeCents : Number
  vatCents : Number
  discountCents : Number
  totalCents : Number

def assertAmount (amount : Number) (label : String) : Except OrderError Unit :=
  if maxMoneyCents.less amount then
    throw (.invalidOrderRequest (label ++ " exceeds the maximum allowed amount"))
  else pure ()

def assertBoundedNonNegativeInteger (value : Number) (label : String) : Except OrderError Unit := do
  assertNonNegativeInteger value label
  assertAmount value label

def assertValidPricingInput (pricing : OrderPricingInput) : Except OrderError Unit := do
  assertBoundedNonNegativeInteger pricing.deliveryFeeCents "delivery fee"
  assertBoundedNonNegativeInteger pricing.vatRateBps "VAT rate"
  assertBoundedNonNegativeInteger pricing.discountCents "discount"

def Order.create (id tenantId : Uuid) (userId : String) (restaurantId : Uuid) (items : List OrderItem)
    (pricing : OrderPricingInput) : Except OrderError Order :=
  if items.isEmpty then throw (.invalidOrderRequest "order must contain at least one item")
  else if restaurantId = "" then throw (.invalidOrderRequest "restaurantId is required")
  else do
    assertValidPricingInput pricing
    let subtotalCents := items.foldl (fun sum item => sum + item.lineTotalCents) 0
    let vatCents := ((subtotalCents * pricing.vatRateBps).divNat 10000).floor
    let totalCents := Number.max 0 (subtotalCents + pricing.deliveryFeeCents + vatCents - pricing.discountCents)
    assertAmount subtotalCents "order subtotal"
    assertAmount vatCents "order VAT"
    assertAmount totalCents "order total"
    return {
      id, tenantId, userId, restaurantId, status := .pending, items, subtotalCents,
      deliveryFeeCents := pricing.deliveryFeeCents, vatCents,
      discountCents := pricing.discountCents, totalCents }

/-- The item over the integers that its numbers are. -/
def OrderItem.exact (item : OrderItem) : OrderService.OrderItem where
  itemId := item.itemId
  qty := item.qty.toInt
  unitPriceCents := item.unitPriceCents.toInt
  lineTotalCents := item.qty.toInt * item.unitPriceCents.toInt

def OrderPricingInput.exact (pricing : OrderPricingInput) : OrderService.OrderPricingInput where
  deliveryFeeCents := pricing.deliveryFeeCents.toInt
  vatRateBps := pricing.vatRateBps.toInt
  discountCents := pricing.discountCents.toInt

def exactSubtotal (items : List OrderItem) : ℤ :=
  (items.map fun item => item.qty.toInt * item.unitPriceCents.toInt).sum

def exactVat (items : List OrderItem) (pricing : OrderPricingInput) : ℤ :=
  (exactSubtotal items * pricing.vatRateBps.toInt).fdiv 10000

def exactTotal (items : List OrderItem) (pricing : OrderPricingInput) : ℤ :=
  max 0 (exactSubtotal items + pricing.deliveryFeeCents.toInt + exactVat items pricing - pricing.discountCents.toInt)

/-- The item was made by `OrderItem.create`. -/
def OrderItem.Built (item : OrderItem) : Prop :=
  ∃ itemId qty unitPriceCents, OrderItem.create itemId qty unitPriceCents = .ok item

/-- An order's amounts are the exact ones. -/
structure Order.Exact (items : List OrderItem) (pricing : OrderPricingInput) (order : Order) : Prop where
  subtotal : order.subtotalCents.Is (exactSubtotal items)
  deliveryFee : order.deliveryFeeCents.Is pricing.deliveryFeeCents.toInt
  vat : order.vatCents.Is (exactVat items pricing)
  discount : order.discountCents.Is pricing.discountCents.toInt
  total : order.totalCents.Is (exactTotal items pricing)

/-- An amount fits into an integer column. -/
def Storable (amount : ℤ) : Prop := 0 ≤ amount ∧ amount ≤ 2 ^ 31 - 1

structure AllStorable (items : List OrderItem) (pricing : OrderPricingInput) : Prop where
  subtotal : Storable (exactSubtotal items)
  deliveryFee : Storable pricing.deliveryFeeCents.toInt
  vat : Storable (exactVat items pricing)
  discount : Storable pricing.discountCents.toInt
  total : Storable (exactTotal items pricing)

/-- No integer on the way to the amounts is beyond those that a double holds exactly. -/
structure Unrounded (items : List OrderItem) (pricing : OrderPricingInput) : Prop where
  lines : ∀ item ∈ items, |item.qty.toInt * item.unitPriceCents.toInt| < 2 ^ 53
  sums : ∀ first, first <+: items → |exactSubtotal first| < 2 ^ 53
  product : |exactSubtotal items * pricing.vatRateBps.toInt| < 2 ^ 53
  withFee : |exactSubtotal items + pricing.deliveryFeeCents.toInt| < 2 ^ 53
  withVat : |exactSubtotal items + pricing.deliveryFeeCents.toInt + exactVat items pricing| < 2 ^ 53
  withDiscount : |exactSubtotal items + pricing.deliveryFeeCents.toInt + exactVat items pricing -
    pricing.discountCents.toInt| < 2 ^ 53

structure OrderPricingInput.Valid (pricing : OrderPricingInput) : Prop where
  deliveryFee : pricing.deliveryFeeCents.isInteger = true ∧ Storable pricing.deliveryFeeCents.toInt
  vatRate : pricing.vatRateBps.isInteger = true ∧ Storable pricing.vatRateBps.toInt
  discount : pricing.discountCents.isInteger = true ∧ Storable pricing.discountCents.toInt

section tracking

variable {a b : Number} {n m : ℤ} {label : String}

/-- A number is the exact amount, or both are beyond the maximum. -/
def Tracks (a : Number) (n : ℤ) : Prop := a.Is n ∨ a.AtLeast (2147483648 : ℤ) ∧ 2147483648 ≤ n

theorem zero_is : (0 : Number).Is (0 : ℤ) := by
  have zero := Number.ofNat_is (n := 0) (by norm_num)
  exact_mod_cast zero

theorem maxMoneyCents_is : maxMoneyCents.Is OrderService.maxMoneyCents := by
  have max := Number.ofNat_is (n := 2147483647) (by norm_num)
  exact_mod_cast max

theorem limit_mem : ((2147483648 : ℤ) : ℚ) ∈ grid := grid_int (by norm_num)

theorem ofRat_tracks (nonneg : 0 ≤ n) : Tracks (Number.ofRat n) n := by
  by_cases small : n ≤ 2 ^ 53
  · exact Or.inl (Number.ofInt_is (abs_le.mpr ⟨by omega, small⟩))
  · have large : 2147483648 ≤ n := by omega
    exact Or.inr ⟨Number.ofRat_atLeast limit_mem (by norm_num) (by exact_mod_cast large), large⟩

/-- An amount beyond the maximum is as good as an infinite one. -/
theorem Tracks.cases (tracks : Tracks a n) :
    a.Is n ∧ n ≤ OrderService.maxMoneyCents ∨ a.AtLeast (2147483648 : ℤ) ∧ OrderService.maxMoneyCents < n := by
  have limit : OrderService.maxMoneyCents = 2147483647 := rfl
  rcases tracks with is | ⟨large, beyond⟩
  · by_cases within : n ≤ OrderService.maxMoneyCents
    · exact Or.inl ⟨is, within⟩
    · have beyond : 2147483648 ≤ n := by omega
      exact Or.inr ⟨is.atLeast (by exact_mod_cast beyond), not_le.mp within⟩
  · exact Or.inr ⟨large, by omega⟩

theorem assertAmount_related (tracks : Tracks a n) :
    Except.Related (fun _ _ => a.Is n ∧ n ≤ OrderService.maxMoneyCents) (assertAmount a label)
      (OrderService.assertAmount n label) := by
  unfold assertAmount OrderService.assertAmount
  rcases tracks.cases with ⟨is, within⟩ | ⟨large, beyond⟩
  · have less : maxMoneyCents.less a = false := by
      rw [maxMoneyCents_is.less is]
      exact decide_eq_false (by exact_mod_cast not_lt.mpr within)
    rw [less, if_neg (not_lt.mpr within)]
    exact .ok ⟨is, within⟩
  · have limit : (OrderService.maxMoneyCents : ℚ) < (2147483648 : ℤ) := by
      norm_num [OrderService.maxMoneyCents]
    rw [large.less maxMoneyCents_is limit, if_pos beyond]
    exact .error _

theorem assertPositiveInteger_related (is : a.Is n) :
    Except.Related (fun _ _ => 0 < n) (assertPositiveInteger a label) (OrderService.assertPositiveInteger n label) := by
  have whole : a.isInteger = true := Number.isInteger_iff.mpr (by rwa [is.toInt])
  unfold assertPositiveInteger OrderService.assertPositiveInteger
  rw [whole, is.lessEq zero_is]
  by_cases positive : n ≤ 0
  · simp only [Int.cast_le, positive, decide_true, Bool.or_true, if_true]
    exact .error _
  · simp only [Int.cast_le, positive, decide_false, Bool.not_true, Bool.or_false, Bool.false_eq_true, if_false]
    exact .ok (not_le.mp positive)

theorem assertNonNegativeInteger_related (is : a.Is n) :
    Except.Related (fun _ _ => 0 ≤ n) (assertNonNegativeInteger a label) (OrderService.assertNonNegativeInteger n label) := by
  have whole : a.isInteger = true := Number.isInteger_iff.mpr (by rwa [is.toInt])
  unfold assertNonNegativeInteger OrderService.assertNonNegativeInteger
  rw [whole, is.less zero_is]
  by_cases negative : n < 0
  · simp only [Int.cast_lt, negative, decide_true, Bool.or_true, if_true]
    exact .error _
  · simp only [Int.cast_lt, negative, decide_false, Bool.not_true, Bool.or_false, Bool.false_eq_true, if_false]
    exact .ok (not_lt.mp negative)

theorem assertBoundedNonNegativeInteger_related (is : a.Is n) :
    Except.Related (fun _ _ => Storable n) (assertBoundedNonNegativeInteger a label)
      (OrderService.assertBoundedNonNegativeInteger n label) := by
  refine (assertNonNegativeInteger_related is).bind fun _ _ nonneg => ?_
  refine (assertAmount_related (Or.inl is)).mono fun _ _ within => ?_
  exact ⟨nonneg, within.2⟩

/-- The pricing input is one of integers. -/
structure OrderPricingInput.Whole (pricing : OrderPricingInput) : Prop where
  deliveryFee : pricing.deliveryFeeCents.Is pricing.deliveryFeeCents.toInt
  vatRate : pricing.vatRateBps.Is pricing.vatRateBps.toInt
  discount : pricing.discountCents.Is pricing.discountCents.toInt

theorem assertValidPricingInput_related {pricing : OrderPricingInput} (whole : pricing.Whole) :
    Except.Related (fun _ _ => pricing.Valid) (assertValidPricingInput pricing)
      (OrderService.assertValidPricingInput pricing.exact) := by
  refine (assertBoundedNonNegativeInteger_related whole.deliveryFee).bind fun _ _ deliveryFee => ?_
  refine (assertBoundedNonNegativeInteger_related whole.vatRate).bind fun _ _ vatRate => ?_
  refine (assertBoundedNonNegativeInteger_related whole.discount).mono fun _ _ discount => ?_
  exact ⟨⟨Number.isInteger_iff.mpr whole.deliveryFee, deliveryFee⟩, ⟨Number.isInteger_iff.mpr whole.vatRate, vatRate⟩,
    ⟨Number.isInteger_iff.mpr whole.discount, discount⟩⟩

/-- Sums are tracked as long as nothing negative is added. -/
theorem Tracks.add (tracks : Tracks a n) (is : b.Is m) (nonneg' : 0 ≤ n) (nonneg : 0 ≤ m) : Tracks (a + b) (n + m) := by
  have limit : OrderService.maxMoneyCents = 2147483647 := rfl
  rcases tracks.cases with ⟨is', within'⟩ | ⟨large, beyond⟩
  · rw [is'.add is]
    exact_mod_cast ofRat_tracks (by omega)
  · refine Or.inr ⟨large.add is limit_mem (by norm_num) (by exact_mod_cast nonneg), by omega⟩

/-- Where the exact VAT fits, the quotient keeps its floor; where it does not,
the product, the quotient and its floor stay beyond the maximum. -/
theorem vat_tracks (is : a.Is n) (is' : b.Is m) (nonneg : 0 ≤ n) (nonneg' : 0 ≤ m) :
    Tracks ((a * b).divNat 10000).floor ((n * m).fdiv 10000) := by
  have product : a * b = Number.ofRat (n * m : ℤ) := by
    rw [is.mul is']
    push_cast
    rfl
  have positive : 0 ≤ n * m := Int.mul_nonneg nonneg nonneg'
  rw [product, Int.fdiv_eq_ediv_of_nonneg _ (by norm_num)]
  generalize n * m = p at positive
  have floors : p / 10000 * 10000 ≤ p ∧ p ≤ p / 10000 * 10000 + 9999 := by omega
  by_cases fits : p < 21474836480000
  · have exact : (Number.ofRat p).Is p := Number.ofInt_is (abs_le.mpr ⟨by omega, by omega⟩)
    have floor : ((Number.ofRat p).divNat 10000).floor = Number.ofRat (p / 10000 : ℤ) := by
      have rational : ((p / 10000 : ℤ) : ℚ) * 10000 ≤ p ∧ (p : ℚ) ≤ ((p / 10000 : ℤ) : ℚ) * 10000 + 9999 := by
        exact_mod_cast floors
      -- The next integer is a part in ten thousand away, far more than a unit in the last place.
      have mem : ((p / 10000 : ℤ) : ℚ) + 1 - 1 / 2 ^ 14 ∈ grid := by
        refine ⟨(p / 10000 + 1) * 2 ^ 14 - 1, -14, abs_le.mpr ⟨by omega, by omega⟩, by norm_num, ?_⟩
        rw [zpow_neg]
        push_cast
        norm_num
        ring
      rw [exact.divNat]
      refine Number.floor_ofRat (abs_le.mpr ⟨by omega, by omega⟩) ?_ ?_ mem (by linarith)
      · push_cast
        linarith [rational.1]
      · push_cast
        linarith [rational.2]
    rw [floor]
    exact ofRat_tracks (by omega)
  · have large : (Number.ofRat p).AtLeast (21474836480000 : ℤ) := by
      refine Number.ofRat_atLeast (grid_int (by norm_num)) (by norm_num) ?_
      exact_mod_cast not_lt.mp fits
    have quotient := large.divNat (n := 10000) (by norm_num) limit_mem (by norm_num) (by norm_num)
    exact Or.inr ⟨quotient.floor limit_mem (by norm_num), by omega⟩

end tracking

section items

variable {items : List OrderItem} {item : OrderItem}

/-- An item whose numbers are integers and whose line total is their product. -/
structure OrderItem.Sound (item : OrderItem) : Prop where
  qty : item.qty.Is item.qty.toInt
  unitPrice : item.unitPriceCents.Is item.unitPriceCents.toInt
  lineTotal : item.lineTotalCents.Is (item.qty.toInt * item.unitPriceCents.toInt : ℤ)
  storable : Storable (item.qty.toInt * item.unitPriceCents.toInt)

theorem OrderItem.create_related {itemId : Uuid} {qty unitPriceCents : Number} (is : qty.Is qty.toInt)
    (is' : unitPriceCents.Is unitPriceCents.toInt) :
    Except.Related (fun item exact => item.exact = exact ∧ item.Sound) (OrderItem.create itemId qty unitPriceCents)
      (OrderService.OrderItem.create itemId qty.toInt unitPriceCents.toInt) := by
  unfold OrderItem.create OrderService.OrderItem.create
  refine (assertPositiveInteger_related is).bind fun _ _ positive => ?_
  refine (assertNonNegativeInteger_related is').bind fun _ _ nonneg => ?_
  have product : qty * unitPriceCents = Number.ofRat (qty.toInt * unitPriceCents.toInt : ℤ) := by
    rw [is.mul is']
    push_cast
    rfl
  have positive' : 0 ≤ qty.toInt * unitPriceCents.toInt := Int.mul_nonneg positive.le nonneg
  have tracks : Tracks (qty * unitPriceCents) (qty.toInt * unitPriceCents.toInt) := product ▸ ofRat_tracks positive'
  rcases tracks.cases with ⟨total, within⟩ | ⟨large, beyond⟩
  · have less : maxMoneyCents.less (qty * unitPriceCents) = false := by
      rw [maxMoneyCents_is.less total]
      exact decide_eq_false (by exact_mod_cast not_lt.mpr within)
    simp only [less, if_neg (not_lt.mpr within)]
    exact .ok ⟨rfl, is, is', total, positive', within⟩
  · have limit : (OrderService.maxMoneyCents : ℚ) < (2147483648 : ℤ) := by
      norm_num [OrderService.maxMoneyCents]
    simp only [large.less maxMoneyCents_is limit, gt_iff_lt, beyond, if_true]
    exact .error _

theorem assertPositiveInteger_whole {value : Number} {label : String} {u : Unit}
    (run : assertPositiveInteger value label = .ok u) : value.Is value.toInt := by
  obtain ⟨passes, -⟩ := Except.reject_ok.mp run
  refine Number.isInteger_iff.mp ?_
  by_contra whole
  simp [whole] at passes

theorem assertNonNegativeInteger_whole {value : Number} {label : String} {u : Unit}
    (run : assertNonNegativeInteger value label = .ok u) : value.Is value.toInt := by
  obtain ⟨passes, -⟩ := Except.reject_ok.mp run
  refine Number.isInteger_iff.mp ?_
  by_contra whole
  simp [whole] at passes

theorem assertValidPricingInput_whole {pricing : OrderPricingInput} {u : Unit}
    (run : assertValidPricingInput pricing = .ok u) : pricing.Whole := by
  simp only [assertValidPricingInput, assertBoundedNonNegativeInteger, Except.bind_ok] at run
  obtain ⟨_, ⟨_, deliveryFee, _⟩, _, ⟨_, vatRate, _⟩, _, discount, _⟩ := run
  exact ⟨assertNonNegativeInteger_whole deliveryFee, assertNonNegativeInteger_whole vatRate,
    assertNonNegativeInteger_whole discount⟩

theorem OrderItem.Built.sound (built : item.Built) : item.Sound := by
  obtain ⟨itemId, qty, unitPriceCents, run⟩ := built
  have parts := run
  simp only [OrderItem.create, Except.bind_ok] at parts
  obtain ⟨_, positive, _, nonneg, _⟩ := parts
  have related := @OrderItem.create_related itemId _ _ (assertPositiveInteger_whole positive) (assertNonNegativeInteger_whole nonneg)
  rw [run] at related
  obtain ⟨_, -, -, sound⟩ := related.ok_left
  exact sound

/-- The sum of the line totals, in the order in which they are added. -/
theorem subtotal_tracks {total : Number} {n : ℤ} (tracks : Tracks total n) (nonneg : 0 ≤ n)
    (sound : ∀ item ∈ items, item.Sound) :
    Tracks (items.foldl (fun sum item => sum + item.lineTotalCents) total) (n + exactSubtotal items) := by
  induction items generalizing total n with
  | nil => simpa [exactSubtotal] using tracks
  | cons item items ih =>
    obtain ⟨first, rest⟩ := List.forall_mem_cons.mp sound
    have more := ih (tracks.add first.lineTotal nonneg first.storable.1) (Int.add_nonneg nonneg first.storable.1) rest
    rw [List.foldl_cons]
    simpa [exactSubtotal, add_assoc] using more

theorem exactSubtotal_nonneg (sound : ∀ item ∈ items, item.Sound) : 0 ≤ exactSubtotal items := by
  refine List.sum_nonneg fun total member => ?_
  obtain ⟨item, inItems, rfl⟩ := List.mem_map.mp member
  exact (sound item inItems).storable.1

theorem exactSubtotal_exact (items : List OrderItem) :
    ((items.map OrderItem.exact).map (·.lineTotalCents)).sum = exactSubtotal items := by
  rw [List.map_map]
  rfl

end items

section orders

variable {items : List OrderItem} {pricing : OrderPricingInput} {id tenantId restaurantId : Uuid} {userId : String}

/-- An order over the integers that its numbers are. -/
structure Order.Represents (order : Order) (exact : OrderService.Order) : Prop where
  id : order.id = exact.id
  tenantId : order.tenantId = exact.tenantId
  userId : order.userId = exact.userId
  restaurantId : order.restaurantId = exact.restaurantId
  status : order.status = exact.status
  items : order.items.map OrderItem.exact = exact.items
  subtotal : order.subtotalCents.Is exact.subtotalCents
  deliveryFee : order.deliveryFeeCents.Is exact.deliveryFeeCents
  vat : order.vatCents.Is exact.vatCents
  discount : order.discountCents.Is exact.discountCents
  total : order.totalCents.Is exact.totalCents

/-- Sums and differences of storable amounts are exact. -/
theorem total_is {subtotal fee vat discount : Number} {s f v d : ℤ} (isSubtotal : subtotal.Is s) (isFee : fee.Is f)
    (isVat : vat.Is v) (isDiscount : discount.Is d) (hs : Storable s) (hf : Storable f) (hv : Storable v)
    (hd : Storable d) : (Number.max 0 (subtotal + fee + vat - discount)).Is (max 0 (s + f + v - d) : ℤ) := by
  unfold Storable at hs hf hv hd
  have first : (subtotal + fee).Is (s + f : ℤ) := by
    rw [isSubtotal.add isFee]
    exact_mod_cast Number.ofInt_is (n := s + f) (abs_le.mpr ⟨by omega, by omega⟩)
  have second : (subtotal + fee + vat).Is (s + f + v : ℤ) := by
    rw [first.add isVat]
    exact_mod_cast Number.ofInt_is (n := s + f + v) (abs_le.mpr ⟨by omega, by omega⟩)
  have third : (subtotal + fee + vat - discount).Is (s + f + v - d : ℤ) := by
    rw [second.sub isDiscount]
    exact_mod_cast Number.ofInt_is (n := s + f + v - d) (abs_le.mpr ⟨by omega, by omega⟩)
  exact_mod_cast zero_is.max third

/-- `Order.create` computes in doubles what it computes over the integers. -/
theorem Order.create_related (sound : ∀ item ∈ items, item.Sound) (whole : pricing.Whole) :
    Except.Related Order.Represents (Order.create id tenantId userId restaurantId items pricing)
      (OrderService.Order.create id tenantId userId restaurantId (items.map OrderItem.exact) pricing.exact) := by
  unfold Order.create OrderService.Order.create
  rw [List.isEmpty_map]
  split
  · exact .error _
  · split
    · exact .error _
    · refine (assertValidPricingInput_related whole).bind fun _ _ valid => ?_
      have nonneg := exactSubtotal_nonneg sound
      have subtotal := subtotal_tracks (Or.inl zero_is) le_rfl sound
      rw [zero_add, ← exactSubtotal_exact] at subtotal
      refine (assertAmount_related subtotal).bind fun _ _ ⟨isSubtotal, subtotalWithin⟩ => ?_
      rw [exactSubtotal_exact] at isSubtotal subtotalWithin ⊢
      have vat := vat_tracks isSubtotal whole.vatRate nonneg valid.vatRate.2.1
      refine (assertAmount_related vat).bind fun _ _ ⟨isVat, vatWithin⟩ => ?_
      have vatNonneg : 0 ≤ (exactSubtotal items * pricing.vatRateBps.toInt).fdiv 10000 :=
        Int.fdiv_nonneg (Int.mul_nonneg nonneg valid.vatRate.2.1) (by norm_num)
      have total := total_is isSubtotal whole.deliveryFee isVat whole.discount ⟨nonneg, subtotalWithin⟩ valid.deliveryFee.2
        ⟨vatNonneg, vatWithin⟩ valid.discount.2
      refine (assertAmount_related (Or.inl total)).bind fun _ _ _ => ?_
      exact .ok ⟨rfl, rfl, rfl, rfl, rfl, rfl, isSubtotal, whole.deliveryFee, isVat, whole.discount, total⟩

theorem assertAmount_ok {amount : ℤ} {label : String} {u : Unit} :
    OrderService.assertAmount amount label = .ok u ↔ amount ≤ OrderService.maxMoneyCents := by
  unfold OrderService.assertAmount
  rw [Except.reject_ok, not_lt]
  exact and_iff_left rfl

theorem assertBoundedNonNegativeInteger_ok {amount : ℤ} {label : String} {u : Unit} :
    OrderService.assertBoundedNonNegativeInteger amount label = .ok u ↔ Storable amount := by
  simp only [OrderService.assertBoundedNonNegativeInteger, OrderService.assertNonNegativeInteger, Except.bind_ok,
    Except.reject_ok, assertAmount_ok, not_lt]
  constructor
  · exact fun ⟨_, ⟨nonneg, _⟩, within⟩ => ⟨nonneg, within⟩
  · exact fun ⟨nonneg, within⟩ => ⟨(), ⟨nonneg, rfl⟩, within⟩

theorem assertValidPricingInput_ok (valid : pricing.Valid) : OrderService.assertValidPricingInput pricing.exact = .ok () := by
  simp only [OrderService.assertValidPricingInput, Except.bind_ok, assertBoundedNonNegativeInteger_ok]
  exact ⟨(), valid.deliveryFee.2, (), valid.vatRate.2, valid.discount.2⟩

/-- What the integer computation answers and when. -/
theorem exact_ok {order : OrderService.Order} :
    OrderService.Order.create id tenantId userId restaurantId (items.map OrderItem.exact) pricing.exact = .ok order ↔
      (items ≠ [] ∧ restaurantId ≠ "" ∧ OrderService.assertValidPricingInput pricing.exact = .ok () ∧
        exactSubtotal items ≤ OrderService.maxMoneyCents ∧ exactVat items pricing ≤ OrderService.maxMoneyCents ∧
        exactTotal items pricing ≤ OrderService.maxMoneyCents) ∧
      { id, tenantId, userId, restaurantId, status := .pending, items := items.map OrderItem.exact,
        subtotalCents := exactSubtotal items, deliveryFeeCents := pricing.deliveryFeeCents.toInt,
        vatCents := exactVat items pricing, discountCents := pricing.discountCents.toInt,
        totalCents := exactTotal items pricing, version := 1 } = order := by
  unfold OrderService.Order.create
  simp only [Except.reject_ok, Except.bind_ok, Except.pure_ok, assertAmount_ok, exactSubtotal_exact, List.isEmpty_iff,
    List.map_eq_nil_iff]
  constructor
  · rintro ⟨some, named, _, valid, _, subtotal, _, vat, _, total, rfl⟩
    exact ⟨⟨some, named, valid, subtotal, vat, total⟩, rfl⟩
  · rintro ⟨⟨some, named, valid, subtotal, vat, total⟩, rfl⟩
    exact ⟨some, named, (), valid, (), subtotal, (), vat, (), total, rfl⟩

theorem prefix_le {first : List OrderItem} (sound : ∀ item ∈ items, item.Sound) (initial : first <+: items) :
    0 ≤ exactSubtotal first ∧ exactSubtotal first ≤ exactSubtotal items := by
  obtain ⟨rest, rfl⟩ := initial
  have nonneg := exactSubtotal_nonneg fun item member => sound item (List.mem_append_left rest member)
  have nonneg' := exactSubtotal_nonneg fun item member => sound item (List.mem_append_right first member)
  have parts : exactSubtotal (first ++ rest) = exactSubtotal first + exactSubtotal rest := by
    simp [exactSubtotal]
  omega

/-- Amounts that can be stored are computed from numbers that are not rounded. -/
theorem AllStorable.unrounded (storable : AllStorable items pricing) (sound : ∀ item ∈ items, item.Sound)
    (rate : Storable pricing.vatRateBps.toInt) : Unrounded items pricing := by
  obtain ⟨⟨s, s'⟩, ⟨f, f'⟩, ⟨v, v'⟩, ⟨d, d'⟩, -⟩ := storable
  refine ⟨fun item member => ?_, fun first initial => ?_, ?_, ?_, ?_, ?_⟩
  · obtain ⟨least, most⟩ := (sound item member).storable
    exact abs_lt.mpr ⟨by omega, by omega⟩
  · have sums := prefix_le sound initial
    exact abs_lt.mpr ⟨by omega, by omega⟩
  · have positive := Int.mul_nonneg s rate.1
    unfold exactVat at v'
    rw [Int.fdiv_eq_ediv_of_nonneg _ (by norm_num)] at v'
    exact abs_lt.mpr ⟨by omega, by omega⟩
  · exact abs_lt.mpr ⟨by omega, by omega⟩
  · exact abs_lt.mpr ⟨by omega, by omega⟩
  · exact abs_lt.mpr ⟨by omega, by omega⟩

/-- Pricing is exact and storable, and it throws only where an amount is not. -/
theorem Order.create_exact_and_storable (built : ∀ item ∈ items, item.Built) :
    (∀ order, Order.create id tenantId userId restaurantId items pricing = .ok order →
      order.Exact items pricing ∧ AllStorable items pricing ∧ Unrounded items pricing) ∧
    (items ≠ [] → restaurantId ≠ "" → pricing.Valid → AllStorable items pricing →
      ∃ order, Order.create id tenantId userId restaurantId items pricing = .ok order) := by
  have sound (item : OrderItem) (member : item ∈ items) : item.Sound := (built item member).sound
  constructor
  · intro order run
    have whole : pricing.Whole := by
      have parts := run
      simp only [Order.create, Except.reject_ok, Except.bind_ok] at parts
      obtain ⟨-, -, _, valid, -⟩ := parts
      exact assertValidPricingInput_whole valid
    have related : Except.Related Order.Represents (Order.create id tenantId userId restaurantId items pricing) _ :=
      Order.create_related sound whole
    rw [run] at related
    obtain ⟨exact, exactly, represents⟩ := related.ok_left
    obtain ⟨⟨-, -, accepted, subtotal, vat, total⟩, rfl⟩ := exact_ok.mp exactly
    have checked := assertValidPricingInput_related whole
    rw [accepted] at checked
    obtain ⟨_, -, valid⟩ := checked.ok_right
    have nonneg := exactSubtotal_nonneg sound
    have vatNonneg : 0 ≤ exactVat items pricing :=
      Int.fdiv_nonneg (Int.mul_nonneg nonneg valid.vatRate.2.1) (by norm_num)
    have storable : AllStorable items pricing :=
      ⟨⟨nonneg, subtotal⟩, valid.deliveryFee.2, ⟨vatNonneg, vat⟩, valid.discount.2, ⟨le_max_left .., total⟩⟩
    exact ⟨⟨represents.subtotal, represents.deliveryFee, represents.vat, represents.discount, represents.total⟩, storable,
      storable.unrounded sound valid.vatRate.2⟩
  · intro some named valid storable
    have whole : pricing.Whole := ⟨Number.isInteger_iff.mp valid.deliveryFee.1, Number.isInteger_iff.mp valid.vatRate.1,
      Number.isInteger_iff.mp valid.discount.1⟩
    have related : Except.Related Order.Represents (Order.create id tenantId userId restaurantId items pricing) _ :=
      Order.create_related sound whole
    rw [exact_ok.mpr ⟨⟨some, named, assertValidPricingInput_ok valid, storable.subtotal.2, storable.vat.2, storable.total.2⟩, rfl⟩] at related
    obtain ⟨order, run, -⟩ := related.ok_right
    exact ⟨order, run⟩

end orders

section samples

def samplePricing : OrderPricingInput where
  deliveryFeeCents := 1500
  vatRateBps := 1000
  discountCents := 0

theorem literal_toInt {n : ℕ} (small : n ≤ 2 ^ 53) : (Number.ofRat n).Is (Number.ofRat n).toInt ∧ (Number.ofRat n).toInt = n := by
  have is : (Number.ofRat n).Is (n : ℤ) := by exact_mod_cast Number.ofNat_is small
  rw [is.toInt]
  exact ⟨is, rfl⟩

theorem literal_created {itemId : Uuid} {qty price : ℕ} {line : ℤ} (small : qty ≤ 2 ^ 53) (small' : price ≤ 2 ^ 53)
    (exactly : OrderService.OrderItem.create itemId qty price = .ok ⟨itemId, qty, price, line⟩) :
    ∃ item, OrderItem.create itemId (.ofRat qty) (.ofRat price) = .ok item ∧ item.qty.toInt = qty ∧
      item.unitPriceCents.toInt = price := by
  obtain ⟨qtyIs, same⟩ := literal_toInt small
  obtain ⟨priceIs, same'⟩ := literal_toInt small'
  have related := @OrderItem.create_related itemId _ _ qtyIs priceIs
  rw [same, same', exactly] at related
  obtain ⟨item, run, exact, -⟩ := related.ok_right
  exact ⟨item, run, congrArg OrderService.OrderItem.qty exact, congrArg OrderService.OrderItem.unitPriceCents exact⟩

theorem samplePricing_valid : samplePricing.Valid ∧ samplePricing.exact = ⟨1500, 1000, 0⟩ := by
  obtain ⟨fee, feeIs⟩ := literal_toInt (n := 1500) (by norm_num)
  obtain ⟨rate, rateIs⟩ := literal_toInt (n := 1000) (by norm_num)
  obtain ⟨none, noneIs⟩ := literal_toInt (n := 0) (by norm_num)
  refine ⟨⟨⟨Number.isInteger_iff.mpr fee, ?_⟩, ⟨Number.isInteger_iff.mpr rate, ?_⟩, ⟨Number.isInteger_iff.mpr none, ?_⟩⟩, ?_⟩
  · exact feeIs ▸ ⟨by norm_num, by norm_num⟩
  · exact rateIs ▸ ⟨by norm_num, by norm_num⟩
  · exact noneIs ▸ ⟨by norm_num, by norm_num⟩
  · exact congr (congr (congrArg OrderService.OrderPricingInput.mk feeIs) rateIs) noneIs

/-- Two dishes and three teas with their delivery and ten per cent of VAT, of
which half a cent is dropped. -/
theorem two_dishes_priced : ∃ dishes teas order, OrderItem.create "pho" (.ofRat (2 : ℕ)) (.ofRat (1000 : ℕ)) = .ok dishes ∧
    OrderItem.create "tea" (.ofRat (3 : ℕ)) (.ofRat (455 : ℕ)) = .ok teas ∧
    Order.create "order-1" "tenant-1" "user-1" "restaurant-1" [dishes, teas] samplePricing = .ok order ∧
    order.totalCents.Is (5201 : ℤ) := by
  obtain ⟨dishes, run, qty, price⟩ := @literal_created "pho" 2 1000 2000 (by norm_num) (by norm_num) rfl
  obtain ⟨teas, run', qty', price'⟩ := @literal_created "tea" 3 455 1365 (by norm_num) (by norm_num) rfl
  obtain ⟨valid, pricing⟩ := samplePricing_valid
  have fee : samplePricing.deliveryFeeCents.toInt = 1500 := congrArg (·.deliveryFeeCents) pricing
  have rate : samplePricing.vatRateBps.toInt = 1000 := congrArg (·.vatRateBps) pricing
  have none : samplePricing.discountCents.toInt = 0 := congrArg (·.discountCents) pricing
  have subtotal : exactSubtotal [dishes, teas] = 3365 := by simp [exactSubtotal, qty, price, qty', price']
  have vat : exactVat [dishes, teas] samplePricing = 336 := by
    rw [exactVat, subtotal, rate]
    rfl
  have total : exactTotal [dishes, teas] samplePricing = 5201 := by
    rw [exactTotal, subtotal, vat, fee, none]
    rfl
  have built : ∀ built ∈ [dishes, teas], built.Built := by simpa using ⟨⟨_, _, _, run⟩, ⟨_, _, _, run'⟩⟩
  obtain ⟨exactly, accepts⟩ :=
    @Order.create_exact_and_storable [dishes, teas] samplePricing "order-1" "tenant-1" "restaurant-1" "user-1" built
  obtain ⟨order, created⟩ := accepts (List.cons_ne_nil _ _) (by decide) valid {
    subtotal := by rw [subtotal]; exact ⟨by norm_num, by norm_num⟩
    deliveryFee := valid.deliveryFee.2
    vat := by rw [vat]; exact ⟨by norm_num, by norm_num⟩
    discount := valid.discount.2
    total := by rw [total]; exact ⟨by norm_num, by norm_num⟩ }
  have exact := (exactly order created).1.total
  rw [total] at exact
  exact ⟨dishes, teas, order, run, run', created, exact⟩

end samples

end FoodDelivery.OrderService.Pricing
