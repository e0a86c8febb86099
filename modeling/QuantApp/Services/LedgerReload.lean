import QuantApp.Services.BreakevenTicks
import QuantApp.Services.CardArguments
import QuantApp.Services.DirectEvidence
import QuantApp.Services.OrderPayload

/-!
# Reloading an order of the ledger

`BrokerOrder` of `src/core/order_state.py` with every field, its constructor, `to_dict` and
`from_dict`, and the changes the ledger makes to its orders. What the constructor normalizes
stays normalized (`Reloadable`), and such an order comes back from its dictionary just when it
`SurvivesReload`.
-/

namespace QuantApp.Services

open Core Verified

structure PersistedOrder extends LedgerOrder where
  updatedAt : String
  rawSubmitResponse : Option JsonValue := none
  (errorMessage buylistKey buylistSymbolKey replacesClientOrderId terminalReason : String := "")
  retryEligible : Bool := true
  cancelRequestedAt : Option String := none

/-- `text or default`. -/
def orText (text default : String) : String := if text = "" then default else text

def PersistedOrder.postInit (order : PersistedOrder) : PersistedOrder :=
  let buylistKey := orText order.buylistKey (orText order.buylistSymbolKey
    (upper order.environment ++ ":" ++ order.accountNo ++ ":" ++ upper order.symbol))
  { order with
    environment := upper order.environment
    symbol := upper order.symbol
    exchange := upper order.exchange
    executionPolicy := normalizedPolicy order.executionPolicy
    remainingQuantity :=
      if order.remainingQuantity = 0 ∧ order.filledQuantity = 0 then order.quantityRequested
      else order.remainingQuantity
    buylistKey
    buylistSymbolKey := orText order.buylistSymbolKey (orText buylistKey (upper order.symbol))
    attemptNumber := intOr order.attemptNumber 1
    attemptDeadlineAt := textOrNone order.attemptDeadlineAt
    cancelRequestedAt := textOrNone order.cancelRequestedAt }

/-- `utc_now_iso()`. -/
abbrev UtcNow := { text : String // text ≠ "" }

structure CreateArguments where
  environment : String
  accountNo : String
  symbol : String
  side : OrderSide
  intent : OrderIntent := .unknown
  quantityRequested : Int
  limitPrice : ℚ
  exchange : String := "NASD"
  status : OrderStatus := .created
  executionPolicy : String := regularLimitExecution
  (buylistSymbolKey attemptGroupId capitalReservationId replacesClientOrderId : String := "")
  attemptNumber : Int := 1
  attemptDeadlineAt : Option String := none

/-- `BrokerOrder.create`, with the id it generates. -/
def PersistedOrder.create (clientOrderId : String) (now : UtcNow) (arguments : CreateArguments) :
    PersistedOrder :=
  let key := orText arguments.buylistSymbolKey
    (upper arguments.environment ++ ":" ++ arguments.accountNo ++ ":" ++ upper arguments.symbol)
  postInit { arguments with
    clientOrderId
    submittedAt := now
    updatedAt := now
    remainingQuantity := arguments.quantityRequested
    buylistKey := key
    buylistSymbolKey := key }

/-- `int(float(value))`: the nearest number with 53 significant bits. -/
def intOfDouble (value : Int) : Except Raised Int :=
  let unit : Int := 2 ^ (Nat.log2 value.natAbs - 52)
  let nearest := roundHalfEven (value / unit) * unit
  if nearest.natAbs < 2 ^ 1024 then .ok nearest
  else .error { cls := .overflowError, message := "int too large to convert to float" }

/-- The dictionary of an order; an enumeration stands for its value. -/
structure OrderDict where
  (clientOrderId environment accountNo symbol exchange executionPolicy brokerOrderId submittedAt
    updatedAt errorMessage buylistKey buylistSymbolKey attemptGroupId attemptDeadlineAt
    replacesClientOrderId capitalReservationId cancelRequestedAt terminalReason : Option String)
  side : Option OrderSide
  intent : Option OrderIntent
  status : Option OrderStatus
  (quantityRequested filledQuantity appliedFilledQuantity remainingQuantity
    attemptNumber : Option Int)
  (limitPrice avgFillPrice : Option ℚ)
  rawSubmitResponse : Option JsonValue
  rawStatusResponse : Option StatusResponse
  retryEligible : Option Bool

namespace PersistedOrder

def toDict (order : PersistedOrder) : OrderDict where
  clientOrderId := order.clientOrderId
  environment := order.environment
  accountNo := order.accountNo
  symbol := order.symbol
  side := order.side
  intent := order.intent
  quantityRequested := order.quantityRequested
  limitPrice := order.limitPrice
  exchange := order.exchange
  status := order.status
  executionPolicy := order.executionPolicy
  brokerOrderId := order.brokerOrderId
  submittedAt := order.submittedAt
  updatedAt := order.updatedAt
  filledQuantity := order.filledQuantity
  appliedFilledQuantity := order.appliedFilledQuantity
  remainingQuantity := order.remainingQuantity
  avgFillPrice := order.avgFillPrice
  rawSubmitResponse := order.rawSubmitResponse
  rawStatusResponse := order.rawStatusResponse
  errorMessage := order.errorMessage
  buylistKey := order.buylistKey
  buylistSymbolKey := order.buylistSymbolKey
  attemptGroupId := order.attemptGroupId
  attemptNumber := order.attemptNumber
  attemptDeadlineAt := order.attemptDeadlineAt
  retryEligible := order.retryEligible
  replacesClientOrderId := order.replacesClientOrderId
  capitalReservationId := order.capitalReservationId
  cancelRequestedAt := order.cancelRequestedAt
  terminalReason := order.terminalReason

def fromDict (now : UtcNow) (data : OrderDict) : Except Raised PersistedOrder := do
  let quantityRequested ← intOfDouble (data.quantityRequested.getD 0)
  let filledQuantity ← intOfDouble (data.filledQuantity.getD 0)
  let appliedFilledQuantity ← intOfDouble (data.appliedFilledQuantity.getD 0)
  let remainingQuantity ← intOfDouble (data.remainingQuantity.getD 0)
  pure (postInit
    { clientOrderId := data.clientOrderId.getD ""
      environment := data.environment.getD ""
      accountNo := data.accountNo.getD ""
      symbol := data.symbol.getD ""
      side := data.side.getD .buy
      intent := data.intent.getD .unknown
      quantityRequested
      limitPrice := data.limitPrice.getD 0
      exchange := data.exchange.getD ""
      status := data.status.getD .unknown
      executionPolicy := orText (data.executionPolicy.getD "") regularLimitExecution
      brokerOrderId := data.brokerOrderId.getD ""
      submittedAt := orText (data.submittedAt.getD "") now
      updatedAt := orText (data.updatedAt.getD "") now
      filledQuantity
      appliedFilledQuantity
      remainingQuantity
      avgFillPrice := data.avgFillPrice.getD 0
      rawSubmitResponse := data.rawSubmitResponse
      rawStatusResponse := data.rawStatusResponse
      errorMessage := data.errorMessage.getD ""
      buylistKey := data.buylistKey.getD ""
      buylistSymbolKey := data.buylistSymbolKey.getD ""
      attemptGroupId := data.attemptGroupId.getD ""
      attemptNumber := intOr data.attemptNumber 1
      attemptDeadlineAt := data.attemptDeadlineAt
      retryEligible := data.retryEligible.getD true
      replacesClientOrderId := data.replacesClientOrderId.getD ""
      capitalReservationId := data.capitalReservationId.getD ""
      cancelRequestedAt := data.cancelRequestedAt
      terminalReason := data.terminalReason.getD "" })

/-- What the constructor leaves, and every change of the ledger keeps. -/
structure Reloadable (order : PersistedOrder) : Prop where
  environment : upper order.environment = order.environment
  symbol : upper order.symbol = order.symbol
  exchange : upper order.exchange = order.exchange
  executionPolicy : upper (strip order.executionPolicy) = order.executionPolicy
  attemptNumber : order.attemptNumber ≠ 0
  attemptDeadlineAt : textOrNone order.attemptDeadlineAt = order.attemptDeadlineAt
  submittedAt : order.submittedAt ≠ ""
  updatedAt : order.updatedAt ≠ ""
  buylistKey : order.buylistKey ≠ ""
  buylistSymbolKey : order.buylistSymbolKey ≠ ""
  cancelRequestedAt : textOrNone order.cancelRequestedAt = order.cancelRequestedAt

/-- A double holds the number exactly. -/
def ExactDouble (value : Int) : Prop :=
  2 ^ (Nat.log2 value.natAbs - 52) ∣ value ∧ value.natAbs < 2 ^ 1024

/-- The policy is no blank text, doubles hold the quantities, and an order without a remainder has
a fill or asks for nothing. -/
structure SurvivesReload (order : PersistedOrder) : Prop where
  executionPolicy : order.executionPolicy ≠ ""
  quantityRequested : ExactDouble order.quantityRequested
  filledQuantity : ExactDouble order.filledQuantity
  appliedFilledQuantity : ExactDouble order.appliedFilledQuantity
  remainingQuantity : ExactDouble order.remainingQuantity
  unfilled : order.remainingQuantity = 0 → order.filledQuantity = 0 → order.quantityRequested = 0

variable {order : PersistedOrder} {now : UtcNow} {value : Int}

theorem intOfDouble_eq_self_iff : intOfDouble value = .ok value ↔ ExactDouble value := by
  unfold intOfDouble ExactDouble
  dsimp only
  constructor
  · intro h
    split at h
    next hSmall =>
      have hNearest := Except.ok.inj h
      exact ⟨Dvd.intro_left _ hNearest, hNearest ▸ hSmall⟩
    · cases h
  · rintro ⟨⟨count, hCount⟩, hSmall⟩
    have hUnit : ((2 ^ (Nat.log2 value.natAbs - 52) : Int) : ℚ) ≠ 0 := by positivity
    have hRatio : (value : ℚ) / (2 ^ (Nat.log2 value.natAbs - 52) : Int) = count := by
      rw [div_eq_iff hUnit, mul_comm]
      exact_mod_cast hCount
    have hRound : roundHalfEven (count : ℚ) = count := by simp [roundHalfEven]
    rw [hRatio, hRound, mul_comm, ← hCount, if_pos hSmall]

theorem eq_zero_of_intOfDouble (h : intOfDouble value = .ok 0) : value = 0 := by
  by_contra hValue
  have hUnit : 2 ^ (Nat.log2 value.natAbs - 52) ≤ value.natAbs :=
    (Nat.pow_le_pow_right two_pos (Nat.sub_le ..)).trans (Nat.log2_self_le (by omega))
  unfold intOfDouble at h
  dsimp only at h
  split at h
  · have hPositive : (0 : ℚ) < (2 ^ (Nat.log2 value.natAbs - 52) : Int) := by positivity
    have hZero := (mul_eq_zero.mp (Except.ok.inj h)).resolve_right (by positivity)
    have hNear := abs_roundHalfEven_sub (value / (2 ^ (Nat.log2 value.natAbs - 52) : Int))
    rw [hZero, Int.cast_zero, zero_sub, abs_neg, abs_div, abs_of_pos hPositive,
      div_le_iff₀ hPositive] at hNear
    have hLarge : ((2 ^ (Nat.log2 value.natAbs - 52) : Int) : ℚ) ≤ |(value : ℚ)| := by
      rw [← Int.cast_abs, Int.abs_eq_natAbs]
      exact_mod_cast hUnit
    linarith
  · cases h

/-- Rounding may reach the next power of two, which has one bit less to spare. -/
theorem exactDouble_of_intOfDouble {nearest : Int} (h : intOfDouble value = .ok nearest) :
    ExactDouble nearest := by
  unfold intOfDouble at h
  dsimp only at h
  split at h
  next hSmall =>
    have hNearest := Except.ok.inj h
    refine ⟨?_, hNearest ▸ hSmall⟩
    clear h hSmall
    set e := Nat.log2 value.natAbs - 52 with he
    set count := roundHalfEven (value / (2 ^ e : Int))
    have hUnit : (0 : ℚ) < (2 ^ e : Int) := by positivity
    have hValue : |(value : ℚ)| < 2 ^ 53 * (2 ^ e : Int) := by
      have hLog : value.natAbs < 2 ^ (53 + e) :=
        Nat.lt_log2_self.trans_le (Nat.pow_le_pow_right two_pos (by omega))
      rw [← Int.cast_abs, Int.abs_eq_natAbs]
      rw [pow_add] at hLog
      exact_mod_cast hLog
    have hNear := abs_roundHalfEven_sub (value / (2 ^ e : Int))
    have hRatio : |(value : ℚ) / (2 ^ e : Int)| < 2 ^ 53 := by
      rwa [abs_div, abs_of_pos hUnit, div_lt_iff₀ hUnit]
    have hCount : count.natAbs ≤ 2 ^ 53 := by
      have hSum : |(count : ℚ)| < 2 ^ 53 + 1 := by
        have hParts := abs_add_le ((count : ℚ) - value / (2 ^ e : Int)) (value / (2 ^ e : Int))
        rw [sub_add_cancel] at hParts
        linarith
      rw [← Int.cast_abs, Int.abs_eq_natAbs] at hSum
      exact Nat.lt_succ_iff.mp (by exact_mod_cast hSum)
    have hSize : nearest.natAbs = count.natAbs * 2 ^ e := by
      rw [← hNearest, Int.natAbs_mul, Int.natAbs_pow]
      rfl
    refine Int.natAbs_dvd_natAbs.mp ?_
    rw [Int.natAbs_pow, hSize]
    show 2 ^ _ ∣ _
    rcases Nat.eq_or_lt_of_le hCount with hFull | hBelow
    · rw [hFull, ← pow_add, Nat.log2_two_pow]
      exact pow_dvd_pow 2 (by omega)
    · by_cases hZero : count.natAbs = 0
      · rw [hZero, Nat.zero_mul]
        exact dvd_zero _
      · have hLog : Nat.log2 (count.natAbs * 2 ^ e) < 53 + e := by
          rw [Nat.log2_lt (by positivity), pow_add]
          exact Nat.mul_lt_mul_of_pos_right hBelow (by positivity)
        exact (pow_dvd_pow 2 (by omega)).mul_left _
  · cases h

theorem orText_of_ne {text : String} (default : String) (h : text ≠ "") :
    orText text default = text :=
  if_neg h

theorem orText_ne_empty {text default : String} (h : text ≠ "" ∨ default ≠ "") :
    orText text default ≠ "" := by
  unfold orText
  split <;> simp_all

theorem textOrNone_textOrNone (text : Option String) :
    textOrNone (textOrNone text) = textOrNone text := by
  simp [textOrNone, Option.filter_filter]

theorem normalizedPolicy_orText (policy : String) :
    normalizedPolicy (orText policy regularLimitExecution) = normalizedPolicy policy := by
  by_cases h : policy = "" <;> simp [normalizedPolicy, orText, h]

theorem postInit_reloadable (hSubmitted : order.submittedAt ≠ "")
    (hUpdated : order.updatedAt ≠ "") : Reloadable order.postInit where
  environment := upper_upper _
  symbol := upper_upper _
  exchange := upper_upper _
  executionPolicy := by
    show upper (strip (upper (strip _))) = upper (strip _)
    rw [strip_upper, upper_upper, strip_strip]
  attemptNumber := by
    show (if order.attemptNumber = 0 then 1 else order.attemptNumber) ≠ 0
    split <;> omega
  attemptDeadlineAt := textOrNone_textOrNone _
  submittedAt := hSubmitted
  updatedAt := hUpdated
  buylistKey := orText_ne_empty (.inr (orText_ne_empty (.inr (by simp))))
  buylistSymbolKey := orText_ne_empty (.inr (orText_ne_empty (.inl (orText_ne_empty
    (.inr (orText_ne_empty (.inr (by simp))))))))
  cancelRequestedAt := textOrNone_textOrNone _

theorem Reloadable.fromDict_toDict (h : Reloadable order) :
    fromDict now (toDict order) = (do
      let quantityRequested ← intOfDouble order.quantityRequested
      let filledQuantity ← intOfDouble order.filledQuantity
      let appliedFilledQuantity ← intOfDouble order.appliedFilledQuantity
      let remainingQuantity ← intOfDouble order.remainingQuantity
      pure { order with
        quantityRequested
        filledQuantity
        appliedFilledQuantity
        remainingQuantity :=
          if remainingQuantity = 0 ∧ filledQuantity = 0 then quantityRequested
          else remainingQuantity
        executionPolicy := normalizedPolicy order.executionPolicy }) := by
  unfold fromDict
  refine bind_congr fun quantityRequested => bind_congr fun filledQuantity =>
    bind_congr fun appliedFilledQuantity => bind_congr fun remainingQuantity => congrArg pure ?_
  unfold postInit
  simp [toDict, orText_of_ne _ h.buylistKey, orText_of_ne _ h.buylistSymbolKey, h.environment,
    h.symbol, h.exchange, h.attemptDeadlineAt, h.cancelRequestedAt, orText_of_ne _ h.submittedAt,
    orText_of_ne _ h.updatedAt, intOr, h.attemptNumber, normalizedPolicy_orText]

/-- An order that is reloaded is the same just when it survives. -/
theorem Reloadable.reload_iff (h : Reloadable order) :
    fromDict now (toDict order) = .ok order ↔ SurvivesReload order := by
  rw [h.fromDict_toDict]
  constructor
  · intro hSame
    obtain ⟨requested, hRequested, hSame⟩ := bind_eq_ok.mp hSame
    obtain ⟨filled, hFilled, hSame⟩ := bind_eq_ok.mp hSame
    obtain ⟨applied, hApplied, hSame⟩ := bind_eq_ok.mp hSame
    obtain ⟨remaining, hRemaining, hSame⟩ := bind_eq_ok.mp hSame
    have hFields := congrArg (fun after => (after.quantityRequested, after.filledQuantity,
      after.appliedFilledQuantity, after.remainingQuantity, after.executionPolicy))
      (Except.ok.inj hSame)
    simp only [Prod.mk.injEq] at hFields
    obtain ⟨rfl, rfl, rfl, hLeft, hPolicy⟩ := hFields
    have hRemainingSame : remaining = order.remainingQuantity := by
      split at hLeft
      next hNothing =>
        rw [hNothing.1] at hRemaining ⊢
        exact (eq_zero_of_intOfDouble hRemaining).symm
      · exact hLeft
    rw [hRemainingSame] at hLeft hRemaining
    refine ⟨?_, intOfDouble_eq_self_iff.mp hRequested, intOfDouble_eq_self_iff.mp hFilled,
      intOfDouble_eq_self_iff.mp hApplied, intOfDouble_eq_self_iff.mp hRemaining, ?_⟩
    · intro hBlank
      rw [hBlank] at hPolicy
      exact absurd hPolicy (by decide +kernel)
    · intro hNoRest hNoFill
      rwa [if_pos ⟨hNoRest, hNoFill⟩, hNoRest] at hLeft
  · intro hKept
    rw [intOfDouble_eq_self_iff.mpr hKept.quantityRequested,
      intOfDouble_eq_self_iff.mpr hKept.filledQuantity,
      intOfDouble_eq_self_iff.mpr hKept.appliedFilledQuantity,
      intOfDouble_eq_self_iff.mpr hKept.remainingQuantity]
    have hPolicy : normalizedPolicy order.executionPolicy = order.executionPolicy := by
      rw [normalizedPolicy, if_neg hKept.executionPolicy, h.executionPolicy]
    have hLeft : (if order.remainingQuantity = 0 ∧ order.filledQuantity = 0 then
        order.quantityRequested else order.remainingQuantity) = order.remainingQuantity := by
      split
      next hNothing => rw [hKept.unfilled hNothing.1 hNothing.2, hNothing.1]
      · rfl
    show Except.ok _ = _
    rw [hPolicy, hLeft]

/-! ## The changes of the ledger -/

/-- The order with the fields that reconciliation writes. -/
def withReconciled (order : PersistedOrder) (ledger : LedgerOrder) (now : UtcNow) :
    PersistedOrder :=
  { order with
    clientOrderId := ledger.clientOrderId
    brokerOrderId := ledger.brokerOrderId
    limitPrice := ledger.limitPrice
    status := ledger.status
    filledQuantity := ledger.filledQuantity
    remainingQuantity := ledger.remainingQuantity
    avgFillPrice := ledger.avgFillPrice
    rawStatusResponse := ledger.rawStatusResponse
    updatedAt := now }

/-- A broker row of the order, the holdings, with the orders around it in the ledger, or a status
and a text that `mutate_order` sets. -/
inductive OrderChange
  | reconcile (snapshot : LedgerSnapshot)
  | holdings (before after : List LedgerOrder) (snapshot : JsonValue) (previous : Option JsonValue)
  | status (status : OrderStatus) (errorMessage : String)

/-- One change, with the time that `touch` reads; the holdings touch the open orders. -/
def applyChange (python : PythonText) (order : PersistedOrder) :
    UtcNow × OrderChange → Except Raised PersistedOrder
  | (now, .reconcile snapshot) =>
    .ok (order.withReconciled (reconcileOrderWithBrokerSnapshot order.toLedgerOrder snapshot) now)
  | (now, .holdings before after snapshot previous) => do
    let reconciled ← reconcileOrdersWithSnapshot python (before ++ order.toLedgerOrder :: after)
      snapshot previous
    pure (if isOpenStatus order.status then
      order.withReconciled (reconciled.getD before.length order.toLedgerOrder) now else order)
  | (now, .status status errorMessage) =>
    .ok { order with status, errorMessage, updatedAt := now }

variable {python : PythonText} {changes : List (UtcNow × OrderChange)} {after : PersistedOrder}

theorem Reloadable.applyChange {change : UtcNow × OrderChange} (h : Reloadable order)
    (hChange : applyChange python order change = .ok after) : Reloadable after := by
  obtain ⟨now, change⟩ := change
  have hTouched : ∀ ledger, Reloadable (order.withReconciled ledger now) :=
    fun _ => { h with updatedAt := now.2 }
  cases change with
  | reconcile =>
    cases hChange
    exact hTouched _
  | holdings =>
    obtain ⟨reconciled, _, hChange⟩ := bind_eq_ok.mp hChange
    cases hChange
    split
    · exact hTouched _
    · exact h
  | status =>
    cases hChange
    exact { h with updatedAt := now.2 }

theorem reloadable_run {id : String} {created : UtcNow} {arguments : CreateArguments}
    (hRun : changes.foldlM (applyChange python) (create id created arguments) = .ok order) :
    Reloadable order :=
  foldlM_invariant Reloadable (postInit_reloadable created.2 created.2)
    (fun _ _ _ _ h hChange => h.applyChange hChange) hRun

/-- An order that is created and then changed in any way is the same after a reload just when it
survives it. -/
theorem ledger_order_survives_iff {id : String} {created : UtcNow} {arguments : CreateArguments}
    (hRun : changes.foldlM (applyChange python) (create id created arguments) = .ok order)
    (now : UtcNow) : fromDict now (toDict order) = .ok order ↔ SurvivesReload order :=
  (reloadable_run hRun).reload_iff

def sampleNow : UtcNow := ⟨"2026-01-02T15:00:00Z", by decide⟩

/-- Ten shares are ordered, and a row of the broker says what has become of them. -/
def answeredOrder (status : OrderStatus) (filled : Int) : Except Raised PersistedOrder :=
  [(sampleNow, OrderChange.reconcile (ledgerSnapshot status filled))].foldlM
    (applyChange { floatOfText := fun _ => none, str := fun _ => "" })
    (create "c1" sampleNow
      { environment := "PROD", accountNo := "1", symbol := "AAPL", side := .buy
        quantityRequested := 10, limitPrice := 100 })

theorem ledger_order_survives_partial_fill :
    ∃ order, answeredOrder .partiallyFilled 4 = .ok order ∧
      fromDict sampleNow (toDict order) = .ok order := by
  have hRun : answeredOrder .partiallyFilled 4 = .ok _ := rfl
  refine ⟨_, hRun, (ledger_order_survives_iff hRun sampleNow).mpr ?_⟩
  exact
    { executionPolicy := by decide +kernel
      quantityRequested := ⟨by decide +kernel, by decide +kernel⟩
      filledQuantity := ⟨by decide +kernel, by decide +kernel⟩
      appliedFilledQuantity := ⟨by decide +kernel, by decide +kernel⟩
      remainingQuantity := ⟨by decide +kernel, by decide +kernel⟩
      unfilled := by decide +kernel }

/-- A cancellation without a fill leaves no remainder, and the reload brings it back. -/
theorem cancelled_order_reloads_open :
    ¬ ∀ (python : PythonText) (changes : List (UtcNow × OrderChange)) (id : String)
      (created now : UtcNow) (arguments : CreateArguments) (order : PersistedOrder),
      changes.foldlM (applyChange python) (create id created arguments) = .ok order →
        fromDict now (toDict order) = .ok order := by
  intro hAll
  obtain ⟨order, hRun, hNothing, hRequested⟩ : ∃ order, answeredOrder .cancelled 0 = .ok order ∧
      (order.remainingQuantity = 0 ∧ order.filledQuantity = 0) ∧ order.quantityRequested = 10 :=
    ⟨_, rfl, by decide +kernel, rfl⟩
  have hKept := (reloadable_run hRun).reload_iff.mp (hAll _ _ _ _ sampleNow _ order hRun)
  exact absurd (hRequested.symm.trans (hKept.unfilled hNothing.1 hNothing.2)) (by decide)

/-- Whatever an order went through, one reload settles it: every later one gives it back as it
is. -/
theorem reloads_settle {id : String} {created : UtcNow} {arguments : CreateArguments}
    (hRun : changes.foldlM (applyChange python) (create id created arguments) = .ok order)
    (hReload : fromDict now (toDict order) = .ok after) (later : UtcNow) :
    fromDict later (toDict after) = .ok after := by
  have h := reloadable_run hRun
  rw [h.fromDict_toDict] at hReload
  obtain ⟨requested, hRequested, hReload⟩ := bind_eq_ok.mp hReload
  obtain ⟨filled, hFilled, hReload⟩ := bind_eq_ok.mp hReload
  obtain ⟨applied, hApplied, hReload⟩ := bind_eq_ok.mp hReload
  obtain ⟨remaining, hRemaining, hReload⟩ := bind_eq_ok.mp hReload
  cases hReload
  have hPolicy : normalizedPolicy order.executionPolicy ≠ "" ∧
      upper (strip (normalizedPolicy order.executionPolicy)) =
        normalizedPolicy order.executionPolicy := by
    unfold normalizedPolicy
    split
    · exact ⟨by decide +kernel, by decide +kernel⟩
    next hNamed =>
      rw [h.executionPolicy]
      exact ⟨hNamed, h.executionPolicy⟩
  refine (Reloadable.reload_iff ?_).mpr ⟨hPolicy.1, exactDouble_of_intOfDouble hRequested,
    exactDouble_of_intOfDouble hFilled, exactDouble_of_intOfDouble hApplied, ?_, ?_⟩
  · exact { h with executionPolicy := hPolicy.2 }
  · dsimp only
    split
    · exact exactDouble_of_intOfDouble hRequested
    · exact exactDouble_of_intOfDouble hRemaining
  · dsimp only
    split <;> simp_all

/-- The reload of a cancellation without a fill brings the remainder back, and that stays. -/
theorem reloads_settle_cancelled : ∃ order once, answeredOrder .cancelled 0 = .ok order ∧
    fromDict sampleNow (toDict order) = .ok once ∧
      ∀ later, fromDict later (toDict once) = .ok once := by
  have hOk : (answeredOrder .cancelled 0 >>= fun order =>
    fromDict sampleNow (toDict order)).toBool = true := by decide +kernel
  cases hBoth : answeredOrder .cancelled 0 >>= fun order => fromDict sampleNow (toDict order) with
  | error =>
    rw [hBoth] at hOk
    cases hOk
  | ok once =>
    obtain ⟨order, hRun, hReload⟩ := bind_eq_ok.mp hBoth
    exact ⟨order, once, hRun, hReload, reloads_settle hRun hReload⟩

end PersistedOrder

end QuantApp.Services
