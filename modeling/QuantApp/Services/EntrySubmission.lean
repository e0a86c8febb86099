import Mathlib.Tactic.Linarith
import QuantApp.Risk.OrbPosition
import QuantApp.Services.CardPersistence
import QuantApp.Services.PortfolioExposures

/-!
# The last check of an entry

`submit_order` of `build_buyboard_runtime` and `_revalidate_and_approve` of
`src/services/buyboard_runtime.py`, up to the decision that is handed to the gateway: the
requested quantity is cut to what the risk budget buys at the submitted price, and the
order with the remaining quantity is checked again.

The cut rounds up, so an approved entry may risk up to one share more than the budget.
-/

namespace QuantApp.Services

open Core Risk Verified

variable {card : CompleteCard} {quantity : Int} {limitPrice : ℚ} {exchange : String} {now : Instant}
  {decision : PreTradeRiskDecision}

def defaultApprovalTtl : Int := secondsToMicros 30

/-- The decision that is bound to one order. -/
structure PreTradeRiskDecision where
  approved : Bool
  environment : String
  accountNo : String
  symbol : String
  side : OrderSide
  intent : OrderIntent
  quantity : Int
  referencePrice : ℚ
  exchange : String
  executionPolicy : String
  strategyId : String
  planId : String
  evaluatedAt : Instant
  expiresAt : Instant
  reasons : List String := []
  portfolioRiskReservation : Option PortfolioRiskReservationSpec := none

def entryPlanId (card : CompleteCard) : String :=
  card.environment ++ ":" ++ card.symbol ++ ":" ++
    (card.selectedOrbWindow.filter (· ≠ "")).getD "unknown"

/-- `PreTradeRiskDecision.create`, for the entry of a card. -/
def createDecision (card : CompleteCard) (approved : Bool) (reasons : List String)
    (quantity : Int) (limitPrice : ℚ) (exchange : String) (now : Instant) :
    Except Raised PreTradeRiskDecision :=
  if limitPrice ≤ 0 then
    .error
      { cls := .valueError
        message := "Risk-decision reference price must be positive and finite" }
  else if quantity ≤ 0 then
    .error
      { cls := .valueError
        message := "Share quantity must be a positive whole finite number" }
  else
    .ok
      { approved := approved
        environment := upper (strip card.environment)
        accountNo := strip card.accountNo
        symbol := upper (strip card.symbol)
        side := .buy
        intent := .entry
        quantity := quantity
        referencePrice := limitPrice
        exchange := upper (strip exchange)
        executionPolicy := upper (strip regularLimitExecution)
        strategyId := riskStrategyId
        planId := strip (entryPlanId card)
        evaluatedAt := now
        expiresAt := now + defaultApprovalTtl
        reasons := (reasons.map strip).filter (· ≠ "") }

/-- The numbers the order is checked by. -/
def revalidatedSizing (card : CompleteCard) (quantity : Int) (limitPrice accountEquity : ℚ) :
    OrbPositionValues :=
  { shares := quantity
    capitalPercent := if 0 < accountEquity then quantity * limitPrice / accountEquity * 100 else 0
    stopLossPercent :=
      match card.entryOrbLow with
      | some stop => if 0 < limitPrice then (limitPrice - stop) / limitPrice * 100 else 0
      | none => 0
    slAdr := card.stopAdr }

/-- What the revalidation objects to before it looks at the bounds of a position. -/
def orderReasons (card : CompleteCard) (quantity : Int) (limitPrice accountEquity : ℚ) :
    List String :=
  (if accountEquity ≤ 0 then ["Fresh positive account equity is required"] else []) ++
    (if quantity ≤ 0 then ["Non-positive quantity"] else []) ++
    (if limitPrice ≤ 0 then ["Non-positive reference price"] else []) ++
    (if card.entryOrbLow.any (fun stop => limitPrice ≤ stop) then
      ["Stop is not below the entry price"]
    else [])

/-- `_revalidate_and_approve`; `boundsText` formats the numbers of the bounds' reason. -/
def revalidateAndApprove (settings : OrbSettings) (boundsText : ℚ → Option ℚ → String)
    (now : Instant) (card : CompleteCard) (quantity : Int) (limitPrice : ℚ) (exchange : String)
    (accountSize : ℚ) : Except Raised PreTradeRiskDecision :=
  let accountEquity := if accountSize ≤ 0 then 0 else accountSize
  let early := orderReasons card quantity limitPrice accountEquity
  let sizing := revalidatedSizing card quantity limitPrice accountEquity
  let reasons :=
    if early = [] ∧ isOrbPositionPlanValid settings sizing none = false then
      ["Order fingerprint fails ORB position bounds: " ++
        boundsText sizing.capitalPercent card.stopAdr]
    else early
  createDecision card (reasons = []) reasons quantity limitPrice exchange now

/-! ## The submission -/

/-- The arguments of `submit_order` that its decision depends on. -/
structure EntryArguments where
  intent : OrderIntent
  quantity : Int
  limitPrice : ℚ

/-- What the callbacks of the runtime answer: the equity (`none` where it cannot be read), the
venue of the card, and the portfolio decision about a quantity. -/
structure EntryRuntime where
  equity : Option ℚ
  exchange : Except Raised String
  portfolio : Int → Except Raised PortfolioRiskDecision
  settings : OrbSettings
  boundsText : ℚ → Option ℚ → String
  now : Instant

/-- The equity the entry is sized by. -/
def EntryRuntime.accountEquity (answers : EntryRuntime) : ℚ :=
  match answers.equity with
  | some equity => if equity ≤ 0 then 0 else equity
  | none => 0

/-- The quantity that is left of the request. -/
def resizedQuantity (card : Option CompleteCard) (arguments : EntryArguments)
    (accountEquity : ℚ) : Int :=
  match card with
  | none => arguments.quantity
  | some card =>
    match card.entryOrbLow with
    | none => arguments.quantity
    | some low =>
      if arguments.intent = .entry ∧ low ≠ 0 ∧ 0 < card.riskPercent then
        let safeShares := (calculateOrbPositionValues accountEquity card.riskPercent
          arguments.limitPrice low none).shares
        if 0 < safeShares then min arguments.quantity safeShares else arguments.quantity
      else arguments.quantity

/-- The portfolio's part of the decision. -/
def withPortfolio (decision : PreTradeRiskDecision)
    (portfolio : Except Raised PortfolioRiskDecision) : PreTradeRiskDecision :=
  let specified :=
    match portfolio with
    | .ok answer => { decision with portfolioRiskReservation := answer.reservationSpec }
    | .error _ => decision
  let reasons :=
    match portfolio with
    | .ok answer => answer.reasons
    | .error error => ["Portfolio risk snapshot unavailable: " ++ error.message]
  if reasons = [] then specified
  else
    { specified with
      approved := false
      reasons := (decision.reasons ++ reasons).eraseDups }

/-- What is handed to `request_submit`. -/
structure SubmittedEntry where
  quantity : Int
  exchange : String
  revalidation : Option PreTradeRiskDecision
  decision : Option PreTradeRiskDecision

/-- `submit_order`, up to `request_submit`. -/
def submitOrder (answers : EntryRuntime) (card : Option CompleteCard)
    (arguments : EntryArguments) : Except Raised SubmittedEntry := do
  let exchange ← answers.exchange
  let accountEquity := answers.accountEquity
  let quantity := resizedQuantity card arguments accountEquity
  match card with
  | none =>
    pure { quantity := quantity, exchange := exchange, revalidation := none, decision := none }
  | some card =>
    let revalidation ← revalidateAndApprove answers.settings answers.boundsText answers.now
      card quantity arguments.limitPrice exchange accountEquity
    pure
      { quantity := quantity
        exchange := exchange
        revalidation := some revalidation
        decision := some
          (if arguments.intent = .entry then
            withPortfolio revalidation (answers.portfolio quantity)
          else revalidation) }

/-! ## What an approval tells -/

theorem createDecision_approved {approved : Bool} {reasons : List String}
    (h : createDecision card approved reasons quantity limitPrice exchange now = .ok decision) :
    decision.approved = approved := by
  unfold createDecision at h
  split at h
  · cases h
  · split at h
    · cases h
    · rw [← Except.ok.inj h]

theorem orderReasons_eq_nil {accountEquity : ℚ}
    (h : orderReasons card quantity limitPrice accountEquity = []) :
    0 < accountEquity ∧ ∀ low, card.entryOrbLow = some low → low < limitPrice := by
  unfold orderReasons at h
  simp only [List.append_eq_nil_iff, ite_eq_right_iff, List.cons_ne_nil, imp_false, not_le] at h
  refine ⟨h.1.1.1, ?_⟩
  intro low hLow
  have hAbove := h.2
  rw [hLow] at hAbove
  simpa using hAbove

/-- An approved order has a positive equity and a limit above the ORB low. -/
theorem approved_facts {settings : OrbSettings} {boundsText : ℚ → Option ℚ → String}
    {accountSize low : ℚ}
    (h : revalidateAndApprove settings boundsText now card quantity limitPrice exchange
      accountSize = .ok decision) (hApproved : decision.approved = true)
    (hLow : card.entryOrbLow = some low) : 0 < accountSize ∧ low < limitPrice := by
  unfold revalidateAndApprove at h
  rw [createDecision_approved h, decide_eq_true_eq] at hApproved
  have hEarly : orderReasons card quantity limitPrice
      (if accountSize ≤ 0 then 0 else accountSize) = [] := by
    by_contra hSome
    rw [if_neg (fun hBounds => hSome hBounds.1)] at hApproved
    exact hSome hApproved
  obtain ⟨hEquity, hBelow⟩ := orderReasons_eq_nil hEarly
  refine ⟨?_, hBelow low hLow⟩
  by_contra hNone
  rw [if_pos (le_of_not_gt hNone)] at hEquity
  exact lt_irrefl _ hEquity

/-- A share count that is cut to a rounded-up budget: less than one share above it, and within
it only when the request is, or when the budget is a whole number of shares. -/
theorem risk_of_cut {requested : Int} {budget perShare : ℚ} (hPer : 0 < perShare) :
    ((min requested ⌈budget / perShare⌉ : Int) : ℚ) * perShare < budget + perShare ∧
      (((min requested ⌈budget / perShare⌉ : Int) : ℚ) * perShare ≤ budget ↔
        requested * perShare ≤ budget ∨ ∃ shares : Int, shares * perShare = budget) := by
  have hLe : ((min requested ⌈budget / perShare⌉ : Int) : ℚ) ≤ (⌈budget / perShare⌉ : ℚ) := by
    exact_mod_cast min_le_right _ _
  constructor
  · have hCeil : (⌈budget / perShare⌉ : ℚ) < budget / perShare + 1 := Int.ceil_lt_add_one _
    calc ((min requested ⌈budget / perShare⌉ : Int) : ℚ) * perShare
        < (budget / perShare + 1) * perShare := by
          exact mul_lt_mul_of_pos_right (lt_of_le_of_lt hLe hCeil) hPer
      _ = budget + perShare := by
          rw [add_mul, one_mul, div_mul_cancel₀ _ hPer.ne']
  · constructor
    · intro hWithin
      rcases min_choice requested ⌈budget / perShare⌉ with hRequest | hBudget
      · rw [hRequest] at hWithin
        exact .inl hWithin
      · rw [hBudget] at hWithin
        refine .inr ⟨⌈budget / perShare⌉, le_antisymm hWithin ?_⟩
        have hCeil : budget / perShare ≤ (⌈budget / perShare⌉ : ℚ) := Int.le_ceil _
        exact (div_le_iff₀ hPer).mp hCeil
    · rintro (hFits | ⟨shares, rfl⟩)
      · have hRequest : ((min requested ⌈budget / perShare⌉ : Int) : ℚ) ≤ requested := by
          exact_mod_cast min_le_left _ _
        exact (mul_le_mul_of_nonneg_right hRequest hPer.le).trans hFits
      · have hWhole : ⌈(shares : ℚ) * perShare / perShare⌉ = shares := by
          rw [mul_div_cancel_right₀ _ hPer.ne', Int.ceil_intCast]
        rw [hWhole] at hLe ⊢
        exact mul_le_mul_of_nonneg_right hLe hPer.le

/-! ## The risk of an approved entry -/

/-- An approved entry of a card with a risk fraction and an ORB low above zero risks less than
the decided amount and the risk of one share more; it stays within the decided amount exactly
when the requested quantity does, or when the amount is a whole number of shares.  A low of
zero or below is never sized by (`stop_pos_of_shares`). -/
theorem approved_risk_rounds_up {answers : EntryRuntime} {card : CompleteCard}
    {arguments : EntryArguments} {submission : SubmittedEntry}
    {revalidation : PreTradeRiskDecision} {low : ℚ} (hRisk : 0 < card.riskPercent)
    (hRiskLe : card.riskPercent ≤ 1) (hLow : card.entryOrbLow = some low) (hLowPos : 0 < low)
    (hIntent : arguments.intent = .entry)
    (h : submitOrder answers (some card) arguments = .ok submission)
    (hRevalidation : submission.revalidation = some revalidation)
    (hApproved : revalidation.approved = true) :
    submission.quantity * (arguments.limitPrice - low) <
        answers.accountEquity * card.riskPercent + (arguments.limitPrice - low) ∧
      (submission.quantity * (arguments.limitPrice - low) ≤
          answers.accountEquity * card.riskPercent ↔
        arguments.quantity * (arguments.limitPrice - low) ≤
            answers.accountEquity * card.riskPercent ∨
          ∃ shares : Int, shares * (arguments.limitPrice - low) =
            answers.accountEquity * card.riskPercent) := by
  obtain ⟨exchange, _, hRest⟩ := bind_eq_ok.mp h
  obtain ⟨decision, hDecision, hPure⟩ := bind_eq_ok.mp hRest
  have hSubmission := Except.ok.inj hPure
  have hSame : decision = revalidation := by
    rw [← hSubmission] at hRevalidation
    exact Option.some.inj hRevalidation
  rw [hSame] at hDecision
  obtain ⟨hEquity, hBelow⟩ := approved_facts hDecision hApproved hLow
  have hPer : 0 < arguments.limitPrice - low := sub_pos.mpr hBelow
  have hBudget : 0 < answers.accountEquity * card.riskPercent / (arguments.limitPrice - low) :=
    div_pos (mul_pos hEquity hRisk) hPer
  have hQuantity : submission.quantity = min arguments.quantity
      ⌈answers.accountEquity * card.riskPercent / (arguments.limitPrice - low)⌉ := by
    rw [← hSubmission]
    show resizedQuantity (some card) arguments answers.accountEquity = _
    unfold resizedQuantity
    simp only [hLow]
    rw [if_pos ⟨hIntent, hLowPos.ne', hRisk⟩,
      calculateOrbPositionValues_shares none hEquity hRisk hRiskLe hLowPos hBelow,
      if_pos (Int.ceil_pos.mpr hBudget)]
  rw [hQuantity]
  exact risk_of_cut hPer

/-- Risk 0.4% of a thousand, with a stop five below the limit of a hundred. -/
def fractionCard : CompleteCard :=
  { environment := "PROD", accountNo := "1", symbol := "AAPL", entryOrbLow := some 95
    riskPercent := 4 / 1000 }

def fractionAnswers : EntryRuntime :=
  { equity := some 1000
    exchange := .ok "NASD"
    portfolio := fun _ => .ok
      { approved := true, reasons := [], positionCountAfter := 1, totalOpenRiskAfterUsd := 5
        grossNotionalAfterUsd := 100, proposedNotionalUsd := 100 }
    settings := {}
    boundsText := fun _ _ => ""
    now := 0 }

def fractionArguments : EntryArguments := { intent := .entry, quantity := 3, limitPrice := 100 }

theorem fraction_submitted :
    ∃ submission revalidation,
      submitOrder fractionAnswers (some fractionCard) fractionArguments = .ok submission ∧
        submission.revalidation = some revalidation ∧ revalidation.approved = true ∧
        submission.quantity = 1 := by
  have hRun : (fun submission : SubmittedEntry =>
        (submission.quantity, submission.revalidation.map (·.approved))) <$>
      submitOrder fractionAnswers (some fractionCard) fractionArguments =
        .ok (1, some true) := by decide +kernel
  obtain ⟨submission, hSubmission, hFields⟩ := map_eq_ok.mp hRun
  obtain ⟨hQuantity, hRevalidation⟩ := Prod.mk.inj hFields
  obtain ⟨revalidation, hSome, hApproved⟩ := Option.map_eq_some_iff.mp hRevalidation
  exact ⟨submission, revalidation, hSubmission, hSome, hApproved, hQuantity⟩

/-- One share, for 0.8 of one. -/
theorem approved_risk_rounds_up_fraction :
    ∃ submission,
      submitOrder fractionAnswers (some fractionCard) fractionArguments = .ok submission ∧
        submission.quantity * ((100 : ℚ) - 95) < 1000 * (4 / 1000) + (100 - 95) := by
  obtain ⟨submission, revalidation, hRun, hSome, hApproved, _⟩ := fraction_submitted
  exact ⟨submission, hRun, (approved_risk_rounds_up (by decide +kernel)
    (by decide +kernel) rfl (by norm_num) rfl hRun hSome hApproved).1⟩

/-- The approved share risks five, the decided amount is four. -/
theorem rounded_share_exceeds_risk :
    ∃ submission revalidation,
      submitOrder fractionAnswers (some fractionCard) fractionArguments = .ok submission ∧
        submission.revalidation = some revalidation ∧ revalidation.approved = true ∧
        ¬ submission.quantity * (fractionArguments.limitPrice - 95) ≤
          fractionAnswers.accountEquity * fractionCard.riskPercent := by
  obtain ⟨submission, revalidation, hRun, hSome, hApproved, hQuantity⟩ := fraction_submitted
  refine ⟨submission, revalidation, hRun, hSome, hApproved, ?_⟩
  rw [hQuantity]
  have hEquity : fractionAnswers.accountEquity * fractionCard.riskPercent = 4 := by
    decide +kernel
  rw [hEquity]
  norm_num [fractionArguments]

end QuantApp.Services
