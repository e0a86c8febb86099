import QuantApp.Core.DiscoveredExternalOrder
import QuantApp.Services.PositionManager
import QuantApp.Verified.ExceptFold

/-!
# Stop changes

A stop change is requested on the board (`src/services/execution_workflow_service.py`),
waits in the pending fields of the card, and is installed by
`TradeCardState.acknowledge_pending_stop_change` once the feed applies its rule.
-/

namespace QuantApp.Services

open Core Verified

variable {card next : TradeCardState} {request : StopRequest} {price : ℚ}

/-- `SetOrbStop`, `SetBreakevenStop` and `SetManualStop`. -/
inductive StopCommand
  | setOrbStop
  | setBreakevenStop
  | setManualStop (price : ℚ)

/-- What a stop request is handled with: its identity, the orders of the card and the
unowned broker orders of the account. -/
structure StopRequest where
  command : StopCommand
  commandId : String
  requestedAt : Instant
  ownedOrders : List ExecutionOrderRecord := []
  externalOrders : List DiscoveredExternalOrder := []

/-- `BoardCommandRejectedError`. -/
def boardCommandRejected (message : String) : Raised :=
  { cls := .boardCommandRejected, message := message }

/-! ## The conflict guard -/

/-- `_card_tracks_order` of the board. -/
def boardTracksOrder (card : TradeCardState) (order : ExecutionOrderRecord) : Bool :=
  (order.clientOrderId ≠ "" &&
    (order.clientOrderId = card.entryClientOrderId ||
      order.clientOrderId = card.exitClientOrderId)) ||
  (order.attemptGroupId ≠ "" &&
    (order.attemptGroupId = card.entryAttemptGroupId ||
      order.attemptGroupId = card.exitAttemptGroupId))

/-- Membership in `_active_external_orders`. -/
def isActiveExternalOrder (card : TradeCardState) (order : DiscoveredExternalOrder) : Bool :=
  order.symbol = card.symbol && order.disposition = .discoveredUnowned &&
    !(order.brokerStatus = .filled || order.brokerStatus = .cancelled ||
      order.brokerStatus = .expired || order.brokerStatus = .rejected)

/-- `_require_board_action_not_conflicted`, for a stop command. -/
def requireStopActionNotConflicted (card : TradeCardState) (request : StopRequest) :
    Except Raised Unit :=
  let activeOrders := request.ownedOrders.filter (fun order => !order.status.isTerminal)
  if card.entrySubmissionUnresolved ∨ card.exitSubmissionUnresolved then
    .error (boardCommandRejected
      "An ambiguous order is awaiting reconciliation; no new board action is allowed")
  else if card.entryCancelInFlight ∨ card.exitCancelInFlight then
    .error (boardCommandRejected
      "A cancellation is already unresolved; wait for broker reconciliation")
  else if card.pendingStop.commandId ≠ "" then
    .error (boardCommandRejected
      ("A stop change is still synchronizing with live market data; wait for runtime " ++
        "acknowledgement"))
  else if request.externalOrders.any (isActiveExternalOrder card) then
    .error (boardCommandRejected
      ("An unowned external broker order is active for this symbol; it must remain separate " ++
        "and be resolved or explicitly adopted"))
  else if activeOrders.any (fun order =>
      order.status = .unknownSubmissionState || order.brokerIdentityStatus = .ambiguous) then
    .error (boardCommandRejected
      ("An owned order has ambiguous broker identity; reconcile it before another UI " ++ "action"))
  else if activeOrders.any (fun order => !boardTracksOrder card order) then
    .error (boardCommandRejected
      ("An active unlinked owned broker order fences execution; explicitly link or resolve it " ++
        "before another execution action"))
  else .ok ()

/-! ## The request -/

variable (config : ExecutionConfig)

def minimumManualStopPrice (card : TradeCardState) : ℚ :=
  max (computeBreakevenStopPrice config card.averageEntryPrice) (card.activeStopPrice.getD 0)

/-- `build_stop_change_command`, the checks of `StopChangeCommand.__post_init__`. -/
def requireStopChange (price : ℚ) (quantity : Int) : Except Raised Unit :=
  if price ≤ 0 then
    .error
      { cls := .valueError
        message := "StopChangeCommand price must be positive and finite" }
  else if quantity ≤ 0 then
    .error
      { cls := .valueError
        message := "StopChangeCommand quantity must be positive" }
  else .ok ()

/-- `request_stop_change` of `_apply_board_mutation`. -/
def requestStopChange (card : TradeCardState) (request : StopRequest) (stopType : StopType)
    (price : ℚ) : Except Raised TradeCardState := do
  requireStopChange price card.brokerQuantity
  pure { card with
    pendingStop :=
      { stopType := some stopType
        price := some price
        quantity := card.brokerQuantity
        commandId := request.commandId
        requestedAt := some request.requestedAt } }

/-- The current stop lies above `price`; a stop of zero is no stop. -/
def widensCurrentStop (card : TradeCardState) (price : ℚ) : Bool :=
  match card.activeStopPrice with
  | some current => current ≠ 0 && price < current
  | none => false

/-- The stop commands of `_apply_board_mutation`.  The prices named in the text of a
refused manual stop are left out. -/
def applyStopCommand (card : TradeCardState)
    (request : StopRequest) : Except Raised TradeCardState :=
  if card.positionRuntimeStatus = .none_ then
    .error (boardCommandRejected "No open position to set a stop on")
  else
    match request.command with
    | .setOrbStop =>
      let orbLow := card.entryOrbLow.getD 0
      if orbLow ≤ 0 then
        .error (boardCommandRejected "The frozen entry ORB low is unavailable")
      else if widensCurrentStop card orbLow then
        .error (boardCommandRejected
          "Changing back to the ORB low would widen current stop protection")
      else requestStopChange card request .orbLow orbLow
    | .setBreakevenStop =>
      let breakeven := computeBreakevenStopPrice config card.averageEntryPrice
      if widensCurrentStop card breakeven then
        .error (boardCommandRejected "Changing to breakeven would widen current stop protection")
      else requestStopChange card request .breakeven breakeven
    | .setManualStop price =>
      if price < minimumManualStopPrice config card then
        .error (boardCommandRejected "Manual stop cannot widen risk below the minimum")
      else requestStopChange card request .manualPrice price

/-- A stop command of the board: the conflict guard, then the mutation. -/
def requestStop (card : TradeCardState) (request : StopRequest) :
    Except Raised TradeCardState := do
  requireStopActionNotConflicted card request
  applyStopCommand config card request

/-! ## The acknowledgement -/

/-- `TradeCardState.acknowledge_pending_stop_change`. -/
def acknowledgePendingStopChange (card : TradeCardState) : TradeCardState :=
  if card.pendingStop.commandId = "" ∨ card.pendingStop.price = none then card
  else
    { card with
      stopType := card.pendingStop.stopType
      activeStopPrice := card.pendingStop.price
      stopQuantity := card.pendingStop.quantity
      pendingStop := {} }

/-! ## What they do to the stop -/

theorem requestStopChange_ok {stopType : StopType}
    (h : requestStopChange card request stopType price = .ok next) :
    0 < price ∧
      next = { card with
        pendingStop :=
          { stopType := some stopType
            price := some price
            quantity := card.brokerQuantity
            commandId := request.commandId
            requestedAt := some request.requestedAt } } := by
  unfold requestStopChange requireStopChange at h
  by_cases hPrice : price ≤ 0
  · rw [if_pos hPrice] at h
    cases h
  rw [if_neg hPrice] at h
  by_cases hQuantity : card.brokerQuantity ≤ 0
  · rw [if_pos hQuantity] at h
    cases h
  rw [if_neg hQuantity] at h
  cases h
  exact ⟨lt_of_not_ge hPrice, rfl⟩

theorem le_of_not_widens {current : ℚ} (hWidens : ¬ widensCurrentStop card price = true)
    (hPrice : 0 < price) (hCurrent : card.activeStopPrice = some current) : current ≤ price := by
  by_cases hZero : current = 0
  · rw [hZero]
    exact hPrice.le
  · simp [widensCurrentStop, hCurrent, hZero] at hWidens
    exact hWidens

/-- What an accepted request does: only the pending stop is written, with a price not
below the stop of that moment. -/
theorem requestStop_ok {config : ExecutionConfig} (h : requestStop config card request = .ok next) :
    ∃ pending : PendingStop, next = { card with pendingStop := pending } ∧
      ∃ price, pending.price = some price ∧
        ∀ current, card.activeStopPrice = some current → current ≤ price := by
  obtain ⟨_, _, hApplied⟩ := bind_eq_ok.mp h
  unfold applyStopCommand at hApplied
  by_cases hNone : card.positionRuntimeStatus = .none_
  · rw [if_pos hNone] at hApplied
    cases hApplied
  rw [if_neg hNone] at hApplied
  cases hCommand : request.command with
  | setOrbStop =>
    simp only [hCommand] at hApplied
    by_cases hLow : card.entryOrbLow.getD 0 ≤ 0
    · rw [if_pos hLow] at hApplied
      cases hApplied
    rw [if_neg hLow] at hApplied
    by_cases hWidens : widensCurrentStop card (card.entryOrbLow.getD 0) = true
    · rw [if_pos hWidens] at hApplied
      cases hApplied
    rw [if_neg hWidens] at hApplied
    obtain ⟨hPrice, hNext⟩ := requestStopChange_ok hApplied
    exact ⟨_, hNext, _, rfl, fun current => le_of_not_widens hWidens hPrice⟩
  | setBreakevenStop =>
    simp only [hCommand] at hApplied
    by_cases hWidens : widensCurrentStop card
        (computeBreakevenStopPrice config card.averageEntryPrice) = true
    · rw [if_pos hWidens] at hApplied
      cases hApplied
    rw [if_neg hWidens] at hApplied
    obtain ⟨hPrice, hNext⟩ := requestStopChange_ok hApplied
    exact ⟨_, hNext, _, rfl, fun current => le_of_not_widens hWidens hPrice⟩
  | setManualStop price =>
    simp only [hCommand] at hApplied
    by_cases hMinimum : price < minimumManualStopPrice config card
    · rw [if_pos hMinimum] at hApplied
      cases hApplied
    rw [if_neg hMinimum] at hApplied
    obtain ⟨_, hNext⟩ := requestStopChange_ok hApplied
    refine ⟨_, hNext, _, rfl, ?_⟩
    intro current hCurrent
    have hAbove : card.activeStopPrice.getD 0 ≤ price :=
      (le_max_right _ _).trans (le_of_not_gt hMinimum)
    simpa [hCurrent] using hAbove

theorem acknowledgePendingStopChange_stop (card : TradeCardState) :
    (acknowledgePendingStopChange card).activeStopPrice =
      if card.pendingStop.commandId = "" ∨ card.pendingStop.price = none then
        card.activeStopPrice
      else card.pendingStop.price := by
  unfold acknowledgePendingStopChange
  split <;> rfl

end QuantApp.Services
