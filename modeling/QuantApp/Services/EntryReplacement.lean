import QuantApp.Services.EntryStages

/-!
# A replacement in the entry stage

`_reconcile_entry_orders` of `src/services/trading_engine.py` on a card whose entry order is
being replaced, and `_promote_replacement_generation`.  The pending replacement is a JSON
object the card keeps as text; `ReplacementText` reads and rewrites it.
-/

namespace QuantApp.Services

open Core

/-- The entries of `pending_entry_replacement` that are read, with the defaults of their
`get` calls. -/
structure PendingReplacement where
  state : String := ""
  quantity : Int := 0
  window : String := ""
  orbHigh : ℚ := 0
  orbLow : ℚ := 0
  executionPrice : ℚ := 0
  executionPriceManual : Bool := false
  floorPrice : ℚ := 0
  breakoutTrigger : ℚ := 0
  score : ℚ := 0
  scoreVersion : String := ""
  rangeClosedAt : Option Instant := none
  breakoutConfirmedAt : Option Instant := none
  candidateCreatedAt : Option Instant := none
  stopAdr : Option ℚ := none
  newGeneration : Int := 0

/-- Reading the object, and the object with another `state` and, if one is given, another
`reason`. -/
structure ReplacementText where
  read : String → PendingReplacement
  withState : String → String → Option String → String

/-- What the resume callback answers: it is not wired, it returns the client id of the
submitted replacement, or it raises, before or after the replacement was handed over. -/
inductive ResumeAnswer
  | notWired
  | submitted (clientOrderId : String)
  | raised (error : Raised) (handedOver : Bool)

def ResumeAnswer.handsOver : ResumeAnswer → Bool
  | .notWired => false
  | .submitted _ => true
  | .raised _ handedOver => handedOver

def entryReplacementCancelUncertainWarning : String := "ENTRY_REPLACEMENT_CANCEL_UNCERTAIN"

/-- A warning is listed once. -/
def withWarning (warning : String) (card : TradeCardState) : TradeCardState :=
  if warning ∈ card.warnings then card
  else { card with warnings := card.warnings ++ [warning] }

variable (text : ReplacementText)

/-- The pending replacement has another state. -/
def markReplacement (state : String) (reason : Option String)
    (card : TradeCardState) : TradeCardState :=
  { card with
    orbGeneration :=
      { card.orbGeneration with
        pendingEntryReplacement :=
          text.withState card.orbGeneration.pendingEntryReplacement state reason } }

/-- The replacement of the card is under way. -/
def replacementInFlight (card : TradeCardState) : Bool :=
  card.orbGeneration.pendingEntryReplacement ≠ "" &&
    (text.read card.orbGeneration.pendingEntryReplacement).state ∈
      ["REPLACE_PENDING", "CANCEL_PENDING", "REPLACEMENT_SUBMISSION_UNRESOLVED"]

/-- `_promote_replacement_generation`, without its audit entry. -/
def promoteReplacementGeneration (pending : PendingReplacement) (clientOrderId : String)
    (card : TradeCardState) : TradeCardState :=
  { card with
    entryClientOrderId := clientOrderId
    entryOrbWindow := some pending.window
    selectedOrbWindow := some pending.window
    entryOrbHigh := some pending.orbHigh
    entryOrbLow := some pending.orbLow
    entryTrigger := some pending.executionPrice
    stopAdr := pending.stopAdr
    plannedQuantity := pending.quantity
    targetPositionQuantity := pending.quantity
    orbGeneration :=
      { card.orbGeneration with
        entryExecutionPrice := some pending.executionPrice
        entryExecutionPriceManual := pending.executionPriceManual
        entryFloorPrice := some pending.floorPrice
        entryBreakoutTrigger := some pending.breakoutTrigger
        entryOrbScore := some pending.score
        entryScoreVersion := pending.scoreVersion
        entryRangeClosedAt := pending.rangeClosedAt
        entryBreakoutConfirmedAt := pending.breakoutConfirmedAt
        entryCandidateCreatedAt := pending.candidateCreatedAt
        entryOrderGeneration :=
          if pending.newGeneration ≠ 0 then pending.newGeneration
          else
            (if card.orbGeneration.entryOrderGeneration ≠ 0 then
              card.orbGeneration.entryOrderGeneration else 1) + 1
        pendingEntryReplacement := "" }
    entryRuntimeStatus := some .orderPending
    entryBlockReason := ""
    entryCancelInFlight := false
    warnings := card.warnings.filter (· ≠ entryReplacementCancelUncertainWarning) }

/-- The old order is cancelled: the replacement is resumed. -/
def resumeReplacement (resume : ResumeAnswer) (card : TradeCardState) : TradeCardState :=
  match resume with
  | .submitted clientOrderId =>
    promoteReplacementGeneration (text.read card.orbGeneration.pendingEntryReplacement)
      clientOrderId card
  | .raised error _ =>
    if error.cls = .guardedSubmissionAmbiguous then
      withWarning "UNKNOWN_SUBMISSION_STATE"
        { markReplacement text "REPLACEMENT_SUBMISSION_UNRESOLVED" (some error.message) card with
          entrySubmissionUnresolved := true
          entryCancelInFlight := false
          entryRuntimeStatus := some .orderPending
          entryBlockReason := error.message }
    else if error.cls = .replacementCancelConfirmationPending then
      withWarning entryReplacementCancelUncertainWarning
        { markReplacement text "CANCEL_PENDING" (some error.message) card with
          entryCancelInFlight := true
          entryRuntimeStatus := some .cancelPending
          entryBlockReason := error.message }
    else
      { markReplacement text "REPLACEMENT_ABORTED_AFTER_CANCEL" (some error.message) card with
        entryCancelInFlight := false
        entryRuntimeStatus := some .riskInvalid
        entryBlockReason := error.message }
  | .notWired =>
    let reason := "Replacement recovery found the old order cancelled; " ++
      "no guarded resume callback is available"
    { markReplacement text "REPLACEMENT_ABORTED_AFTER_CANCEL" (some reason) card with
      entryCancelInFlight := false
      entryRuntimeStatus := some .riskInvalid
      entryBlockReason := reason }

/-- The branch of a replacement that is under way, for the reconciled old order. -/
def settleReplacement (resume : ResumeAnswer) (order : BrokerOrder)
    (card : TradeCardState) : TradeCardState :=
  if 0 < order.filledQuantity then
    { markReplacement text "REPLACEMENT_ABORTED_OLD_ORDER_FILLED"
        (some "REPLACEMENT_ABORTED_OLD_ORDER_FILLED") card with
      entryCancelInFlight := false
      entryRuntimeStatus := some .orderPending }
  else if order.status = .cancelRequested then
    { markReplacement text "CANCEL_PENDING" none card with
      entryCancelInFlight := true
      entryRuntimeStatus := some .cancelPending }
  else if order.status = .cancelled then resumeReplacement text resume card
  else if order.status = .working then
    let reason := "Replacement cancellation was not confirmed; the old order remains working"
    { markReplacement text "UPGRADE_REJECTED" (some reason) card with
      entryCancelInFlight := false
      entryRuntimeStatus := some .orderPending
      entryBlockReason := reason }
  else card

/-- The branch resumes the replacement, and the replacement is handed over. -/
def resumesSubmission (order : BrokerOrder) (resume : ResumeAnswer) : Bool :=
  decide (order.filledQuantity ≤ 0) && order.status = .cancelled && resume.handsOver

/-- `_reconcile_entry_orders` on one card, and whether it has submitted an entry order. -/
def reconcileTrackedEntry (runtime : EngineRuntime) (text : ReplacementText)
    (answers : EntryAnswers) (resume : ResumeAnswer) (card : TradeCardState) :
    TradeCardState × Bool :=
  if tracksEntry card && replacementInFlight text card then
    match answers.refreshed with
    | .ok (some order) =>
      let observed : Except Raised (TradeCardState × BrokerOrder) :=
        if card.brokerQuantity < order.filledQuantity then
          (fun holding => protectNewFill card order holding) <$> answers.firstHolding
        else .ok (card, order)
      match observed with
      | .error _ => (card, false)
      | .ok (card, order) =>
        (settleReplacement text resume order card, resumesSubmission order resume)
    | _ => (card, false)
  else ((reconcileEntryOrders runtime answers card).1, false)

end QuantApp.Services
