import QuantApp.Services.ReplaceGuarded

/-!
# The gateway during a database outage

`_do_emergency_submit` and `_do_emergency_cancel` of
`src/services/execution_command_gateway.py`: the REQUESTED line is synced before the
broker is called, the OUTCOME line after it.  The live-envelope gate is asked inside
the `try` around the broker call, so its refusal counts as a broker error before the
broker is entered.  The process-local records and the alerts are left out.
-/

namespace QuantApp.Services

open Core Verified
open Procedure (raise attempt ofExcept)

/-- The exact lease the outage began with. -/
def requireEmergencyAllowance (lease : Option ExecutionLease) (answer : GateAnswer Unit) :
    Gateway ExecutionLease :=
  match lease with
  | none =>
    raise
      { cls := .emergencyActionNotPermitted
        message := "No exact lease was verified when the canonical database outage began" }
  | some lease => do
    gate answer
    pure lease

/-- The REQUESTED line: a failure of the journal is reported as such. -/
def journalRequested (outcome : AppendOutcome) (request : JournalRequest) :
    Gateway JournalEntry := do
  match ← attempt (appendRequested outcome request) with
  | .ok entry => pure entry
  | .error error =>
    raise { cls := .emergencyJournalUnavailable, message := error.message }

def appendEmergencyOutcome (outcome : AppendOutcome) (requested : JournalEntry)
    (status : CommandStatus) (response : JournalResponse) : Gateway Unit := do
  match ← attempt (appendOutcome outcome requested.sequence status response) with
  | .ok _ => pure ()
  | .error _ =>
    raise
      { cls := .ambiguousPostBrokerPersistence
        message := "Emergency broker mutation completed but the local outcome journal " ++
          "failed; never retry automatically" }

/-! ## Submitting -/

/-- What `_do_emergency_submit` is answered, in the order it asks. -/
structure EmergencySubmitAnswers where
  now : IsoText
  allowance : GateAnswer Unit := .ok ()
  ownership : GateAnswer Unit := .ok ()
  tradingEnabled : GateAnswer Unit := .ok ()
  requested : AppendOutcome := .appended
  broker : MutationAnswer BrokerSubmissionResult
  outcome : AppendOutcome := .appended

variable (request : SubmitExecutionRequest)

/-- A protective SELL that a caller marked as an emergency. -/
def isEmergencySell : Bool :=
  request.emergency && request.side = .sell &&
    (request.intent = .stopLoss || request.intent = .manualExit)

/-- The finite and positive price of an emergency SELL of a positive quantity. -/
def requireEmergencyPrice : Except Raised ℚ :=
  match request.limitPrice with
  | some price =>
    if 0 < request.quantity ∧ 0 < price then .ok price
    else .error (valueError "Emergency SELL requires positive quantity and finite limit price")
  | none =>
    .error (valueError "Emergency SELL requires positive quantity and finite limit price")

/-- The order payload of the REQUESTED line. -/
def submitPayload (limitPrice : ℚ) : SubmitPayload :=
  { clientOrderId := request.clientOrderId
    side := request.side
    intent := request.intent
    quantity := request.quantity
    limitPrice := limitPrice
    exchange := request.exchange
    executionPolicy := request.executionPolicy
    attemptGroupId := request.attemptGroupId
    attemptNumber := request.attemptNumber }

/-- The REQUESTED line of an emergency submission. -/
def submitJournalRequest (lease : ExecutionLease)
    (now : IsoText) (limitPrice : ℚ) : JournalRequest :=
  { idempotencyKey := strip (submitKey request.clientOrderId)
    environment := request.environment
    accountNo := request.accountNo
    symbol := request.symbol
    deviceId := lease.deviceId
    leaseToken := lease.leaseToken
    leaseEpoch := lease.leaseEpoch
    source := request.source.value
    createdAt := now
    payload := .submit (submitPayload request limitPrice) }

/-- The record the call returns; it is not stored. -/
def emergencyRecord (journaled : JournalRequest)
    (payload : SubmitPayload) (now : IsoText) (brokerOrderId : String) :
    Except Raised ExecutionOrderRecord :=
  if hNamed : payload.clientOrderId = "" then
    .error (valueError "ExecutionOrderRecord requires a client_order_id")
  else do
    let submitting ← applyStatusTransition
      { payload.order journaled now hNamed with attemptDeadlineAt := request.attemptDeadlineAt }
      .submitting none now
    applyStatusTransition submitting .acknowledged (some brokerOrderId) now

variable (answers : EmergencySubmitAnswers)

/-- The broker call of an emergency submission and its OUTCOME line. -/
def dispatchEmergencySubmission (journaled : JournalRequest) (limitPrice : ℚ)
    (requested : JournalEntry) : Gateway ExecutionOrderRecord := do
  match ← executeScheduledMutation answers.broker
    (fun database => .submitEntered request database.executionOrders) with
  | .error error =>
    appendEmergencyOutcome answers.outcome requested
      (if error.isAmbiguous then .ambiguous else .failed) (.error error.message)
    raise
      { cls :=
          if error.isAmbiguous then .guardedSubmissionAmbiguous
          else .guardedSubmissionRejected
        message := error.message }
  | .ok submission =>
    appendEmergencyOutcome answers.outcome requested .acknowledged
      (.submitted submission.brokerOrderId)
    ofExcept (emergencyRecord request journaled (submitPayload request limitPrice)
      answers.now submission.brokerOrderId)

/-- The REQUESTED line and, once it is synced, the broker call. -/
def journalEmergencySubmission (journaled : JournalRequest) (limitPrice : ℚ) :
    Gateway ExecutionOrderRecord := do
  let requested ← journalRequested answers.requested journaled
  dispatchEmergencySubmission request answers journaled limitPrice requested

def doEmergencySubmit :
    Gateway ExecutionOrderRecord := do
  if isEmergencySell request = false then
    raise
      { cls := .canonicalDatabaseUnavailable
        message := "Canonical database unavailable; ordinary and entry commands fail closed" }
  else
    let lease ← requireEmergencyAllowance request.lease answers.allowance
    gate answers.ownership
    gate answers.tradingEnabled
    let limitPrice ← ofExcept (requireEmergencyPrice request)
    journalEmergencySubmission request answers
      (submitJournalRequest request lease answers.now limitPrice) limitPrice

/-- `submit_guarded` while the canonical database is not writable. -/
def submitGuardedInOutage (liveEntry : GateAnswer Unit)
    (answers : EmergencySubmitAnswers) : Gateway ExecutionOrderRecord := do
  gate liveEntry
  doEmergencySubmit request answers

/-! ## Cancelling -/

/-- What `_do_emergency_cancel` is answered, in the order it asks. -/
structure EmergencyCancelAnswers where
  now : IsoText
  allowance : GateAnswer Unit := .ok ()
  ownership : GateAnswer Unit := .ok ()
  tradingEnabled : GateAnswer Unit := .ok ()
  requested : AppendOutcome := .appended
  broker : MutationAnswer BrokerOrderStatusSnapshot
  outcome : AppendOutcome := .appended

/-- The cancellation of an exact protective SELL, or of a BUY that completes an entry. -/
def isEmergencyCancel (request : CancelExecutionRequest) : Bool :=
  request.emergency &&
    (request.side = OrderSide.sell.value ||
      (request.side = OrderSide.buy.value && request.protectiveEntryCompletion)) &&
    request.symbol ≠ "" && request.brokerOrderId ≠ "" && 0 < request.quantity

/-- The REQUESTED line of an emergency cancellation. -/
def cancelJournalRequest (request : CancelExecutionRequest) (lease : ExecutionLease)
    (now : IsoText) : JournalRequest :=
  { idempotencyKey := strip (cancelKey request.cancelCommandId)
    environment := request.environment
    accountNo := request.accountNo
    symbol := request.symbol
    deviceId := lease.deviceId
    leaseToken := lease.leaseToken
    leaseEpoch := lease.leaseEpoch
    source := request.source.value
    targetBrokerOrderId := request.brokerOrderId
    createdAt := now
    payload := .cancel { clientOrderId := request.clientOrderId } }

/-- The normalized answer of the OUTCOME line. -/
def cancelAnswered (snapshot : BrokerOrderStatusSnapshot) : JournalResponse :=
  .cancelled snapshot.status snapshot.filledQuantity snapshot.remainingQuantity
    snapshot.avgFillPrice

/-- The broker call of an emergency cancellation and its OUTCOME line. -/
def dispatchEmergencyCancel (answers : EmergencyCancelAnswers) (requested : JournalEntry)
    (request : CancelExecutionRequest) : Gateway Unit := do
  match ← executeScheduledMutation answers.broker (fun _ => .emergencyCancelEntered request) with
  | .error error =>
    appendEmergencyOutcome answers.outcome requested
      (if error.isAmbiguous then .ambiguous else .failed) (.error error.message)
    raise
      { cls :=
          if error.isAmbiguous then .guardedCancellationAmbiguous
          else .guardedCancellationRejected
        message := error.message }
  | .ok snapshot =>
    appendEmergencyOutcome answers.outcome requested .acknowledged (cancelAnswered snapshot)

/-- `_do_emergency_cancel`, up to the record it returns, which is not stored. -/
def doEmergencyCancel (request : CancelExecutionRequest) (answers : EmergencyCancelAnswers) :
    Gateway Unit := do
  if isEmergencyCancel request = false then
    raise
      { cls := .canonicalDatabaseUnavailable
        message := "Canonical database unavailable; only exact protective SELL or " ++
          "entry-completion BUY cancellations may use the local journal" }
  else
    let lease ← requireEmergencyAllowance request.lease answers.allowance
    gate answers.ownership
    gate answers.tradingEnabled
    let requested ← journalRequested answers.requested
      (cancelJournalRequest request lease answers.now)
    dispatchEmergencyCancel answers requested request

end QuantApp.Services
