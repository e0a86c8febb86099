import QuantApp.Services.EmergencyJournal

/-!
# The guarded gateway

`submit_guarded`, `cancel_guarded`, `replace_guarded` and
`resume_replace_guarded` of `src/services/execution_command_gateway.py`.  Every
call takes what it is answered: the gates (what each of them returns or raises),
the database (how each transaction and each read ends) and the broker.  A call
that is refused by the in-process mutual exclusion does nothing and is left out.

The process-local caches of the gateway are read by its callers only.
-/

namespace QuantApp.Services

open Core Verified
open Procedure (ofExcept raise attempt)

/-- The exceptions of the gates: the ones the gateway tells apart, and the others. -/
inductive GateExceptionClass
  | executionOwnershipMismatch
  | leaseNotVerified
  | activeExternalOrderFence
  | preTradeRiskRejected
  | liveExecutionEnvelope
  | other
  deriving Repr

structure GateException where
  cls : GateExceptionClass
  message : String

def GateExceptionClass.toClass : GateExceptionClass → ExceptionClass
  | .executionOwnershipMismatch => .executionOwnershipMismatch
  | .leaseNotVerified => .leaseNotVerified
  | .activeExternalOrderFence => .activeExternalOrderFence
  | .preTradeRiskRejected => .preTradeRiskRejected
  | .liveExecutionEnvelope => .liveExecutionEnvelope
  | .other => .runtimeError

def GateException.raised (error : GateException) : Raised :=
  { cls := error.cls.toClass, message := error.message }

/-- What a gate returns, or raises. -/
abbrev GateAnswer (α : Type) := Except GateException α

def GateAnswer.result {α : Type} : GateAnswer α → Except Raised α
  | .ok value => .ok value
  | .error error => .error error.raised

def gate {α : Type} (answer : GateAnswer α) : Gateway α := ofExcept (GateAnswer.result answer)

/-- A `ValueError`. -/
def valueError (message : String) : Raised := { cls := .valueError, message := message }

/-- `_require_verified_lease`: without a lease it never fails open. -/
def requireVerifiedLease (lease : Option ExecutionLease) (answer : GateAnswer Unit) :
    Gateway Unit :=
  match lease with
  | none =>
    raise
      { cls := .leaseNotVerified
        message := "GUARDED_ENGINE mode requires an explicit execution lease; none was supplied" }
  | some _ => gate answer

/-- The finite and positive price a limit order needs; the text of the refusal goes on
with the number. -/
def requireLimitPrice (label : String) (executionPolicy : String) (limitPrice : FloatValue) :
    Except Raised ℚ :=
  if executionPolicy = reservedMooExecution then .ok 0
  else
    match limitPrice with
    | some price =>
      if 0 < price then .ok price
      else .error (valueError (label ++ " must be positive and finite"))
    | none => .error (valueError (label ++ " must be positive and finite"))

/-! ## Submitting -/

/-- `BrokerSubmissionResult`, without the raw response. -/
structure BrokerSubmissionResult where
  brokerOrderId : String

/-- What `_do_submit` is answered, in the order it asks. -/
structure SubmitAnswers where
  now : IsoText
  clock : Instant
  reservationId : String
  tradingEnabled : GateAnswer Unit := .ok ()
  ownership : GateAnswer Unit := .ok ()
  verifiedLease : GateAnswer Unit := .ok ()
  entriesReady : GateAnswer Unit := .ok ()
  mutationBudget : GateAnswer Unit := .ok ()
  riskApproval : GateAnswer (Option PortfolioRiskReservationSpec) := .ok none
  buyingPower : GateAnswer ℚ := .ok 0
  replacedRead : ReadOutcome := .answered
  reservationRead : ReadOutcome := .answered
  prepareFence : GateAnswer Unit := .ok ()
  prepare : CommitOutcome := .committed
  submitting : CommitOutcome := .committed
  finalOwnership : GateAnswer Unit := .ok ()
  finalVerifiedLease : GateAnswer Unit := .ok ()
  finalRiskApproval : GateAnswer (Option PortfolioRiskReservationSpec) := .ok none
  finalLiveEntry : GateAnswer Unit := .ok ()
  finalFence : GateAnswer Unit := .ok ()
  abort : CommitOutcome := .committed
  broker : MutationAnswer BrokerSubmissionResult
  persist : CommitOutcome := .committed

/-- `side == BUY and intent == ENTRY`. -/
def isNewEntry (side : OrderSide) (intent : OrderIntent) : Bool := side = .buy && intent = .entry

variable (request : SubmitExecutionRequest)

def requireCurrentEntryRiskApproval (answer : GateAnswer (Option PortfolioRiskReservationSpec)) :
    GateAnswer (Option PortfolioRiskReservationSpec) :=
  if isNewEntry request.side request.intent then answer else .ok none

/-- What the order would cost; a SELL reserves nothing. -/
def requestedNotional (limitPrice : ℚ) : ℚ :=
  if request.side = .buy then request.quantity * limitPrice else 0

/-- New entries also wait for the schema migration. -/
def requireEntriesReady (answer : GateAnswer Unit) : Gateway Unit :=
  if isNewEntry request.side request.intent then gate answer else pure ()

/-- The buying power; an order that costs nothing does not ask for it. -/
def requireBuyingPower (notional : ℚ) (answer : GateAnswer ℚ) : Gateway ℚ :=
  if 0 < notional then gate answer else pure 0

/-- The gates before anything is journaled, and the values they establish: the price,
the risk specification and the buying power. -/
def submitGates (answers : SubmitAnswers) :
    Gateway (ℚ × Option PortfolioRiskReservationSpec × ℚ) := do
  gate answers.tradingEnabled
  gate answers.ownership
  requireVerifiedLease request.lease answers.verifiedLease
  requireEntriesReady request answers.entriesReady
  gate answers.mutationBudget
  if request.quantity ≤ 0 then
    raise (valueError ("quantity must be positive, got " ++ toString request.quantity))
  else
    let limitPrice ← ofExcept
      (requireLimitPrice "limit_price" request.executionPolicy request.limitPrice)
    let spec ← gate (requireCurrentEntryRiskApproval request answers.riskApproval)
    if request.clientOrderId = "" then
      raise (valueError ("SubmitExecutionRequest.client_order_id must be a " ++
        "non-blank, caller-generated stable identity"))
    else
      let buyingPower ← requireBuyingPower (requestedNotional request limitPrice)
        answers.buyingPower
      pure (limitPrice, spec, buyingPower)

/-- The open risk the specification proposes. -/
def proposedOpenRisk (spec : Option PortfolioRiskReservationSpec) : ℚ :=
  match spec with
  | some spec => spec.proposedOpenRiskUsd
  | none => 0

/-- The scope of an order. -/
def orderScope (record : ExecutionOrderRecord) :
    String × String × String × OrderSide × OrderIntent :=
  (record.environment, record.accountNo, record.symbol, record.side, record.intent)

/-- The reservation of the submission: a fresh one, or the prepared one of the
confirmed-cancelled order it replaces. -/
def submissionReservation (answers : SubmitAnswers)
    (notional openRisk : ℚ) : Gateway CapitalReservation := do
  if request.preparedCapitalReservationId ≠ "" then
    if request.replacesExecutionOrderId = "" then
      raise
        { cls := .preTradeRiskRejected
          message := "A prepared capital reservation is valid only for a linked replacement" }
    else
      let replaced ← readDatabase answers.replacedRead (fun database =>
        getExecutionOrder database.executionOrders request.replacesExecutionOrderId)
      if replaced.any (fun record =>
          record.status = .cancelled &&
            record.capitalReservationId = request.preparedCapitalReservationId &&
            orderScope record = (request.environment, request.accountNo, request.symbol,
              request.side, request.intent)) then
        let reservation ← readDatabase answers.reservationRead (fun database =>
          lookup CapitalReservation.reservationId request.preparedCapitalReservationId
            database.capitalReservations)
        match reservation with
        | some reservation =>
          if reservation.isOpen = true ∧ reservationScope reservation =
              (request.environment, request.accountNo, request.symbol) then
            pure reservation
          else
            raise
              { cls := .preTradeRiskRejected
                message := "The prepared replacement reservation is missing, closed, or " ++
                  "out of scope" }
        | none =>
          raise
            { cls := .preTradeRiskRejected
              message := "The prepared replacement reservation is missing, closed, or " ++
                "out of scope" }
      else
        raise
          { cls := .preTradeRiskRejected
            message := "The prepared reservation is not linked to the confirmed-cancelled " ++
              "order this submission replaces" }
  else
    pure (CapitalReservation.create answers.reservationId request.environment request.accountNo
      request.symbol
      (if request.attemptGroupId = "" then request.clientOrderId else request.attemptGroupId)
      notional openRisk)

/-- The command of a submission. -/
def submitCommand (now : IsoText) : ExecutionCommand :=
  { idempotencyKey := strip (submitKey request.clientOrderId)
    commandType := .submit
    environment := request.environment
    accountNo := request.accountNo
    symbol := request.symbol
    leaseEpoch := (request.lease.map (·.leaseEpoch)).getD 0
    ownerDeviceId := (request.lease.map (·.deviceId)).getD ""
    leaseToken := (request.lease.map (·.leaseToken)).getD ""
    requestedAt := now
    source := request.source.value }

/-- The PREPARED record of a submission. -/
def preparedRecord (now : IsoText) (limitPrice : ℚ)
    (capitalReservationId : String) (hNamed : request.clientOrderId ≠ "") :
    ExecutionOrderRecord :=
  { environment := request.environment
    accountNo := request.accountNo
    symbol := request.symbol
    side := request.side
    intent := request.intent
    clientOrderId := request.clientOrderId
    attemptGroupId := request.attemptGroupId
    attemptNumber := if request.attemptNumber = 0 then 1 else request.attemptNumber
    attemptDeadlineAt := request.attemptDeadlineAt
    submittedQuantity := request.quantity
    submittedLimitPrice := limitPrice
    exchange := request.exchange
    executionPolicy := request.executionPolicy
    preparedAt := now
    ownerDeviceId := (request.lease.map (·.deviceId)).getD ""
    leaseToken := (request.lease.map (·.leaseToken)).getD ""
    leaseEpoch := (request.lease.map (·.leaseEpoch)).getD 0
    replacesExecutionOrderId := request.replacesExecutionOrderId
    capitalReservationId := capitalReservationId
    clientOrderIdNamed := hNamed }

/-- The reservation rows with the hold of the submission, and that hold. -/
def holdReservation (notional openRisk buyingPower : ℚ)
    (spec : Option PortfolioRiskReservationSpec) (reservation : CapitalReservation)
    (rows : List CapitalReservation) :
    Except Raised (List CapitalReservation × CapitalReservation) :=
  if request.preparedCapitalReservationId ≠ "" then
    activatePreparedReplacementReservation rows request.preparedCapitalReservationId
      request.preparedCapitalReservationVersion
      { environment := request.environment, accountNo := request.accountNo
        symbol := request.symbol, notional := notional, openRisk := openRisk }
  else do
    let inserted ← insertReservationIfAvailable rows reservation buyingPower spec
    pure (inserted, reservation)

variable (answers : SubmitAnswers)

/-- The A1 transaction: command, reservation and PREPARED record. -/
def prepareSubmission
    (notional openRisk buyingPower : ℚ) (spec : Option PortfolioRiskReservationSpec)
    (reservation : CapitalReservation) (record : ExecutionOrderRecord)
    (database : CanonicalDatabase) :
    Except Raised (CapitalReservation × CanonicalDatabase) := do
  GateAnswer.result answers.prepareFence
  let commands ← insertCommand database.executionCommands (submitCommand request answers.now)
  let (reservations, held) ← holdReservation request notional openRisk buyingPower spec
    reservation database.capitalReservations
  let orders ← insertExecutionOrder database.executionOrders record
  pure (held, { database with
    executionCommands := commands
    capitalReservations := reservations
    executionOrders := orders })

/-- The write of one order. -/
def writeOrder (record : ExecutionOrderRecord) (database : CanonicalDatabase) :
    Except Raised (ExecutionOrderRecord × CanonicalDatabase) := do
  let (orders, written) ← updateExecutionOrder database.executionOrders record record.version
  pure (written, { database with executionOrders := orders })

/-- The write of one reservation. -/
def writeReservation (reservation : CapitalReservation) (database : CanonicalDatabase) :
    Except Raised (Unit × CanonicalDatabase) := do
  let (reservations, _) ← updateReservation database.capitalReservations reservation
    reservation.version
  pure ((), { database with capitalReservations := reservations })

/-- The write of one command response. -/
def writeResponse (idempotencyKey : String) (status : CommandStatus)
    (expectedVersion : Option Int) (database : CanonicalDatabase) :
    Except Raised (Unit × CanonicalDatabase) := do
  let (commands, _) ← updateCommandResponse database.executionCommands idempotencyKey status
    expectedVersion
  pure ((), { database with executionCommands := commands })

/-- The gates that are checked again right before the broker call. -/
def finalSubmitGates :
    Gateway Unit := do
  gate answers.finalOwnership
  requireVerifiedLease request.lease answers.finalVerifiedLease
  let _ ← gate (requireCurrentEntryRiskApproval request answers.finalRiskApproval)
  gate answers.finalLiveEntry
  gate answers.finalFence

/-- The exceptions of a final gate that retire the submission. -/
def retiresSubmission (cls : ExceptionClass) : Bool :=
  cls ∈ [.executionOwnershipMismatch, .leaseNotVerified, .activeExternalOrderFence,
    .preTradeRiskRejected, .liveExecutionEnvelope]

/-- The transaction that retires a submission whose final gate failed. -/
def abortSubmission (clock : Instant)
    (record : ExecutionOrderRecord) (reservation : CapitalReservation)
    (database : CanonicalDatabase) : Except Raised (Unit × CanonicalDatabase) := do
  let (_, withOrder) ← writeOrder record database
  let (_, withResponse) ← writeResponse (submitKey request.clientOrderId) .preBrokerAborted none
    withOrder
  writeReservation (reservation.release clock) withResponse

/-- The transaction that records a failed broker call. -/
def recordSubmissionFailure (clock : Instant)
    (ambiguous : Bool) (record : ExecutionOrderRecord) (reservation : CapitalReservation)
    (database : CanonicalDatabase) : Except Raised (Unit × CanonicalDatabase) := do
  let (_, withOrder) ← writeOrder record database
  let (_, withResponse) ← writeResponse (submitKey request.clientOrderId)
    (if ambiguous then .ambiguous else .failed) none withOrder
  if ambiguous then pure ((), withResponse)
  else writeReservation (reservation.release clock) withResponse

/-- The transaction that records an accepted submission. -/
def recordSubmissionSuccess (record : ExecutionOrderRecord) (database : CanonicalDatabase) :
    Except Raised (ExecutionOrderRecord × CanonicalDatabase) := do
  let (written, withOrder) ← writeOrder record database
  let (_, withResponse) ← writeResponse (submitKey request.clientOrderId) .acknowledged none
    withOrder
  pure (written, withResponse)

/-- A final gate refused: the broker boundary has definitely not been entered, and the
rows of the submission are retired together. -/
def retireSubmission
    (reservation : CapitalReservation) (record : ExecutionOrderRecord) (gateError : Raised) :
    Gateway ExecutionOrderRecord :=
  if retiresSubmission gateError.cls then do
    let retired ← ofExcept
      (applyStatusTransition record .cancelledLocally none answers.now)
    transaction answers.abort (abortSubmission request answers.clock retired reservation)
    raise
      { cls := .guardedSubmissionPreBrokerAborted, message := gateError.message }
  else raise gateError

/-- The broker call raised. -/
def settleFailedSubmission
    (reservation : CapitalReservation) (record : ExecutionOrderRecord) (error : BrokerError) :
    Gateway ExecutionOrderRecord := do
  let failed ← ofExcept (applyStatusTransition record
    (if error.isAmbiguous then .unknownSubmissionState else .rejected) none answers.now)
  persistOrRaiseAmbiguous
    ("submit '" ++ request.clientOrderId ++ "' failure persistence")
    (transaction answers.persist
      (recordSubmissionFailure request answers.clock error.isAmbiguous failed reservation))
  raise
    { cls :=
        if error.isAmbiguous then .guardedSubmissionAmbiguous else .guardedSubmissionRejected
      message := error.message }

/-- The broker call returned an order id. -/
def settleAcceptedSubmission (record : ExecutionOrderRecord) (submission : BrokerSubmissionResult) :
    Gateway ExecutionOrderRecord := do
  let acknowledged ← ofExcept (applyStatusTransition
    { record with remainingQuantity := record.submittedQuantity } .acknowledged
    (some submission.brokerOrderId) answers.now)
  persistOrRaiseAmbiguous
    ("submit '" ++ request.clientOrderId ++ "' success persistence")
    (transaction answers.persist (recordSubmissionSuccess request acknowledged))

/-- The broker call, and the record of its answer. -/
def dispatchSubmission (reservation : CapitalReservation) (record : ExecutionOrderRecord) :
    Gateway ExecutionOrderRecord := do
  match ← executeScheduledMutation answers.broker
    (fun database => .submitEntered request database.executionOrders) with
  | .error error => settleFailedSubmission request answers reservation record error
  | .ok submission => settleAcceptedSubmission request answers record submission

/-- From the SUBMITTING record on: the final gates, the broker call and its outcome. -/
def crossSubmitBoundary (reservation : CapitalReservation) (record : ExecutionOrderRecord) :
    Gateway ExecutionOrderRecord := do
  match ← attempt (finalSubmitGates request answers) with
  | .error gateError => retireSubmission request answers reservation record gateError
  | .ok _ => dispatchSubmission request answers reservation record

/-- From the reservation on: the prepare and the SUBMITTING transactions. -/
def journalSubmission (limitPrice buyingPower : ℚ) (spec : Option PortfolioRiskReservationSpec)
    (reservation : CapitalReservation) (hNamed : request.clientOrderId ≠ "") :
    Gateway (CapitalReservation × ExecutionOrderRecord) := do
  let prepared := preparedRecord request answers.now limitPrice reservation.reservationId hNamed
  let held ← transaction answers.prepare
    (prepareSubmission request answers (requestedNotional request limitPrice)
      (proposedOpenRisk spec) buyingPower spec reservation prepared)
  let submitting ← ofExcept (applyStatusTransition prepared .submitting none answers.now)
  let record ← transaction answers.submitting (writeOrder submitting)
  pure (held, record)

/-- Steps 1 to 8 of `_do_submit`: everything up to the SUBMITTING record. -/
def openSubmission :
    Gateway (CapitalReservation × ExecutionOrderRecord) := do
  let (limitPrice, spec, buyingPower) ← submitGates request answers
  if hNamed : request.clientOrderId = "" then
    -- refused by the gates above
    raise (valueError "ExecutionOrderRecord requires a client_order_id")
  else
    let reservation ← submissionReservation request answers (requestedNotional request limitPrice)
      (proposedOpenRisk spec)
    journalSubmission request answers limitPrice buyingPower spec reservation hNamed

def doSubmit :
    Gateway ExecutionOrderRecord := do
  let (held, record) ← openSubmission request answers
  crossSubmitBoundary request answers held record

/-- `submit_guarded` while the canonical database is writable. -/
def submitGuarded (liveEntry : GateAnswer Unit)
    (answers : SubmitAnswers) : Gateway ExecutionOrderRecord := do
  gate liveEntry
  doSubmit request answers

/-! ## Cancelling -/

/-- What `_do_cancel` is answered, in the order it asks. -/
structure CancelAnswers where
  now : IsoText
  clock : Instant
  ownership : GateAnswer Unit := .ok ()
  verifiedLease : GateAnswer Unit := .ok ()
  mutationBudget : GateAnswer Unit := .ok ()
  prepareFence : GateAnswer Unit := .ok ()
  prepare : CommitOutcome := .committed
  finalOwnership : GateAnswer Unit := .ok ()
  finalVerifiedLease : GateAnswer Unit := .ok ()
  finalLiveMutation : GateAnswer Unit := .ok ()
  finalFence : GateAnswer Unit := .ok ()
  abort : CommitOutcome := .committed
  broker : MutationAnswer BrokerOrderStatusSnapshot
  reservationAnswered : Bool := true
  persist : CommitOutcome := .committed

/-- The command of a cancellation. -/
def cancelCommand (request : CancelExecutionRequest) (record : ExecutionOrderRecord)
    (now : IsoText) : ExecutionCommand :=
  { idempotencyKey := strip (cancelKey request.cancelCommandId)
    commandType := .cancel
    environment := record.environment
    accountNo := record.accountNo
    symbol := record.symbol
    leaseEpoch := (request.lease.map (·.leaseEpoch)).getD record.leaseEpoch
    ownerDeviceId := (request.lease.map (·.deviceId)).getD record.ownerDeviceId
    leaseToken := (request.lease.map (·.leaseToken)).getD record.leaseToken
    targetBrokerOrderId := record.brokerOrderId
    requestedAt := now
    source := request.source.value }

/-- A `CancelNotPermittedError`. -/
def cancelNotPermittedError (message : String) : Raised :=
  { cls := .cancelNotPermitted, message := message }

/-- The transaction that journals the cancel and marks the order CANCEL_PENDING. -/
def prepareCancel (request : CancelExecutionRequest) (answers : CancelAnswers)
    (record : ExecutionOrderRecord) (database : CanonicalDatabase) :
    Except Raised (ExecutionOrderRecord × CanonicalDatabase) := do
  GateAnswer.result answers.prepareFence
  let commands ← insertCommand database.executionCommands
    (cancelCommand request record answers.now)
  let cancelling ← applyStatusTransition record .cancelPending none answers.now
  writeOrder cancelling { database with executionCommands := commands }

/-- The gates that are checked again right before the broker call. -/
def finalCancelGates (request : CancelExecutionRequest) (answers : CancelAnswers) :
    Gateway Unit := do
  gate answers.finalOwnership
  requireVerifiedLease request.lease answers.finalVerifiedLease
  gate answers.finalLiveMutation
  gate answers.finalFence

/-- The exceptions of a final gate that retire the cancellation. -/
def retiresCancellation (cls : ExceptionClass) : Bool :=
  cls ∈ [.executionOwnershipMismatch, .leaseNotVerified, .activeExternalOrderFence,
    .liveExecutionEnvelope]

/-- The transaction that retires a cancellation whose final gate failed. -/
def abortCancellation (request : CancelExecutionRequest) (record : ExecutionOrderRecord)
    (database : CanonicalDatabase) : Except Raised (Unit × CanonicalDatabase) := do
  let (_, withOrder) ← writeOrder record database
  writeResponse (cancelKey request.cancelCommandId) .preBrokerAborted none withOrder

/-- The record after a failed cancel call. -/
def cancelFailure (now : IsoText) (ambiguous : Bool) (record : ExecutionOrderRecord) :
    Except Raised ExecutionOrderRecord :=
  if ambiguous then transitionRecoveryState record .discovering
  else applyStatusTransition record .working none now

/-- The transaction that records a failed cancel call. -/
def recordCancelFailure (request : CancelExecutionRequest) (answers : CancelAnswers)
    (ambiguous : Bool) (record : ExecutionOrderRecord) (database : CanonicalDatabase) :
    Except Raised (Unit × CanonicalDatabase) := do
  let (_, withResponse) ← writeResponse (cancelKey request.cancelCommandId)
    (if ambiguous then .ambiguous else .failed) none database
  let settled ← cancelFailure answers.now ambiguous record
  let (_, withOrder) ← writeOrder settled withResponse
  pure ((), withOrder)

/-- The record with the fills and the status of the broker's cancel response. -/
def cancelResponse (now : IsoText) (record : ExecutionOrderRecord)
    (snapshot : BrokerOrderStatusSnapshot) : Except Raised ExecutionOrderRecord :=
  let filled := max record.filledQuantity snapshot.filledQuantity
  let reported :=
    { record with
      filledQuantity := filled
      averageFillPrice :=
        if snapshot.avgFillPrice ≠ 0 then snapshot.avgFillPrice else record.averageFillPrice
      remainingQuantity := max 0
        (if snapshot.remainingQuantity ≠ 0 then snapshot.remainingQuantity
        else record.submittedQuantity - filled) }
  match snapshot.status with
  | .cancelled => applyStatusTransition reported .cancelled none now
  | .filled =>
    applyStatusTransition
      { reported with
        filledQuantity :=
          if snapshot.filledQuantity ≠ 0 then snapshot.filledQuantity
          else record.submittedQuantity
        remainingQuantity := 0 }
      .filled none now
  | .partiallyFilled =>
    applyStatusTransition
      { reported with
        filledQuantity := snapshot.filledQuantity
        remainingQuantity := max 0 (record.submittedQuantity - snapshot.filledQuantity) }
      .partiallyFilled none now
  | _ => transitionRecoveryState reported .discovering

/-- The reservation of an order whose cancel ended it: charged with its fills, the rest
released. -/
def settleCancelledReservation (clock : Instant) (record : ExecutionOrderRecord)
    (reservation : CapitalReservation) : CapitalReservation :=
  let price :=
    if record.averageFillPrice ≠ 0 then record.averageFillPrice else record.submittedLimitPrice
  let filledNotional := record.filledQuantity * price
  let charged := if 0 < filledNotional then reservation.consume filledNotional else reservation
  if charged.isOpen then charged.release clock else charged

/-- The transaction that records the broker's cancel response. -/
def recordCancelSuccess (request : CancelExecutionRequest) (answers : CancelAnswers)
    (releaseCapitalReservation : Bool) (record : ExecutionOrderRecord)
    (database : CanonicalDatabase) :
    Except Raised (ExecutionOrderRecord × CanonicalDatabase) := do
  let (written, withOrder) ← writeOrder record database
  let (_, withResponse) ← writeResponse (cancelKey request.cancelCommandId) .acknowledged none
    withOrder
  if (record.status = .cancelled ∨ record.status = .filled) ∧ record.capitalReservationId ≠ "" ∧
      releaseCapitalReservation = true then
    if answers.reservationAnswered then
      match lookup CapitalReservation.reservationId record.capitalReservationId
          database.capitalReservations with
      | some reservation =>
        if reservation.isOpen then
          let (_, withReservation) ← writeReservation
            (settleCancelledReservation answers.clock record reservation) withResponse
          pure (written, withReservation)
        else pure (written, withResponse)
      | none => pure (written, withResponse)
    else .error databaseError
  else pure (written, withResponse)

def doCancel (request : CancelExecutionRequest) (answers : CancelAnswers)
    (permissionCheck : ExecutionOrderRecord → Bool) (releaseCapitalReservation : Bool)
    (record : ExecutionOrderRecord) : Gateway ExecutionOrderRecord := do
  if record.environment ≠ request.environment ∨ record.accountNo ≠ request.accountNo then
    raise (cancelNotPermittedError ("client_order_id='" ++ request.clientOrderId ++
      "' belongs to " ++ record.environment ++ "/" ++ record.accountNo ++
      ", not the requested " ++ request.environment ++ "/" ++ request.accountNo))
  else
    gate answers.ownership
    requireVerifiedLease request.lease answers.verifiedLease
    gate answers.mutationBudget
    if permissionCheck record = false then
      raise (cancelNotPermittedError ("client_order_id='" ++ request.clientOrderId ++
        "' is not currently cancellable (status=" ++ record.status.value ++
        ", recovery_state=" ++ record.recoveryState.value ++ ", origin=" ++
        record.origin.value ++ ")"))
    else
      let cancelling ← transaction answers.prepare (prepareCancel request answers record)
      match ← attempt (finalCancelGates request answers) with
      | .error gateError =>
        if retiresCancellation gateError.cls then
          -- no cancel reached the broker: back to the status before the request
          let restored ← ofExcept
            (applyStatusTransition cancelling record.status none answers.now)
          transaction answers.abort (abortCancellation request restored)
          raise
            { cls := .guardedCancellationPreBrokerAborted, message := gateError.message }
        else raise gateError
      | .ok _ =>
        match ← executeScheduledMutation answers.broker (fun _ => .cancelEntered cancelling) with
        | .error error =>
          persistOrRaiseAmbiguous
            ("cancel '" ++ request.clientOrderId ++ "' failure persistence")
            (transaction answers.persist
              (recordCancelFailure request answers error.isAmbiguous cancelling))
          raise
            { cls :=
                if error.isAmbiguous then .guardedCancellationAmbiguous
                else .guardedCancellationRejected
              message := error.message }
        | .ok snapshot =>
          let answered ← ofExcept (cancelResponse answers.now cancelling snapshot)
          persistOrRaiseAmbiguous
            ("cancel '" ++ request.clientOrderId ++ "' success persistence")
            (transaction answers.persist
              (recordCancelSuccess request answers releaseCapitalReservation answered))

def isCancellable (record : ExecutionOrderRecord) : Bool :=
  if record.origin = .userAdopted ∧ .cancel ∉ record.adoptionPermissions then false
  else
    record.brokerIdentityStatus = .exact_ && record.brokerOrderId ≠ "" &&
      (record.recoveryState = .none_ || record.recoveryState = .cancelRequired) &&
      .cancelPending ∈ allowedStatusTransitions record.status

/-- `cancel_guarded` while the canonical database is writable. -/
def cancelGuarded (request : CancelExecutionRequest) (liveMutation : GateAnswer Unit)
    (recordRead : ReadOutcome) (answers : CancelAnswers) : Gateway ExecutionOrderRecord := do
  gate liveMutation
  let stored ← readDatabase recordRead (fun database =>
    getExecutionOrder database.executionOrders request.clientOrderId)
  match stored with
  | none =>
    raise
      { cls := .orderNotFoundForCancel
        message := "No ExecutionOrderRecord for client_order_id='" ++ request.clientOrderId ++ "'" }
  | some record => doCancel request answers isCancellable true record

end QuantApp.Services
