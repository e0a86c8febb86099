import QuantApp.Services.ExecutionCommandGateway

/-!
# Replacements of the guarded gateway

`replace_guarded`, `resume_replace_guarded` and the polling of the exact order
between the cancel and the replacement.  The polling loop ends when a row of the
order settles it or the deadline has passed: it is a list of inquiries, the last
of them made at the deadline.
-/

namespace QuantApp.Services

open Core Verified
open Procedure (ofExcept crash raise)

/-! ## Authoritative inquiry -/

/-- `str.lstrip("0")`. -/
def stripLeadingZeros (text : String) : String := String.ofList (text.toList.dropWhile (· = '0'))

def sameBrokerOrderId (left right : String) : Bool :=
  let leftValue := strip left
  let rightValue := strip right
  leftValue ≠ "" && rightValue ≠ "" &&
    (leftValue = rightValue || stripLeadingZeros leftValue = stripLeadingZeros rightValue)

/-- The status an inquiry row moves the order to. -/
def inquiryTarget : OrderStatus → Option ExecutionOrderStatus
  | .cancelled => some .cancelled
  | .filled => some .filled
  | .partiallyFilled => some .partiallyFilled
  | .rejected => some .rejected
  | .expired => some .expired
  | _ => none

/-- The record with the fills of an inquiry row, before its status is looked at. -/
def inquiryFills (record : ExecutionOrderRecord) (target : ExecutionOrderStatus)
    (snapshot : BrokerOrderStatusSnapshot) : ExecutionOrderRecord :=
  let filled := max record.filledQuantity snapshot.filledQuantity
  { record with
    filledQuantity := filled
    averageFillPrice :=
      if snapshot.avgFillPrice ≠ 0 then snapshot.avgFillPrice else record.averageFillPrice
    remainingQuantity :=
      if target = .partiallyFilled then
        max 0 (if snapshot.remainingQuantity ≠ 0 then snapshot.remainingQuantity
          else record.submittedQuantity - filled)
      else 0 }

variable (now : IsoText)

/-- The record in the status of an inquiry row. -/
def movedByInquiry (record : ExecutionOrderRecord)
    (target : ExecutionOrderStatus) : Except Raised ExecutionOrderRecord :=
  if target ≠ record.status then applyStatusTransition record target none now else pure record

/-- The record an inquiry row settles: in the row's status, out of DISCOVERING. -/
def settledByInquiry (record : ExecutionOrderRecord)
    (target : ExecutionOrderStatus) : Except Raised ExecutionOrderRecord := do
  let moved ← movedByInquiry now record target
  if moved.recoveryState = .discovering then transitionRecoveryState moved .none_ else pure moved

/-- `_apply_authoritative_cancel_snapshot`: whether the row settled the order, and the
record as it has been mutated either way. -/
def applyAuthoritativeCancelSnapshot (write : CommitOutcome)
    (record : ExecutionOrderRecord) (snapshot : BrokerOrderStatusSnapshot) :
    Gateway (Bool × ExecutionOrderRecord) :=
  match inquiryTarget snapshot.status with
  | none => pure (false, record)
  | some target =>
    let filled := inquiryFills record target snapshot
    if target ≠ record.status ∧ target ∉ allowedStatusTransitions record.status then
      pure (false, filled)
    else do
      let settled ← ofExcept (settledByInquiry now filled target)
      let written ← transaction write (writeOrder settled)
      pure (true, written)

/-- How an inquiry of the exact order is answered. -/
inductive InquiryAnswer
  | rows (rows : List BrokerOrderStatusSnapshot)
  | failed
  | crashed
  deriving DecidableEq

structure Inquiry where
  now : IsoText
  answer : InquiryAnswer
  write : CommitOutcome := .committed

/-- The exact row of an inquiry; a failed one has none. -/
def Inquiry.exactRow (inquiry : Inquiry) (record : ExecutionOrderRecord) :
    Option BrokerOrderStatusSnapshot :=
  match inquiry.answer with
  | .rows rows => rows.find? (fun row => sameBrokerOrderId row.brokerOrderId record.brokerOrderId)
  | _ => none

/-- The row the inquiry reported joins the history. -/
def noteInquiry (clientOrderId : String) (row : BrokerOrderStatusSnapshot) : Gateway Unit :=
  Procedure.update (fun world =>
    { world with history := world.history ++ [.inquiryReported clientOrderId row] })

def waitForAuthoritativeCancelTerminal : List Inquiry → ExecutionOrderRecord →
    Gateway ExecutionOrderRecord
  | [], record => pure record
  | inquiry :: later, record =>
    if inquiry.answer = .crashed then crash
    else
      match inquiry.exactRow record with
      | none => waitForAuthoritativeCancelTerminal later record
      | some row => do
        noteInquiry record.clientOrderId row
        let (settled, next) ←
          applyAuthoritativeCancelSnapshot inquiry.now inquiry.write record row
        if settled then pure next else waitForAuthoritativeCancelTerminal later next

/-! ## Releasing the transition hold -/

/-- How the release of a hold that is still open is answered. -/
structure ReleaseAnswers where
  clock : Instant
  read : ReadOutcome := .answered
  write : CommitOutcome := .committed

/-- Release the stored reservation if it is open. -/
def releaseCurrentHold (answers : ReleaseAnswers) (reservationId : String) : Gateway Unit := do
  let current ← readDatabase answers.read (fun database =>
    lookup CapitalReservation.reservationId reservationId database.capitalReservations)
  match current with
  | some hold =>
    if hold.isOpen then
      transaction answers.write (writeReservation (hold.release answers.clock))
    else pure ()
  | none => pure ()

/-- The same, when there is a transition hold at all. -/
def releasePreparedHold (answers : ReleaseAnswers) (prepared : Option CapitalReservation) :
    Gateway Unit :=
  match prepared with
  | some hold => releaseCurrentHold answers hold.reservationId
  | none => pure ()

/-! ## Replacing -/

/-- What `replace_guarded` is answered, in the order it asks. -/
structure ReplaceAnswers where
  now : IsoText
  clock : Instant
  liveMutation : GateAnswer Unit := .ok ()
  originalRead : ReadOutcome := .answered
  existingRead : ReadOutcome := .answered
  tradingEnabled : GateAnswer Unit := .ok ()
  riskApproval : GateAnswer (Option PortfolioRiskReservationSpec) := .ok none
  liveEntry : GateAnswer Unit := .ok ()
  reservationRead : ReadOutcome := .answered
  buyingPower : GateAnswer ℚ := .ok 0
  ownership : GateAnswer Unit := .ok ()
  verifiedLease : GateAnswer Unit := .ok ()
  mutationBudget : GateAnswer Unit := .ok ()
  prepareFence : GateAnswer Unit := .ok ()
  prepare : CommitOutcome := .committed
  cancel : CancelAnswers
  restore : CommitOutcome := .committed
  cancelledRead : ReadOutcome := .answered
  discovering : CommitOutcome := .committed
  inquiries : List Inquiry := []
  release : ReleaseAnswers
  revalidate : GateAnswer Unit := .ok ()
  submit : SubmitAnswers
  newOrderRead : ReadOutcome := .answered
  complete : CommitOutcome := .committed

/-- A `ReplaceNotSafeError`. -/
def replaceNotSafeError (message : String) : Raised :=
  { cls := .replaceNotSafe, message := message }

/-- The command of a replacement. -/
def replaceCommand (request : ReplaceExecutionRequest) (original : ExecutionOrderRecord)
    (now : IsoText) : ExecutionCommand :=
  { idempotencyKey := strip (replaceKey request.replaceCommandId)
    commandType := .replace
    environment := original.environment
    accountNo := original.accountNo
    symbol := original.symbol
    leaseEpoch := (request.lease.map (·.leaseEpoch)).getD 0
    ownerDeviceId := (request.lease.map (·.deviceId)).getD ""
    leaseToken := (request.lease.map (·.leaseToken)).getD ""
    targetBrokerOrderId := original.brokerOrderId
    requestedAt := now
    source := request.source.value }

/-- What the validation of a replacement establishes: the price, and for an entry with a
portfolio risk specification that specification and the buying power. -/
structure ReplacementPlan where
  limitPrice : ℚ
  portfolio : Option (PortfolioRiskReservationSpec × ℚ) := none

/-- The checks of a replacement of an entry. -/
def validateEntryReplacement (answers : ReplaceAnswers) (original : ExecutionOrderRecord)
    (limitPrice : ℚ) : Gateway ReplacementPlan := do
  gate answers.tradingEnabled
  let spec ← gate answers.riskApproval
  gate answers.liveEntry
  match spec with
  | none => pure { limitPrice := limitPrice }
  | some spec =>
    if original.capitalReservationId = "" then
      raise
        { cls := .preTradeRiskRejected
          message := "ENTRY replacement requires the original order's durable capital " ++
            "reservation; the original order was not cancelled" }
    else
      let reservation ← readDatabase answers.reservationRead (fun database =>
        lookup CapitalReservation.reservationId original.capitalReservationId
          database.capitalReservations)
      if reservation.any (·.isOpen) then
        let buyingPower ← gate answers.buyingPower
        pure { limitPrice := limitPrice, portfolio := some (spec, buyingPower) }
      else
        raise
          { cls := .preTradeRiskRejected
            message := "ENTRY replacement requires an open original reservation; the " ++
              "original order was not cancelled" }

variable (request : ReplaceExecutionRequest)

/-- The complete validation of a replacement request, before anything is mutated. -/
def validateReplacement (answers : ReplaceAnswers)
    (original : ExecutionOrderRecord) : Gateway ReplacementPlan := do
  if original.environment ≠ request.environment ∨ original.accountNo ≠ request.accountNo then
    raise (cancelNotPermittedError ("client_order_id='" ++ request.clientOrderId ++
      "' belongs to " ++ original.environment ++ "/" ++ original.accountNo ++
      ", not the requested " ++ request.environment ++ "/" ++ request.accountNo))
  else if request.newQuantity ≤ 0 then
    raise (valueError ("new_quantity must be positive, got " ++ toString request.newQuantity))
  else
    let limitPrice ← ofExcept
      (requireLimitPrice "new_limit_price" original.executionPolicy request.newLimitPrice)
    if request.newClientOrderId = "" then
      raise (valueError ("ReplaceExecutionRequest.new_client_order_id must be a " ++
        "non-blank, caller-generated stable identity"))
    else
      let existing ← readDatabase answers.existingRead (fun database =>
        getExecutionOrder database.executionOrders request.newClientOrderId)
      if existing.isSome then
        raise (valueError ("new_client_order_id='" ++ request.newClientOrderId ++
          "' already exists -- a replacement must use a fresh identity, never reuse an " ++
          "existing order's"))
      else if isNewEntry original.side original.intent then
        validateEntryReplacement answers original limitPrice
      else pure { limitPrice := limitPrice }

/-- The transition hold and the reservation it was made from. -/
abbrev PreparedHold := CapitalReservation × CapitalReservation

/-- The reservation rows with the transition hold of the replacement, if it needs one. -/
def transitionHold (original : ExecutionOrderRecord)
    (plan : ReplacementPlan) (rows : List CapitalReservation) :
    Except Raised (List CapitalReservation × Option PreparedHold) :=
  match plan.portfolio with
  | some (spec, buyingPower) => do
    let (written, prepared, previous) ← prepareReservationForReplacement rows
      original.capitalReservationId
      { environment := original.environment, accountNo := original.accountNo
        symbol := original.symbol, notional := request.newQuantity * plan.limitPrice
        openRisk := spec.proposedOpenRiskUsd }
      buyingPower spec
    pure (written, some (prepared, previous))
  | none => pure (rows, none)

/-- The transaction that persists the parent command, and the transition hold. -/
def prepareReplacement (answers : ReplaceAnswers)
    (original : ExecutionOrderRecord) (plan : ReplacementPlan) (database : CanonicalDatabase) :
    Except Raised (Option PreparedHold × CanonicalDatabase) := do
  GateAnswer.result answers.prepareFence
  let (reservations, prepared) ← transitionHold request original plan
    database.capitalReservations
  let commands ← insertCommand database.executionCommands
    (replaceCommand request original answers.now)
  pure (prepared, { database with
    executionCommands := commands
    capitalReservations := reservations })

/-- The transaction that puts the original reservation back. -/
def restoreHold (hold : PreparedHold) (database : CanonicalDatabase) :
    Except Raised (Unit × CanonicalDatabase) := do
  let (reservations, _) ← restorePreparedReplacementReservation database.capitalReservations
    hold.1 hold.2
  pure ((), { database with capitalReservations := reservations })

/-- The cancel of a replacement. -/
def replacementCancel : CancelExecutionRequest :=
  { clientOrderId := request.clientOrderId
    cancelCommandId := strip (request.replaceCommandId ++ ":CANCEL")
    environment := request.environment
    accountNo := request.accountNo
    lease := request.lease
    source := request.source
    strategyInstanceId := request.strategyInstanceId }

/-- The exceptions after which the broker may have accepted a mutation. -/
def mayHaveReachedBroker (cls : ExceptionClass) : Bool :=
  cls ∈ [.guardedCancellationAmbiguous, .guardedSubmissionAmbiguous,
    .ambiguousPostBrokerPersistence]

/-- The cancel leg: a definitive failure puts the reservation back. -/
def cancelOriginal (answers : ReplaceAnswers)
    (prepared : Option PreparedHold) (original : ExecutionOrderRecord) : Gateway Unit := do
  match ← Procedure.attempt (doCancel (replacementCancel request) answers.cancel
    cancellableForReplace prepared.isNone original) with
  | .ok _ => pure ()
  | .error error =>
    if mayHaveReachedBroker error.cls then raise error
    else
      match prepared with
      | some hold =>
        transaction answers.restore (restoreHold hold)
        raise error
      | none => raise error

/-- A cancel the broker only acknowledged: DISCOVERING until an inquiry confirms it. -/
def holdForDiscovery (commit : CommitOutcome) (cancelled : ExecutionOrderRecord) :
    Gateway ExecutionOrderRecord :=
  if cancelled.status = .cancelled ∧ cancelled.recoveryState = .none_ then do
    let discovering ← ofExcept (transitionRecoveryState cancelled .discovering)
    transaction commit (writeOrder discovering)
  else pure cancelled

/-- The order after the cancel: held for discovery, then settled by exact inquiry. -/
def confirmCancelled (answers : ReplaceAnswers) :
    Gateway (Option ExecutionOrderRecord) := do
  let stored ← readDatabase answers.cancelledRead (fun database =>
    getExecutionOrder database.executionOrders request.clientOrderId)
  match stored with
  | none => pure none
  | some cancelled =>
    let held ← holdForDiscovery answers.discovering cancelled
    if held.status = .cancelPending ∨ held.status = .cancelled then do
      let settled ← waitForAuthoritativeCancelTerminal answers.inquiries held
      pure (some settled)
    else pure (some held)

/-- The transition hold of an order that filled instead. -/
def releaseFilledHold (release : ReleaseAnswers) (prepared : Option PreparedHold)
    (record : ExecutionOrderRecord) : Gateway Unit :=
  match prepared with
  | some (hold, _) =>
    if record.status = .filled ∧ hold.isOpen = true then
      transaction release.write (writeReservation (hold.release release.clock))
    else pure ()
  | none => pure ()

/-- The refusals between the confirmed cancel and the replacement. -/
def requireSafeReplacement (answers : ReplaceAnswers)
    (prepared : Option PreparedHold) (preCancelFilledQuantity : Int)
    (cancelled : Option ExecutionOrderRecord) : Gateway ExecutionOrderRecord := do
  match cancelled with
  | some record =>
    if record.status = .cancelled ∧ preCancelFilledQuantity < record.filledQuantity then do
      releasePreparedHold answers.release (prepared.map (·.1))
      raise (replaceNotSafeError ("Cannot replace '" ++ request.clientOrderId ++
        "': the cancel response reported a new fill after replacement risk was approved. " ++
        "Refresh the position and build a new net-risk decision before retrying."))
    else if record.status ≠ .cancelled ∨ record.recoveryState ≠ .none_ then do
      releaseFilledHold answers.release prepared record
      raise (replaceNotSafeError ("Cannot replace '" ++ request.clientOrderId ++
        "': cancellation did not reach a safe CANCELLED outcome (status=" ++
        record.status.value ++ ") from authoritative inquiry -- a fill or an ambiguous " ++
        "cancel outcome must be resolved before a replace can proceed"))
    else pure record
  | none =>
    raise (replaceNotSafeError ("Cannot replace '" ++ request.clientOrderId ++
      "': cancellation did not reach a safe CANCELLED outcome (status=MISSING) from " ++
      "authoritative inquiry -- a fill or an ambiguous cancel outcome must be resolved " ++
      "before a replace can proceed"))

/-- The caller's full gate once more, after the cancel; a refusal releases the hold. -/
def revalidateAfterCancel (answers : GateAnswer Unit) (release : Gateway Unit) : Gateway Unit :=
  match answers with
  | .ok _ => pure ()
  | .error error => do
    release
    raise (replaceNotSafeError ("Replacement aborted after cancel: " ++ error.message))

/-- The submission of the replacement of `cancelled`. -/
def replacementSubmission (cancelled : ExecutionOrderRecord)
    (limitPrice : FloatValue) (prepared : Option (String × Int)) : SubmitExecutionRequest :=
  { clientOrderId := request.newClientOrderId
    environment := cancelled.environment
    accountNo := cancelled.accountNo
    symbol := cancelled.symbol
    side := cancelled.side
    intent := cancelled.intent
    quantity := request.newQuantity
    limitPrice := limitPrice
    exchange := cancelled.exchange
    executionPolicy := cancelled.executionPolicy
    attemptGroupId := cancelled.attemptGroupId
    attemptNumber := cancelled.attemptNumber + 1
    lease := request.lease
    source := request.source
    strategyInstanceId := request.strategyInstanceId
    replacesExecutionOrderId := request.clientOrderId
    preparedCapitalReservationId := (prepared.map (·.1)).getD ""
    preparedCapitalReservationVersion := (prepared.map (·.2.toNat)).getD 0
    clientOrderIdStripped := request.newClientOrderIdStripped }

/-- Without the durable record of the new order nothing is left for the hold to cover. -/
def releaseUncoveredHold (newOrderRead : ReadOutcome) (release : ReleaseAnswers)
    (newClientOrderId reservationId : String) : Gateway Unit := do
  let stored ← readDatabase newOrderRead (fun database =>
    getExecutionOrder database.executionOrders newClientOrderId)
  if stored.isNone then releaseCurrentHold release reservationId else pure ()

/-- The submit leg: a failure before the durable record releases the hold. -/
def submitReplacement (submission : SubmitExecutionRequest) (answers : SubmitAnswers)
    (newOrderRead : ReadOutcome) (release : ReleaseAnswers) (hold : Option String) :
    Gateway ExecutionOrderRecord := do
  match ← Procedure.attempt (doSubmit submission answers) with
  | .ok record => pure record
  | .error error =>
    if mayHaveReachedBroker error.cls then raise error
    else
      match hold with
      | some reservationId =>
        releaseUncoveredHold newOrderRead release submission.clientOrderId reservationId
        raise error
      | none => raise error

/-- The gates between the validation and the parent command. -/
def replacementGates (answers : ReplaceAnswers)
    (original : ExecutionOrderRecord) : Gateway Unit := do
  gate answers.ownership
  if cancellableForReplace original = false then
    raise (cancelNotPermittedError ("client_order_id='" ++ request.clientOrderId ++
      "' is not currently replaceable (status=" ++ original.status.value ++
      ", recovery_state=" ++ original.recoveryState.value ++ ", origin=" ++
      original.origin.value ++ ")"))
  else
    requireVerifiedLease request.lease answers.verifiedLease
    gate answers.mutationBudget

def replaceGuarded (answers : ReplaceAnswers) :
    Gateway ExecutionOrderRecord := do
  gate answers.liveMutation
  let stored ← readDatabase answers.originalRead (fun database =>
    getExecutionOrder database.executionOrders request.clientOrderId)
  match stored with
  | none =>
    raise
      { cls := .orderNotFoundForCancel
        message := "No ExecutionOrderRecord for client_order_id='" ++ request.clientOrderId ++ "'" }
  | some original =>
    let plan ← validateReplacement request answers original
    replacementGates request answers original
    let prepared ← transaction answers.prepare (prepareReplacement request answers original plan)
    cancelOriginal request answers prepared original
    let confirmed ← confirmCancelled request answers
    let cancelled ← requireSafeReplacement request answers prepared original.filledQuantity
      confirmed
    revalidateAfterCancel answers.revalidate
      (releasePreparedHold answers.release (prepared.map (·.1)))
    let result ← submitReplacement
      (replacementSubmission request cancelled (some plan.limitPrice)
        (prepared.map (fun hold => (hold.1.reservationId, hold.1.version))))
      answers.submit answers.newOrderRead answers.release
      (prepared.map (·.1.reservationId))
    transaction answers.complete
      (writeResponse (replaceKey request.replaceCommandId) .completed none)
    pure result

/-! ## Resuming -/

/-- What `resume_replace_guarded` is answered, in the order it asks. -/
structure ResumeAnswers where
  originalRead : ReadOutcome := .answered
  parentRead : ReadOutcome := .answered
  ownership : GateAnswer Unit := .ok ()
  verifiedLease : GateAnswer Unit := .ok ()
  existingRead : ReadOutcome := .answered
  reservationRead : ReadOutcome := .answered
  revalidate : GateAnswer Unit := .ok ()
  revalidateRelease : CommitOutcome := .committed
  clock : Instant
  submit : SubmitAnswers
  newOrderRead : ReadOutcome := .answered
  release : ReleaseAnswers
  complete : CommitOutcome := .committed

/-- A parent command that stands for this replacement of `original`. -/
def matchesReplacement (parent : ExecutionCommand) (original : ExecutionOrderRecord) : Bool :=
  parent.commandType = .replace && parent.environment = original.environment &&
    parent.accountNo = original.accountNo && parent.symbol = original.symbol &&
    sameBrokerOrderId parent.targetBrokerOrderId original.brokerOrderId &&
    (parent.status = .requested || parent.status = .completed)

/-- The statuses of a replacement that was submitted. -/
def isSubmittedReplacement : ExecutionOrderStatus → Bool
  | .acknowledged | .working | .partiallyFilled | .filled => true
  | _ => false

/-- The statuses of a replacement whose submission is not resolved. -/
def isUnresolvedReplacement : ExecutionOrderStatus → Bool
  | .prepared | .submitting | .unknownSubmissionState => true
  | _ => false

/-- The replacement that is already stored. -/
def existingReplacement (original existing : ExecutionOrderRecord) :
    Except Raised ExecutionOrderRecord :=
  if existing.replacesExecutionOrderId ≠ original.clientOrderId ∨
      existing.capitalReservationId ≠ original.capitalReservationId then
    .error (replaceNotSafeError "Replacement recovery found a conflicting new order identity")
  else if isSubmittedReplacement existing.status then .ok existing
  else if isUnresolvedReplacement existing.status then
    .error
      { cls := .guardedSubmissionAmbiguous
        message := "Replacement submission already exists in an unresolved state" }
  else
    .error (replaceNotSafeError ("Replacement submission is terminally unusable (" ++
      existing.status.value ++ ")"))

variable (request : ReplaceExecutionRequest)

/-- The submit leg of a resumed replacement. -/
def resumeSubmission (answers : ResumeAnswers)
    (original : ExecutionOrderRecord) : Gateway ExecutionOrderRecord := do
  let stored ← readDatabase answers.reservationRead (fun database =>
    lookup CapitalReservation.reservationId original.capitalReservationId
      database.capitalReservations)
  match stored with
  | some reservation =>
    if reservation.isOpen then
      revalidateAfterCancel answers.revalidate
        (transaction answers.revalidateRelease
          (writeReservation (reservation.release answers.clock)))
      submitReplacement
        (replacementSubmission request original request.newLimitPrice
          (some (reservation.reservationId, reservation.version)))
        answers.submit answers.newOrderRead answers.release (some reservation.reservationId)
    else
      raise (replaceNotSafeError "Replacement recovery shared reservation is missing or closed")
  | none =>
    raise (replaceNotSafeError "Replacement recovery shared reservation is missing or closed")

/-- The replacement of a resumed parent command: the stored one, or a new submission. -/
def resumedReplacement (answers : ResumeAnswers)
    (original : ExecutionOrderRecord) (parent : ExecutionCommand)
    (existing : Option ExecutionOrderRecord) : Gateway ExecutionOrderRecord :=
  match existing with
  | some existing => ofExcept (existingReplacement original existing)
  | none =>
    if parent.status = .completed then
      raise
        { cls := .guardedSubmissionAmbiguous
          message := "Completed replacement command has no durable new-order record" }
    else resumeSubmission request answers original

/-- The original order a resume may go on from. -/
def requireResumable (original : ExecutionOrderRecord) : Except Raised Unit :=
  if original.environment ≠ request.environment ∨ original.accountNo ≠ request.accountNo then
    .error (replaceNotSafeError "Replacement recovery scope does not match")
  else if original.status ≠ .cancelled ∨ original.filledQuantity ≠ 0 ∨
      original.recoveryState ≠ .none_ then
    .error
      { cls := .replacementCancelConfirmationPending
        message := "Replacement recovery requires an authoritatively confirmed-cancelled " ++
          "zero-fill old order" }
  else if request.newQuantity ≠ original.submittedQuantity then
    .error (replaceNotSafeError "Replacement recovery quantity must equal the old order quantity")
  else .ok ()

def resumeReplaceGuarded (answers : ResumeAnswers) :
    Gateway ExecutionOrderRecord := do
  let stored ← readDatabase answers.originalRead (fun database =>
    getExecutionOrder database.executionOrders request.clientOrderId)
  match stored with
  | none =>
    raise (replaceNotSafeError "Replacement recovery cannot find the old order")
  | some original =>
    ofExcept (requireResumable request original)
    let parent ← readDatabase answers.parentRead (fun database =>
      getCommand database.executionCommands (replaceKey request.replaceCommandId))
    match parent with
    | none =>
      raise (replaceNotSafeError "Replacement recovery has no matching durable parent command")
    | some parent =>
      if matchesReplacement parent original = false then
        raise (replaceNotSafeError "Replacement recovery has no matching durable parent command")
      else
        gate answers.ownership
        requireVerifiedLease request.lease answers.verifiedLease
        let existing ← readDatabase answers.existingRead (fun database =>
          getExecutionOrder database.executionOrders request.newClientOrderId)
        let result ← resumedReplacement request answers original parent existing
        if parent.status = .requested then
          transaction answers.complete
            (writeResponse (replaceKey request.replaceCommandId) .completed (some parent.version))
          pure result
        else pure result

end QuantApp.Services
