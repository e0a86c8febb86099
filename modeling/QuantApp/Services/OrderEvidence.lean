import QuantApp.Services.ReconciliationPlan

/-!
# Broker evidence on one execution order

The functions of `src/services/account_reconciliation.py` that mutate one
cloned order: exact broker rows (`_apply_exact_order_snapshot`), heuristic
candidates of ambiguous submissions, and the two-generation absence rule
(`_record_absence`).  Each is a function from the record to its new value.
-/

namespace QuantApp.Services

open Core Verified

/-- The recovery state `_set_recovery_state` leaves: `target`, or the manual
state when the table does not allow it. -/
def nextRecoveryState (current target : OrderRecoveryState) : OrderRecoveryState :=
  if current = target then current
  else if target ∈ allowedRecoveryTransitions current then target
  else if .manualInterventionRequired ∈ allowedRecoveryTransitions current then
    .manualInterventionRequired
  else current

def setRecoveryState (order : ExecutionOrderRecord) (target : OrderRecoveryState) :
    ExecutionOrderRecord :=
  { order with recoveryState := nextRecoveryState order.recoveryState target }

def clearAbsence (order : ExecutionOrderRecord) : ExecutionOrderRecord :=
  { order with
    absenceCount := 0
    lastAbsenceSnapshotId := ""
    lastAbsenceObservedAt := none
    lastAbsenceSessionDate := none
    lastAbsenceBrokerOrderId := ""
    lastAbsenceHoldingQuantity := none }

/-- The fields a semantic change is looked for in: all but the audit times and
the version. -/
def semanticFields (order : ExecutionOrderRecord) : ExecutionOrderRecord :=
  { order with lastBrokerSeenAt := none, lastReconciledAt := none, version := 0 }

/-- Whether `_stamp_exact_order_observation_if_due` stamps the record. -/
def observationDue (config : ExecutionConfig) (order before : ExecutionOrderRecord)
    (checkedAt : IsoText) : Bool :=
  if semanticFields order ≠ semanticFields before then true
  else
    match order.lastReconciledAt with
    | none => true
    | some reconciledAt =>
      if order.status.isTerminal then false
      else
        match checkedAt.reading, reconciledAt.reading with
        | some observed, some prior =>
          let elapsed := observed.assumeUtc - prior.assumeUtc
          elapsed < 0 || secondsToMicros config.durableOrderObservationSeconds ≤ elapsed
        | _, _ => true

def stampExactOrderObservationIfDue (config : ExecutionConfig)
    (order before : ExecutionOrderRecord) (checkedAt : IsoText) : ExecutionOrderRecord :=
  let due := observationDue config order before checkedAt
  { order with
    lastBrokerSeenAt := if due then some checkedAt else order.lastBrokerSeenAt
    lastReconciledAt := if due then some checkedAt else order.lastReconciledAt }

/-- `_BROKER_TO_EXECUTION_STATUS`; `none` is a status without an entry. -/
def snapshotStatus : OrderStatus → Option ExecutionOrderStatus
  | .accepted => some .acknowledged
  | .working => some .working
  | .partiallyFilled => some .partiallyFilled
  | .filled => some .filled
  | .cancelRequested => some .cancelPending
  | .cancelled => some .cancelled
  | .rejected => some .rejected
  | .expired => some .expired
  | .created | .submitting | .unknownSubmissionState | .unknown => none

/-- The fill fields `_apply_exact_order_snapshot` merges before it looks at the
status. -/
def mergeFillEvidence (order : ExecutionOrderRecord) (row : BrokerOrderStatusSnapshot) :
    ExecutionOrderRecord :=
  let filled := max order.filledQuantity row.filledQuantity
  { clearAbsence order with
    filledQuantity := filled
    remainingQuantity :=
      if row.remainingQuantity ≠ 0 ∨ row.status = .filled then max 0 row.remainingQuantity
      else max 0 (order.submittedQuantity - filled)
    averageFillPrice := if row.avgFillPrice ≠ 0 then row.avgFillPrice else order.averageFillPrice }

/-- `preserve_ambiguous_cancel`: an unresolved cancel is not withdrawn by a row
that still shows the order open. -/
def preservesAmbiguousCancel (status : ExecutionOrderStatus) (recovery : OrderRecoveryState)
    (target : ExecutionOrderStatus) : Bool :=
  status = .cancelPending && recovery = .discovering && target.isOpen

/-- The three ways a recognized broker status can bear on the local status. -/
inductive StatusMove
  | keep
  | advance (through : List ExecutionOrderStatus)
  | contradiction
  deriving Repr

/-- Which transitions `_apply_exact_order_snapshot` applies to an order in
`status` and `recovery`.  A snapshot may skip the local observation of
`CANCEL_PENDING`, so `CANCELLED` is also reached through it. -/
def statusMove (status : ExecutionOrderStatus) (recovery : OrderRecoveryState)
    (target : ExecutionOrderStatus) : StatusMove :=
  if target = status ∨ preservesAmbiguousCancel status recovery target then .keep
  else if target ∈ allowedStatusTransitions status then .advance [target]
  else if target = .cancelled ∧ .cancelPending ∈ allowedStatusTransitions status then
    .advance [.cancelPending, .cancelled]
  else .contradiction

/-- `apply_status_transition` along a list of targets. -/
def applyStatusTransitions (now : IsoText) (order : ExecutionOrderRecord)
    (targets : List ExecutionOrderStatus) : Except Raised ExecutionOrderRecord :=
  targets.foldlM (fun record target => applyStatusTransition record target none now) order

/-- The recovery state at the end of `_apply_exact_order_snapshot`; `preserved`
is whether an ambiguous cancel was preserved. -/
def settledRecovery (recovery : OrderRecoveryState) (target : ExecutionOrderStatus)
    (preserved : Bool) : OrderRecoveryState :=
  if recovery = .discovering ∧ preserved = false then nextRecoveryState recovery .none_
  else if target.isTerminal ∧ recovery = .awaitingCancelConfirmation then
    nextRecoveryState recovery .terminalReconciled
  else recovery

/-- The record with that recovery state. -/
def settleRecovery (order : ExecutionOrderRecord) (target : ExecutionOrderStatus)
    (preserved : Bool) : ExecutionOrderRecord :=
  { order with recoveryState := settledRecovery order.recoveryState target preserved }

/-- `_apply_exact_order_snapshot`: the new record and the contradiction text. -/
def applyExactOrderSnapshot (runtime : Runtime) (order : ExecutionOrderRecord)
    (row : BrokerOrderStatusSnapshot) : Except Raised (ExecutionOrderRecord × Option String) :=
  let merged := mergeFillEvidence order row
  let stamped := fun record =>
    stampExactOrderObservationIfDue runtime.config record order row.checkedAt
  match snapshotStatus row.status with
  | none =>
    .ok (stamped (setRecoveryState merged .manualInterventionRequired),
      some ("Broker returned unrecognized order status " ++ row.status.value))
  | some target =>
    match statusMove merged.status merged.recoveryState target with
    | .contradiction =>
      .ok (stamped (setRecoveryState merged .manualInterventionRequired),
        some ("Broker status " ++ target.value ++
          " contradicts local transition from " ++ merged.status.value))
    | .keep =>
      let preserved := preservesAmbiguousCancel merged.status merged.recoveryState target
      .ok (stamped (settleRecovery merged target preserved), none)
    | .advance targets => do
      let moved ← applyStatusTransitions runtime.utcNowIso merged targets
      pure (stamped (settleRecovery moved target false), none)

/-! ## Ambiguous submissions -/

def heuristicCandidate (config : ExecutionConfig) (row : BrokerOrderStatusSnapshot)
    (order : ExecutionOrderRecord) : Bool :=
  if order.brokerIdentityStatus ≠ .ambiguous then false
  else if row.symbol ≠ order.symbol ∨ row.side ≠ order.side then false
  else if row.quantityRequested ≠ 0 ∧ row.quantityRequested ≠ order.submittedQuantity then false
  else if row.limitPrice ≠ 0 ∧ order.submittedLimitPrice ≠ 0 ∧
      max (1 / 100) (order.submittedLimitPrice * (1 / 1000)) <
        |row.limitPrice - order.submittedLimitPrice| then false
  else
    match row.submittedAt, order.submissionStartedAt with
    | some submittedAt, some startedAt =>
      match submittedAt.reading, startedAt.reading with
      | some broker, some started =>
        decide (|broker.assumeUtc - started.assumeUtc| ≤
          secondsToMicros config.ambiguousSubmissionCandidateWindowSeconds)
      | _, _ => false
    | _, _ => false

/-- Membership in the reducer's `ambiguous_orders`. -/
def isAmbiguousSubmission (order : ExecutionOrderRecord) : Bool :=
  order.brokerIdentityStatus = .ambiguous &&
    (order.status = .submitting || order.status = .unknownSubmissionState)

/-- The record a heuristic candidate becomes: uncertain, with the broker id on
its list, and never claimed. -/
def retainedCandidate (order : ExecutionOrderRecord) (brokerOrderId : String) :
    ExecutionOrderRecord :=
  let discovering :=
    if order.recoveryState = .none_ then setRecoveryState order .discovering else order
  let uncertain := setRecoveryState discovering .brokerIdentityUncertain
  { uncertain with
    recoveryCandidateBrokerOrderIds :=
      (uncertain.recoveryCandidateBrokerOrderIds ++ [brokerOrderId]).eraseDups }

/-- The escalation of an ambiguous submission no broker row correlates with. -/
def escalatedSubmission (order : ExecutionOrderRecord) : ExecutionOrderRecord :=
  let discovering :=
    if order.recoveryState = .none_ then setRecoveryState order .discovering else order
  setRecoveryState discovering .manualInterventionRequired

/-! ## Absence -/

inductive AbsenceOutcome
  | contradictionReset
  | firstAbsence
  | sameGeneration
  | identityChangedReset
  | sessionChangedReset
  | invalidFirstObservationReset
  | tooSoon
  | holdingsNotFresh
  | terminalReconciled
  | manualInterventionRequired
  deriving DecidableEq, Repr

/-- The text `_record_absence` returns. -/
def AbsenceOutcome.value : AbsenceOutcome → String
  | .contradictionReset => "CONTRADICTION_RESET"
  | .firstAbsence => "FIRST_ABSENCE"
  | .sameGeneration => "SAME_GENERATION"
  | .identityChangedReset => "IDENTITY_CHANGED_RESET"
  | .sessionChangedReset => "SESSION_CHANGED_RESET"
  | .invalidFirstObservationReset => "INVALID_FIRST_OBSERVATION_RESET"
  | .tooSoon => "TOO_SOON"
  | .holdingsNotFresh => "HOLDINGS_NOT_FRESH"
  | .terminalReconciled => "TERMINAL_RECONCILED"
  | .manualInterventionRequired => "MANUAL_INTERVENTION_REQUIRED"

def absenceEvidenceComplete (order : ExecutionOrderRecord) (snapshot : AccountBrokerSnapshot) :
    Bool :=
  if order.executionPolicy = reservedMooExecution then
    snapshot.completeness.holdingsComplete && snapshot.completeness.openOrdersComplete &&
      snapshot.completeness.historyComplete && snapshot.completeness.reservedOrdersComplete
  else snapshot.completeness.allows .terminalOrderConclusion

/-- Subtracting a naive datetime from an aware one. -/
def naiveSubtraction : Raised :=
  { cls := .typeError
    message := "can't subtract offset-naive and offset-aware datetimes" }

/-- The record of a first complete generation without the order. -/
def firstAbsence (order : ExecutionOrderRecord) (snapshot : AccountBrokerSnapshot)
    (holdingQuantity : Int) : ExecutionOrderRecord :=
  { order with
    absenceCount := 1
    lastAbsenceSnapshotId := snapshot.snapshotId
    lastAbsenceObservedAt := some (isoformat snapshot.observedAt)
    lastAbsenceSessionDate := some (isoDate snapshot.sessionDate)
    lastAbsenceBrokerOrderId := order.brokerOrderId
    lastAbsenceHoldingQuantity := some holdingQuantity }

/-- The record of the second, confirming generation. -/
def confirmedAbsence (order : ExecutionOrderRecord) (snapshot : AccountBrokerSnapshot) :
    ExecutionOrderRecord × AbsenceOutcome :=
  let counted :=
    { order with
      absenceCount := 2
      lastAbsenceSnapshotId := snapshot.snapshotId
      lastAbsenceObservedAt := some (isoformat snapshot.observedAt) }
  if order.recoveryState = .awaitingCancelConfirmation then
    (setRecoveryState counted .terminalReconciled, .terminalReconciled)
  else
    (setRecoveryState counted .manualInterventionRequired, .manualInterventionRequired)

/-- The contradiction test of `_record_absence`. -/
def absenceContradicted (order : ExecutionOrderRecord) (snapshot : AccountBrokerSnapshot)
    (holdingQuantity : Int) : Bool :=
  snapshot.executionNoticeBrokerOrderIds.contains order.brokerOrderId ||
    (order.lastAbsenceHoldingQuantity.isSome &&
      order.lastAbsenceHoldingQuantity ≠ some holdingQuantity)

def recordAbsence (config : ExecutionConfig) (order : ExecutionOrderRecord)
    (snapshot : AccountBrokerSnapshot) (holdingQuantity : Int) :
    Except Raised (ExecutionOrderRecord × AbsenceOutcome) :=
  if absenceContradicted order snapshot holdingQuantity then
    .ok (clearAbsence order, .contradictionReset)
  else if order.absenceCount ≤ 0 then
    .ok (firstAbsence order snapshot holdingQuantity, .firstAbsence)
  else if snapshot.snapshotId = order.lastAbsenceSnapshotId then
    .ok (order, .sameGeneration)
  else if order.lastAbsenceBrokerOrderId ≠ order.brokerOrderId then
    .ok (clearAbsence order, .identityChangedReset)
  else if order.lastAbsenceSessionDate ≠ some (isoDate snapshot.sessionDate) then
    .ok (clearAbsence order, .sessionChangedReset)
  else
    match order.lastAbsenceObservedAt.bind (·.reading) with
    | none => .ok (clearAbsence order, .invalidFirstObservationReset)
    | some (.naive _) => .error naiveSubtraction
    | some (.aware firstAt) =>
      if snapshot.observedAt - firstAt <
          secondsToMicros config.minAbsenceConfirmationIntervalSeconds then
        .ok (order, .tooSoon)
      else if snapshot.completeness.holdingsComplete = false then
        .ok (order, .holdingsNotFresh)
      else .ok (confirmedAbsence order snapshot)

/-- The absence step of one order in the reducer: orders without a broker id,
terminal orders, orders a row was consumed for and orders whose evidence is
incomplete are skipped. -/
def absenceStep (config : ExecutionConfig) (snapshot : AccountBrokerSnapshot)
    (consumedBrokerIds : List String) (order : ExecutionOrderRecord) :
    Except Raised (ExecutionOrderRecord × List ReconciliationAlert) :=
  if order.brokerOrderId = "" ∨ order.status.isTerminal ∨
      order.brokerOrderId ∈ consumedBrokerIds ∨
      absenceEvidenceComplete order snapshot = false then
    .ok (order, [])
  else do
    let holdingQuantity := ((snapshot.holdingFor order.symbol).map (·.quantity)).getD 0
    let (observed, outcome) ← recordAbsence config order snapshot holdingQuantity
    if outcome = .manualInterventionRequired ∨ outcome = .contradictionReset then
      pure (observed,
        [{ code := "ORDER_ABSENCE_" ++ outcome.value
           severity := .critical
           message := "Broker absence could not be resolved automatically"
           symbol := order.symbol
           clientOrderId := order.clientOrderId
           brokerOrderId := order.brokerOrderId }])
    else pure (observed, [])

end QuantApp.Services
