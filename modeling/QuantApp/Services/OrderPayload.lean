import QuantApp.Services.StoredOrders

/-!
# The payload of an order row

`_record_to_payload` and `_payload_to_record` of
`src/services/execution_order_repository.py`: the JSON object a row of `execution_orders`
keeps the whole record in.  Reading goes through the constructor, which normalizes most
fields (`ExecutionOrderRecord.__post_init__`); a record that is as its constructor would
leave it is read back as it was written.
-/

namespace QuantApp.Services

open Core Verified

/-- An order record with the three fields that only the payload carries on. -/
structure DurableOrderRecord extends ExecutionOrderRecord where
  marketSessionDate : Option String := none
  cancelRequestedAt : Option IsoText := none
  rawSubmissionHash : String := ""
  deriving DecidableEq

/-- The JSON object of a row: enumerations are their texts, a set is a sorted list. -/
structure StoredOrderPayload where
  environment : String
  accountNo : String
  symbol : String
  side : String
  intent : String
  clientOrderId : String
  brokerOrderId : String
  attemptGroupId : String
  attemptNumber : Int
  attemptDeadlineAt : Option String
  submittedQuantity : Int
  submittedLimitPrice : ℚ
  exchange : String
  executionPolicy : String
  preparedAt : IsoText
  submissionStartedAt : Option IsoText
  acknowledgedAt : Option IsoText
  marketSessionDate : Option String
  ownerDeviceId : String
  leaseToken : String
  leaseEpoch : Int
  status : String
  filledQuantity : Int
  remainingQuantity : Int
  averageFillPrice : ℚ
  cancelRequestedAt : Option IsoText
  lastBrokerSeenAt : Option IsoText
  lastReconciledAt : Option IsoText
  absenceCount : Int
  lastAbsenceSnapshotId : String
  lastAbsenceObservedAt : Option IsoText
  lastAbsenceSessionDate : Option String
  lastAbsenceBrokerOrderId : String
  lastAbsenceHoldingQuantity : Option Int
  origin : String
  brokerIdentityStatus : String
  recoveryState : String
  recoveryCandidateBrokerOrderIds : List String
  adoptionPermissions : List String
  replacesExecutionOrderId : String
  adoptedFromExternalOrderId : String
  capitalReservationId : String
  rawSubmissionHash : String
  version : Int

/-! ## Enumerations -/

def orderSides : List OrderSide := [.buy, .sell]

/-- The wire text of an intent (`OrderIntent.value`). -/
def orderIntentText : OrderIntent → String
  | .entry => "ENTRY"
  | .stopLoss => "STOP_LOSS"
  | .partialExit => "PARTIAL_EXIT"
  | .momentumExit => "MOMENTUM_EXIT"
  | .partialTakeProfit => "PARTIAL_TAKE_PROFIT"
  | .manualExit => "MANUAL_EXIT"
  | .unknown => "UNKNOWN"

def orderIntents : List OrderIntent :=
  [.entry, .stopLoss, .partialExit, .momentumExit, .partialTakeProfit, .manualExit, .unknown]

def executionOrderStatuses : List ExecutionOrderStatus :=
  [.prepared, .submitting, .acknowledged, .unknownSubmissionState, .notAcceptedConfirmed,
    .rejected, .working, .partiallyFilled, .filled, .cancelPending, .cancelled, .expired,
    .cancelledLocally]

def orderOrigins : List OrderOrigin := [.application, .userAdopted]

def brokerIdentityStatuses : List BrokerIdentityStatus :=
  [.notAssigned, .ambiguous, .exact_, .noBrokerOrderConfirmed]

def orderRecoveryStates : List OrderRecoveryState :=
  [.none_, .discovering, .brokerIdentityUncertain, .cancelRequired, .cancelRequested,
    .awaitingCancelConfirmation, .terminalReconciled, .manualInterventionRequired]

/-- The wire text of a permission (`AdoptedOrderPermission.value`). -/
def permissionText : AdoptedOrderPermission → String
  | .linkToCard => "LINK_TO_CARD"
  | .cancel => "CANCEL"
  | .replace => "REPLACE"

/-- The permissions in the order of their texts. -/
def adoptedOrderPermissions : List AdoptedOrderPermission := [.cancel, .linkToCard, .replace]

/-- `Enum(text)`: the member with this text. -/
def enumOfText {α : Type} (enum : String) (members : List α) (text : α → String)
    (found : String) : Except Raised α :=
  match members.find? (fun member => text member = found) with
  | some member => .ok member
  | none =>
    .error { cls := .valueError, message := "'" ++ found ++ "' is not a valid " ++ enum }

def orderSideOfText : String → Except Raised OrderSide :=
  enumOfText "OrderSide" orderSides OrderSide.value

def orderIntentOfText : String → Except Raised OrderIntent :=
  enumOfText "OrderIntent" orderIntents orderIntentText

def executionOrderStatusOfText : String → Except Raised ExecutionOrderStatus :=
  enumOfText "ExecutionOrderStatus" executionOrderStatuses ExecutionOrderStatus.value

def orderOriginOfText : String → Except Raised OrderOrigin :=
  enumOfText "OrderOrigin" orderOrigins OrderOrigin.value

def brokerIdentityStatusOfText : String → Except Raised BrokerIdentityStatus :=
  enumOfText "BrokerIdentityStatus" brokerIdentityStatuses BrokerIdentityStatus.value

def orderRecoveryStateOfText : String → Except Raised OrderRecoveryState :=
  enumOfText "OrderRecoveryState" orderRecoveryStates OrderRecoveryState.value

def permissionOfText : String → Except Raised AdoptedOrderPermission :=
  enumOfText "AdoptedOrderPermission" adoptedOrderPermissions permissionText

@[simp] theorem orderSide_ofText (side : OrderSide) : orderSideOfText side.value = .ok side := by
  cases side <;> decide

@[simp] theorem orderIntent_ofText (intent : OrderIntent) :
    orderIntentOfText (orderIntentText intent) = .ok intent := by
  cases intent <;> decide

@[simp] theorem executionOrderStatus_ofText (status : ExecutionOrderStatus) :
    executionOrderStatusOfText status.value = .ok status := by
  cases status <;> decide

@[simp] theorem orderOrigin_ofText (origin : OrderOrigin) :
    orderOriginOfText origin.value = .ok origin := by
  cases origin <;> decide

@[simp] theorem brokerIdentityStatus_ofText (status : BrokerIdentityStatus) :
    brokerIdentityStatusOfText status.value = .ok status := by
  cases status <;> decide

@[simp] theorem orderRecoveryState_ofText (recovery : OrderRecoveryState) :
    orderRecoveryStateOfText recovery.value = .ok recovery := by
  cases recovery <;> decide

@[simp] theorem permission_ofText (permission : AdoptedOrderPermission) :
    permissionOfText (permissionText permission) = .ok permission := by
  cases permission <;> decide

variable (permissions : List AdoptedOrderPermission)

theorem permissions_ofText :
    (permissions.map permissionText).mapM permissionOfText = .ok permissions := by
  induction permissions with
  | nil => rfl
  | cons permission rest ih =>
    rw [List.map_cons, List.mapM_cons, permission_ofText, ih]
    rfl

/-! ## Writing and reading -/

/-- `sorted(perm.value for perm in record.adoption_permissions)`, before the texts. -/
def sortedPermissions : List AdoptedOrderPermission :=
  adoptedOrderPermissions.filter (· ∈ permissions)

theorem mem_sortedPermissions {permissions : List AdoptedOrderPermission}
    {permission : AdoptedOrderPermission} :
    permission ∈ sortedPermissions permissions ↔ permission ∈ permissions := by
  have hAll : permission ∈ adoptedOrderPermissions := by cases permission <;> decide
  simp [sortedPermissions, hAll]

def recordToPayload (record : DurableOrderRecord) : StoredOrderPayload where
  environment := record.environment
  accountNo := record.accountNo
  symbol := record.symbol
  side := record.side.value
  intent := orderIntentText record.intent
  clientOrderId := record.clientOrderId
  brokerOrderId := record.brokerOrderId
  attemptGroupId := record.attemptGroupId
  attemptNumber := record.attemptNumber
  attemptDeadlineAt := record.attemptDeadlineAt
  submittedQuantity := record.submittedQuantity
  submittedLimitPrice := record.submittedLimitPrice
  exchange := record.exchange
  executionPolicy := record.executionPolicy
  preparedAt := record.preparedAt
  submissionStartedAt := record.submissionStartedAt
  acknowledgedAt := record.acknowledgedAt
  marketSessionDate := record.marketSessionDate
  ownerDeviceId := record.ownerDeviceId
  leaseToken := record.leaseToken
  leaseEpoch := record.leaseEpoch
  status := record.status.value
  filledQuantity := record.filledQuantity
  remainingQuantity := record.remainingQuantity
  averageFillPrice := record.averageFillPrice
  cancelRequestedAt := record.cancelRequestedAt
  lastBrokerSeenAt := record.lastBrokerSeenAt
  lastReconciledAt := record.lastReconciledAt
  absenceCount := record.absenceCount
  lastAbsenceSnapshotId := record.lastAbsenceSnapshotId
  lastAbsenceObservedAt := record.lastAbsenceObservedAt
  lastAbsenceSessionDate := record.lastAbsenceSessionDate
  lastAbsenceBrokerOrderId := record.lastAbsenceBrokerOrderId
  lastAbsenceHoldingQuantity := record.lastAbsenceHoldingQuantity
  origin := record.origin.value
  brokerIdentityStatus := record.brokerIdentityStatus.value
  recoveryState := record.recoveryState.value
  recoveryCandidateBrokerOrderIds := record.recoveryCandidateBrokerOrderIds
  adoptionPermissions := (sortedPermissions record.adoptionPermissions).map permissionText
  replacesExecutionOrderId := record.replacesExecutionOrderId
  adoptedFromExternalOrderId := record.adoptedFromExternalOrderId
  capitalReservationId := record.capitalReservationId
  rawSubmissionHash := record.rawSubmissionHash
  version := record.version

/-- `str(x) if x else None`. -/
def textOrNone (text : Option String) : Option String := text.filter (fun text => text ≠ "")

/-- The non-blank candidates, stripped, each once and in order. -/
def candidateIds (ids : List String) : List String :=
  (((ids.map strip).filter (fun id => id ≠ "")).reverse.dedup).reverse

/-- The policy as the constructor takes it. -/
def normalizedPolicy (policy : String) : String :=
  upper (strip (if policy = "" then regularLimitExecution else policy))

/-- `_payload_to_record`, with the normalization and the checks of the constructor. -/
def payloadToRecord (payload : StoredOrderPayload) : Except Raised DurableOrderRecord := do
  let side ← orderSideOfText payload.side
  let intent ← orderIntentOfText payload.intent
  let status ← executionOrderStatusOfText payload.status
  let origin ← orderOriginOfText payload.origin
  let identity ← brokerIdentityStatusOfText payload.brokerIdentityStatus
  let recovery ← orderRecoveryStateOfText payload.recoveryState
  let permissions ← payload.adoptionPermissions.mapM permissionOfText
  if hNamed : strip payload.clientOrderId = "" then
    .error { cls := .valueError, message := "ExecutionOrderRecord requires a client_order_id" }
  else if identity = .exact_ ∧ payload.brokerOrderId = "" then
    .error
      { cls := .valueError
        message := "broker_identity_status cannot be EXACT without a confirmed broker_order_id" }
  else
    let record : DurableOrderRecord :=
      { environment := upper payload.environment
        accountNo := payload.accountNo
        symbol := upper payload.symbol
        side := side
        intent := intent
        clientOrderId := strip payload.clientOrderId
        brokerOrderId := payload.brokerOrderId
        attemptGroupId := payload.attemptGroupId
        attemptNumber := if payload.attemptNumber = 0 then 1 else payload.attemptNumber
        attemptDeadlineAt := textOrNone payload.attemptDeadlineAt
        submittedQuantity := payload.submittedQuantity
        submittedLimitPrice := payload.submittedLimitPrice
        exchange := upper payload.exchange
        executionPolicy := normalizedPolicy payload.executionPolicy
        preparedAt := payload.preparedAt
        submissionStartedAt := payload.submissionStartedAt
        acknowledgedAt := payload.acknowledgedAt
        marketSessionDate := payload.marketSessionDate
        ownerDeviceId := payload.ownerDeviceId
        leaseToken := payload.leaseToken
        leaseEpoch := payload.leaseEpoch
        status := status
        filledQuantity := payload.filledQuantity
        remainingQuantity := payload.remainingQuantity
        averageFillPrice := payload.averageFillPrice
        cancelRequestedAt := payload.cancelRequestedAt
        lastBrokerSeenAt := payload.lastBrokerSeenAt
        lastReconciledAt := payload.lastReconciledAt
        absenceCount := max 0 payload.absenceCount
        lastAbsenceSnapshotId := payload.lastAbsenceSnapshotId
        lastAbsenceObservedAt :=
          payload.lastAbsenceObservedAt.filter (fun observed => observed.text ≠ "")
        lastAbsenceSessionDate := textOrNone payload.lastAbsenceSessionDate
        lastAbsenceBrokerOrderId := payload.lastAbsenceBrokerOrderId
        lastAbsenceHoldingQuantity := payload.lastAbsenceHoldingQuantity.map (max 0)
        origin := origin
        brokerIdentityStatus := identity
        recoveryState := recovery
        recoveryCandidateBrokerOrderIds := candidateIds payload.recoveryCandidateBrokerOrderIds
        adoptionPermissions := permissions
        replacesExecutionOrderId := payload.replacesExecutionOrderId
        adoptedFromExternalOrderId := payload.adoptedFromExternalOrderId
        capitalReservationId := payload.capitalReservationId
        rawSubmissionHash := payload.rawSubmissionHash
        version := if payload.version = 0 then 1 else payload.version
        clientOrderIdNamed := hNamed }
    validateConsistency record.toExecutionOrderRecord
    .ok record

/-! ## The round trip -/

/-- A record as its constructor would leave it. -/
structure DurableOrderRecord.Normal (record : DurableOrderRecord) : Prop where
  environment : upper record.environment = record.environment
  symbol : upper record.symbol = record.symbol
  exchange : upper record.exchange = record.exchange
  clientOrderId : strip record.clientOrderId = record.clientOrderId
  executionPolicy : normalizedPolicy record.executionPolicy = record.executionPolicy
  attemptDeadlineAt : record.attemptDeadlineAt ≠ some ""
  lastAbsenceSessionDate : record.lastAbsenceSessionDate ≠ some ""
  lastAbsenceObservedAt : ∀ observed, record.lastAbsenceObservedAt = some observed →
    observed.text ≠ ""
  absenceCount : 0 ≤ record.absenceCount
  lastAbsenceHoldingQuantity : ∀ quantity, record.lastAbsenceHoldingQuantity = some quantity →
    0 ≤ quantity
  candidates : candidateIds record.recoveryCandidateBrokerOrderIds =
    record.recoveryCandidateBrokerOrderIds
  exactly : record.brokerIdentityStatus = .exact_ → record.brokerOrderId ≠ ""

/-- The two records agree in every field; the permissions are a set. -/
structure SameRecord (read written : DurableOrderRecord) : Prop where
  fields : read =
    { written with adoptionPermissions := sortedPermissions written.adoptionPermissions }
  permissions : ∀ permission, permission ∈ read.adoptionPermissions ↔
    permission ∈ written.adoptionPermissions

theorem textOrNone_eq_self {text : Option String} (h : text ≠ some "") :
    textOrNone text = text := by
  cases text with
  | none => rfl
  | some text =>
    have hText : text ≠ "" := fun hEmpty => h (by rw [hEmpty])
    simp [textOrNone, hText]

theorem payloadToRecord_recordToPayload {record : DurableOrderRecord} (hNormal : record.Normal)
    (hConsistent : record.toExecutionOrderRecord.Consistent) (hVersion : record.version ≠ 0) :
    ∃ read, payloadToRecord (recordToPayload record) = .ok read ∧ SameRecord read record := by
  have hAttempt : record.attemptNumber ≠ 0 := by
    have := hConsistent.attempt
    omega
  have hExact : ¬ (record.brokerIdentityStatus = .exact_ ∧ record.brokerOrderId = "") :=
    fun h => hNormal.exactly h.1 h.2
  have hObserved : record.lastAbsenceObservedAt.filter (fun observed => observed.text ≠ "") =
      record.lastAbsenceObservedAt := by
    cases hCase : record.lastAbsenceObservedAt with
    | none => rfl
    | some observed => simp [hNormal.lastAbsenceObservedAt observed hCase]
  have hHolding : record.lastAbsenceHoldingQuantity.map (max 0) =
      record.lastAbsenceHoldingQuantity := by
    cases hCase : record.lastAbsenceHoldingQuantity with
    | none => rfl
    | some quantity => simp [hNormal.lastAbsenceHoldingQuantity quantity hCase]
  refine ⟨{ record with adoptionPermissions := sortedPermissions record.adoptionPermissions },
    ?_, rfl, fun permission => mem_sortedPermissions⟩
  have hValid : validateConsistency
      { record.toExecutionOrderRecord with
        adoptionPermissions := sortedPermissions record.adoptionPermissions } = .ok () := by
    rw [validateConsistency_eq_ok_iff]
    refine { hConsistent with applicationPermissions := ?_ }
    intro hApplication
    have hNone := hConsistent.applicationPermissions hApplication
    show sortedPermissions record.adoptionPermissions = []
    rw [hNone]
    rfl
  unfold payloadToRecord recordToPayload
  dsimp only
  simp only [orderSide_ofText, orderIntent_ofText, executionOrderStatus_ofText,
    orderOrigin_ofText, brokerIdentityStatus_ofText, orderRecoveryState_ofText,
    permissions_ofText]
  show (if hNamed : strip record.clientOrderId = "" then _ else _) = _
  have hNamed : ¬ strip record.clientOrderId = "" := by
    rw [hNormal.clientOrderId]
    exact record.clientOrderIdNamed
  rw [dif_neg hNamed, if_neg hExact]
  simp only [hNormal.environment, hNormal.symbol, hNormal.exchange, hNormal.clientOrderId,
    hNormal.executionPolicy, textOrNone_eq_self hNormal.attemptDeadlineAt,
    textOrNone_eq_self hNormal.lastAbsenceSessionDate, hObserved, hHolding, hNormal.candidates,
    if_neg hAttempt, if_neg hVersion, max_eq_right hNormal.absenceCount]
  rw [hValid]
  rfl

end QuantApp.Services
