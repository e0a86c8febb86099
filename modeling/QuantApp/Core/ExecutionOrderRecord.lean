import QuantApp.Core.OrderState

/-!
# The durable local order record

`src/core/execution_order_record.py`: the record the application writes before
it calls the broker, the status transition table, `validate_consistency` and
`apply_status_transition`.

`Consistent` is `validate_consistency` as a proposition; `validateConsistency`
runs the same checks in the source's order and keeps the exception texts, and
`validateConsistency_eq_ok_iff` connects the two.
-/

namespace QuantApp.Core

inductive ExecutionOrderStatus
  | prepared
  | submitting
  | acknowledged
  | unknownSubmissionState
  | notAcceptedConfirmed
  | rejected
  | working
  | partiallyFilled
  | filled
  | cancelPending
  | cancelled
  | expired
  | cancelledLocally
  deriving DecidableEq, Repr

/-- The wire text of a status (`ExecutionOrderStatus.value`). -/
def ExecutionOrderStatus.value : ExecutionOrderStatus → String
  | .prepared => "PREPARED"
  | .submitting => "SUBMITTING"
  | .acknowledged => "ACKNOWLEDGED"
  | .unknownSubmissionState => "UNKNOWN_SUBMISSION_STATE"
  | .notAcceptedConfirmed => "NOT_ACCEPTED_CONFIRMED"
  | .rejected => "REJECTED"
  | .working => "WORKING"
  | .partiallyFilled => "PARTIALLY_FILLED"
  | .filled => "FILLED"
  | .cancelPending => "CANCEL_PENDING"
  | .cancelled => "CANCELLED"
  | .expired => "EXPIRED"
  | .cancelledLocally => "CANCELLED_LOCALLY"

/-- Membership in `TERMINAL_EXECUTION_ORDER_STATUSES` (and in the reducer's
`_TERMINAL_EXECUTION_STATUSES`, the same six). -/
def ExecutionOrderStatus.isTerminal : ExecutionOrderStatus → Bool
  | .filled | .cancelled | .rejected | .expired | .cancelledLocally
  | .notAcceptedConfirmed => true
  | _ => false

/-- Membership in the reducer's `_OPEN_EXECUTION_STATUSES`. -/
def ExecutionOrderStatus.isOpen : ExecutionOrderStatus → Bool
  | .prepared | .submitting | .acknowledged | .working | .partiallyFilled
  | .cancelPending | .unknownSubmissionState => true
  | _ => false

theorem ExecutionOrderStatus.isOpen_eq_not_terminal (status : ExecutionOrderStatus) :
    status.isOpen = !status.isTerminal := by
  cases status <;> rfl

def allowedStatusTransitions : ExecutionOrderStatus → List ExecutionOrderStatus
  | .prepared => [.submitting, .cancelledLocally]
  | .submitting =>
    [.acknowledged, .rejected, .unknownSubmissionState, .cancelledLocally]
  | .unknownSubmissionState => [.acknowledged, .rejected, .notAcceptedConfirmed]
  | .acknowledged =>
    [.working, .partiallyFilled, .filled, .rejected, .cancelPending]
  | .working => [.partiallyFilled, .filled, .rejected, .expired, .cancelPending]
  | .partiallyFilled => [.filled, .expired, .cancelPending]
  | .cancelPending =>
    [.cancelled, .filled, .partiallyFilled, .working, .expired, .acknowledged]
  | .filled | .cancelled | .rejected | .expired | .cancelledLocally
  | .notAcceptedConfirmed => []

/-- A status change along any number of edges of the transition table. -/
def StatusReachable (old new : ExecutionOrderStatus) : Prop :=
  Relation.ReflTransGen (fun s t => t ∈ allowedStatusTransitions s) old new

inductive OrderOrigin
  | application
  | userAdopted
  deriving DecidableEq, Repr

/-- The wire text of an origin (`OrderOrigin.value`). -/
def OrderOrigin.value : OrderOrigin → String
  | .application => "APPLICATION"
  | .userAdopted => "USER_ADOPTED"

inductive BrokerIdentityStatus
  | notAssigned
  | ambiguous
  | exact_
  | noBrokerOrderConfirmed
  deriving DecidableEq, Repr

/-- The wire text of an identity status (`BrokerIdentityStatus.value`). -/
def BrokerIdentityStatus.value : BrokerIdentityStatus → String
  | .notAssigned => "NOT_ASSIGNED"
  | .ambiguous => "AMBIGUOUS"
  | .exact_ => "EXACT"
  | .noBrokerOrderConfirmed => "NO_BROKER_ORDER_CONFIRMED"

inductive AdoptedOrderPermission
  | linkToCard
  | cancel
  | replace
  deriving DecidableEq, Repr

/-- The order record.  The constructor refuses a blank `client_order_id`; texts
that the source tests only for truth are `none` when empty. -/
structure ExecutionOrderRecord where
  environment : String
  accountNo : String
  symbol : String
  side : OrderSide
  intent : OrderIntent
  clientOrderId : String
  brokerOrderId : String := ""
  attemptGroupId : String := ""
  attemptNumber : Int := 1
  attemptDeadlineAt : Option String := none
  submittedQuantity : Int := 0
  submittedLimitPrice : ℚ := 0
  exchange : String := ""
  executionPolicy : String := regularLimitExecution
  preparedAt : IsoText
  submissionStartedAt : Option IsoText := none
  acknowledgedAt : Option IsoText := none
  ownerDeviceId : String := ""
  leaseToken : String := ""
  leaseEpoch : Int := 0
  status : ExecutionOrderStatus := .prepared
  filledQuantity : Int := 0
  remainingQuantity : Int := 0
  averageFillPrice : ℚ := 0
  lastBrokerSeenAt : Option IsoText := none
  lastReconciledAt : Option IsoText := none
  absenceCount : Int := 0
  lastAbsenceSnapshotId : String := ""
  lastAbsenceObservedAt : Option IsoText := none
  lastAbsenceSessionDate : Option String := none
  lastAbsenceBrokerOrderId : String := ""
  lastAbsenceHoldingQuantity : Option Int := none
  origin : OrderOrigin := .application
  brokerIdentityStatus : BrokerIdentityStatus := .notAssigned
  recoveryState : OrderRecoveryState := .none_
  recoveryCandidateBrokerOrderIds : List String := []
  adoptionPermissions : List AdoptedOrderPermission := []
  replacesExecutionOrderId : String := ""
  adoptedFromExternalOrderId : String := ""
  capitalReservationId : String := ""
  version : Int := 1
  clientOrderIdNamed : clientOrderId ≠ "" := by decide +kernel
  deriving DecidableEq

/-! ## Consistency -/

/-- `_LEGAL_IDENTITY_STATUSES_FOR_STATUS`. -/
def legalIdentityStatuses : ExecutionOrderStatus → List BrokerIdentityStatus
  | .prepared | .cancelledLocally => [.notAssigned]
  | .submitting | .unknownSubmissionState => [.ambiguous]
  | .notAcceptedConfirmed => [.noBrokerOrderConfirmed]
  | .rejected => [.noBrokerOrderConfirmed, .exact_]
  | .acknowledged | .working | .partiallyFilled | .filled | .cancelPending
  | .cancelled | .expired => [.exact_]

private def inconsistent (message : String) : Except Raised Unit :=
  .error { cls := .invalidExecutionOrderConsistency, message := message }

variable (record : ExecutionOrderRecord)

/-- `validate_consistency`: the checks in the source's order. -/
def validateConsistency : Except Raised Unit :=
  if record.brokerIdentityStatus ∉ legalIdentityStatuses record.status then
    inconsistent ("status=" ++ record.status.value ++ " is not consistent with " ++
      "broker_identity_status=" ++ record.brokerIdentityStatus.value)
  else if record.brokerIdentityStatus = .noBrokerOrderConfirmed ∧
      record.brokerOrderId ≠ "" then
    inconsistent
      "broker_identity_status=NO_BROKER_ORDER_CONFIRMED must not carry a broker_order_id"
  else if record.origin = .application ∧ record.adoptionPermissions ≠ [] then
    inconsistent "adoption_permissions must be empty for origin=APPLICATION records"
  else if record.origin = .userAdopted ∧ record.adoptedFromExternalOrderId = "" then
    inconsistent
      "origin=USER_ADOPTED requires adopted_from_external_order_id (the audit-trail link)"
  else if record.submittedQuantity < 0 ∨ record.filledQuantity < 0 ∨
      record.remainingQuantity < 0 then
    inconsistent "quantities must not be negative"
  else if record.submittedQuantity < record.filledQuantity then
    inconsistent "filled_quantity must not exceed submitted_quantity"
  else if record.submittedQuantity < record.filledQuantity + record.remainingQuantity then
    inconsistent "filled_quantity + remaining_quantity must not exceed submitted_quantity"
  else if record.attemptNumber < 1 then
    inconsistent "attempt_number must be >= 1"
  else if record.leaseEpoch < 0 then
    inconsistent "lease_epoch must not be negative"
  else .ok ()

/-- What `validate_consistency` accepts. -/
structure ExecutionOrderRecord.Consistent : Prop where
  identity : record.brokerIdentityStatus ∈ legalIdentityStatuses record.status
  noBrokerOrder : record.brokerIdentityStatus = .noBrokerOrderConfirmed → record.brokerOrderId = ""
  applicationPermissions : record.origin = .application → record.adoptionPermissions = []
  adoptedFrom : record.origin = .userAdopted → record.adoptedFromExternalOrderId ≠ ""
  submittedNonneg : 0 ≤ record.submittedQuantity
  filledNonneg : 0 ≤ record.filledQuantity
  remainingNonneg : 0 ≤ record.remainingQuantity
  fillsFit : record.filledQuantity + record.remainingQuantity ≤ record.submittedQuantity
  attempt : 1 ≤ record.attemptNumber
  epoch : 0 ≤ record.leaseEpoch

theorem validateConsistency_eq_ok_iff :
    validateConsistency record = .ok () ↔ record.Consistent := by
  constructor
  · intro h
    unfold validateConsistency inconsistent at h
    split at h
    · cases h
    rename_i hIdentity
    split at h
    · cases h
    rename_i hNoBroker
    split at h
    · cases h
    rename_i hPermissions
    split at h
    · cases h
    rename_i hAdopted
    split at h
    · cases h
    rename_i hNonneg
    split at h
    · cases h
    split at h
    · cases h
    rename_i hFits
    split at h
    · cases h
    rename_i hAttempt
    split at h
    · cases h
    rename_i hEpoch
    exact
      { identity := by simpa using hIdentity
        noBrokerOrder := fun hs => by simpa [hs] using hNoBroker
        applicationPermissions := fun hs => by simpa [hs] using hPermissions
        adoptedFrom := fun hs => by simpa [hs] using hAdopted
        submittedNonneg := by omega
        filledNonneg := by omega
        remainingNonneg := by omega
        fillsFit := by omega
        attempt := by omega
        epoch := by omega }
  · intro h
    have hFilled := h.filledNonneg
    have hRemaining := h.remainingNonneg
    have hFits := h.fillsFit
    have hAttempt := h.attempt
    have hEpoch := h.epoch
    unfold validateConsistency
    rw [if_neg (not_not.mpr h.identity), if_neg (fun hc => hc.2 (h.noBrokerOrder hc.1)),
      if_neg (fun hc => hc.2 (h.applicationPermissions hc.1)),
      if_neg (fun hc => h.adoptedFrom hc.1 hc.2), if_neg (by omega), if_neg (by omega),
      if_neg (by omega), if_neg (by omega), if_neg (by omega)]

theorem validateConsistency_error {record : ExecutionOrderRecord} {error : Raised}
    (h : validateConsistency record = .error error) :
    error.cls = .invalidExecutionOrderConsistency := by
  have hInconsistent : ∀ message, inconsistent message = .error error →
      error.cls = .invalidExecutionOrderConsistency := by
    rintro message ⟨⟩
    rfl
  unfold validateConsistency at h
  repeat' (split at h; exact hInconsistent _ h)
  cases h

theorem ExecutionOrderRecord.Consistent.versioned {record : ExecutionOrderRecord}
    (h : record.Consistent) (version : Int) : { record with version := version }.Consistent :=
  { h with }

instance (record : ExecutionOrderRecord) : Decidable record.Consistent :=
  decidable_of_iff _ (validateConsistency_eq_ok_iff record)

/-! ## Status transitions -/

variable (record : ExecutionOrderRecord)

def markBrokerIdentityExact (brokerOrderId : String) : Except Raised ExecutionOrderRecord :=
  let brokerOrderId := strip brokerOrderId
  if brokerOrderId = "" then
    .error
      { cls := .valueError
        message := "broker_identity_status cannot become EXACT without a " ++
          "confirmed broker_order_id" }
  else if record.brokerIdentityStatus = .exact_ ∧ record.brokerOrderId ≠ "" ∧
      record.brokerOrderId ≠ brokerOrderId then
    .error
      { cls := .valueError
        message := "Contradiction: broker identity already EXACT as '" ++
          record.brokerOrderId ++ "', cannot reassign to '" ++ brokerOrderId ++ "'" }
  else
    .ok { record with brokerOrderId := brokerOrderId, brokerIdentityStatus := .exact_ }

variable (target : ExecutionOrderStatus)

/-- The identity step of `apply_status_transition`, before any status-driven
adjustment: an id that comes with the transition is recorded, and
`ACKNOWLEDGED` demands exact identity. -/
def transitionIdentity (brokerOrderId : Option String) : Except Raised ExecutionOrderRecord := do
  let marked ← match brokerOrderId with
    | some id => markBrokerIdentityExact record id
    | none => pure record
  if target = .acknowledged ∧ marked.brokerIdentityStatus ≠ .exact_ then
    .error
      { cls := .valueError
        message := "Cannot transition to " ++ target.value ++ " without a confirmed " ++
          "broker_order_id -- pass broker_order_id= or ensure broker_identity_status " ++
          "is already EXACT" }
  else
    pure marked

/-- The field changes `apply_status_transition` makes once the transition and
the identity are accepted. -/
def transitioned (now : IsoText) : ExecutionOrderRecord :=
  let promoted : BrokerIdentityStatus :=
    if (target = .submitting ∨ target = .unknownSubmissionState) ∧
        record.brokerIdentityStatus = .notAssigned then .ambiguous
    else record.brokerIdentityStatus
  let settled : BrokerIdentityStatus :=
    if (target = .rejected ∨ target = .notAcceptedConfirmed) ∧ promoted = .ambiguous then
      .noBrokerOrderConfirmed
    else promoted
  let retired : Bool := target = .cancelledLocally ∧ record.status = .submitting
  { record with
    brokerOrderId := if retired then "" else record.brokerOrderId
    brokerIdentityStatus := if retired then .notAssigned else settled
    submissionStartedAt :=
      if target = .submitting then some now
      else if retired then none else record.submissionStartedAt
    acknowledgedAt := if target = .acknowledged then some now else record.acknowledgedAt
    status := target }

def applyStatusTransition (brokerOrderId : Option String) (now : IsoText) :
    Except Raised ExecutionOrderRecord := do
  if target ∉ allowedStatusTransitions record.status then
    .error
      { cls := .invalidExecutionOrderTransition
        message := "ExecutionOrderStatus cannot transition " ++ record.status.value ++
          " -> " ++ target.value }
  else
    let identified ← transitionIdentity record target brokerOrderId
    let updated := transitioned identified target now
    validateConsistency updated
    pure updated

end QuantApp.Core
