import QuantApp.Core.OrderLifecycle
import QuantApp.Services.EmergencyGateway
import QuantApp.Services.StoredOrders

/-!
# Folding one journaled request

When the transaction of `reconcile_into_canonical` for one pending request succeeds, and
when it leaves the orders and the cards as they are.  The row that marks a request as
reconciled is only asked before it is written again: the request is folded either way, so
a request that is already marked is left alone only where it finds nothing to fold into
(`FoldSafe`).
-/

namespace QuantApp.Services

open Core Verified

variable {normalized : OrderStatus} {orders written : List ExecutionOrderRecord}
  {payload : SubmitPayload} {pending : PendingRequest} {record : ExecutionOrderRecord}
  {filledQuantity remainingQuantity : Int} {averageFillPrice : ℚ} {status : CommandStatus}
  {response : JournalResponse}

/-! ## What the gateway journals -/

/-- A REQUESTED line as the emergency paths of the gateway write it. -/
inductive IsGatewayRequest : JournalRequest → Prop
  | submit {request : SubmitExecutionRequest} {lease : ExecutionLease} {now : IsoText}
      {limitPrice : ℚ} (hSell : isEmergencySell request = true) (hQuantity : 0 < request.quantity)
      (hNow : now.reading ≠ none) :
      IsGatewayRequest (submitJournalRequest request lease now limitPrice)
  | cancel {request : CancelExecutionRequest} {lease : ExecutionLease} {now : IsoText}
      (hExact : isEmergencyCancel request = true) (hNow : now.reading ≠ none) :
      IsGatewayRequest (cancelJournalRequest request lease now)

namespace IsGatewayRequest

variable {request : JournalRequest}

variable (h : IsGatewayRequest request)
include h

theorem key : strip request.idempotencyKey = request.idempotencyKey := by
  cases h <;> exact strip_strip _

theorem createdAt : request.createdAt.reading ≠ none := by
  cases h <;> assumption

theorem quantity (hPayload : request.payload = .submit payload) : 0 ≤ payload.quantity := by
  cases h with
  | submit hSell hQuantity =>
    cases hPayload
    exact Int.le_of_lt hQuantity
  | cancel => cases hPayload

end IsGatewayRequest

/-! ## The command -/

/-- The command of a gateway request can always be recorded and settled. -/
theorem foldCommand_succeeds (commands : List ExecutionCommand)
    (h : IsGatewayRequest pending.request) :
    ∃ written, foldCommand commands pending = .ok written := by
  have hRecorded : ∃ recorded command, recordCommand commands pending.request =
      .ok (recorded, command) ∧
        getCommand recorded pending.request.idempotencyKey = some command := by
    unfold recordCommand
    cases hFound : getCommand commands pending.request.idempotencyKey with
    | some command => exact ⟨commands, command, rfl, hFound⟩
    | none =>
      have hKey : pending.request.command.idempotencyKey = pending.request.idempotencyKey := h.key
      have hInsert : insertCommand commands pending.request.command =
          .ok (commands ++ [pending.request.command]) := by
        have hReading : ¬ pending.request.command.requestedAt.reading = none := h.createdAt
        unfold insertCommand
        rw [if_neg hReading, hKey, hFound]
        rfl
      refine ⟨commands ++ [pending.request.command], pending.request.command, ?_, ?_⟩
      · show (insertCommand commands pending.request.command >>= _) = _
        rw [hInsert]
        rfl
      · unfold getCommand at hFound ⊢
        rw [lookup_append, hFound, Option.none_or]
        simp [lookup, hKey]
  obtain ⟨recorded, command, hRecord, hStored⟩ := hRecorded
  unfold foldCommand
  rw [hRecord]
  cases pending.outcome with
  | none => exact ⟨recorded, rfl⟩
  | some outcome =>
    obtain ⟨status, response⟩ := outcome
    simp only [bind, Except.bind]
    split
    · rename_i hRequested
      refine ⟨store ExecutionCommand.idempotencyKey
        { command with status := status, version := command.version + 1 } recorded, ?_⟩
      have hUpdate : updateCommandResponse recorded pending.request.idempotencyKey status
          (some command.version) = .ok (store ExecutionCommand.idempotencyKey
            { command with status := status, version := command.version + 1 } recorded,
            { command with status := status, version := command.version + 1 }) := by
        unfold updateCommandResponse
        rw [hStored]
        exact if_pos ⟨hRequested, rfl⟩
      rw [hUpdate]
      rfl
    · exact ⟨recorded, rfl⟩

/-! ## The order of a submission -/

/-- The order is stored already, or the line names none. -/
def SubmitSettled (orders : List ExecutionOrderRecord) (payload : SubmitPayload) : Prop :=
  payload.clientOrderId = "" ∨ (getExecutionOrder orders payload.clientOrderId).isSome

/-- The broker acknowledged the submission with an id. -/
def PendingRequest.isAcknowledged (pending : PendingRequest) : Bool :=
  pending.outcomeStatus = .acknowledged && pending.brokerOrderId ≠ ""

/-- The order can be inserted: its numbers are in range and the broker id it was
acknowledged with is not blank and not exact on another order. -/
structure Insertable (orders : List ExecutionOrderRecord) (pending : PendingRequest)
    (payload : SubmitPayload) : Prop where
  attempt : 0 ≤ payload.attemptNumber
  epoch : 0 ≤ pending.request.leaseEpoch
  named : pending.isAcknowledged = true → strip pending.brokerOrderId ≠ ""
  identity : pending.isAcknowledged = true → ∀ row ∈ orders,
    identityKeyOrNone row ≠ some (pending.request.environment, pending.request.accountNo,
      strip pending.brokerOrderId)

section Submission

variable {now : IsoText} {pending : PendingRequest} {payload : SubmitPayload}
  {hNamed : payload.clientOrderId ≠ ""}

/-- The order as its outcome leaves it. -/
def settledRecord (now : IsoText) (pending : PendingRequest) (order : ExecutionOrderRecord) :
    ExecutionOrderRecord :=
  let submitting := transitioned order .submitting now
  if pending.outcomeStatus = .acknowledged ∧ pending.brokerOrderId ≠ "" then
    transitioned { submitting with
      brokerOrderId := strip pending.brokerOrderId, brokerIdentityStatus := .exact_ }
      .acknowledged now
  else if pending.outcomeStatus = .failed then
    transitioned { submitting with remainingQuantity := 0 } .rejected now
  else transitioned submitting .unknownSubmissionState now

/-- An order of a submission is consistent as soon as its numbers are. -/
theorem consistent_of_order (status : ExecutionOrderStatus) (identity : BrokerIdentityStatus)
    (hQuantity : 0 ≤ payload.quantity) (hAttempt : 0 ≤ payload.attemptNumber)
    (hEpoch : 0 ≤ pending.request.leaseEpoch) (hStatus : record.status = status)
    (hIdentity : record.brokerIdentityStatus = identity)
    (hLegal : identity ∈ legalIdentityStatuses status)
    (hNone : identity ≠ .noBrokerOrderConfirmed ∨ record.brokerOrderId = "")
    (hOrigin : record.origin = .application) (hPermissions : record.adoptionPermissions = [])
    (hSubmitted : record.submittedQuantity = payload.quantity) (hFilled : record.filledQuantity = 0)
    (hRemaining : record.remainingQuantity = payload.quantity ∨ record.remainingQuantity = 0)
    (hNumber : record.attemptNumber =
      if payload.attemptNumber = 0 then 1 else payload.attemptNumber)
    (hLease : record.leaseEpoch = pending.request.leaseEpoch) : record.Consistent where
  identity := by rwa [hStatus, hIdentity]
  noBrokerOrder := fun hNoOrder => hNone.resolve_left (fun h => h (hIdentity.symm.trans hNoOrder))
  applicationPermissions := fun _ => hPermissions
  adoptedFrom := fun hAdopted => absurd (hOrigin.symm.trans hAdopted) (by decide)
  submittedNonneg := by omega
  filledNonneg := by omega
  remainingNonneg := by omega
  fillsFit := by omega
  attempt := by
    rw [hNumber]
    split <;> omega
  epoch := by omega

theorem settledSubmission_eq_ok_iff (hQuantity : 0 ≤ payload.quantity) :
    settledSubmission now pending (payload.order pending.request now hNamed) = .ok record ↔
      (0 ≤ payload.attemptNumber ∧ 0 ≤ pending.request.leaseEpoch ∧
        (pending.isAcknowledged = true → strip pending.brokerOrderId ≠ "")) ∧
      record = settledRecord now pending (payload.order pending.request now hNamed) := by
  have hSubmitting : ∀ submitting, applyStatusTransition
      (payload.order pending.request now hNamed) .submitting none now = .ok submitting ↔
        (0 ≤ payload.attemptNumber ∧ 0 ≤ pending.request.leaseEpoch) ∧
          submitting = transitioned (payload.order pending.request now hNamed) .submitting now := by
    intro submitting
    constructor
    · intro h
      obtain ⟨_, hConsistent, rfl⟩ := applyStatusTransition_none_ok h
      have hAttempt : 1 ≤ (if payload.attemptNumber = 0 then 1 else payload.attemptNumber) :=
        hConsistent.attempt
      refine ⟨⟨?_, hConsistent.epoch⟩, rfl⟩
      split at hAttempt <;> omega
    · rintro ⟨⟨hAttempt, hEpoch⟩, rfl⟩
      have hAllowed : ExecutionOrderStatus.submitting ∈ allowedStatusTransitions .prepared := by
        decide
      apply applyStatusTransition_none_eq hAllowed (by decide)
      exact consistent_of_order .submitting .ambiguous hQuantity hAttempt hEpoch rfl rfl
        (by decide) (.inl (by decide)) rfl rfl rfl rfl (.inl rfl) rfl rfl
  have hSettle : ∀ submitting,
      submitting = transitioned (payload.order pending.request now hNamed) .submitting now →
      0 ≤ payload.attemptNumber → 0 ≤ pending.request.leaseEpoch →
      ((if pending.outcomeStatus = .acknowledged ∧ pending.brokerOrderId ≠ "" then
          applyStatusTransition submitting .acknowledged (some pending.brokerOrderId) now
        else if pending.outcomeStatus = .failed then
          applyStatusTransition { submitting with remainingQuantity := 0 } .rejected none now
        else applyStatusTransition submitting .unknownSubmissionState none now) = .ok record ↔
          (pending.isAcknowledged = true → strip pending.brokerOrderId ≠ "") ∧
          record = settledRecord now pending (payload.order pending.request now hNamed)) := by
    rintro submitting rfl hAttempt hEpoch
    have hAcknowledged : pending.isAcknowledged = true ↔
        pending.outcomeStatus = .acknowledged ∧ pending.brokerOrderId ≠ "" := by
      simp [PendingRequest.isAcknowledged]
    have hAllowed : ∀ target : ExecutionOrderStatus,
        target ∈ [.acknowledged, .rejected, .unknownSubmissionState, .cancelledLocally] →
          target ∈ allowedStatusTransitions .submitting := fun _ h => h
    unfold settledRecord
    split
    · rename_i hYes
      rw [applyStatusTransition_some_eq_ok_iff, hAcknowledged]
      constructor
      · rintro ⟨_, hText, _, _, rfl⟩
        exact ⟨fun _ => hText, rfl⟩
      · rintro ⟨hText, rfl⟩
        refine ⟨hAllowed _ (by decide), hText hYes, (by intro h; cases h), ?_, rfl⟩
        exact consistent_of_order .acknowledged .exact_ hQuantity hAttempt hEpoch rfl rfl
          (by decide) (.inl (by decide)) rfl rfl rfl rfl (.inl rfl) rfl rfl
    · rename_i hNo
      have hFree : (pending.isAcknowledged = true → strip pending.brokerOrderId ≠ "") := by
        intro hYes
        exact absurd (hAcknowledged.mp hYes) hNo
      split
      · constructor
        · intro h
          exact ⟨hFree, (applyStatusTransition_none_ok h).2.2⟩
        · rintro ⟨_, rfl⟩
          apply applyStatusTransition_none_eq (hAllowed _ (by decide)) (by decide)
          exact consistent_of_order .rejected .noBrokerOrderConfirmed hQuantity hAttempt hEpoch
            rfl rfl (by decide) (.inr rfl) rfl rfl rfl rfl (.inr rfl) rfl rfl
      · constructor
        · intro h
          exact ⟨hFree, (applyStatusTransition_none_ok h).2.2⟩
        · rintro ⟨_, rfl⟩
          apply applyStatusTransition_none_eq (hAllowed _ (by decide)) (by decide)
          exact consistent_of_order .unknownSubmissionState .ambiguous hQuantity hAttempt hEpoch
            rfl rfl (by decide) (.inl (by decide)) rfl rfl rfl rfl (.inl rfl) rfl rfl
  unfold settledSubmission
  rw [bind_eq_ok]
  constructor
  · rintro ⟨submitting, hFirst, hRest⟩
    obtain ⟨⟨hAttempt, hEpoch⟩, hEq⟩ := (hSubmitting submitting).mp hFirst
    obtain ⟨hText, hRecord⟩ := (hSettle submitting hEq hAttempt hEpoch).mp hRest
    exact ⟨⟨hAttempt, hEpoch, hText⟩, hRecord⟩
  · rintro ⟨⟨hAttempt, hEpoch, hText⟩, hRecord⟩
    exact ⟨_, (hSubmitting _).mpr ⟨⟨hAttempt, hEpoch⟩, rfl⟩,
      (hSettle _ rfl hAttempt hEpoch).mpr ⟨hText, hRecord⟩⟩

/-- What the settled order claims: the broker id it was acknowledged with, if any. -/
theorem identityKeyOrNone_settledRecord :
    identityKeyOrNone (settledRecord now pending (payload.order pending.request now hNamed)) =
      if pending.isAcknowledged ∧ strip pending.brokerOrderId ≠ "" then
        some (pending.request.environment, pending.request.accountNo, strip pending.brokerOrderId)
      else none := by
  have hAcknowledged : pending.isAcknowledged = true ↔
      pending.outcomeStatus = .acknowledged ∧ pending.brokerOrderId ≠ "" := by
    simp [PendingRequest.isAcknowledged]
  unfold settledRecord
  by_cases hYes : pending.outcomeStatus = .acknowledged ∧ pending.brokerOrderId ≠ ""
  · rw [if_pos hYes]
    show (if BrokerIdentityStatus.exact_ = .exact_ ∧ strip pending.brokerOrderId ≠ "" then
      some (pending.request.environment, pending.request.accountNo,
        strip (strip pending.brokerOrderId)) else none) = _
    simp [hAcknowledged.mpr hYes, strip_strip]
  · have hNo : ¬ (pending.isAcknowledged ∧ strip pending.brokerOrderId ≠ "") :=
      fun h => hYes (hAcknowledged.mp h.1)
    rw [if_neg hYes, if_neg hNo]
    by_cases hFailed : pending.outcomeStatus = .failed
    · rw [if_pos hFailed]
      rfl
    · rw [if_neg hFailed]
      rfl

theorem settledRecord_clientOrderId (order : ExecutionOrderRecord) :
    (settledRecord now pending order).clientOrderId = order.clientOrderId := by
  unfold settledRecord
  dsimp only
  split
  · rfl
  · split <;> rfl

theorem settledRecord_adopted (order : ExecutionOrderRecord) :
    adoptionSourceOrNone (settledRecord now pending order) = adoptionSourceOrNone order := by
  unfold settledRecord
  dsimp only
  split
  · rfl
  · split <;> rfl

theorem settledSubmission_consistent {order : ExecutionOrderRecord}
    (h : settledSubmission now pending order = .ok record) : record.Consistent := by
  unfold settledSubmission at h
  obtain ⟨submitting, _, h⟩ := bind_eq_ok.mp h
  split at h
  · exact (applyStatusTransition_ok h).2.1
  · split at h
    all_goals exact (applyStatusTransition_ok h).2.1

/-- The order of a submission is folded exactly when there is nothing to insert, or it can
be inserted. -/
theorem foldSubmittedOrder_succeeds_iff (hQuantity : 0 ≤ payload.quantity) :
    (∃ written, foldSubmittedOrder now orders pending payload = .ok written) ↔
      SubmitSettled orders payload ∨ Insertable orders pending payload := by
  unfold foldSubmittedOrder SubmitSettled
  by_cases hUnnamed : payload.clientOrderId = ""
  · rw [dif_pos hUnnamed]
    exact iff_of_true ⟨orders, rfl⟩ (.inl (.inl hUnnamed))
  rw [dif_neg hUnnamed]
  by_cases hStored : (getExecutionOrder orders payload.clientOrderId).isSome
  · rw [if_pos hStored]
    exact iff_of_true ⟨orders, rfl⟩ (.inl (.inr hStored))
  rw [if_neg hStored]
  have hAbsent : getExecutionOrder orders payload.clientOrderId = none := by
    simpa using hStored
  have hKey := @identityKeyOrNone_settledRecord now pending payload hUnnamed
  constructor
  · rintro ⟨written, h⟩
    obtain ⟨record, hSettled, hInsert⟩ := bind_eq_ok.mp h
    obtain ⟨⟨hAttempt, hEpoch, hText⟩, rfl⟩ := (settledSubmission_eq_ok_iff hQuantity).mp hSettled
    obtain ⟨hCan, _⟩ := insertExecutionOrder_eq_ok_iff.mp hInsert
    refine .inr ⟨hAttempt, hEpoch, hText, fun hYes row hRow hTaken => ?_⟩
    rw [if_pos ⟨hYes, hText hYes⟩] at hKey
    have hSame := hCan.identity row hRow _ hKey hTaken
    rw [settledRecord_clientOrderId] at hSame
    exact lookup_eq_none_iff.mp hAbsent (List.mem_map.mpr ⟨row, hRow, hSame⟩)
  · rintro ((hSettled | hSettled) | hInsertable)
    · exact absurd hSettled hUnnamed
    · exact absurd hSettled hStored
    · have hSettled : settledSubmission now pending (payload.order pending.request now hUnnamed) =
          .ok (settledRecord now pending (payload.order pending.request now hUnnamed)) :=
        (settledSubmission_eq_ok_iff hQuantity).mpr
          ⟨⟨hInsertable.attempt, hInsertable.epoch, hInsertable.named⟩, rfl⟩
      refine ⟨_, bind_eq_ok.mpr ⟨_, hSettled, insertExecutionOrder_eq_ok_iff.mpr ⟨?_, rfl⟩⟩⟩
      refine
        { consistent := settledSubmission_consistent hSettled
          absent := by rwa [settledRecord_clientOrderId]
          identity := ?_
          adoption := unclaimed_of_none (settledRecord_adopted _) }
      intro row hRow key hClaim hTaken
      rw [hKey] at hClaim
      split at hClaim
      · rename_i hYes
        cases hClaim
        exact absurd hTaken (hInsertable.identity hYes.1 row hRow)
      · cases hClaim

end Submission

/-! ## The order of a cancellation -/

/-- The reported fills fit the order, and no recovery is under way when the report does
not say what became of it. -/
def ReportFits (record : ExecutionOrderRecord) (normalized : OrderStatus)
    (filledQuantity remainingQuantity : Int) : Prop :=
  max record.filledQuantity filledQuantity + max 0 remainingQuantity ≤ record.submittedQuantity ∧
    (cancelAnswerTarget normalized = none → record.recoveryState = .none_)

/-- What the broker answered can be applied to the order. -/
def AnswerFits (record : ExecutionOrderRecord) : CommandStatus → JournalResponse → Prop
  | .acknowledged, .cancelled normalized filledQuantity remainingQuantity _ =>
    ReportFits record normalized filledQuantity remainingQuantity
  | .acknowledged, _ => ReportFits record .unknown 0 0
  | _, _ => True

/-- The fields that say which order this is, and its version. -/
structure SameClaims (record updated : ExecutionOrderRecord) : Prop where
  clientOrderId : updated.clientOrderId = record.clientOrderId
  environment : updated.environment = record.environment
  accountNo : updated.accountNo = record.accountNo
  symbol : updated.symbol = record.symbol
  version : updated.version = record.version
  identity : identityKeyOrNone updated = identityKeyOrNone record
  adoption : adoptionSourceOrNone updated = adoptionSourceOrNone record

theorem SameClaims.trans {first second third : ExecutionOrderRecord}
    (h : SameClaims first second) (h' : SameClaims second third) : SameClaims first third where
  clientOrderId := h'.clientOrderId.trans h.clientOrderId
  environment := h'.environment.trans h.environment
  accountNo := h'.accountNo.trans h.accountNo
  symbol := h'.symbol.trans h.symbol
  version := h'.version.trans h.version
  identity := h'.identity.trans h.identity
  adoption := h'.adoption.trans h.adoption

/-- The statuses a cancellation leads through. -/
def isCancelStep (target : ExecutionOrderStatus) : Bool :=
  target = .cancelPending || target = .cancelled || target = .filled || target = .partiallyFilled

theorem isCancelStep_of_answer {target : ExecutionOrderStatus}
    (h : cancelAnswerTarget normalized = some target) : isCancelStep target = true := by
  cases normalized <;> simp [cancelAnswerTarget] at h <;> subst h <;> rfl

section Cancellation

variable {now : IsoText} {record updated : ExecutionOrderRecord} {target : ExecutionOrderStatus}

theorem transitioned_of_cancelStep (hTarget : isCancelStep target = true) :
    transitioned record target now = { record with status := target } := by
  cases target <;> simp [isCancelStep] at hTarget <;> simp [transitioned]

theorem legalIdentity_of_cancelStep {status : ExecutionOrderStatus}
    (hTarget : isCancelStep target = true) (hAllowed : target ∈ allowedStatusTransitions status) :
    legalIdentityStatuses target = legalIdentityStatuses status := by
  cases status <;> cases target <;> simp [allowedStatusTransitions,
    isCancelStep] at hAllowed hTarget
    <;> rfl

section

variable (h : record.Consistent) (hTarget : isCancelStep target = true)
  (hAllowed : target ∈ allowedStatusTransitions record.status)
include h hTarget hAllowed

theorem consistent_of_cancelStep : { record with status := target }.Consistent :=
  { h with
    identity := by
      show record.brokerIdentityStatus ∈ legalIdentityStatuses target
      rw [legalIdentity_of_cancelStep hTarget hAllowed]
      exact h.identity }

theorem applyStatusTransition_cancelStep :
    applyStatusTransition record target none now = .ok { record with status := target } := by
  have hNot : target ≠ .acknowledged := by
    rintro rfl
    cases hTarget
  rw [applyStatusTransition_none_eq hAllowed hNot]
  · rw [transitioned_of_cancelStep hTarget]
  · rw [transitioned_of_cancelStep hTarget]
    exact consistent_of_cancelStep h hTarget hAllowed

end

theorem requestCancel_succeeds (now : IsoText) (h : record.Consistent) :
    ∃ pendingCancel, requestCancel now record = .ok pendingCancel ∧ pendingCancel.Consistent ∧
      ∃ status, pendingCancel = { record with status := status } := by
  unfold requestCancel
  split
  · rename_i hAllowed
    exact ⟨_, applyStatusTransition_cancelStep h rfl hAllowed.2,
      consistent_of_cancelStep h rfl hAllowed.2, _, rfl⟩
  · exact ⟨record, rfl, h, _, rfl⟩

/-- The order with the reported fills. -/
def withReport (record : ExecutionOrderRecord) (filledQuantity remainingQuantity : Int)
    (averageFillPrice : ℚ) : ExecutionOrderRecord :=
  { record with
    filledQuantity := max record.filledQuantity filledQuantity
    remainingQuantity := max 0 remainingQuantity
    averageFillPrice := if averageFillPrice ≠ 0 then averageFillPrice else record.averageFillPrice }

theorem withReport_consistent_iff (h : record.Consistent)
    (filledQuantity remainingQuantity : Int) (averageFillPrice : ℚ) :
    (withReport record filledQuantity remainingQuantity averageFillPrice).Consistent ↔
      max record.filledQuantity filledQuantity + max 0 remainingQuantity ≤
        record.submittedQuantity := by
  constructor
  · intro hReported
    exact hReported.fillsFit
  · intro hFits
    have hFilled := h.filledNonneg
    exact
      { h with
        filledNonneg := by
          show 0 ≤ max record.filledQuantity filledQuantity
          omega
        remainingNonneg := by
          show 0 ≤ max 0 remainingQuantity
          omega
        fillsFit := hFits }

theorem applyCancelAnswer_of_target {target : ExecutionOrderStatus}
    (hTarget : cancelAnswerTarget normalized = some target) (filledQuantity remainingQuantity : Int)
    (averageFillPrice : ℚ) :
    applyCancelAnswer now record normalized filledQuantity remainingQuantity averageFillPrice =
      if target ∈ allowedStatusTransitions record.status then
        applyStatusTransition
          (withReport record filledQuantity remainingQuantity averageFillPrice) target none now
      else .ok (withReport record filledQuantity remainingQuantity averageFillPrice) := by
  unfold applyCancelAnswer
  rw [hTarget]
  rfl

theorem applyCancelAnswer_of_no_target (hTarget : cancelAnswerTarget normalized = none)
    (filledQuantity remainingQuantity : Int) (averageFillPrice : ℚ) :
    applyCancelAnswer now record normalized filledQuantity remainingQuantity averageFillPrice =
      moveRecoveryState (withReport record filledQuantity remainingQuantity averageFillPrice)
        .discovering := by
  unfold applyCancelAnswer
  rw [hTarget]
  rfl

theorem applyCancelAnswer_consistent_iff (h : record.Consistent) :
    (∃ updated, applyCancelAnswer now record normalized filledQuantity remainingQuantity
        averageFillPrice = .ok updated ∧ updated.Consistent) ↔
      ReportFits record normalized filledQuantity remainingQuantity := by
  have hReport := withReport_consistent_iff h filledQuantity remainingQuantity averageFillPrice
  unfold ReportFits
  cases hTarget : cancelAnswerTarget normalized with
  | some target =>
    have hSome : (some target = none → record.recoveryState = .none_) := by simp
    rw [and_iff_left hSome, ← hReport, applyCancelAnswer_of_target hTarget]
    split
    · rename_i hAllowed
      constructor
      · rintro ⟨updated, hUpdated, hConsistent⟩
        obtain ⟨_, _, rfl⟩ := applyStatusTransition_none_ok hUpdated
        exact hReport.mpr hConsistent.fillsFit
      · intro hFits
        exact ⟨_, applyStatusTransition_cancelStep hFits (isCancelStep_of_answer hTarget) hAllowed,
          consistent_of_cancelStep hFits (isCancelStep_of_answer hTarget) hAllowed⟩
    · constructor
      · rintro ⟨updated, ⟨⟩, hConsistent⟩
        exact hConsistent
      · exact fun hFits => ⟨_, rfl, hFits⟩
  | none =>
    have hDiscovering : ∀ state : OrderRecoveryState,
        .discovering ∈ allowedRecoveryTransitions state ↔ state = .none_ := by
      intro state
      cases state <;> decide
    rw [← hReport, forall_prop_of_true rfl, applyCancelAnswer_of_no_target hTarget]
    unfold moveRecoveryState
    constructor
    · rintro ⟨updated, hUpdated, hConsistent⟩
      split at hUpdated
      · rename_i hAllowed
        cases hUpdated
        exact ⟨{ hConsistent with }, (hDiscovering _).mp hAllowed⟩
      · cases hUpdated
    · rintro ⟨hFits, hNone⟩
      refine ⟨_, if_pos ((hDiscovering _).mpr hNone), { hFits with }⟩

/-- The answer is applied to the order, and the order can be written back, exactly when
the answer fits. -/
theorem cancelledOrder_consistent_iff (h : record.Consistent) (status : CommandStatus)
    (response : JournalResponse) :
    (∃ updated, cancelledOrder now record status response = .ok updated ∧ updated.Consistent) ↔
      AnswerFits record status response := by
  obtain ⟨pendingCancel, hRequested, hConsistent, reached, rfl⟩ := requestCancel_succeeds now h
  have hAcknowledged : ∀ (normalized : OrderStatus) (filledQuantity remainingQuantity : Int)
      (averageFillPrice : ℚ),
      (∃ updated, (do
        let pendingCancel ← requestCancel now record
        applyCancelAnswer now pendingCancel normalized filledQuantity remainingQuantity
          averageFillPrice) = .ok updated ∧ updated.Consistent) ↔
        ReportFits record normalized filledQuantity remainingQuantity := by
    intro normalized filledQuantity remainingQuantity averageFillPrice
    rw [hRequested]
    exact applyCancelAnswer_consistent_iff hConsistent
  have hKept : (∃ updated, (pure record : Except Raised ExecutionOrderRecord) = .ok updated ∧
      updated.Consistent) ↔ True := iff_true_intro ⟨record, rfl, h⟩
  cases status with
  | acknowledged =>
    cases response with
    | cancelled normalized filledQuantity remainingQuantity averageFillPrice =>
      exact hAcknowledged normalized filledQuantity remainingQuantity averageFillPrice
    | error | submitted => exact hAcknowledged .unknown 0 0 0
  | ambiguous =>
    show (∃ updated, (if record.recoveryState = .none_ then moveRecoveryState record .discovering
      else pure record) = .ok updated ∧ updated.Consistent) ↔ True
    split
    · rename_i hNone
      refine iff_true_intro ⟨_, if_pos ?_, { h with }⟩
      rw [hNone]
      decide
    · exact hKept
  | _ => exact hKept

theorem sameClaims_of_transition (hTarget : isCancelStep target = true)
    (hUpdated : applyStatusTransition record target none now = .ok updated) :
    SameClaims record updated := by
  obtain ⟨_, _, rfl⟩ := applyStatusTransition_none_ok hUpdated
  rw [transitioned_of_cancelStep hTarget]
  exact ⟨rfl, rfl, rfl, rfl, rfl, rfl, rfl⟩

theorem sameClaims_of_recovery {state : OrderRecoveryState}
    (hUpdated : moveRecoveryState record state = .ok updated) : SameClaims record updated := by
  unfold moveRecoveryState at hUpdated
  split at hUpdated
  · cases hUpdated
    exact ⟨rfl, rfl, rfl, rfl, rfl, rfl, rfl⟩
  · cases hUpdated

theorem sameClaims_of_answer
    (hUpdated : applyCancelAnswer now record normalized filledQuantity remainingQuantity
      averageFillPrice = .ok updated) : SameClaims record updated := by
  have hReported : SameClaims record
      (withReport record filledQuantity remainingQuantity averageFillPrice) :=
    ⟨rfl, rfl, rfl, rfl, rfl, rfl, rfl⟩
  unfold applyCancelAnswer at hUpdated
  dsimp only at hUpdated
  split at hUpdated
  · rename_i hTarget
    split at hUpdated
    · exact hReported.trans (sameClaims_of_transition (isCancelStep_of_answer hTarget) hUpdated)
    · cases hUpdated
      exact hReported
  · exact hReported.trans (sameClaims_of_recovery hUpdated)

theorem sameClaims_of_cancelled (h : record.Consistent)
    (hUpdated : cancelledOrder now record status response = .ok updated) :
    SameClaims record updated := by
  obtain ⟨pendingCancel, hRequested, _, reached, rfl⟩ := requestCancel_succeeds now h
  have hPending : SameClaims record { record with status := reached } :=
    ⟨rfl, rfl, rfl, rfl, rfl, rfl, rfl⟩
  unfold cancelledOrder at hUpdated
  split at hUpdated
  · obtain ⟨_, hReached, hUpdated⟩ := bind_eq_ok.mp hUpdated
    rw [hRequested] at hReached
    cases hReached
    exact hPending.trans (sameClaims_of_answer hUpdated)
  · obtain ⟨_, hReached, hUpdated⟩ := bind_eq_ok.mp hUpdated
    rw [hRequested] at hReached
    cases hReached
    exact hPending.trans (sameClaims_of_answer hUpdated)
  · split at hUpdated
    · exact sameClaims_of_recovery hUpdated
    · cases hUpdated
      exact ⟨rfl, rfl, rfl, rfl, rfl, rfl, rfl⟩
  · cases hUpdated
    exact ⟨rfl, rfl, rfl, rfl, rfl, rfl, rfl⟩

/-- The order of a cancellation is folded exactly when its answer, if both are there,
fits it. -/
theorem foldCancelledOrder_succeeds_iff (hSound : SoundOrders orders) {payload : CancelPayload} :
    (∃ written, foldCancelledOrder now orders pending payload = .ok written) ↔
      ∀ record status response, getExecutionOrder orders payload.clientOrderId = some record →
        pending.outcome = some (status, response) → AnswerFits record status response := by
  unfold foldCancelledOrder
  cases hFound : getExecutionOrder orders payload.clientOrderId with
  | none => exact iff_of_true ⟨orders, rfl⟩ (by simp)
  | some record =>
    cases hOutcome : pending.outcome with
    | none => exact iff_of_true ⟨orders, rfl⟩ (by simp)
    | some outcome =>
      obtain ⟨status, response⟩ := outcome
      have hConsistent := hSound.consistent record (lookup_mem hFound)
      have hStored : getExecutionOrder orders record.clientOrderId = some record := by
        rw [lookup_key hFound]
        exact hFound
      have hWrite : (∃ written, (cancelledOrder now record status response >>= fun updated =>
          updateExecutionOrder orders updated record.version >>= fun stored =>
            pure stored.1) = Except.ok written) ↔ AnswerFits record status response := by
        rw [← cancelledOrder_consistent_iff hConsistent]
        constructor
        · rintro ⟨written, h⟩
          obtain ⟨updated, hUpdated, h⟩ := bind_eq_ok.mp h
          obtain ⟨⟨rows, stored⟩, hRows, _⟩ := bind_eq_ok.mp h
          exact ⟨updated, hUpdated, (updateExecutionOrder_eq_ok_iff.mp hRows).1.consistent⟩
        · rintro ⟨updated, hUpdated, hFits⟩
          have hSame := sameClaims_of_cancelled hConsistent hUpdated
          have hCan := hSound.canUpdate hStored hFits hSame.clientOrderId
            ⟨hSame.environment.symm, hSame.accountNo.symm, hSame.symbol.symm⟩ hSame.identity
            hSame.adoption
          exact ⟨_, bind_eq_ok.mpr ⟨updated, hUpdated, bind_eq_ok.mpr
            ⟨_, updateExecutionOrder_eq_ok_iff.mpr ⟨hCan, rfl, rfl⟩, rfl⟩⟩⟩
      constructor
      · rintro h _ _ _ ⟨⟩ ⟨⟩
        exact hWrite.mp h
      · intro h
        exact hWrite.mpr (h record status response rfl rfl)

theorem foldCancelledOrder_changes {payload : CancelPayload}
    (hFound : getExecutionOrder orders payload.clientOrderId = some record)
    (hConsistent : record.Consistent) (hOutcome : pending.outcome = some (status, response))
    (h : foldCancelledOrder now orders pending payload = .ok written) : written ≠ orders := by
  unfold foldCancelledOrder at h
  rw [hFound, hOutcome] at h
  obtain ⟨updated, hUpdated, h⟩ := bind_eq_ok.mp h
  obtain ⟨⟨rows, stored⟩, hRows, h⟩ := bind_eq_ok.mp h
  cases h
  obtain ⟨_, rfl, rfl⟩ := updateExecutionOrder_eq_ok_iff.mp hRows
  have hId : updated.clientOrderId = payload.clientOrderId :=
    (sameClaims_of_cancelled hConsistent hUpdated).clientOrderId.trans (lookup_key hFound)
  have hStored : getExecutionOrder orders updated.clientOrderId = some record := by
    rw [hId]
    exact hFound
  refine store_ne_self hStored (fun hSame => ?_)
  have hVersion := congrArg ExecutionOrderRecord.version hSame
  change record.version + 1 = record.version at hVersion
  omega

end Cancellation

/-! ## The transaction -/

/-- `foldRequest` as a step of the database. -/
def foldInto (now : IsoText) (clock : Instant) (database : CanonicalDatabase)
    (pending : PendingRequest) : Except Raised CanonicalDatabase :=
  (·.2) <$> foldRequest now clock pending database

/-- The card of a journaled SELL. -/
def soldCard (database : CanonicalDatabase) (request : JournalRequest) : Option TradeCardState :=
  lookup TradeCardState.cardKey (request.environment, request.accountNo, request.symbol)
    database.tradeCards

/-- A submission finds its order stored and, once it is marked, no card to liquidate;
before that its order may also be one that can be inserted. -/
def SubmitSafe (database : CanonicalDatabase) (pending : PendingRequest)
    (payload : SubmitPayload) : Prop :=
  if isMarked database pending.sequence then
    SubmitSettled database.executionOrders payload ∧
      (payload.side = .sell → soldCard database pending.request = none)
  else
    SubmitSettled database.executionOrders payload ∨
      Insertable database.executionOrders pending payload

/-- A cancellation that finds its order stored and its answer journaled is not marked, and
the answer fits the order. -/
def CancelSafe (database : CanonicalDatabase) (pending : PendingRequest)
    (payload : CancelPayload) : Prop :=
  ∀ record status response,
    getExecutionOrder database.executionOrders payload.clientOrderId = some record →
    pending.outcome = some (status, response) →
      isMarked database pending.sequence = false ∧ AnswerFits record status response

/-- The state a request is folded into: a marked request finds nothing to fold into, and
another one can be folded. -/
def FoldSafe (database : CanonicalDatabase) (pending : PendingRequest) : Prop :=
  match pending.request.payload with
  | .submit payload => SubmitSafe database pending payload
  | .cancel payload => CancelSafe database pending payload

/-- The orders and the cards are as they were. -/
def LeftAlone (before after : CanonicalDatabase) : Prop :=
  after.executionOrders = before.executionOrders ∧ after.tradeCards = before.tradeCards

section Transaction

variable {now : IsoText} {clock : Instant} {database folded : CanonicalDatabase}
  {pending : PendingRequest}

theorem foldInto_ok (h : foldInto now clock database pending = .ok folded) :
    foldOrders now clock pending database = .ok (folded.executionOrders, folded.tradeCards) ∧
      folded.journalReconciliations = markReconciled pending database := by
  obtain ⟨result, hResult, rfl⟩ := map_eq_ok.mp h
  unfold foldRequest at hResult
  obtain ⟨commands, _, hResult⟩ := bind_eq_ok.mp hResult
  obtain ⟨⟨orders, cards⟩, hOrders, hResult⟩ := bind_eq_ok.mp hResult
  cases hResult
  exact ⟨hOrders, rfl⟩

theorem foldInto_succeeds_iff (hRequest : IsGatewayRequest pending.request) :
    (∃ folded, foldInto now clock database pending = .ok folded) ↔
      ∃ written, foldOrders now clock pending database = .ok written := by
  constructor
  · rintro ⟨folded, h⟩
    exact ⟨_, (foldInto_ok h).1⟩
  · rintro ⟨⟨orders, cards⟩, hOrders⟩
    obtain ⟨commands, hCommands⟩ := foldCommand_succeeds database.executionCommands hRequest
    have hFold : foldRequest now clock pending database = .ok ((), { database with
        executionCommands := commands
        executionOrders := orders
        tradeCards := cards
        journalReconciliations := markReconciled pending database }) := by
      unfold foldRequest
      rw [hCommands, hOrders]
      rfl
    exact ⟨_, map_eq_ok.mpr ⟨_, hFold, rfl⟩⟩

theorem SoundOrders.foldInto (hSound : SoundOrders database.executionOrders)
    (h : foldInto now clock database pending = .ok folded) :
    SoundOrders folded.executionOrders := by
  have hOrders := (foldInto_ok h).1
  unfold foldOrders at hOrders
  split at hOrders
  · rename_i payload hPayload
    obtain ⟨orders, hFold, hOrders⟩ := bind_eq_ok.mp hOrders
    have hSame : orders = folded.executionOrders := congrArg Prod.fst (Except.ok.inj hOrders)
    rw [← hSame]
    unfold foldSubmittedOrder at hFold
    split at hFold
    · cases hFold
      exact hSound
    split at hFold
    · cases hFold
      exact hSound
    · obtain ⟨record, _, hInsert⟩ := bind_eq_ok.mp hFold
      exact hSound.insert hInsert
  · rename_i payload hPayload
    obtain ⟨orders, hFold, hOrders⟩ := bind_eq_ok.mp hOrders
    have hSame : orders = folded.executionOrders := congrArg Prod.fst (Except.ok.inj hOrders)
    rw [← hSame]
    unfold foldCancelledOrder at hFold
    split at hFold
    · obtain ⟨updated, _, hFold⟩ := bind_eq_ok.mp hFold
      obtain ⟨⟨rows, stored⟩, hRows, hFold⟩ := bind_eq_ok.mp hFold
      cases hFold
      exact hSound.update hRows
    · cases hFold
      exact hSound

theorem foldSubmittedOrder_eq_self_iff
    (h : foldSubmittedOrder now orders pending payload = .ok written) :
    written = orders ↔ SubmitSettled orders payload := by
  unfold foldSubmittedOrder at h
  unfold SubmitSettled
  split at h
  · rename_i hUnnamed
    cases h
    exact iff_of_true rfl (.inl hUnnamed)
  rename_i hUnnamed
  split at h
  · rename_i hStored
    cases h
    exact iff_of_true rfl (.inr hStored)
  · rename_i hStored
    obtain ⟨record, _, hInsert⟩ := bind_eq_ok.mp h
    obtain ⟨_, rfl⟩ := insertExecutionOrder_eq_ok_iff.mp hInsert
    refine iff_of_false ?_ (not_or.mpr ⟨hUnnamed, hStored⟩)
    simp

theorem foldLiquidatedCard_eq_self_iff :
    foldLiquidatedCard clock database.tradeCards pending payload = database.tradeCards ↔
      (payload.side = .sell → soldCard database pending.request = none) := by
  unfold foldLiquidatedCard soldCard
  by_cases hSell : payload.side = .sell
  · rw [if_pos hSell, forall_prop_of_true hSell]
    cases hFound : lookup TradeCardState.cardKey
        (pending.request.environment, pending.request.accountNo, pending.request.symbol)
        database.tradeCards with
    | none => simp
    | some card =>
      have hKey : (liquidatedCard clock pending payload card).cardKey =
          (pending.request.environment, pending.request.accountNo, pending.request.symbol) := by
        rw [← lookup_key hFound]
        unfold liquidatedCard TradeCardState.cardKey
        dsimp only
        split <;> rfl
      have hVersion : (liquidatedCard clock pending payload card).version = card.version + 1 := by
        unfold liquidatedCard
        dsimp only
        split <;> rfl
      refine iff_of_false (store_ne_self (by rw [hKey]; exact hFound) ?_) (by simp)
      intro hSame
      rw [hSame] at hVersion
      omega
  · rw [if_neg hSell]
    exact iff_of_true rfl (fun h => absurd h hSell)

theorem bind_pure_pair_eq_ok {α β : Type} {x : Except Raised α} {a : α} {b c : β} :
    (x >>= fun value => pure (value, b)) = .ok (a, c) ↔ x = .ok a ∧ c = b := by
  rw [bind_eq_ok]
  constructor
  · rintro ⟨value, h, ⟨⟩⟩
    exact ⟨h, rfl⟩
  · rintro ⟨h, rfl⟩
    exact ⟨a, h, rfl⟩

/-- A request meets a safe state exactly when its transaction succeeds and, if it is marked,
leaves the orders and the cards alone. -/
theorem foldSafe_iff (hRequest : IsGatewayRequest pending.request)
    (hSound : SoundOrders database.executionOrders) :
    FoldSafe database pending ↔
      ∃ folded, foldInto now clock database pending = .ok folded ∧
        (isMarked database pending.sequence = true → LeftAlone database folded) := by
  have hWritten : (∃ folded, foldInto now clock database pending = .ok folded ∧
      (isMarked database pending.sequence = true → LeftAlone database folded)) ↔
        ∃ orders cards, foldOrders now clock pending database = .ok (orders, cards) ∧
          (isMarked database pending.sequence = true →
            orders = database.executionOrders ∧ cards = database.tradeCards) := by
    constructor
    · rintro ⟨folded, h, hAlone⟩
      exact ⟨_, _, (foldInto_ok h).1, hAlone⟩
    · rintro ⟨orders, cards, hOrders, hAlone⟩
      obtain ⟨folded, h⟩ := (foldInto_succeeds_iff hRequest).mpr ⟨_, hOrders⟩
      refine ⟨folded, h, ?_⟩
      have hSame := (foldInto_ok h).1
      rw [hOrders] at hSame
      cases hSame
      exact hAlone
  rw [hWritten]
  unfold FoldSafe foldOrders
  cases hPayload : pending.request.payload with
  | submit payload =>
    have hSucceeds : (∃ written, foldSubmittedOrder now database.executionOrders pending payload =
        .ok written) ↔ _ := foldSubmittedOrder_succeeds_iff (hRequest.quantity hPayload)
    simp only [bind_pure_pair_eq_ok]
    unfold SubmitSafe
    split
    · rename_i hMarked
      constructor
      · rintro ⟨hSettled, hNoCard⟩
        obtain ⟨written, hOk⟩ := hSucceeds.mpr (.inl hSettled)
        exact ⟨written, _, ⟨hOk, rfl⟩, fun _ =>
          ⟨(foldSubmittedOrder_eq_self_iff hOk).mpr hSettled,
            foldLiquidatedCard_eq_self_iff.mpr hNoCard⟩⟩
      · rintro ⟨written, cards, ⟨hOk, rfl⟩, hAlone⟩
        exact ⟨(foldSubmittedOrder_eq_self_iff hOk).mp (hAlone hMarked).1,
          foldLiquidatedCard_eq_self_iff.mp (hAlone hMarked).2⟩
    · rename_i hNew
      constructor
      · intro hSafe
        obtain ⟨written, hOk⟩ := hSucceeds.mpr hSafe
        exact ⟨written, _, ⟨hOk, rfl⟩, fun hMarked => absurd hMarked hNew⟩
      · rintro ⟨written, cards, ⟨hOk, rfl⟩, _⟩
        exact hSucceeds.mp ⟨written, hOk⟩
  | cancel payload =>
    have hSucceeds : (∃ written, foldCancelledOrder now database.executionOrders pending payload =
        .ok written) ↔ _ := foldCancelledOrder_succeeds_iff hSound
    simp only [bind_pure_pair_eq_ok]
    unfold CancelSafe
    constructor
    · intro hSafe
      obtain ⟨written, hOk⟩ := hSucceeds.mpr
        (fun record status response hFound hOutcome =>
          (hSafe record status response hFound hOutcome).2)
      refine ⟨written, _, ⟨hOk, rfl⟩, fun hMarked => ⟨?_, rfl⟩⟩
      unfold foldCancelledOrder at hOk
      split at hOk
      · rename_i record status response hFound hOutcome
        rw [(hSafe record status response hFound hOutcome).1] at hMarked
        cases hMarked
      · cases hOk
        rfl
    · rintro ⟨written, cards, ⟨hOk, rfl⟩, hAlone⟩ record status response hFound hOutcome
      refine ⟨?_, hSucceeds.mp ⟨written, hOk⟩ record status response hFound hOutcome⟩
      by_contra hMarked
      exact foldCancelledOrder_changes hFound (hSound.consistent record (lookup_mem hFound))
        hOutcome hOk (hAlone (by simpa using hMarked)).1

end Transaction

end QuantApp.Services
