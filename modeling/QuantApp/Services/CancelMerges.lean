import QuantApp.Services.CancelEvidence

/-!
# The cancel merges compared

The two merges that do without the canonical database: the record `_do_emergency_cancel`
returns, and the fold of the journaled cancel by `EmergencyJournal.reconcile_into_canonical`.
`cancel_evidence_keeps_fills_iff` puts the four conditions side by side.
-/

namespace QuantApp.Services

open Core Verified
open Procedure (bind_returned attempt raise)

variable {status : CommandStatus} {response : JournalResponse}

/-! ## `_do_emergency_cancel` -/

/-- The record of an emergency cancel, before the broker's answer. -/
def emergencyCancelling (now : IsoText) (request : CancelExecutionRequest)
    (lease : ExecutionLease) (hNamed : request.clientOrderId ≠ "") : ExecutionOrderRecord :=
  { environment := request.environment
    accountNo := request.accountNo
    symbol := request.symbol
    side := if request.side = OrderSide.sell.value then .sell else .buy
    intent := if request.protectiveEntryCompletion then .entry else .manualExit
    clientOrderId := request.clientOrderId
    brokerOrderId := request.brokerOrderId
    submittedQuantity := request.quantity
    remainingQuantity := request.quantity
    exchange := request.exchange
    preparedAt := now
    ownerDeviceId := lease.deviceId
    leaseToken := lease.leaseToken
    leaseEpoch := lease.leaseEpoch
    brokerIdentityStatus := .exact_
    status := .acknowledged
    clientOrderIdNamed := hNamed }

/-- The record under CANCEL_PENDING with the fills and the status of the broker's answer. -/
def emergencyCancelAnswered (now : IsoText) (quantity : Nat) (pending : ExecutionOrderRecord)
    (snapshot : BrokerOrderStatusSnapshot) : Except Raised ExecutionOrderRecord :=
  let reported :=
    { pending with
      filledQuantity := max 0 snapshot.filledQuantity
      remainingQuantity := max 0 snapshot.remainingQuantity }
  match snapshot.status with
  | .cancelled => applyStatusTransition reported .cancelled none now
  | .filled =>
    applyStatusTransition
      { reported with
        filledQuantity := if snapshot.filledQuantity ≠ 0 then snapshot.filledQuantity else quantity
        remainingQuantity := 0 }
      .filled none now
  | .partiallyFilled => applyStatusTransition reported .partiallyFilled none now
  | _ => transitionRecoveryState reported .discovering

/-- The record `_do_emergency_cancel` returns; it is built after the broker has answered. -/
def emergencyCancelRecord (now : IsoText) (request : CancelExecutionRequest)
    (lease : ExecutionLease) (snapshot : BrokerOrderStatusSnapshot) :
    Except Raised ExecutionOrderRecord :=
  if hNamed : request.clientOrderId = "" then
    .error (valueError "ExecutionOrderRecord requires a client_order_id")
  else do
    let pending ← applyStatusTransition (emergencyCancelling now request lease hNamed)
      .cancelPending none now
    emergencyCancelAnswered now request.quantity pending snapshot

/-- What an emergency cancel can be answered with. -/
def EmergencyFits (request : CancelExecutionRequest) (lease : ExecutionLease)
    (snapshot : BrokerOrderStatusSnapshot) : Prop :=
  request.clientOrderId ≠ "" ∧ 0 ≤ lease.leaseEpoch ∧
    if snapshot.status = .filled then
      0 ≤ snapshot.filledQuantity ∧ snapshot.filledQuantity ≤ request.quantity
    else
      max 0 snapshot.filledQuantity + max 0 snapshot.remainingQuantity ≤ request.quantity

section Emergency

variable {now : IsoText} {request : CancelExecutionRequest} {lease : ExecutionLease}
  {snapshot : BrokerOrderStatusSnapshot}

theorem emergencyCancelling_consistent_iff (hNamed : request.clientOrderId ≠ "") :
    (emergencyCancelling now request lease hNamed).Consistent ↔ 0 ≤ lease.leaseEpoch := by
  constructor
  · intro h
    exact h.epoch
  · intro hEpoch
    constructor <;> simp [emergencyCancelling, legalIdentityStatuses, hEpoch]

theorem emergencyCancelAnswered_keepsFills_iff {pending : ExecutionOrderRecord} {quantity : Nat}
    (h : pending.Consistent) (hPending : pending.status = .cancelPending)
    (hRecovery : pending.recoveryState = .none_)
    (hQuantity : pending.submittedQuantity = quantity) :
    MergeKeepsFills 0 (emergencyCancelAnswered now quantity pending snapshot) ↔
      if snapshot.status = .filled then
        0 ≤ snapshot.filledQuantity ∧ snapshot.filledQuantity ≤ quantity
      else max 0 snapshot.filledQuantity + max 0 snapshot.remainingQuantity ≤ quantity := by
  have hAllowed : ∀ target : ExecutionOrderStatus,
      target ∈ allowedStatusTransitions .cancelPending →
        target ∈ allowedStatusTransitions pending.status := by
    intro target hTarget
    rw [hPending]
    exact hTarget
  have hReported : ((0 ≤ max 0 snapshot.filledQuantity ∧ 0 ≤ max 0 snapshot.remainingQuantity ∧
        max 0 snapshot.filledQuantity + max 0 snapshot.remainingQuantity ≤
          pending.submittedQuantity) ∧
      0 ≤ max 0 snapshot.filledQuantity) ↔
      max 0 snapshot.filledQuantity + max 0 snapshot.remainingQuantity ≤ (quantity : Int) := by
    omega
  unfold emergencyCancelAnswered
  cases snapshot.status with
  | cancelled | partiallyFilled =>
    refine ((transition_keepsFills_iff h rfl (hAllowed _ (by decide))).trans hReported).trans ?_
    rw [if_neg (by decide)]
  | filled =>
    refine (transition_keepsFills_iff h rfl (hAllowed _ (by decide))).trans ?_
    split <;> simp only [if_true] <;> omega
  | _ =>
    refine (discovering_keepsFills_iff h).trans ?_
    rw [and_iff_left hRecovery, if_neg (by decide)]
    exact hReported

theorem emergencyCancelRecord_keepsFills_iff :
    MergeKeepsFills 0 (emergencyCancelRecord now request lease snapshot) ↔
      EmergencyFits request lease snapshot := by
  unfold emergencyCancelRecord EmergencyFits
  by_cases hUnnamed : request.clientOrderId = ""
  · rw [dif_pos hUnnamed]
    refine iff_of_false ?_ (fun h => h.1 hUnnamed)
    rintro ⟨after, hAfter, _⟩
    cases hAfter
  rw [dif_neg hUnnamed, and_iff_right hUnnamed]
  by_cases hEpoch : 0 ≤ lease.leaseEpoch
  · have hBase : (emergencyCancelling now request lease hUnnamed).Consistent :=
      (emergencyCancelling_consistent_iff hUnnamed).mpr hEpoch
    have hAllowed : .cancelPending ∈
        allowedStatusTransitions (emergencyCancelling now request lease hUnnamed).status := by
      show _ ∈ allowedStatusTransitions .acknowledged
      decide
    rw [and_iff_right hEpoch, applyStatusTransition_cancelStep hBase rfl hAllowed]
    exact emergencyCancelAnswered_keepsFills_iff (consistent_of_cancelStep hBase rfl hAllowed)
      rfl rfl rfl
  · refine iff_of_false ?_ (fun h => hEpoch h.1)
    rintro ⟨after, hAfter, _⟩
    obtain ⟨pending, hPending, _⟩ := bind_eq_ok.mp hAfter
    obtain ⟨_, hConsistent, rfl⟩ := applyStatusTransition_none_ok hPending
    exact hEpoch hConsistent.epoch

end Emergency

/-! ### The call -/

/-- The emergency cancel passes its gates, and its REQUESTED line is appended to a journal
that can be read. -/
structure EmergencyCancelPassed (request : CancelExecutionRequest)
    (answers : EmergencyCancelAnswers) (lease : ExecutionLease) (world : GatewayWorld)
    (entries : List JournalEntry) : Prop where
  exact_ : isEmergencyCancel request = true
  leased : request.lease = some lease
  allowance : answers.allowance = .ok ()
  ownership : answers.ownership = .ok ()
  tradingEnabled : answers.tradingEnabled = .ok ()
  readable : readJournal world.journal = .ok entries
  keyed : (cancelJournalRequest request lease answers.now).idempotencyKey ≠ ""
  fresh : (cancelJournalRequest request lease answers.now).idempotencyKey ∉
    requestedKeys entries
  requested : answers.requested = .appended

section EmergencyCall

variable {request : CancelExecutionRequest} {answers : EmergencyCancelAnswers}
  {lease : ExecutionLease} {world : GatewayWorld} {entries : List JournalEntry}
  {snapshot : BrokerOrderStatusSnapshot}

/-- The world in which the broker's answer to an emergency cancel arrives. -/
def emergencyEntered (request : CancelExecutionRequest) (lease : ExecutionLease) (now : IsoText)
    (entries : List JournalEntry) (world : GatewayWorld) : GatewayWorld :=
  { world with
    journal := world.journal ++
      [.entry (nextEntry entries (.requested (cancelJournalRequest request lease now)))]
    history := world.history ++ [.emergencyCancelEntered request] }

section

variable (h : EmergencyCancelPassed request answers lease world entries)
include h

theorem EmergencyCancelPassed.journalRequested :
    journalRequested .appended (cancelJournalRequest request lease answers.now) world =
      (.returned (nextEntry entries (.requested (cancelJournalRequest request lease answers.now))),
        { world with journal := world.journal ++ [.entry (nextEntry entries
          (.requested (cancelJournalRequest request lease answers.now)))] }) := by
  have hAppend : appendRequested .appended (cancelJournalRequest request lease answers.now) world =
      (.returned (nextEntry entries (.requested (cancelJournalRequest request lease answers.now))),
        { world with journal := world.journal ++ [.entry (nextEntry entries
          (.requested (cancelJournalRequest request lease answers.now)))] }) := by
    unfold appendRequested
    rw [if_neg h.keyed, bind_returned (readJournal_run h.readable), if_neg h.fresh]
    rfl
  unfold Services.journalRequested
  rw [bind_returned (Procedure.attempt_returned hAppend)]
  rfl

/-- What is left of an emergency cancel that is answered: its OUTCOME line. -/
theorem EmergencyCancelPassed.doEmergencyCancel (hBroker : answers.broker = .returned snapshot) :
    doEmergencyCancel request answers world =
      appendEmergencyOutcome answers.outcome
        (nextEntry entries (.requested (cancelJournalRequest request lease answers.now)))
        .acknowledged (cancelAnswered snapshot)
        (emergencyEntered request lease answers.now entries world) := by
  have hExact : ¬ isEmergencyCancel request = false := by
    simp [h.exact_]
  have hLease : requireEmergencyAllowance request.lease answers.allowance world =
      (.returned lease, world) := by
    rw [h.leased, h.allowance]
    rfl
  have hEntered : executeScheduledMutation answers.broker
      (fun _ => GatewayEvent.emergencyCancelEntered request)
      { world with journal := world.journal ++ [.entry (nextEntry entries
        (.requested (cancelJournalRequest request lease answers.now)))] } =
      (.returned (.ok snapshot), emergencyEntered request lease answers.now entries world) := by
    rw [hBroker]
    rfl
  unfold Services.doEmergencyCancel
  rw [if_neg hExact, bind_returned hLease,
    bind_returned (gate_passes h.ownership world),
    bind_returned (gate_passes h.tradingEnabled world), h.requested,
    bind_returned h.journalRequested]
  exact bind_returned hEntered

end

theorem appendEmergencyOutcome_returned_iff {outcome : AppendOutcome} {requested : JournalEntry}
    (hRead : readJournal world.journal = .ok entries) :
    (appendEmergencyOutcome outcome requested status response world).1 = .returned () ↔
      outcome = .appended := by
  have hUnlocked : appendOutcome outcome requested.sequence status response world =
      appendUnlocked outcome entries (.outcome requested.sequence status response) world :=
    bind_returned (readJournal_run hRead)
  show (Procedure.bind (attempt (appendOutcome outcome requested.sequence status
    response)) _ world).1 = _ ↔ _
  unfold Procedure.bind attempt
  rw [hUnlocked]
  cases outcome <;> simp [appendUnlocked, pure, raise]

/-- An emergency cancel that is answered ends with a consistent record exactly when the answer
fits the request and the OUTCOME line is written. -/
theorem doEmergencyCancel_keepsFills_iff
    (hPassed : EmergencyCancelPassed request answers lease world entries) :
    ((doEmergencyCancel request { answers with broker := .returned snapshot } world).1 =
          .returned () ∧
        MergeKeepsFills 0 (emergencyCancelRecord answers.now request lease snapshot)) ↔
      answers.outcome = .appended ∧ EmergencyFits request lease snapshot := by
  have hPassed' : EmergencyCancelPassed request { answers with broker := .returned snapshot } lease
      world entries := { hPassed with }
  have hRead : readJournal (emergencyEntered request lease answers.now entries world).journal =
      .ok (entries ++ [nextEntry entries
        (.requested (cancelJournalRequest request lease answers.now))]) :=
    readJournal_append _ hPassed.readable
  rw [hPassed'.doEmergencyCancel rfl, emergencyCancelRecord_keepsFills_iff,
    appendEmergencyOutcome_returned_iff hRead]

end EmergencyCall

/-! ## The cancel fold of the journal -/

section Fold

variable {now : IsoText} {record updated : ExecutionOrderRecord}

theorem moveRecoveryState_fills {state : OrderRecoveryState}
    (h : moveRecoveryState record state = .ok updated) :
    updated.filledQuantity = record.filledQuantity := by
  unfold moveRecoveryState at h
  split at h
  · cases h
    rfl
  · cases h

theorem applyCancelAnswer_keeps {normalized : OrderStatus} {filledQuantity remainingQuantity : Int}
    {averageFillPrice : ℚ}
    (h : applyCancelAnswer now record normalized filledQuantity remainingQuantity
      averageFillPrice = .ok updated) : record.filledQuantity ≤ updated.filledQuantity := by
  unfold applyCancelAnswer at h
  dsimp only at h
  split at h
  · split at h
    · obtain ⟨_, _, rfl⟩ := applyStatusTransition_none_ok h
      exact le_max_left _ _
    · cases h
      exact le_max_left _ _
  · rw [moveRecoveryState_fills h]
    exact le_max_left _ _

theorem cancelledOrder_keeps (h : record.Consistent)
    (hUpdated : cancelledOrder now record status response = .ok updated) :
    record.filledQuantity ≤ updated.filledQuantity := by
  obtain ⟨pendingCancel, hRequested, _, reached, rfl⟩ := requestCancel_succeeds now h
  unfold cancelledOrder at hUpdated
  split at hUpdated
  · obtain ⟨_, hReached, hUpdated⟩ := bind_eq_ok.mp hUpdated
    cases hRequested.symm.trans hReached
    have hKept := applyCancelAnswer_keeps hUpdated
    exact hKept
  · obtain ⟨_, hReached, hUpdated⟩ := bind_eq_ok.mp hUpdated
    cases hRequested.symm.trans hReached
    have hKept := applyCancelAnswer_keeps hUpdated
    exact hKept
  · split at hUpdated
    · exact le_of_eq (moveRecoveryState_fills hUpdated).symm
    · cases hUpdated
      exact le_refl _
  · cases hUpdated
    exact le_refl _

/-- The fold of a journaled answer loses no fill exactly when the answer fits the order. -/
theorem foldCancelledOrder_keepsFills_iff {orders : List ExecutionOrderRecord}
    {pending : PendingRequest} {payload : CancelPayload} (hSound : SoundOrders orders)
    (hFound : getExecutionOrder orders payload.clientOrderId = some record)
    (hOutcome : pending.outcome = some (status, response)) :
    (∃ written after, foldCancelledOrder now orders pending payload = .ok written ∧
        getExecutionOrder written payload.clientOrderId = some after ∧
        after.Consistent ∧ record.filledQuantity ≤ after.filledQuantity) ↔
      AnswerFits record status response := by
  have hConsistent := hSound.consistent record (lookup_mem hFound)
  have hSucceeds : (∃ written, foldCancelledOrder now orders pending payload = .ok written) ↔ _ :=
    foldCancelledOrder_succeeds_iff hSound
  constructor
  · rintro ⟨written, _, hWritten, _⟩
    exact hSucceeds.mp ⟨written, hWritten⟩ record status response hFound hOutcome
  · intro hFits
    obtain ⟨written, hWritten⟩ := hSucceeds.mpr (by
      intro other otherStatus otherResponse hOther hAnswered
      cases hFound.symm.trans hOther
      cases hOutcome.symm.trans hAnswered
      exact hFits)
    have hFolded := hWritten
    unfold foldCancelledOrder at hFolded
    rw [hFound, hOutcome] at hFolded
    obtain ⟨updated, hUpdated, hFolded⟩ := bind_eq_ok.mp hFolded
    obtain ⟨⟨rows, stored⟩, hRows, hFolded⟩ := bind_eq_ok.mp hFolded
    cases hFolded
    obtain ⟨hCan, rfl, rfl⟩ := updateExecutionOrder_eq_ok_iff.mp hRows
    have hId : updated.clientOrderId = payload.clientOrderId :=
      (sameClaims_of_cancelled hConsistent hUpdated).clientOrderId.trans (lookup_key hFound)
    have hKept := cancelledOrder_keeps hConsistent hUpdated
    exact ⟨_, _, hWritten, getExecutionOrder_store hId hFound, hCan.consistent.versioned _, hKept⟩

end Fold

/-! ## The four merges -/

/-- What a cancel or the inquiry after it reports is merged into the order without losing a
fill, and without an exception after the answer, exactly when it fits the order in the way
of the merge: `_do_cancel`, the exact inquiry, `_do_emergency_cancel` and the journal. -/
theorem cancel_evidence_keeps_fills_iff (snapshot : BrokerOrderStatusSnapshot) :
    (∀ (request : CancelExecutionRequest) (answers : CancelAnswers)
        (permissionCheck : ExecutionOrderRecord → Bool) (release : Bool)
        (record cancelling : ExecutionOrderRecord) (world : GatewayWorld)
        (database : CanonicalDatabase),
      CancelPassed request answers permissionCheck record world cancelling database →
      (KeepsFills record.filledQuantity
          (doCancel request { answers with broker := .returned snapshot } permissionCheck release
            record world).1 ↔
        ResponseFits record snapshot ∧ AnswerStored answers release record snapshot)) ∧
    (∀ (now : IsoText) (write : CommitOutcome) (record : ExecutionOrderRecord)
        (world : GatewayWorld),
      SoundOrders world.database.executionOrders →
      getExecutionOrder world.database.executionOrders record.clientOrderId = some record →
      ((∃ settled after,
          (applyAuthoritativeCancelSnapshot now write record snapshot world).1 =
              .returned (settled, after) ∧
            after.Consistent ∧ record.filledQuantity ≤ after.filledQuantity) ↔
        InquiryFits record snapshot ∧ (IsSettledBy record snapshot → write = .committed))) ∧
    (∀ (request : CancelExecutionRequest) (answers : EmergencyCancelAnswers)
        (lease : ExecutionLease) (world : GatewayWorld) (entries : List JournalEntry),
      EmergencyCancelPassed request answers lease world entries →
      (((doEmergencyCancel request { answers with broker := .returned snapshot } world).1 =
              .returned () ∧
            MergeKeepsFills 0 (emergencyCancelRecord answers.now request lease snapshot)) ↔
        answers.outcome = .appended ∧ EmergencyFits request lease snapshot)) ∧
    (∀ (now : IsoText) (orders : List ExecutionOrderRecord) (pending : PendingRequest)
        (payload : CancelPayload) (record : ExecutionOrderRecord),
      SoundOrders orders → getExecutionOrder orders payload.clientOrderId = some record →
      pending.outcome = some (.acknowledged, cancelAnswered snapshot) →
      ((∃ written after, foldCancelledOrder now orders pending payload = .ok written ∧
          getExecutionOrder written payload.clientOrderId = some after ∧
            after.Consistent ∧ record.filledQuantity ≤ after.filledQuantity) ↔
        ReportFits record snapshot.status snapshot.filledQuantity
          snapshot.remainingQuantity)) := by
  refine ⟨?_, ?_, ?_, ?_⟩
  · intro request answers permissionCheck release record cancelling world database hPassed
    exact doCancel_keepsFills_iff hPassed
  · intro now write record world hSound hStored
    exact applyAuthoritativeCancelSnapshot_keepsFills_iff hSound hStored
  · intro request answers lease world entries hPassed
    exact doEmergencyCancel_keepsFills_iff hPassed
  · intro now orders pending payload record hSound hFound hOutcome
    exact foldCancelledOrder_keepsFills_iff hSound hFound hOutcome

/-! ## An answer in time, and a late one -/

/-- Ten shares at the broker, five of them filled. -/
def halfFilledOrder : ExecutionOrderRecord :=
  { workingOrder with
    status := .partiallyFilled
    filledQuantity := 5
    remainingQuantity := 5 }

/-- The answer that ends it. -/
def cancelledAnswer : BrokerOrderStatusSnapshot :=
  { symbol := "AAPL"
    brokerOrderId := "0000001234"
    status := .cancelled
    quantityRequested := 10
    filledQuantity := 5
    checkedAt := isoformat 0 }

/-- An answer that was taken when three were filled. -/
def lateAnswer : BrokerOrderStatusSnapshot :=
  { symbol := "AAPL"
    brokerOrderId := "0000001234"
    status := .partiallyFilled
    quantityRequested := 10
    filledQuantity := 3
    remainingQuantity := 7
    checkedAt := isoformat 0 }

def halfFilledWorld : GatewayWorld := { database := { executionOrders := [halfFilledOrder] } }

theorem halfFilledCancel_passed :
    ∃ cancelling database,
      CancelPassed workingCancel openGates isCancellable halfFilledOrder halfFilledWorld cancelling
        database := by
  obtain ⟨cancelling, database, hPrepared⟩ : ∃ cancelling database,
      prepareCancel workingCancel openGates halfFilledOrder halfFilledWorld.database =
        .ok (cancelling, database) := ⟨_, _, rfl⟩
  refine ⟨cancelling, database, ?_⟩
  constructor
  case prepared => exact hPrepared
  case commandStripped => decide +kernel
  case permitted => decide +kernel
  all_goals rfl

/-- The order while its cancel is inquired about. -/
def cancellingOrder : ExecutionOrderRecord := { halfFilledOrder with status := .cancelPending }

def cancellingWorld : GatewayWorld := { database := { executionOrders := [cancellingOrder] } }

/-- The cancel of a protective sale while the database is gone. -/
def outageCancel : CancelExecutionRequest :=
  { workingCancel with
    emergency := true
    symbol := "AAPL"
    brokerOrderId := "0000001234"
    quantity := 10
    side := "SELL" }

def outageAnswers : EmergencyCancelAnswers :=
  { now := isoformat 0, broker := .notEntered { message := "" } }

def outageLease : ExecutionLease := { leaseToken := "t1", leaseEpoch := 1, deviceId := "d1" }

theorem outageCancel_passed :
    EmergencyCancelPassed outageCancel outageAnswers outageLease {} [] := by
  constructor
  case keyed => decide +kernel
  case fresh => exact List.not_mem_nil
  all_goals rfl

/-- The journaled cancel of the half filled order, with its answer. -/
def answeredCancel : PendingRequest :=
  { sequence := 1
    request := cancelJournalRequest outageCancel outageLease (isoformat 0)
    outcome := some (.acknowledged, cancelAnswered cancelledAnswer) }

theorem soundOrders_singleton {record : ExecutionOrderRecord} (h : record.Consistent) :
    SoundOrders [record] := by
  refine soundOrders_of_length (le_refl 1) ?_
  intro row hRow
  rw [List.mem_singleton.mp hRow]
  exact h

/-- All four merges take it. -/
theorem cancel_evidence_keeps_fills_cancelled :
    KeepsFills 5
        (doCancel workingCancel { openGates with broker := .returned cancelledAnswer }
          isCancellable true halfFilledOrder halfFilledWorld).1 ∧
      (∃ settled after,
        (applyAuthoritativeCancelSnapshot (isoformat 0) .committed cancellingOrder
            cancelledAnswer cancellingWorld).1 = .returned (settled, after) ∧
          after.Consistent ∧ 5 ≤ after.filledQuantity) ∧
      ((doEmergencyCancel outageCancel { outageAnswers with broker := .returned cancelledAnswer }
          {}).1 = .returned () ∧
        MergeKeepsFills 0
          (emergencyCancelRecord (isoformat 0) outageCancel outageLease cancelledAnswer)) ∧
      ∃ written after,
        foldCancelledOrder (isoformat 0) [halfFilledOrder] answeredCancel
            { clientOrderId := "c1" } = .ok written ∧
          getExecutionOrder written "c1" = some after ∧ after.Consistent ∧
            5 ≤ after.filledQuantity := by
  obtain ⟨hCancel, hInquiry, hEmergency, hFold⟩ := cancel_evidence_keeps_fills_iff cancelledAnswer
  obtain ⟨cancelling, database, hPassed⟩ := halfFilledCancel_passed
  have hHalf : halfFilledOrder.Consistent := by decide +kernel
  have hCancelling : cancellingOrder.Consistent := by decide +kernel
  refine ⟨?_, ?_, ?_, ?_⟩
  · refine (hCancel _ _ _ true _ _ _ _ hPassed).mpr ⟨?_, rfl, fun _ _ _ => rfl⟩
    show (5 : Int) + 0 ≤ 10
    decide
  · refine (hInquiry (isoformat 0) .committed _ cancellingWorld
      (soundOrders_singleton hCancelling) rfl).mpr ⟨?_, fun _ => rfl⟩
    rintro target ⟨⟩
    refine ⟨?_, fun h => nomatch h⟩
    rw [if_neg (by decide)]
    decide +kernel
  · refine (hEmergency _ _ _ _ _ outageCancel_passed).mpr ⟨rfl, ?_⟩
    refine ⟨by decide +kernel, by decide +kernel, by decide +kernel⟩
  · refine (hFold (isoformat 0) [halfFilledOrder] answeredCancel { clientOrderId := "c1" } _
      (soundOrders_singleton hHalf) rfl rfl).mpr ⟨by decide +kernel, ?_⟩
    exact fun h => nomatch h

/-- The cancel is answered without an exception, and two fills are gone. -/
theorem late_answer_loses_fills :
    ∃ after,
      (doCancel workingCancel { openGates with broker := .returned lateAnswer } isCancellable true
          halfFilledOrder halfFilledWorld).1 = .returned after ∧
        after.filledQuantity = 3 ∧ halfFilledOrder.filledQuantity = 5 ∧
        ¬ KeepsFills halfFilledOrder.filledQuantity
          (doCancel workingCancel { openGates with broker := .returned lateAnswer } isCancellable
            true halfFilledOrder halfFilledWorld).1 := by
  obtain ⟨after, hAfter, hFilled⟩ : ∃ after,
      (doCancel workingCancel { openGates with broker := .returned lateAnswer } isCancellable true
          halfFilledOrder halfFilledWorld).1 = .returned after ∧ after.filledQuantity = 3 :=
    ⟨_, rfl, rfl⟩
  refine ⟨after, hAfter, hFilled, rfl, ?_⟩
  rintro ⟨other, hOther, _, hKept⟩
  cases hAfter.symm.trans hOther
  rw [hFilled] at hKept
  exact absurd hKept (by decide)

end QuantApp.Services
