import QuantApp.Services.CancelAcknowledgement
import QuantApp.Services.JournalReplay

/-!
# What the evidence of a cancel does to the fills

Four routines of `src/services/execution_command_gateway.py` and
`src/services/emergency_journal.py` merge what the broker says after a cancel into an
order: `_do_cancel`, `_apply_authoritative_cancel_snapshot`, `_do_emergency_cancel` and the
cancel fold of `reconcile_into_canonical`.  Each of them combines the local and the
reported quantities in its own way, and validates the result after the broker has answered.
-/

namespace QuantApp.Services

open Core Verified
open Procedure (bind_returned ofExcept)
open CapitalReservation (reservationId consume)

variable {world : GatewayWorld} {answered settled : ExecutionOrderRecord}
  {before : CanonicalDatabase} {write : CommitOutcome}

/-- The merge ends with a consistent record that has lost no fill. -/
def MergeKeepsFills (previous : Int) (result : Except Raised ExecutionOrderRecord) : Prop :=
  ∃ after, result = .ok after ∧ after.Consistent ∧ previous ≤ after.filledQuantity

/-- The call ends with a consistent record that has lost no fill. -/
def KeepsFills (previous : Int) (outcome : Outcome Raised ExecutionOrderRecord) : Prop :=
  ∃ after, outcome = .returned after ∧ after.Consistent ∧ previous ≤ after.filledQuantity

/-! ## The common steps -/

/-- The order with other quantities. -/
def withFills (record : ExecutionOrderRecord) (filled remaining : Int) (price : ℚ) :
    ExecutionOrderRecord :=
  { record with
    filledQuantity := filled
    remainingQuantity := remaining
    averageFillPrice := price }

section Steps

variable {now : IsoText} {record : ExecutionOrderRecord} {target : ExecutionOrderStatus}
  {filled remaining previous : Int} {price : ℚ}

theorem withFills_consistent_iff (h : record.Consistent) (filled remaining : Int) (price : ℚ) :
    (withFills record filled remaining price).Consistent ↔
      0 ≤ filled ∧ 0 ≤ remaining ∧ filled + remaining ≤ record.submittedQuantity := by
  constructor
  · intro hFilled
    exact ⟨hFilled.filledNonneg, hFilled.remainingNonneg, hFilled.fillsFit⟩
  · rintro ⟨hFilled, hRemaining, hFits⟩
    exact { h with filledNonneg := hFilled, remainingNonneg := hRemaining, fillsFit := hFits }

/-- A step of a cancellation validates the quantities it is taken with. -/
theorem transition_keepsFills_iff (h : record.Consistent) (hTarget : isCancelStep target = true)
    (hAllowed : target ∈ allowedStatusTransitions record.status) :
    MergeKeepsFills previous
        (applyStatusTransition (withFills record filled remaining price) target none now) ↔
      (0 ≤ filled ∧ 0 ≤ remaining ∧ filled + remaining ≤ record.submittedQuantity) ∧
        previous ≤ filled := by
  constructor
  · rintro ⟨after, hAfter, hConsistent, hKept⟩
    obtain ⟨_, _, rfl⟩ := applyStatusTransition_none_ok hAfter
    exact ⟨⟨hConsistent.filledNonneg, hConsistent.remainingNonneg, hConsistent.fillsFit⟩, hKept⟩
  · rintro ⟨hFits, hKept⟩
    have hFilled := (withFills_consistent_iff h filled remaining price).mpr hFits
    exact ⟨_, applyStatusTransition_cancelStep hFilled hTarget hAllowed,
      consistent_of_cancelStep hFilled hTarget hAllowed, hKept⟩

theorem transitionRecoveryState_eq_ok_iff {after : ExecutionOrderRecord}
    {state : OrderRecoveryState} :
    transitionRecoveryState record state = .ok after ↔
      state ∈ allowedRecoveryTransitions record.recoveryState ∧
        { record with recoveryState := state }.Consistent ∧
        after = { record with recoveryState := state } := by
  unfold transitionRecoveryState
  by_cases hAllowed : state ∈ allowedRecoveryTransitions record.recoveryState
  · rw [if_pos hAllowed, and_iff_right hAllowed, ← validateConsistency_eq_ok_iff]
    constructor
    · intro h
      obtain ⟨_, hValid, hMoved⟩ := bind_eq_ok.mp h
      exact ⟨hValid, (Except.ok.inj hMoved).symm⟩
    · rintro ⟨hValid, rfl⟩
      exact bind_eq_ok.mpr ⟨(), hValid, rfl⟩
  · simp [hAllowed]

/-- So does the step to DISCOVERING, which is there for an order without a recovery state
only. -/
theorem discovering_keepsFills_iff (h : record.Consistent) :
    MergeKeepsFills previous
        (transitionRecoveryState (withFills record filled remaining price) .discovering) ↔
      ((0 ≤ filled ∧ 0 ≤ remaining ∧ filled + remaining ≤ record.submittedQuantity) ∧
        previous ≤ filled) ∧ record.recoveryState = .none_ := by
  rw [← discovering_allowed_iff, ← withFills_consistent_iff h filled remaining price]
  constructor
  · rintro ⟨after, hAfter, hConsistent, hKept⟩
    obtain ⟨hAllowed, _, rfl⟩ := transitionRecoveryState_eq_ok_iff.mp hAfter
    exact ⟨⟨{ hConsistent with }, hKept⟩, hAllowed⟩
  · rintro ⟨⟨hFilled, hKept⟩, hAllowed⟩
    have hMoved : { withFills record filled remaining price with
        recoveryState := .discovering }.Consistent := { hFilled with }
    exact ⟨_, transitionRecoveryState_eq_ok_iff.mpr ⟨hAllowed, hMoved, rfl⟩, hMoved, hKept⟩

end Steps

/-! ## `_do_cancel` -/

/-- The reported quantities, on top of the fills the order already has. -/
def ReportedFit (record : ExecutionOrderRecord) (snapshot : BrokerOrderStatusSnapshot) : Prop :=
  max record.filledQuantity snapshot.filledQuantity + max 0 snapshot.remainingQuantity ≤
    record.submittedQuantity

/-- The reported fills are at least those of the order, and no more than it asked for. -/
def FillsAdvance (record : ExecutionOrderRecord) (snapshot : BrokerOrderStatusSnapshot) : Prop :=
  record.filledQuantity ≤ snapshot.filledQuantity ∧
    snapshot.filledQuantity ≤ record.submittedQuantity

/-- What `_do_cancel` can merge. -/
def ResponseFits (record : ExecutionOrderRecord) (snapshot : BrokerOrderStatusSnapshot) : Prop :=
  match snapshot.status with
  | .filled => snapshot.filledQuantity ≠ 0 → FillsAdvance record snapshot
  | .partiallyFilled => FillsAdvance record snapshot
  | .cancelled => ReportedFit record snapshot
  | _ => ReportedFit record snapshot ∧ record.recoveryState = .none_

section Response

variable {now : IsoText} {record cancelling : ExecutionOrderRecord}
  {snapshot : BrokerOrderStatusSnapshot}

/-- The order of the branches that keep the reported remainder. -/
private theorem reported_fit_iff (h : cancelling.Consistent) :
    ((0 ≤ max cancelling.filledQuantity snapshot.filledQuantity ∧
        0 ≤ max 0 (if snapshot.remainingQuantity ≠ 0 then snapshot.remainingQuantity
          else cancelling.submittedQuantity -
            max cancelling.filledQuantity snapshot.filledQuantity) ∧
        max cancelling.filledQuantity snapshot.filledQuantity +
          max 0 (if snapshot.remainingQuantity ≠ 0 then snapshot.remainingQuantity
            else cancelling.submittedQuantity -
              max cancelling.filledQuantity snapshot.filledQuantity) ≤
          cancelling.submittedQuantity) ∧
      cancelling.filledQuantity ≤ max cancelling.filledQuantity snapshot.filledQuantity) ↔
      ReportedFit cancelling snapshot := by
  have hFilled := h.filledNonneg
  unfold ReportedFit
  split <;> omega

theorem cancelResponse_keepsFills_iff (now : IsoText) (snapshot : BrokerOrderStatusSnapshot)
    (h : cancelling.Consistent)
    (hPending : cancelling.status = .cancelPending) :
    MergeKeepsFills cancelling.filledQuantity (cancelResponse now cancelling snapshot) ↔
      ResponseFits cancelling snapshot := by
  have hFilled := h.filledNonneg
  have hSubmitted := h.submittedNonneg
  have hFits := h.fillsFit
  have hRemaining := h.remainingNonneg
  have hAllowed : ∀ target : ExecutionOrderStatus,
      target ∈ allowedStatusTransitions .cancelPending →
        target ∈ allowedStatusTransitions cancelling.status := by
    intro target hTarget
    rw [hPending]
    exact hTarget
  unfold cancelResponse ResponseFits
  cases snapshot.status with
  | cancelled =>
    exact (transition_keepsFills_iff h rfl (hAllowed _ (by decide))).trans (reported_fit_iff h)
  | filled =>
    refine (transition_keepsFills_iff h rfl (hAllowed _ (by decide))).trans ?_
    unfold FillsAdvance
    split <;> omega
  | partiallyFilled =>
    refine (transition_keepsFills_iff h rfl (hAllowed _ (by decide))).trans ?_
    unfold FillsAdvance
    omega
  | _ => exact (discovering_keepsFills_iff h).trans (and_congr_left' (reported_fit_iff h))

/-- The answered order is the one that was cancelled, with other quantities, in the status of
the answer. -/
theorem cancelResponse_ok (hPending : cancelling.status = .cancelPending)
    (h : cancelResponse now cancelling snapshot = .ok answered) :
    answered.Consistent ∧
      ∃ filled remaining price status state,
        answered = { withFills cancelling filled remaining price with
          status := status, recoveryState := state } ∧
        ((status = .cancelled ∨ status = .filled) ↔
          (snapshot.status = .cancelled ∨ snapshot.status = .filled)) := by
  unfold cancelResponse at h
  cases hStatus : snapshot.status with
  | cancelled =>
    rw [hStatus] at h
    obtain ⟨_, hConsistent, rfl⟩ := applyStatusTransition_none_ok h
    refine ⟨hConsistent, _, _, _, .cancelled, cancelling.recoveryState,
      transitioned_of_cancelStep rfl, by simp⟩
  | filled =>
    rw [hStatus] at h
    obtain ⟨_, hConsistent, rfl⟩ := applyStatusTransition_none_ok h
    refine ⟨hConsistent, _, _, _, .filled, cancelling.recoveryState,
      transitioned_of_cancelStep rfl, by simp⟩
  | partiallyFilled =>
    rw [hStatus] at h
    obtain ⟨_, hConsistent, rfl⟩ := applyStatusTransition_none_ok h
    refine ⟨hConsistent, _, _, _, .partiallyFilled, cancelling.recoveryState,
      transitioned_of_cancelStep rfl, by simp⟩
  | _ =>
    rw [hStatus] at h
    obtain ⟨_, hConsistent, rfl⟩ := transitionRecoveryState_eq_ok_iff.mp h
    exact ⟨hConsistent, _, _, _, cancelling.status, .discovering, rfl, by simp [hPending]⟩

end Response

/-! ### The call -/

/-- A persistence step returns what its write returns, and an exception never. -/
theorem persistOrRaiseAmbiguous_returned_iff {α : Type} {context : String} {persist : Gateway α}
    {value : α} :
    (persistOrRaiseAmbiguous context persist world).1 = .returned value ↔
      (persist world).1 = .returned value := by
  rcases hRun : persist world with ⟨stored | error | _, next⟩
  · have hReturned : persistOrRaiseAmbiguous context persist world = (.returned stored, next) :=
      bind_returned (Procedure.attempt_returned hRun)
    rw [hReturned]
  · have hRaised : ∃ raised, persistOrRaiseAmbiguous context persist world =
        (.raised raised, next) := by
      unfold persistOrRaiseAmbiguous
      rw [bind_returned (Procedure.attempt_raised hRun)]
      dsimp only
      split <;> exact ⟨_, rfl⟩
    obtain ⟨raised, hRaised⟩ := hRaised
    simp [hRaised]
  · have hCrashed : persistOrRaiseAmbiguous context persist world = (.crashed, next) :=
      Procedure.bind_crashed (Procedure.attempt_crashed hRun)
    rw [hCrashed]

theorem transaction_returned_iff {α : Type} {outcome : CommitOutcome}
    {body : CanonicalDatabase → Except Raised (α × CanonicalDatabase)} {value : α} :
    (transaction outcome body world).1 = .returned value ↔
      outcome = .committed ∧ ∃ written, body world.database = .ok (value, written) := by
  unfold transaction
  cases hBody : body world.database with
  | error => simp
  | ok => cases outcome <;> simp [Prod.ext_iff]

section Call

variable {request : CancelExecutionRequest} {answers : CancelAnswers}
  {permissionCheck : ExecutionOrderRecord → Bool} {record cancelling : ExecutionOrderRecord}
  {world : GatewayWorld} {database : CanonicalDatabase} {release : Bool}
  {snapshot : BrokerOrderStatusSnapshot}

/-- What the transaction after the answer needs besides: it is committed, and the reservation
that an ended order releases is read. -/
def AnswerStored (answers : CancelAnswers) (release : Bool) (record : ExecutionOrderRecord)
    (snapshot : BrokerOrderStatusSnapshot) : Prop :=
  answers.persist = .committed ∧
    (snapshot.status = .cancelled ∨ snapshot.status = .filled →
      record.capitalReservationId ≠ "" → release = true → answers.reservationAnswered = true)

/-- The cancel was journaled with the order as it was, under CANCEL_PENDING. -/
theorem CancelPassed.cancelling_eq (h : CancelPassed request answers permissionCheck record world
    cancelling database) :
    cancelling = { record with status := .cancelPending, version := record.version + 1 } := by
  have hPrepared := h.prepared
  unfold prepareCancel at hPrepared
  obtain ⟨_, _, hPrepared⟩ := bind_eq_ok.mp hPrepared
  obtain ⟨_, _, hPrepared⟩ := bind_eq_ok.mp hPrepared
  obtain ⟨pending, hPending, hPrepared⟩ := bind_eq_ok.mp hPrepared
  obtain ⟨⟨rows, written⟩, hRows, hWritten⟩ := bind_eq_ok.mp hPrepared
  cases hWritten
  obtain ⟨_, _, rfl⟩ := applyStatusTransition_none_ok hPending
  obtain ⟨_, rfl, _⟩ := updateExecutionOrder_eq_ok_iff.mp hRows
  rw [transitioned_of_cancelStep rfl]

/-- The reservation of the order can always be written back. -/
theorem writeReservation_settled (clock : Instant) (database : CanonicalDatabase)
    {reservation : CapitalReservation} {order : ExecutionOrderRecord}
    (hFound : lookup reservationId order.capitalReservationId
      database.capitalReservations = some reservation) :
    ∃ written, writeReservation (settleCancelledReservation clock order reservation) database =
      .ok ((), written) := by
  have hKept : (settleCancelledReservation clock order reservation).reservationId =
        reservation.reservationId ∧
      (settleCancelledReservation clock order reservation).version = reservation.version := by
    unfold settleCancelledReservation consume CapitalReservation.release
    dsimp only
    split <;> split <;> try split
    all_goals exact ⟨rfl, rfl⟩
  have hStored : lookup reservationId
      (settleCancelledReservation clock order reservation).reservationId
      database.capitalReservations = some reservation := by
    rw [hKept.1, lookup_key hFound]
    exact hFound
  unfold writeReservation updateReservation
  rw [hStored]
  dsimp only
  rw [if_pos hKept.2.symm]
  exact ⟨_, rfl⟩

/-- The answered order can be written over the journaled one. -/
theorem CancelJournaled.canUpdate (h : CancelJournaled request record cancelling before database)
    (hConsistent : answered.Consistent) (hSame : SameClaims cancelling answered) :
    CanUpdate database.executionOrders answered answered.version where
  consistent := hConsistent
  stored := by
    refine ⟨cancelling, ?_, hSame.environment.symm, hSame.accountNo.symm, hSame.symbol.symm,
      hSame.version.symm⟩
    rw [hSame.clientOrderId, h.clientOrderId]
    exact h.stored
  identity := by
    intro row hRow key hKey hOther
    rw [hSame.identity] at hKey
    rw [hSame.clientOrderId]
    exact h.identity row hRow key hKey hOther
  adoption := by
    intro row hRow key hKey hOther
    rw [hSame.adoption] at hKey
    rw [hSame.clientOrderId]
    exact h.adoption row hRow key hKey hOther

private theorem written_iff {α : Type} {value stored : α} {after : CanonicalDatabase} :
    (∃ written, (Except.ok (value, after) : Except Raised (α × CanonicalDatabase)) =
      .ok (stored, written)) ↔ stored = value := by
  constructor
  · rintro ⟨_, hWritten⟩
    cases hWritten
    rfl
  · rintro rfl
    exact ⟨_, rfl⟩

/-- The transaction after the answer stores the order unless it ends a reserved one and the
reservation cannot be read. -/
theorem recordCancelSuccess_eq_ok_iff {stored : ExecutionOrderRecord}
    (h : CancelJournaled request record cancelling before database)
    (hConsistent : answered.Consistent) (hSame : SameClaims cancelling answered) :
    (∃ written, recordCancelSuccess request answers release answered database =
        .ok (stored, written)) ↔
      stored = { answered with version := answered.version + 1 } ∧
        (answered.status = .cancelled ∨ answered.status = .filled →
          answered.capitalReservationId ≠ "" → release = true →
            answers.reservationAnswered = true) := by
  obtain ⟨versioned, hVersioned⟩ : ∃ versioned : ExecutionOrderRecord,
      versioned = { answered with version := answered.version + 1 } := ⟨_, rfl⟩
  have hOrder : updateExecutionOrder database.executionOrders answered answered.version =
      .ok (store ExecutionOrderRecord.clientOrderId versioned database.executionOrders,
        versioned) :=
    updateExecutionOrder_eq_ok_iff.mpr ⟨h.canUpdate hConsistent hSame, hVersioned, rfl⟩
  obtain ⟨command, hCommand, hRequested⟩ := h.command
  obtain ⟨responded, hResponse⟩ : ∃ responded, updateCommandResponse database.executionCommands
      (cancelKey request.cancelCommandId) .acknowledged none = .ok responded := by
    unfold updateCommandResponse
    rw [hCommand]
    exact ⟨_, if_pos ⟨hRequested, rfl⟩⟩
  rw [← hVersioned]
  unfold recordCancelSuccess writeOrder writeResponse
  simp only [hOrder, hResponse, bind, Except.bind, pure, Except.pure]
  by_cases hEnds : (answered.status = .cancelled ∨ answered.status = .filled) ∧
      answered.capitalReservationId ≠ "" ∧ release = true
  · rw [if_pos hEnds]
    by_cases hAnswered : answers.reservationAnswered = true
    · rw [if_pos hAnswered, and_iff_left (fun _ _ _ => hAnswered)]
      cases hFound : lookup reservationId answered.capitalReservationId
          database.capitalReservations with
      | none => exact written_iff
      | some reservation =>
        dsimp only
        split
        · obtain ⟨released, hReleased⟩ := writeReservation_settled answers.clock
            { database with
              executionCommands := responded.1
              executionOrders := store ExecutionOrderRecord.clientOrderId versioned
                database.executionOrders } hFound
          rw [hReleased]
          exact written_iff
        · exact written_iff
    · rw [if_neg hAnswered]
      simp [hEnds, hAnswered]
  · rw [if_neg hEnds]
    rw [and_iff_left (fun hStatus hReserved hRelease =>
      absurd ⟨hStatus, hReserved, hRelease⟩ hEnds)]
    exact written_iff

/-- A cancel that is answered loses no fill exactly when the answer fits the order and the
transaction after it stores it. -/
theorem doCancel_keepsFills_iff (hPassed : CancelPassed request answers permissionCheck record world
    cancelling database) :
    KeepsFills record.filledQuantity
        (doCancel request { answers with broker := .returned snapshot } permissionCheck release
          record world).1 ↔
      ResponseFits record snapshot ∧ AnswerStored answers release record snapshot := by
  have hPassed' : CancelPassed request { answers with broker := .returned snapshot } permissionCheck
      record world cancelling database := { hPassed with }
  have hJournaled := hPassed.journaled
  have hCancelling := hPassed.cancelling_eq
  have hPending : cancelling.status = .cancelPending := hJournaled.status
  have hFits : ResponseFits cancelling snapshot ↔ ResponseFits record snapshot := by
    rw [hCancelling]
    rfl
  have hPrevious : cancelling.filledQuantity = record.filledQuantity := by
    rw [hCancelling]
  have hMerge := cancelResponse_keepsFills_iff answers.now snapshot
    hJournaled.consistent hPending
  rw [hPassed'.doCancel rfl, ← hFits, ← hMerge, hPrevious]
  show KeepsFills _ ((do
    let answered ← ofExcept (cancelResponse answers.now cancelling snapshot)
    persistOrRaiseAmbiguous _ (transaction answers.persist _) : Gateway ExecutionOrderRecord)
      (cancelEntered world cancelling database)).1 ↔ _
  cases hResponse : cancelResponse answers.now cancelling snapshot with
  | error =>
    constructor
    · rintro ⟨after, hAfter, _⟩
      cases hAfter
    · rintro ⟨⟨after, hAfter, _⟩, _⟩
      cases hAfter
  | ok =>
    obtain ⟨hConsistent, filled, remaining, price, status, state, rfl, hEnded⟩ :=
      cancelResponse_ok hPending hResponse
    have hReserved : cancelling.capitalReservationId = record.capitalReservationId := by
      rw [hCancelling]
    have hReturned : ∀ stored, (persistOrRaiseAmbiguous
        ("cancel '" ++ request.clientOrderId ++ "' success persistence")
        (transaction answers.persist (recordCancelSuccess request
          { answers with broker := .returned snapshot } release
          { withFills cancelling filled remaining price with
            status := status, recoveryState := state }))
        (cancelEntered world cancelling database)).1 = .returned stored ↔
        stored = { withFills cancelling filled remaining price with
          status := status, recoveryState := state, version := cancelling.version + 1 } ∧
        AnswerStored answers release record snapshot := by
      intro stored
      rw [persistOrRaiseAmbiguous_returned_iff, transaction_returned_iff]
      show _ ∧ (∃ written, recordCancelSuccess request _ release _ database = _) ↔ _
      rw [recordCancelSuccess_eq_ok_iff hJournaled hConsistent ⟨rfl, rfl, rfl, rfl, rfl, rfl, rfl⟩]
      show _ ∧ _ ∧ (status = .cancelled ∨ status = .filled →
        cancelling.capitalReservationId ≠ "" → _) ↔ _
      rw [hEnded, hReserved]
      exact and_left_comm
    constructor
    · rintro ⟨after, hAfter, _, hKept⟩
      obtain ⟨rfl, hAnswerStored⟩ := (hReturned after).mp hAfter
      exact ⟨⟨_, rfl, hConsistent, hKept⟩, hAnswerStored⟩
    · rintro ⟨⟨after, hAfter, _, hKept⟩, hAnswerStored⟩
      cases hAfter
      exact ⟨_, (hReturned _).mpr ⟨rfl, hAnswerStored⟩, hConsistent.versioned _, hKept⟩

end Call

/-! ## `_apply_authoritative_cancel_snapshot` -/

/-- What an inquiry row can be merged with.  A row that rejects an order without an exact
identity takes the identity away, and then there must be no number left. -/
def InquiryFits (record : ExecutionOrderRecord) (snapshot : BrokerOrderStatusSnapshot) : Prop :=
  ∀ target, inquiryTarget snapshot.status = some target →
    (if target = .partiallyFilled then ReportedFit record snapshot
      else max record.filledQuantity snapshot.filledQuantity ≤ record.submittedQuantity) ∧
    (target = .rejected → record.brokerIdentityStatus = .ambiguous → record.brokerOrderId = "")

/-- The row settles the order: it is in the row's status, or may get there. -/
def IsSettledBy (record : ExecutionOrderRecord) (snapshot : BrokerOrderStatusSnapshot) : Prop :=
  ∃ target, inquiryTarget snapshot.status = some target ∧
    (target = record.status ∨ target ∈ allowedStatusTransitions record.status)

section Inquiry

variable {now : IsoText} {record : ExecutionOrderRecord} {target : ExecutionOrderStatus}
  {snapshot : BrokerOrderStatusSnapshot}

/-- The order in the status of a row. -/
def inInquiryStatus (record : ExecutionOrderRecord) (target : ExecutionOrderStatus) :
    ExecutionOrderRecord :=
  { record with
    status := target
    brokerIdentityStatus :=
      if target = .rejected ∧ record.brokerIdentityStatus = .ambiguous then
        .noBrokerOrderConfirmed
      else record.brokerIdentityStatus }

theorem transitioned_of_inquiry (now : IsoText)
    (hTarget : inquiryTarget snapshot.status = some target) :
    transitioned record target now = inInquiryStatus record target := by
  cases hStatus : snapshot.status <;> rw [hStatus] at hTarget <;> cases hTarget <;>
    simp [transitioned, inInquiryStatus]

theorem rejectable_of_ambiguous (h : record.Consistent)
    (hAmbiguous : record.brokerIdentityStatus = .ambiguous) :
    .rejected ∈ allowedStatusTransitions record.status ∧ record.status ≠ .rejected := by
  have hLegal := h.identity
  rw [hAmbiguous] at hLegal
  cases hStatus : record.status <;> rw [hStatus] at hLegal <;> revert hLegal <;> decide

/-- The identity in the status of the row is one of that status. -/
theorem legalIdentity_of_inquiry {status : ExecutionOrderStatus}
    {identity : BrokerIdentityStatus} (hTarget : inquiryTarget snapshot.status = some target)
    (hAllowed : target ∈ allowedStatusTransitions status)
    (hIdentity : identity ∈ legalIdentityStatuses status) :
    (if target = .rejected ∧ identity = .ambiguous then .noBrokerOrderConfirmed else identity) ∈
      legalIdentityStatuses target := by
  have hNamed : target = .cancelled ∨ target = .filled ∨ target = .partiallyFilled ∨
      target = .rejected ∨ target = .expired := by
    cases hStatus : snapshot.status <;> rw [hStatus] at hTarget <;> cases hTarget <;> simp
  rcases hNamed with rfl | rfl | rfl | rfl | rfl <;> cases status <;>
    simp [allowedStatusTransitions, legalIdentityStatuses] at hAllowed hIdentity ⊢ <;>
    simp [hIdentity]

/-- In the status of the row the order is consistent just when its quantities are and a
rejection leaves no number behind. -/
theorem inInquiryStatus_consistent_iff (hTarget : inquiryTarget snapshot.status = some target)
    (hAllowed : target ∈ allowedStatusTransitions record.status)
    (hIdentity : record.brokerIdentityStatus ∈ legalIdentityStatuses record.status) :
    (inInquiryStatus record target).Consistent ↔
      record.Consistent ∧
        (target = .rejected → record.brokerIdentityStatus = .ambiguous →
          record.brokerOrderId = "") := by
  have hLegal := legalIdentity_of_inquiry hTarget hAllowed hIdentity
  constructor
  · intro hMoved
    have hNone : (inInquiryStatus record target).brokerIdentityStatus =
        .noBrokerOrderConfirmed → record.brokerOrderId = "" := hMoved.noBrokerOrder
    constructor
    · refine { hMoved with identity := hIdentity, noBrokerOrder := ?_ }
      intro hStatus
      apply hNone
      simp [inInquiryStatus, hStatus]
    · intro hRejected hAmbiguous
      apply hNone
      simp [inInquiryStatus, hRejected, hAmbiguous]
  · rintro ⟨h, hNumber⟩
    refine { h with identity := hLegal, noBrokerOrder := ?_ }
    intro hStatus
    by_cases hBoth : target = .rejected ∧ record.brokerIdentityStatus = .ambiguous
    · exact hNumber hBoth.1 hBoth.2
    · apply h.noBrokerOrder
      simpa [inInquiryStatus, hBoth] using hStatus

theorem movedByInquiry_eq_ok_iff {moved : ExecutionOrderRecord}
    (hTarget : inquiryTarget snapshot.status = some target) :
    movedByInquiry now record target = .ok moved ↔
      if target = record.status then moved = record
      else target ∈ allowedStatusTransitions record.status ∧
        (inInquiryStatus record target).Consistent ∧ moved = inInquiryStatus record target := by
  unfold movedByInquiry
  by_cases hSame : target = record.status
  · rw [if_neg (not_not.mpr hSame), if_pos hSame]
    exact ⟨fun h => (Except.ok.inj h).symm, fun h => h ▸ rfl⟩
  · rw [if_pos hSame, if_neg hSame, ← transitioned_of_inquiry now hTarget]
    constructor
    · intro h
      obtain ⟨hAllowed, hConsistent, rfl⟩ := applyStatusTransition_none_ok h
      exact ⟨hAllowed, hConsistent, rfl⟩
    · rintro ⟨hAllowed, hConsistent, rfl⟩
      refine applyStatusTransition_none_eq hAllowed ?_ hConsistent
      rintro rfl
      cases hStatus : snapshot.status <;> rw [hStatus] at hTarget <;> cases hTarget

/-- The order out of DISCOVERING. -/
def outOfDiscovering (record : ExecutionOrderRecord) : ExecutionOrderRecord :=
  { record with
    recoveryState := if record.recoveryState = .discovering then .none_ else record.recoveryState }

theorem settledByInquiry_eq_ok_iff :
    (settledByInquiry now record target = .ok settled ∧ settled.Consistent) ↔
      ∃ moved, movedByInquiry now record target = .ok moved ∧ moved.Consistent ∧
        settled = outOfDiscovering moved := by
  unfold settledByInquiry
  constructor
  · rintro ⟨h, hConsistent⟩
    obtain ⟨moved, hMoved, h⟩ := bind_eq_ok.mp h
    split at h
    · rename_i hDiscovering
      obtain ⟨_, _, rfl⟩ := transitionRecoveryState_eq_ok_iff.mp h
      exact ⟨moved, hMoved, { hConsistent with }, by simp [outOfDiscovering, hDiscovering]⟩
    · rename_i hOther
      cases h
      exact ⟨settled, hMoved, hConsistent, by simp [outOfDiscovering, hOther]⟩
  · rintro ⟨moved, hMoved, hConsistent, rfl⟩
    have hOut : (outOfDiscovering moved).Consistent := { hConsistent with }
    refine ⟨bind_eq_ok.mpr ⟨moved, hMoved, ?_⟩, hOut⟩
    by_cases hDiscovering : moved.recoveryState = .discovering
    · have hEq : outOfDiscovering moved = { moved with recoveryState := .none_ } := by
        simp [outOfDiscovering, hDiscovering]
      rw [if_pos hDiscovering]
      refine transitionRecoveryState_eq_ok_iff.mpr ⟨?_, hEq ▸ hOut, hEq⟩
      rw [hDiscovering]
      decide
    · rw [if_neg hDiscovering]
      simp [outOfDiscovering, hDiscovering, pure, Except.pure]

/-- The order is settled exactly when its quantities fit and a rejection leaves no number
behind. -/
theorem settledByInquiry_consistent_iff (hTarget : inquiryTarget snapshot.status = some target)
    (hReached : target = record.status ∨ target ∈ allowedStatusTransitions record.status)
    (hIdentity : record.brokerIdentityStatus ∈ legalIdentityStatuses record.status) :
    (∃ settled, settledByInquiry now record target = .ok settled ∧ settled.Consistent) ↔
      record.Consistent ∧
        (target = .rejected → record.brokerIdentityStatus = .ambiguous →
          record.brokerOrderId = "") := by
  have hMoves : (∃ settled, settledByInquiry now record target = .ok settled ∧
      settled.Consistent) ↔
        ∃ moved, movedByInquiry now record target = .ok moved ∧ moved.Consistent := by
    simp only [settledByInquiry_eq_ok_iff]
    constructor
    · rintro ⟨_, moved, hMoved, hConsistent, _⟩
      exact ⟨moved, hMoved, hConsistent⟩
    · rintro ⟨moved, hMoved, hConsistent⟩
      exact ⟨_, moved, hMoved, hConsistent, rfl⟩
  rw [hMoves]
  simp only [movedByInquiry_eq_ok_iff hTarget]
  by_cases hSame : target = record.status
  · simp only [if_pos hSame, exists_eq_left]
    refine ⟨fun h => ⟨h, fun hRejected hAmbiguous => ?_⟩, And.left⟩
    exact absurd (hSame.symm.trans hRejected) (rejectable_of_ambiguous h hAmbiguous).2
  · have hAllowed := hReached.resolve_left hSame
    rw [← inInquiryStatus_consistent_iff hTarget hAllowed hIdentity]
    simp only [if_neg hSame]
    constructor
    · rintro ⟨_, ⟨_, hConsistent, _⟩, _⟩
      exact hConsistent
    · intro hConsistent
      exact ⟨_, ⟨hAllowed, hConsistent, rfl⟩, hConsistent⟩

theorem settledByInquiry_keeps (hTarget : inquiryTarget snapshot.status = some target)
    (h : settledByInquiry now record target = .ok settled) (hConsistent : settled.Consistent) :
    SameClaims record settled ∧ settled.filledQuantity = record.filledQuantity := by
  obtain ⟨moved, hMoved, _, rfl⟩ := settledByInquiry_eq_ok_iff.mp ⟨h, hConsistent⟩
  rw [movedByInquiry_eq_ok_iff hTarget] at hMoved
  split at hMoved
  · subst hMoved
    exact ⟨⟨rfl, rfl, rfl, rfl, rfl, rfl, rfl⟩, rfl⟩
  · obtain ⟨_, _, rfl⟩ := hMoved
    refine ⟨⟨rfl, rfl, rfl, rfl, rfl, ?_, rfl⟩, rfl⟩
    by_cases hBoth : target = .rejected ∧ record.brokerIdentityStatus = .ambiguous
    all_goals simp [identityKeyOrNone, outOfDiscovering, inInquiryStatus, hBoth]

/-- The quantities of a row, on top of those of the order. -/
theorem inquiryFills_consistent_iff (h : record.Consistent) :
    (inquiryFills record target snapshot).Consistent ↔
      if target = .partiallyFilled then ReportedFit record snapshot
      else max record.filledQuantity snapshot.filledQuantity ≤ record.submittedQuantity := by
  have hFilled := h.filledNonneg
  refine (withFills_consistent_iff h _ _ _).trans ?_
  unfold ReportedFit
  split
  · split <;> omega
  · omega

variable (hSound : SoundOrders world.database.executionOrders)
  (hStored : getExecutionOrder world.database.executionOrders record.clientOrderId = some record)
include hSound hStored

/-- Settling an order of the table and writing it back: it returns when the order can be
settled and the write is committed. -/
theorem settle_returned_iff {filled : ExecutionOrderRecord}
    (hTarget : inquiryTarget snapshot.status = some target) (hSame : SameClaims record filled)
    (hKept : record.filledQuantity ≤ filled.filledQuantity) :
    (∃ settled after,
      ((do
        let settled ← ofExcept (settledByInquiry now filled target)
        let written ← transaction write (writeOrder settled)
        pure (true, written) : Gateway (Bool × ExecutionOrderRecord)) world).1 =
          .returned (settled, after) ∧
        after.Consistent ∧ record.filledQuantity ≤ after.filledQuantity) ↔
      (∃ settled, settledByInquiry now filled target = .ok settled ∧ settled.Consistent) ∧
        write = .committed := by
  constructor
  · rintro ⟨flag, after, hRun, _⟩
    obtain ⟨settled, between, hSettled, hRest⟩ := Procedure.bind_eq_returned.mp (Prod.ext hRun rfl)
    obtain ⟨written, _, hWritten, _⟩ := Procedure.bind_eq_returned.mp hRest
    obtain ⟨hCommitted, _, hOrder⟩ := transaction_returned_iff.mp (congrArg Prod.fst hWritten)
    obtain ⟨_, hRows, _⟩ := bind_eq_ok.mp hOrder
    have hConsistent := (updateExecutionOrder_eq_ok_iff.mp hRows).1.consistent
    refine ⟨⟨settled, ?_, hConsistent⟩, hCommitted⟩
    cases hResult : settledByInquiry now filled target with
    | error =>
      rw [hResult] at hSettled
      cases hSettled
    | ok =>
      rw [hResult] at hSettled
      cases hSettled
      rfl
  · rintro ⟨⟨settled, hSettled, hConsistent⟩, rfl⟩
    obtain ⟨hClaims, hFilled⟩ := settledByInquiry_keeps hTarget hSettled hConsistent
    have hAll := hSame.trans hClaims
    have hCan := hSound.canUpdate hStored hConsistent hAll.clientOrderId
      ⟨hAll.environment.symm, hAll.accountNo.symm, hAll.symbol.symm⟩ hAll.identity hAll.adoption
    rw [← hAll.version] at hCan
    have hWritten : writeOrder settled world.database =
        .ok ({ settled with version := settled.version + 1 }, _) :=
      bind_eq_ok.mpr ⟨_, updateExecutionOrder_eq_ok_iff.mpr ⟨hCan, rfl, rfl⟩, rfl⟩
    refine ⟨true, { settled with version := settled.version + 1 }, ?_, hConsistent.versioned _,
      hFilled ▸ hKept⟩
    have hResult : ofExcept (settledByInquiry now filled target) world =
        (.returned settled, world) := by
      rw [hSettled]
      rfl
    rw [bind_returned hResult, bind_returned (transaction_committed hWritten)]
    rfl

/-- An inquiry row that is merged loses no fill exactly when it fits the order and, if it
settles the order, the write is committed. -/
theorem applyAuthoritativeCancelSnapshot_keepsFills_iff :
    (∃ settled after,
      (applyAuthoritativeCancelSnapshot now write record snapshot world).1 =
          .returned (settled, after) ∧
        after.Consistent ∧ record.filledQuantity ≤ after.filledQuantity) ↔
      InquiryFits record snapshot ∧ (IsSettledBy record snapshot → write = .committed) := by
  have h := hSound.consistent record (lookup_mem hStored)
  unfold applyAuthoritativeCancelSnapshot InquiryFits IsSettledBy
  cases hTarget : inquiryTarget snapshot.status with
  | none =>
    refine iff_of_true ⟨false, record, rfl, h, le_refl _⟩ ?_
    simp
  | some target =>
    simp only [Option.some.injEq, forall_eq', exists_eq_left']
    rw [← inquiryFills_consistent_iff h]
    have hKept : record.filledQuantity ≤
        (inquiryFills record target snapshot).filledQuantity := le_max_left _ _
    by_cases hReached : target = record.status ∨ target ∈ allowedStatusTransitions record.status
    · have hSettles : (∃ settled, settledByInquiry now (inquiryFills record target snapshot)
          target = .ok settled ∧ settled.Consistent) ↔
            (inquiryFills record target snapshot).Consistent ∧
              (target = .rejected → record.brokerIdentityStatus = .ambiguous →
                record.brokerOrderId = "") :=
        settledByInquiry_consistent_iff hTarget hReached h.identity
      rw [if_neg (by tauto), ← hSettles, forall_prop_of_true hReached]
      exact settle_returned_iff hSound hStored hTarget ⟨rfl, rfl, rfl, rfl, rfl, rfl, rfl⟩ hKept
    · rw [if_pos (by tauto)]
      have hFree : target = .rejected → record.brokerIdentityStatus = .ambiguous →
          record.brokerOrderId = "" := by
        rintro rfl hAmbiguous
        exact absurd (Or.inr (rejectable_of_ambiguous h hAmbiguous).1) hReached
      rw [and_iff_left hFree, and_iff_left (fun hSettled => absurd hSettled hReached)]
      constructor
      · rintro ⟨_, after, ⟨⟩, hConsistent, _⟩
        exact hConsistent
      · intro hConsistent
        exact ⟨false, _, rfl, hConsistent, hKept⟩

end Inquiry

end QuantApp.Services
