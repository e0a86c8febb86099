import QuantApp.Services.SubmissionRun

/-!
# One submission across the broker boundary

From the SUBMITTING record on (`crossSubmitBoundary`): a final gate that refuses
retires the three rows, and whatever the broker call ends with is written to the
same rows or not at all.  `SubmissionEnd` lists how a submission can end.
-/

namespace QuantApp.Services

open Core Verified Verified.Procedure
open Ensures (attempted ofExcept of_run_eq raise)

variable {database before after : CanonicalDatabase} {row hold : CapitalReservation}
  {world : GatewayWorld} {now : IsoText} {clock : Instant} {request : SubmitExecutionRequest}
  {order : ExecutionOrderRecord} {left : GatewayWorld → Prop} {done : Unit} {error : BrokerError}
  {submission : BrokerSubmissionResult}

/-! ## The final gates and the answers of the broker -/

theorem quiet_finalSubmitGates (request : SubmitExecutionRequest) (answers : SubmitAnswers) :
    Quiet (finalSubmitGates request answers) := by
  unfold finalSubmitGates
  refine (quiet_gate _).bind fun _ => ?_
  refine (quiet_requireVerifiedLease _ _).bind fun _ => ?_
  refine (quiet_gate _).bind fun _ => ?_
  exact (quiet_gate _).bind fun _ => quiet_gate _

/-- The exception the gateway sees after the dispatch is one the broker classifies as
definitive. -/
def MutationAnswer.reportsDefinitive {α : Type} : MutationAnswer α → Bool
  | .raised error | .observerRaised _ error => !error.isAmbiguous
  | _ => false

/-- The order may still be live at the broker. -/
def mayBeLive (status : ExecutionOrderStatus) : Bool :=
  status ∈ [.submitting, .unknownSubmissionState, .acknowledged]

/-- How the call ends is not the exception of a retired submission. -/
def NotRetired {α : Type} (outcome : Outcome Raised α) : Prop :=
  ∀ error, outcome = .raised error → NotAborted error

/-- The outcome of the broker call has been recorded, or has not: from `entered` on, where
the broker call had ended. -/
structure Recorded (request : SubmitExecutionRequest) (rejected : Bool)
    (before entered after : GatewayWorld) : Prop where
  history : after.history = entered.history
  journal : after.journal = entered.journal
  rows : ∃ order status hold,
    SubmissionRows request before.database order status hold after.database ∧
      if rejected then order.status = .rejected
      else mayBeLive order.status = true ∧
        HoldsAll (requestedNotional request (submittedPrice request)) hold

/-- A transaction whose body succeeds leaves what its outcome says. -/
theorem transaction_exact {α : Type} {outcome : CommitOutcome}
    {body : CanonicalDatabase → Except Raised (α × CanonicalDatabase)} {value : α}
    (hBody : body world.database = .ok (value, database)) :
    Ensures (transaction outcome body) world
      (fun _ after => after =
        if outcome.isWritten then { world with database := database } else world) := by
  unfold Ensures transaction
  rw [hBody]
  cases outcome <;> rfl

theorem SubmissionRows.writeResponse_succeeds
    (h : SubmissionRows request before order .requested hold after) (answer : CommandStatus) :
    ∃ written, writeResponse (submitKey request.clientOrderId) answer none after =
      .ok ((), written) := by
  obtain ⟨command, hKey, hStatus, hRows⟩ := h.commands
  have hFresh := h.freshCommand
  have hFound : getCommand after.executionCommands (submitKey request.clientOrderId) =
      some command := by
    rw [← hKey] at hFresh ⊢
    rw [hRows]
    exact lookup_append_fresh hFresh
  unfold writeResponse updateCommandResponse
  rw [hFound]
  dsimp only
  rw [if_pos ⟨hStatus, rfl⟩]
  exact ⟨_, rfl⟩

/-- A reservation that is stored in the version it was read in can be rewritten. -/
theorem SubmissionRows.writeReservation_succeeds {status : CommandStatus}
    {reservation : CapitalReservation} (h : SubmissionRows request before order status hold after)
    (hReservation : reservation.reservationId = order.capitalReservationId)
    (hVersion : hold.version = reservation.version) :
    ∃ written, writeReservation reservation after = .ok ((), written) := by
  unfold writeReservation updateReservation
  rw [hReservation, h.hold]
  dsimp only
  rw [if_pos hVersion]
  exact ⟨_, rfl⟩

section Boundary

variable {request : SubmitExecutionRequest} {answers : SubmitAnswers}
  {before middle : GatewayWorld} {held : CapitalReservation} {record : ExecutionOrderRecord}

theorem ensures_persistOrRaiseAmbiguous {α : Type} {context : String} {persist : Gateway α}
    {returned : α → GatewayWorld → Prop}
    (h : Ensures persist world (outcomes returned (fun _ => left) left)) :
    Ensures (persistOrRaiseAmbiguous context persist) world
      (outcomes returned (fun error after => NotAborted error ∧ left after) left) := by
  have hAttempt : Ensures (Procedure.attempt persist) world
      (outcomes (afterAttempt returned (fun _ => left))
        (fun error after => NotAborted error ∧ left after) left) := attempted h
  unfold persistOrRaiseAmbiguous
  refine hAttempt.seq ?_
  intro result after hResult
  cases result with
  | ok => exact hResult
  | error =>
    dsimp only
    split
    · rename_i hClass
      exact raise ⟨by simp [NotAborted, hClass], hResult⟩
    · exact raise ⟨by simp [NotAborted], hResult⟩

theorem recordSubmissionFailure_ok {ambiguous : Bool} {target : ExecutionOrderStatus}
    (hRows : SubmissionRows request before.database record .requested row middle.database)
    (hHeld : held.reservationId = record.capitalReservationId)
    (h : recordSubmissionFailure request clock ambiguous (transitioned record target now) held
      middle.database = .ok (done, database)) :
    ∃ order status hold, SubmissionRows request before.database order status hold database ∧
      order.status = target ∧ (ambiguous = true → hold = row) := by
  unfold recordSubmissionFailure at h
  obtain ⟨⟨written, withOrder⟩, hOrder, h⟩ := bind_eq_ok.mp h
  obtain ⟨⟨_, withResponse⟩, hResponse, h⟩ := bind_eq_ok.mp h
  have hNamed : (transitioned record target now).clientOrderId = request.clientOrderId :=
    hRows.named
  obtain ⟨hWritten, hRowsOrder⟩ := hRows.writeOrder_ok hNamed rfl hOrder
  have hRowsResponse := hRowsOrder.writeResponse_ok hResponse
  have hStatus : written.status = target := by
    rw [hWritten]
    rfl
  cases ambiguous with
  | true =>
    cases h
    exact ⟨written, _, row, hRowsResponse, hStatus, fun _ => rfl⟩
  | false =>
    have hReservation : (held.release clock).reservationId = written.capitalReservationId := by
      rw [hWritten]
      exact hHeld
    exact ⟨written, _, _, hRowsResponse.writeReservation_ok hReservation h, hStatus,
      fun hTrue => nomatch hTrue⟩

/-- The order store accepts a change of an order it holds, when it has no identity. -/
theorem updateExecutionOrder_eq {rows : List ExecutionOrderRecord}
    {changed stored : ExecutionOrderRecord} (hConsistent : changed.Consistent)
    (hStored : getExecutionOrder rows changed.clientOrderId = some stored)
    (hScope : (stored.environment, stored.accountNo, stored.symbol) =
      (changed.environment, changed.accountNo, changed.symbol))
    (hVersion : stored.version = changed.version)
    (hIdentity : changed.brokerOrderId = "") (hAdopted : changed.adoptedFromExternalOrderId = "") :
    updateExecutionOrder rows changed changed.version =
      .ok (store ExecutionOrderRecord.clientOrderId
        { changed with version := changed.version + 1 } rows,
        { changed with version := changed.version + 1 }) := by
  have hNoIdentity : checkBrokerIdentityConflict rows changed = .ok () := by
    simp [checkBrokerIdentityConflict, identityHolder, identityKeyOrNone, hIdentity]
  have hNoAdoption : checkAdoptionSourceOfUpdate rows changed = .ok () := by
    simp [checkAdoptionSourceOfUpdate, adoptionHolder, adoptionSourceOrNone, hAdopted]
  unfold updateExecutionOrder
  rw [(validateConsistency_eq_ok_iff changed).mpr hConsistent, hStored, hNoIdentity, hNoAdoption]
  simp only [Prod.mk.injEq] at hScope
  dsimp only
  show (if _ then _ else _) = _
  rw [if_neg (by simp [hScope]), if_neg (by simp [hVersion])]
  rfl

theorem InFlight.rejected (h : InFlight request record) (now : IsoText) :
    applyStatusTransition record .rejected none now =
        .ok (transitioned record .rejected now) ∧
      (transitioned record .rejected now).Consistent := by
  have hIdentity : (transitioned record .rejected now).brokerIdentityStatus =
      .noBrokerOrderConfirmed := by
    simp [transitioned, h.identity]
  have hConsistent : (transitioned record .rejected now).Consistent :=
    { identity := by
        rw [hIdentity, transitioned_status]
        decide
      noBrokerOrder := fun _ => by simp [transitioned, h.unidentified]
      applicationPermissions := h.consistent.applicationPermissions
      adoptedFrom := h.consistent.adoptedFrom
      submittedNonneg := h.consistent.submittedNonneg
      filledNonneg := h.consistent.filledNonneg
      remainingNonneg := h.consistent.remainingNonneg
      fillsFit := h.consistent.fillsFit
      attempt := h.consistent.attempt
      epoch := h.consistent.epoch }
  refine ⟨applyStatusTransition_none_eq ?_ (by decide) hConsistent, hConsistent⟩
  rw [h.status]
  decide

theorem recordSubmissionFailure_succeeds (hFlight : InFlight request record)
    (hRows : SubmissionRows request before.database record .requested row middle.database)
    (hVersion : row.version = held.version)
    (hHeld : held.reservationId = record.capitalReservationId) :
    ∃ database, recordSubmissionFailure request clock false (transitioned record .rejected now)
      held middle.database = .ok ((), database) := by
  have hStored : getExecutionOrder middle.database.executionOrders
      (transitioned record .rejected now).clientOrderId = some record := by
    have hOrder := hRows.order_stored
    rwa [← hFlight.named] at hOrder
  have hUpdate := updateExecutionOrder_eq (hFlight.rejected now).2 hStored rfl rfl
    (by simp [transitioned, hFlight.unidentified]) hFlight.notAdopted
  have hOrder : ∃ written withOrder, writeOrder (transitioned record .rejected now)
      middle.database = .ok (written, withOrder) := by
    unfold writeOrder
    rw [hUpdate]
    exact ⟨_, _, rfl⟩
  obtain ⟨written, withOrder, hOrder⟩ := hOrder
  have hNamed : (transitioned record .rejected now).clientOrderId = request.clientOrderId :=
    hFlight.named
  obtain ⟨hWritten, hRowsOrder⟩ := hRows.writeOrder_ok hNamed rfl hOrder
  obtain ⟨withResponse, hResponse⟩ := hRowsOrder.writeResponse_succeeds .failed
  have hReservation : (held.release clock).reservationId = written.capitalReservationId := by
    rw [hWritten]
    exact hHeld
  obtain ⟨database, hDatabase⟩ := (hRowsOrder.writeResponse_ok hResponse).writeReservation_succeeds
    hReservation hVersion
  refine ⟨database, ?_⟩
  exact bind_eq_ok.mpr ⟨_, hOrder, bind_eq_ok.mpr ⟨_, hResponse, hDatabase⟩⟩

section

variable {entered : GatewayWorld} (h : Journaled request before held record middle)
  (hDatabase : entered.database = middle.database)
include h hDatabase

theorem Journaled.recorded : Recorded request false before entered entered := by
  obtain ⟨row, hRows, hAll, _⟩ := h.rows
  rw [← hDatabase] at hRows
  exact ⟨rfl, rfl, record, .requested, row, hRows, by rw [h.inFlight.status]; rfl, hAll⟩

/-- The failure of an ambiguous broker call is recorded as such, or not at all. -/
theorem persistAmbiguous_ensures :
    Ensures (transaction answers.persist (recordSubmissionFailure request answers.clock true
      (transitioned record .unknownSubmissionState answers.now) held)) entered
      (outcomes (fun _ => Recorded request false before entered)
        (fun _ => Recorded request false before entered)
        (Recorded request false before entered)) := by
  obtain ⟨row, hRows, hAll, _⟩ := h.rows
  have hKept := h.recorded hDatabase
  refine transaction_ensures (fun _ _ => hKept) hKept hKept ?_
  intro done database hBody
  rw [hDatabase] at hBody
  obtain ⟨order, status, hold, hWritten, hStatus, hHold⟩ :=
    recordSubmissionFailure_ok hRows h.heldId hBody
  have hRecorded : Recorded request false before entered { entered with database := database } :=
    ⟨rfl, rfl, order, status, hold, hWritten, by rw [hStatus]; rfl, (hHold rfl).symm ▸ hAll⟩
  exact ⟨hRecorded, hRecorded, hRecorded⟩

/-- The failure that the broker classifies as definitive is recorded, or nothing is. -/
theorem persistRejected_ensures :
    Ensures (transaction answers.persist (recordSubmissionFailure request answers.clock false
      (transitioned record .rejected answers.now) held)) entered
      (fun _ => Recorded request answers.persist.isWritten before entered) := by
  obtain ⟨row, hRows, _, hVersion⟩ := h.rows
  have hSucceeds : ∃ database, recordSubmissionFailure request answers.clock false
      (transitioned record .rejected answers.now) held middle.database = .ok ((), database) :=
    recordSubmissionFailure_succeeds h.inFlight hRows hVersion h.heldId
  obtain ⟨database, hBody⟩ := hSucceeds
  obtain ⟨order, status, hold, hWritten, hStatus, _⟩ :=
    recordSubmissionFailure_ok hRows h.heldId hBody
  rw [← hDatabase] at hBody
  refine (transaction_exact hBody).imp ?_
  rintro _ after rfl
  cases hPersist : answers.persist.isWritten with
  | true => exact ⟨rfl, rfl, order, status, hold, hWritten, hStatus⟩
  | false => exact h.recorded hDatabase

theorem settleFailedSubmission_ensures :
    Ensures (settleFailedSubmission request answers held record error) entered
      (outcomes (fun _ => Recorded request
          (!error.isAmbiguous && answers.persist.isWritten) before entered)
        (fun raised after => NotAborted raised ∧ Recorded request
          (!error.isAmbiguous && answers.persist.isWritten) before entered after)
        (Recorded request (!error.isAmbiguous && answers.persist.isWritten) before entered)) := by
  unfold settleFailedSubmission
  cases hAmbiguous : error.isAmbiguous with
  | true =>
    have hKept : Recorded request (!true && answers.persist.isWritten) before entered entered :=
      h.recorded hDatabase
    refine Ensures.seq (?_ : Ensures _ _ (outcomes (fun failed next => next = entered ∧
        failed = transitioned record .unknownSubmissionState answers.now) _ _)) ?_
    · refine ofExcept (fun failed hOk =>
        ⟨rfl, (applyStatusTransition_none_ok hOk).2.2⟩) ?_
      exact fun raised hError =>
        ⟨errors_applyStatusTransition _ _ _ _ raised hError, hKept⟩
    rintro failed next ⟨rfl, rfl⟩
    refine (ensures_persistOrRaiseAmbiguous (persistAmbiguous_ensures h hDatabase)).seq ?_
    intro _ after hRecorded
    exact raise ⟨by simp [NotAborted], hRecorded⟩
  | false =>
    have hRejected : applyStatusTransition record
        (if false = true then .unknownSubmissionState else .rejected) none answers.now =
          .ok (transitioned record .rejected answers.now) :=
      (h.inFlight.rejected answers.now).1
    rw [hRejected]
    refine (ensures_persistOrRaiseAmbiguous
      (ensures_outcomes.mp (persistRejected_ensures h hDatabase))).seq ?_
    intro _ after hRecorded
    exact raise ⟨by simp [NotAborted], hRecorded⟩

end

theorem recordSubmissionSuccess_ok {acknowledged written : ExecutionOrderRecord}
    (hRows : SubmissionRows request before.database record .requested row middle.database)
    (hNamed : acknowledged.clientOrderId = request.clientOrderId)
    (hReservation : acknowledged.capitalReservationId = record.capitalReservationId)
    (h : recordSubmissionSuccess request acknowledged middle.database = .ok (written, database)) :
    written.status = acknowledged.status ∧
      SubmissionRows request before.database written .acknowledged row database := by
  unfold recordSubmissionSuccess at h
  obtain ⟨⟨order, withOrder⟩, hOrder, h⟩ := bind_eq_ok.mp h
  obtain ⟨⟨_, withResponse⟩, hResponse, h⟩ := bind_eq_ok.mp h
  cases h
  obtain ⟨hWritten, hRowsOrder⟩ := hRows.writeOrder_ok hNamed hReservation hOrder
  exact ⟨by rw [hWritten], hRowsOrder.writeResponse_ok hResponse⟩

theorem settleAcceptedSubmission_ensures {entered : GatewayWorld}
    (h : Journaled request before held record middle)
    (hDatabase : entered.database = middle.database) :
    Ensures (settleAcceptedSubmission request answers record submission) entered
      (outcomes (fun _ => Recorded request false before entered)
        (fun raised after => NotAborted raised ∧ Recorded request false before entered after)
        (Recorded request false before entered)) := by
  obtain ⟨row, hRows, hAll, _⟩ := h.rows
  have hKept := h.recorded hDatabase
  unfold settleAcceptedSubmission
  refine Ensures.seq (?_ : Ensures _ _ (outcomes (fun acknowledged next => next = entered ∧
      acknowledged.status = .acknowledged ∧
      acknowledged.clientOrderId = record.clientOrderId ∧
      acknowledged.capitalReservationId = record.capitalReservationId) _ _)) ?_
  · refine ofExcept (fun acknowledged hOk => ?_) (fun raised hError =>
      ⟨errors_applyStatusTransition _ _ _ _ raised hError, hKept⟩)
    obtain ⟨_, _, identified, hIdentity, rfl⟩ := applyStatusTransition_ok hOk
    refine ⟨rfl, rfl, ?_⟩
    cases hIdentity with
    | same | marked => exact ⟨rfl, rfl⟩
  rintro acknowledged next ⟨rfl, hStatus, hId, hReservation⟩
  refine ensures_persistOrRaiseAmbiguous (transaction_ensures (fun _ _ => hKept) hKept hKept ?_)
  intro written database hBody
  rw [hDatabase] at hBody
  obtain ⟨hWrittenStatus, hWritten⟩ :=
    recordSubmissionSuccess_ok hRows (hId.trans h.inFlight.named) hReservation hBody
  have hRecorded : Recorded request false before next { next with database := database } :=
    ⟨rfl, rfl, written, .acknowledged, row, hWritten, by rw [hWrittenStatus, hStatus]; rfl, hAll⟩
  exact ⟨hRecorded, hRecorded, hRecorded⟩

/-- The submission was retired before the broker was entered. -/
structure Retired (request : SubmitExecutionRequest) (before after : GatewayWorld) : Prop where
  history : after.history = before.history
  journal : after.journal = before.journal
  rows : ∃ order hold,
    SubmissionRows request before.database order .preBrokerAborted hold after.database ∧
      order.status = .cancelledLocally ∧ order.brokerOrderId = "" ∧ hold.status = .released

/-- The broker was entered once, with the order on its way, and its answer was recorded or
not. -/
structure Entered (request : SubmitExecutionRequest) (answers : SubmitAnswers)
    (before after : GatewayWorld) : Prop where
  history : ∃ record, InFlight request record ∧ after.history = before.history ++
    [.submitEntered request (before.database.executionOrders ++ [record])]
  journal : after.journal = before.journal
  rows : ∃ order status hold,
    SubmissionRows request before.database order status hold after.database ∧
      if answers.broker.reportsDefinitive && answers.persist.isWritten then
        order.status = .rejected
      else mayBeLive order.status = true ∧
        HoldsAll (requestedNotional request (submittedPrice request)) hold

/-- How a submission ends, `reached` telling whether it comes to its broker call. -/
inductive SubmissionEnd (request : SubmitExecutionRequest) (answers : SubmitAnswers)
    (reached : Prop) (before : GatewayWorld) :
    Outcome Raised ExecutionOrderRecord → GatewayWorld → Prop
  | stopped {outcome : Outcome Raised ExecutionOrderRecord} {after : GatewayWorld}
      (hReached : ¬ (reached ∧ answers.broker.isEntered = true)) (hOutcome : NotRetired outcome)
      (hOpened : Opened request before after) :
        SubmissionEnd request answers reached before outcome after
  | retired {outcome : Outcome Raised ExecutionOrderRecord} {after : GatewayWorld}
      (hReached : ¬ (reached ∧ answers.broker.isEntered = true))
      (hRetired : Retired request before after) :
      SubmissionEnd request answers reached before outcome after
  | entered {outcome : Outcome Raised ExecutionOrderRecord} {after : GatewayWorld}
      (hReached : reached ∧ answers.broker.isEntered = true) (hOutcome : NotRetired outcome)
      (hEntered : Entered request answers before after) :
      SubmissionEnd request answers reached before outcome after

theorem notRetired_raised {α : Type} {error : Raised} (h : NotAborted error) :
    NotRetired (.raised error : Outcome Raised α) := by
  rintro _ ⟨⟩
  exact h

theorem notRetired_returned {α : Type} (value : α) :
    NotRetired (.returned value : Outcome Raised α) :=
  fun _ hNo => nomatch hNo

theorem notRetired_crashed {α : Type} : NotRetired (.crashed : Outcome Raised α) :=
  fun _ hNo => nomatch hNo

theorem Recorded.opened {rejected : Bool} {entered after : GatewayWorld}
    (h : Recorded request rejected before entered after) (hHistory : entered.history =
      before.history)
    (hJournal : entered.journal = before.journal) : Opened request before after := by
  obtain ⟨order, status, hold, hRows, _⟩ := h.rows
  exact ⟨h.history.trans hHistory, h.journal.trans hJournal, .inr ⟨order, status, hold, hRows⟩⟩

theorem abortSubmission_ok (hHistory : middle.history = before.history)
    (hJournal : middle.journal = before.journal)
    (hHeld : held.reservationId = record.capitalReservationId)
    (hRows : SubmissionRows request before.database record .requested row middle.database)
    (h : abortSubmission request clock (transitioned record .cancelledLocally now) held
      middle.database = .ok (done, database)) (hFlight : InFlight request record) :
    Retired request before { middle with database := database } := by
  unfold abortSubmission at h
  obtain ⟨⟨written, withOrder⟩, hOrder, h⟩ := bind_eq_ok.mp h
  obtain ⟨⟨_, withResponse⟩, hResponse, h⟩ := bind_eq_ok.mp h
  have hNamed : (transitioned record .cancelledLocally now).clientOrderId =
      request.clientOrderId := hRows.named
  obtain ⟨hWritten, hRowsOrder⟩ := hRows.writeOrder_ok hNamed rfl hOrder
  have hReservation : (held.release clock).reservationId = written.capitalReservationId := by
    rw [hWritten]
    exact hHeld
  have hRowsAll := (hRowsOrder.writeResponse_ok hResponse).writeReservation_ok hReservation h
  refine ⟨hHistory, hJournal, written, _, hRowsAll, by rw [hWritten]; rfl, ?_, rfl⟩
  rw [hWritten]
  simp [transitioned, hFlight.status]

theorem retireSubmission_ensures {gateError : Raised}
    (h : Journaled request before held record middle) (hGate : NotAborted gateError) :
    Ensures (retireSubmission request answers held record gateError) middle
      (outcomes (fun _ => Retired request before)
        (fun error after => NotAborted error ∧ Opened request before after ∨
          Retired request before after)
        (fun after => Opened request before after ∨ Retired request before after)) := by
  obtain ⟨row, hRows, _, _⟩ := h.rows
  unfold retireSubmission
  split
  · refine Ensures.seq (?_ : Ensures _ _ (outcomes (fun retired next => next = middle ∧
      retired = transitioned record .cancelledLocally answers.now) _ _)) ?_
    · refine ofExcept (fun retired hOk =>
        ⟨rfl, (applyStatusTransition_none_ok hOk).2.2⟩) ?_
      exact fun error hError =>
        .inl ⟨errors_applyStatusTransition _ _ _ _ error hError, h.opened⟩
    rintro retired next ⟨rfl, rfl⟩
    refine Ensures.seq (?_ : Ensures _ _ (outcomes (fun _ => Retired request before) _ _)) ?_
    · refine transaction_ensures (fun error hError => .inl
        ⟨errors_abortSubmission _ _ _ _ _ error hError, h.opened⟩)
        (.inl ⟨notAborted_databaseError, h.opened⟩) (.inl h.opened) ?_
      intro done database hBody
      have hWritten : Retired request before { next with database := database } :=
        abortSubmission_ok h.history h.journal h.heldId hRows hBody h.inFlight
      exact ⟨hWritten, .inr hWritten, .inr hWritten⟩
    · intro _ after hAfter
      exact raise (.inr hAfter)
  · exact raise (.inl ⟨hGate, h.opened⟩)

theorem ensures_notRetired {p : Gateway ExecutionOrderRecord}
    (h : Ensures p world (outcomes (fun _ => left) (fun error after => NotAborted error ∧
      left after)
      left)) : Ensures p world (fun outcome after => NotRetired outcome ∧ left after) := by
  rw [ensures_outcomes]
  refine h.weaken (fun value _ hLeft => ⟨notRetired_returned value, hLeft⟩) ?_
    (fun _ hLeft => ⟨notRetired_crashed, hLeft⟩)
  exact fun _ _ hError => ⟨notRetired_raised hError.1, hError.2⟩

/-- `submit_order` is entered. -/
def entering (request : SubmitExecutionRequest) (world : GatewayWorld) : GatewayWorld :=
  { world with history := world.history ++ [.submitEntered request world.database.executionOrders] }

/-- The broker's answer is recorded where the broker call ended. -/
theorem Recorded.entered {rejected : Bool} {after : GatewayWorld}
    (h : Journaled request before held record middle)
    (hRejected : rejected = (answers.broker.reportsDefinitive && answers.persist.isWritten))
    (hRecorded : Recorded request rejected before (entering request middle) after) :
    Entered request answers before after := by
  obtain ⟨row, hRows, _⟩ := h.rows
  refine ⟨⟨record, h.inFlight, ?_⟩, hRecorded.journal.trans h.journal, ?_⟩
  · rw [hRecorded.history, entering, h.history, hRows.orders]
  · rw [← hRejected]
    exact hRecorded.rows

theorem dispatchSubmission_failed
    (hBroker : answers.broker = .raised error ∨
      ∃ answered, answers.broker = .observerRaised answered error) :
    dispatchSubmission request answers held record middle =
      settleFailedSubmission request answers held record error (entering request middle) := by
  unfold dispatchSubmission
  rcases hBroker with hBroker | ⟨answered, hBroker⟩
  all_goals
    rw [hBroker]
    rfl

theorem dispatchSubmission_accepted (hBroker : answers.broker = .returned submission) :
    dispatchSubmission request answers held record middle =
      settleAcceptedSubmission request answers record submission (entering request middle) := by
  unfold dispatchSubmission
  rw [hBroker]
  rfl

variable (h : Journaled request before held record middle)
include h

/-- What the broker call and the record of its answer leave. -/
theorem dispatchSubmission_ensures :
    Ensures (dispatchSubmission request answers held record) middle
      (fun outcome after => NotRetired outcome ∧
        if answers.broker.isEntered = true then Entered request answers before after
        else Opened request before after) := by
  cases hBroker : answers.broker with
  | notEntered error =>
    have hRun : dispatchSubmission request answers held record middle =
        settleFailedSubmission request answers held record error middle := by
      unfold dispatchSubmission
      rw [hBroker]
      rfl
    refine of_run_eq hRun ?_
    refine Ensures.imp (ensures_notRetired (settleFailedSubmission_ensures h rfl)) ?_
    exact fun outcome after hEnd => ⟨hEnd.1, hEnd.2.opened h.history h.journal⟩
  | raised error =>
    refine of_run_eq (dispatchSubmission_failed (.inl hBroker)) ?_
    refine Ensures.imp (ensures_notRetired (settleFailedSubmission_ensures h rfl)) ?_
    exact fun outcome after hEnd => ⟨hEnd.1, hEnd.2.entered h (by rw [hBroker]; rfl)⟩
  | returned submission =>
    refine of_run_eq (dispatchSubmission_accepted hBroker) ?_
    refine Ensures.imp (ensures_notRetired (settleAcceptedSubmission_ensures h rfl)) ?_
    exact fun outcome after hEnd => ⟨hEnd.1, hEnd.2.entered h (by rw [hBroker]; rfl)⟩
  | observerRaised answered error =>
    refine of_run_eq (dispatchSubmission_failed (.inr ⟨answered, hBroker⟩)) ?_
    refine Ensures.imp (ensures_notRetired (settleFailedSubmission_ensures h rfl)) ?_
    exact fun outcome after hEnd => ⟨hEnd.1, hEnd.2.entered h (by rw [hBroker]; rfl)⟩
  | crashedBefore =>
    unfold dispatchSubmission
    rw [hBroker]
    exact ⟨notRetired_crashed, h.opened⟩
  | crashedInside =>
    unfold dispatchSubmission
    rw [hBroker]
    have hLeft : Recorded request false before (entering request middle)
        (entering request middle) := h.recorded rfl
    exact ⟨notRetired_crashed, hLeft.entered h (by rw [hBroker]; rfl)⟩

/-- A submission that is journaled ends before, or after its one broker call. -/
theorem crossSubmitBoundary_ensures :
    Ensures (crossSubmitBoundary request answers held record) middle
      (SubmissionEnd request answers
        ((finalSubmitGates request answers middle).1 = .returned ()) before) := by
  have hFinal := quiet_finalSubmitGates request answers middle
  unfold Ensures at hFinal
  rcases hRun : finalSubmitGates request answers middle with ⟨outcome, next⟩
  rw [hRun] at hFinal
  cases outcome with
  | returned =>
    obtain rfl : next = middle := hFinal
    refine of_run_eq (bind_returned (attempt_returned hRun))
      ((dispatchSubmission_ensures h).imp ?_)
    rintro outcome after ⟨hOutcome, hEnd⟩
    by_cases hEntered : answers.broker.isEntered = true
    · rw [if_pos hEntered] at hEnd
      exact .entered ⟨rfl, hEntered⟩ hOutcome hEnd
    · rw [if_neg hEntered] at hEnd
      exact .stopped (fun hReached => hEntered hReached.2) hOutcome hEnd
  | raised error =>
    obtain ⟨rfl, hGate⟩ : next = middle ∧ NotAborted error := hFinal
    refine of_run_eq (bind_returned (attempt_raised hRun)) ?_
    rw [ensures_outcomes]
    refine (retireSubmission_ensures h hGate).weaken ?_ ?_ ?_
    · exact fun _ _ hRetired => .retired (fun hReached => nomatch hReached.1) hRetired
    · rintro raised after (⟨hRaised, hOpened⟩ | hRetired)
      · exact .stopped (fun hReached => nomatch hReached.1) (notRetired_raised hRaised) hOpened
      · exact .retired (fun hReached => nomatch hReached.1) hRetired
    · rintro after (hOpened | hRetired)
      · exact .stopped (fun hReached => nomatch hReached.1) notRetired_crashed hOpened
      · exact .retired (fun hReached => nomatch hReached.1) hRetired
  | crashed =>
    obtain rfl : next = middle := hFinal
    have hDead : crossSubmitBoundary request answers held record next =
        (Procedure.crash : Gateway ExecutionOrderRecord) next :=
      bind_crashed (attempt_crashed hRun)
    refine of_run_eq hDead ?_
    exact .stopped (fun hReached => nomatch hReached.1) notRetired_crashed h.opened

end Boundary

/-- The gates pass and the submission is journaled. -/
def ReachesDispatch (request : SubmitExecutionRequest) (answers : SubmitAnswers)
    (before : GatewayWorld) : Prop :=
  ∃ result middle, openSubmission request answers before = (.returned result, middle) ∧
    (finalSubmitGates request answers middle).1 = .returned ()

/-- How `_do_submit` ends, from any state. -/
theorem doSubmit_ensures (request : SubmitExecutionRequest) (answers : SubmitAnswers)
    (before : GatewayWorld) :
    Ensures (doSubmit request answers) before
      (SubmissionEnd request answers (ReachesDispatch request answers before) before) := by
  have hOpen := openSubmission_ensures request answers before
  unfold Ensures at hOpen
  rcases hRun : openSubmission request answers before with ⟨outcome, middle⟩
  rw [hRun] at hOpen
  have hUnreached : ∀ {outcome' : Outcome Raised (CapitalReservation × ExecutionOrderRecord)},
      openSubmission request answers before = (outcome', middle) →
      (∀ result, outcome' ≠ .returned result) →
      ¬ (ReachesDispatch request answers before ∧ answers.broker.isEntered = true) := by
    rintro outcome' hRun' hOther ⟨⟨result, _, hReturned, _⟩, _⟩
    rw [hRun'] at hReturned
    exact hOther result (congrArg Prod.fst hReturned)
  cases outcome with
  | returned result =>
    refine of_run_eq (bind_returned hRun) ((crossSubmitBoundary_ensures hOpen).imp ?_)
    intro outcome after hEnd
    have hReached : ReachesDispatch request answers before ↔
        (finalSubmitGates request answers middle).1 = .returned () := by
      constructor
      · rintro ⟨result', middle', hRun', hFinal⟩
        rw [hRun] at hRun'
        cases hRun'
        exact hFinal
      · exact fun hFinal => ⟨result, middle, hRun, hFinal⟩
    rw [propext hReached]
    exact hEnd
  | raised error =>
    have hFailed : doSubmit request answers before =
        (Procedure.raise error : Gateway ExecutionOrderRecord) middle := bind_raised hRun
    exact of_run_eq hFailed (.stopped (hUnreached hRun (fun _ => nofun))
      (notRetired_raised hOpen.2) hOpen.1)
  | crashed =>
    have hDead : doSubmit request answers before =
        (Procedure.crash : Gateway ExecutionOrderRecord) middle := bind_crashed hRun
    exact of_run_eq hDead (.stopped (hUnreached hRun (fun _ => nofun))
      notRetired_crashed hOpen)

end QuantApp.Services
