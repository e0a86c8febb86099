import QuantApp.Services.SubmissionBoundary

/-!
# Submission outcomes in the durable state

What a call of `submit_guarded` leaves, for every answer of the gates and of the
broker and every failure or death between two durable steps: a submission that may
be live at the broker stays open with its capital, a retired one was never sent, and
the three rows are created together.  One answer breaks this: the observer of a
mutation may raise, in place of what the broker answered, an exception that reads as
a rejection.
-/

namespace QuantApp.Services

open Core Verified Verified.Procedure

/-- The stored order may be live at the broker, and its reservation is open with the
whole notional. -/
def LiveWithCapital (request : SubmitExecutionRequest) (database : CanonicalDatabase) : Prop :=
  ∃ order, getExecutionOrder database.executionOrders request.clientOrderId = some order ∧
    mayBeLive order.status = true ∧
    ∃ hold, lookup CapitalReservation.reservationId order.capitalReservationId
        database.capitalReservations = some hold ∧
      HoldsAll (requestedNotional request (submittedPrice request)) hold

/-- The stored order, command and reservation are retired. -/
def RetiredRows (request : SubmitExecutionRequest) (database : CanonicalDatabase) : Prop :=
  ∃ order, getExecutionOrder database.executionOrders request.clientOrderId = some order ∧
    order.status = .cancelledLocally ∧ order.brokerOrderId = "" ∧
    (∃ command, getCommand database.executionCommands (submitKey request.clientOrderId) =
      some command ∧ command.status = .preBrokerAborted) ∧
    ∃ hold, lookup CapitalReservation.reservationId order.capitalReservationId
        database.capitalReservations = some hold ∧ hold.status = .released

/-- The call entered `submit_order`. -/
def BrokerEntered (request : SubmitExecutionRequest) (before after : GatewayWorld) : Prop :=
  ∃ orders, after.history = before.history ++ [.submitEntered request orders]

/-- What a submission has to leave, whatever it is answered. -/
structure DurablyFaithful (request : SubmitExecutionRequest) (answers : SubmitAnswers)
    (before : GatewayWorld) (outcome : Outcome Raised ExecutionOrderRecord)
    (after : GatewayWorld) : Prop where
  /-- The broker is entered at most once. -/
  boundary : after.history = before.history ∨ BrokerEntered request before after
  neverLost : BrokerEntered request before after →
    answers.broker.isDefinitiveRejection = false → LiveWithCapital request after.database
  aborted : ∀ error, outcome = .raised error → error.cls = .guardedSubmissionPreBrokerAborted →
    after.history = before.history ∧ RetiredRows request after.database
  together : after.database = before.database ∨
    ∃ order status hold, SubmissionRows request before.database order status hold after.database

/-- The gates pass and the submission is journaled: the call comes to its broker call. -/
def ReachesBroker (request : SubmitExecutionRequest) (liveEntry : GateAnswer Unit)
    (answers : SubmitAnswers) (before : GatewayWorld) : Prop :=
  liveEntry = .ok () ∧ ReachesDispatch request answers before

/-- The observer raises a definitive error in place of an answer that is not a rejection. -/
def MutationAnswer.isMisreported {α : Type} (answer : MutationAnswer α) : Bool :=
  answer.isEntered && answer.reportsDefinitive && !answer.isDefinitiveRejection

theorem submitGuarded_ensures (request : SubmitExecutionRequest) (liveEntry : GateAnswer Unit)
    (answers : SubmitAnswers) (before : GatewayWorld) :
    Ensures (submitGuarded request liveEntry answers) before
      (SubmissionEnd request answers (ReachesBroker request liveEntry answers before) before) := by
  cases liveEntry with
  | error error =>
    exact .stopped (fun hReached => nomatch hReached.1.1)
      (notRetired_raised error.raised_notAborted) Opened.refl
  | ok pass =>
    have hRun : submitGuarded request (.ok pass) answers before =
        doSubmit request answers before := bind_returned rfl
    have hReached : ReachesBroker request (.ok pass) answers before ↔
        ReachesDispatch request answers before := and_iff_right rfl
    rw [propext hReached]
    exact Ensures.of_run_eq hRun (doSubmit_ensures request answers before)

/-! ## The three promises -/

section Promises

variable {request : SubmitExecutionRequest} {answers : SubmitAnswers} {before after : GatewayWorld}

theorem SubmissionRows.command_stored {start : CanonicalDatabase} {order : ExecutionOrderRecord}
    {status : CommandStatus} {hold : CapitalReservation} {written : CanonicalDatabase}
    (h : SubmissionRows request start order status hold written) :
    ∃ command, getCommand written.executionCommands (submitKey request.clientOrderId) =
      some command ∧ command.status = status := by
  obtain ⟨command, hKey, hStatus, hRows⟩ := h.commands
  have hFresh := h.freshCommand
  refine ⟨command, ?_, hStatus⟩
  rw [← hKey] at hFresh ⊢
  rw [hRows]
  exact lookup_append_fresh hFresh

theorem Retired.rows_retired (h : Retired request before after) :
    RetiredRows request after.database := by
  obtain ⟨order, hold, hRows, hStatus, hIdentity, hReleased⟩ := h.rows
  exact ⟨order, hRows.order_stored, hStatus, hIdentity, hRows.command_stored, hold, hRows.hold,
    hReleased⟩

theorem not_entered_of_history (h : after.history = before.history) :
    ¬ BrokerEntered request before after := by
  rintro ⟨orders, hEntered⟩
  rw [h] at hEntered
  have hLength := congrArg List.length hEntered
  simp at hLength

/-- After the broker call, the order is live with its capital unless a definitive error was
reported and recorded. -/
theorem Entered.live_iff (h : Entered request answers before after) :
    LiveWithCapital request after.database ↔
      ¬ (answers.broker.reportsDefinitive = true ∧ answers.persist.isWritten = true) := by
  obtain ⟨order, status, hold, hRows, hAnswer⟩ := h.rows
  constructor
  · rintro ⟨stored, hStored, hLive, _⟩ hRejected
    rw [if_pos (by simpa using hRejected)] at hAnswer
    rw [hRows.order_stored] at hStored
    cases hStored
    rw [hAnswer] at hLive
    cases hLive
  · intro hOpen
    rw [if_neg (by simpa using hOpen)] at hAnswer
    exact ⟨order, hRows.order_stored, hAnswer.1, hold, hRows.hold, hAnswer.2⟩

end Promises

/-- A submission is durably faithful exactly when no observer's exception that reads as a
rejection is recorded in place of an answer that is none. -/
theorem submitGuarded_faithful_iff (request : SubmitExecutionRequest)
    (liveEntry : GateAnswer Unit) (answers : SubmitAnswers) (before : GatewayWorld) :
    DurablyFaithful request answers before
        (submitGuarded request liveEntry answers before).1
        (submitGuarded request liveEntry answers before).2 ↔
      ¬ (ReachesBroker request liveEntry answers before ∧ answers.broker.isMisreported = true ∧
        answers.persist.isWritten = true) := by
  have hEnd := submitGuarded_ensures request liveEntry answers before
  unfold Ensures at hEnd
  generalize (submitGuarded request liveEntry answers before).1 = outcome at hEnd ⊢
  generalize (submitGuarded request liveEntry answers before).2 = after at hEnd ⊢
  have hMisreported : answers.broker.isMisreported = true ↔ answers.broker.isEntered = true ∧
      answers.broker.reportsDefinitive = true ∧ answers.broker.isDefinitiveRejection = false := by
    simp [MutationAnswer.isMisreported, and_assoc]
  cases hEnd with
  | stopped hReached hOutcome hOpened =>
    refine iff_of_true ?_ (fun hBad => hReached ⟨hBad.1, (hMisreported.mp hBad.2.1).1⟩)
    exact
      { boundary := .inl hOpened.history
        neverLost := fun hEntered => absurd hEntered (not_entered_of_history hOpened.history)
        aborted := fun error hError hClass => absurd hClass (hOutcome error hError)
        together := hOpened.rows }
  | retired hReached hRetired =>
    refine iff_of_true ?_ (fun hBad => hReached ⟨hBad.1, (hMisreported.mp hBad.2.1).1⟩)
    obtain ⟨order, hold, hRows, _⟩ := hRetired.rows
    exact
      { boundary := .inl hRetired.history
        neverLost := fun hEntered => absurd hEntered (not_entered_of_history hRetired.history)
        aborted := fun _ _ _ => ⟨hRetired.history, hRetired.rows_retired⟩
        together := .inr ⟨order, _, hold, hRows⟩ }
  | entered hReached hOutcome hEntered =>
    obtain ⟨record, _, hHistory⟩ := hEntered.history
    have hCalled : BrokerEntered request before after := ⟨_, hHistory⟩
    constructor
    · rintro hFaithful ⟨_, hBroker, hWritten⟩
      obtain ⟨_, hDefinitive, hAccepted⟩ := hMisreported.mp hBroker
      exact hEntered.live_iff.mp (hFaithful.neverLost hCalled hAccepted)
        ⟨hDefinitive, hWritten⟩
    · intro hGood
      obtain ⟨order, status, hold, hRows, _⟩ := hEntered.rows
      refine
        { boundary := .inr hCalled
          neverLost := fun _ hAccepted => hEntered.live_iff.mpr ?_
          aborted := fun error hError hClass => absurd hClass (hOutcome error hError)
          together := .inr ⟨order, status, hold, hRows⟩ }
      rintro ⟨hDefinitive, hWritten⟩
      exact hGood ⟨hReached.1, hMisreported.mpr ⟨hReached.2, hDefinitive, hAccepted⟩, hWritten⟩

/-- A BUY whose broker call is accepted, in a supervised session that ends before the
observer is told. -/
def endedSession : SubmitExecutionRequest × SubmitAnswers :=
  ({ clientOrderId := "c1", environment := "PROD", accountNo := "1", symbol := "AAPL"
     side := .buy, intent := .entry, quantity := 10, limitPrice := some 5
     lease := some { deviceId := "d1", leaseToken := "t1" }
     clientOrderIdStripped := strip_c1 },
   { now := isoformat 0, clock := 0, reservationId := "r1", buyingPower := .ok 1000
     broker := .observerRaised (.ok { brokerOrderId := "B1" })
       { message := "Gate-4 qualification event rejected: start one supervised, disarmed " ++
           "session with manage_gate4_session.py before activating the runtime"
         ambiguous := some false } })

/-- The accepted BUY is stored as rejected. -/
theorem submission_lost_to_observer :
    ¬ ∀ (request : SubmitExecutionRequest) (liveEntry : GateAnswer Unit) (answers : SubmitAnswers)
      (before : GatewayWorld), DurablyFaithful request answers before
        (submitGuarded request liveEntry answers before).1
        (submitGuarded request liveEntry answers before).2 := by
  intro hAll
  have hFaithful := hAll endedSession.1 (.ok ()) endedSession.2 {}
  have hEntered : BrokerEntered endedSession.1 {}
      (submitGuarded endedSession.1 (.ok ()) endedSession.2 {}).2 :=
    hFaithful.boundary.resolve_left (by decide +kernel)
  obtain ⟨order, hOrder, hLive, _⟩ := hFaithful.neverLost hEntered (by decide +kernel)
  have hRejected : (getExecutionOrder
      (submitGuarded endedSession.1 (.ok ()) endedSession.2 {}).2.database.executionOrders
      endedSession.1.clientOrderId).map (·.status) = some .rejected := by decide +kernel
  rw [hOrder] at hRejected
  have hStatus : order.status = .rejected := Option.some.inj hRejected
  rw [hStatus] at hLive
  cases hLive

end QuantApp.Services
