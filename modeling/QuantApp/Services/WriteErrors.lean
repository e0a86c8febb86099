import QuantApp.Services.ExecutionCommandGateway

/-!
# What the writes of the gateway raise

`GuardedSubmissionPreBrokerAbortedError` tells a caller that the broker was not
entered and that everything was retired.  No check and no statement of the stores
raises it: only the retirement itself does.
-/

namespace QuantApp.Services

open Core Verified

/-- Not the exception of a retired submission. -/
def NotAborted (error : Raised) : Prop := error.cls ≠ .guardedSubmissionPreBrokerAborted

theorem notAborted_databaseError : NotAborted databaseError := by
  simp [NotAborted, databaseError]

theorem GateException.raised_notAborted (error : GateException) : NotAborted error.raised := by
  unfold NotAborted GateException.raised
  cases error.cls <;> simp [GateExceptionClass.toClass]

theorem errors_gateAnswer {α : Type} (answer : GateAnswer α) :
    Errors NotAborted (GateAnswer.result answer) := by
  cases answer with
  | ok => exact errors_ok
  | error error => exact errors_error error.raised_notAborted

theorem errors_requireLimitPrice (label executionPolicy : String) (limitPrice : FloatValue) :
    Errors NotAborted (requireLimitPrice label executionPolicy limitPrice) := by
  unfold requireLimitPrice
  split
  · exact errors_ok
  · cases limitPrice with
    | none => exact errors_error (by simp [NotAborted, valueError])
    | some =>
      dsimp only
      split
      · exact errors_ok
      · exact errors_error (by simp [NotAborted, valueError])

/-! ## Commands -/

theorem errors_insertCommand (rows : List ExecutionCommand) (command : ExecutionCommand) :
    Errors NotAborted (insertCommand rows command) := by
  unfold insertCommand
  split
  · exact errors_error (by simp [NotAborted])
  split
  · exact errors_error (by simp [NotAborted])
  · exact errors_ok

theorem errors_updateCommandResponse (rows : List ExecutionCommand) (key : String)
    (status : CommandStatus) (version : Option Int) :
    Errors NotAborted (updateCommandResponse rows key status version) := by
  unfold updateCommandResponse
  split
  · exact errors_error (by simp [NotAborted])
  · dsimp only
    split
    · exact errors_ok
    · exact errors_error (by simp [NotAborted])

/-! ## Orders -/

theorem errors_validateConsistency (record : ExecutionOrderRecord) :
    Errors NotAborted (validateConsistency record) := by
  intro error hError
  have hClass := validateConsistency_error hError
  simp [NotAborted, hClass]

section

variable (rows : List ExecutionOrderRecord) (record : ExecutionOrderRecord)
include rows record

theorem errors_checkBrokerIdentityConflict :
    Errors NotAborted (checkBrokerIdentityConflict rows record) := by
  unfold checkBrokerIdentityConflict
  split
  · exact errors_ok
  · exact errors_error (by simp [NotAborted])

theorem errors_checkAdoptionSource : Errors NotAborted (checkAdoptionSource rows record) := by
  unfold checkAdoptionSource
  split
  · exact errors_ok
  · exact errors_error (by simp [NotAborted])

theorem errors_checkAdoptionSourceOfUpdate :
    Errors NotAborted (checkAdoptionSourceOfUpdate rows record) := by
  unfold checkAdoptionSourceOfUpdate
  split
  · exact errors_ok
  · exact errors_error (by simp [NotAborted, duplicateExecutionOrder])

theorem errors_insertExecutionOrder : Errors NotAborted (insertExecutionOrder rows record) := by
  unfold insertExecutionOrder
  refine (errors_validateConsistency record).bind fun _ => ?_
  refine (errors_checkBrokerIdentityConflict rows record).bind fun _ => ?_
  split
  · exact errors_error (by simp [NotAborted, duplicateExecutionOrder])
  · exact (errors_checkAdoptionSource rows record).bind fun _ => errors_ok

theorem errors_updateExecutionOrder (version : Int) :
    Errors NotAborted (updateExecutionOrder rows record version) := by
  unfold updateExecutionOrder
  refine (errors_validateConsistency record).bind fun _ => ?_
  split
  · exact errors_error (by simp [NotAborted])
  split
  · exact errors_error (by simp [NotAborted])
  split
  · exact errors_error (by simp [NotAborted])
  · refine (errors_checkBrokerIdentityConflict rows record).bind fun _ => ?_
    exact (errors_checkAdoptionSourceOfUpdate rows record).bind fun _ => errors_ok

end

section

variable (record : ExecutionOrderRecord)
include record

theorem errors_markBrokerIdentityExact (id : String) :
    Errors NotAborted (markBrokerIdentityExact record id) := by
  unfold markBrokerIdentityExact
  dsimp only
  split
  · exact errors_error (by simp [NotAborted])
  split
  · exact errors_error (by simp [NotAborted])
  · exact errors_ok

theorem errors_transitionIdentity (target : ExecutionOrderStatus) (id : Option String) :
    Errors NotAborted (transitionIdentity record target id) := by
  unfold transitionIdentity
  cases id <;> refine Errors.bind ?_ fun marked => ?_
  case none.refine_1 => exact errors_ok
  case some.refine_1 id => exact errors_markBrokerIdentityExact record id
  all_goals
    dsimp only
    split
    · exact errors_error (by simp [NotAborted])
    · exact errors_ok

theorem errors_applyStatusTransition (target : ExecutionOrderStatus) (id : Option String)
    (now : IsoText) :
    Errors NotAborted (applyStatusTransition record target id now) := by
  unfold applyStatusTransition
  split
  · exact errors_error (by simp [NotAborted])
  · refine (errors_transitionIdentity record target id).bind fun identified => ?_
    exact (errors_validateConsistency _).bind fun _ => errors_ok

end

/-! ## Reservations -/

variable (rows : List CapitalReservation)

theorem errors_insertReservation
    (reservation : CapitalReservation) :
    Errors NotAborted (insertReservation rows reservation) := by
  unfold insertReservation
  split
  · exact errors_error (by simp [NotAborted])
  · exact errors_ok

theorem errors_updateReservation
    (reservation : CapitalReservation) (version : Int) :
    Errors NotAborted (updateReservation rows reservation version) := by
  unfold updateReservation
  split
  · exact errors_error (by simp [NotAborted])
  split
  · exact errors_ok
  · exact errors_error (by simp [NotAborted])

theorem errors_requireProjectedPortfolioCapacity (reservation : CapitalReservation)
    (active : List CapitalReservation) (spec : PortfolioRiskReservationSpec) :
    Errors NotAborted (requireProjectedPortfolioCapacity reservation active spec) := by
  unfold requireProjectedPortfolioCapacity
  split
  · exact errors_error (by simp [NotAborted, riskLimitError])
  split
  · exact errors_error (by simp [NotAborted, riskLimitError])
  split
  · exact errors_ok
  · exact errors_error (by simp [NotAborted, riskLimitError])

theorem errors_insertReservationIfAvailable
    (reservation : CapitalReservation) (buyingPower : ℚ)
    (spec : Option PortfolioRiskReservationSpec) :
    Errors NotAborted (insertReservationIfAvailable rows reservation buyingPower spec) := by
  unfold insertReservationIfAvailable
  split
  · dsimp only
    split
    · exact errors_error (by simp [NotAborted, insufficientCapitalError])
    · cases spec with
      | none => exact errors_insertReservation rows reservation
      | some spec =>
        exact (errors_requireProjectedPortfolioCapacity _ _ spec).bind fun _ =>
          errors_insertReservation rows reservation
  · exact errors_insertReservation rows reservation

theorem errors_activatePreparedReplacementReservation
    (id : String) (version : Int) (replacement : ReplacementRequest) :
    Errors NotAborted (activatePreparedReplacementReservation rows id version replacement) := by
  unfold activatePreparedReplacementReservation
  split
  · exact errors_error (by simp [NotAborted, riskLimitError])
  split
  · exact errors_error (by simp [NotAborted, riskLimitError])
  split
  · exact errors_error (by simp [NotAborted, riskLimitError])
  · exact errors_updateReservation _ _ _

variable (request : SubmitExecutionRequest)

theorem errors_holdReservation
    (notional openRisk buyingPower : ℚ) (spec : Option PortfolioRiskReservationSpec)
    (reservation : CapitalReservation) (rows : List CapitalReservation) :
    Errors NotAborted
      (holdReservation request notional openRisk buyingPower spec reservation rows) := by
  unfold holdReservation
  split
  · exact errors_activatePreparedReplacementReservation _ _ _ _
  · exact (errors_insertReservationIfAvailable _ _ _ _).bind fun _ => errors_ok

/-! ## Transactions of a submission -/

theorem errors_prepareSubmission (answers : SubmitAnswers)
    (notional openRisk buyingPower : ℚ) (spec : Option PortfolioRiskReservationSpec)
    (reservation : CapitalReservation) (record : ExecutionOrderRecord)
    (database : CanonicalDatabase) :
    Errors NotAborted (prepareSubmission request answers notional openRisk buyingPower spec
      reservation record database) := by
  unfold prepareSubmission
  refine (errors_gateAnswer _).bind fun _ => ?_
  refine (errors_insertCommand _ _).bind fun _ => ?_
  refine (errors_holdReservation _ _ _ _ _ _ _).bind fun _ => ?_
  exact (errors_insertExecutionOrder _ _).bind fun _ => errors_ok

theorem errors_writeOrder (record : ExecutionOrderRecord) (database : CanonicalDatabase) :
    Errors NotAborted (writeOrder record database) :=
  (errors_updateExecutionOrder _ _ _).bind fun _ => errors_ok

theorem errors_abortSubmission (clock : Instant)
    (record : ExecutionOrderRecord) (reservation : CapitalReservation)
    (database : CanonicalDatabase) :
    Errors NotAborted (abortSubmission request clock record reservation database) := by
  unfold abortSubmission
  refine (errors_writeOrder _ _).bind fun _ => ?_
  exact ((errors_updateCommandResponse _ _ _ _).bind fun _ => errors_ok).bind fun _ => 
    (errors_updateReservation _ _ _).bind fun _ => errors_ok

end QuantApp.Services
