import QuantApp.Core.ExecutionRequest
import QuantApp.Core.TradeCardState
import QuantApp.Services.CapitalReservationRepository
import QuantApp.Services.ExecutionCommandRepository
import QuantApp.Services.ExecutionOrderRepository
import QuantApp.Verified.Procedure

/-!
# What a gateway call works on

The durable state of `src/services/execution_command_gateway.py`: the canonical
database, the local emergency journal, and the history of what crossed the
broker boundary.  A call is a procedure over it.  What the call is answered by
the gates, the database and the broker is an argument; between two durable steps
its process may die.

Each transaction commits or is rolled back as a whole.  One whose commit is not
confirmed raises like one that failed, but has been written.
-/

namespace QuantApp.Services

open Core Verified

variable {R : GatewayWorld → GatewayWorld → Prop} {outcome : CommitOutcome} {world : GatewayWorld}
  {raised : Raised → GatewayWorld → Prop} {crashed : GatewayWorld → Prop}

/-! ## The emergency journal -/

/-- The order payload of a journaled submission. -/
structure SubmitPayload where
  clientOrderId : String
  side : OrderSide
  intent : OrderIntent
  quantity : Int
  limitPrice : ℚ
  exchange : String := "NASD"
  executionPolicy : String := regularLimitExecution
  attemptGroupId : String := ""
  attemptNumber : Int := 1
  deriving DecidableEq

/-- The order payload of a journaled cancellation, as far as it is read back. -/
structure CancelPayload where
  clientOrderId : String
  deriving DecidableEq

inductive OrderPayload
  | submit (payload : SubmitPayload)
  | cancel (payload : CancelPayload)
  deriving DecidableEq

/-- The fields of a REQUESTED entry that reconciliation reads. -/
structure JournalRequest where
  idempotencyKey : String
  environment : String
  accountNo : String
  symbol : String
  deviceId : String
  leaseToken : String
  leaseEpoch : Int
  source : String := ""
  targetBrokerOrderId : String := ""
  createdAt : IsoText
  payload : OrderPayload
  deriving DecidableEq

/-- The broker response of an OUTCOME entry. -/
inductive JournalResponse
  | error (message : String)
  | submitted (brokerOrderId : String)
  | cancelled (normalizedStatus : OrderStatus) (filledQuantity remainingQuantity : Int)
      (averageFillPrice : ℚ)
  deriving DecidableEq

inductive JournalEvent
  | requested (request : JournalRequest)
  | outcome (requestedSequence : Int) (status : CommandStatus) (response : JournalResponse)
  | reconciled (requestedSequence : Int)
  deriving DecidableEq

structure JournalEntry where
  sequence : Int
  event : JournalEvent
  deriving DecidableEq

/-- A line of the file: an entry whose checksum holds, or anything else. -/
inductive JournalLine
  | entry (entry : JournalEntry)
  | unreadable

/-! ## The canonical database -/

/-- A row of `emergency_journal_reconciliation`. -/
structure JournalReconciliation where
  requestedSequence : Int
  idempotencyKey : String

structure CanonicalDatabase where
  executionCommands : List ExecutionCommand := []
  executionOrders : List ExecutionOrderRecord := []
  capitalReservations : List CapitalReservation := []
  tradeCards : List TradeCardState := []
  journalReconciliations : List JournalReconciliation := []

/-! ## The history -/

/-- What crossed the broker boundary, and what a replacement was decided on. -/
inductive GatewayEvent
  /-- `submit_order` was entered, with these orders stored. -/
  | submitEntered (request : SubmitExecutionRequest) (orders : List ExecutionOrderRecord)
  /-- `cancel_order` was entered for this record. -/
  | cancelEntered (record : ExecutionOrderRecord)
  /-- `cancel_order` was entered during a database outage. -/
  | emergencyCancelEntered (request : CancelExecutionRequest)
  /-- The exact-order inquiry for the client order reported this row. -/
  | inquiryReported (clientOrderId : String) (row : BrokerOrderStatusSnapshot)

structure GatewayWorld where
  database : CanonicalDatabase := {}
  journal : List JournalLine := []
  history : List GatewayEvent := []

abbrev Gateway := Procedure GatewayWorld Raised

/-! ## Steps on the database -/

/-- How a transaction ends, or the process during it. -/
inductive CommitOutcome
  | committed
  | failed
  | unconfirmed
  | crashedBefore
  | crashedAfter
  deriving DecidableEq, Repr

/-- The transaction was written. -/
def CommitOutcome.isWritten : CommitOutcome → Bool
  | .committed | .unconfirmed | .crashedAfter => true
  | .failed | .crashedBefore => false

/-- What SQLAlchemy raises when the database does not answer. -/
def databaseError : Raised := { cls := .databaseError, message := "the database statement failed" }

/-- `with engine.begin() as conn`: an exception in the body writes nothing. -/
def transaction {α : Type} (outcome : CommitOutcome)
    (body : CanonicalDatabase → Except Raised (α × CanonicalDatabase)) : Gateway α :=
  fun world =>
    match body world.database with
    | .error error => (.raised error, world)
    | .ok (value, database) =>
      let written := { world with database := database }
      match outcome with
      | .committed => (.returned value, written)
      | .failed => (.raised databaseError, world)
      | .unconfirmed => (.raised databaseError, written)
      | .crashedBefore => (.crashed, world)
      | .crashedAfter => (.crashed, written)

theorem transaction_ensures {α : Type}
    {body : CanonicalDatabase → Except Raised (α × CanonicalDatabase)}
    {returned : α → GatewayWorld → Prop}
    (hError : ∀ error, body world.database = .error error → raised error world)
    (hLost : raised databaseError world) (hDead : crashed world)
    (hWritten : ∀ value database, body world.database = .ok (value, database) →
      returned value { world with database := database } ∧
        raised databaseError { world with database := database } ∧
        crashed { world with database := database }) :
    Procedure.Ensures (transaction outcome body) world
      (Procedure.outcomes returned raised crashed) := by
  unfold Procedure.Ensures transaction
  cases hBody : body world.database with
  | error error => exact hError error hBody
  | ok result =>
    obtain ⟨value, database⟩ := result
    obtain ⟨hReturned, hUnconfirmed, hCrashed⟩ := hWritten value database hBody
    cases outcome with
    | committed => exact hReturned
    | failed => exact hLost
    | unconfirmed => exact hUnconfirmed
    | crashedBefore => exact hDead
    | crashedAfter => exact hCrashed

/-- How a read of the database ends, or the process during it. -/
inductive ReadOutcome
  | answered
  | failed
  | crashed
  deriving Repr

/-- A read outside any transaction. -/
def readDatabase {α : Type} (outcome : ReadOutcome) (query : CanonicalDatabase → α) :
    Gateway α := fun world =>
  match outcome with
  | .answered => (.returned (query world.database), world)
  | .failed => (.raised databaseError, world)
  | .crashed => (.crashed, world)

theorem readDatabase_ensures {α : Type} {outcome : ReadOutcome} {query : CanonicalDatabase → α}
    {returned : α → GatewayWorld → Prop} (hReturned : returned (query world.database) world)
    (hRaised : raised databaseError world) (hCrashed : crashed world) :
    Procedure.Ensures (readDatabase outcome query) world
      (Procedure.outcomes returned raised crashed) := by
  unfold Procedure.Ensures readDatabase
  cases outcome with
  | answered => exact hReturned
  | failed => exact hRaised
  | crashed => exact hCrashed

section

variable (hR : Procedure.Evolution R)
include hR

variable {α : Type}

/-- A transaction keeps what its body, when it succeeds, keeps. -/
theorem keeps_transaction {body : CanonicalDatabase → Except Raised (α × CanonicalDatabase)}
    (h : ∀ world value database, body world.database = .ok (value, database) →
      R world { world with database := database }) :
    Procedure.Keeps R (transaction outcome body) := by
  intro world
  unfold transaction
  cases hBody : body world.database with
  | error => exact hR.refl world
  | ok result =>
    have hWritten := h world result.1 result.2 hBody
    cases outcome with
    | committed | unconfirmed | crashedAfter => exact hWritten
    | failed | crashedBefore => exact hR.refl world

theorem keeps_readDatabase (outcome : ReadOutcome) (query : CanonicalDatabase → α) :
    Procedure.Keeps R (readDatabase outcome query) := by
  intro world
  cases outcome <;> exact hR.refl world

/-! ## The broker boundary -/

/-- An exception of a broker mutation: its text, and the answer of the broker's
own classifier (`none` when the classifier raised). -/
structure BrokerError where
  message : String
  ambiguous : Option Bool := none

/-- `ambiguous`: a classifier that raises counts as ambiguous. -/
def BrokerError.isAmbiguous (error : BrokerError) : Bool := error.ambiguous.getD true

/-- How `_execute_scheduled_mutation` ends.  The scheduler, the migration marker or
an observer may raise before the broker's method is entered, and the observer of
the ended mutation may raise after it, in place of what the broker answered. -/
inductive MutationAnswer (α : Type)
  | notEntered (error : BrokerError)
  | raised (error : BrokerError)
  | returned (value : α)
  | observerRaised (answered : Except BrokerError α) (error : BrokerError)
  | crashedBefore
  | crashedInside

/-- The broker's method was entered. -/
def MutationAnswer.isEntered : MutationAnswer α → Bool
  | .notEntered _ | .crashedBefore => false
  | .raised _ | .returned _ | .observerRaised _ _ | .crashedInside => true

/-- The broker itself refused, with an error it classifies as definitive. -/
def MutationAnswer.isDefinitiveRejection : MutationAnswer α → Bool
  | .raised error | .observerRaised (.error error) _ => !error.isAmbiguous
  | _ => false

/-- `_execute_scheduled_mutation`: an exception is left to the caller's `except`. -/
def executeScheduledMutation (answer : MutationAnswer α)
    (event : CanonicalDatabase → GatewayEvent) : Gateway (Except BrokerError α) :=
  fun world =>
    let entered := { world with history := world.history ++ [event world.database] }
    match answer with
    | .notEntered error => (.returned (.error error), world)
    | .raised error => (.returned (.error error), entered)
    | .returned value => (.returned (.ok value), entered)
    | .observerRaised _ error => (.returned (.error error), entered)
    | .crashedBefore => (.crashed, world)
    | .crashedInside => (.crashed, entered)

def persistOrRaiseAmbiguous (context : String) (persist : Gateway α) : Gateway α := do
  match ← Procedure.attempt persist with
  | .ok value => pure value
  | .error error =>
    if error.cls = .ambiguousPostBrokerPersistence then Procedure.raise error
    else
      Procedure.raise
        { cls := .ambiguousPostBrokerPersistence
          message := context ++ ": the broker call already completed, but persisting that " ++
            "outcome failed: " ++ error.message ++ ". The durable record was not confirmed " ++
            "updated -- treat this as unresolved, never as rejected, and do not " ++
            "resubmit/re-cancel." }

theorem keeps_persistOrRaiseAmbiguous (context : String) {persist : Gateway α}
    (h : Procedure.Keeps R persist) :
    Procedure.Keeps R (persistOrRaiseAmbiguous context persist) := by
  unfold persistOrRaiseAmbiguous
  refine h.attempt.bind hR fun result => ?_
  cases result with
  | ok value => exact Procedure.keeps_pure hR value
  | error =>
    dsimp only
    split
    all_goals exact Procedure.keeps_raise hR _

end

/-! ## Records -/

def cancellableForReplace (record : ExecutionOrderRecord) : Bool :=
  if record.origin = .userAdopted ∧ .replace ∉ record.adoptionPermissions then false
  else
    record.brokerIdentityStatus = .exact_ && record.brokerOrderId ≠ "" &&
      (record.recoveryState = .none_ || record.recoveryState = .cancelRequired) &&
      .cancelPending ∈ allowedStatusTransitions record.status

def transitionRecoveryState (record : ExecutionOrderRecord) (target : OrderRecoveryState) :
    Except Raised ExecutionOrderRecord :=
  if target ∈ allowedRecoveryTransitions record.recoveryState then do
    let moved := { record with recoveryState := target }
    validateConsistency moved
    pure moved
  else
    .error
      { cls := .invalidOrderRecoveryTransition
        message := "OrderRecoveryState cannot transition " ++ record.recoveryState.value ++
          " -> " ++ target.value }

end QuantApp.Services
