import QuantApp.Services.GatewayWorld

/-!
# The emergency journal

`EmergencyJournal` of `src/services/emergency_journal.py`.  The file is a list of
lines; one that cannot be read, or a sequence that does not grow, stops every
later call.  An append holds the file lock from its read to its `fsync`.

`reconcileIntoCanonical` folds every pending request into the canonical database,
one transaction a request (`foldRequest`), and only then marks them in the file.
-/

namespace QuantApp.Services

open Core Verified
open Procedure (ofExcept raise)

/-! ## The file -/

/-- An `EmergencyJournalIntegrityError`. -/
def journalIntegrityError (message : String) : Raised :=
  { cls := .emergencyJournalIntegrity, message := message }

/-- `_read_unlocked`, from the line after `priorSequence`. -/
def readJournalFrom (priorSequence : Int) : List JournalLine → Except Raised (List JournalEntry)
  | [] => .ok []
  | .unreadable :: _ => .error (journalIntegrityError "Invalid emergency journal JSON")
  | .entry entry :: lines =>
    if entry.sequence ≤ priorSequence then
      .error (journalIntegrityError "Emergency journal sequence is not strictly monotonic")
    else do
      let entries ← readJournalFrom entry.sequence lines
      pure (entry :: entries)

/-- `_read_unlocked` and `load_entries`. -/
def readJournal (lines : List JournalLine) : Except Raised (List JournalEntry) :=
  readJournalFrom 0 lines

/-- `existing[-1]["sequence"] if existing else 0`. -/
def lastSequence (entries : List JournalEntry) : Int :=
  match entries.getLast? with
  | none => 0
  | some entry => entry.sequence

/-- How an append ends, or the process during it. -/
inductive AppendOutcome
  | appended
  | lockTimeout
  | shortWrite
  | syncFailed
  | crashedBefore
  | crashedTorn
  | crashedAfter
  deriving Repr

variable (outcome : AppendOutcome)

/-- `_append_unlocked`, once the existing entries are read. -/
def appendUnlocked (existing : List JournalEntry)
    (event : JournalEvent) : Gateway JournalEntry := fun world =>
  let entry := { sequence := lastSequence existing + 1, event := event }
  let written := { world with journal := world.journal ++ [.entry entry] }
  let torn := { world with journal := world.journal ++ [.unreadable] }
  match outcome with
  | .appended => (.returned entry, written)
  | .lockTimeout =>
    (.raised { cls := .osError, message := "Timed out waiting for emergency-journal lock" }, world)
  | .shortWrite =>
    (.raised { cls := .osError, message := "Short emergency-journal append" }, torn)
  | .syncFailed => (.raised { cls := .osError, message := "fsync failed" }, written)
  | .crashedBefore => (.crashed, world)
  | .crashedTorn => (.crashed, torn)
  | .crashedAfter => (.crashed, written)

/-- Reading the journal ends as its reader does. -/
theorem readJournal_run {world : GatewayWorld} {read : Except Raised (List JournalEntry)}
    (h : readJournal world.journal = read) :
    (ofExcept =<< Procedure.read
      (fun world : GatewayWorld => readJournal world.journal)) world = ofExcept read world := by
  rw [← h]
  rfl

/-- `_append`. -/
def appendEvent (event : JournalEvent) : Gateway JournalEntry := do
  let existing ← ofExcept =<< Procedure.read (fun world => readJournal world.journal)
  appendUnlocked outcome existing event

variable (entries : List JournalEntry)

/-- The REQUESTED entries. -/
def requestedEntries : List (Int × JournalRequest) :=
  entries.filterMap (fun entry =>
    match entry.event with
    | .requested request => some (entry.sequence, request)
    | _ => none)

/-- The keys of the REQUESTED entries. -/
def requestedKeys : List String := (requestedEntries entries).map (·.2.idempotencyKey)

def appendRequested (request : JournalRequest) :
    Gateway JournalEntry := do
  if request.idempotencyKey = "" then
    raise
      { cls := .valueError, message := "Emergency command requires idempotency_key" }
  else
    let existing ← ofExcept =<< Procedure.read (fun world => readJournal world.journal)
    if request.idempotencyKey ∈ requestedKeys existing then
      raise
        { cls := .duplicateEmergencyCommand
          message := "Emergency command '" ++ request.idempotencyKey ++ "' was already journaled" }
    else appendUnlocked outcome existing (.requested request)

variable (requestedSequence : Int)

def appendOutcome (status : CommandStatus) (response : JournalResponse) : Gateway JournalEntry :=
  appendEvent outcome (.outcome requestedSequence status response)

def appendReconciled : Gateway JournalEntry := appendEvent outcome (.reconciled requestedSequence)

/-- The sequences that a RECONCILED entry names. -/
def reconciledSequences : List Int :=
  entries.filterMap (fun entry =>
    match entry.event with
    | .reconciled sequence => some sequence
    | _ => none)

def pendingRequests : List (Int × JournalRequest) :=
  (requestedEntries entries).filter (fun request => request.1 ∉ reconciledSequences entries)

/-- The outcome of a request: of several, the last one. -/
def outcomeOf : Option (CommandStatus × JournalResponse) :=
  (entries.filterMap (fun entry =>
    match entry.event with
    | .outcome sequence status response =>
      if sequence = requestedSequence then some (status, response) else none
    | _ => none)).getLast?

/-! ## Folding one request -/

/-- A pending request with its sequence and its outcome. -/
structure PendingRequest where
  sequence : Int
  request : JournalRequest
  outcome : Option (CommandStatus × JournalResponse)
  deriving DecidableEq

/-- The status of an outcome; a missing one counts as AMBIGUOUS. -/
def PendingRequest.outcomeStatus (pending : PendingRequest) : CommandStatus :=
  (pending.outcome.map (·.1)).getD .ambiguous

/-- `(outcome.get("broker_response") or {}).get("broker_order_id")`. -/
def PendingRequest.brokerOrderId (pending : PendingRequest) : String :=
  match pending.outcome with
  | some (_, .submitted brokerOrderId) => brokerOrderId
  | _ => ""

/-- The command a request stands for. -/
def JournalRequest.command (request : JournalRequest) : ExecutionCommand :=
  { idempotencyKey := strip request.idempotencyKey
    commandType :=
      match request.payload with
      | .submit _ => .submit
      | .cancel _ => .cancel
    environment := request.environment
    accountNo := request.accountNo
    symbol := request.symbol
    leaseEpoch := request.leaseEpoch
    ownerDeviceId := request.deviceId
    leaseToken := request.leaseToken
    targetBrokerOrderId := request.targetBrokerOrderId
    requestedAt := request.createdAt
    source := request.source }

/-- The stored command of the request, inserted when there is none. -/
def recordCommand (commands : List ExecutionCommand) (request : JournalRequest) :
    Except Raised (List ExecutionCommand × ExecutionCommand) :=
  match getCommand commands request.idempotencyKey with
  | some command => pure (commands, command)
  | none => do
    let inserted ← insertCommand commands request.command
    pure (inserted, request.command)

/-- The command of the request, recorded and settled by its outcome. -/
def foldCommand (commands : List ExecutionCommand) (pending : PendingRequest) :
    Except Raised (List ExecutionCommand) := do
  let (recorded, command) ← recordCommand commands pending.request
  match pending.outcome with
  | some (status, _) =>
    if command.status = .requested then do
      let (written, _) ← updateCommandResponse recorded pending.request.idempotencyKey status
        (some command.version)
      pure written
    else pure recorded
  | none => pure recorded

/-- The order a journaled submission stands for, before its status is settled. -/
def SubmitPayload.order (payload : SubmitPayload) (request : JournalRequest)
    (preparedAt : IsoText) (hNamed : payload.clientOrderId ≠ "") : ExecutionOrderRecord :=
  { environment := request.environment
    accountNo := request.accountNo
    symbol := request.symbol
    side := payload.side
    intent := payload.intent
    clientOrderId := payload.clientOrderId
    attemptGroupId := payload.attemptGroupId
    attemptNumber := if payload.attemptNumber = 0 then 1 else payload.attemptNumber
    submittedQuantity := payload.quantity
    submittedLimitPrice := payload.limitPrice
    remainingQuantity := payload.quantity
    exchange := payload.exchange
    executionPolicy := payload.executionPolicy
    preparedAt := preparedAt
    ownerDeviceId := request.deviceId
    leaseToken := request.leaseToken
    leaseEpoch := request.leaseEpoch
    clientOrderIdNamed := hNamed }

variable (now : IsoText)

/-- The order of a journaled submission, settled by its outcome. -/
def settledSubmission (pending : PendingRequest)
    (record : ExecutionOrderRecord) : Except Raised ExecutionOrderRecord := do
  let submitting ← applyStatusTransition record .submitting none now
  if pending.outcomeStatus = .acknowledged ∧ pending.brokerOrderId ≠ "" then
    applyStatusTransition submitting .acknowledged (some pending.brokerOrderId) now
  else if pending.outcomeStatus = .failed then
    applyStatusTransition { submitting with remainingQuantity := 0 } .rejected none now
  else applyStatusTransition submitting .unknownSubmissionState none now

/-- The order a journaled submission inserts when none is stored. -/
def foldSubmittedOrder (orders : List ExecutionOrderRecord)
    (pending : PendingRequest) (payload : SubmitPayload) :
    Except Raised (List ExecutionOrderRecord) :=
  if hNamed : payload.clientOrderId = "" then .ok orders
  else if (getExecutionOrder orders payload.clientOrderId).isSome then .ok orders
  else do
    let record ← settledSubmission now pending (payload.order pending.request now hNamed)
    insertExecutionOrder orders record

/-- The status a cancel answer moves the order to. -/
def cancelAnswerTarget : OrderStatus → Option ExecutionOrderStatus
  | .cancelled => some .cancelled
  | .filled => some .filled
  | .partiallyFilled => some .partiallyFilled
  | _ => none

variable (record : ExecutionOrderRecord)

/-- The order under CANCEL_PENDING, when its status may get there. -/
def requestCancel : Except Raised ExecutionOrderRecord :=
  if record.status ≠ .cancelPending ∧ .cancelPending ∈ allowedStatusTransitions record.status then
    applyStatusTransition record .cancelPending none now
  else pure record

/-- `validate_recovery_transition` and the assignment after it, without the whole-record
check. -/
def moveRecoveryState (target : OrderRecoveryState) : Except Raised ExecutionOrderRecord :=
  if target ∈ allowedRecoveryTransitions record.recoveryState then
    .ok { record with recoveryState := target }
  else
    .error
      { cls := .invalidOrderRecoveryTransition
        message := "OrderRecoveryState cannot transition " ++ record.recoveryState.value ++
          " -> " ++ target.value }

/-- The fills and the status an acknowledged cancel reports. -/
def applyCancelAnswer (normalized : OrderStatus)
    (filledQuantity remainingQuantity : Int) (averageFillPrice : ℚ) :
    Except Raised ExecutionOrderRecord :=
  let filled :=
    { record with
      filledQuantity := max record.filledQuantity filledQuantity
      remainingQuantity := max 0 remainingQuantity
      averageFillPrice :=
        if averageFillPrice ≠ 0 then averageFillPrice else record.averageFillPrice }
  match cancelAnswerTarget normalized with
  | some target =>
    if target ∈ allowedStatusTransitions filled.status then
      applyStatusTransition filled target none now
    else pure filled
  | none => moveRecoveryState filled .discovering

/-- The order a journaled cancellation was answered for. -/
def cancelledOrder (status : CommandStatus)
    (response : JournalResponse) : Except Raised ExecutionOrderRecord :=
  match status, response with
  | .acknowledged, .cancelled normalized filledQuantity remainingQuantity averageFillPrice => do
    let pendingCancel ← requestCancel now record
    applyCancelAnswer now pendingCancel normalized filledQuantity remainingQuantity
      averageFillPrice
  | .acknowledged, _ => do
    -- an answer without the normalized fields reads as an unknown status
    let pendingCancel ← requestCancel now record
    applyCancelAnswer now pendingCancel .unknown 0 0 0
  | .ambiguous, _ =>
    if record.recoveryState = .none_ then moveRecoveryState record .discovering
    else pure record
  | _, _ => pure record

/-- The order of a journaled cancellation, when it is stored and answered. -/
def foldCancelledOrder (orders : List ExecutionOrderRecord)
    (pending : PendingRequest) (payload : CancelPayload) :
    Except Raised (List ExecutionOrderRecord) :=
  match getExecutionOrder orders payload.clientOrderId, pending.outcome with
  | some record, some (status, response) => do
    let updated ← cancelledOrder now record status response
    let (written, _) ← updateExecutionOrder orders updated record.version
    pure written
  | _, _ => pure orders

/-- The card of a journaled protective SELL: liquidating, linked to the SELL. -/
def liquidatedCard (now : Instant) (pending : PendingRequest) (payload : SubmitPayload)
    (card : TradeCardState) : TradeCardState :=
  let attemptNumber := max 1 (if payload.attemptNumber = 0 then 1 else payload.attemptNumber)
  let liquidating :=
    { card with
      exitAllRequired := true
      boardStatus := .sellAll
      positionRuntimeStatus := .liquidating
      exitAttemptGroupId := payload.attemptGroupId
      exitAttemptCount := max card.exitAttemptCount attemptNumber
      updatedAt := now
      version := card.version + 1 }
  if pending.outcomeStatus = .failed then
    { liquidating with
      exitClientOrderId := ""
      exitPendingAttemptNumber := 0
      exitSubmissionUnresolved := false }
  else
    { liquidating with
      exitClientOrderId := payload.clientOrderId
      exitPendingAttemptNumber := attemptNumber
      exitSubmissionUnresolved := pending.outcomeStatus ≠ .acknowledged }

/-- The cards after a journaled submission. -/
def foldLiquidatedCard (now : Instant) (cards : List TradeCardState) (pending : PendingRequest)
    (payload : SubmitPayload) : List TradeCardState :=
  if payload.side = .sell then
    match lookup TradeCardState.cardKey
        (pending.request.environment, pending.request.accountNo, pending.request.symbol) cards with
    | none => cards
    | some card => store TradeCardState.cardKey (liquidatedCard now pending payload card) cards
  else cards

/-- The reconciliation row of the request exists. -/
def isMarked (database : CanonicalDatabase) (sequence : Int) : Bool :=
  database.journalReconciliations.any (fun row => row.requestedSequence = sequence)

/-- The orders and the cards after a request. -/
def foldOrders (now : IsoText) (clock : Instant) (pending : PendingRequest)
    (database : CanonicalDatabase) :
    Except Raised (List ExecutionOrderRecord × List TradeCardState) :=
  match pending.request.payload with
  | .submit payload => do
    let orders ← foldSubmittedOrder now database.executionOrders pending payload
    pure (orders, foldLiquidatedCard clock database.tradeCards pending payload)
  | .cancel payload => do
    let orders ← foldCancelledOrder now database.executionOrders pending payload
    pure (orders, database.tradeCards)

/-- The reconciliation rows after a request: a row that exists is not written again. -/
def markReconciled (pending : PendingRequest) (database : CanonicalDatabase) :
    List JournalReconciliation :=
  if isMarked database pending.sequence then database.journalReconciliations
  else database.journalReconciliations ++
    [{ requestedSequence := pending.sequence
       idempotencyKey := pending.request.idempotencyKey }]

/-- The transaction of one request. -/
def foldRequest (now : IsoText) (clock : Instant) (pending : PendingRequest)
    (database : CanonicalDatabase) : Except Raised (Unit × CanonicalDatabase) := do
  let commands ← foldCommand database.executionCommands pending
  let (orders, cards) ← foldOrders now clock pending database
  pure ((), { database with
    executionCommands := commands
    executionOrders := orders
    tradeCards := cards
    journalReconciliations := markReconciled pending database })

/-! ## Reconciliation -/

/-- The requests `reconcile_into_canonical` works through. -/
def pendingOf (entries : List JournalEntry) : List PendingRequest :=
  (pendingRequests entries).map (fun request =>
    { sequence := request.1, request := request.2, outcome := outcomeOf entries request.1 })

/-- What reconciliation is answered: how each transaction and each append ends. -/
structure ReconcileAnswers where
  now : IsoText
  clock : Instant
  commit : Int → CommitOutcome := fun _ => .committed
  append : Int → AppendOutcome := fun _ => .appended

/-- `reconcile_into_canonical`: the number of completed requests. -/
def reconcileIntoCanonical (answers : ReconcileAnswers) : Gateway Nat := do
  let entries ← ofExcept =<< Procedure.read (fun world => readJournal world.journal)
  let requests := pendingOf entries
  requests.forM (fun pending =>
    transaction (answers.commit pending.sequence)
      (foldRequest answers.now answers.clock pending))
  requests.forM (fun pending => do
    let _ ← appendReconciled (answers.append pending.sequence) pending.sequence)
  pure requests.length

end QuantApp.Services
