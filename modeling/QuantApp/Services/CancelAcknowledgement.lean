import QuantApp.Api.KisCancelOrder
import QuantApp.Services.StoredOrders
import QuantApp.Services.SubmissionRun

/-!
# An acknowledged cancel is not a completed cancel

`_do_cancel` of `src/services/execution_command_gateway.py` with the answer of
`cancel_overseas_order`.  An answer that is read as CANCEL_REQUESTED leaves the order
CANCEL_PENDING and DISCOVERING, and nothing of its reservation is touched.  The recovery
table lets only an order without a recovery state go to DISCOVERING, although a cancel is
also permitted from CANCEL_REQUIRED.
-/

namespace QuantApp.Services

open Api Core Verified
open Procedure (bind_returned ofExcept attempt_returned)

variable {world : GatewayWorld} {answer : GateAnswer Unit} {snapshot : BrokerOrderStatusSnapshot}
  {rows : List ExecutionOrderRecord} {row : ExecutionOrderRecord} {id : String}

/-- The cancel request for an order. -/
def cancelOrderRequest (record : ExecutionOrderRecord) : CancelOrderRequest :=
  { environment := record.environment
    accountNo := record.accountNo
    symbol := record.symbol
    brokerOrderId := record.brokerOrderId
    quantity := some
      (if record.remainingQuantity ≠ 0 then record.remainingQuantity
      else record.submittedQuantity)
    side := some record.side.value }

/-- The cancel passes its gates and is journaled; the next step is the broker call. -/
structure CancelPassed (request : CancelExecutionRequest) (answers : CancelAnswers)
    (permissionCheck : ExecutionOrderRecord → Bool) (record : ExecutionOrderRecord)
    (world : GatewayWorld) (cancelling : ExecutionOrderRecord) (database : CanonicalDatabase) :
    Prop where
  commandStripped : strip request.cancelCommandId = request.cancelCommandId
  environment : record.environment = request.environment
  accountNo : record.accountNo = request.accountNo
  leased : request.lease.isSome = true
  ownership : answers.ownership = .ok ()
  verifiedLease : answers.verifiedLease = .ok ()
  mutationBudget : answers.mutationBudget = .ok ()
  permitted : permissionCheck record = true
  prepared : prepareCancel request answers record world.database = .ok (cancelling, database)
  committed : answers.prepare = .committed
  finalOwnership : answers.finalOwnership = .ok ()
  finalVerifiedLease : answers.finalVerifiedLease = .ok ()
  finalLiveMutation : answers.finalLiveMutation = .ok ()
  finalFence : answers.finalFence = .ok ()

/-- The cancel of a regular order passes its gates, is journaled and reaches the broker. -/
structure CancelSent (request : CancelExecutionRequest) (answers : CancelAnswers)
    (permissionCheck : ExecutionOrderRecord → Bool) (record : ExecutionOrderRecord)
    (world : GatewayWorld) (cancelling : ExecutionOrderRecord) (database : CanonicalDatabase) :
    Prop where
  commandStripped : strip request.cancelCommandId = request.cancelCommandId
  environment : record.environment = request.environment
  accountNo : record.accountNo = request.accountNo
  regular : record.executionPolicy ≠ reservedMooExecution
  leased : request.lease.isSome = true
  ownership : answers.ownership = .ok ()
  verifiedLease : answers.verifiedLease = .ok ()
  mutationBudget : answers.mutationBudget = .ok ()
  permitted : permissionCheck record = true
  prepared : prepareCancel request answers record world.database = .ok (cancelling, database)
  committed : answers.prepare = .committed
  finalOwnership : answers.finalOwnership = .ok ()
  finalVerifiedLease : answers.finalVerifiedLease = .ok ()
  finalLiveMutation : answers.finalLiveMutation = .ok ()
  finalFence : answers.finalFence = .ok ()

theorem CancelSent.passed {request : CancelExecutionRequest} {answers : CancelAnswers}
    {permissionCheck : ExecutionOrderRecord → Bool} {record cancelling : ExecutionOrderRecord}
    {database : CanonicalDatabase}
    (h : CancelSent request answers permissionCheck record world cancelling database) :
    CancelPassed request answers permissionCheck record world cancelling database :=
  { h with }

section Sent

variable {request : CancelExecutionRequest} {answers : CancelAnswers}
  {permissionCheck : ExecutionOrderRecord → Bool} {record cancelling : ExecutionOrderRecord}
  {world : GatewayWorld} {database : CanonicalDatabase} {release : Bool}

/-- The world in which the broker's answer arrives. -/
def cancelEntered (world : GatewayWorld) (cancelling : ExecutionOrderRecord)
    (database : CanonicalDatabase) : GatewayWorld :=
  { world with
    database := database
    history := world.history ++ [.cancelEntered cancelling] }

theorem transaction_committed {α : Type}
    {body : CanonicalDatabase → Except Raised (α × CanonicalDatabase)} {value : α}
    {written : CanonicalDatabase} (h : body world.database = .ok (value, written)) :
    transaction .committed body world = (.returned value, { world with database := written }) := by
  unfold transaction
  rw [h]

theorem requireVerifiedLease_passes {lease : Option ExecutionLease} (hLease : lease.isSome = true)
    (hAnswer : answer = .ok ()) (world : GatewayWorld) :
    requireVerifiedLease lease answer world = (.returned (), world) := by
  cases lease with
  | none => cases hLease
  | some =>
    rw [hAnswer]
    rfl

theorem gate_passes (hAnswer : answer = .ok ()) (world : GatewayWorld) :
    gate answer world = (.returned (), world) := by
  rw [hAnswer]
  rfl

section

variable (h : CancelPassed request answers permissionCheck record world cancelling database)
include h

theorem CancelPassed.finalCancelGates (after : GatewayWorld) :
    finalCancelGates request answers after = (.returned (), after) := by
  unfold Services.finalCancelGates
  rw [bind_returned (gate_passes h.finalOwnership after),
    bind_returned (requireVerifiedLease_passes h.leased h.finalVerifiedLease after),
    bind_returned (gate_passes h.finalLiveMutation after)]
  exact gate_passes h.finalFence after

theorem CancelPassed.doCancel (hBroker : answers.broker = .returned snapshot) :
    doCancel request answers permissionCheck release record world =
      (do
        let answered ← ofExcept (cancelResponse answers.now cancelling snapshot)
        persistOrRaiseAmbiguous
          ("cancel '" ++ request.clientOrderId ++ "' success persistence")
          (transaction answers.persist (recordCancelSuccess request answers release answered)) :
        Gateway ExecutionOrderRecord) (cancelEntered world cancelling database) := by
  unfold Services.doCancel
  have hAccount : ¬ (record.environment ≠ request.environment ∨
      record.accountNo ≠ request.accountNo) := by
    simp [h.environment, h.accountNo]
  rw [if_neg hAccount, bind_returned (gate_passes h.ownership world),
    bind_returned (requireVerifiedLease_passes h.leased h.verifiedLease world),
    bind_returned (gate_passes h.mutationBudget world),
    if_neg (by simp [h.permitted])]
  have hPrepared : transaction answers.prepare (prepareCancel request answers record) world =
      (.returned cancelling, { world with database := database }) := by
    rw [h.committed]
    exact transaction_committed h.prepared
  rw [bind_returned hPrepared, bind_returned (attempt_returned (h.finalCancelGates _))]
  have hEntered : executeScheduledMutation answers.broker
      (fun _ => GatewayEvent.cancelEntered cancelling) { world with database := database } =
        (.returned (.ok snapshot), cancelEntered world cancelling database) := by
    rw [hBroker]
    rfl
  exact bind_returned hEntered

end

/-! ## The journaled cancel -/

/-- What the transaction before the broker call has written. -/
structure CancelJournaled (request : CancelExecutionRequest)
    (record cancelling : ExecutionOrderRecord) (before after : CanonicalDatabase) : Prop where
  consistent : cancelling.Consistent
  status : cancelling.status = .cancelPending
  recovery : cancelling.recoveryState = record.recoveryState
  clientOrderId : cancelling.clientOrderId = record.clientOrderId
  stored : getExecutionOrder after.executionOrders record.clientOrderId = some cancelling
  identity : Unclaimed identityKeyOrNone after.executionOrders cancelling
  adoption : Unclaimed adoptionSourceOrNone after.executionOrders cancelling
  command : ∃ command, getCommand after.executionCommands (cancelKey request.cancelCommandId) =
    some command ∧ command.status = .requested
  reservations : after.capitalReservations = before.capitalReservations

theorem unclaimed_store {κ : Type} {claim : ExecutionOrderRecord → Option κ}
    (h : Unclaimed claim rows row) :
    Unclaimed claim (store ExecutionOrderRecord.clientOrderId row rows) row :=
  forall_mem_store h fun _ _ _ => rfl

theorem getExecutionOrder_store {old : ExecutionOrderRecord} (hId : row.clientOrderId = id)
    (h : getExecutionOrder rows id = some old) :
    getExecutionOrder (store ExecutionOrderRecord.clientOrderId row rows) id = some row := by
  subst hId
  exact lookup_store_self h

theorem strip_cancelKey (hId : strip id = id) : strip (cancelKey id) = cancelKey id := by
  by_cases hNamed : id = ""
  · rw [hNamed]
    decide +kernel
  · exact strip_append (by decide +kernel) (by decide) hId hNamed

theorem CancelPassed.journaled (h : CancelPassed request answers permissionCheck record world
    cancelling database) :
    CancelJournaled request record cancelling world.database database := by
  have hPrepared := h.prepared
  unfold prepareCancel at hPrepared
  obtain ⟨_, _, hPrepared⟩ := bind_eq_ok.mp hPrepared
  obtain ⟨commands, hCommands, hPrepared⟩ := bind_eq_ok.mp hPrepared
  obtain ⟨pending, hPending, hPrepared⟩ := bind_eq_ok.mp hPrepared
  obtain ⟨⟨rows, written⟩, hRows, hWritten⟩ := bind_eq_ok.mp hPrepared
  cases hWritten
  obtain ⟨hFresh, hAppended⟩ := insertCommand_ok hCommands
  obtain ⟨_, _, hTransitioned⟩ := applyStatusTransition_none_ok hPending
  obtain ⟨hCan, hCancelling, hStore⟩ := updateExecutionOrder_eq_ok_iff.mp hRows
  obtain ⟨current, hCurrent, _⟩ := hCan.stored
  have hKey : (cancelCommand request record answers.now).idempotencyKey =
      cancelKey request.cancelCommandId := strip_cancelKey h.commandStripped
  have hId : cancelling.clientOrderId = pending.clientOrderId := by
    rw [hCancelling]
  have hRecord : pending.clientOrderId = record.clientOrderId := by
    rw [hTransitioned]
    rfl
  have hIdentity : Unclaimed identityKeyOrNone world.database.executionOrders cancelling := by
    rw [hCancelling]
    exact hCan.identity
  have hAdoption : Unclaimed adoptionSourceOrNone world.database.executionOrders cancelling := by
    rw [hCancelling]
    exact hCan.adoption
  constructor
  · rw [hCancelling]
    exact hCan.consistent.versioned _
  · rw [hCancelling, hTransitioned]
    rfl
  · rw [hCancelling, hTransitioned]
    rfl
  · exact hId.trans hRecord
  · rw [hRecord] at hCurrent
    show getExecutionOrder rows record.clientOrderId = some cancelling
    rw [hStore]
    exact getExecutionOrder_store (hId.trans hRecord) hCurrent
  · show Unclaimed identityKeyOrNone rows cancelling
    rw [hStore]
    exact unclaimed_store hIdentity
  · show Unclaimed adoptionSourceOrNone rows cancelling
    rw [hStore]
    exact unclaimed_store hAdoption
  · refine ⟨cancelCommand request record answers.now, ?_, rfl⟩
    show lookup ExecutionCommand.idempotencyKey _ commands = _
    rw [hAppended, ← hKey]
    exact lookup_append_fresh hFresh
  · rfl

/-! ## The answer -/

/-- The record that an answer without fills is applied to. -/
def reportedUnfilled (cancelling : ExecutionOrderRecord) (price : ℚ) : ExecutionOrderRecord :=
  { cancelling with
    filledQuantity := max cancelling.filledQuantity 0
    averageFillPrice := if price ≠ 0 then price else cancelling.averageFillPrice
    remainingQuantity := max 0
      (cancelling.submittedQuantity - max cancelling.filledQuantity 0) }

theorem reportedUnfilled_consistent (h : cancelling.Consistent) (price : ℚ)
    (state : OrderRecoveryState) :
    { reportedUnfilled cancelling price with recoveryState := state }.Consistent := by
  have hFilled := h.filledNonneg
  have hRemaining := h.remainingNonneg
  have hFits := h.fillsFit
  constructor
  · exact h.identity
  · exact h.noBrokerOrder
  · exact h.applicationPermissions
  · exact h.adoptedFrom
  · exact h.submittedNonneg
  · show 0 ≤ max cancelling.filledQuantity 0
    omega
  · show 0 ≤ max 0 (cancelling.submittedQuantity - max cancelling.filledQuantity 0)
    omega
  · show max cancelling.filledQuantity 0 +
      max 0 (cancelling.submittedQuantity - max cancelling.filledQuantity 0) ≤
        cancelling.submittedQuantity
    omega
  · exact h.attempt
  · exact h.epoch

theorem discovering_allowed_iff (state : OrderRecoveryState) :
    .discovering ∈ allowedRecoveryTransitions state ↔ state = .none_ := by
  cases state <;> decide

/-- A requested cancel moves the order to DISCOVERING, from no recovery state only. -/
theorem cancelResponse_requested {now : IsoText} (hConsistent : cancelling.Consistent)
    (hStatus : snapshot.status = .cancelRequested) (hFilled : snapshot.filledQuantity = 0)
    (hRemaining : snapshot.remainingQuantity = 0) :
    if cancelling.recoveryState = .none_ then
      cancelResponse now cancelling snapshot =
        .ok { reportedUnfilled cancelling snapshot.avgFillPrice with recoveryState := .discovering }
    else ∃ error, cancelResponse now cancelling snapshot = .error error := by
  have hMoves : cancelResponse now cancelling snapshot =
      transitionRecoveryState (reportedUnfilled cancelling snapshot.avgFillPrice) .discovering := by
    unfold cancelResponse
    rw [hStatus, hFilled, hRemaining]
    rfl
  rw [hMoves]
  unfold transitionRecoveryState
  by_cases hNone : cancelling.recoveryState = .none_
  · have hAllowed : .discovering ∈ allowedRecoveryTransitions
        (reportedUnfilled cancelling snapshot.avgFillPrice).recoveryState :=
      (discovering_allowed_iff _).mpr hNone
    rw [if_pos hNone, if_pos hAllowed]
    show (do
      validateConsistency { reportedUnfilled cancelling snapshot.avgFillPrice with
        recoveryState := .discovering }
      pure _ : Except Raised ExecutionOrderRecord) = _
    rw [(validateConsistency_eq_ok_iff _).mpr
      (reportedUnfilled_consistent hConsistent snapshot.avgFillPrice .discovering)]
    rfl
  · have hRefused : .discovering ∉ allowedRecoveryTransitions
        (reportedUnfilled cancelling snapshot.avgFillPrice).recoveryState :=
      fun hAllowed => hNone ((discovering_allowed_iff _).mp hAllowed)
    rw [if_neg hNone, if_neg hRefused]
    exact ⟨_, rfl⟩

/-- The order is written back, and the reservations are as they were. -/
theorem CancelJournaled.recordCancelSuccess {after : CanonicalDatabase}
    (h : CancelJournaled request record cancelling world.database after)
    {answered : ExecutionOrderRecord} (hConsistent : answered.Consistent)
    (hSame : answered.clientOrderId = cancelling.clientOrderId ∧
      answered.environment = cancelling.environment ∧
      answered.accountNo = cancelling.accountNo ∧ answered.symbol = cancelling.symbol ∧
      answered.version = cancelling.version)
    (hIdentity : identityKeyOrNone answered = identityKeyOrNone cancelling)
    (hAdoption : adoptionSourceOrNone answered = adoptionSourceOrNone cancelling)
    (hStatus : answered.status = .cancelPending) :
    ∃ written, recordCancelSuccess request answers release answered after =
        .ok ({ answered with version := answered.version + 1 }, written) ∧
      getExecutionOrder written.executionOrders record.clientOrderId =
        some { answered with version := answered.version + 1 } ∧
      written.capitalReservations = world.database.capitalReservations := by
  obtain ⟨hId, hEnvironment, hAccount, hSymbol, hVersion⟩ := hSame
  have hStored : getExecutionOrder after.executionOrders answered.clientOrderId =
      some cancelling := by
    rw [hId, h.clientOrderId]
    exact h.stored
  have hCan : CanUpdate after.executionOrders answered answered.version := by
    constructor
    · exact hConsistent
    · exact ⟨cancelling, hStored, hEnvironment.symm, hAccount.symm, hSymbol.symm, hVersion.symm⟩
    · intro row hRow key hKey hOther
      rw [hIdentity] at hKey
      rw [hId]
      exact h.identity row hRow key hKey hOther
    · intro row hRow key hKey hOther
      rw [hAdoption] at hKey
      rw [hId]
      exact h.adoption row hRow key hKey hOther
  obtain ⟨command, hCommand, hRequested⟩ := h.command
  have hOrder := updateExecutionOrder_eq_ok_iff.mpr ⟨hCan, rfl, rfl⟩
  obtain ⟨responded, hResponse⟩ : ∃ responded, updateCommandResponse after.executionCommands
      (cancelKey request.cancelCommandId) .acknowledged none = .ok responded := by
    unfold updateCommandResponse
    rw [hCommand]
    exact ⟨_, if_pos ⟨hRequested, rfl⟩⟩
  have hLive : ¬ ((answered.status = .cancelled ∨ answered.status = .filled) ∧
      answered.capitalReservationId ≠ "" ∧ release = true) := by
    rw [hStatus]
    rintro ⟨hEnded | hEnded, _⟩ <;> cases hEnded
  refine ⟨{ after with
    executionOrders := store ExecutionOrderRecord.clientOrderId
      { answered with version := answered.version + 1 } after.executionOrders
    executionCommands := responded.1 }, ?_, ?_, ?_⟩
  · unfold Services.recordCancelSuccess writeOrder writeResponse
    simp only [hOrder, hResponse, bind, Except.bind, pure, Except.pure]
    rw [if_neg hLive]
  · exact getExecutionOrder_store (hId.trans h.clientOrderId) h.stored
  · exact h.reservations

/-! ## The claim of an acknowledgement -/

/-- The answer is read as a requested cancel, and the order is left open with it: not
terminal, to be discovered, and with every reservation as it was. -/
def StaysOpen (kis : KisText) (request : CancelExecutionRequest) (answers : CancelAnswers)
    (permissionCheck : ExecutionOrderRecord → Bool) (release : Bool)
    (record : ExecutionOrderRecord) (world : GatewayWorld) (result : Row) : Prop :=
  ∃ snapshot, cancelOverseasOrder kis (cancelOrderRequest record) answers.now (.ok result) =
      .ok snapshot ∧
    snapshot.status = .cancelRequested ∧
    ∃ stored after,
      doCancel request { answers with broker := .returned snapshot.toBrokerOrderStatusSnapshot }
          permissionCheck release record world = (.returned stored, after) ∧
        getExecutionOrder after.database.executionOrders record.clientOrderId = some stored ∧
        stored.status.isTerminal = false ∧ stored.recoveryState = .discovering ∧
        after.database.capitalReservations = world.database.capitalReservations

/-- An acknowledged cancel leaves the order open exactly when no text of the answer names a
verdict, its count is read, and the order had no recovery state. -/
theorem acknowledged_cancel_stays_open_iff {kis : KisText} {result : Row}
    (hSent : CancelSent request answers permissionCheck record world cancelling database)
    (hPersist : answers.persist = .committed) (hRequest : (cancelOrderRequest record).Sent)
    (hPlain : PlainRow kis (outputRow result)) :
    StaysOpen kis request answers permissionCheck release record world result ↔
      ((∃ requested, toInt kis (rowValue (cancelRow kis (cancelOrderRequest record) result)
          requestedQuantityKeys) = .ok requested) ∧
        NoVerdict kis (cancelRow kis (cancelOrderRequest record) result)) ∧
      record.recoveryState = .none_ := by
  have hJournaled := hSent.passed.journaled
  rw [← cancelOverseasOrder_cancelRequested_iff answers.now hRequest hPlain, ← hJournaled.recovery]
  -- what the cancel comes to, for an answer that is read as a requested cancel
  have hComes : ∀ snapshot : OrderSnapshot,
      cancelOverseasOrder kis (cancelOrderRequest record) answers.now (.ok result) =
        .ok snapshot → snapshot.status = .cancelRequested →
      doCancel request { answers with broker := .returned snapshot.toBrokerOrderStatusSnapshot }
          permissionCheck release record world =
        (do
          let answered ← ofExcept (cancelResponse answers.now cancelling
            snapshot.toBrokerOrderStatusSnapshot)
          persistOrRaiseAmbiguous
            ("cancel '" ++ request.clientOrderId ++ "' success persistence")
            (transaction .committed (recordCancelSuccess request
              { answers with broker := .returned snapshot.toBrokerOrderStatusSnapshot }
              release answered)) :
          Gateway ExecutionOrderRecord) (cancelEntered world cancelling database) ∧
        if cancelling.recoveryState = .none_ then
          cancelResponse answers.now cancelling snapshot.toBrokerOrderStatusSnapshot =
            .ok { reportedUnfilled cancelling snapshot.avgFillPrice with
              recoveryState := .discovering }
        else ∃ error, cancelResponse answers.now cancelling
          snapshot.toBrokerOrderStatusSnapshot = .error error := by
    intro snapshot hAnswer hStatus
    have hSame : CancelPassed request
        { answers with broker := .returned snapshot.toBrokerOrderStatusSnapshot }
        permissionCheck record world cancelling database := { hSent with }
    have hCounts : snapshot.filledQuantity = 0 ∧ snapshot.remainingQuantity = 0 := by
      have hRead := cancelOverseasOrder_plain hRequest hPlain hAnswer
      split at hRead
      · cases hRead
      · obtain ⟨_, hReturned, hFilled, hRemaining, _⟩ := hRead
        cases hReturned
        exact ⟨hFilled, hRemaining⟩
    refine ⟨?_, cancelResponse_requested hJournaled.consistent hStatus hCounts.1 hCounts.2⟩
    rw [hSame.doCancel rfl]
    show (do
      let answered ← _
      persistOrRaiseAmbiguous _ (transaction answers.persist _) : Gateway _) _ = _
    rw [hPersist]
  constructor
  · rintro ⟨snapshot, hAnswer, hStatus, stored, after, hRun, _⟩
    refine ⟨⟨snapshot, hAnswer, hStatus⟩, ?_⟩
    obtain ⟨hRest, hResponse⟩ := hComes snapshot hAnswer hStatus
    by_contra hOther
    rw [if_neg hOther] at hResponse
    obtain ⟨error, hError⟩ := hResponse
    rw [hRest, hError] at hRun
    cases congrArg Prod.fst hRun
  · rintro ⟨⟨snapshot, hAnswer, hStatus⟩, hNone⟩
    obtain ⟨hRest, hResponse⟩ := hComes snapshot hAnswer hStatus
    rw [if_pos hNone] at hResponse
    let answered : ExecutionOrderRecord :=
      { reportedUnfilled cancelling snapshot.avgFillPrice with recoveryState := .discovering }
    have hConsistent : answered.Consistent :=
      reportedUnfilled_consistent hJournaled.consistent snapshot.avgFillPrice .discovering
    have hRecorded : ∃ written, recordCancelSuccess request
          { answers with broker := .returned snapshot.toBrokerOrderStatusSnapshot } release
          answered database =
        .ok ({ answered with version := answered.version + 1 }, written) ∧
        getExecutionOrder written.executionOrders record.clientOrderId =
          some { answered with version := answered.version + 1 } ∧
        written.capitalReservations = world.database.capitalReservations :=
      hJournaled.recordCancelSuccess hConsistent ⟨rfl, rfl, rfl, rfl, rfl⟩ rfl rfl
        hJournaled.status
    obtain ⟨written, hWritten, hFound, hReservations⟩ := hRecorded
    refine ⟨snapshot, hAnswer, hStatus, { answered with version := answered.version + 1 },
      { cancelEntered world cancelling database with database := written }, ?_, hFound, ?_, rfl,
      hReservations⟩
    · have hTransaction : transaction .committed (recordCancelSuccess request
          { answers with broker := .returned snapshot.toBrokerOrderStatusSnapshot } release
          answered) (cancelEntered world cancelling database) =
          (.returned { answered with version := answered.version + 1 },
            { cancelEntered world cancelling database with database := written }) :=
        transaction_committed hWritten
      rw [hRest, hResponse]
      exact bind_returned (attempt_returned hTransaction)
    · show cancelling.status.isTerminal = false
      rw [hJournaled.status]
      rfl

end Sent

/-! ## Two answers -/

/-- Conversions of ASCII texts; the only number here is ten. -/
def tenText : KisText :=
  { floatOfText := fun text => if text = "10" then some (.finite 10) else none
    str := fun _ => ""
    upper := upper
    isDigit := Char.isDigit }

/-- Ten shares that work at the broker. -/
def workingOrder : ExecutionOrderRecord :=
  { environment := "PROD"
    accountNo := "1"
    symbol := "AAPL"
    side := .buy
    intent := .entry
    clientOrderId := "c1"
    brokerOrderId := "0000001234"
    submittedQuantity := 10
    remainingQuantity := 10
    submittedLimitPrice := 100
    preparedAt := isoformat 0
    status := .working
    brokerIdentityStatus := .exact_
    clientOrderIdNamed := c1_ne_empty }

def workingWorld : GatewayWorld := { database := { executionOrders := [workingOrder] } }

def workingCancel : CancelExecutionRequest :=
  { clientOrderId := "c1"
    cancelCommandId := "k1"
    environment := "PROD"
    accountNo := "1"
    lease := some { leaseToken := "t1", leaseEpoch := 1, deviceId := "d1" } }

/-- Every gate passes, and every transaction commits. -/
def openGates : CancelAnswers :=
  { now := isoformat 0
    clock := 0
    broker := .notEntered { message := "" } }

/-- An answer with this free text and the number of the cancel order. -/
def answerWith (message : String) : Row :=
  [("rt_cd", .text "0"), ("msg1", .text message),
    ("output", .object [("ODNO", .text "0000005678")])]

theorem workingCancel_sent :
    ∃ cancelling database,
      CancelSent workingCancel openGates isCancellable workingOrder workingWorld cancelling
        database := by
  obtain ⟨cancelling, database, hPrepared⟩ : ∃ cancelling database,
      prepareCancel workingCancel openGates workingOrder workingWorld.database =
        .ok (cancelling, database) := ⟨_, _, rfl⟩
  refine ⟨cancelling, database, ?_⟩
  constructor
  case prepared => exact hPrepared
  case commandStripped => decide +kernel
  case regular => decide
  case permitted => decide +kernel
  all_goals rfl

theorem answerWith_plain (message : String) :
    PlainRow tenText (outputRow (answerWith message)) := by
  have hRow : outputRow (answerWith message) = [("ODNO", .text "0000005678")] := rfl
  rw [hRow]
  constructor
  · decide +kernel
  · decide +kernel
  · decide +kernel
  · rfl
  · rfl

theorem workingOrder_cancel_sent : (cancelOrderRequest workingOrder).Sent :=
  { named := by decide +kernel, counted := by decide }

theorem acknowledged_cancel_stays_open_processed :
    StaysOpen tenText workingCancel openGates isCancellable true workingOrder workingWorld
      (answerWith "order processed") := by
  obtain ⟨cancelling, database, hSent⟩ := workingCancel_sent
  have hCount : toInt tenText (rowValue (cancelRow tenText (cancelOrderRequest workingOrder)
      (answerWith "order processed")) requestedQuantityKeys) = .ok 10 := by
    decide +kernel
  have hText : NoVerdict tenText (cancelRow tenText (cancelOrderRequest workingOrder)
      (answerWith "order processed")) :=
    ⟨by decide +kernel, by decide +kernel, by decide +kernel⟩
  have hPersist : openGates.persist = .committed := rfl
  exact (acknowledged_cancel_stays_open_iff hSent hPersist workingOrder_cancel_sent
    (answerWith_plain "order processed")).mpr ⟨⟨⟨10, hCount⟩, hText⟩, rfl⟩

/-- KIS acknowledges with "the cancel order has been received", and the order ends as
CANCELLED. -/
theorem acknowledged_cancel_read_as_cancelled :
    ¬ ∀ result : Row, PlainRow tenText (outputRow result) →
      StaysOpen tenText workingCancel openGates isCancellable true workingOrder workingWorld
        result := by
  intro hStays
  let received := answerWith "취소주문이 접수되었습니다."
  have hPlain : PlainRow tenText (outputRow received) := answerWith_plain "취소주문이 접수되었습니다."
  have hStay := hStays received hPlain
  unfold StaysOpen at hStay
  obtain ⟨snapshot, hAnswer, hStatus, _⟩ := hStay
  have hRequested : NoVerdict tenText
      (cancelRow tenText (cancelOrderRequest workingOrder) received) :=
    ((cancelOverseasOrder_cancelRequested_iff openGates.now workingOrder_cancel_sent hPlain).mp
      ⟨snapshot, hAnswer, hStatus⟩).2
  have hNamed : mentions (statusText tenText
      (cancelRow tenText (cancelOrderRequest workingOrder) received)) cancelTokens = true := by
    decide +kernel
  rw [hRequested.2.2] at hNamed
  cases hNamed

end QuantApp.Services
