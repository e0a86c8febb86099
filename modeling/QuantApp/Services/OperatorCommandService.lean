import QuantApp.Services.ExitCommands
import QuantApp.Services.OperatorCommands

/-!
# What becomes of a claimed command

`process_claimed_board_operator_command` (`src/services/operator_command_service.py`)
starts an accepted command, applies its board action and records the outcome.  Applying
and recording are two transactions, and one handler catches whatever is raised between the
start and the record.

What the reads answer, what the board action makes of the card and how each transaction
ends is given; the answers need not agree with each other, since others write meanwhile.
-/

namespace QuantApp.Services

open Core Verified Verified.Procedure

variable {next : OperatorWorld} {outcome : Outcome Raised OperatorCommandRecord} {error : Raised}
  {serverNow : Instant} {commit : CommitOutcome}

/-! ## Board commands -/

/-- The board commands that go through the queue (`_BOARD_TO_OPERATOR_TYPE`). -/
inductive BoardGesture
  | activateForToday
  | setBreakoutPrice
  | clearBreakoutPrice
  | cancelEntry
  | requestPartialSell (quantity : Int)
  | cancelPartialSell
  | requestSellAll
  | cancelQueuedSellAll
  | setOrbStop
  | setBreakevenStop
  | setManualStop
  deriving DecidableEq, Repr

structure QueuedBoardCommand where
  gesture : BoardGesture
  environment : String
  accountNo : String
  symbol : String
  expectedCardVersion : Int
  deriving Repr

/-- Membership in `SYMBOL_EXECUTION_ACTIVE_STATUSES`. -/
def isSymbolExecutionActive : BoardStatus → Bool
  | .buyToday | .entryPending | .openPosition | .partialSell | .sellAll => true
  | _ => false

variable (command : QueuedBoardCommand)

/-- The card is active in the same symbol for another account. -/
def activeElsewhere (other : TradeCardState) : Bool :=
  upper (strip other.symbol) = upper (strip command.symbol) &&
    strip other.accountNo ≠ strip command.accountNo && isSymbolExecutionActive other.boardStatus

/-- The check of a sell against the broker-confirmed holding. -/
def requireHolding (card : TradeCardState) : Except Raised Unit :=
  let available :=
    max 0 (if card.orderableQuantity ≠ 0 then card.orderableQuantity else card.brokerQuantity)
  let requireAvailable : Except Raised Unit :=
    if available ≤ 0 then
      .error (boardCommandRejected
        ("No broker-confirmed available holding exists for " ++ command.symbol ++ "."))
    else .ok ()
  match command.gesture with
  | .requestSellAll => requireAvailable
  | .requestPartialSell quantity => do
    requireAvailable
    if quantity ≤ 0 then
      .error (boardCommandRejected "Partial-sell quantity must be positive.")
    else if quantity > available then
      .error (boardCommandRejected
        ("Partial-sell quantity " ++ toString quantity ++ " exceeds broker-confirmed " ++
          "available holdings " ++ toString available ++ "."))
    else .ok ()
  | _ => .ok ()

/-- `_validate_broker_confirmed_board_state`, on what its two reads answer. -/
def validateBrokerConfirmedBoardState (card : Outcome Raised (Option TradeCardState))
    (others : Outcome Raised (List TradeCardState)) : Outcome Raised Unit :=
  match card with
  | .raised error => .raised error
  | .crashed => .crashed
  | .returned none =>
    if command.gesture = .setBreakoutPrice ∧ command.expectedCardVersion = 0 then
      .returned ()
    else
      .raised (boardCommandRejected ("No canonical card exists for " ++ command.symbol ++ "."))
  | .returned (some card) =>
    if command.gesture = .activateForToday then
      if isSymbolExecutionActive card.boardStatus then
        .raised (boardCommandRejected
          (command.symbol ++ " already has an active Buy Today, entry, or position state."))
      else
        match others with
        | .raised error => .raised error
        | .crashed => .crashed
        | .returned others =>
          if others.any (activeElsewhere command) then
            .raised (boardCommandRejected
              (command.symbol ++ " already has an active entry or position for " ++
                "another account. The ORB queue is symbol-scoped, so " ++
                "only one account can activate that symbol at a time."))
          else .returned ()
    else
      match requireHolding command card with
      | .error error => .raised error
      | .ok () => .returned ()

/-! ## The procedure -/

/-- The row of the command and the canonical card; `applied` says that the board action of
the command has been committed. -/
structure OperatorWorld where
  record : OperatorCommandRecord
  card : Option TradeCardState := none
  applied : Bool := false

/-- What happens during one call. -/
structure BoardActionAnswers where
  ownerRow : Outcome Raised (Option SharedRow)
  startedAt : Instant
  started : CommitOutcome
  deserialized : Outcome Raised QueuedBoardCommand
  validated : Outcome Raised (Option TradeCardState)
  others : Outcome Raised (List TradeCardState)
  before : Outcome Raised (Option TradeCardState)
  /-- The card `request_board_action` stores, or what its checks, its reads and the
  mutation raise before anything is written. -/
  action : Outcome Raised TradeCardState
  actionCommit : CommitOutcome
  /-- What follows the commit of the action: the stop coordinator, the local snapshot, the
  daily summary. -/
  published : Outcome Raised Unit
  completedAt : Instant
  completed : CommitOutcome
  endedAt : Instant
  ended : CommitOutcome

abbrev OperatorProcedure := Procedure OperatorWorld Raised

def ofOutcome {α : Type} (outcome : Outcome Raised α) : OperatorProcedure α :=
  fun world => (outcome, world)

/-- A transaction whose statements have gone through ends. -/
def commits {α : Type} (outcome : CommitOutcome) (value : α)
    (written : OperatorWorld → OperatorWorld) : OperatorProcedure α := fun world =>
  match outcome with
  | .committed => (.returned value, written world)
  | .failed => (.raised databaseError, world)
  | .unconfirmed => (.raised databaseError, written world)
  | .crashedBefore => (.crashed, world)
  | .crashedAfter => (.crashed, written world)

/-- `OperatorCommandError` and the errors under it. -/
def operatorCommandError (message : String) : Raised := { cls := .runtimeError, message := message }

def OperatorWorld.store (record : OperatorCommandRecord) (world : OperatorWorld) : OperatorWorld :=
  { world with record := record }

def startOperatorCommand (executor : LocalDeviceRole) (answers : BoardActionAnswers) :
    OperatorProcedure OperatorCommandRecord := do
  let row ← ofOutcome answers.ownerRow
  ofExcept ((requireExecutionOwner executor startRefused row).mapError operatorCommandError)
  let record ← read OperatorWorld.record
  if canStart executor record then
    let executing := startedRecord answers.startedAt record
    commits answers.started executing (OperatorWorld.store executing)
  else
    raise (operatorCommandError "Operator command is not accepted by this execution owner.")

def finishOperatorCommand (executor : LocalDeviceRole) (outcome : OperatorOutcome)
    (serverNow : Instant) (commit : CommitOutcome) :
    OperatorProcedure OperatorCommandRecord := do
  ofExcept ((requireFinishStatus outcome.status).mapError operatorCommandError)
  let record ← read OperatorWorld.record
  if canFinish executor outcome record then
    let finished := finishedRecord outcome serverNow record
    commits commit finished (OperatorWorld.store finished)
  else
    raise (operatorCommandError "Operator command is not executing on this device.")

/-- `request_board_action`: the checks and the mutation, the commit, and what follows it. -/
def requestBoardAction (answers : BoardActionAnswers) : OperatorProcedure TradeCardState := do
  let updated ← ofOutcome answers.action
  commits answers.actionCommit ()
    (fun world => { world with card := some updated, applied := true })
  ofOutcome answers.published
  pure updated

/-- The body of the `try` of `process_claimed_board_operator_command`. -/
def applyBoardCommand (stateHash : Option TradeCardState → String)
    (executor : LocalDeviceRole) (answers : BoardActionAnswers) :
    OperatorProcedure OperatorCommandRecord := do
  let command ← ofOutcome answers.deserialized
  ofOutcome (validateBrokerConfirmedBoardState command answers.validated answers.others)
  let before ← ofOutcome answers.before
  let after ← requestBoardAction answers
  finishOperatorCommand executor
    { status := .completed
      stateBeforeHash := stateHash before
      stateAfterHash := stateHash (some after) }
    answers.completedAt answers.completed

/-- What the two handlers record. -/
def failureOutcome (error : Raised) : OperatorOutcome :=
  { status := if error.cls = .boardCommandRejected then .rejected else .failed
    errorMessage := error.message }

def processClaimedBoardOperatorCommand (stateHash : Option TradeCardState → String)
    (executor : LocalDeviceRole) (answers : BoardActionAnswers) :
    OperatorProcedure OperatorCommandRecord := do
  let _ ← startOperatorCommand executor answers
  match ← attempt (applyBoardCommand stateHash executor answers) with
  | .ok record => pure record
  | .error error =>
    finishOperatorCommand executor (failureOutcome error) answers.endedAt answers.ended

/-! ## How a call ends -/

/-- The board action is committed, if the body of the `try` is entered. -/
structure BoardActionAnswers.Applies (answers : BoardActionAnswers) : Prop where
  validated : ∃ command, answers.deserialized = .returned command ∧
    validateBrokerConfirmedBoardState command answers.validated answers.others = .returned ()
  before : ∃ card, answers.before = .returned card
  action : ∃ card, answers.action = .returned card
  written : answers.actionCommit.isWritten = true

/-- After the commit of the action something raises before COMPLETED is committed: the
commit itself, what follows it, or the write of COMPLETED. -/
def BoardActionAnswers.RaisesUnrecorded (answers : BoardActionAnswers) : Prop :=
  answers.actionCommit = .unconfirmed ∨
    (answers.actionCommit = .committed ∧
      ((∃ error, answers.published = .raised error) ∨
        (answers.published = .returned () ∧ answers.completed = .failed)))

/-- The call starts the command. -/
structure Starts (executor : LocalDeviceRole) (answers : BoardActionAnswers)
    (world : OperatorWorld) : Prop where
  owner : ∃ row, answers.ownerRow = .returned row ∧
    requireExecutionOwner executor startRefused row = .ok ()
  matches_ : canStart executor world.record = true
  committed : answers.started = .committed

/-- The call starts the command, its effect is committed, something raises before COMPLETED
is, and the write of the handler goes through. -/
structure Mislabels (executor : LocalDeviceRole) (answers : BoardActionAnswers)
    (world : OperatorWorld) : Prop where
  starts : Starts executor answers world
  applies : answers.Applies
  raises : answers.RaisesUnrecorded
  ended : answers.ended.isWritten = true

/-- What is returned and what is stored tell whether the action was applied. -/
structure Tells (end_ : Outcome Raised OperatorCommandRecord × OperatorWorld) : Prop where
  returned : ∀ record, end_.1 = .returned record →
    (record.status = .completed ↔ end_.2.applied = true) ∧
      (record.status = .rejected ∨ record.status = .failed → end_.2.applied = false)
  stored : end_.2.applied = true → end_.2.record.status ≠ .rejected ∧ end_.2.record.status ≠ .failed

/-- The command executes on the device. -/
def Executing (executor : LocalDeviceRole) (record : OperatorCommandRecord) : Prop :=
  record.status = .executing ∧ record.executorDeviceId = executor.deviceId

section Rules

variable {α : Type} {world : OperatorWorld} {returned : α → OperatorWorld → Prop}
  {raised : Raised → OperatorWorld → Prop} {crashed : OperatorWorld → Prop}

theorem ensures_ofOutcome {outcome : Outcome Raised α}
    (hReturned : ∀ value, outcome = .returned value → returned value world)
    (hRaised : ∀ error, outcome = .raised error → raised error world)
    (hCrashed : outcome = .crashed → crashed world) :
    Ensures (ofOutcome outcome) world (outcomes returned raised crashed) := by
  cases outcome with
  | returned value => exact hReturned value rfl
  | raised error => exact hRaised error rfl
  | crashed => exact hCrashed rfl

theorem ensures_commits {outcome : CommitOutcome} {value : α}
    {written : OperatorWorld → OperatorWorld}
    (hCommitted : outcome = .committed → returned value (written world))
    (hFailed : outcome = .failed → raised databaseError world)
    (hUnconfirmed : outcome = .unconfirmed → raised databaseError (written world))
    (hBefore : outcome = .crashedBefore → crashed world)
    (hAfter : outcome = .crashedAfter → crashed (written world)) :
    Ensures (commits outcome value written) world (outcomes returned raised crashed) := by
  cases outcome with
  | committed => exact hCommitted rfl
  | failed => exact hFailed rfl
  | unconfirmed => exact hUnconfirmed rfl
  | crashedBefore => exact hBefore rfl
  | crashedAfter => exact hAfter rfl

end Rules

section Calls

variable {stateHash : Option TradeCardState → String} {executor : LocalDeviceRole}
  {answers : BoardActionAnswers} {world : OperatorWorld}

/-- What a call leaves that does not start the command. -/
structure NotStarted (executor : LocalDeviceRole) (answers : BoardActionAnswers)
    (world next : OperatorWorld) : Prop where
  starts : ¬ Starts executor answers world
  applied : next.applied = world.applied
  record : next.record = world.record ∨
    (canStart executor world.record = true ∧ next.record.status = .executing)

theorem notStarted_same (h : ¬ Starts executor answers world) :
    NotStarted executor answers world world :=
  ⟨h, rfl, Or.inl rfl⟩

/-- A command is started as a whole, or nothing is applied. -/
theorem startOperatorCommand_ensures :
    Ensures (startOperatorCommand executor answers) world (outcomes
      (fun _ next => Starts executor answers world ∧
        next = world.store (startedRecord answers.startedAt world.record))
      (fun _ next => NotStarted executor answers world next)
      (fun next => NotStarted executor answers world next)) := by
  unfold startOperatorCommand
  refine Ensures.seq (?_ : Ensures _ _ (outcomes
      (fun row next => answers.ownerRow = .returned row ∧ next = world) _ _)) ?_
  · apply ensures_ofOutcome
    · intro row hRow
      exact ⟨hRow, rfl⟩
    · intro error hRow
      apply notStarted_same
      intro hStarts
      obtain ⟨row, hOwner, -⟩ := hStarts.owner
      rw [hRow] at hOwner
      cases hOwner
    · intro hRow
      apply notStarted_same
      intro hStarts
      obtain ⟨row, hOwner, -⟩ := hStarts.owner
      rw [hRow] at hOwner
      cases hOwner
  intro row next hRow
  obtain ⟨hRow, rfl⟩ := hRow
  cases hOwner : requireExecutionOwner executor startRefused row with
  | error =>
    apply notStarted_same
    intro hStarts
    obtain ⟨found, hFound, hOk⟩ := hStarts.owner
    rw [hRow] at hFound
    cases hFound
    rw [hOwner] at hOk
    cases hOk
  | ok =>
    by_cases hMatches : canStart executor next.record = true
    swap
    · show Ensures (if canStart executor next.record = true then _ else _) next _
      rw [if_neg hMatches]
      exact notStarted_same fun hStarts => hMatches hStarts.matches_
    · show Ensures (if canStart executor next.record = true then _ else _) next _
      rw [if_pos hMatches]
      have hNot : answers.started ≠ .committed → ¬ Starts executor answers next :=
        fun hOther hStarts => hOther hStarts.committed
      have hWritten : ∀ outcome, answers.started = outcome → outcome ≠ .committed →
          NotStarted executor answers next
            (next.store (startedRecord answers.startedAt next.record)) := by
        intro outcome hOutcome hOther
        refine ⟨hNot (by rw [hOutcome]; exact hOther), rfl, ?_⟩
        right
        exact ⟨hMatches, rfl⟩
      apply ensures_commits
      · intro hCommitted
        exact ⟨⟨⟨row, hRow, hOwner⟩, hMatches, hCommitted⟩, rfl⟩
      · intro hFailed
        exact notStarted_same (hNot (by simp [hFailed]))
      · intro hUnconfirmed
        exact hWritten _ hUnconfirmed (by decide)
      · intro hBefore
        exact notStarted_same (hNot (by simp [hBefore]))
      · intro hAfter
        exact hWritten _ hAfter (by decide)

/-- The statuses `process_claimed_board_operator_command` records. -/
def IsRecorded (status : OperatorCommandStatus) : Prop :=
  status = .completed ∨ status = .rejected ∨ status = .failed

/-- An executing command gets the outcome as far as the commit goes through. -/
theorem finishOperatorCommand_ensures {outcome : OperatorOutcome}
    (hExecuting : Executing executor world.record) (hStatus : IsRecorded outcome.status) :
    Ensures (finishOperatorCommand executor outcome serverNow commit) world (outcomes
      (fun record next => commit = .committed ∧ next = world.store record ∧
        record.status = outcome.status)
      (fun _ next => (commit = .failed ∧ next = world) ∨
        (commit = .unconfirmed ∧ next.record.status = outcome.status ∧
          next.applied = world.applied))
      (fun next => (commit = .crashedBefore ∧ next = world) ∨
        (commit = .crashedAfter ∧ next.record.status = outcome.status ∧
          next.applied = world.applied))) := by
  have hAllowed : requireFinishStatus outcome.status = .ok () := by
    unfold IsRecorded at hStatus
    obtain hStatus | hStatus | hStatus := hStatus <;> rw [hStatus] <;> rfl
  have hMatches : canFinish executor outcome world.record = true := by
    unfold canFinish isSourceStatus
    simp [hExecuting.1, hExecuting.2]
  have hFields := (finishedRecord_fields outcome serverNow world.record).2.2.2.2
  unfold finishOperatorCommand
  rw [hAllowed]
  show Ensures (if canFinish executor outcome world.record = true then _ else _) world _
  rw [if_pos hMatches]
  apply ensures_commits
  · intro hCommitted
    exact ⟨hCommitted, rfl, hFields⟩
  · intro hFailed
    exact Or.inl ⟨hFailed, rfl⟩
  · intro hUnconfirmed
    exact Or.inr ⟨hUnconfirmed, hFields, rfl⟩
  · intro hBefore
    exact Or.inl ⟨hBefore, rfl⟩
  · intro hAfter
    exact Or.inr ⟨hAfter, hFields, rfl⟩

theorem finishOperatorCommand_completed {outcome : OperatorOutcome}
    (hStatus : world.record.status = .completed) (hOutcome : IsRecorded outcome.status) :
    ∃ error, finishOperatorCommand executor outcome serverNow commit world =
      (.raised error, world) := by
  have hAllowed : requireFinishStatus outcome.status = .ok () := by
    unfold IsRecorded at hOutcome
    obtain hOutcome | hOutcome | hOutcome := hOutcome <;> rw [hOutcome] <;> rfl
  have hMatches : ¬ canFinish executor outcome world.record = true := by
    unfold canFinish isSourceStatus
    simp [hStatus]
  unfold finishOperatorCommand
  rw [hAllowed]
  refine ⟨operatorCommandError "Operator command is not executing on this device.", ?_⟩
  show (if canFinish executor outcome world.record = true then _ else _ :
    OperatorProcedure OperatorCommandRecord) world = _
  rw [if_neg hMatches]
  rfl

theorem isRecorded_failure (error : Raised) :
    (failureOutcome error).status = .rejected ∨ (failureOutcome error).status = .failed := by
  unfold failureOutcome
  by_cases hRejected : error.cls = .boardCommandRejected
  all_goals simp [hRejected]

/-- Where the body of the `try` leaves the world without returning: nothing is applied, or
the effect stands and COMPLETED is not recorded, or it is. -/
structure BodyEnds (answers : BoardActionAnswers) (world next : OperatorWorld) (raises : Bool) :
    Prop where
  untouched : ¬ answers.Applies → next = world
  applied : answers.Applies → next.applied = true
  unrecorded : answers.Applies → raises = true → answers.RaisesUnrecorded →
    next.record = world.record
  recorded : answers.Applies → raises = true → ¬ answers.RaisesUnrecorded →
    next.record.status = .completed
  crashed : answers.Applies → raises = false →
    ¬ answers.RaisesUnrecorded ∧ (next.record = world.record ∨ next.record.status = .completed)

theorem bodyEnds_untouched {raises : Bool} (h : ¬ answers.Applies) :
    BodyEnds answers world world raises where
  untouched := fun _ => rfl
  applied := fun hApplies => absurd hApplies h
  unrecorded := fun hApplies => absurd hApplies h
  recorded := fun hApplies => absurd hApplies h
  crashed := fun hApplies => absurd hApplies h

section Applied

variable (h : answers.Applies) (hApplied : next.applied = true)
include h hApplied

theorem bodyEnds_unrecorded (hRaises : answers.RaisesUnrecorded)
    (hRecord : next.record = world.record) : BodyEnds answers world next true where
  untouched := fun hNot => absurd h hNot
  applied := fun _ => hApplied
  unrecorded := fun _ _ _ => hRecord
  recorded := fun _ _ hQuiet => absurd hRaises hQuiet
  crashed := fun _ hRaises => by cases hRaises

theorem bodyEnds_crashed (hQuiet : ¬ answers.RaisesUnrecorded)
    (hRecord : next.record = world.record ∨ next.record.status = .completed) :
    BodyEnds answers world next false where
  untouched := fun hNot => absurd h hNot
  applied := fun _ => hApplied
  unrecorded := fun _ hRaises => by cases hRaises
  recorded := fun _ hRaises => by cases hRaises
  crashed := fun _ _ => ⟨hQuiet, hRecord⟩

end Applied

/-- How the body of the `try` may end. -/
abbrev bodyOutcomes {α : Type} (answers : BoardActionAnswers) (world : OperatorWorld)
    (returned : α → OperatorWorld → Prop) : Outcome Raised α → OperatorWorld → Prop :=
  outcomes returned (fun _ next => BodyEnds answers world next true)
    (fun next => BodyEnds answers world next false)

/-- A step before the action, which returns if the action is applied. -/
theorem body_seq {α β : Type} {outcome : Outcome Raised α} {f : α → OperatorProcedure β}
    {returned : β → OperatorWorld → Prop}
    (hReturns : answers.Applies → ∃ value, outcome = .returned value)
    (hRest : ∀ value, outcome = .returned value →
      Ensures (f value) world (bodyOutcomes answers world returned)) :
    Ensures (ofOutcome outcome >>= f) world (bodyOutcomes answers world returned) := by
  cases outcome with
  | returned value => exact hRest value rfl
  | raised | crashed =>
    apply bodyEnds_untouched
    intro h
    obtain ⟨_, hReturned⟩ := hReturns h
    cases hReturned

/-- The board action is committed or nothing is; what raises after the commit is
`RaisesUnrecorded` as long as the write of COMPLETED is not reached. -/
theorem requestBoardAction_ensures
    (hValidated : ∃ command, answers.deserialized = .returned command ∧
      validateBrokerConfirmedBoardState command answers.validated answers.others = .returned ())
    (hBefore : ∃ card, answers.before = .returned card) :
    Ensures (requestBoardAction answers) world (bodyOutcomes answers world
      (fun _ next => answers.Applies ∧ answers.actionCommit = .committed ∧
        answers.published = .returned () ∧ next.applied = true ∧ next.record = world.record)) := by
  have hApplies : ∀ card, answers.action = .returned card →
      answers.actionCommit.isWritten = true → answers.Applies :=
    fun card hCard hWritten => ⟨hValidated, hBefore, ⟨card, hCard⟩, hWritten⟩
  unfold requestBoardAction
  apply body_seq (fun h => h.action)
  intro card hCard
  have hLost : answers.actionCommit.isWritten = false → ¬ answers.Applies := by
    intro hNot h
    rw [h.written] at hNot
    cases hNot
  refine Ensures.seq (?_ : Ensures _ _ (outcomes (fun _ after => answers.actionCommit =
      .committed ∧ after = { world with card := some card, applied := true }) _ _)) ?_
  · apply ensures_commits
    · intro hCommitted
      exact ⟨hCommitted, rfl⟩
    · intro hFailed
      exact bodyEnds_untouched (hLost (by rw [hFailed]; rfl))
    · intro hUnconfirmed
      exact bodyEnds_unrecorded (hApplies card hCard (by rw [hUnconfirmed]; rfl)) rfl
        (Or.inl hUnconfirmed) rfl
    · intro hBefore
      exact bodyEnds_untouched (hLost (by rw [hBefore]; rfl))
    · intro hAfter
      have hQuiet : ¬ answers.RaisesUnrecorded := by
        simp [BoardActionAnswers.RaisesUnrecorded, hAfter]
      exact bodyEnds_crashed (hApplies card hCard (by rw [hAfter]; rfl)) rfl hQuiet (Or.inl rfl)
  intro _ after hAfter
  obtain ⟨hCommitted, rfl⟩ := hAfter
  have h := hApplies card hCard (by rw [hCommitted]; rfl)
  refine Ensures.seq (?_ : Ensures _ _ (outcomes (fun _ after => answers.published =
      .returned () ∧ after = { world with card := some card, applied := true }) _ _)) ?_
  · apply ensures_ofOutcome
    · intro _ hReturned
      exact ⟨hReturned, rfl⟩
    · intro error hRaised
      exact bodyEnds_unrecorded h rfl (Or.inr ⟨hCommitted, Or.inl ⟨error, hRaised⟩⟩) rfl
    · intro hCrashed
      have hQuiet : ¬ answers.RaisesUnrecorded := by
        simp [BoardActionAnswers.RaisesUnrecorded, hCommitted, hCrashed]
      exact bodyEnds_crashed h rfl hQuiet (Or.inl rfl)
  intro _ last hLast
  obtain ⟨hReturned, rfl⟩ := hLast
  exact ⟨h, hCommitted, hReturned, rfl, rfl⟩

/-- The body of the `try` returns only with COMPLETED recorded after the effect. -/
theorem applyBoardCommand_ensures (hExecuting : Executing executor world.record) :
    Ensures (applyBoardCommand stateHash executor answers) world (bodyOutcomes answers world
      (fun record next => answers.Applies ∧ ¬ answers.RaisesUnrecorded ∧
        next.applied = true ∧ next.record = record ∧ record.status = .completed)) := by
  unfold applyBoardCommand
  apply body_seq (fun h => h.validated.imp fun _ hValidated => hValidated.1)
  intro command hDeserialized
  apply body_seq
  · intro h
    obtain ⟨found, hFound, hValid⟩ := h.validated
    rw [hDeserialized] at hFound
    cases hFound
    exact ⟨(), hValid⟩
  intro _ hValid
  apply body_seq (fun h => h.before)
  intro before hBefore
  apply (requestBoardAction_ensures ⟨command, hDeserialized, hValid⟩ ⟨before, hBefore⟩).seq
  intro card done hDone
  obtain ⟨h, hCommitted, hPublished, hApplied, hRecord⟩ := hDone
  have hStill : Executing executor done.record := by
    rw [hRecord]
    exact hExecuting
  have hQuiet : answers.completed ≠ .failed → ¬ answers.RaisesUnrecorded := by
    intro hOther
    simp [BoardActionAnswers.RaisesUnrecorded, hCommitted, hPublished, hOther]
  apply (finishOperatorCommand_ensures hStill (Or.inl rfl)).weaken
  · intro record final hFinal
    obtain ⟨hDone, rfl, hStatus⟩ := hFinal
    exact ⟨h, hQuiet (by simp [hDone]), hApplied, rfl, hStatus⟩
  · intro error final hFinal
    cases hFinal with
    | inl hFailed =>
      obtain ⟨hFailed, rfl⟩ := hFailed
      exact bodyEnds_unrecorded h hApplied
        (Or.inr ⟨hCommitted, Or.inr ⟨hPublished, hFailed⟩⟩) hRecord
    | inr hUnconfirmed =>
      obtain ⟨hUnconfirmed, hStatus, hSame⟩ := hUnconfirmed
      exact
        { untouched := fun hNot => absurd h hNot
          applied := fun _ => hSame.trans hApplied
          unrecorded := fun _ _ hRaises =>
            absurd hRaises (hQuiet (by simp [hUnconfirmed]))
          recorded := fun _ _ _ => hStatus
          crashed := fun _ hRaises => by cases hRaises }
  · intro final hFinal
    cases hFinal with
    | inl hBeforeCommit =>
      obtain ⟨hOutcome, rfl⟩ := hBeforeCommit
      exact bodyEnds_crashed h hApplied (hQuiet (by simp [hOutcome])) (Or.inl hRecord)
    | inr hAfterCommit =>
      obtain ⟨hOutcome, hStatus, hSame⟩ := hAfterCommit
      exact bodyEnds_crashed h (hSame.trans hApplied) (hQuiet (by simp [hOutcome])) (Or.inr hStatus)

/-- Between two calls: an applied effect is not offered for another start, and is not
recorded as a failure. -/
def KeepsEffect (world : OperatorWorld) : Prop :=
  world.applied = true → world.record.status ≠ .accepted ∧ world.record.status ≠ .rejected ∧
    world.record.status ≠ .failed

/-- What one call has to show: it tells what happened unless it mislabels an effect. -/
def CallTells (executor : LocalDeviceRole) (answers : BoardActionAnswers)
    (world : OperatorWorld) (outcome : Outcome Raised OperatorCommandRecord)
    (next : OperatorWorld) : Prop :=
  (Tells (outcome, next) ↔ ¬ Mislabels executor answers world) ∧
    (next.applied = true → next.record.status ≠ .accepted)

theorem callTells_quiet (hNot : ∀ record, outcome ≠ .returned record) (hKeeps : KeepsEffect next)
    (hLabels : ¬ Mislabels executor answers world) :
    CallTells executor answers world outcome next := by
  refine ⟨⟨fun _ => hLabels, fun _ => ⟨?_, ?_⟩⟩, fun hApplied => (hKeeps hApplied).1⟩
  · intro record hReturned
    exact absurd hReturned (hNot record)
  · intro hApplied
    exact (hKeeps hApplied).2

/-- A call that records a failure of an applied effect does not. -/
theorem callTells_mislabelled (hApplied : next.applied = true)
    (hStatus : next.record.status = .rejected ∨ next.record.status = .failed)
    (hLabels : Mislabels executor answers world) :
    CallTells executor answers world outcome next := by
  refine ⟨⟨fun hTells => ?_, fun hNot => absurd hLabels hNot⟩, fun _ hAccepted => ?_⟩
  · have hStored := hTells.stored hApplied
    cases hStatus with
    | inl hRejected => exact absurd hRejected hStored.1
    | inr hFailed => exact absurd hFailed hStored.2
  · cases hStatus with
    | inl hRejected =>
      rw [hRejected] at hAccepted
      cases hAccepted
    | inr hFailed =>
      rw [hFailed] at hAccepted
      cases hAccepted

theorem callTells_notStarted (hKeeps : KeepsEffect world)
    (hNot : ∀ record, outcome ≠ .returned record) (h : NotStarted executor answers world next) :
    CallTells executor answers world outcome next := by
  apply callTells_quiet hNot
  · intro hApplied
    rw [h.applied] at hApplied
    have hBefore := hKeeps hApplied
    cases h.record with
    | inl hSame =>
      rw [hSame]
      exact hBefore
    | inr hExecuting =>
      unfold canStart at hExecuting
      simp only [Bool.and_eq_true, decide_eq_true_eq] at hExecuting
      exact absurd hExecuting.1.1 hBefore.1
  · intro hMislabels
    exact h.starts hMislabels.starts

theorem callTells_untouched (hApplies : ¬ answers.Applies) (hApplied : next.applied = false)
    (hOther : ∀ record, outcome = .returned record → record.status ≠ .completed) :
    CallTells executor answers world outcome next := by
  have hNever : next.applied ≠ true := by
    rw [hApplied]
    decide
  refine ⟨⟨fun _ h => hApplies h.applies, fun _ => ⟨?_, ?_⟩⟩, fun h => absurd h hNever⟩
  · intro record hReturned
    exact ⟨⟨fun h => absurd h (hOther record hReturned), fun h => absurd h hNever⟩,
      fun _ => hApplied⟩
  · intro h
    exact absurd h hNever

theorem handler_tells_untouched (hExecuting : Executing executor next.record)
    (hFresh : next.applied = false) (hApplies : ¬ answers.Applies) :
    Ensures (finishOperatorCommand executor (failureOutcome error) answers.endedAt answers.ended)
      next (CallTells executor answers world) := by
  have hStatus := isRecorded_failure error
  rw [ensures_outcomes]
  apply (finishOperatorCommand_ensures hExecuting (Or.inr hStatus)).weaken
  · intro record final hFinal
    obtain ⟨-, rfl, hFinalStatus⟩ := hFinal
    have hStored : (next.store record).applied = false := hFresh
    apply callTells_untouched hApplies hStored
    intro found hFound hCompleted
    cases hFound
    rw [← hFinalStatus, hCompleted] at hStatus
    cases hStatus <;> contradiction
  · intro raised final hFinal
    apply callTells_untouched hApplies _ (by simp)
    cases hFinal with
    | inl hFailed =>
      rw [hFailed.2]
      exact hFresh
    | inr hUnconfirmed => exact hUnconfirmed.2.2.trans hFresh
  · intro final hFinal
    apply callTells_untouched hApplies _ (by simp)
    cases hFinal with
    | inl hBefore =>
      rw [hBefore.2]
      exact hFresh
    | inr hAfter => exact hAfter.2.2.trans hFresh

/-- The write of a handler over an effect that is not recorded. -/
theorem handler_tells_effect (hStarts : Starts executor answers world)
    (hExecuting : Executing executor next.record) (hApplied : next.applied = true)
    (hApplies : answers.Applies) (hRaises : answers.RaisesUnrecorded) :
    Ensures (finishOperatorCommand executor (failureOutcome error) answers.endedAt answers.ended)
      next (CallTells executor answers world) := by
  have hStatus := isRecorded_failure error
  have hQuiet : KeepsEffect next := by
    intro _
    rw [hExecuting.1]
    decide
  have hMislabels : answers.ended.isWritten = true → Mislabels executor answers world :=
    fun hEnded => ⟨hStarts, hApplies, hRaises, hEnded⟩
  have hLabels : answers.ended.isWritten = false → ¬ Mislabels executor answers world := by
    intro hEnded h
    rw [h.ended] at hEnded
    cases hEnded
  rw [ensures_outcomes]
  apply (finishOperatorCommand_ensures hExecuting (Or.inr hStatus)).weaken
  · intro record final hFinal
    obtain ⟨hCommitted, rfl, hFinalStatus⟩ := hFinal
    have hStored : (next.store record).applied = true := hApplied
    apply callTells_mislabelled hStored
    · show record.status = .rejected ∨ record.status = .failed
      rw [hFinalStatus]
      exact hStatus
    · exact hMislabels (by rw [hCommitted]; rfl)
  · intro raised final hFinal
    cases hFinal with
    | inl hFailed =>
      rw [hFailed.2]
      exact callTells_quiet (by simp) hQuiet (hLabels (by rw [hFailed.1]; rfl))
    | inr hUnconfirmed =>
      apply callTells_mislabelled (hUnconfirmed.2.2.trans hApplied)
      · rw [hUnconfirmed.2.1]
        exact hStatus
      · exact hMislabels (by rw [hUnconfirmed.1]; rfl)
  · intro final hFinal
    cases hFinal with
    | inl hBefore =>
      rw [hBefore.2]
      exact callTells_quiet (by simp) hQuiet (hLabels (by rw [hBefore.1]; rfl))
    | inr hAfter =>
      apply callTells_mislabelled (hAfter.2.2.trans hApplied)
      · rw [hAfter.2.1]
        exact hStatus
      · exact hMislabels (by rw [hAfter.1]; rfl)

/-- The write of a handler, where the body of the `try` has raised. -/
theorem handler_tells {started : OperatorWorld} (hStarts : Starts executor answers world)
    (hExecuting : Executing executor started.record) (hFresh : started.applied = false)
    (hBody : BodyEnds answers started next true) :
    Ensures (finishOperatorCommand executor (failureOutcome error) answers.endedAt answers.ended)
      next (CallTells executor answers world) := by
  by_cases hApplies : answers.Applies
  swap
  · have hSame := hBody.untouched hApplies
    subst hSame
    exact handler_tells_untouched hExecuting hFresh hApplies
  by_cases hRaises : answers.RaisesUnrecorded
  · have hRecord := hBody.unrecorded hApplies rfl hRaises
    rw [← hRecord] at hExecuting
    exact handler_tells_effect hStarts hExecuting (hBody.applied hApplies) hApplies hRaises
  · -- COMPLETED is there already and is not overwritten.
    have hCompleted := hBody.recorded hApplies rfl hRaises
    have hRun : ∃ raised, finishOperatorCommand executor (failureOutcome error) answers.endedAt
        answers.ended next = (.raised raised, next) :=
      finishOperatorCommand_completed hCompleted (Or.inr (isRecorded_failure error))
    obtain ⟨raised, hRun⟩ := hRun
    unfold Ensures
    rw [hRun]
    apply callTells_quiet (by simp)
    · intro _
      rw [hCompleted]
      decide
    · exact fun h => hRaises h.raises

/-- One call of `process_claimed_board_operator_command`. -/
theorem processClaimedBoardOperatorCommand_tells (hKeeps : KeepsEffect world) :
    Ensures (processClaimedBoardOperatorCommand stateHash executor answers) world
      (CallTells executor answers world) := by
  rw [ensures_outcomes]
  unfold processClaimedBoardOperatorCommand
  refine Ensures.seq (?_ : Ensures _ _ (outcomes (fun _ next => Starts executor answers world ∧
      next = world.store (startedRecord answers.startedAt world.record)) _ _)) ?_
  · apply startOperatorCommand_ensures.weaken
    · intro _ next hNext
      exact hNext
    · intro error next hNext
      exact callTells_notStarted hKeeps (by simp) hNext
    · intro next hNext
      exact callTells_notStarted hKeeps (by simp) hNext
  intro _ started hStarted
  obtain ⟨hStarts, rfl⟩ := hStarted
  have hMatches := hStarts.matches_
  unfold canStart at hMatches
  simp only [Bool.and_eq_true, decide_eq_true_eq] at hMatches
  have hFresh : world.applied = false := by
    by_contra hApplied
    exact (hKeeps (by simpa using hApplied)).1 hMatches.1
  have hExecuting : Executing executor
      (world.store (startedRecord answers.startedAt world.record)).record := ⟨rfl, hMatches.2⟩
  refine Ensures.seq (?_ : Ensures _ _ (outcomes (fun result next => match result with
        | .ok record => answers.Applies ∧ ¬ answers.RaisesUnrecorded ∧ next.applied = true ∧
            next.record = record ∧ record.status = .completed
        | .error _ => BodyEnds answers
            (world.store (startedRecord answers.startedAt world.record)) next true) _ _)) ?_
  · apply Ensures.attempted
    apply (applyBoardCommand_ensures hExecuting).weaken
    · intro record next hNext
      exact hNext
    · intro error next hNext
      exact hNext
    · intro next hNext
      by_cases hApplies : answers.Applies
      · obtain ⟨hQuiet, hRecord⟩ := hNext.crashed hApplies rfl
        apply callTells_quiet (by simp)
        · intro _
          cases hRecord with
          | inl hSame =>
            rw [hSame, hExecuting.1]
            decide
          | inr hCompleted =>
            rw [hCompleted]
            decide
        · exact fun h => hQuiet h.raises
      · apply callTells_untouched hApplies _ (by simp)
        rw [hNext.untouched hApplies]
        exact hFresh
  intro result next hNext
  cases result with
  | ok record =>
    obtain ⟨-, hQuiet, hApplied, hRecord, hStatus⟩ := hNext
    show CallTells executor answers world (.returned record) next
    refine ⟨⟨fun _ h => hQuiet h.raises, fun _ => ⟨?_, ?_⟩⟩, ?_⟩
    · intro found hFound
      cases hFound
      refine ⟨⟨fun _ => hApplied, fun _ => hStatus⟩, ?_⟩
      intro hOther
      rw [hStatus] at hOther
      cases hOther <;> contradiction
    · intro _
      show next.record.status ≠ .rejected ∧ next.record.status ≠ .failed
      rw [hRecord, hStatus]
      decide
    · intro _
      rw [hRecord, hStatus]
      decide
  | error =>
    rw [← ensures_outcomes]
    exact handler_tells hStarts hExecuting hFresh hNext

end Calls

/-! ## Any number of calls -/

/-- A call of `process_claimed_board_operator_command`: on which device, and what happens
during it. -/
abbrev OperatorCall := LocalDeviceRole × BoardActionAnswers

/-- How each call for the command ends, one after another. -/
def processCalls (stateHash : Option TradeCardState → String) :
    List OperatorCall → OperatorWorld → List (Outcome Raised OperatorCommandRecord × OperatorWorld)
  | [], _ => []
  | (executor, answers) :: rest, world =>
    let ended := processClaimedBoardOperatorCommand stateHash executor answers world
    ended :: processCalls stateHash rest ended.2

/-- No call records a failure over an effect. -/
def NoneMislabels (stateHash : Option TradeCardState → String) :
    List OperatorCall → OperatorWorld → Prop
  | [], _ => True
  | (executor, answers) :: rest, world =>
    ¬ Mislabels executor answers world ∧ NoneMislabels stateHash rest
      (processClaimedBoardOperatorCommand stateHash executor answers world).2

theorem processCalls_tell_iff {stateHash : Option TradeCardState → String}
    {calls : List OperatorCall} {world : OperatorWorld} (hKeeps : KeepsEffect world) :
    (∀ ended ∈ processCalls stateHash calls world, Tells ended) ↔
      NoneMislabels stateHash calls world := by
  induction calls generalizing world with
  | nil => simp [processCalls, NoneMislabels]
  | cons call rest ih =>
    obtain ⟨executor, answers⟩ := call
    have hCall : CallTells executor answers world
        (processClaimedBoardOperatorCommand stateHash executor answers world).1
        (processClaimedBoardOperatorCommand stateHash executor answers world).2 :=
      processClaimedBoardOperatorCommand_tells hKeeps
    have hNext : Tells (processClaimedBoardOperatorCommand stateHash executor answers world) →
        KeepsEffect (processClaimedBoardOperatorCommand stateHash executor answers world).2 :=
      fun hTells hApplied => ⟨hCall.2 hApplied, hTells.stored hApplied⟩
    show (∀ ended ∈ processClaimedBoardOperatorCommand stateHash executor answers world ::
      processCalls stateHash rest _, Tells ended) ↔ _
    rw [List.forall_mem_cons]
    constructor
    · intro h
      exact ⟨hCall.1.mp h.1, (ih (hNext h.1)).mp h.2⟩
    · intro h
      have hTells := hCall.1.mpr h.1
      exact ⟨hTells, (ih (hNext hTells)).mpr h.2⟩

/-- Over any number of calls for a command whose action has not been applied: each returned
record is COMPLETED exactly when the action was applied and REJECTED or FAILED only when it
was not, and an applied action is never stored as REJECTED or FAILED, if and only if no
call records a failure over an effect. -/
theorem recorded_outcomes_tell {stateHash : Option TradeCardState → String}
    {calls : List OperatorCall} {world : OperatorWorld} (hFresh : world.applied = false) :
    (∀ ended ∈ processCalls stateHash calls world, Tells ended) ↔
      NoneMislabels stateHash calls world := by
  apply processCalls_tell_iff
  intro hApplied
  rw [hFresh] at hApplied
  cases hApplied

/-! ## Samples -/

def acceptedSellCommand : OperatorCommandRecord :=
  { commandId := "c1"
    idempotencyKey := "BOARD:c1"
    commandType := .sellAll
    symbol := "AAPL"
    payload := "{}"
    status := .accepted
    requestedByDevice := "web"
    requestedByHost := "Mobile Web"
    createdAt := 10
    executorDeviceId := "laptop" }

def heldTradeCard : TradeCardState :=
  { environment := "PROD"
    accountNo := "1"
    symbol := "AAPL"
    version := 3
    boardStatus := .openPosition
    brokerQuantity := 10
    orderableQuantity := 10 }

/-- A Sell All that goes through. -/
def sellAllAnswers : BoardActionAnswers :=
  { ownerRow := .returned
      (some { payload := .object { deviceId := "laptop" }, revision := some 3 })
    startedAt := 20
    started := .committed
    deserialized := .returned
      { gesture := .requestSellAll
        environment := "PROD"
        accountNo := "1"
        symbol := "AAPL"
        expectedCardVersion := 3 }
    validated := .returned (some heldTradeCard)
    others := .returned []
    before := .returned (some heldTradeCard)
    action := .returned { heldTradeCard with version := 4, boardStatus := .sellAll }
    actionCommit := .committed
    published := .returned ()
    completedAt := 30
    completed := .committed
    endedAt := 30
    ended := .committed }

def laptop : LocalDeviceRole := { deviceId := "laptop", hostname := "laptop" }

/-- The sell is started twice; the second start is refused. -/
theorem recorded_outcomes_tell_twice :
    (processCalls (fun _ => "") [(laptop, sellAllAnswers), (laptop, sellAllAnswers)]
      { record := acceptedSellCommand }).Forall Tells := by
  have hQuiet : ¬ sellAllAnswers.RaisesUnrecorded := by
    simp [BoardActionAnswers.RaisesUnrecorded, sellAllAnswers]
  have hNone : NoneMislabels (fun _ => "") [(laptop, sellAllAnswers), (laptop, sellAllAnswers)]
      { record := acceptedSellCommand } :=
    ⟨fun h => hQuiet h.raises, fun h => hQuiet h.raises, trivial⟩
  have hFresh : ({ record := acceptedSellCommand } : OperatorWorld).applied = false := rfl
  exact List.forall_iff_forall_mem.mpr ((recorded_outcomes_tell hFresh).mpr hNone)

/-- The local snapshot cannot be written after the Sell All has been committed. -/
def snapshotFails : BoardActionAnswers :=
  { sellAllAnswers with
    published := .raised { cls := .osError, message := "No space left on device" } }

theorem applied_recorded_as_failed :
    ¬ ∀ (stateHash : Option TradeCardState → String) (calls : List OperatorCall)
      (world : OperatorWorld), world.applied = false →
        ∀ ended ∈ processCalls stateHash calls world, Tells ended := by
  intro hTells
  have hLast := hTells (fun _ => "") [(laptop, snapshotFails)] { record := acceptedSellCommand } rfl
    (processClaimedBoardOperatorCommand (fun _ => "") laptop snapshotFails
      { record := acceptedSellCommand }) List.mem_cons_self
  have hApplied : (processClaimedBoardOperatorCommand (fun _ => "") laptop snapshotFails
      { record := acceptedSellCommand }).2.applied = true := by decide +kernel
  have hFailed : (processClaimedBoardOperatorCommand (fun _ => "") laptop snapshotFails
      { record := acceptedSellCommand }).2.record.status = .failed := by decide +kernel
  exact (hLast.stored hApplied).2 hFailed

end QuantApp.Services
