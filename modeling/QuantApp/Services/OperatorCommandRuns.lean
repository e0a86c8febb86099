import QuantApp.Services.OperatorCommands

/-!
# Operator commands run once

`submit_operator_command`, `claim_next_operator_command`, `start_operator_command` and
`finish_operator_command`, one statement at a time, by any number of threads and with
transfers of both roles in between.  A plain `SELECT` of a transaction reads the snapshot
its first `SELECT` took; locking reads and writes see the latest committed row.

In every run there is one row for each idempotency key, a command is accepted once and
started once, by the owner of execution, and a terminal command stays as it is.  Commands
that conflict are kept apart as long as no conflicting one is committed between the first
`SELECT` of a submission and its conflict check, which reads the older snapshot.
-/

namespace QuantApp.Services

open Core Verified
open LockedRows (abort commit keeps_overwrite put put_pending seen)
open RunWith (refl step)
open Function (update update_of_ne update_self)
open OperatorCommandStatus (isActive isActive_eq)
open LockedRows (put_pending_ne keeps_lock lock_pending lock_holder_of_some lock_rows seen_of_clean
  keeps_put keeps_abort abort_clean keeps_commit commit_clean)

variable {record : OperatorCommandRecord} {id commandId key message : String}
  {state : OperatorState} {row : Option SharedRow} {executor : LocalDeviceRole}
  {place : OperatorPlace} {request : OperatorRequest}

/-! ## Statements -/

/-- The write a transaction makes to one command. -/
inductive OperatorWrite
  | submit (request : OperatorRequest) (serverNow : Instant)
  | accept (executor : LocalDeviceRole) (record : OperatorCommandRecord) (serverNow : Instant)
  | start (executor : LocalDeviceRole) (record : OperatorCommandRecord) (serverNow : Instant)
  | finish (executor : LocalDeviceRole) (outcome : OperatorOutcome)
      (record : OperatorCommandRecord) (serverNow : Instant)

namespace OperatorWrite

/-- The committed row it starts from. -/
def before : OperatorWrite → Option OperatorCommandRecord
  | submit _ _ => none
  | accept _ record _ | start _ record _ | finish _ _ record _ => some record

def after : OperatorWrite → OperatorCommandRecord
  | submit request serverNow => submittedRecord request serverNow
  | accept executor record serverNow => acceptedRecord executor serverNow record
  | start _ record serverNow => startedRecord serverNow record
  | finish _ outcome record serverNow => finishedRecord outcome serverNow record

def isAccept : OperatorWrite → Bool
  | accept .. => true
  | _ => false

def isStart : OperatorWrite → Bool
  | start .. => true
  | _ => false

/-- The device that accepts, starts or finishes. -/
def executor? : OperatorWrite → Option LocalDeviceRole
  | submit _ _ => none
  | accept executor _ _ | start executor _ _ | finish executor _ _ _ => some executor

end OperatorWrite

/-- The rows of the table, as one transaction or one snapshot sees them. -/
abbrev OperatorRows := String → Option OperatorCommandRecord

/-- No row of the table is active and conflicts with the request. -/
def NoConflict (rows : OperatorRows) (request : OperatorRequest) : Prop :=
  ∀ id record, rows id = some record →
    conflictsWith request.normalizedSymbol request.commandType record = false

/-- The row the claim selects: the oldest pending one. -/
def IsOldestPending (rows : OperatorRows) (commandId : String) : Prop :=
  ∃ record, rows commandId = some record ∧ record.status = .pending ∧
    ∀ id other, rows id = some other → other.status = .pending →
      record.createdAt < other.createdAt ∨ (record.createdAt = other.createdAt ∧ commandId ≤ id)

/-- The statement a thread is about to execute. -/
inductive OperatorPlace
  | readsExisting (request : OperatorRequest)
  | authorizesSubmit (request : OperatorRequest) (snapshot : OperatorRows)
  | checksConflicts (request : OperatorRequest) (snapshot : OperatorRows)
  | inserts (request : OperatorRequest)
  | looksForPending (executor : LocalDeviceRole)
  | authorizesClaim (executor : LocalDeviceRole)
  | selectsPending (executor : LocalDeviceRole)
  | accepts (executor : LocalDeviceRole) (commandId : String)
  | authorizesStart (executor : LocalDeviceRole) (commandId : String)
  | starts (executor : LocalDeviceRole) (commandId : String)
  | finishes (executor : LocalDeviceRole) (commandId : String) (outcome : OperatorOutcome)
  | commits (commandId : String) (write : OperatorWrite)

/-- What the four functions begin with, after the checks before their transactions. -/
def OperatorPlace.IsFirst : OperatorPlace → Prop
  | .readsExisting request => requireIdempotencyKey request = .ok ()
  | .looksForPending _ | .authorizesStart _ _ => True
  | .finishes _ _ outcome => requireFinishStatus outcome.status = .ok ()
  | _ => False

/-- A committed write and the row of the main device at that moment. -/
structure OperatorEntry where
  commandId : String
  write : OperatorWrite
  mainRow : Option SharedRow

abbrev OperatorStore := LockedRows String OperatorCommandRecord Nat

structure OperatorState where
  roles : SharedStore
  commands : OperatorStore
  places : Nat → Option OperatorPlace := fun _ => none
  log : List OperatorEntry := []

namespace OperatorState

def move (state : OperatorState) (thread : Nat) (place : OperatorPlace) : OperatorState :=
  { state with places := Function.update state.places thread (some place) }

def lockRole (state : OperatorState) (thread : Nat) (key : RoleKey) : OperatorState :=
  { state with roles := state.roles.lock thread (.role key) }

def lockCommand (state : OperatorState) (thread : Nat) (commandId : String) : OperatorState :=
  { state with commands := state.commands.lock thread commandId }

/-- The write is made and waits for its commit. -/
def write (state : OperatorState) (thread : Nat) (commandId : String)
    (write : OperatorWrite) : OperatorState :=
  { state with
    commands := state.commands.put thread commandId write.after
    places := Function.update state.places thread (some (.commits commandId write)) }

def commit (state : OperatorState) (thread : Nat) (commandId : String)
    (write : OperatorWrite) : OperatorState :=
  { roles := state.roles.commit thread
    commands := state.commands.commit thread
    places := Function.update state.places thread none
    log :=
      { commandId := commandId
        write := write
        mainRow := state.roles.rows (.role .mainDevice) } :: state.log }

/-- A call ends with its transaction undone. -/
def undo (state : OperatorState) (thread : Nat) : OperatorState :=
  { state with
    roles := state.roles.abort thread
    commands := state.commands.abort thread
    places := Function.update state.places thread none }

def transfer (state : OperatorState) (key : RoleKey) (row : SharedRow) : OperatorState :=
  { state with roles := state.roles.overwrite (.role key) row }

end OperatorState

inductive OperatorMove
  | enter (thread : Nat) (place : OperatorPlace)
  | statement (thread : Nat)
  | undo (thread : Nat)
  | transfer (key : RoleKey) (row : SharedRow)

/-- One statement of one thread.  A call may end at any statement with nothing written: it
finds the row of its key, is refused, meets a conflict or no row to update, raises, or its
process dies. -/
inductive OperatorStep : OperatorState → OperatorMove → OperatorState → Prop
  | enter {state : OperatorState} {thread : Nat} {place : OperatorPlace}
      (hIdle : state.places thread = none) (hFirst : place.IsFirst) :
      OperatorStep state (.enter thread place) (state.move thread place)
  | undo {state : OperatorState} {thread : Nat} {place : OperatorPlace}
      (hPlace : state.places thread = some place) :
      OperatorStep state (.undo thread) (state.undo thread)
  | transfer {state : OperatorState} {key : RoleKey} {row : SharedRow}
      (hFree : state.roles.holder (.role key) = none) :
      OperatorStep state (.transfer key row) (state.transfer key row)
  | readExisting {state : OperatorState} {thread : Nat} {request : OperatorRequest}
      (hPlace : state.places thread = some (.readsExisting request))
      (hNew : ∀ id record, state.commands.rows id = some record →
        record.idempotencyKey ≠ request.key) :
      OperatorStep state (.statement thread)
        (state.move thread (.authorizesSubmit request state.commands.rows))
  | authorizeSubmit {state : OperatorState} {thread : Nat} {request : OperatorRequest}
      {snapshot : OperatorRows}
      (hPlace : state.places thread = some (.authorizesSubmit request snapshot))
      (hCan : state.roles.CanLock thread (.role .operatorControl))
      (hOwner : requireOperatorOwner request
        (state.roles.seen thread (.role .operatorControl)) = .ok ()) :
      OperatorStep state (.statement thread)
        ((state.lockRole thread .operatorControl).move thread (.checksConflicts request snapshot))
  | checkConflicts {state : OperatorState} {thread : Nat} {request : OperatorRequest}
      {snapshot : OperatorRows}
      (hPlace : state.places thread = some (.checksConflicts request snapshot))
      (hNone : NoConflict snapshot request) :
      OperatorStep state (.statement thread) (state.move thread (.inserts request))
  | insert {state : OperatorState} {thread : Nat} {request : OperatorRequest}
      {serverNow : Instant}
      (hPlace : state.places thread = some (.inserts request))
      (hCan : state.commands.CanLock thread (strip request.commandId))
      (hId : state.commands.rows (strip request.commandId) = none)
      (hKey : ∀ id record, state.commands.rows id = some record →
        record.idempotencyKey ≠ request.key)
      (hOthers : ∀ other id record, state.commands.pending other id = some record →
        record.idempotencyKey ≠ request.key) :
      OperatorStep state (.statement thread)
        (state.write thread (strip request.commandId) (.submit request serverNow))
  | lookForPending {state : OperatorState} {thread : Nat} {executor : LocalDeviceRole}
      (hPlace : state.places thread = some (.looksForPending executor))
      (hPending : ∃ id record, state.commands.rows id = some record ∧ record.status = .pending) :
      OperatorStep state (.statement thread) (state.move thread (.authorizesClaim executor))
  | authorizeClaim {state : OperatorState} {thread : Nat} {executor : LocalDeviceRole}
      (hPlace : state.places thread = some (.authorizesClaim executor))
      (hCan : state.roles.CanLock thread (.role .mainDevice))
      (hOwner : requireExecutionOwner executor claimRefused
        (state.roles.seen thread (.role .mainDevice)) = .ok ()) :
      OperatorStep state (.statement thread)
        ((state.lockRole thread .mainDevice).move thread (.selectsPending executor))
  | selectPending {state : OperatorState} {thread : Nat} {executor : LocalDeviceRole}
      {commandId : String}
      (hPlace : state.places thread = some (.selectsPending executor))
      (hOldest : IsOldestPending state.commands.rows commandId)
      (hCan : state.commands.CanLock thread commandId) :
      OperatorStep state (.statement thread)
        ((state.lockCommand thread commandId).move thread (.accepts executor commandId))
  | accept {state : OperatorState} {thread : Nat} {executor : LocalDeviceRole}
      {commandId : String} {record : OperatorCommandRecord} {serverNow : Instant}
      (hPlace : state.places thread = some (.accepts executor commandId))
      (hCan : state.commands.CanLock thread commandId)
      (hSeen : state.commands.seen thread commandId = some record)
      (hStatus : record.status = .pending) :
      OperatorStep state (.statement thread)
        (state.write thread commandId (.accept executor record serverNow))
  | authorizeStart {state : OperatorState} {thread : Nat} {executor : LocalDeviceRole}
      {commandId : String}
      (hPlace : state.places thread = some (.authorizesStart executor commandId))
      (hCan : state.roles.CanLock thread (.role .mainDevice))
      (hOwner : requireExecutionOwner executor startRefused
        (state.roles.seen thread (.role .mainDevice)) = .ok ()) :
      OperatorStep state (.statement thread)
        ((state.lockRole thread .mainDevice).move thread (.starts executor commandId))
  | start {state : OperatorState} {thread : Nat} {executor : LocalDeviceRole}
      {commandId : String} {record : OperatorCommandRecord} {serverNow : Instant}
      (hPlace : state.places thread = some (.starts executor commandId))
      (hCan : state.commands.CanLock thread commandId)
      (hSeen : state.commands.seen thread commandId = some record)
      (hMatches : canStart executor record = true) :
      OperatorStep state (.statement thread)
        (state.write thread commandId (.start executor record serverNow))
  | finish {state : OperatorState} {thread : Nat} {executor : LocalDeviceRole}
      {commandId : String} {outcome : OperatorOutcome} {record : OperatorCommandRecord}
      {serverNow : Instant}
      (hPlace : state.places thread = some (.finishes executor commandId outcome))
      (hCan : state.commands.CanLock thread commandId)
      (hSeen : state.commands.seen thread commandId = some record)
      (hMatches : canFinish executor outcome record = true) :
      OperatorStep state (.statement thread)
        (state.write thread commandId (.finish executor outcome record serverNow))
  | commit {state : OperatorState} {thread : Nat} {commandId : String} {write : OperatorWrite}
      (hPlace : state.places thread = some (.commits commandId write)) :
      OperatorStep state (.statement thread) (state.commit thread commandId write)

/-! ## What holds -/

/-- How far a command has come: pending, accepted, or started. -/
def OperatorCommandStatus.stage : OperatorCommandStatus → Nat
  | .pending => 0
  | .accepted => 1
  | _ => 2

/-- A write leads a command on: it keeps what names it, and starts from an active row. -/
structure OperatorWrite.LeadsOn (write : OperatorWrite) (record : OperatorCommandRecord) :
    Prop where
  key : write.after.idempotencyKey = record.idempotencyKey
  commandType : write.after.commandType = record.commandType
  symbol : write.after.symbol = record.symbol
  active : record.status.isActive = true
  stage : record.status.stage ≤ write.after.status.stage
  accepts : write.isAccept = true → record.status.stage = 0
  starts : write.isStart = true → record.status.stage = 1

def HoldsRole (roles : SharedStore) (thread : Nat) (key : RoleKey) : Prop :=
  roles.holder (.role key) = some thread

/-- The thread has the lock of the ownership row, which names its device. -/
def OwnsExecution (roles : SharedStore) (thread : Nat) (executor : LocalDeviceRole) : Prop :=
  HoldsRole roles thread .mainDevice ∧ NamesOwner (roles.rows (.role .mainDevice)) executor.deviceId

/-- The one uncommitted write of the thread. -/
def Writing (commands : OperatorStore) (thread : Nat) (commandId : String)
    (write : OperatorWrite) : Prop :=
  commands.pending thread = Function.update (fun _ => none) commandId (some write.after) ∧
    commands.rows commandId = write.before

/-- What stood when the write was made still stands. -/
def WriteStands (roles : SharedStore) (commands : OperatorStore) (thread : Nat) :
    OperatorWrite → Prop
  | .submit request _ =>
    HoldsRole roles thread .operatorControl ∧ NoConflict commands.rows request
  | .accept executor record _ =>
    OwnsExecution roles thread executor ∧ record.status = .pending
  | .start executor record _ =>
    OwnsExecution roles thread executor ∧ record.status = .accepted
  | .finish _ outcome record _ =>
    isSourceStatus outcome.status record.status = true ∧ requireFinishStatus outcome.status = .ok ()

/-- The thread's place between two statements. -/
def StandsAt (roles : SharedStore) (commands : OperatorStore) (thread : Nat) :
    Option OperatorPlace → Prop
  | some (.checksConflicts _ _) =>
    commands.Clean thread ∧ HoldsRole roles thread .operatorControl
  | some (.inserts request) =>
    commands.Clean thread ∧ HoldsRole roles thread .operatorControl ∧
      NoConflict commands.rows request
  | some (.selectsPending executor) | some (.accepts executor _) | some (.starts executor _) =>
    commands.Clean thread ∧ OwnsExecution roles thread executor
  | some (.finishes _ _ outcome) =>
    commands.Clean thread ∧ requireFinishStatus outcome.status = .ok ()
  | some (.commits commandId write) =>
    Writing commands thread commandId write ∧ WriteStands roles commands thread write
  | _ => commands.Clean thread

/-- A row of the key is committed under the id, or waits for its commit. -/
def Shows (commands : OperatorStore) (id key : String) : Prop :=
  (∃ record, commands.rows id = some record ∧ record.idempotencyKey = key) ∨
    ∃ thread record, commands.pending thread id = some record ∧ record.idempotencyKey = key

/-- An idempotency key names one command. -/
def UniqueKeys (commands : OperatorStore) : Prop :=
  ∀ id id' key, Shows commands id key → Shows commands id' key → id = id'

/-- No two commands conflict. -/
def KeptApart (rows : OperatorRows) : Prop :=
  ∀ id id' record record', rows id = some record → rows id' = some record' → id ≠ id' →
    record'.status.isActive = true → conflictsWith record'.symbol record'.commandType record = false

/-- The row of an entry's command is at least where the entry has brought it. -/
def OperatorEntry.Reached (rows : OperatorRows) (entry : OperatorEntry) : Prop :=
  ∃ record, rows entry.commandId = some record ∧
    (entry.write.isAccept = true → 1 ≤ record.status.stage) ∧
      (entry.write.isStart = true → 2 ≤ record.status.stage)

/-- Who accepted or started the command owned execution at that moment. -/
def OperatorEntry.Owned (entry : OperatorEntry) : Prop :=
  ∀ executor, entry.write.executor? = some executor →
    entry.write.isAccept = true ∨ entry.write.isStart = true →
      NamesOwner entry.mainRow executor.deviceId

/-- No command is accepted twice and none is started twice. -/
def OncePerCommand (log : List OperatorEntry) : Prop :=
  log.Pairwise (fun later earlier =>
    later.commandId = earlier.commandId →
      ¬ (later.write.isAccept = true ∧ earlier.write.isAccept = true) ∧
        ¬ (later.write.isStart = true ∧ earlier.write.isStart = true))

structure OperatorKept (state : OperatorState) : Prop where
  roles : ∀ thread, state.roles.Clean thread
  sound : state.commands.Sound
  places : ∀ thread, StandsAt state.roles state.commands thread (state.places thread)
  keys : UniqueKeys state.commands
  apart : KeptApart state.commands.rows
  reached : ∀ entry ∈ state.log, entry.Reached state.commands.rows
  owned : ∀ entry ∈ state.log, entry.Owned
  once : OncePerCommand state.log

/-! ## Writes -/

theorem requireFinishStatus_stage {status : OperatorCommandStatus}
    (h : requireFinishStatus status = .ok ()) : status.stage = 2 := by
  cases status <;> first | rfl | cases h

open OperatorWrite (after isAccept isStart submit)

variable {write : OperatorWrite}

/-- What a write that stands does to the row it starts from. -/
theorem WriteStands.leadsOn {roles : SharedStore} {commands : OperatorStore} {thread : Nat}
    (h : WriteStands roles commands thread write)
    (hBefore : write.before = some record) : write.LeadsOn record := by
  cases write with
  | submit => cases hBefore
  | accept =>
    cases hBefore
    have hStatus := h.2
    constructor <;>
      simp [after, acceptedRecord, isAccept, isStart,
        hStatus, OperatorCommandStatus.stage, isActive]
  | start =>
    cases hBefore
    have hStatus := h.2
    constructor <;>
      simp [after, startedRecord, isAccept, isStart,
        hStatus, OperatorCommandStatus.stage, isActive]
  | finish executor outcome old serverNow =>
    cases hBefore
    obtain ⟨hActive, -, -⟩ := isSourceStatus_active h.1
    obtain ⟨-, hKey, hType, hSymbol, hStatus⟩ := finishedRecord_fields outcome serverNow record
    constructor
    · exact hKey
    · exact hType
    · exact hSymbol
    · rw [isActive_eq, hActive]
      rfl
    · show record.status.stage ≤ (finishedRecord outcome serverNow record).status.stage
      rw [hStatus, requireFinishStatus_stage h.2]
      cases record.status <;> decide
    · intro hAccept
      cases hAccept
    · intro hStart
      cases hStart

theorem accepts_stage (h : write.isAccept = true) :
    write.after.status.stage = 1 := by
  cases write with
  | accept => rfl
  | _ => cases h

theorem starts_stage (h : write.isStart = true) :
    write.after.status.stage = 2 := by
  cases write with
  | start => rfl
  | _ => cases h

/-! ## Ownership -/

theorem requireOperatorOwner_ok (h : requireOperatorOwner request row = .ok ()) :
    row.isSome = true := by
  cases row with
  | none => cases h
  | some => rfl

/-- Who may process commands is named by the ownership row, unless his own id is blank. -/
theorem requireExecutionOwner_ok (h : requireExecutionOwner executor message row = .ok ())
    (hNamed : executor.deviceId ≠ "") : NamesOwner row executor.deviceId := by
  obtain ⟨owner, hOwner, hSame⟩ := bind_eq_ok.mp h
  have hDevice : owner = executor.deviceId := by
    split at hSame
    · cases hSame
    next hEq => exact not_not.mp hEq
  cases row with
  | none =>
    cases hOwner
    exact absurd hDevice.symm hNamed
  | some row =>
    obtain ⟨payload, hPayload, hRest⟩ := bind_eq_ok.mp hOwner
    refine ⟨row, payload, rfl, decodePayload_eq_ok.mp hPayload, ?_⟩
    have hName : strip payload.deviceId = owner := by
      rw [if_neg (by simp)] at hRest
      exact Except.ok.inj hRest
    rw [← hDevice, ← hName, strip_strip]

theorem NamesOwner.isSome {deviceId : String} (h : NamesOwner row deviceId) :
    row.isSome = true := by
  obtain ⟨found, payload, hFound, -⟩ := h
  rw [hFound]
  rfl

/-! ## Rows after a commit -/

section Commit

variable {roles : SharedStore} {commands : OperatorStore} {thread : Nat} {commandId : String}
  {write : OperatorWrite}

theorem Writing.committed (h : Writing commands thread commandId write) :
    (commands.commit thread).rows = update commands.rows commandId (some write.after) := by
  funext id
  show commands.seen thread id = _
  unfold seen
  rw [h.1]
  by_cases hId : id = commandId
  · subst hId
    simp
  · simp [hId]

theorem conflictsWith_after (h : write.LeadsOn record) (hActive : record.status.isActive = true)
    (symbol : String) (commandType : OperatorCommandType)
    (hNone : conflictsWith symbol commandType record = false) :
    conflictsWith symbol commandType write.after = false := by
  simp only [conflictsWith, Bool.and_eq_false_iff, decide_eq_false_iff_not, hActive] at hNone
  simp only [conflictsWith, Bool.and_eq_false_iff, decide_eq_false_iff_not, h.symbol, h.commandType]
  left
  cases hNone with
  | inl hRest => exact hRest
  | inr hFalse => cases hFalse

/-- An active command that does not stand in the way of another is not stood in the way of. -/
theorem conflictsWith_swap {other : OperatorCommandRecord} {symbol : String}
    {commandType : OperatorCommandType} (hActive : record.status.isActive = true)
    (hNone : conflictsWith symbol commandType record = false) (hSymbol : other.symbol = symbol)
    (hType : other.commandType = commandType) :
    conflictsWith record.symbol record.commandType other = false := by
  simp only [conflictsWith, Bool.and_eq_false_iff, decide_eq_false_iff_not, hActive] at hNone
  simp only [conflictsWith, Bool.and_eq_false_iff, decide_eq_false_iff_not, hSymbol, hType]
  left
  cases hNone with
  | inr hFalse => cases hFalse
  | inl hRest =>
    cases hRest with
    | inl hOther => exact Or.inl fun hSame => hOther hSame.symm
    | inr hApart => exact Or.inr fun hMem => hApart (mem_conflictTypes_comm hMem)

/-- A request that meets no conflict meets none after another write, unless that write is
a submission. -/
theorem NoConflict.committed (h : NoConflict commands.rows request)
    (hWriting : Writing commands thread commandId write)
    (hStands : WriteStands roles commands thread write) (hBefore : write.before = some record) :
    NoConflict (commands.commit thread).rows request := by
  intro id found hFound
  rw [hWriting.committed] at hFound
  by_cases hId : id = commandId
  · subst hId
    rw [update_self] at hFound
    cases hFound
    have hLeads := hStands.leadsOn hBefore
    apply conflictsWith_after hLeads hLeads.active
    exact h id record (hWriting.2.trans hBefore)
  · rw [update_of_ne hId] at hFound
    exact h id found hFound

theorem KeptApart.committed (h : KeptApart commands.rows)
    (hWriting : Writing commands thread commandId write)
    (hStands : WriteStands roles commands thread write) :
    KeptApart (commands.commit thread).rows := by
  -- The row that is written conflicts with none that stays.
  have hNew : ∀ id found, commands.rows id = some found → id ≠ commandId →
      found.status.isActive = true →
        conflictsWith found.symbol found.commandType write.after = false := by
    intro id found hFound hId hActive
    cases hBefore : write.before with
    | some record =>
      have hLeads := hStands.leadsOn hBefore
      apply conflictsWith_after hLeads hLeads.active
      exact h commandId id record found (hWriting.2.trans hBefore) hFound (Ne.symm hId) hActive
    | none =>
      cases write with
      | submit =>
        exact conflictsWith_swap hActive (hStands.2 id found hFound) rfl rfl
      | _ => cases hBefore
  have hOld : ∀ id found, commands.rows id = some found → id ≠ commandId →
      write.after.status.isActive = true →
        conflictsWith write.after.symbol write.after.commandType found = false := by
    intro id found hFound hId hActive
    by_cases hFoundActive : found.status.isActive = true
    · exact conflictsWith_swap hActive (hNew id found hFound hId hFoundActive) rfl rfl
    · simp only [Bool.not_eq_true] at hFoundActive
      simp [conflictsWith, hFoundActive]
  intro id id' record record' hRecord hRecord' hIds hActive
  rw [hWriting.committed] at hRecord hRecord'
  by_cases hId : id = commandId
  · subst hId
    rw [update_self] at hRecord
    rw [update_of_ne (Ne.symm hIds)] at hRecord'
    cases hRecord
    exact hNew id' record' hRecord' (Ne.symm hIds) hActive
  · rw [update_of_ne hId] at hRecord
    by_cases hId' : id' = commandId
    · subst hId'
      rw [update_self] at hRecord'
      cases hRecord'
      exact hOld id record hRecord hId hActive
    · rw [update_of_ne hId'] at hRecord'
      exact h id id' record record' hRecord hRecord' hIds hActive

/-- What waits for its commit is shown before it and after it. -/
theorem shows_of_commit (h : Shows (commands.commit thread) id key) : Shows commands id key := by
  cases h with
  | inl hRow =>
    obtain ⟨record, hRow, hKey⟩ := hRow
    change commands.seen thread id = some record at hRow
    unfold seen at hRow
    cases hPending : commands.pending thread id with
    | none =>
      rw [hPending] at hRow
      exact Or.inl ⟨record, hRow, hKey⟩
    | some =>
      rw [hPending] at hRow
      cases hRow
      exact Or.inr ⟨thread, record, hPending, hKey⟩
  | inr hPending =>
    obtain ⟨other, record, hPending, hKey⟩ := hPending
    by_cases hSelf : other = thread
    · subst hSelf
      simp [commit] at hPending
    · simp only [commit, update_of_ne hSelf] at hPending
      exact Or.inr ⟨other, record, hPending, hKey⟩

theorem shows_of_abort (h : Shows (commands.abort thread) id key) : Shows commands id key := by
  cases h with
  | inl hRow => exact Or.inl hRow
  | inr hPending =>
    obtain ⟨other, record, hPending, hKey⟩ := hPending
    by_cases hSelf : other = thread
    · subst hSelf
      simp [abort] at hPending
    · simp only [abort, update_of_ne hSelf] at hPending
      exact Or.inr ⟨other, record, hPending, hKey⟩

theorem shows_of_put (h : Shows (commands.put thread commandId record) id key) :
    Shows commands id key ∨ (id = commandId ∧ record.idempotencyKey = key) := by
  cases h with
  | inl hRow => exact Or.inl (Or.inl hRow)
  | inr hPending =>
    obtain ⟨other, found, hPending, hKey⟩ := hPending
    by_cases hSelf : other = thread
    · subst hSelf
      by_cases hId : id = commandId
      · subst hId
        rw [put_pending] at hPending
        cases hPending
        exact Or.inr ⟨rfl, hKey⟩
      · rw [put_pending_ne hId] at hPending
        exact Or.inl (Or.inr ⟨other, found, hPending, hKey⟩)
    · simp only [put, update_of_ne hSelf] at hPending
      exact Or.inl (Or.inr ⟨other, found, hPending, hKey⟩)

theorem UniqueKeys.of_shows {after : OperatorStore} (h : UniqueKeys commands)
    (hShows : ∀ id key, Shows after id key → Shows commands id key) : UniqueKeys after :=
  fun id id' key hShown hShown' =>
    h id id' key (hShows id key hShown) (hShows id' key hShown')

/-- An entry's command has still come as far after a commit. -/
theorem OperatorEntry.Reached.committed {entry : OperatorEntry}
    (h : entry.Reached commands.rows) (hWriting : Writing commands thread commandId write)
    (hStands : WriteStands roles commands thread write) :
    entry.Reached (commands.commit thread).rows := by
  obtain ⟨record, hRecord, hAccept, hStart⟩ := h
  unfold OperatorEntry.Reached
  rw [hWriting.committed]
  by_cases hId : entry.commandId = commandId
  · rw [hId] at hRecord
    have hStage := (hStands.leadsOn (hWriting.2.symm.trans hRecord)).stage
    refine ⟨write.after, by rw [hId, update_self], ?_, ?_⟩
    · intro hKind
      exact Nat.le_trans (hAccept hKind) hStage
    · intro hKind
      exact Nat.le_trans (hStart hKind) hStage
  · refine ⟨record, ?_, hAccept, hStart⟩
    rw [update_of_ne hId]
    exact hRecord

end Commit

/-! ## Frames -/

section Frames

variable {roles roles' : SharedStore} {commands commands' : OperatorStore} {thread : Nat}

theorem HoldsRole.keeps {key : RoleKey} (hKeeps : LockedRows.Keeps thread roles roles')
    (h : HoldsRole roles thread key) : HoldsRole roles' thread key :=
  hKeeps.holder _ h

theorem OwnsExecution.keeps (hKeeps : LockedRows.Keeps thread roles roles')
    (h : OwnsExecution roles thread executor) : OwnsExecution roles' thread executor := by
  refine ⟨h.1.keeps hKeeps, ?_⟩
  rw [hKeeps.rows _ h.1]
  exact h.2

/-- A thread keeps its place through the steps of the others. -/
theorem StandsAt.keeps {place : Option OperatorPlace}
    (hSound : commands.Sound) (hRoles : LockedRows.Keeps thread roles roles')
    (hCommands : LockedRows.Keeps thread commands commands')
    (hApart : ∀ request, HoldsRole roles thread .operatorControl →
      NoConflict commands.rows request → NoConflict commands'.rows request)
    (h : StandsAt roles commands thread place) : StandsAt roles' commands' thread place := by
  have hClean : commands.Clean thread → commands'.Clean thread := by
    intro hBefore key
    rw [hCommands.pending]
    exact hBefore key
  cases place with
  | none => exact hClean h
  | some place =>
    cases place with
    | readsExisting | authorizesSubmit | looksForPending | authorizesClaim | authorizesStart =>
      exact hClean h
    | finishes => exact ⟨hClean h.1, h.2⟩
    | checksConflicts | selectsPending | accepts | starts => exact ⟨hClean h.1, h.2.keeps hRoles⟩
    | inserts request =>
      exact ⟨hClean h.1, h.2.1.keeps hRoles, hApart request h.2.1 h.2.2⟩
    | commits commandId write =>
      obtain ⟨hWriting, hStands⟩ := h
      have hOwn : commands.pending thread commandId = some write.after := by
        rw [hWriting.1, update_self]
      constructor
      · constructor
        · exact hCommands.pending.trans hWriting.1
        · exact (hCommands.rows _ (hSound _ _ _ hOwn)).trans hWriting.2
      · cases write with
        | submit request =>
          exact ⟨hStands.1.keeps hRoles, hApart request hStands.1 hStands.2⟩
        | accept | start => exact ⟨hStands.1.keeps hRoles, hStands.2⟩
        | finish => exact hStands

end Frames

/-! ## Steps -/

section Steps

variable {state : OperatorState} {thread : Nat}

section

variable (h : OperatorKept state)
include h

theorem OperatorKept.moves (place : Option OperatorPlace) {roles : SharedStore}
    {commands : OperatorStore} (hClean : ∀ thread, roles.Clean thread) (hSound : commands.Sound)
    (hRoles : ∀ other, other ≠ thread → LockedRows.Keeps other state.roles roles)
    (hCommands : ∀ other, other ≠ thread → LockedRows.Keeps other state.commands commands)
    (hRows : commands.rows = state.commands.rows) (hKeys : UniqueKeys commands)
    (hPlace : StandsAt roles commands thread place) :
    OperatorKept { roles := roles
                   commands := commands
                   places := update state.places thread place
                   log := state.log } := by
  constructor
  · exact hClean
  · exact hSound
  · intro other
    show StandsAt roles commands other (update state.places thread place other)
    by_cases hSelf : other = thread
    · rw [hSelf, update_self]
      exact hPlace
    · rw [update_of_ne hSelf]
      apply (h.places other).keeps h.sound (hRoles other hSelf) (hCommands other hSelf)
      intro request _ hNone
      rw [hRows]
      exact hNone
  · exact hKeys
  · show KeptApart commands.rows
    rw [hRows]
    exact h.apart
  · intro entry hEntry
    show entry.Reached commands.rows
    rw [hRows]
    exact h.reached entry hEntry
  · exact h.owned
  · exact h.once

theorem OperatorKept.goesOn (hPlace : StandsAt state.roles state.commands thread (some place)) :
    OperatorKept (state.move thread place) :=
  h.moves (some place) h.roles h.sound (fun other _ => LockedRows.Keeps.refl other _)
    (fun other _ => LockedRows.Keeps.refl other _) rfl h.keys hPlace

theorem OperatorKept.clean {place : Option OperatorPlace} (hPlace : state.places thread = place)
    (hReads : StandsAt state.roles state.commands thread place → state.commands.Clean thread) :
    state.commands.Clean thread := by
  apply hReads
  rw [← hPlace]
  exact h.places thread

theorem OperatorKept.locksRole {key : RoleKey} (hCan : state.roles.CanLock thread (.role key))
    (hPlace : StandsAt (state.roles.lock thread (.role key)) state.commands thread (some place)) :
    OperatorKept ((state.lockRole thread key).move thread place) := by
  apply h.moves (some place) _ h.sound (fun other hOther => keeps_lock hCan hOther)
    (fun other _ => LockedRows.Keeps.refl other _) rfl h.keys hPlace
  intro other id
  rw [lock_pending]
  exact h.roles other id

theorem OperatorKept.owns (hNamed : executor.deviceId ≠ "")
    (hOwner : requireExecutionOwner executor message (state.roles.seen thread (.role .mainDevice))
      = .ok ()) :
    OwnsExecution (state.roles.lock thread (.role .mainDevice)) thread executor := by
  have hNames := requireExecutionOwner_ok hOwner hNamed
  refine ⟨lock_holder_of_some hNames.isSome, ?_⟩
  rw [lock_rows, ← seen_of_clean (h.roles thread)]
  exact hNames

section

variable (hClean : state.commands.Clean thread) (hCan : state.commands.CanLock thread commandId)
include hClean hCan

theorem OperatorKept.writes
    (hBefore : state.commands.rows commandId = write.before)
    (hStands : WriteStands state.roles state.commands thread write)
    (hKeys : ∀ id, Shows state.commands id write.after.idempotencyKey → id = commandId) :
    OperatorKept (state.write thread commandId write) := by
  apply h.moves (some (.commits commandId write)) h.roles (h.sound.put hCan write.after)
    (fun other _ => LockedRows.Keeps.refl other _)
    (fun other hOther => keeps_put hCan hOther write.after) rfl
  · intro id id' key hShown hShown'
    cases shows_of_put hShown with
    | inl hOld =>
      cases shows_of_put hShown' with
      | inl hOld' => exact h.keys id id' key hOld hOld'
      | inr hNew' =>
        rw [← hNew'.2] at hOld
        exact (hKeys id hOld).trans hNew'.1.symm
    | inr hNew =>
      cases shows_of_put hShown' with
      | inl hOld' =>
        rw [← hNew.2] at hOld'
        exact hNew.1.trans (hKeys id' hOld').symm
      | inr hNew' => exact hNew.1.trans hNew'.1.symm
  · constructor
    · constructor
      · funext id
        by_cases hId : id = commandId
        · subst hId
          simp [put]
        · rw [put_pending_ne hId, update_of_ne hId]
          exact hClean id
      · exact hBefore
    · cases write with
      | _ => exact hStands

theorem OperatorKept.updates
    (hSeen : state.commands.seen thread commandId = some record)
    (hBefore : write.before = some record)
    (hStands : WriteStands state.roles state.commands thread write) :
    OperatorKept (state.write thread commandId write) := by
  have hRow : state.commands.rows commandId = some record := by
    rw [← seen_of_clean hClean]
    exact hSeen
  apply h.writes hClean hCan (hRow.trans hBefore.symm) hStands
  intro id hShown
  rw [(hStands.leadsOn hBefore).key] at hShown
  exact h.keys id commandId _ hShown (Or.inl ⟨record, hRow, rfl⟩)

end

theorem OperatorKept.undone : OperatorKept (state.undo thread) := by
  apply h.moves none _ (h.sound.abort thread)
    (fun other hOther => keeps_abort hOther)
    (fun other hOther => keeps_abort hOther) rfl
    (h.keys.of_shows fun _ _ hShown => shows_of_abort hShown) abort_clean
  intro other id
  by_cases hSelf : other = thread
  · subst hSelf
    exact abort_clean id
  · simp only [abort, update_of_ne hSelf]
    exact h.roles other id

theorem OperatorKept.transferred {key : RoleKey} {row : SharedRow}
    (hFree : state.roles.holder (.role key) = none) : OperatorKept (state.transfer key row) where
  roles := h.roles
  sound := h.sound
  places := fun thread => (h.places thread).keeps h.sound (keeps_overwrite hFree row)
    (LockedRows.Keeps.refl thread _) (fun _ _ hNone => hNone)
  keys := h.keys
  apart := h.apart
  reached := h.reached
  owned := h.owned
  once := h.once

end

/-! ### The commit -/

/-- The new entry is the first of its kind for its command. -/
theorem OperatorKept.once_committed (h : OperatorKept state)
    (hWriting : Writing state.commands thread commandId write)
    (hStands : WriteStands state.roles state.commands thread write) :
    OncePerCommand (state.commit thread commandId write).log := by
  apply List.Pairwise.cons _ h.once
  intro earlier hEarlier hSame
  obtain ⟨record, hRecord, hAccepted, hStarted⟩ := h.reached earlier hEarlier
  have hId : earlier.commandId = commandId := hSame.symm
  have hRow : state.commands.rows commandId = some record := by
    rw [← hId]
    exact hRecord
  have hLeads := hStands.leadsOn (hWriting.2.symm.trans hRow)
  constructor
  · intro hKinds
    have hBefore := hLeads.accepts hKinds.1
    have hAfter := hAccepted hKinds.2
    omega
  · intro hKinds
    have hBefore := hLeads.starts hKinds.1
    have hAfter := hStarted hKinds.2
    omega

theorem OperatorKept.committed (h : OperatorKept state)
    (hPlace : state.places thread = some (.commits commandId write)) :
    OperatorKept (state.commit thread commandId write) := by
  obtain ⟨hWriting, hStands⟩ :
      StandsAt state.roles state.commands thread (some (.commits commandId write)) := by
    rw [← hPlace]
    exact h.places thread
  have hRoles : ∀ other, other ≠ thread →
      LockedRows.Keeps other state.roles (state.roles.commit thread) := by
    intro other hOther
    apply keeps_commit _ hOther
    intro t key row hPending
    rw [h.roles t key] at hPending
    cases hPending
  constructor
  · intro other id
    by_cases hSelf : other = thread
    · subst hSelf
      exact commit_clean id
    · show (state.roles.commit thread).pending other id = none
      simp only [commit, update_of_ne hSelf]
      exact h.roles other id
  · exact h.sound.commit thread
  · intro other
    show StandsAt (state.roles.commit thread) (state.commands.commit thread) other
      (update state.places thread none other)
    by_cases hSelf : other = thread
    · rw [hSelf, update_self]
      exact commit_clean
    · rw [update_of_ne hSelf]
      apply (h.places other).keeps h.sound (hRoles other hSelf)
        (keeps_commit h.sound hSelf)
      intro request hHolds hNone
      cases hBefore : write.before with
      | some => exact hNone.committed hWriting hStands hBefore
      | none =>
        -- A submission holds the operator row itself.
        cases write with
        | submit =>
          have hOwn : HoldsRole state.roles thread .operatorControl := hStands.1
          unfold HoldsRole at hOwn hHolds
          rw [hHolds] at hOwn
          exact absurd (Option.some.inj hOwn) hSelf
        | _ => cases hBefore
  · exact h.keys.of_shows fun _ _ hShown => shows_of_commit hShown
  · exact h.apart.committed hWriting hStands
  · intro entry hEntry
    cases List.mem_cons.mp hEntry with
    | inl hNew =>
      rw [hNew]
      refine ⟨write.after, ?_, ?_, ?_⟩
      · show (state.commands.commit thread).rows commandId = some write.after
        rw [hWriting.committed, update_self]
      · intro hKind
        exact Nat.le_of_eq (accepts_stage hKind).symm
      · intro hKind
        exact Nat.le_of_eq (starts_stage hKind).symm
    | inr hOld => exact (h.reached entry hOld).committed hWriting hStands
  · refine List.forall_mem_cons.mpr ⟨?_, h.owned⟩
    intro executor hExecutor hKind
    cases write with
    | submit => cases hExecutor
    | accept | start =>
      cases hExecutor
      exact hStands.1.2
    | finish => simp [isAccept, isStart] at hKind
  · exact h.once_committed hWriting hStands

end Steps

/-! ## Runs -/

/-- Where a submission checks for conflicts, what its snapshot does not show has not been
committed since; and the id of a device that asks for execution is not blank. -/
def ChecksCommitted (state : OperatorState) : OperatorMove → Prop
  | .statement thread =>
    (∀ request snapshot, state.places thread = some (.checksConflicts request snapshot) →
      NoConflict snapshot request → NoConflict state.commands.rows request) ∧
    (∀ executor, state.places thread = some (.authorizesClaim executor) → executor.deviceId ≠ "") ∧
    ∀ executor commandId, state.places thread = some (.authorizesStart executor commandId) →
      executor.deviceId ≠ ""
  | _ => True

theorem OperatorKept.step {after : OperatorState} {move : OperatorMove} (h : OperatorKept state)
    (hChecks : ChecksCommitted state move) (hStep : OperatorStep state move after) :
    OperatorKept after := by
  cases hStep with
  | enter hIdle hFirst =>
    rename_i thread place
    have hClean : state.commands.Clean thread := h.clean hIdle id
    apply h.goesOn
    cases place with
    | readsExisting | looksForPending | authorizesStart => exact hClean
    | finishes => exact ⟨hClean, hFirst⟩
    | _ => exact hFirst.elim
  | undo => exact h.undone
  | transfer hFree => exact h.transferred hFree
  | readExisting hPlace => exact h.goesOn (h.clean hPlace id)
  | authorizeSubmit hPlace hCan hOwner =>
    apply h.locksRole hCan
    exact ⟨h.clean hPlace id, lock_holder_of_some (requireOperatorOwner_ok hOwner)⟩
  | @checkConflicts thread request snapshot hPlace hNone =>
    have hStands := h.places thread
    rw [hPlace] at hStands
    apply h.goesOn
    exact ⟨hStands.1, hStands.2, hChecks.1 _ _ hPlace hNone⟩
  | @insert thread request serverNow hPlace hCan hId hKey hOthers =>
    have hStands := h.places thread
    rw [hPlace] at hStands
    have hBefore : state.commands.rows (strip request.commandId) =
        (submit request serverNow).before := hId
    apply h.writes hStands.1 hCan hBefore hStands.2
    intro id hShown
    cases hShown with
    | inl hRow =>
      obtain ⟨record, hRow, hSame⟩ := hRow
      exact absurd hSame (hKey id record hRow)
    | inr hPending =>
      obtain ⟨other, record, hPending, hSame⟩ := hPending
      exact absurd hSame (hOthers other id record hPending)
  | lookForPending hPlace => exact h.goesOn (h.clean hPlace id)
  | authorizeClaim hPlace hCan hOwner =>
    apply h.locksRole hCan
    exact ⟨h.clean hPlace id, h.owns (hChecks.2.1 _ hPlace) hOwner⟩
  | @selectPending thread executor commandId hPlace hOldest hCan =>
    have hStands := h.places thread
    rw [hPlace] at hStands
    apply h.moves (some (.accepts executor commandId)) h.roles (h.sound.lock hCan)
      (fun other _ => LockedRows.Keeps.refl other _)
      (fun other hOther => keeps_lock hCan hOther) lock_rows
    · apply h.keys.of_shows
      intro id key hShown
      unfold Shows at hShown
      rw [lock_rows, lock_pending] at hShown
      exact hShown
    · refine ⟨?_, hStands.2⟩
      intro id
      rw [lock_pending]
      exact hStands.1 id
  | @accept thread executor commandId record serverNow hPlace hCan hSeen hStatus =>
    have hStands := h.places thread
    rw [hPlace] at hStands
    exact h.updates hStands.1 hCan hSeen rfl ⟨hStands.2, hStatus⟩
  | authorizeStart hPlace hCan hOwner =>
    apply h.locksRole hCan
    exact ⟨h.clean hPlace id, h.owns (hChecks.2.2 _ _ hPlace) hOwner⟩
  | @start thread executor commandId record serverNow hPlace hCan hSeen hMatches =>
    have hStands := h.places thread
    rw [hPlace] at hStands
    apply h.updates hStands.1 hCan hSeen rfl
    refine ⟨hStands.2, ?_⟩
    unfold canStart at hMatches
    simp only [Bool.and_eq_true, decide_eq_true_eq] at hMatches
    exact hMatches.1
  | @finish thread executor commandId outcome record serverNow hPlace hCan hSeen hMatches =>
    have hStands := h.places thread
    rw [hPlace] at hStands
    apply h.updates hStands.1 hCan hSeen rfl
    refine ⟨?_, hStands.2⟩
    unfold canFinish at hMatches
    exact (Bool.and_eq_true _ _ ▸ hMatches).1
  | commit hPlace => exact h.committed hPlace

theorem OperatorKept.terminal_stays {after : OperatorState} {move : OperatorMove}
    (h : OperatorKept state) (hStep : OperatorStep state move after)
    (hRow : state.commands.rows id = some record) (hTerminal : record.status.isTerminal = true) :
    after.commands.rows id = some record := by
  cases hStep with
  | @commit thread commandId write hPlace =>
    have hStands := h.places thread
    rw [hPlace] at hStands
    show (state.commands.commit thread).rows id = some record
    rw [hStands.1.committed]
    have hOther : id ≠ commandId := by
      intro hSame
      rw [hSame] at hRow
      have hActive := (hStands.2.leadsOn (hStands.1.2.symm.trans hRow)).active
      rw [isActive_eq, hTerminal] at hActive
      cases hActive
    rw [update_of_ne hOther]
    exact hRow
  | selectPending =>
    show (state.commands.lock _ _).rows id = some record
    rw [lock_rows]
    exact hRow
  | _ => exact hRow

/-- A table as the functions leave it. -/
structure ConsistentRows (rows : OperatorRows) : Prop where
  keys : ∀ id id' record record', rows id = some record → rows id' = some record' →
    record.idempotencyKey = record'.idempotencyKey → id = id'
  apart : KeptApart rows

/-- A state in which no transaction is open and nothing has happened yet. -/
def OperatorState.found (roles : RowKey → Option SharedRow) (rows : OperatorRows) : OperatorState :=
  { roles := { rows := roles }, commands := { rows := rows } }

open OperatorState (found lockRole move write)

theorem operatorKept_found (roles : RowKey → Option SharedRow) {rows : OperatorRows}
    (h : ConsistentRows rows) : OperatorKept (found roles rows) := by
  constructor
  · intro thread key
    rfl
  · intro thread key record hPending
    cases hPending
  · intro thread key
    rfl
  · intro id id' key hShown hShown'
    obtain ⟨record, hRow, hKey⟩ | ⟨thread, record, hPending, -⟩ := hShown
    · obtain ⟨record', hRow', hKey'⟩ | ⟨thread, record', hPending', -⟩ := hShown'
      · exact h.keys id id' record record' hRow hRow' (hKey.trans hKey'.symm)
      · cases hPending'
    · cases hPending
  · exact h.apart
  · intro entry hEntry
    cases hEntry
  · intro entry hEntry
    cases hEntry
  · exact List.Pairwise.nil

theorem OperatorKept.consistent (h : OperatorKept state) : ConsistentRows state.commands.rows := by
  constructor
  · intro id id' record record' hRow hRow' hKey
    exact h.keys id id' record'.idempotencyKey (Or.inl ⟨record, hRow, hKey⟩)
      (Or.inl ⟨record', hRow', rfl⟩)
  · exact h.apart

/-- Over every interleaving from a consistent table: an idempotency key names one row,
commands that conflict are never active together, each command is accepted once and started
once, by the owner of execution at that moment, and a terminal row stays as it is. -/
theorem operator_commands_run_once {roles : RowKey → Option SharedRow} {rows : OperatorRows}
    {state later : OperatorState} (hRows : ConsistentRows rows)
    (hRun : RunWith OperatorStep ChecksCommitted (OperatorState.found roles rows) state)
    (hRest : RunWith OperatorStep ChecksCommitted state later) :
    ConsistentRows state.commands.rows ∧ OncePerCommand state.log ∧
      (∀ entry ∈ state.log, entry.Owned) ∧
      ∀ id record, state.commands.rows id = some record → record.status.isTerminal = true →
        later.commands.rows id = some record := by
  have hKept : OperatorKept state := RunWith.invariant hRun (operatorKept_found roles hRows)
    (fun _ _ _ hBefore hChecks hStep => hBefore.step hChecks hStep)
  refine ⟨hKept.consistent, hKept.once, hKept.owned, ?_⟩
  intro id record hRow hTerminal
  have hBoth : OperatorKept later ∧ later.commands.rows id = some record :=
    RunWith.invariant (I := fun s => OperatorKept s ∧ s.commands.rows id = some record) hRest
      ⟨hKept, hRow⟩ (fun _ _ _ hBefore hChecks hStep =>
        ⟨hBefore.1.step hChecks hStep, hBefore.1.terminal_stays hStep hBefore.2 hTerminal⟩)
  exact hBoth.2

/-! ## Samples -/

/-- The web operator holds Operator Control and the laptop owns execution. -/
def operatorRoles : RowKey → Option SharedRow
  | .role .mainDevice => some { payload := .object { deviceId := "laptop" }, revision := some 3 }
  | .role .operatorControl =>
    some { payload := .object { deviceId := "web" }, revision := some 1 }
  | .document _ => none

def webSellRequest (commandType : OperatorCommandType) (key commandId : String) : OperatorRequest :=
  { requester := { deviceId := "web", hostname := "Mobile Web" }
    commandType := commandType
    symbol := "AAPL"
    payload := "{}"
    idempotencyKey := key
    commandId := commandId }

def laptopExecutor : LocalDeviceRole := { deviceId := "laptop", hostname := "laptop" }

def pendingSellCommand : OperatorCommandRecord :=
  submittedRecord (webSellRequest .sellAll "sell-1" "c1") 10

/-- One command waits to be claimed. -/
def pendingRows : OperatorRows := fun id => if id = "c1" then some pendingSellCommand else none

theorem pendingRows_eq_some (h : pendingRows id = some record) :
    id = "c1" ∧ record = pendingSellCommand := by
  unfold pendingRows at h
  split at h
  next hId => exact ⟨hId, (Option.some.inj h).symm⟩
  · cases h

theorem consistent_pendingRows : ConsistentRows pendingRows := by
  constructor
  · intro id id' record record' hRow hRow' _
    exact (pendingRows_eq_some hRow).1.trans (pendingRows_eq_some hRow').1.symm
  · intro id id' record record' hRow hRow' hIds
    exact absurd ((pendingRows_eq_some hRow).1.trans (pendingRows_eq_some hRow').1.symm) hIds

/-- The statements of the laptop's claim, one after another. -/
def claimEntered : OperatorState :=
  (OperatorState.found operatorRoles pendingRows).move 0 (.looksForPending laptopExecutor)

def claimLooked : OperatorState := claimEntered.move 0 (.authorizesClaim laptopExecutor)

def claimAuthorized : OperatorState :=
  (claimLooked.lockRole 0 .mainDevice).move 0 (.selectsPending laptopExecutor)

def claimSelected : OperatorState :=
  (claimAuthorized.lockCommand 0 "c1").move 0 (.accepts laptopExecutor "c1")

def claimWritten : OperatorState :=
  claimSelected.write 0 "c1" (.accept laptopExecutor pendingSellCommand 20)

def claimCommitted : OperatorState :=
  claimWritten.commit 0 "c1" (.accept laptopExecutor pendingSellCommand 20)

/-- A statement meets the condition where it neither checks for conflicts nor asks for
execution under a blank id. -/
theorem checksCommitted_of_place {thread : Nat} (hPlace : state.places thread = some place)
    (hCheck : ∀ request snapshot, place ≠ .checksConflicts request snapshot)
    (hClaim : ∀ executor, place = .authorizesClaim executor → executor.deviceId ≠ "")
    (hStart : ∀ executor commandId, place ≠ .authorizesStart executor commandId) :
    ChecksCommitted state (.statement thread) := by
  refine ⟨?_, ?_, ?_⟩
  · intro request snapshot hAt
    rw [hPlace] at hAt
    exact absurd (Option.some.inj hAt) (hCheck request snapshot)
  · intro executor hAt
    rw [hPlace] at hAt
    exact hClaim executor (Option.some.inj hAt)
  · intro executor commandId hAt
    rw [hPlace] at hAt
    exact absurd (Option.some.inj hAt) (hStart executor commandId)

theorem claimed_run :
    RunWith OperatorStep ChecksCommitted (found operatorRoles pendingRows)
      claimCommitted := by
  have hRead : pendingRows "c1" = some pendingSellCommand := by decide +kernel
  have hOldest : IsOldestPending pendingRows "c1" := by
    refine ⟨pendingSellCommand, hRead, rfl, ?_⟩
    intro id other hOther _
    right
    rw [(pendingRows_eq_some hOther).1, (pendingRows_eq_some hOther).2]
    exact ⟨rfl, by decide⟩
  have hEntered : OperatorStep (found operatorRoles pendingRows)
      (.enter 0 (.looksForPending laptopExecutor)) claimEntered := .enter rfl trivial
  have hLooked : OperatorStep claimEntered (.statement 0) claimLooked :=
    .lookForPending rfl ⟨"c1", pendingSellCommand, hRead, rfl⟩
  have hAuthorized : OperatorStep claimLooked (.statement 0) claimAuthorized :=
    .authorizeClaim rfl (Or.inl rfl) (by decide +kernel)
  have hSelected : OperatorStep claimAuthorized (.statement 0) claimSelected :=
    .selectPending rfl hOldest (Or.inl rfl)
  have hWritten : OperatorStep claimSelected (.statement 0) claimWritten :=
    .accept rfl (by decide +kernel) (by decide +kernel) rfl
  have hCommitted : OperatorStep claimWritten (.statement 0) claimCommitted := .commit rfl
  apply step _ (checksCommitted_of_place rfl (by simp) (by simp) (by simp)) hCommitted
  apply step _ (checksCommitted_of_place rfl (by simp) (by simp) (by simp)) hWritten
  apply step _ (checksCommitted_of_place rfl (by simp) (by simp) (by simp)) hSelected
  apply step _ (checksCommitted_of_place rfl (by simp) (by simp [laptopExecutor]) (by simp))
    hAuthorized
  apply step _ (checksCommitted_of_place rfl (by simp) (by simp) (by simp)) hLooked
  have hIdle : ChecksCommitted (found operatorRoles pendingRows)
      (.enter 0 (.looksForPending laptopExecutor)) := trivial
  exact (refl _).step hIdle hEntered

theorem operator_commands_run_once_claimed :
    claimCommitted.log.length = 1 ∧ OncePerCommand claimCommitted.log ∧
      ∀ entry ∈ claimCommitted.log, entry.Owned := by
  obtain ⟨-, hOnce, hOwned, -⟩ := operator_commands_run_once consistent_pendingRows claimed_run
    (RunWith.refl claimCommitted)
  exact ⟨rfl, hOnce, hOwned⟩

/-! ### Two submissions -/

def sellAllRequest : OperatorRequest := webSellRequest .sellAll "sell-1" "c1"

def sellPartialRequest : OperatorRequest := webSellRequest .sellPartial "sell-2" "c2"

def noCommands : OperatorRows := fun _ => none

/-- Both have looked for the row of their key. -/
def bothRead : OperatorState :=
  ((((OperatorState.found operatorRoles noCommands).move 0 (.readsExisting sellAllRequest)).move 1
    (.readsExisting sellPartialRequest)).move 0 (.authorizesSubmit sellAllRequest noCommands)).move
      1 (.authorizesSubmit sellPartialRequest noCommands)

def firstChecks : OperatorState :=
  (bothRead.lockRole 0 .operatorControl).move 0 (.checksConflicts sellAllRequest noCommands)

def firstWritten : OperatorState :=
  (firstChecks.move 0 (.inserts sellAllRequest)).write 0 (strip sellAllRequest.commandId)
    (.submit sellAllRequest 10)

def firstCommitted : OperatorState :=
  firstWritten.commit 0 (strip sellAllRequest.commandId) (.submit sellAllRequest 10)

def secondChecks : OperatorState :=
  (firstCommitted.lockRole 1 .operatorControl).move 1
    (.checksConflicts sellPartialRequest noCommands)

def secondWritten : OperatorState :=
  (secondChecks.move 1 (.inserts sellPartialRequest)).write 1
    (strip sellPartialRequest.commandId) (.submit sellPartialRequest 20)

def secondCommitted : OperatorState :=
  secondWritten.commit 1 (strip sellPartialRequest.commandId) (.submit sellPartialRequest 20)

theorem firstCommitted_rows :
    firstCommitted.commands.rows = update noCommands (strip sellAllRequest.commandId)
      (some (submittedRecord sellAllRequest 10)) := by
  have hWriting : Writing firstWritten.commands 0 (strip sellAllRequest.commandId)
      (.submit sellAllRequest 10) := by
    constructor
    · show (put _ 0 _ _).pending 0 = _
      simp [put, firstChecks, bothRead, move, lockRole,
        found]
    · rfl
  exact hWriting.committed

theorem firstCommitted_pending (thread : Nat) (id : String) :
    firstCommitted.commands.pending thread id = none := by
  simp [firstCommitted, firstWritten, firstChecks, bothRead, OperatorState.commit,
    write, move, lockRole, found,
    commit, put]

theorem submissions_run :
    RunWith OperatorStep (fun _ _ => True) (found operatorRoles noCommands)
      secondCommitted := by
  have hNoConflict : ∀ request, NoConflict noCommands request := by
    intro request id record hRow
    cases hRow
  have hFirstChecks : OperatorStep bothRead (.statement 0) firstChecks :=
    .authorizeSubmit rfl (Or.inl rfl) (by decide +kernel)
  have hFirstWritten : OperatorStep (firstChecks.move 0 (.inserts sellAllRequest))
      (.statement 0) firstWritten := by
    apply OperatorStep.insert rfl (Or.inl rfl) rfl
    · intro id record hRow
      cases hRow
    · intro other id record hPending
      cases hPending
  have hSecondChecks : OperatorStep firstCommitted (.statement 1) secondChecks :=
    .authorizeSubmit rfl (Or.inl (by decide +kernel)) (by decide +kernel)
  have hSecondWritten : OperatorStep (secondChecks.move 1 (.inserts sellPartialRequest))
      (.statement 1) secondWritten := by
    apply OperatorStep.insert rfl (Or.inl (by decide +kernel)) (by decide +kernel)
    · intro id record hRow
      change firstCommitted.commands.rows id = some record at hRow
      rw [firstCommitted_rows] at hRow
      by_cases hId : id = strip sellAllRequest.commandId
      · rw [hId, update_self] at hRow
        cases hRow
        decide +kernel
      · rw [update_of_ne hId] at hRow
        cases hRow
    · intro other id record hPending
      change firstCommitted.commands.pending other id = some record at hPending
      rw [firstCommitted_pending] at hPending
      cases hPending
  apply step _ trivial (.commit rfl)
  apply step _ trivial hSecondWritten
  apply step _ trivial (.checkConflicts rfl (hNoConflict _))
  apply step _ trivial hSecondChecks
  apply step _ trivial (.commit rfl)
  apply step _ trivial hFirstWritten
  apply step _ trivial (.checkConflicts rfl (hNoConflict _))
  apply step _ trivial hFirstChecks
  apply step _ trivial (.readExisting rfl (by intro id record hRow; cases hRow))
  apply step _ trivial (.readExisting rfl (by intro id record hRow; cases hRow))
  have hKeys : requireIdempotencyKey sellAllRequest = .ok () ∧
      requireIdempotencyKey sellPartialRequest = .ok () := by decide +kernel
  apply step _ trivial (.enter rfl hKeys.2)
  apply step _ trivial (.enter rfl hKeys.1)
  exact refl _

theorem conflicting_commands_submitted :
    ¬ ∀ (roles : RowKey → Option SharedRow) (rows : OperatorRows) (state : OperatorState),
      ConsistentRows rows →
        RunWith OperatorStep (fun _ _ => True) (OperatorState.found roles rows) state →
          KeptApart state.commands.rows := by
  intro hApart
  have hEmpty : ConsistentRows noCommands := by
    constructor
    all_goals
      intro id id' record record' hRow
      cases hRow
  have hBoth := hApart operatorRoles noCommands secondCommitted hEmpty submissions_run
  have hFirst : secondCommitted.commands.rows "c1" =
      some (submittedRecord sellAllRequest 10) := by decide +kernel
  have hSecond : secondCommitted.commands.rows "c2" =
      some (submittedRecord sellPartialRequest 20) := by decide +kernel
  have hNone := hBoth "c1" "c2" _ _ hFirst hSecond (by decide) rfl
  revert hNone
  decide +kernel

end QuantApp.Services
