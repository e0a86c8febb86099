import QuantApp.Services.StateSync
import QuantApp.Verified.LabelledRuns
import QuantApp.Verified.RowLocks

/-!
# Shared documents

`push_state`, `push_operator_controlled_settings` and `publish_planning_snapshot`, one
statement at a time under the row locks they take: first the row of the role that
authorizes the writer, then the rows of the documents, then the writes, then the commit.
-/

namespace QuantApp.Services

open Core Verified

/-! ## Rows -/

/-- `SYNCED_STATE_KEYS`. -/
inductive DocumentKey
  | watchlist
  | buylist
  | tradePlans
  | executionQueue
  | scannerSetups
  | settings
  deriving DecidableEq, Repr

def DocumentKey.value : DocumentKey → String
  | .watchlist => "watchlist"
  | .buylist => "buylist"
  | .tradePlans => "trade_plans"
  | .executionQueue => "execution_queue"
  | .scannerSetups => "scanner_setups"
  | .settings => "settings"

/-- The documents in the order a publication reads and writes them. -/
def syncedStateKeys : List DocumentKey :=
  [.watchlist, .buylist, .tradePlans, .executionQueue, .scannerSetups, .settings]

inductive RoleKey
  | mainDevice
  | operatorControl
  deriving DecidableEq, Repr

def RoleKey.value : RoleKey → String
  | .mainDevice => mainDeviceKey
  | .operatorControl => "__operator_control__"

inductive RowKey
  | role (key : RoleKey)
  | document (key : DocumentKey)
  deriving DecidableEq, Repr

/-- The fields of a payload that are read here: those of a role row, and the text of a
document. -/
structure SharedPayload where
  deviceId : String := ""
  locked : Bool := false
  body : String := ""
  deriving Repr

abbrev SharedRow := StateRow SharedPayload

abbrev SharedStore := LockedRows RowKey SharedRow Nat

/-! ## Calls -/

inductive PushStatus
  | conflict
  | notMain
  | notOperator
  | error
  deriving DecidableEq, Repr

/-- Why a call writes nothing. -/
structure Refusal where
  status : PushStatus
  error : String
  deriving DecidableEq, Repr

inductive DocumentCall
  | pushState (key : DocumentKey) (deviceId : String) (expectedRevision : Int)
      (document : String)
  | pushOperatorControlledSettings (role : LocalDeviceRole) (expectedRevision : Int)
      (document : String)
  | publishPlanningSnapshot (role : LocalDeviceRole) (expectedRevisions : DocumentKey → Int)
      (documents : DocumentKey → String) (marketIsOpen : Bool)

namespace DocumentCall

/-- The row that authorizes the writer. -/
def role : DocumentCall → RoleKey
  | .pushState _ _ _ _ => .mainDevice
  | _ => .operatorControl

def device : DocumentCall → String
  | .pushState _ deviceId _ _ => deviceId
  | .pushOperatorControlledSettings role _ _ => role.deviceId
  | .publishPlanningSnapshot role _ _ _ => role.deviceId

def keys : DocumentCall → List DocumentKey
  | .pushState key _ _ _ => [key]
  | .pushOperatorControlledSettings _ _ _ => [.settings]
  | .publishPlanningSnapshot _ _ _ _ => syncedStateKeys

/-- The revision the call names as expected. -/
def expected : DocumentCall → DocumentKey → Int
  | .pushState _ _ revision _ => fun _ => revision
  | .pushOperatorControlledSettings _ revision _ => fun _ => revision
  | .publishPlanningSnapshot _ revisions _ _ => revisions

def document : DocumentCall → DocumentKey → String
  | .pushState _ _ _ document => fun _ => document
  | .pushOperatorControlledSettings _ _ document => fun _ => document
  | .publishPlanningSnapshot _ _ documents _ => documents

def isPublish : DocumentCall → Bool
  | .publishPlanningSnapshot _ _ _ _ => true
  | _ => false

variable (call : DocumentCall)

/-- The revision of a row as the call reads it; zero is missing for the two pushes. -/
def currentRevision (row : Option SharedRow) : Int :=
  match row with
  | none => 0
  | some row => if call.isPublish then orZero row.revision else orOne row.revision

def newRow (key : DocumentKey) : SharedRow :=
  { payload := .object { body := call.document key }
    revision := some (call.expected key + 1) }

/-- The checks before the transaction. -/
def precheck : Except Refusal Unit :=
  match call with
  | .pushState _ deviceId revision _ =>
    if deviceId = "" then
      .error { status := .notMain, error := "This device has no sync identity." }
    else if revision < 0 then
      .error { status := .error, error := "expected_revision must be non-negative" }
    else .ok ()
  | .pushOperatorControlledSettings role revision _ =>
    if strip role.deviceId = "" then
      .error
        { status := .notOperator
          error := "This operator has no shared device identity." }
    else if revision < 0 then
      .error { status := .error, error := "expected_revision must be non-negative" }
    else .ok ()
  | .publishPlanningSnapshot _ revisions _ marketIsOpen =>
    if marketIsOpen then
      .error
        { status := .error
          error := "Market is open. Full plan publish is disabled; use Live " ++
            "Intervention commands instead." }
    else if syncedStateKeys.any (fun key => revisions key < 0) then
      .error { status := .error, error := "Expected revisions must be non-negative" }
    else .ok ()

end DocumentCall

/-! ## Authorization -/

variable (deviceId : String)

/-- The role check of `push_state`. -/
def requireMainDevice (row : Option SharedRow) : Except Refusal Unit :=
  match row with
  | none => .error { status := .notMain, error := "No main device is active." }
  | some row =>
    match decodePayload row.payload mainDeviceKey with
    | .error message => .error { status := .error, error := message }
    | .ok owner =>
      if strip owner.deviceId ≠ deviceId then
        .error
          { status := .notMain
            error := "Another device owns main-device synchronization." }
      else .ok ()

/-- `_operator_control_from_state`, as far as ownership goes: the owner, none when locked. -/
def operatorControlOwner (payload : SharedPayload) : Except String (Option String) :=
  let deviceId := strip payload.deviceId
  if !payload.locked && deviceId = "" then
    .error "Operator-control ownership row has no device_id"
  else .ok (if payload.locked then none else some deviceId)

/-- The role check of `push_operator_controlled_settings`. -/
def requireOperatorControl (row : Option SharedRow) : Except Refusal Unit :=
  match row with
  | none =>
    .error { status := .notOperator, error := "Operator Control has not been assigned." }
  | some row =>
    match decodePayload row.payload RoleKey.operatorControl.value >>= operatorControlOwner with
    | .error message => .error { status := .error, error := message }
    | .ok owner =>
      if owner ≠ some deviceId then
        .error
          { status := .notOperator
            error := "Another device owns Operator Control." }
      else .ok ()

/-- The checks of `publish_planning_snapshot` before it reads the documents: its role, and
that no operator command is in flight. -/
def requirePublisher (commandInFlight : Bool) (row : Option SharedRow) : Except Refusal Unit :=
  match row with
  | none =>
    .error
      { status := .error
        error := "Operator Control is Locked; assign it before publishing." }
  | some row =>
    match decodePayload row.payload RoleKey.operatorControl.value with
    | .error message => .error { status := .error, error := message }
    | .ok owner =>
      if owner.locked then
        .error
          { status := .error
            error := "Operator Control is Locked; assign it before publishing." }
      else if owner.deviceId ≠ deviceId then
        .error
          { status := .error
            error := "Only the current Operator Control owner may publish the plan." }
      else if commandInFlight then
        .error
          { status := .error
            error := "Full plan publish is blocked while an operator command is in flight." }
      else .ok ()

def DocumentCall.authorize (call : DocumentCall) (commandInFlight : Bool)
    (row : Option SharedRow) : Except Refusal Unit :=
  match call with
  | .pushState _ deviceId _ _ => requireMainDevice deviceId row
  | .pushOperatorControlledSettings role _ _ => requireOperatorControl role.deviceId row
  | .publishPlanningSnapshot role _ _ _ => requirePublisher role.deviceId commandInFlight row

/-- The row names the device as the owner of its role. -/
def NamesOwner (row : Option SharedRow) (deviceId : String) : Prop :=
  ∃ found payload, row = some found ∧ found.payload = .object payload ∧
    strip payload.deviceId = strip deviceId

/-- Who is authorized owns the role, and the row of the role is there. -/
theorem DocumentCall.authorize_ok {call : DocumentCall} {commandInFlight : Bool}
    {row : Option SharedRow} (h : call.authorize commandInFlight row = .ok ()) :
    NamesOwner row call.device := by
  cases call with
  | pushState key deviceId =>
    change requireMainDevice deviceId row = .ok () at h
    unfold requireMainDevice at h
    cases row with
    | none => cases h
    | some row =>
      dsimp only at h
      cases hDecoded : decodePayload row.payload mainDeviceKey with
      | error =>
        rw [hDecoded] at h
        cases h
      | ok owner =>
        rw [hDecoded] at h
        dsimp only at h
        split at h
        · cases h
        next hOwner =>
          refine ⟨row, owner, rfl, decodePayload_eq_ok.mp hDecoded, ?_⟩
          have hSame : strip owner.deviceId = deviceId := not_not.mp hOwner
          show strip owner.deviceId = strip deviceId
          rw [← hSame, strip_strip]
  | pushOperatorControlledSettings role =>
    change requireOperatorControl role.deviceId row = .ok () at h
    unfold requireOperatorControl at h
    cases row with
    | none => cases h
    | some row =>
      dsimp only at h
      cases hOwner : decodePayload row.payload RoleKey.operatorControl.value >>=
          operatorControlOwner with
      | error message =>
        rw [hOwner] at h
        cases h
      | ok owner =>
        rw [hOwner] at h
        dsimp only at h
        split at h
        · cases h
        next hSame =>
          obtain ⟨payload, hPayload, hRest⟩ := bind_eq_ok.mp hOwner
          refine ⟨row, payload, rfl, decodePayload_eq_ok.mp hPayload, ?_⟩
          have hDevice : owner = some role.deviceId := not_not.mp hSame
          unfold operatorControlOwner at hRest
          dsimp only at hRest
          split at hRest
          · cases hRest
          · have hEq := Except.ok.inj hRest
            rw [hDevice] at hEq
            split at hEq
            · cases hEq
            · have hName : strip payload.deviceId = role.deviceId := Option.some.inj hEq
              show strip payload.deviceId = strip role.deviceId
              rw [← hName, strip_strip]
  | publishPlanningSnapshot role =>
    change requirePublisher role.deviceId commandInFlight row = .ok () at h
    unfold requirePublisher at h
    cases row with
    | none => cases h
    | some row =>
      dsimp only at h
      cases hDecoded : decodePayload row.payload RoleKey.operatorControl.value with
      | error =>
        rw [hDecoded] at h
        cases h
      | ok owner =>
        rw [hDecoded] at h
        dsimp only at h
        split at h
        · cases h
        split at h
        · cases h
        next hOwner =>
          refine ⟨row, owner, rfl, decodePayload_eq_ok.mp hDecoded, ?_⟩
          show strip owner.deviceId = strip role.deviceId
          rw [not_not.mp hOwner]

/-! ## Revisions -/

/-- What a call says of a document whose revision is not the expected one. -/
def DocumentCall.changed (call : DocumentCall) (key : DocumentKey) (current : Int) : Refusal :=
  let changed := "Remote " ++ key.value ++ " revision changed from " ++
    toString (call.expected key) ++ " to " ++ toString current
  if call.isPublish then
    { status := .error, error := changed ++ "; refresh before publishing." }
  else { status := .conflict, error := changed ++ "." }

/-- The comparison of the rows that were read with the expected revisions. -/
def DocumentCall.requireRevisions (call : DocumentCall) :
    List (DocumentKey × Option SharedRow) → Except Refusal Unit
  | [] => .ok ()
  | (key, row) :: rest =>
    if call.currentRevision row ≠ call.expected key then
      .error (call.changed key (call.currentRevision row))
    else call.requireRevisions rest

theorem DocumentCall.requireRevisions_ok {call : DocumentCall}
    {read : List (DocumentKey × Option SharedRow)} (h : call.requireRevisions read = .ok ()) :
    ∀ entry ∈ read, call.currentRevision entry.2 = call.expected entry.1 := by
  induction read with
  | nil =>
    intro entry hEntry
    cases hEntry
  | cons head rest ih =>
    obtain ⟨key, row⟩ := head
    unfold DocumentCall.requireRevisions at h
    split at h
    · cases h
    next hSame =>
      refine List.forall_mem_cons.mpr ⟨?_, ih h⟩
      exact not_not.mp hSame

/-! ## Statements -/

/-- Where a call stands: before its role row is read, with documents left to read, with
documents left to write, or committed with the reads after the commit still to come. -/
inductive DocumentPhase
  | authorizing
  | reading (left : List DocumentKey) (read : List (DocumentKey × Option SharedRow))
  | writing (left : List (DocumentKey × Option SharedRow))
  | reporting (written : List DocumentKey)

/-- A committed write: by which call, from which row to which, and the role row of that
moment. -/
structure DocumentWrite where
  call : DocumentCall
  before : Option SharedRow
  after : SharedRow
  roleRow : Option SharedRow

/-- How a call ended: whether it reported success (none when its process died) and the
documents it had written. -/
structure DocumentReport where
  call : DocumentCall
  success : Option Bool
  written : List DocumentKey

/-- The rows, the call each thread is in, and what happened so far, the latest first. -/
structure SharedState where
  store : SharedStore
  calls : Nat → Option (DocumentCall × DocumentPhase) := fun _ => none
  history : DocumentKey → List DocumentWrite := fun _ => []
  reports : List DocumentReport := []

namespace SharedState

variable (state : SharedState)

variable (thread : Nat)

def proceed (call : DocumentCall) (store : SharedStore) (phase : DocumentPhase) : SharedState :=
  { state with
    store := store
    calls := Function.update state.calls thread (some (call, phase)) }

def finish (call : DocumentCall) (store : SharedStore)
    (success : Option Bool) (written : List DocumentKey) : SharedState :=
  { state with
    store := store
    calls := Function.update state.calls thread none
    reports := { call := call, success := success, written := written } :: state.reports }

/-- A call that ends without writing. -/
def refuse (call : DocumentCall) (store : SharedStore) : SharedState :=
  state.finish thread call (store.abort thread) (some false) []

/-- The documents the thread has written and not yet committed. -/
def written (call : DocumentCall) : List DocumentKey :=
  call.keys.filter (fun key => (state.store.pending thread (.document key)).isSome)

/-- The `UPDATE .. WHERE revision = expected` of a document. -/
def updateDocument (call : DocumentCall)
    (key : DocumentKey) (left : List (DocumentKey × Option SharedRow)) : SharedState :=
  if (state.store.seen thread (.document key)).bind (·.revision) = some (call.expected key) then
    state.proceed thread call (state.store.put thread (.document key) (call.newRow key))
      (.writing left)
  else if call.isPublish then
    -- A publication does not look at the row count.
    state.proceed thread call state.store (.writing left)
  else state.refuse thread call state.store

/-- The next statement of a thread; none while it waits for a lock. -/
def statement (commandInFlight : Bool) : Option SharedState :=
  match state.calls thread with
  | some (call, .authorizing) =>
    if state.store.CanLock thread (.role call.role) then
      match call.authorize commandInFlight (state.store.seen thread (.role call.role)) with
      | .error _ =>
        some (state.refuse thread call (state.store.lock thread (.role call.role)))
      | .ok () =>
        some (state.proceed thread call (state.store.lock thread (.role call.role))
          (.reading call.keys []))
    else none
  | some (call, .reading (key :: left) read) =>
    if state.store.CanLock thread (.document key) then
      some (state.proceed thread call (state.store.lock thread (.document key))
        (.reading left (read ++ [(key, state.store.seen thread (.document key))])))
    else none
  | some (call, .reading [] read) =>
    match call.requireRevisions read with
    | .error _ => some (state.refuse thread call state.store)
    | .ok () => some (state.proceed thread call state.store (.writing read))
  | some (call, .writing ((key, none) :: left)) =>
    if state.store.CanLock thread (.document key) then
      match state.store.seen thread (.document key) with
      -- The key was inserted by another transaction.
      | some _ => some (state.refuse thread call state.store)
      | none =>
        some (state.proceed thread call
          (state.store.put thread (.document key) (call.newRow key)) (.writing left))
    else none
  | some (call, .writing ((key, some _) :: left)) =>
    if state.store.CanLock thread (.document key) then
      some (state.updateDocument thread call key left)
    else none
  | _ => none

/-- The state with the thread's writes committed and entered in the history. -/
def committed (call : DocumentCall) : SharedState :=
  { state with
    store := state.store.commit thread
    history := fun key =>
      match state.store.pending thread (.document key) with
      | none => state.history key
      | some after =>
        { call := call
          before := state.store.rows (.document key)
          after := after
          roleRow := state.store.rows (.role call.role) } :: state.history key }

/-- The end of a transaction that has written all it had to. -/
def commit (outcome : CommitOutcome) : Option SharedState :=
  match state.calls thread with
  | some (call, .writing []) =>
    let written := state.written thread call
    let after := state.committed thread call
    match outcome with
    | .committed =>
      if call.isPublish then
        some { after with
          calls := Function.update state.calls thread (some (call, .reporting written)) }
      else some (after.finish thread call after.store (some true) written)
    | .failed => some (state.refuse thread call state.store)
    | .unconfirmed => some (after.finish thread call after.store (some false) written)
    | .crashedBefore =>
      some (state.finish thread call (state.store.abort thread) none [])
    | .crashedAfter => some (after.finish thread call after.store none written)
  | _ => none

/-- The reads of a publication after its commit: the main device, and its liveness, whose
exception becomes the answer. -/
def report (raises : Bool) : Option SharedState :=
  match state.calls thread with
  | some (call, .reporting written) =>
    some (state.finish thread call state.store (some (!raises)) written)
  | _ => none

/-- A statement that fails, or the death of the process, before the commit. -/
def fail (success : Option Bool) : Option SharedState :=
  match state.calls thread with
  | some (_, .reporting _) => none
  | some (call, _) =>
    if success = some true then none
    else some (state.finish thread call (state.store.abort thread) success [])
  | none => none

/-- A call that passes its checks opens a transaction. -/
def enter (call : DocumentCall) : Option SharedState :=
  match state.calls thread, call.precheck with
  | none, .ok () =>
    some { state with calls := Function.update state.calls thread (some (call, .authorizing)) }
  | _, _ => none

/-- A transaction that gives a role to another device. -/
def transfer (state : SharedState) (role : RoleKey) (row : SharedRow) : Option SharedState :=
  if state.store.holder (.role role) = none then
    some { state with store := state.store.overwrite (.role role) row }
  else none

end SharedState

inductive SharedMove
  | enter (thread : Nat) (call : DocumentCall)
  | statement (thread : Nat) (commandInFlight : Bool)
  | fail (thread : Nat) (success : Option Bool)
  | commit (thread : Nat) (outcome : CommitOutcome)
  | report (thread : Nat) (raises : Bool)
  | transfer (role : RoleKey) (row : SharedRow)

def SharedMove.next (move : SharedMove) (state : SharedState) : Option SharedState :=
  match move with
  | .enter thread call => state.enter thread call
  | .statement thread commandInFlight => state.statement thread commandInFlight
  | .fail thread success => state.fail thread success
  | .commit thread outcome => state.commit thread outcome
  | .report thread raises => state.report thread raises
  | .transfer role row => state.transfer role row

def SharedStep (before : SharedState) (move : SharedMove) (after : SharedState) : Prop :=
  move.next before = some after

end QuantApp.Services
