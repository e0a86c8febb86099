import QuantApp.Core.Runtime
import Mathlib.Data.List.Sort

/-!
# Runtime device readiness

One device's row of `runtime_device_state`
(`src/services/runtime_device_state_repository.py`): the upsert with its separate read and
write, the one-statement transitions and heartbeats, the confirmation of a standby by the
outgoing owner, and the two readers that rely on it.
-/

namespace QuantApp.Services

open Core

inductive RuntimeDeviceState
  | starting
  | standby
  | standbyReady
  | active
  | shuttingDown
  | stopped
  | failed
  deriving DecidableEq, Repr

/-- `RuntimeDeviceState(..).value`. -/
def RuntimeDeviceState.value : RuntimeDeviceState → String
  | .starting => "STARTING"
  | .standby => "STANDBY"
  | .standbyReady => "STANDBY_READY"
  | .active => "ACTIVE"
  | .shuttingDown => "SHUTTING_DOWN"
  | .stopped => "STOPPED"
  | .failed => "FAILED"

/-- `RuntimeDeviceRecord`.  `details` is the JSON text of an object, none when the column
holds no object. -/
structure RuntimeDeviceRecord where
  deviceId : String
  hostname : String
  state : RuntimeDeviceState
  handoffConfirmed : Bool
  readinessGeneration : Int
  confirmedGeneration : Int
  confirmedByLeaseEpoch : Int
  confirmedAt : Option Instant
  updatedAt : Instant
  schemaVersion : Int
  details : Option String
  deriving Repr

/-- The device is ready to take over. -/
def RuntimeDeviceRecord.isReady (record : RuntimeDeviceRecord) : Bool :=
  record.state = .standbyReady

/-- What a device publishes about itself, with the clock of the server. -/
structure DevicePublication where
  deviceId : String
  hostname : String
  state : RuntimeDeviceState
  handoffConfirmed : Bool := false
  schemaVersion : Int
  details : Option String := none
  serverNow : Instant
  deriving Repr

/-! ## The upsert -/

variable (published : DevicePublication)

variable (existing : Option RuntimeDeviceRecord)

/-- The values `save_runtime_device_state` computes from the row it has read. -/
def savedRecord : RuntimeDeviceRecord :=
  let priorGeneration := (existing.map (·.readinessGeneration)).getD 0
  let existingDetails := existing.bind (·.details)
  let details := some ((published.details.or existingDetails).getD "\x7b\x7d")
  match existing.filter (fun record => published.state = .standbyReady && record.isReady) with
  | some staying =>
    { deviceId := published.deviceId
      hostname := published.hostname
      state := published.state
      handoffConfirmed := staying.handoffConfirmed
      readinessGeneration := priorGeneration
      confirmedGeneration := staying.confirmedGeneration
      confirmedByLeaseEpoch := staying.confirmedByLeaseEpoch
      confirmedAt := staying.confirmedAt
      updatedAt := published.serverNow
      schemaVersion := published.schemaVersion
      details := details }
  | none =>
    let generation :=
      if published.state = .standbyReady then priorGeneration + 1 else priorGeneration
    let confirmed := published.handoffConfirmed && published.state = .standbyReady
    { deviceId := published.deviceId
      hostname := published.hostname
      state := published.state
      handoffConfirmed := confirmed
      readinessGeneration := generation
      confirmedGeneration := if confirmed then generation else 0
      confirmedByLeaseEpoch := 0
      confirmedAt := if confirmed then some published.serverNow else none
      updatedAt := published.serverNow
      schemaVersion := published.schemaVersion
      details := details }

/-- The write of `save_runtime_device_state`: an `INSERT` when it has read no row, which
fails on the key when there is one by now, else an `UPDATE` of whatever the row is. -/
def writeRuntimeDeviceState (row : Option RuntimeDeviceRecord) : Option RuntimeDeviceRecord :=
  match existing, row with
  | none, none => some (savedRecord published none)
  | none, some row => some row
  | some existing, some _ => some (savedRecord published (some existing))
  | some _, none => none

/-! ## One-statement updates -/

/-- `refresh_runtime_device_state`: whether a row was touched, and the row afterwards. -/
def refreshRuntimeDeviceState (heartbeatOnly : Bool)
    (row : Option RuntimeDeviceRecord) : Bool × Option RuntimeDeviceRecord :=
  match row with
  | none => (false, none)
  | some record =>
    if record.state ≠ published.state then (false, some record)
    else if heartbeatOnly then
      if record.hostname = published.hostname ∧
          record.schemaVersion = published.schemaVersion then
        (true, some { record with updatedAt := published.serverNow })
      else (false, some record)
    else
      (true, some
        { record with
          hostname := published.hostname
          schemaVersion := published.schemaVersion
          details := some (published.details.getD "\x7b\x7d")
          updatedAt := published.serverNow })

/-- The `UPDATE` of `publish_runtime_device_state_transition`, for every state but
`STANDBY_READY`, which it refuses.  On a missing row the caller goes on with
`save_runtime_device_state`. -/
def publishRuntimeDeviceStateTransition
    (row : Option RuntimeDeviceRecord) : Except Raised (Option RuntimeDeviceRecord) :=
  if published.state = .standbyReady then
    .error
      { cls := .valueError
        message := "STANDBY_READY requires generation-aware publication" }
  else
    .ok (row.map fun record =>
      { record with
        hostname := published.hostname
        state := published.state
        schemaVersion := published.schemaVersion
        handoffConfirmed := false
        confirmedGeneration := 0
        confirmedByLeaseEpoch := 0
        confirmedAt := none
        details := some (published.details.getD "\x7b\x7d")
        updatedAt := published.serverNow })

/-! ## Confirmation and claims -/

/-- `0.0 <= age <= max_age_seconds`. -/
def isFreshAt (record : RuntimeDeviceRecord) (now maxAge : Int) : Bool :=
  0 ≤ now - record.updatedAt && now - record.updatedAt ≤ maxAge

/-- What `confirm_standby_handoff` is called with. -/
structure StandbyConfirmation where
  readinessGeneration : Int
  outgoingLeaseEpoch : Int
  now : Instant
  maxAge : Int
  serverNow : Instant
  deriving Repr

/-- The checks of `confirm_standby_handoff`. -/
def confirmsStandby (confirmation : StandbyConfirmation) (record : RuntimeDeviceRecord) : Bool :=
  record.isReady && 0 < confirmation.readinessGeneration &&
    record.readinessGeneration = confirmation.readinessGeneration &&
      0 < confirmation.outgoingLeaseEpoch && isFreshAt record confirmation.now confirmation.maxAge

/-- `confirm_standby_handoff`: its answer and the row afterwards. -/
def confirmStandbyHandoff (confirmation : StandbyConfirmation)
    (row : Option RuntimeDeviceRecord) : Bool × Option RuntimeDeviceRecord :=
  match row with
  | none => (false, none)
  | some record =>
    if confirmsStandby confirmation record then
      (true, some
        { record with
          handoffConfirmed := true
          confirmedGeneration := confirmation.readinessGeneration
          confirmedByLeaseEpoch := confirmation.outgoingLeaseEpoch
          confirmedAt := some confirmation.serverNow })
    else (false, some record)

/-- `verify_standby_generation_for_claim`.  The age is printed in tenths of a second by
`printAge`. -/
def verifyStandbyGenerationForClaim (printAge : Int → String) (readinessGeneration : Int)
    (now maxAge : Int) (row : Option RuntimeDeviceRecord) : Except String Unit :=
  if readinessGeneration ≤ 0 then
    .error "A positive STANDBY_READY generation is required."
  else
    match row with
    | none => .error "No durable runtime readiness row exists for this device."
    | some record =>
      if record.state ≠ .standbyReady then
        .error ("Runtime device is " ++ record.state.value ++ ", not STANDBY_READY.")
      else if record.readinessGeneration ≠ readinessGeneration then
        .error ("STANDBY_READY generation changed before lease acquisition (" ++
          toString record.readinessGeneration ++ " != " ++ toString readinessGeneration ++
          ").")
      else if !isFreshAt record now maxAge then
        .error ("STANDBY_READY heartbeat is stale (" ++ printAge (now - record.updatedAt) ++ "s).")
      else .ok ()

/-! ## Successors -/

/-- What `find_standby_successor` is asked. -/
structure SuccessorQuery where
  excludingDeviceId : String
  now : Instant
  maxAge : Int
  requireConfirmed : Bool := false
  expectedOutgoingLeaseEpoch : Int := 0
  deriving Repr

variable (query : SuccessorQuery)

def confirmationMatches (record : RuntimeDeviceRecord) : Bool :=
  !query.requireConfirmed ||
    (record.handoffConfirmed && record.confirmedGeneration = record.readinessGeneration &&
      0 < query.expectedOutgoingLeaseEpoch &&
        record.confirmedByLeaseEpoch = query.expectedOutgoingLeaseEpoch)

/-- `find_standby_successor`: the latest fresh match. -/
def findStandbySuccessor (rows : List RuntimeDeviceRecord) : Option RuntimeDeviceRecord :=
  let listed := rows.filter (fun record =>
    record.deviceId ≠ query.excludingDeviceId && record.isReady &&
      (!query.requireConfirmed || record.handoffConfirmed))
  (listed.mergeSort (fun first second => second.updatedAt ≤ first.updatedAt)).find?
    (fun record => isFreshAt record query.now query.maxAge && confirmationMatches query record)

def findConfirmedStandbySuccessor (rows : List RuntimeDeviceRecord) : Option RuntimeDeviceRecord :=
  findStandbySuccessor { query with requireConfirmed := true } rows

/-- What a confirmed successor is: a row of the table, ready, with a confirmation of its
own generation under the epoch. -/
theorem findConfirmedStandbySuccessor_some {query : SuccessorQuery}
    {rows : List RuntimeDeviceRecord} {record : RuntimeDeviceRecord}
    (h : findConfirmedStandbySuccessor query rows = some record) :
    record ∈ rows ∧ record.isReady = true ∧ record.handoffConfirmed = true ∧
      record.confirmedGeneration = record.readinessGeneration ∧
        0 < query.expectedOutgoingLeaseEpoch ∧
          record.confirmedByLeaseEpoch = query.expectedOutgoingLeaseEpoch := by
  unfold findConfirmedStandbySuccessor findStandbySuccessor at h
  dsimp only at h
  have hListed := List.mem_mergeSort.mp (List.mem_of_find?_eq_some h)
  have hMatches := List.find?_some h
  simp only [List.mem_filter, Bool.and_eq_true] at hListed
  simp only [confirmationMatches, Bool.not_true, Bool.false_or, Bool.and_eq_true,
    decide_eq_true_eq] at hMatches
  exact ⟨hListed.1, hListed.2.1.2, hMatches.2.1.1.1, hMatches.2.1.1.2, hMatches.2.1.2, hMatches.2.2⟩

end QuantApp.Services
