import QuantApp.Services.GatewayWorld

/-!
# Shared state rows and the main-device lease

The rows of `app_state_sync` (`src/services/state_sync.py`) and the four transactions on
the ownership row of the main device.  A row carries a payload and a revision; the lease
epoch that the rest of the program fences with is the greater of a payload field and of
that revision.
-/

namespace QuantApp.Services

open Core

/-! ## Rows -/

/-- A payload text as `json.loads` reads it. -/
inductive StoredPayload (α : Type)
  | notJson
  | notObject
  | object (payload : α)
  deriving Repr

/-- One row: its payload and its revision, which may be `NULL`. -/
structure StateRow (α : Type) where
  payload : StoredPayload α
  revision : Option Int
  deriving Repr

structure RemoteState (α : Type) where
  payload : α
  revision : Int
  deriving Repr

/-- `int(value or 0)`. -/
def orZero (value : Option Int) : Int := value.getD 0

/-- `int(value or 1)`: zero counts as missing. -/
def orOne : Option Int → Int
  | none => 1
  | some value => if value = 0 then 1 else value

section Rows

variable {α : Type}

def decodePayload (stored : StoredPayload α) (stateKey : String) : Except String α :=
  match stored with
  | .notJson => .error ("State sync payload for " ++ stateKey ++ " is not valid JSON")
  | .notObject => .error ("State sync payload for " ++ stateKey ++ " is not an object")
  | .object payload => .ok payload

def remoteStateFromRow (row : StateRow α) (stateKey : String) :
    Except String (RemoteState α) := do
  let payload ← decodePayload row.payload stateKey
  pure { payload := payload, revision := orOne row.revision }

/-- `UPDATE .. WHERE revision = ..`: the row afterwards. -/
def StateRow.updatedWhere (row : StateRow α) (revision : Int) (written : StateRow α) : StateRow α :=
  if row.revision = some revision then written else row

theorem decodePayload_eq_ok {stored : StoredPayload α} {stateKey : String} {payload : α} :
    decodePayload stored stateKey = .ok payload ↔ stored = .object payload := by
  cases stored <;> simp [decodePayload]

theorem updatedWhere_of_named {row written : StateRow α} (h : orZero row.revision ≠ 0) :
    row.updatedWhere (orOne row.revision) written = written := by
  obtain ⟨payload, revision⟩ := row
  cases revision with
  | none => exact absurd rfl h
  | some value =>
    have hValue : value ≠ 0 := h
    simp [StateRow.updatedWhere, orOne, hValue]

end Rows

/-! ## The main device -/

/-- `LocalDeviceRole`, as far as it is written to a row. -/
structure LocalDeviceRole where
  deviceId : String
  hostname : String
  deriving Repr

/-- The payload of the ownership row.  A legacy row has no `lease_epoch`; a blank
`device_id` makes the row a tombstone. -/
structure OwnershipPayload where
  deviceId : String
  hostname : String
  leaseToken : String := ""
  leaseEpoch : Option Int := none
  deriving Repr

abbrev OwnershipRow := StateRow OwnershipPayload

structure MainDevice where
  deviceId : String
  hostname : String
  revision : Int
  leaseToken : String
  leaseEpoch : Int
  deriving Repr

structure OwnershipResult where
  success : Bool
  mainDevice : Option MainDevice := none
  error : String := ""
  deriving Repr

def mainDeviceKey : String := "__main_device__"

/-- `OwnershipResult(False, error=..)`. -/
def ownershipRefused (message : String) : OwnershipResult := { success := false, error := message }

def mainDeviceFromState (state : RemoteState OwnershipPayload) : Except String MainDevice :=
  let deviceId := strip state.payload.deviceId
  if deviceId = "" then .error "Main-device ownership row has no device_id"
  else
    .ok
      { deviceId := deviceId
        hostname := strip state.payload.hostname
        revision := state.revision
        leaseToken := strip state.payload.leaseToken
        leaseEpoch := max (orZero state.payload.leaseEpoch) state.revision }

/-- The main device a row names. -/
def mainDeviceOfRow (row : OwnershipRow) : Except String MainDevice := do
  let state ← remoteStateFromRow row mainDeviceKey
  mainDeviceFromState state

/-- `get_main_device`, on the row it reads. -/
def getMainDevice (row : Option OwnershipRow) : OwnershipResult :=
  match row with
  | none => { success := true }
  | some row =>
    match remoteStateFromRow row mainDeviceKey with
    | .error message => ownershipRefused message
    | .ok state =>
      if strip state.payload.deviceId = "" then { success := true }
      else
        match mainDeviceFromState state with
        | .ok device => { success := true, mainDevice := some device }
        | .error message => ownershipRefused message

/-! ## Claims -/

/-- What a claim asks inside its transaction, and the token it mints: an operator command
in flight (its type and status; none when that is not required), the verdict of
`verify_standby_generation_for_claim` (`ok` when no generation is expected), whether the
heartbeat of the owner is stale, and `uuid.uuid4()`. -/
structure ClaimGates where
  inFlight : Option (String × String) := none
  standby : Except String Unit := .ok ()
  ownerStale : Bool := false
  token : String

variable (role : LocalDeviceRole)

/-- The row a claim writes. -/
def claimedRow (token : String) (revision leaseEpoch : Int) : OwnershipRow :=
  { payload := .object
      { deviceId := role.deviceId
        hostname := role.hostname
        leaseToken := token
        leaseEpoch := some leaseEpoch }
    revision := some revision }

/-- The check of `require_operator_handoff_clear`. -/
def requireHandoffClear (inFlight : Option (String × String)) : Except String Unit :=
  match inFlight with
  | none => .ok ()
  | some (commandType, status) =>
    .error ("Execution-owner switch is paused while operator command " ++ commandType ++
      " (" ++ status ++ ") is in flight. Wait for its terminal result, then retry.")

/-- The body of `claim_main_device`: the row as it is read back. -/
def claimMainDevice (gates : ClaimGates) (row : Option OwnershipRow) :
    Except String OwnershipRow := do
  requireHandoffClear gates.inFlight
  gates.standby
  match row with
  | none => pure (claimedRow role gates.token 1 1)
  | some row => do
    let prior ← decodePayload row.payload mainDeviceKey
    let priorEpoch := max (orZero prior.leaseEpoch) (orZero row.revision)
    pure (claimedRow role gates.token (orOne row.revision + 1) (priorEpoch + 1))

/-- A device id as `!r` prints it. -/
def quotedId (deviceId : String) : String := "'" ++ deviceId ++ "'"

/-- The body of `claim_main_device_if_stale`.  Its `UPDATE` names the revision it read,
and nothing looks at how many rows it changed. -/
def claimMainDeviceIfStale (expectedOwnerDeviceId : String)
    (gates : ClaimGates) (row : Option OwnershipRow) : Except String OwnershipRow :=
  let expected := strip expectedOwnerDeviceId
  if expected = "" then .error "No expected owner device to verify against."
  else
    match row with
    | none =>
      .error ("Ownership was already released; use claim_main_device for a clean handoff.")
    | some row => do
      let currentOwner ← mainDeviceOfRow row
      if currentOwner.deviceId ≠ expected then
        .error ("Ownership changed since it was observed stale (now " ++
          quotedId currentOwner.deviceId ++ ", expected " ++ quotedId expected ++ ").")
      else if !gates.ownerStale then
        .error "Previous owner's heartbeat is fresh again; not claiming."
      else do
        gates.standby
        pure (row.updatedWhere (orOne row.revision)
          (claimedRow role gates.token (orOne row.revision + 1)
            (max currentOwner.leaseEpoch (orZero row.revision) + 1)))

/-- The body of `claim_main_device_if_unclaimed`. -/
def claimMainDeviceIfUnclaimed (gates : ClaimGates)
    (row : Option OwnershipRow) : Except String OwnershipRow :=
  match row with
  | none => do
    gates.standby
    pure (claimedRow role gates.token 1 1)
  | some row => do
    let prior ← decodePayload row.payload mainDeviceKey
    if strip prior.deviceId ≠ "" then
      .error "Ownership was claimed by another device before this claim ran."
    else do
      gates.standby
      pure (row.updatedWhere (orZero row.revision)
        (claimedRow role gates.token (orZero row.revision + 1)
          (max (orZero prior.leaseEpoch) (orZero row.revision) + 1)))

/-- What a claim answers about the row it has read back. -/
def grantedFrom (written : OwnershipRow) : OwnershipResult :=
  match mainDeviceOfRow written with
  | .ok device => { success := true, mainDevice := some device }
  | .error message => ownershipRefused message

/-! ## Release -/

/-- The tombstone of a released lease. -/
def tombstone (leaseEpoch revision : Int) : OwnershipRow :=
  { payload := .object { deviceId := "", hostname := "", leaseEpoch := some leaseEpoch }
    revision := some revision }

/-- The body of `release_main_device`: the row afterwards. -/
def releaseMainDevice (expectedLeaseToken : String)
    (expectedLeaseEpoch : Int) (row : Option OwnershipRow) :
    Except String (Option OwnershipRow) :=
  let expectedToken := strip expectedLeaseToken
  if expectedToken = "" ∨ expectedLeaseEpoch ≤ 0 then
    .error "An exact positive lease epoch and nonblank lease token are required."
  else
    match row with
    | none => .ok none
    | some row => do
      let currentState ← remoteStateFromRow row mainDeviceKey
      let currentOwner ← mainDeviceFromState currentState
      if currentOwner.deviceId ≠ role.deviceId then
        -- Not ours to release.
        pure (some row)
      else if currentOwner.leaseToken ≠ expectedToken then
        .error "Main-device lease token changed before release."
      else if currentOwner.leaseEpoch ≠ expectedLeaseEpoch then
        .error "Main-device lease epoch changed before release."
      else if row.revision ≠ some currentState.revision then
        .error "Main-device lease changed before release committed."
      else
        pure (some (tombstone currentOwner.leaseEpoch (currentState.revision + 1)))

end QuantApp.Services
