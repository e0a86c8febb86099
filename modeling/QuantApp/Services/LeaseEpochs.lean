import QuantApp.Services.StateSync
import QuantApp.Verified.LabelledRuns

/-!
# Lease epochs fence every former owner

Claims and releases of the main-device lease by any devices, in any order, each a
transaction of its own.  The epoch a claim exposes lies above everything the row has
carried before, whether as an epoch or as a revision; a release leaves that floor in
place.  The one exception is a stale claim on a row whose revision is missing or zero:
its `UPDATE` names revision 1 and changes nothing, and the claim answers with the lease
of the device it was to replace.
-/

namespace QuantApp.Services

open Core Verified

variable {row : Option OwnershipRow} {role : LocalDeviceRole} {written : OwnershipRow}
  {device : MainDevice} {token : String} {epoch : Int} {gates : ClaimGates}
  {transaction : LeaseTransaction} {before after state : LeaseState} {granted : List MainDevice}
  {commit : CommitOutcome}

/-! ## Transactions on the ownership row -/

inductive LeaseCall
  | claim (role : LocalDeviceRole) (gates : ClaimGates)
  | claimIfStale (role : LocalDeviceRole) (expectedOwnerDeviceId : String)
      (gates : ClaimGates)
  | claimIfUnclaimed (role : LocalDeviceRole) (gates : ClaimGates)
  | release (role : LocalDeviceRole) (expectedLeaseToken : String)
      (expectedLeaseEpoch : Int)

/-- What the call answers once its transaction is committed, and the row it leaves. -/
def LeaseCall.body (call : LeaseCall) (row : Option OwnershipRow) :
    Except String (OwnershipResult × Option OwnershipRow) :=
  match call with
  | .claim role gates =>
    (claimMainDevice role gates row).map (fun written => (grantedFrom written, some written))
  | .claimIfStale role expected gates =>
    (claimMainDeviceIfStale role expected gates row).map
      (fun written => (grantedFrom written, some written))
  | .claimIfUnclaimed role gates =>
    (claimMainDeviceIfUnclaimed role gates row).map
      (fun written => (grantedFrom written, some written))
  | .release role token epoch =>
    (releaseMainDevice role token epoch row).map (fun after => ({ success := true }, after))

/-- A call and how its transaction ends. -/
structure LeaseTransaction where
  call : LeaseCall
  commit : CommitOutcome := .committed

/-- The answer (none when the process dies) and the row afterwards. -/
def LeaseTransaction.run (transaction : LeaseTransaction) (row : Option OwnershipRow) :
    Option OwnershipResult × Option OwnershipRow :=
  match transaction.call.body row with
  | .error message => (some (ownershipRefused message), row)
  | .ok (result, after) =>
    (match transaction.commit with
      | .committed => some result
      | .failed | .unconfirmed => some (ownershipRefused databaseError.message)
      | .crashedBefore | .crashedAfter => none,
    if transaction.commit.isWritten then after else row)

/-- The lease an answer grants. -/
def grantedBy (answer : Option OwnershipResult) : Option MainDevice :=
  match answer with
  | none => none
  | some result => if result.success then result.mainDevice else none

/-- The ownership row and every lease granted so far, the latest first. -/
structure LeaseState where
  row : Option OwnershipRow
  granted : List MainDevice := []

def LeaseStep (before : LeaseState) (transaction : LeaseTransaction) (after : LeaseState) : Prop :=
  after =
    { row := (transaction.run before.row).2
      granted := (grantedBy (transaction.run before.row).1).toList ++ before.granted }

/-- `(device_id, lease_token, lease_epoch)`. -/
def MainDevice.lease (device : MainDevice) : String × String × Int :=
  (device.deviceId, device.leaseToken, device.leaseEpoch)

/-- The main device that `get_main_device` exposes. -/
def currentOwner (row : Option OwnershipRow) : Option MainDevice := (getMainDevice row).mainDevice

/-- The lease is the current one. -/
def IsCurrent (state : LeaseState) (lease : String × String × Int) : Prop :=
  (currentOwner state.row).map MainDevice.lease = some lease

/-- A row found at the start; a lease it exposes counts as granted. -/
def LeaseState.found (row : Option OwnershipRow) : LeaseState :=
  { row := row, granted := (currentOwner row).toList }

/-- A stale claim that passes its checks meets a row with a revision of its own, neither
missing nor zero. -/
def NamesRevision (before : LeaseState) (transaction : LeaseTransaction) : Prop :=
  match transaction.call with
  | .claimIfStale _ expectedOwnerDeviceId gates =>
    ∀ row owner, before.row = some row → mainDeviceOfRow row = .ok owner →
      owner.deviceId = strip expectedOwnerDeviceId → gates.ownerStale = true →
        gates.standby = .ok () → orZero row.revision ≠ 0
  | _ => True

/-! ## What a row exposes -/

theorem currentOwner_object {payload : OwnershipPayload} {revision : Option Int} :
    currentOwner (some { payload := .object payload, revision := revision }) =
      if strip payload.deviceId = "" then none
      else some
        { deviceId := strip payload.deviceId
          hostname := strip payload.hostname
          revision := orOne revision
          leaseToken := strip payload.leaseToken
          leaseEpoch := max (orZero payload.leaseEpoch) (orOne revision) } := by
  by_cases hBlank : strip payload.deviceId = ""
  · simp [currentOwner, getMainDevice, remoteStateFromRow, decodePayload, bind, Except.bind,
      pure, Except.pure, hBlank]
  · simp [currentOwner, getMainDevice, remoteStateFromRow, decodePayload, bind, Except.bind,
      pure, Except.pure, hBlank, mainDeviceFromState]

theorem currentOwner_of_mainDeviceOfRow {row : OwnershipRow}
    (h : mainDeviceOfRow row = .ok device) :
    currentOwner (some row) = some device := by
  obtain ⟨stored, revision⟩ := row
  cases stored with
  | notJson | notObject => cases h
  | object payload =>
    rw [currentOwner_object]
    change mainDeviceFromState { payload := payload, revision := orOne revision } = .ok device
      at h
    unfold mainDeviceFromState at h
    by_cases hBlank : strip payload.deviceId = ""
    · rw [if_pos hBlank] at h
      cases h
    · rw [if_neg hBlank] at h ⊢
      cases h
      rfl

/-- A claim that is granted answers with the lease that is current from then on. -/
theorem currentOwner_of_grantedFrom (h : grantedBy (some (grantedFrom written)) = some device) :
    currentOwner (some written) = some device := by
  unfold grantedFrom at h
  cases hOwner : mainDeviceOfRow written with
  | error =>
    rw [hOwner] at h
    cases h
  | ok =>
    rw [hOwner] at h
    cases h
    exact currentOwner_of_mainDeviceOfRow hOwner

/-! ## The floor under later epochs -/

/-- What the next epoch has to exceed: the exposed epoch, or for a tombstone the epoch and
the revision it keeps.  A missing or unreadable row has no floor. -/
def leaseFloor (row : Option OwnershipRow) : Option Int :=
  match row with
  | none => none
  | some row =>
    match row.payload with
    | .object payload =>
      some (max (orZero payload.leaseEpoch)
        (if strip payload.deviceId = "" then orZero row.revision else orOne row.revision))
    | _ => none

theorem leaseFloor_of_current (h : currentOwner row = some device) :
    leaseFloor row = some device.leaseEpoch := by
  cases row with
  | none => cases h
  | some row =>
    obtain ⟨stored, revision⟩ := row
    cases stored with
    | notJson | notObject => cases h
    | object payload =>
      rw [currentOwner_object] at h
      by_cases hBlank : strip payload.deviceId = ""
      · rw [if_pos hBlank] at h
        cases h
      · rw [if_neg hBlank] at h
        cases h
        simp [leaseFloor, hBlank]

/-- The row moved on: its floor did not sink, and a lease it exposes lies above the old
floor. -/
structure Advances (before after : Option OwnershipRow) : Prop where
  rises : ∃ next, leaseFloor after = some next ∧
    ∀ prior, leaseFloor before = some prior → prior ≤ next
  above : ∀ device prior, currentOwner after = some device → leaseFloor before = some prior →
    prior < device.leaseEpoch

theorem advances_claimedRow {before : Option OwnershipRow} {revision : Int}
    (h : ∀ prior, leaseFloor before = some prior →
      prior < max epoch (orOne (some revision)) ∧ prior ≤ max epoch revision) :
    Advances before (some (claimedRow role token revision epoch)) := by
  constructor
  · refine ⟨_, rfl, ?_⟩
    intro prior hPrior
    show prior ≤ max epoch (if strip role.deviceId = "" then revision else orOne (some revision))
    have hBounds := h prior hPrior
    split <;> omega
  · intro device prior hDevice hPrior
    unfold claimedRow at hDevice
    rw [currentOwner_object] at hDevice
    dsimp only at hDevice
    split at hDevice
    · cases hDevice
    · cases hDevice
      exact (h prior hPrior).1

theorem advances_tombstone {row : OwnershipRow} (hDevice : currentOwner (some row) = some device)
    (revision : Int) : Advances (some row) (some (tombstone device.leaseEpoch revision)) := by
  have hFloor := leaseFloor_of_current hDevice
  constructor
  · refine ⟨_, rfl, ?_⟩
    intro prior hPrior
    rw [hFloor] at hPrior
    cases hPrior
    exact le_max_left _ _
  · intro owner prior hOwner
    have hBlank : strip "" = "" := by decide +kernel
    unfold tombstone at hOwner
    rw [currentOwner_object, if_pos hBlank] at hOwner
    cases hOwner

/-! ## What one transaction does -/

/-- The row that is read back is the one before, or the row moved on. -/
def StaysOrAdvances (before : Option OwnershipRow) (after : Option OwnershipRow) : Prop :=
  after = before ∨ Advances before after

theorem claimMainDevice_advances (h : claimMainDevice role gates row = .ok written) :
    Advances row (some written) := by
  unfold claimMainDevice at h
  obtain ⟨-, -, h⟩ := bind_eq_ok.mp h
  obtain ⟨-, -, h⟩ := bind_eq_ok.mp h
  cases row with
  | none =>
    cases h
    apply advances_claimedRow
    intro prior hPrior
    cases hPrior
  | some row =>
    obtain ⟨prior, hPrior, h⟩ := bind_eq_ok.mp h
    cases h
    obtain ⟨stored, revision⟩ := row
    have hStored : stored = .object prior := decodePayload_eq_ok.mp hPrior
    subst hStored
    apply advances_claimedRow
    intro floor hFloor
    have hEq : floor = max (orZero prior.leaseEpoch)
        (if strip prior.deviceId = "" then orZero revision else orOne revision) :=
      (Option.some.inj hFloor).symm
    subst hEq
    cases revision with
    | none =>
      simp only [orZero, orOne, Option.getD_none]
      split <;> omega
    | some =>
      simp only [orZero, orOne, Option.getD_some]
      split <;> split <;> split <;> omega

theorem claimMainDeviceIfStale_advances {expected : String}
    (hNamed : ∀ found owner, row = some found → mainDeviceOfRow found = .ok owner →
      owner.deviceId = strip expected → gates.ownerStale = true → gates.standby = .ok () →
        orZero found.revision ≠ 0)
    (h : claimMainDeviceIfStale role expected gates row = .ok written) :
    Advances row (some written) := by
  unfold claimMainDeviceIfStale at h
  dsimp only at h
  by_cases hBlank : strip expected = ""
  · rw [if_pos hBlank] at h
    cases h
  rw [if_neg hBlank] at h
  cases row with
  | none => cases h
  | some row =>
    obtain ⟨owner, hOwner, h⟩ := bind_eq_ok.mp h
    have hFloor := leaseFloor_of_current (currentOwner_of_mainDeviceOfRow hOwner)
    by_cases hExpected : owner.deviceId ≠ strip expected
    · rw [if_pos hExpected] at h
      cases h
    rw [if_neg hExpected] at h
    by_cases hFresh : (!gates.ownerStale) = true
    · rw [if_pos hFresh] at h
      cases h
    rw [if_neg hFresh] at h
    obtain ⟨_, hStandby, h⟩ := bind_eq_ok.mp h
    cases h
    have hRevision : orZero row.revision ≠ 0 :=
      hNamed row owner rfl hOwner (not_not.mp hExpected) (by simpa using hFresh) hStandby
    rw [updatedWhere_of_named hRevision]
    apply advances_claimedRow
    intro prior hPrior
    rw [hFloor] at hPrior
    cases hPrior
    unfold orOne
    split <;> split <;> omega

section

variable (h : claimMainDeviceIfUnclaimed role gates row = .ok written)
include h

theorem claimMainDeviceIfUnclaimed_advances : StaysOrAdvances row (some written) := by
  unfold claimMainDeviceIfUnclaimed at h
  cases row with
  | none =>
    obtain ⟨-, -, h⟩ := bind_eq_ok.mp h
    cases h
    right
    apply advances_claimedRow
    intro prior hPrior
    cases hPrior
  | some row =>
    obtain ⟨prior, hPrior, h⟩ := bind_eq_ok.mp h
    by_cases hOwned : strip prior.deviceId ≠ ""
    · rw [if_pos hOwned] at h
      cases h
    rw [if_neg hOwned] at h
    obtain ⟨-, -, h⟩ := bind_eq_ok.mp h
    cases h
    obtain ⟨stored, revision⟩ := row
    have hStored : stored = .object prior := decodePayload_eq_ok.mp hPrior
    subst hStored
    by_cases hMatch : revision = some (orZero revision)
    · right
      unfold StateRow.updatedWhere
      rw [if_pos hMatch]
      apply advances_claimedRow
      intro floor hFloor
      have hEq : floor = max (orZero prior.leaseEpoch) (orZero revision) := by
        have hBlank : strip prior.deviceId = "" := not_not.mp hOwned
        have hInj := (Option.some.inj hFloor).symm
        rw [if_pos hBlank] at hInj
        exact hInj
      subst hEq
      unfold orOne
      dsimp only
      split <;> omega
    · left
      unfold StateRow.updatedWhere
      rw [if_neg hMatch]

/-- The row an unclaimed claim has read exposes no device. -/
theorem currentOwner_unclaimed (device : MainDevice) : currentOwner row ≠ some device := by
  cases row with
  | none =>
    intro hOwner
    cases hOwner
  | some row =>
    obtain ⟨prior, hPrior, hRest⟩ := bind_eq_ok.mp h
    obtain ⟨stored, revision⟩ := row
    have hStored : stored = .object prior := decodePayload_eq_ok.mp hPrior
    subst hStored
    rw [currentOwner_object]
    by_cases hOwned : strip prior.deviceId ≠ ""
    · rw [if_pos hOwned] at hRest
      cases hRest
    · rw [if_pos (not_not.mp hOwned)]
      intro hOwner
      cases hOwner

end

theorem releaseMainDevice_advances {after : Option OwnershipRow}
    (h : releaseMainDevice role token epoch row = .ok after) : StaysOrAdvances row after := by
  unfold releaseMainDevice at h
  dsimp only at h
  split at h
  · cases h
  cases row with
  | none =>
    cases h
    exact Or.inl rfl
  | some =>
    obtain ⟨state, hState, h⟩ := bind_eq_ok.mp h
    obtain ⟨owner, hOwner, h⟩ := bind_eq_ok.mp h
    split at h
    · cases h
      exact Or.inl rfl
    split at h
    · cases h
    split at h
    · cases h
    split at h
    · cases h
    cases h
    right
    apply advances_tombstone
    apply currentOwner_of_mainDeviceOfRow
    unfold mainDeviceOfRow
    rw [hState]
    exact hOwner

/-- What a call does to the row once its transaction is committed. -/
theorem LeaseCall.body_advances {call : LeaseCall} {after : Option OwnershipRow}
    {result : OwnershipResult}
    (hNamed : NamesRevision { row := row, granted := granted }
      { call := call, commit := commit }) (h : call.body row = .ok (result, after)) :
    StaysOrAdvances row after ∧ ∀ device, grantedBy (some result) = some device →
      currentOwner after = some device ∧ Advances row after := by
  cases call with
  | claim =>
    obtain ⟨written, hWritten, hPair⟩ := map_eq_ok.mp h
    cases hPair
    have hAdvances := claimMainDevice_advances hWritten
    exact ⟨Or.inr hAdvances, fun device hDevice => ⟨currentOwner_of_grantedFrom hDevice, hAdvances⟩⟩
  | claimIfStale =>
    obtain ⟨written, hWritten, hPair⟩ := map_eq_ok.mp h
    cases hPair
    have hAdvances := claimMainDeviceIfStale_advances hNamed hWritten
    exact ⟨Or.inr hAdvances, fun device hDevice => ⟨currentOwner_of_grantedFrom hDevice, hAdvances⟩⟩
  | claimIfUnclaimed =>
    obtain ⟨written, hWritten, hPair⟩ := map_eq_ok.mp h
    cases hPair
    have hMoves := claimMainDeviceIfUnclaimed_advances hWritten
    refine ⟨hMoves, ?_⟩
    intro device hDevice
    have hCurrent := currentOwner_of_grantedFrom hDevice
    refine ⟨hCurrent, ?_⟩
    cases hMoves with
    | inr hAdvances => exact hAdvances
    | inl hSame =>
      -- An unclaimed row that was not written exposes no device to grant.
      rw [hSame] at hCurrent
      exact absurd hCurrent (currentOwner_unclaimed hWritten device)
  | release =>
    obtain ⟨left, hLeft, hPair⟩ := map_eq_ok.mp h
    cases hPair
    refine ⟨releaseMainDevice_advances hLeft, ?_⟩
    intro device hDevice
    cases hDevice

/-- What a transaction does: the row stays or moves on, and a granted lease is the current
one of a row that moved on. -/
theorem LeaseTransaction.run_advances
    (hNamed : NamesRevision { row := row, granted := granted } transaction) :
    StaysOrAdvances row (transaction.run row).2 ∧
      ∀ device, grantedBy (transaction.run row).1 = some device →
        currentOwner (transaction.run row).2 = some device ∧
          Advances row (transaction.run row).2 := by
  obtain ⟨call, commit⟩ := transaction
  unfold LeaseTransaction.run
  dsimp only
  cases hBody : call.body row with
  | error =>
    refine ⟨Or.inl rfl, ?_⟩
    intro device hDevice
    cases hDevice
  | ok answer =>
    obtain ⟨result, after⟩ := answer
    obtain ⟨hMoves, hGrants⟩ := LeaseCall.body_advances hNamed hBody
    cases commit with
    | committed => exact ⟨hMoves, hGrants⟩
    | failed | crashedBefore => exact ⟨Or.inl rfl, fun device hDevice => by cases hDevice⟩
    | unconfirmed | crashedAfter => exact ⟨hMoves, fun device hDevice => by cases hDevice⟩

/-! ## Runs -/

/-- The leases granted so far carry falling epochs, the latest first, none above the floor
of the row. -/
structure Fenced (state : LeaseState) : Prop where
  falls : state.granted.Pairwise (fun later earlier => earlier.leaseEpoch < later.leaseEpoch)
  bounded : ∀ device ∈ state.granted,
    ∃ epoch, leaseFloor state.row = some epoch ∧ device.leaseEpoch ≤ epoch

theorem fenced_found (row : Option OwnershipRow) : Fenced (LeaseState.found row) := by
  unfold LeaseState.found
  cases hCurrent : currentOwner row with
  | none => exact ⟨List.Pairwise.nil, by simp⟩
  | some device =>
    constructor
    · exact List.pairwise_singleton _ _
    · intro granted hGranted
      obtain rfl : granted = device := by simpa using hGranted
      exact ⟨_, leaseFloor_of_current hCurrent, le_refl _⟩

theorem LeaseStep.fenced (h : LeaseStep before transaction after)
    (hNamed : NamesRevision before transaction) (hFenced : Fenced before) : Fenced after := by
  obtain ⟨row, granted⟩ := before
  obtain ⟨hMoves, hGrants⟩ := transaction.run_advances hNamed
  rw [h]
  have hKept : ∀ device ∈ granted, ∃ epoch,
      leaseFloor (transaction.run row).2 = some epoch ∧ device.leaseEpoch ≤ epoch := by
    intro device hDevice
    obtain ⟨prior, hPrior, hBound⟩ := hFenced.bounded device hDevice
    cases hMoves with
    | inl hSame =>
      rw [hSame]
      exact ⟨prior, hPrior, hBound⟩
    | inr hAdvances =>
      obtain ⟨next, hNext, hRises⟩ := hAdvances.rises
      exact ⟨next, hNext, le_trans hBound (hRises prior hPrior)⟩
  cases hGranted : grantedBy (transaction.run row).1 with
  | none => exact ⟨hFenced.falls, hKept⟩
  | some device =>
    obtain ⟨hCurrent, hAdvances⟩ := hGrants device hGranted
    constructor
    · show List.Pairwise _ (device :: granted)
      apply List.Pairwise.cons _ hFenced.falls
      intro earlier hEarlier
      obtain ⟨prior, hPrior, hBound⟩ := hFenced.bounded earlier hEarlier
      exact lt_of_le_of_lt hBound (hAdvances.above device prior hCurrent hPrior)
    · refine List.forall_mem_cons.mpr ⟨?_, hKept⟩
      exact ⟨_, leaseFloor_of_current hCurrent, le_refl _⟩

/-- A run of transactions that are no stale claims on a row without a revision. -/
abbrev LeaseRun : LeaseState → LeaseState → Prop := RunWith LeaseStep NamesRevision

theorem LeaseRun.fenced {start : LeaseState} (h : LeaseRun start state) (hStart : Fenced start) :
    Fenced state :=
  RunWith.invariant h hStart (fun _ _ _ hBefore hNamed hStep => hStep.fenced hNamed hBefore)

/-- The epoch of the lease lies at or below the floor of the row. -/
def GatesPassed (lease : String × String × Int) (state : LeaseState) : Prop :=
  ∃ epoch, leaseFloor state.row = some epoch ∧ lease.2.2 ≤ epoch

variable {lease : String × String × Int}

theorem passed_of_current (h : IsCurrent state lease) :
    GatesPassed lease state := by
  unfold IsCurrent at h
  cases hOwner : currentOwner state.row with
  | none =>
    rw [hOwner] at h
    cases h
  | some =>
    rw [hOwner] at h
    cases h
    exact ⟨_, leaseFloor_of_current hOwner, le_refl _⟩

section

variable (h : LeaseStep before transaction after) (hNamed : NamesRevision before transaction)
include h hNamed

theorem LeaseStep.passed (hPassed : GatesPassed lease before) :
    GatesPassed lease after := by
  obtain ⟨row, granted⟩ := before
  obtain ⟨hMoves, -⟩ := transaction.run_advances hNamed
  obtain ⟨prior, hPrior, hBound⟩ := hPassed
  rw [h]
  cases hMoves with
  | inl hSame => exact ⟨prior, by rw [hSame]; exact hPrior, hBound⟩
  | inr hAdvances =>
    obtain ⟨next, hNext, hRises⟩ := hAdvances.rises
    exact ⟨next, hNext, le_trans hBound (hRises prior hPrior)⟩

theorem LeaseStep.retired
    (hRetired : GatesPassed lease before ∧ ¬ IsCurrent before lease) :
    GatesPassed lease after ∧ ¬ IsCurrent after lease := by
  refine ⟨h.passed hNamed hRetired.1, ?_⟩
  obtain ⟨row, granted⟩ := before
  obtain ⟨hMoves, -⟩ := transaction.run_advances hNamed
  obtain ⟨⟨prior, hPrior, hBound⟩, hGone⟩ := hRetired
  rw [h]
  cases hMoves with
  | inl hSame =>
    unfold IsCurrent at hGone ⊢
    rw [hSame]
    exact hGone
  | inr hAdvances =>
    intro hCurrent
    unfold IsCurrent at hCurrent
    cases hOwner : currentOwner (transaction.run row).2 with
    | none =>
      rw [hOwner] at hCurrent
      cases hCurrent
    | some device =>
      rw [hOwner] at hCurrent
      have hAbove := hAdvances.above device prior hOwner hPrior
      have hEpoch : device.leaseEpoch = lease.2.2 :=
        congrArg (fun lease => lease.2.2) (Option.some.inj hCurrent)
      omega

end

/-- A lease that was current and no longer is never becomes current again. -/
theorem LeaseRun.never_again {first second third : LeaseState}
    (h : LeaseRun first second) (h' : LeaseRun second third)
    (hCurrent : IsCurrent first lease) (hGone : ¬ IsCurrent second lease) :
    ¬ IsCurrent third lease := by
  have hPassed : GatesPassed lease second :=
    RunWith.invariant h (passed_of_current hCurrent)
      (fun _ _ _ hBefore hNamed hStep => LeaseStep.passed hStep hNamed hBefore)
  have hRetired := RunWith.invariant
    (I := fun state => GatesPassed lease state ∧ ¬ IsCurrent state lease) h' ⟨hPassed, hGone⟩
    (fun _ _ _ hBefore hNamed hStep => LeaseStep.retired hStep hNamed hBefore)
  exact hRetired.2

/-! ## Releases -/

/-- A release by a caller that does not hold the current lease writes nothing. -/
theorem releaseMainDevice_of_other {after : Option OwnershipRow}
    (hOther : (currentOwner row).map MainDevice.lease ≠ some (role.deviceId, strip token, epoch))
    (h : releaseMainDevice role token epoch row = .ok after) : after = row := by
  unfold releaseMainDevice at h
  dsimp only at h
  split at h
  · cases h
  cases row with
  | none =>
    cases h
    rfl
  | some row =>
    obtain ⟨state, hState, h⟩ := bind_eq_ok.mp h
    obtain ⟨owner, hOwner, h⟩ := bind_eq_ok.mp h
    have hCurrent : currentOwner (some row) = some owner := by
      apply currentOwner_of_mainDeviceOfRow
      unfold mainDeviceOfRow
      rw [hState]
      exact hOwner
    split at h
    · cases h
      rfl
    split at h
    · cases h
    split at h
    · cases h
    next hDevice hToken hEpoch =>
      exfalso
      apply hOther
      rw [hCurrent]
      simp only [not_not] at hDevice hToken hEpoch
      simp [MainDevice.lease, hDevice, hToken, hEpoch]

theorem LeaseStep.release_of_other (hOther : ¬ IsCurrent before (role.deviceId, strip token, epoch))
    (h : LeaseStep before { call := .release role token epoch, commit := commit } after) :
    after = before := by
  rw [h]
  unfold LeaseTransaction.run LeaseCall.body
  dsimp only
  cases hBody : releaseMainDevice role token epoch before.row with
  | error => rfl
  | ok =>
    have hSame := releaseMainDevice_of_other hOther hBody
    subst hSame
    cases commit <;> rfl

/-! ## Fencing -/

/-- Over every run from every row: the epochs of the granted leases rise strictly, at most
one lease is current, only its exact holder can release it, and a lease that was released
or superseded never becomes current again. -/
theorem lease_epochs_fence {row : Option OwnershipRow} {state : LeaseState}
    (hRun : LeaseRun (LeaseState.found row) state) :
    state.granted.Pairwise (fun later earlier => earlier.leaseEpoch < later.leaseEpoch) ∧
      (∀ lease other, IsCurrent state lease → IsCurrent state other → lease = other) ∧
      (∀ role token epoch commit after,
        LeaseStep state { call := .release role token epoch, commit := commit } after →
          ¬ IsCurrent state (role.deviceId, strip token, epoch) → after = state) ∧
      (∀ lease second third, IsCurrent state lease → LeaseRun state second →
        ¬ IsCurrent second lease → LeaseRun second third → ¬ IsCurrent third lease) := by
  have hFenced := LeaseRun.fenced hRun (fenced_found row)
  refine ⟨hFenced.falls, ?_, ?_, ?_⟩
  · intro lease other hLease hOther
    exact Option.some.inj (hLease.symm.trans hOther)
  · intro role token epoch commit after hStep hOther
    exact LeaseStep.release_of_other hOther hStep
  · intro lease second third hCurrent hSecond hGone hThird
    exact LeaseRun.never_again hSecond hThird hCurrent hGone

def laptopRole : LocalDeviceRole := { deviceId := "laptop", hostname := "LAPTOP" }

def pcRole : LocalDeviceRole := { deviceId := "pc", hostname := "PC" }

def firstClaim : LeaseTransaction := { call := .claim laptopRole { token := "t1" } }

/-- The takeover from an owner that went dark. -/
def staleTakeover : LeaseTransaction :=
  { call := .claimIfStale pcRole "laptop" { ownerStale := true, token := "t2" } }

/-- The state after one transaction. -/
def LeaseState.next (state : LeaseState) (transaction : LeaseTransaction) : LeaseState :=
  { row := (transaction.run state.row).2
    granted := (grantedBy (transaction.run state.row).1).toList ++ state.granted }

theorem lease_epochs_fence_takeover :
    ((((LeaseState.found none).next firstClaim).next staleTakeover).granted).Pairwise
      (fun later earlier => earlier.leaseEpoch < later.leaseEpoch) := by
  have hFirst : NamesRevision (LeaseState.found none) firstClaim := trivial
  have hSecond : NamesRevision ((LeaseState.found none).next firstClaim) staleTakeover := by
    intro row owner hRow _ _ _ _
    cases hRow
    decide
  have hRun : LeaseRun (LeaseState.found none)
      (((LeaseState.found none).next firstClaim).next staleTakeover) :=
    ((RunWith.refl _).step hFirst rfl).step hSecond rfl
  exact (lease_epochs_fence hRun).1

/-- A legacy row with revision zero: the laptop is told that its takeover succeeded, with
the lease the PC still holds. -/
def unrevisedRow : OwnershipRow :=
  { payload := .object { deviceId := "pc", hostname := "PC" }, revision := some 0 }

def lostTakeover : LeaseTransaction :=
  { call := .claimIfStale laptopRole "pc" { ownerStale := true, token := "t1" } }

theorem takeover_granted_twice :
    ¬ ∀ (row : Option OwnershipRow) (state : LeaseState),
      RunWith LeaseStep (fun _ _ => True) (LeaseState.found row) state →
        state.granted.Pairwise (fun later earlier => earlier.leaseEpoch < later.leaseEpoch) := by
  intro hFences
  have hFalls := hFences (some unrevisedRow)
    ((LeaseState.found (some unrevisedRow)).next lostTakeover)
    (RunWith.step (RunWith.refl _) (trivial : True) rfl)
  revert hFalls
  decide +kernel

end QuantApp.Services
