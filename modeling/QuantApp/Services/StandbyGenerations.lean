import QuantApp.Services.RuntimeDeviceState
import QuantApp.Verified.LabelledRuns

/-!
# Standby confirmations belong to one readiness generation

The row of one device under any interleaving of its upserts, each a read and a later
write, with transitions, heartbeats, confirmations and lease claims.  A stay is the time
from entering `STANDBY_READY` to leaving it.  The upsert takes no lock and writes every
readiness field back from its read; what it needs of the row it finds is `WritesSafely`.
-/

namespace QuantApp.Services

open Core Verified
open RuntimeDeviceRecord (isReady)

variable {record existing before row : RuntimeDeviceRecord} {published : DevicePublication}
  {state start : StandbyState} {confirmation : StandbyConfirmation} {call : DeviceCall}
  {generation : Int}

/-! ## Calls -/

/-- An upsert between its read and its write. -/
structure PendingSave where
  published : DevicePublication
  existing : Option RuntimeDeviceRecord
  deriving Repr

inductive DeviceCall
  | read (thread : Nat) (published : DevicePublication)
  | write (thread : Nat)
  | refresh (published : DevicePublication) (heartbeatOnly : Bool)
  | transition (published : DevicePublication)
  | confirm (confirmation : StandbyConfirmation)
  | claim (readinessGeneration : Int) (now : Instant) (maxAge : Int)

/-- The row, the upserts under way, the number of the present or last stay, what every
stay so far was seen to carry, and the confirmations that returned `True` in the present
stay, as `(generation, lease epoch)`. -/
structure StandbyState where
  row : Option RuntimeDeviceRecord
  pending : Nat → Option PendingSave := fun _ => none
  stay : Nat := 0
  carried : List (Nat × Int) := []
  confirmed : List (Int × Int) := []

/-- The row is in `STANDBY_READY`. -/
def isReadyRow (row : Option RuntimeDeviceRecord) : Bool := row.any (·.isReady)

/-- The row a call leaves. -/
def DeviceCall.after (call : DeviceCall) (state : StandbyState) : Option RuntimeDeviceRecord :=
  match call with
  | .read _ _ => state.row
  | .write thread =>
    match state.pending thread with
    | none => state.row
    | some save => writeRuntimeDeviceState save.published save.existing state.row
  | .refresh published heartbeatOnly =>
    (refreshRuntimeDeviceState published heartbeatOnly state.row).2
  | .transition published =>
    match publishRuntimeDeviceStateTransition published state.row with
    | .ok row => row
    | .error _ => state.row
  | .confirm confirmation => (confirmStandbyHandoff confirmation state.row).2
  | .claim _ _ _ => state.row

/-- The upserts under way after the call. -/
def DeviceCall.pendingAfter (call : DeviceCall) (state : StandbyState) : Nat → Option PendingSave :=
  match call with
  | .read thread published =>
    Function.update state.pending thread
      (some { published := published, existing := state.row })
  | .write thread => Function.update state.pending thread none
  | _ => state.pending

/-- The confirmation the call grants. -/
def DeviceCall.grants (call : DeviceCall) (state : StandbyState) : List (Int × Int) :=
  match call with
  | .confirm confirmation =>
    if (confirmStandbyHandoff confirmation state.row).1 then
      [(confirmation.readinessGeneration, confirmation.outgoingLeaseEpoch)]
    else []
  | _ => []

/-- The state with its row replaced: a row that becomes ready starts a stay, and one that
is not ready ends the confirmations. -/
def StandbyState.withRow (state : StandbyState) (row : Option RuntimeDeviceRecord) : StandbyState :=
  let stay := if isReadyRow row && !isReadyRow state.row then state.stay + 1 else state.stay
  { state with
    row := row
    stay := stay
    carried :=
      match row.filter (·.isReady) with
      | some record => (stay, record.readinessGeneration) :: state.carried
      | none => state.carried
    confirmed := if isReadyRow row && isReadyRow state.row then state.confirmed else [] }

def StandbyState.next (state : StandbyState) (call : DeviceCall) : StandbyState :=
  let moved := state.withRow (call.after state)
  { moved with
    pending := call.pendingAfter state
    confirmed := call.grants state ++ moved.confirmed }

def DeviceStep (before : StandbyState) (call : DeviceCall) (after : StandbyState) : Prop :=
  after = before.next call

/-- The confirmation a row records for its own generation. -/
def recordedConfirmation (row : Option RuntimeDeviceRecord) : List (Int × Int) :=
  match row with
  | none => []
  | some record =>
    if record.isReady && record.handoffConfirmed &&
        record.confirmedGeneration = record.readinessGeneration &&
          0 < record.confirmedByLeaseEpoch then
      [(record.readinessGeneration, record.confirmedByLeaseEpoch)]
    else []

/-- A row found at the start: a stay it is in counts, and so does its confirmation. -/
def StandbyState.found (row : Option RuntimeDeviceRecord) : StandbyState :=
  { row := row
    carried :=
      match row.filter (·.isReady) with
      | some record => [(0, record.readinessGeneration)]
      | none => []
    confirmed := recordedConfirmation row }

/-! ## The condition -/

/-- The readiness fields of a write find a row they may replace.  Leaving or staying out of
`STANDBY_READY` needs the generation that was read; staying in it also needs the row still
ready with the confirmation that was read; entering it needs the row not entered since,
or entered once and not yet confirmed. -/
def WritesSafely (published : DevicePublication) (existing row : RuntimeDeviceRecord) : Prop :=
  if published.state = .standbyReady then
    if existing.isReady then
      row.isReady = true ∧ row.readinessGeneration = existing.readinessGeneration ∧
        row.handoffConfirmed = existing.handoffConfirmed ∧
          row.confirmedGeneration = existing.confirmedGeneration ∧
            row.confirmedByLeaseEpoch = existing.confirmedByLeaseEpoch
    else
      (row.isReady = false ∧ row.readinessGeneration = existing.readinessGeneration) ∨
        (row.isReady = true ∧ row.readinessGeneration = existing.readinessGeneration + 1 ∧
          row.handoffConfirmed = false)
  else row.readinessGeneration = existing.readinessGeneration

/-- An upsert writes safely, and a confirmation does not name another lease epoch than one
already recorded for the generation. -/
def KeepsReadiness (state : StandbyState) (call : DeviceCall) : Prop :=
  match call with
  | .write thread =>
    ∀ published existing row,
      state.pending thread = some { published := published, existing := some existing } →
        state.row = some row → WritesSafely published existing row
  | .confirm confirmation =>
    ∀ row, state.row = some row → row.handoffConfirmed = true →
      row.confirmedGeneration = confirmation.readinessGeneration →
        0 < row.confirmedByLeaseEpoch → row.confirmedByLeaseEpoch = confirmation.outgoingLeaseEpoch
  | _ => True

/-! ## What a call does to the row -/

/-- How a row moves on: the generation does not fall; a stay that goes on keeps its
generation and its confirmation, except that one may be granted where none was recorded;
a stay that begins carries a generation above the one before. -/
structure MovesOn (granted : List (Int × Int)) (before after : RuntimeDeviceRecord) : Prop where
  grows : before.readinessGeneration ≤ after.readinessGeneration
  stays : before.isReady = true → after.isReady = true →
    after.readinessGeneration = before.readinessGeneration ∧
      ((granted = [] ∧ recordedConfirmation (some after) = recordedConfirmation (some before)) ∨
        ∃ epoch, granted = [(before.readinessGeneration, epoch)] ∧
          recordedConfirmation (some after) = granted ∧
            ∀ pair ∈ recordedConfirmation (some before), pair = (before.readinessGeneration, epoch))
  enters : before.isReady = false → after.isReady = true →
    before.readinessGeneration < after.readinessGeneration ∧ granted = [] ∧
      recordedConfirmation (some after) = []
  leaves : after.isReady = false → granted = []

variable {after : RuntimeDeviceRecord}

theorem movesOn_of_same (hState : after.isReady = before.isReady)
    (hGeneration : after.readinessGeneration = before.readinessGeneration)
    (hRecorded : before.isReady = true →
      recordedConfirmation (some after) = recordedConfirmation (some before)) :
    MovesOn [] before after := by
  constructor
  · exact le_of_eq hGeneration.symm
  · intro hBefore _
    exact ⟨hGeneration, Or.inl ⟨rfl, hRecorded hBefore⟩⟩
  · intro hBefore hAfter
    rw [hState, hBefore] at hAfter
    cases hAfter
  · intro _
    rfl

theorem recordedConfirmation_congr {first second : RuntimeDeviceRecord}
    (hReady : first.isReady = second.isReady)
    (hGeneration : first.readinessGeneration = second.readinessGeneration)
    (hConfirmed : first.handoffConfirmed = second.handoffConfirmed)
    (hFor : first.confirmedGeneration = second.confirmedGeneration)
    (hEpoch : first.confirmedByLeaseEpoch = second.confirmedByLeaseEpoch) :
    recordedConfirmation (some first) = recordedConfirmation (some second) := by
  simp [recordedConfirmation, hReady, hGeneration, hConfirmed, hFor, hEpoch]

theorem recordedConfirmation_unconfirmed (h : record.handoffConfirmed = false) :
    recordedConfirmation (some record) = [] := by
  simp [recordedConfirmation, h]

theorem recordedConfirmation_without_epoch (h : record.confirmedByLeaseEpoch = 0) :
    recordedConfirmation (some record) = [] := by
  simp [recordedConfirmation, h]

/-! ### The upsert -/

theorem savedRecord_isReady (published : DevicePublication)
    (existing : Option RuntimeDeviceRecord) :
    (savedRecord published existing).isReady = (published.state = .standbyReady : Bool) := by
  unfold savedRecord isReady
  dsimp only
  split <;> rfl

/-- A row that was ready when it was read stays as it was read. -/
theorem savedRecord_staying (hState : published.state = .standbyReady)
    (hReady : existing.isReady = true) :
    (savedRecord published (some existing)).readinessGeneration =
        existing.readinessGeneration ∧
      (savedRecord published (some existing)).handoffConfirmed = existing.handoffConfirmed ∧
        (savedRecord published (some existing)).confirmedGeneration =
            existing.confirmedGeneration ∧
          (savedRecord published (some existing)).confirmedByLeaseEpoch =
            existing.confirmedByLeaseEpoch := by
  simp [savedRecord, Option.filter, hState, hReady]

theorem savedRecord_entering (hState : published.state = .standbyReady)
    (hReady : existing.isReady = false) :
    (savedRecord published (some existing)).readinessGeneration =
        existing.readinessGeneration + 1 ∧
      (savedRecord published (some existing)).confirmedByLeaseEpoch = 0 := by
  simp [savedRecord, Option.filter, hState, hReady]

theorem savedRecord_leaving (hState : published.state ≠ .standbyReady) :
    (savedRecord published (some existing)).readinessGeneration =
      existing.readinessGeneration := by
  simp [savedRecord, hState]

theorem movesOn_saved (h : WritesSafely published existing row) :
    MovesOn [] row (savedRecord published (some existing)) := by
  have hReadyAfter := savedRecord_isReady published (some existing)
  unfold WritesSafely at h
  by_cases hState : published.state = .standbyReady
  · rw [if_pos hState] at h
    simp only [hState, decide_true] at hReadyAfter
    by_cases hExisting : existing.isReady = true
    · rw [if_pos hExisting] at h
      obtain ⟨hReady, hGeneration, hConfirmed, hFor, hEpoch⟩ := h
      obtain ⟨hGeneration', hConfirmed', hFor', hEpoch'⟩ := savedRecord_staying hState hExisting
      apply movesOn_of_same
      · rw [hReadyAfter, hReady]
      · rw [hGeneration', hGeneration]
      · intro _
        apply recordedConfirmation_congr
        · rw [hReadyAfter, hReady]
        · rw [hGeneration', hGeneration]
        · rw [hConfirmed', hConfirmed]
        · rw [hFor', hFor]
        · rw [hEpoch', hEpoch]
    · have hExisting' : existing.isReady = false := by simpa using hExisting
      rw [if_neg hExisting] at h
      obtain ⟨hGeneration', hEpoch'⟩ := savedRecord_entering hState hExisting'
      have hUnrecorded := recordedConfirmation_without_epoch hEpoch'
      constructor
      · omega
      · intro hReady _
        obtain ⟨hOut, -⟩ | ⟨-, hGeneration, hUnconfirmed⟩ := h
        · rw [hReady] at hOut
          cases hOut
        · refine ⟨by omega, Or.inl ⟨rfl, ?_⟩⟩
          rw [hUnrecorded, recordedConfirmation_unconfirmed hUnconfirmed]
      · intro hOut _
        obtain ⟨-, hGeneration⟩ | ⟨hReady, -, -⟩ := h
        · exact ⟨by omega, rfl, hUnrecorded⟩
        · rw [hOut] at hReady
          cases hReady
      · intro _
        rfl
  · rw [if_neg hState] at h
    have hGeneration' : (savedRecord published (some existing)).readinessGeneration =
        existing.readinessGeneration := savedRecord_leaving hState
    have hOut : (savedRecord published (some existing)).isReady = false := by
      rw [hReadyAfter]
      simpa using hState
    constructor
    · omega
    · intro _ hReady
      rw [hOut] at hReady
      cases hReady
    · intro _ hReady
      rw [hOut] at hReady
      cases hReady
    · intro _
      rfl

/-! ### The other calls -/

theorem movesOn_refresh {heartbeatOnly : Bool}
    (h : (refreshRuntimeDeviceState published heartbeatOnly (some record)).2 = some after) :
    MovesOn [] record after := by
  have hSame : after.state = record.state ∧
      after.readinessGeneration = record.readinessGeneration ∧
        after.handoffConfirmed = record.handoffConfirmed ∧
          after.confirmedGeneration = record.confirmedGeneration ∧
            after.confirmedByLeaseEpoch = record.confirmedByLeaseEpoch := by
    unfold refreshRuntimeDeviceState at h
    dsimp only at h
    split at h
    · cases h
      exact ⟨rfl, rfl, rfl, rfl, rfl⟩
    split at h
    · split at h <;> cases h <;> exact ⟨rfl, rfl, rfl, rfl, rfl⟩
    · cases h
      exact ⟨rfl, rfl, rfl, rfl, rfl⟩
  obtain ⟨hState, hGeneration, hConfirmed, hFor, hEpoch⟩ := hSame
  have hReady : after.isReady = record.isReady := by
    simp [isReady, hState]
  exact movesOn_of_same hReady hGeneration
    (fun _ => recordedConfirmation_congr hReady hGeneration hConfirmed hFor hEpoch)

theorem movesOn_transition
    (h : publishRuntimeDeviceStateTransition published (some record) = .ok (some after)) :
    MovesOn [] record after := by
  unfold publishRuntimeDeviceStateTransition at h
  by_cases hState : published.state = .standbyReady
  · rw [if_pos hState] at h
    cases h
  rw [if_neg hState] at h
  cases h
  have hOut : (published.state = .standbyReady : Bool) = false := by simpa using hState
  constructor
  · exact le_refl _
  · intro _ hReady
    cases hOut.symm.trans hReady
  · intro _ hReady
    cases hOut.symm.trans hReady
  · intro _
    rfl

theorem confirmStandbyHandoff_granted (h : confirmsStandby confirmation record = true) :
    confirmStandbyHandoff confirmation (some record) =
      (true, some
        { record with
          handoffConfirmed := true
          confirmedGeneration := confirmation.readinessGeneration
          confirmedByLeaseEpoch := confirmation.outgoingLeaseEpoch
          confirmedAt := some confirmation.serverNow }) := by
  simp [confirmStandbyHandoff, h]

theorem confirmStandbyHandoff_refused (h : ¬ confirmsStandby confirmation record = true) :
    confirmStandbyHandoff confirmation (some record) = (false, some record) := by
  simp [confirmStandbyHandoff, h]

theorem movesOn_confirm
    (hSingle : record.handoffConfirmed = true →
      record.confirmedGeneration = confirmation.readinessGeneration →
        0 < record.confirmedByLeaseEpoch →
          record.confirmedByLeaseEpoch = confirmation.outgoingLeaseEpoch)
    (hConfirms : confirmsStandby confirmation record = true) :
    MovesOn [(confirmation.readinessGeneration, confirmation.outgoingLeaseEpoch)] record
      { record with
        handoffConfirmed := true
        confirmedGeneration := confirmation.readinessGeneration
        confirmedByLeaseEpoch := confirmation.outgoingLeaseEpoch
        confirmedAt := some confirmation.serverNow } := by
  simp only [confirmsStandby, Bool.and_eq_true, decide_eq_true_eq] at hConfirms
  obtain ⟨⟨⟨⟨hReady, hPositive⟩, hGeneration⟩, hEpoch⟩, hFresh⟩ := hConfirms
  constructor
  · exact le_refl _
  · intro _ _
    refine ⟨rfl, Or.inr ⟨confirmation.outgoingLeaseEpoch, by rw [hGeneration], ?_, ?_⟩⟩
    · have hStill : record.state = .standbyReady := by
        simpa [isReady] using hReady
      simp [recordedConfirmation, isReady, hStill, hGeneration, hEpoch]
    · intro pair hPair
      unfold recordedConfirmation at hPair
      dsimp only at hPair
      split at hPair
      next hRecorded =>
        simp only [Bool.and_eq_true, decide_eq_true_eq] at hRecorded
        obtain ⟨⟨⟨-, hConfirmed⟩, hFor⟩, hBefore⟩ := hRecorded
        have hSame := hSingle hConfirmed (hFor.trans hGeneration) hBefore
        rw [List.mem_singleton] at hPair
        rw [hPair, hSame]
      · cases hPair
  · intro hOut
    rw [hReady] at hOut
    cases hOut
  · intro hOut
    have hOut' : record.isReady = false := hOut
    rw [hReady] at hOut'
    cases hOut'

theorem DeviceCall.movesOn (hRow : state.row = some row) (hKeeps : KeepsReadiness state call) :
    ∃ after, call.after state = some after ∧ MovesOn (call.grants state) row after := by
  have hSame : MovesOn [] row row := movesOn_of_same rfl rfl (fun _ => rfl)
  cases call with
  | read | claim => exact ⟨row, hRow, hSame⟩
  | write thread =>
    show ∃ after, (match state.pending thread with
      | none => state.row
      | some save => writeRuntimeDeviceState save.published save.existing state.row) =
        some after ∧ MovesOn [] row after
    cases hPending : state.pending thread with
    | none => exact ⟨row, hRow, hSame⟩
    | some save =>
      obtain ⟨published, existing⟩ := save
      rw [hRow]
      cases existing with
      | none => exact ⟨row, rfl, hSame⟩
      | some existing =>
        exact ⟨_, rfl, movesOn_saved (hKeeps published existing row hPending hRow)⟩
  | refresh published heartbeatOnly =>
    show ∃ after, (refreshRuntimeDeviceState published heartbeatOnly state.row).2 =
      some after ∧ MovesOn [] row after
    rw [hRow]
    have hThere : ∃ after,
        (refreshRuntimeDeviceState published heartbeatOnly (some row)).2 = some after := by
      unfold refreshRuntimeDeviceState
      dsimp only
      split
      · exact ⟨_, rfl⟩
      split
      · split <;> exact ⟨_, rfl⟩
      · exact ⟨_, rfl⟩
    obtain ⟨after, hAfter⟩ := hThere
    exact ⟨after, hAfter, movesOn_refresh hAfter⟩
  | transition published =>
    show ∃ after, (match publishRuntimeDeviceStateTransition published state.row with
      | .ok row => row
      | .error _ => state.row) = some after ∧ MovesOn [] row after
    rw [hRow]
    cases hPublished : publishRuntimeDeviceStateTransition published (some row) with
    | error => exact ⟨row, rfl, hSame⟩
    | ok left =>
      have hLeft : ∃ after, left = some after := by
        unfold publishRuntimeDeviceStateTransition at hPublished
        split at hPublished
        · cases hPublished
        · cases hPublished
          exact ⟨_, rfl⟩
      obtain ⟨after, rfl⟩ := hLeft
      exact ⟨after, rfl, movesOn_transition hPublished⟩
  | confirm confirmation =>
    show ∃ after, (confirmStandbyHandoff confirmation state.row).2 = some after ∧
      MovesOn (if (confirmStandbyHandoff confirmation state.row).1 then
        [(confirmation.readinessGeneration, confirmation.outgoingLeaseEpoch)] else []) row after
    rw [hRow]
    by_cases hConfirms : confirmsStandby confirmation row = true
    · rw [confirmStandbyHandoff_granted hConfirms]
      exact ⟨_, rfl, movesOn_confirm (hKeeps row hRow) hConfirms⟩
    · rw [confirmStandbyHandoff_refused hConfirms]
      exact ⟨row, rfl, hSame⟩

/-- A call on a missing row leaves it missing or inserts one without a confirmation. -/
theorem DeviceCall.inserts (hRow : state.row = none) :
    call.grants state = [] ∧ ∀ after, call.after state = some after →
      recordedConfirmation (some after) = [] := by
  have hNone : ∀ after : RuntimeDeviceRecord, state.row = some after →
      recordedConfirmation (some after) = [] := by
    intro after hAfter
    rw [hRow] at hAfter
    cases hAfter
  cases call with
  | read | claim => exact ⟨rfl, hNone⟩
  | write thread =>
    refine ⟨rfl, ?_⟩
    intro after hAfter
    change (match state.pending thread with
      | none => state.row
      | some save => writeRuntimeDeviceState save.published save.existing state.row) =
        some after at hAfter
    cases hPending : state.pending thread with
    | none =>
      rw [hPending] at hAfter
      exact hNone after hAfter
    | some save =>
      obtain ⟨published, existing⟩ := save
      rw [hPending, hRow] at hAfter
      cases existing with
      | none =>
        cases hAfter
        exact recordedConfirmation_without_epoch rfl
      | some => cases hAfter
  | refresh published heartbeatOnly =>
    refine ⟨rfl, ?_⟩
    intro after hAfter
    change (refreshRuntimeDeviceState published heartbeatOnly state.row).2 = some after
      at hAfter
    rw [hRow] at hAfter
    cases hAfter
  | transition published =>
    refine ⟨rfl, ?_⟩
    intro after hAfter
    change (match publishRuntimeDeviceStateTransition published state.row with
      | .ok row => row
      | .error _ => state.row) = some after at hAfter
    rw [hRow] at hAfter
    unfold publishRuntimeDeviceStateTransition at hAfter
    split at hAfter
    next left hPublished =>
      split at hPublished
      · cases hPublished
      · cases hPublished
        cases hAfter
    · cases hAfter
  | confirm confirmation =>
    constructor
    · show (if (confirmStandbyHandoff confirmation state.row).1 then _ else []) = []
      rw [hRow]
      rfl
    · intro after hAfter
      change (confirmStandbyHandoff confirmation state.row).2 = some after at hAfter
      rw [hRow] at hAfter
      cases hAfter

/-! ## The invariant -/

/-- No two stays carry the same generation, none above the row's; the present stay is
among them; and the confirmations granted in it are the ones the row records. -/
structure Steady (state : StandbyState) : Prop where
  bounded : ∀ pair ∈ state.carried, pair.1 ≤ state.stay ∧
    ∃ row, state.row = some row ∧ pair.2 ≤ row.readinessGeneration
  single : ∀ first ∈ state.carried, ∀ second ∈ state.carried, first.2 = second.2 →
    first.1 = second.1
  present : ∀ row, state.row = some row → row.isReady = true →
    (state.stay, row.readinessGeneration) ∈ state.carried
  recorded : ∀ pair, pair ∈ state.confirmed ↔ pair ∈ recordedConfirmation state.row

open StandbyState (found next withRow)

theorem steady_found (row : Option RuntimeDeviceRecord) : Steady (found row) := by
  have hRecorded : ∀ pair, pair ∈ (found row).confirmed ↔
      pair ∈ recordedConfirmation row := fun pair => Iff.rfl
  cases row with
  | none =>
    constructor
    · simp [found]
    · simp [found]
    · intro row hRow
      cases hRow
    · exact hRecorded
  | some record =>
    by_cases hReady : record.isReady = true
    · have hCarried : (found (some record)).carried =
          [(0, record.readinessGeneration)] := by
        simp [found, Option.filter, hReady]
      constructor
      · intro pair hPair
        rw [hCarried, List.mem_singleton] at hPair
        subst hPair
        exact ⟨le_refl _, record, rfl, le_refl _⟩
      · intro first hFirst second hSecond _
        rw [hCarried, List.mem_singleton] at hFirst hSecond
        rw [hFirst, hSecond]
      · intro row hRow _
        cases hRow
        rw [hCarried]
        exact List.mem_singleton_self _
      · exact hRecorded
    · have hCarried : (found (some record)).carried = [] := by
        simp [found, Option.filter, hReady]
      constructor
      · intro pair hPair
        rw [hCarried] at hPair
        cases hPair
      · intro first hFirst
        rw [hCarried] at hFirst
        cases hFirst
      · intro row hRow hReady'
        cases hRow
        exact absurd hReady' hReady
      · exact hRecorded

section Next

variable {state : StandbyState} {call : DeviceCall} {before after : RuntimeDeviceRecord}

theorem next_row : (state.next call).row = call.after state := rfl

theorem next_of_ready (hAfter : call.after state = some after) (hReady : after.isReady = true) :
    (state.next call).stay = (if isReadyRow state.row then state.stay else state.stay + 1) ∧
      (state.next call).carried =
        ((state.next call).stay, after.readinessGeneration) :: state.carried ∧
        (state.next call).confirmed =
          call.grants state ++ (if isReadyRow state.row then state.confirmed else []) := by
  have hRow : isReadyRow (some after) = true := hReady
  simp only [next, withRow, hAfter, hRow, Option.filter, hReady,
    Bool.true_and, if_true]
  cases isReadyRow state.row <;> simp

theorem next_of_out (hAfter : call.after state = some after) (hOut : after.isReady = false) :
    (state.next call).stay = state.stay ∧ (state.next call).carried = state.carried ∧
      (state.next call).confirmed = call.grants state := by
  have hRow : isReadyRow (some after) = false := hOut
  simp [next, withRow, hAfter, hRow, Option.filter, hOut]

theorem next_of_none (hAfter : call.after state = none) :
    (state.next call).stay = state.stay ∧ (state.next call).carried = state.carried ∧
      (state.next call).confirmed = call.grants state := by
  simp [next, withRow, hAfter, isReadyRow]

variable (hSteady : Steady state)
include hSteady

theorem steady_next_out (hAfter : call.after state = some after) (hOut : after.isReady = false)
    (hGrants : call.grants state = [])
    (hGrows : ∀ row, state.row = some row → row.readinessGeneration ≤ after.readinessGeneration) :
    Steady (state.next call) := by
  obtain ⟨hStay, hCarried, hConfirmed⟩ := next_of_out hAfter hOut
  constructor
  · intro pair hPair
    rw [hCarried] at hPair
    obtain ⟨hBelow, row, hRow, hBound⟩ := hSteady.bounded pair hPair
    rw [hStay]
    exact ⟨hBelow, after, hAfter, le_trans hBound (hGrows row hRow)⟩
  · rw [hCarried]
    exact hSteady.single
  · intro row hRow hReady
    obtain rfl : after = row := Option.some.inj (hAfter.symm.trans hRow)
    rw [hOut] at hReady
    cases hReady
  · intro pair
    rw [hConfirmed, hGrants, next_row, hAfter]
    simp [recordedConfirmation, hOut]

/-- The row enters `STANDBY_READY` with a generation above all that were carried. -/
theorem steady_next_entering (hAfter : call.after state = some after)
    (hReady : after.isReady = true) (hWasOut : isReadyRow state.row = false)
    (hGrants : call.grants state = []) (hRecorded : recordedConfirmation (some after) = [])
    (hAbove : ∀ row, state.row = some row → row.readinessGeneration < after.readinessGeneration) :
    Steady (state.next call) := by
  obtain ⟨hStay, hCarried, hConfirmed⟩ := next_of_ready hAfter hReady
  rw [hWasOut, if_neg (by decide)] at hStay hConfirmed
  have hBelow : ∀ pair ∈ state.carried, pair.1 ≤ state.stay ∧
      pair.2 < after.readinessGeneration := by
    intro pair hPair
    obtain ⟨hBelow, row, hRow, hBound⟩ := hSteady.bounded pair hPair
    exact ⟨hBelow, lt_of_le_of_lt hBound (hAbove row hRow)⟩
  constructor
  · intro pair hPair
    rw [hCarried] at hPair
    rw [hStay]
    cases List.mem_cons.mp hPair with
    | inl hNew =>
      rw [hNew, hStay]
      exact ⟨le_refl _, after, hAfter, le_refl _⟩
    | inr hOld =>
      have hOldBelow := hBelow pair hOld
      exact ⟨by omega, after, hAfter, by omega⟩
  · intro first hFirst second hSecond hSame
    rw [hCarried] at hFirst hSecond
    cases List.mem_cons.mp hFirst with
    | inl hNew =>
      cases List.mem_cons.mp hSecond with
      | inl hNew' => rw [hNew, hNew']
      | inr hOld =>
        have hOldBelow := hBelow second hOld
        rw [hNew] at hSame
        dsimp only at hSame
        omega
    | inr hOld =>
      cases List.mem_cons.mp hSecond with
      | inl hNew =>
        have hOldBelow := hBelow first hOld
        rw [hNew] at hSame
        dsimp only at hSame
        omega
      | inr hOld' => exact hSteady.single first hOld second hOld' hSame
  · intro row hRow _
    obtain rfl : after = row := Option.some.inj (hAfter.symm.trans hRow)
    rw [hCarried]
    exact List.mem_cons_self
  · intro pair
    rw [hConfirmed, hGrants, next_row, hAfter, hRecorded]
    simp

/-- The row stays in `STANDBY_READY`. -/
theorem steady_next_staying (hRow : state.row = some before)
    (hAfter : call.after state = some after) (hWasReady : before.isReady = true)
    (hReady : after.isReady = true) (hMoves : MovesOn (call.grants state) before after) :
    Steady (state.next call) := by
  obtain ⟨hStay, hCarried, hConfirmed⟩ := next_of_ready hAfter hReady
  have hWas : isReadyRow state.row = true := by
    rw [hRow]
    exact hWasReady
  rw [hWas, if_pos rfl] at hStay hConfirmed
  obtain ⟨hGeneration, hRecords⟩ := hMoves.stays hWasReady hReady
  have hPresent := hSteady.present before hRow hWasReady
  have hSame : ∀ pair, pair ∈ (state.next call).carried ↔ pair ∈ state.carried := by
    intro pair
    rw [hCarried, hStay, hGeneration]
    constructor
    · intro hPair
      cases List.mem_cons.mp hPair with
      | inl hNew =>
        rw [hNew]
        exact hPresent
      | inr hOld => exact hOld
    · intro hPair
      exact List.mem_cons_of_mem _ hPair
  constructor
  · intro pair hPair
    obtain ⟨hBelow, row, hRow', hBound⟩ := hSteady.bounded pair ((hSame pair).mp hPair)
    obtain rfl : before = row := Option.some.inj (hRow.symm.trans hRow')
    rw [hStay]
    exact ⟨hBelow, after, hAfter, by omega⟩
  · intro first hFirst second hSecond
    exact hSteady.single first ((hSame first).mp hFirst) second ((hSame second).mp hSecond)
  · intro row hRow' _
    obtain rfl : after = row := Option.some.inj (hAfter.symm.trans hRow')
    rw [hSame, hStay, hGeneration]
    exact hPresent
  · intro pair
    have hBefore := hSteady.recorded pair
    rw [hRow] at hBefore
    rw [hConfirmed, next_row, hAfter, List.mem_append, hBefore]
    obtain ⟨hNone, hKept⟩ | ⟨epoch, hGranted, hNow, hOnly⟩ := hRecords
    · rw [hNone, hKept]
      simp
    · rw [hNow, hGranted]
      constructor
      · rintro (hNew | hOld)
        · exact hNew
        · rw [hOnly pair hOld]
          exact List.mem_singleton_self _
      · intro hNew
        exact Or.inl hNew

theorem Steady.next (hKeeps : KeepsReadiness state call) : Steady (state.next call) := by
  cases hRow : state.row with
  | none =>
    have hInserts : call.grants state = [] ∧ ∀ after, call.after state = some after →
        recordedConfirmation (some after) = [] := DeviceCall.inserts hRow
    obtain ⟨hGrants, hUnrecorded⟩ := hInserts
    have hEmpty : ∀ row, state.row = some row → False := by
      intro row hRow'
      rw [hRow] at hRow'
      cases hRow'
    cases hAfter : call.after state with
    | none =>
      obtain ⟨hStay, hCarried, hConfirmed⟩ := next_of_none hAfter
      have hNone : state.carried = [] := by
        apply List.eq_nil_iff_forall_not_mem.mpr
        intro pair hPair
        obtain ⟨-, row, hRow', -⟩ := hSteady.bounded pair hPair
        exact hEmpty row hRow'
      constructor
      · simp [hCarried, hNone]
      · simp [hCarried, hNone]
      · intro row hRow'
        rw [next_row, hAfter] at hRow'
        cases hRow'
      · intro pair
        rw [hConfirmed, hGrants, next_row, hAfter]
        simp [recordedConfirmation]
    | some after =>
      cases hReady : after.isReady with
      | false =>
        exact steady_next_out hSteady hAfter hReady hGrants
          (fun row hRow' => (hEmpty row hRow').elim)
      | true =>
        apply steady_next_entering hSteady hAfter hReady _ hGrants (hUnrecorded after hAfter)
          (fun row hRow' => (hEmpty row hRow').elim)
        rw [hRow]
        rfl
  | some before =>
    obtain ⟨after, hAfter, hMoves⟩ := DeviceCall.movesOn hRow hKeeps
    have hOnly : ∀ row, state.row = some row → row = before := by
      intro row hRow'
      exact Option.some.inj (hRow'.symm.trans hRow)
    cases hReady : after.isReady with
    | false =>
      apply steady_next_out hSteady hAfter hReady (hMoves.leaves hReady)
      intro row hRow'
      rw [hOnly row hRow']
      exact hMoves.grows
    | true =>
      cases hWasReady : before.isReady with
      | false =>
        obtain ⟨hAbove, hGrants, hUnrecorded⟩ := hMoves.enters hWasReady hReady
        apply steady_next_entering hSteady hAfter hReady _ hGrants hUnrecorded
        · intro row hRow'
          rw [hOnly row hRow']
          exact hAbove
        · rw [hRow]
          exact hWasReady
      | true => exact steady_next_staying hSteady hRow hAfter hWasReady hReady hMoves

end Next

/-! ## Runs -/

abbrev StandbyRun : StandbyState → StandbyState → Prop := RunWith DeviceStep KeepsReadiness

theorem StandbyRun.steady (h : StandbyRun start state) (hStart : Steady start) : Steady state :=
  RunWith.invariant h hStart (fun _ _ _ hBefore hKeeps hStep => by
    rw [hStep]
    exact hBefore.next hKeeps)

/-- A row that is there stays, and its generation does not fall. -/
theorem StandbyRun.grows (h : StandbyRun start state) (hBefore : start.row = some before) :
    ∃ after, state.row = some after ∧ before.readinessGeneration ≤ after.readinessGeneration := by
  apply RunWith.invariant (I := fun state => ∃ after, state.row = some after ∧
    before.readinessGeneration ≤ after.readinessGeneration) h ⟨before, hBefore, le_refl _⟩
  intro between call next hBetween hKeeps hStep
  obtain ⟨row, hRow, hBound⟩ := hBetween
  obtain ⟨after, hAfter, hMoves⟩ := DeviceCall.movesOn hRow hKeeps
  rw [hStep]
  exact ⟨after, hAfter, le_trans hBound hMoves.grows⟩

/-- What a recorded confirmation is: the row is ready, and confirmed for its own
generation under the epoch. -/
theorem mem_recordedConfirmation {row : Option RuntimeDeviceRecord} {epoch : Int}
    (h : (generation, epoch) ∈ recordedConfirmation row) :
    ∃ record, row = some record ∧ record.isReady = true ∧ record.handoffConfirmed = true ∧
      record.readinessGeneration = generation ∧ record.confirmedGeneration = generation ∧
        record.confirmedByLeaseEpoch = epoch := by
  cases row with
  | none => cases h
  | some record =>
    unfold recordedConfirmation at h
    dsimp only at h
    split at h
    next hRecorded =>
      simp only [Bool.and_eq_true, decide_eq_true_eq] at hRecorded
      obtain ⟨⟨⟨hReady, hConfirmed⟩, hFor⟩, -⟩ := hRecorded
      rw [List.mem_singleton] at h
      obtain ⟨hGeneration, hEpoch⟩ := Prod.mk.inj h
      refine ⟨record, rfl, hReady, hConfirmed, hGeneration.symm, ?_, hEpoch.symm⟩
      rw [hFor, hGeneration]
    · cases h

/-- A lease claim passes only on a ready row of the generation it names. -/
theorem verifyStandbyGenerationForClaim_ok {printAge : Int → String} {now maxAge : Int}
    {row : Option RuntimeDeviceRecord}
    (h : verifyStandbyGenerationForClaim printAge generation now maxAge row = .ok ()) :
    ∃ record, row = some record ∧ record.isReady = true ∧
      record.readinessGeneration = generation := by
  unfold verifyStandbyGenerationForClaim at h
  split at h
  · cases h
  cases row with
  | none => cases h
  | some record =>
    dsimp only at h
    by_cases hState : record.state ≠ .standbyReady
    · rw [if_pos hState] at h
      cases h
    rw [if_neg hState] at h
    by_cases hGeneration : record.readinessGeneration ≠ generation
    · rw [if_pos hGeneration] at h
      cases h
    exact ⟨record, rfl, by simpa [isReady] using hState, not_not.mp hGeneration⟩

/-- Over every run from every row: the generation does not fall and no two stays in
`STANDBY_READY` carry the same one; a granted confirmation stays recorded until the row
leaves that state; a confirmed successor was confirmed under the given epoch in its present
stay; and a lease claim that expects a generation passes only while the stay that carries
it lasts. -/
theorem standby_confirmations_belong {row : Option RuntimeDeviceRecord} {state : StandbyState}
    (hRun : StandbyRun (StandbyState.found row) state) :
    (∀ later before, StandbyRun state later → state.row = some before →
        ∃ after, later.row = some after ∧ before.readinessGeneration ≤ after.readinessGeneration) ∧
      (∀ first second generation, (first, generation) ∈ state.carried →
        (second, generation) ∈ state.carried → first = second) ∧
      (∀ generation epoch, (generation, epoch) ∈ state.confirmed →
        ∃ record, state.row = some record ∧ record.isReady = true ∧
          record.handoffConfirmed = true ∧ record.readinessGeneration = generation ∧
            record.confirmedGeneration = generation ∧ record.confirmedByLeaseEpoch = epoch) ∧
      (∀ (rows : List RuntimeDeviceRecord) query record,
        findConfirmedStandbySuccessor query rows = some record → state.row = some record →
          (record.readinessGeneration, query.expectedOutgoingLeaseEpoch) ∈ state.confirmed) ∧
      (∀ printAge generation now maxAge,
        verifyStandbyGenerationForClaim printAge generation now maxAge state.row = .ok () →
          isReadyRow state.row = true ∧ (state.stay, generation) ∈ state.carried ∧
            ∀ stay, (stay, generation) ∈ state.carried → stay = state.stay) := by
  have hSteady := StandbyRun.steady hRun (steady_found row)
  refine ⟨?_, ?_, ?_, ?_, ?_⟩
  · intro later before hLater hBefore
    exact StandbyRun.grows hLater hBefore
  · intro first second generation hFirst hSecond
    exact hSteady.single _ hFirst _ hSecond rfl
  · intro generation epoch hConfirmed
    exact mem_recordedConfirmation ((hSteady.recorded _).mp hConfirmed)
  · intro rows query record hFound hRow
    obtain ⟨-, hReady, hConfirmed, hFor, hPositive, hEpoch⟩ :=
      findConfirmedStandbySuccessor_some hFound
    apply (hSteady.recorded _).mpr
    rw [hRow]
    simp [recordedConfirmation, hReady, hConfirmed, hFor, hPositive, hEpoch]
  · intro printAge generation now maxAge hVerified
    obtain ⟨record, hRow, hReady, hGeneration⟩ := verifyStandbyGenerationForClaim_ok hVerified
    have hPresent := hSteady.present record hRow hReady
    rw [hGeneration] at hPresent
    refine ⟨?_, hPresent, ?_⟩
    · rw [hRow]
      exact hReady
    · intro stay hStay
      exact hSteady.single _ hStay _ hPresent rfl

/-! ## Samples -/

def readyPublication : DevicePublication :=
  { deviceId := "laptop", hostname := "LAPTOP", state := .standbyReady, schemaVersion := 1
    serverNow := 0 }

def firstConfirmation : StandbyConfirmation :=
  { readinessGeneration := 1, outgoingLeaseEpoch := 7, now := 10, maxAge := 60
    serverNow := 10 }

/-- A device that has entered `STANDBY_READY` by an undisturbed upsert and was confirmed. -/
def confirmedStandby : StandbyState :=
  (((StandbyState.found none).next (.read 0 readyPublication)).next (.write 0)).next
    (.confirm firstConfirmation)

theorem standby_confirmations_belong_confirmed :
    ∃ record, confirmedStandby.row = some record ∧ record.isReady = true ∧
      record.handoffConfirmed = true ∧ record.readinessGeneration = 1 ∧
        record.confirmedGeneration = 1 ∧ record.confirmedByLeaseEpoch = 7 := by
  have hRead : KeepsReadiness (StandbyState.found none) (.read 0 readyPublication) := trivial
  have hWrite : KeepsReadiness ((StandbyState.found none).next (.read 0 readyPublication))
      (.write 0) := by
    intro published existing row hPending hRow
    cases hRow
  have hConfirm : KeepsReadiness
      (((StandbyState.found none).next (.read 0 readyPublication)).next (.write 0))
      (.confirm firstConfirmation) := by
    intro row hRow hConfirmed
    cases hRow
    cases hConfirmed
  have hRun : StandbyRun (StandbyState.found none) confirmedStandby :=
    (((RunWith.refl _).step hRead rfl).step hWrite rfl).step hConfirm rfl
  apply (standby_confirmations_belong hRun).2.2.1
  decide

/-- A heartbeat's upsert reads the ready row, the outgoing owner confirms it, and the upsert
writes its read back: the confirmation is gone while the row never left `STANDBY_READY`. -/
def overwrittenStandby : StandbyState :=
  (((((StandbyState.found none).next (.read 0 readyPublication)).next (.write 0)).next
    (.read 1 readyPublication)).next (.confirm firstConfirmation)).next (.write 1)

theorem confirmation_overwritten :
    ¬ ∀ (row : Option RuntimeDeviceRecord) (state : StandbyState),
      RunWith DeviceStep (fun _ _ => True) (StandbyState.found row) state →
        ∀ generation epoch, (generation, epoch) ∈ state.confirmed →
          ∃ record, state.row = some record ∧ record.handoffConfirmed = true ∧
            record.confirmedByLeaseEpoch = epoch := by
  intro hKept
  have hRun : RunWith DeviceStep (fun _ _ => True) (StandbyState.found none)
      overwrittenStandby :=
    (((((RunWith.refl _).step trivial rfl).step trivial rfl).step trivial rfl).step trivial
      rfl).step trivial rfl
  have hConfirmed : ((1, 7) : Int × Int) ∈ overwrittenStandby.confirmed := by decide
  obtain ⟨record, hRow, hRecorded, -⟩ := hKept none overwrittenStandby hRun 1 7 hConfirmed
  cases hRow
  cases hRecorded

end QuantApp.Services
