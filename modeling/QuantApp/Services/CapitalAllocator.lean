import Mathlib.Algebra.Order.BigOperators.Group.List
import QuantApp.Services.CapitalLedger

/-!
# The capital allocator

`reserve_capital_for_entry` of `src/services/capital_allocator.py`.  The
account lock and the file lock admit one call of a device at a time, but the
call is two transactions of the shared database: it reads the active
reservations, and later inserts its own with `save_reservation_strict`.  The
second half of the module interleaves these steps over any number of devices.
-/

namespace QuantApp.Services

open Core Verified

variable {rows ledger databaseActive : List CapitalReservation} {request : ReserveRequest}

/-! ## One call -/

def findActiveReservations (reservations : List CapitalReservation)
    (environment accountNo : String) : List CapitalReservation :=
  reservations.filter (fun reservation =>
    reservation.isOpen && reservation.environment = environment &&
      reservation.accountNo = accountNo)

def listActiveReservations (rows : List CapitalReservation)
    (environment accountNo : String) : List CapitalReservation :=
  activeReservations rows environment accountNo

def saveReservationStrict (rows : List CapitalReservation) (reservation : CapitalReservation) :
    Except Raised (List CapitalReservation × CapitalReservation) :=
  match lookup CapitalReservation.reservationId reservation.reservationId rows with
  | none => do
    let rows ← insertReservation rows reservation
    pure (rows, reservation)
  | some _ => updateReservation rows reservation reservation.version

/-- The arguments of a call, with the fresh id of its reservation. -/
structure ReserveRequest where
  reservationId : String
  environment : String
  accountNo : String
  symbol : String
  attemptGroupId : String
  requestedNotional : ℚ

def ReserveRequest.reservation (request : ReserveRequest) : CapitalReservation :=
  CapitalReservation.create request.reservationId request.environment request.accountNo
    request.symbol request.attemptGroupId request.requestedNotional 0

/-- The reservations a call counts: the database wins over the local ledger. -/
def countedReservations (ledger : List CapitalReservation)
    (databaseActive : Option (List CapitalReservation)) (environment accountNo : String) :
    List CapitalReservation :=
  let active := findActiveReservations ledger environment accountNo
  match databaseActive with
  | none => active
  | some databaseActive =>
    putAll CapitalReservation.reservationId databaseActive
      (putAll CapitalReservation.reservationId active [])

/-- `reserve_capital_for_entry` up to its insert: the reservation it is going to
save, or none when there is not enough capital. -/
def reservationToSave (ledger : List CapitalReservation)
    (databaseActive : Option (List CapitalReservation)) (buyingPower : ℚ)
    (request : ReserveRequest) : Except Raised (Option CapitalReservation) :=
  if request.requestedNotional ≤ 0 then
    .error { cls := .valueError, message := "requested_notional must be positive" }
  else
    let active := countedReservations ledger databaseActive request.environment
      request.accountNo
    if availableForNewEntries buyingPower active < request.requestedNotional then .ok none
    else .ok (some request.reservation)

/-! ## Devices -/

/-- A call between its database read and its insert. -/
structure ReserveCall where
  databaseActive : List CapitalReservation
  reservation : CapitalReservation

structure Device where
  ledger : List CapitalReservation
  call : Option ReserveCall

/-- The shared table, the devices, and the ids of the granted reservations. -/
structure SharedCapital (D : Type) where
  rows : List CapitalReservation
  device : D → Device
  granted : List String

inductive AllocatorEvent (D : Type)
  | read (device : D) (request : ReserveRequest)
  | insert (device : D)
  /-- the database fails before the insert commits -/
  | outage (device : D)

section Devices

variable {D : Type} [DecidableEq D]

def SharedCapital.setDevice (state : SharedCapital D) (device : D) (value : Device) :
    SharedCapital D :=
  { state with device := Function.update state.device device value }

/-- The call of a device returned nothing or raised. -/
def SharedCapital.endCall (state : SharedCapital D) (device : D) : SharedCapital D :=
  state.setDevice device { state.device device with call := none }

/-- One database step of a device; `none` when the locks or the order of the
call do not admit it. -/
def allocatorStep (buyingPower : ℚ) (state : SharedCapital D) :
    AllocatorEvent D → Option (SharedCapital D)
  | .read device request =>
    match (state.device device).call with
    | some _ => none
    | none =>
      let databaseActive := listActiveReservations state.rows request.environment request.accountNo
      match reservationToSave (state.device device).ledger (some databaseActive)
          buyingPower request with
      | .ok (some reservation) =>
        some (state.setDevice device
          { state.device device with
            call := some
              { databaseActive := databaseActive, reservation := reservation } })
      | .ok none => some state
      | .error _ => some state
  | .insert device =>
    match (state.device device).call with
    | none => none
    | some call =>
      match saveReservationStrict state.rows call.reservation with
      | .ok (rows, saved) =>
        some
          { (state.setDevice device
              { ledger := (state.device device).ledger ++ [saved], call := none }) with
            rows := rows
            granted := state.granted ++ [saved.reservationId] }
      | .error _ => some (state.endCall device)
  | .outage device =>
    match (state.device device).call with
    | none => none
    | some _ => some (state.endCall device)

/-- The states the devices reach by steps that are `allowed`. -/
inductive AllocatorRun (allowed : SharedCapital D → AllocatorEvent D → Prop)
    (buyingPower : ℚ) (start : SharedCapital D) :
    List (AllocatorEvent D) → SharedCapital D → Prop
  | start : AllocatorRun allowed buyingPower start [] start
  | step {events : List (AllocatorEvent D)} {event : AllocatorEvent D}
      {state next : SharedCapital D} :
      AllocatorRun allowed buyingPower start events state → allowed state event →
      allocatorStep buyingPower state event = some next →
      AllocatorRun allowed buyingPower start (events ++ [event]) next

/-- Every call reserves for the one account. -/
def AllocatorEvent.ReservesFor (environment accountNo : String) : AllocatorEvent D → Prop
  | .read _ request => request.environment = environment ∧ request.accountNo = accountNo
  | .insert _ => True
  | .outage _ => True

/-- When a reservation is inserted, the account's active reservations are still
those the call read, or the account can still afford it. -/
def InsertsWhatFits (environment accountNo : String) (buyingPower : ℚ)
    (state : SharedCapital D) : AllocatorEvent D → Prop
  | .read _ _ => True
  | .insert device =>
    ∀ call ∈ (state.device device).call,
      listActiveReservations state.rows environment accountNo = call.databaseActive ∨
        accountHold environment accountNo state.rows +
          call.reservation.requestedNotional ≤ buyingPower
  | .outage _ => True

instance (environment accountNo : String) (buyingPower : ℚ) (state : SharedCapital D)
    (event : AllocatorEvent D) :
    Decidable (InsertsWhatFits environment accountNo buyingPower state event) :=
  match event with
  | .read _ _ => inferInstanceAs (Decidable True)
  | .insert device =>
    inferInstanceAs (Decidable (∀ call ∈ (state.device device).call,
      listActiveReservations state.rows environment accountNo = call.databaseActive ∨
        accountHold environment accountNo state.rows +
          call.reservation.requestedNotional ≤ buyingPower))
  | .outage _ => inferInstanceAs (Decidable True)

/-- What the granted reservations that are still active requested. -/
def grantedNotional (environment accountNo : String) (state : SharedCapital D) : ℚ :=
  (((activeReservations state.rows environment accountNo).filter
    (fun row => row.reservationId ∈ state.granted)).map (·.requestedNotional)).sum

end Devices

/-! ## What a call reads -/

section Reading

variable {environment accountNo : String}

/-- No reservation takes a negative amount from the account. -/
def HoldsNonneg (rows : List CapitalReservation) : Prop :=
  ∀ row ∈ rows, 0 ≤ row.remainingReservedNotional

theorem reservedNotional_le_counted (hKeyed : Keyed CapitalReservation.reservationId databaseActive)
    (hOpen : ∀ row ∈ databaseActive, row.isOpen = true) (hDatabase : HoldsNonneg databaseActive)
    (hLedger : HoldsNonneg (findActiveReservations ledger environment accountNo)) :
    reservedNotional databaseActive ≤
      reservedNotional ((countedReservations ledger (some databaseActive) environment
        accountNo).filter (·.isOpen)) := by
  have hCounted : HoldsNonneg (countedReservations ledger (some databaseActive) environment
      accountNo) := by
    intro row hRow
    rcases mem_putAll hRow with hAdded | hLocal
    · exact hDatabase row hAdded
    · rcases mem_putAll hLocal with hLocal | hNone
      · exact hLedger row hLocal
      · cases hNone
  have hSubset : databaseActive ⊆ (countedReservations ledger (some databaseActive)
      environment accountNo).filter (·.isOpen) := by
    intro row hRow
    exact List.mem_filter.mpr ⟨lookup_mem (lookup_putAll hKeyed hRow), hOpen row hRow⟩
  obtain ⟨rows, hPerm, hSub⟩ := List.subperm_of_subset hKeyed.of_map hSubset
  have hSum : reservedNotional rows = reservedNotional databaseActive := (hPerm.map _).sum_eq
  rw [← hSum]
  refine (hSub.map _).sum_le_sum ?_
  intro amount hAmount
  obtain ⟨row, hRow, rfl⟩ := List.mem_map.mp hAmount
  exact hCounted row (List.mem_of_mem_filter hRow)

theorem reservationToSave_some {buyingPower : ℚ} {reservation : CapitalReservation}
    (h : reservationToSave ledger (some databaseActive) buyingPower request =
      .ok (some reservation)) :
    reservation = request.reservation ∧ 0 < request.requestedNotional ∧
      reservedNotional ((countedReservations ledger (some databaseActive)
        request.environment request.accountNo).filter (·.isOpen)) +
          request.requestedNotional ≤ buyingPower := by
  unfold reservationToSave at h
  dsimp only at h
  split at h
  · cases h
  split at h
  · cases h
  rename_i hPositive hAvailable
  cases h
  rw [not_le] at hPositive
  rw [not_lt] at hAvailable
  refine ⟨rfl, hPositive, ?_⟩
  unfold availableForNewEntries at hAvailable
  unfold reservedNotional
  linarith

end Reading

/-! ## What a call writes -/

section Writing

/-- The row that holds the reservation once it is saved. -/
structure SavedRow (rows written : List CapitalReservation)
    (reservation row : CapitalReservation) : Prop where
  reservationId : row.reservationId = reservation.reservationId
  requested : row.requestedNotional = reservation.requestedNotional
  remaining : row.remainingReservedNotional = reservation.remainingReservedNotional
  written : row.reservationId ∉ rows.map CapitalReservation.reservationId ∧
      written = rows ++ [row] ∨
    ∃ stored, lookup CapitalReservation.reservationId row.reservationId rows = some stored ∧
      written = store CapitalReservation.reservationId row rows

theorem saveReservationStrict_ok {written : List CapitalReservation}
    {reservation saved : CapitalReservation}
    (h : saveReservationStrict rows reservation = .ok (written, saved)) :
    saved.reservationId = reservation.reservationId ∧
      saved.remainingReservedNotional = reservation.remainingReservedNotional ∧
      ∃ row, SavedRow rows written reservation row := by
  unfold saveReservationStrict at h
  cases hFound : lookup CapitalReservation.reservationId reservation.reservationId rows with
  | none =>
    simp only [hFound] at h
    obtain ⟨inserted, hInserted, h⟩ := bind_eq_ok.mp h
    cases h
    exact ⟨rfl, rfl, reservation, rfl, rfl, rfl, Or.inl (insertReservation_ok hInserted)⟩
  | some =>
    simp only [hFound] at h
    obtain ⟨stored, hStored, _, hWritten, rfl⟩ := updateReservation_ok h
    have hKey : stored.reservationId = reservation.reservationId := lookup_key hStored
    refine ⟨rfl, rfl, writtenRow stored reservation (reservation.version + 1), hKey, rfl,
      rfl, Or.inr ⟨stored, ?_, hWritten⟩⟩
    show lookup CapitalReservation.reservationId stored.reservationId rows = some stored
    rw [hKey]
    exact hStored

namespace SavedRow

variable {rows written : List CapitalReservation} {reservation row : CapitalReservation}
  {environment accountNo : String}

variable (h : SavedRow rows written reservation row)
include h

theorem keyed (hKeyed : Keyed CapitalReservation.reservationId rows) :
    Keyed CapitalReservation.reservationId written := by
  rcases h.written with ⟨hFresh, rfl⟩ | ⟨stored, _, rfl⟩
  · exact hKeyed.append_fresh hFresh
  · exact hKeyed.store

theorem mem_written : row ∈ written := by
  rcases h.written with ⟨_, rfl⟩ | ⟨stored, hStored, rfl⟩
  · exact List.mem_append_right _ List.mem_cons_self
  · exact lookup_mem (lookup_store_self hStored)

theorem mem_or {other : CapitalReservation} (hOther : other ∈ written) :
    other = row ∨ other ∈ rows := by
  rcases h.written with ⟨_, rfl⟩ | ⟨stored, _, rfl⟩
  · rcases List.mem_append.mp hOther with hOld | hNew
    · exact Or.inr hOld
    · exact Or.inl (List.mem_singleton.mp hNew)
  · exact mem_store hOther

theorem accountHold_le (hKeyed : Keyed CapitalReservation.reservationId rows)
    (hRows : HoldsNonneg (activeReservations rows environment accountNo))
    (hNonneg : 0 ≤ reservation.remainingReservedNotional) :
    accountHold environment accountNo written ≤
      accountHold environment accountNo rows + reservation.remainingReservedNotional := by
  have hHeld : heldNotional environment accountNo row ≤
      reservation.remainingReservedNotional := by
    unfold heldNotional
    split
    · exact h.remaining.le
    · exact hNonneg
  rcases h.written with ⟨_, rfl⟩ | ⟨stored, hStored, rfl⟩
  · rw [accountHold_eq_sum, accountHold_eq_sum, List.map_append, List.sum_append,
      List.map_singleton, List.sum_singleton]
    linarith
  · have hReplaced : 0 ≤ heldNotional environment accountNo stored := by
      unfold heldNotional
      split
      · rename_i hActive
        refine hRows stored (List.mem_filter.mpr ⟨lookup_mem hStored, ?_⟩)
        exact Bool.and_eq_true_iff.mpr hActive
      · exact le_refl _
    rw [accountHold_eq_sum, accountHold_eq_sum, sum_map_store _ hKeyed hStored]
    linarith

end SavedRow

end Writing

/-! ## Runs -/

section Runs

variable {D : Type} [DecidableEq D] {environment accountNo : String} {buyingPower : ℚ}
  {state next : SharedCapital D}

/-- A call that has read the database and is going to insert. -/
structure SoundCall (environment accountNo : String) (buyingPower : ℚ) (call : ReserveCall) :
    Prop where
  positive : 0 < call.reservation.requestedNotional
  full : call.reservation.remainingReservedNotional = call.reservation.requestedNotional
  fits : reservedNotional call.databaseActive + call.reservation.requestedNotional ≤ buyingPower

/-- What every reachable state satisfies. -/
structure AllocatorInvariant (environment accountNo : String) (buyingPower : ℚ)
    (state : SharedCapital D) : Prop where
  keyed : Keyed CapitalReservation.reservationId state.rows
  database : HoldsNonneg (activeReservations state.rows environment accountNo)
  ledgers : ∀ device, HoldsNonneg (findActiveReservations (state.device device).ledger
    environment accountNo)
  calls : ∀ device call, (state.device device).call = some call →
    SoundCall environment accountNo buyingPower call
  full : ∀ row ∈ activeReservations state.rows environment accountNo,
    row.reservationId ∈ state.granted → row.remainingReservedNotional = row.requestedNotional
  bound : state.granted = [] ∨ accountHold environment accountNo state.rows ≤ buyingPower

section

variable (h : AllocatorInvariant environment accountNo buyingPower state)
include h

open SharedCapital (setDevice)

theorem AllocatorInvariant.setCall (device : D) {call : Option ReserveCall}
    (hCall : ∀ started, call = some started → SoundCall environment accountNo buyingPower started) :
    AllocatorInvariant environment accountNo buyingPower
      (state.setDevice device { state.device device with call := call }) := by
  refine { h with ledgers := ?_, calls := ?_ }
  · intro other
    by_cases hOther : other = device
    · subst hOther
      simpa [setDevice] using h.ledgers other
    · simpa [setDevice, hOther] using h.ledgers other
  · intro other started hStarted
    by_cases hOther : other = device
    · subst hOther
      refine hCall started ?_
      simpa [setDevice] using hStarted
    · refine h.calls other started ?_
      simpa [setDevice, hOther] using hStarted

/-- Reading the database starts a call that fits what was read. -/
theorem AllocatorInvariant.read {device : D}
    (hAccount : request.environment = environment ∧ request.accountNo = accountNo)
    (hStep : allocatorStep buyingPower state (.read device request) = some next) :
    AllocatorInvariant environment accountNo buyingPower next := by
  obtain ⟨rfl, rfl⟩ := hAccount
  unfold allocatorStep at hStep
  cases hCall : (state.device device).call with
  | some =>
    simp only [hCall] at hStep
    cases hStep
  | none =>
    simp only [hCall] at hStep
    cases hRead : reservationToSave (state.device device).ledger
        (some (listActiveReservations state.rows request.environment request.accountNo))
        buyingPower request with
    | error raised =>
      simp only [hRead] at hStep
      cases hStep
      exact h
    | ok result =>
      cases result with
      | none =>
        simp only [hRead] at hStep
        cases hStep
        exact h
      | some =>
        simp only [hRead] at hStep
        cases hStep
        refine h.setCall device ?_
        intro started hStarted
        cases hStarted
        obtain ⟨rfl, hPositive, hFits⟩ := reservationToSave_some hRead
        have hSub : List.Sublist (listActiveReservations state.rows
            request.environment request.accountNo) state.rows := List.filter_sublist
        have hCounted := reservedNotional_le_counted
          (h.keyed.sublist (hSub.map CapitalReservation.reservationId))
          (fun _ hRow => (Bool.and_eq_true_iff.mp (List.mem_filter.mp hRow).2).2) h.database
            (h.ledgers device)
        refine { positive := hPositive, full := rfl, fits := ?_ }
        show _ + request.requestedNotional ≤ _
        linarith

/-- An insert of what still fits keeps the account within its buying power. -/
theorem AllocatorInvariant.insert {device : D}
    (hFits : InsertsWhatFits environment accountNo buyingPower state (.insert device))
    (hStep : allocatorStep buyingPower state (.insert device) = some next) :
    AllocatorInvariant environment accountNo buyingPower next := by
  unfold allocatorStep at hStep
  cases hCall : (state.device device).call with
  | none =>
    simp only [hCall] at hStep
    cases hStep
  | some call =>
    simp only [hCall] at hStep
    cases hSaved : saveReservationStrict state.rows call.reservation with
    | error =>
      simp only [hSaved] at hStep
      cases hStep
      exact h.setCall device (fun started hStarted => by cases hStarted)
    | ok result =>
      obtain ⟨written, saved⟩ := result
      simp only [hSaved] at hStep
      cases hStep
      have hSound := h.calls device call hCall
      obtain ⟨hSavedId, hSavedHold, row, hRow⟩ := saveReservationStrict_ok hSaved
      have hNonneg : 0 ≤ call.reservation.remainingReservedNotional := by
        rw [hSound.full]
        exact hSound.positive.le
      have hKeyed : Keyed CapitalReservation.reservationId written := hRow.keyed h.keyed
      have hActive : ∀ other ∈ activeReservations written environment accountNo,
          other = row ∨ other ∈ activeReservations state.rows environment accountNo := by
        intro other hOther
        obtain ⟨hMem, hHolds⟩ := List.mem_filter.mp hOther
        rcases hRow.mem_or hMem with hNew | hOld
        · exact Or.inl hNew
        · exact Or.inr (List.mem_filter.mpr ⟨hOld, hHolds⟩)
      refine
        { keyed := hKeyed, database := ?_, ledgers := ?_, calls := ?_, full := ?_
          bound := Or.inr ?_ }
      · intro other hOther
        rcases hActive other hOther with rfl | hOld
        · rw [hRow.remaining]
          exact hNonneg
        · exact h.database other hOld
      · intro other entry hEntry
        by_cases hOther : other = device
        · subst hOther
          simp only [setDevice, Function.update_self] at hEntry
          obtain ⟨hMem, hHolds⟩ := List.mem_filter.mp hEntry
          rcases List.mem_append.mp hMem with hOld | hNew
          · exact h.ledgers other entry (List.mem_filter.mpr ⟨hOld, hHolds⟩)
          · rw [List.mem_singleton.mp hNew, hSavedHold]
            exact hNonneg
        · simp only [setDevice, Function.update_of_ne hOther] at hEntry
          exact h.ledgers other entry hEntry
      · intro other started hStarted
        by_cases hOther : other = device
        · subst hOther
          simp only [setDevice, Function.update_self] at hStarted
          cases hStarted
        · simp only [setDevice, Function.update_of_ne hOther] at hStarted
          exact h.calls other started hStarted
      · intro other hOther hGranted
        have hMem : other ∈ written := List.mem_of_mem_filter hOther
        by_cases hSame : other.reservationId = row.reservationId
        · rw [hKeyed.eq_of_mem hMem hRow.mem_written hSame, hRow.remaining, hRow.requested]
          exact hSound.full
        · rcases hActive other hOther with rfl | hOld
          · exact absurd rfl hSame
          · refine h.full other hOld ?_
            rcases List.mem_append.mp hGranted with hBefore | hNew
            · exact hBefore
            · refine absurd ?_ hSame
              rw [List.mem_singleton.mp hNew, hSavedId, hRow.reservationId]
      · have hAdded : accountHold environment accountNo written ≤
            accountHold environment accountNo state.rows +
              call.reservation.remainingReservedNotional :=
          hRow.accountHold_le h.keyed h.database hNonneg
        rw [hSound.full] at hAdded
        rcases hFits call hCall with hUnchanged | hStillFits
        · have hRead := hSound.fits
          rw [← hUnchanged] at hRead
          exact hAdded.trans hRead
        · exact hAdded.trans hStillFits

theorem AllocatorInvariant.step {event : AllocatorEvent D}
    (hAccount : event.ReservesFor environment accountNo)
    (hFits : InsertsWhatFits environment accountNo buyingPower state event)
    (hStep : allocatorStep buyingPower state event = some next) :
    AllocatorInvariant environment accountNo buyingPower next := by
  cases event with
  | read => exact h.read hAccount hStep
  | insert => exact h.insert hFits hStep
  | outage device =>
    unfold allocatorStep at hStep
    cases hCall : (state.device device).call with
    | none =>
      simp only [hCall] at hStep
      cases hStep
    | some =>
      simp only [hCall] at hStep
      cases hStep
      exact h.setCall device (fun started hStarted => by cases hStarted)

end

omit [DecidableEq D] in
theorem AllocatorInvariant.grantedNotional_le
    (h : AllocatorInvariant environment accountNo buyingPower state)
    (hPower : 0 ≤ buyingPower) :
    grantedNotional environment accountNo state ≤ buyingPower := by
  unfold grantedNotional
  rcases h.bound with hNone | hBound
  · rw [hNone]
    simpa using hPower
  · have hFull : (((activeReservations state.rows environment accountNo).filter
        (fun row => row.reservationId ∈ state.granted)).map (·.requestedNotional)) =
        (((activeReservations state.rows environment accountNo).filter
        (fun row => row.reservationId ∈ state.granted)).map
          (·.remainingReservedNotional)) := by
      refine List.map_congr_left ?_
      intro row hRow
      obtain ⟨hActive, hGranted⟩ := List.mem_filter.mp hRow
      exact (h.full row hActive (of_decide_eq_true hGranted)).symm
    have hSub : List.Sublist ((activeReservations state.rows environment accountNo).filter
        (fun row => row.reservationId ∈ state.granted))
        (activeReservations state.rows environment accountNo) := List.filter_sublist
    rw [hFull]
    refine le_trans ((hSub.map _).sum_le_sum ?_) hBound
    intro amount hAmount
    obtain ⟨row, hRow, rfl⟩ := List.mem_map.mp hAmount
    exact h.database row hRow

/-- The devices before their first call: nothing is granted yet. -/
structure NoCallYet (environment accountNo : String) (state : SharedCapital D) : Prop where
  keyed : Keyed CapitalReservation.reservationId state.rows
  database : HoldsNonneg (activeReservations state.rows environment accountNo)
  ledgers : ∀ device, HoldsNonneg (findActiveReservations (state.device device).ledger
    environment accountNo)
  calls : ∀ device, (state.device device).call = none
  granted : state.granted = []

omit [DecidableEq D] in
theorem NoCallYet.invariant (h : NoCallYet environment accountNo state) :
    AllocatorInvariant environment accountNo buyingPower state where
  keyed := h.keyed
  database := h.database
  ledgers := h.ledgers
  calls := by
    intro device call hCall
    rw [h.calls device] at hCall
    cases hCall
  full := by
    intro row _ hGranted
    rw [h.granted] at hGranted
    cases hGranted
  bound := Or.inl h.granted

end Runs

/-- Two devices with empty ledgers and an empty database. -/
def emptyAccount : SharedCapital Bool :=
  { rows := [], device := fun _ => { ledger := [], call := none }, granted := [] }

/-- A call for a thousand. -/
def sampleReserve (reservationId : String) : ReserveRequest :=
  { reservationId := reservationId, environment := "PROD", accountNo := "1", symbol := "AAPL"
    attemptGroupId := "G1", requestedNotional := 1000 }

theorem noCallYet_emptyAccount : NoCallYet "PROD" "1" emptyAccount where
  keyed := by decide
  database := fun row hRow => by cases hRow
  ledgers := fun device row hRow => by cases hRow
  calls := fun _ => rfl
  granted := rfl

end QuantApp.Services
