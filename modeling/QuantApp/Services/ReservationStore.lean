import QuantApp.Services.CapitalAllocator

/-!
# Accesses to the reservations

`reserve_capital_for_entry` and `_mutate_reservation` of `src/services/capital_allocator.py` with
everything that can fail on the way: the database is written first and the local ledger mirrors
it, so an access can raise after the database has committed.
-/

namespace QuantApp.Services

open Core Verified
open CapitalReservation (reservationId)

variable {result : Option CapitalReservation}

/-- Where an access fails. -/
inductive StoreFault
  | ledgerUnreadable
  | databaseUnreadable
  | buyingPower
  /-- the write of the database is rolled back -/
  | notCommitted
  /-- the write of the database commits and is reported as failed -/
  | unacknowledged
  | ledgerUnwritable
  deriving DecidableEq

/-- A failing access, with what it raises. -/
structure StoreFailure where
  fault : StoreFault
  raised : Raised

/-- The exception of a failure at one of some places. -/
def failsAt (failure : Option StoreFailure) (faults : List StoreFault) : Option Raised :=
  (failure.filter (fun failure => failure.fault ∈ faults)).map StoreFailure.raised

/-- The local ledger, and the rows of the shared database where an engine is supplied. -/
structure ReservationStore where
  ledger : List CapitalReservation
  database : Option (List CapitalReservation)

namespace ReservationStore

/-- The database is written, and what it finalized is mirrored in the local ledger. -/
def commit (failure : Option StoreFailure) (store : ReservationStore)
    (reservation : CapitalReservation)
    (mirror : List CapitalReservation → CapitalReservation → List CapitalReservation) :
    Except Raised CapitalReservation × ReservationStore :=
  match store.database with
  | none =>
    match failsAt failure [.ledgerUnwritable] with
    | some raised => (.error raised, store)
    | none => (.ok reservation, { store with ledger := mirror store.ledger reservation })
  | some rows =>
    match failsAt failure [.notCommitted] with
    | some raised => (.error raised, store)
    | none =>
      match saveReservationStrict rows reservation with
      | .error raised => (.error raised, store)
      | .ok (rows, saved) =>
        match failsAt failure [.unacknowledged, .ledgerUnwritable] with
        | some raised => (.error raised, { store with database := some rows })
        | none => (.ok saved, ⟨mirror store.ledger saved, some rows⟩)

def reserveCapitalForEntry (failure : Option StoreFailure) (store : ReservationStore)
    (buyingPower : ℚ) (request : ReserveRequest) :
    Except Raised (Option CapitalReservation) × ReservationStore :=
  if request.requestedNotional ≤ 0 then
    (.error { cls := .valueError, message := "requested_notional must be positive" }, store)
  else
    match failsAt failure ((if store.database.isSome then [.databaseUnreadable] else []) ++
        [.ledgerUnreadable, .buyingPower]) with
    | some raised => (.error raised, store)
    | none =>
      let databaseActive := store.database.map
        (fun rows => listActiveReservations rows request.environment request.accountNo)
      match reservationToSave store.ledger databaseActive buyingPower request with
      | .error raised => (.error raised, store)
      | .ok none => (.ok none, store)
      | .ok (some reservation) =>
        let (result, store) := store.commit failure reservation
          (fun ledger saved => ledger ++ [saved])
        (result.map some, store)

/-- `_upsert_copyreservation`; the ids of a ledger are unique. -/
def upsertLocalReservation (ledger : List CapitalReservation) (reservation : CapitalReservation) :
    List CapitalReservation :=
  upsert reservationId reservation.reservationId (fun _ => reservation) ledger

/-- The local copy of a reservation, else the row of the database. -/
def find (store : ReservationStore) (id : String) : Option CapitalReservation :=
  (lookup reservationId id store.ledger).or
    (store.database.bind (lookup reservationId id))

/-- Another writer won: the local copy is repaired from the row. -/
def repaired (store : ReservationStore) (id : String) : ReservationStore :=
  match store.database.bind (lookup reservationId id) with
  | some authoritative =>
    { store with ledger := upsertLocalReservation store.ledger authoritative }
  | none => store

def mutateReservation (failure : Option StoreFailure) (store : ReservationStore) (id : String)
    (mutation : CapitalReservation → CapitalReservation) :
    Except Raised (Option CapitalReservation) × ReservationStore :=
  match failsAt failure [.ledgerUnreadable] with
  | some raised => (.error raised, store)
  | none =>
    let missing := lookup reservationId id store.ledger = none
    match failsAt failure
        (if missing ∧ store.database.isSome then [.databaseUnreadable] else []) with
    | some raised => (.error raised, store)
    | none =>
      match store.find id with
      | none => (.ok none, store)
      | some reservation =>
        match store.commit failure (mutation reservation) upsertLocalReservation with
        | (.ok saved, after) => (.ok (some saved), after)
        | (.error raised, after) =>
          if raised.cls = .capitalReservationVersionConflict then
            match failsAt failure [.databaseUnreadable, .ledgerUnwritable] with
            | some other => (.error other, after)
            | none => (.error raised, after.repaired id)
          else (.error raised, after)

def consumeReservation (failure : Option StoreFailure) (store : ReservationStore) (id : String)
    (notional : ℚ) : Except Raised (Option CapitalReservation) × ReservationStore :=
  store.mutateReservation failure id (fun reservation => reservation.consume notional)

def releaseReservation (failure : Option StoreFailure) (store : ReservationStore) (id : String)
    (now : Instant) : Except Raised (Option CapitalReservation) × ReservationStore :=
  store.mutateReservation failure id (fun reservation => reservation.release now)

/-! ## Open reservations -/

/-- No id is twice in the ledger or in the database. -/
structure WellKeyed (store : ReservationStore) : Prop where
  ledger : Keyed reservationId store.ledger
  database : ∀ rows, store.database = some rows → Keyed reservationId rows

/-- A copy of the reservation holds capital: the local one or the row of the database. -/
def OpenIn (store : ReservationStore) (id : String) : Prop :=
  (∃ reservation ∈ store.ledger, reservation.reservationId = id ∧ reservation.isOpen = true) ∨
    ∃ rows, store.database = some rows ∧
      ∃ reservation ∈ rows, reservation.reservationId = id ∧ reservation.isOpen = true

/-- Nobody has used the id. -/
structure Fresh (store : ReservationStore) (id : String) : Prop where
  ledger : id ∉ store.ledger.map reservationId
  database : ∀ rows, store.database = some rows → id ∉ rows.map reservationId

/-! ## One access -/

section Access

variable {failure : Option StoreFailure} {store after : ReservationStore} {id : String}
  {rows written : List CapitalReservation} {reservation saved : CapitalReservation}
  {mirror : List CapitalReservation → CapitalReservation → List CapitalReservation}
  {mutation : CapitalReservation → CapitalReservation}

theorem exists_open_iff (hKeyed : Keyed reservationId rows) :
    (∃ reservation ∈ rows, reservation.reservationId = id ∧ reservation.isOpen = true) ↔
      ∃ reservation, lookup reservationId id rows = some reservation ∧
        reservation.isOpen = true := by
  constructor
  · rintro ⟨reservation, hMem, rfl, hOpen⟩
    exact ⟨reservation, hKeyed.lookup_of_mem hMem, hOpen⟩
  · rintro ⟨reservation, hFound, hOpen⟩
    exact ⟨reservation, lookup_mem hFound, lookup_key hFound, hOpen⟩

section

variable (h : saveReservationStrict rows reservation = .ok (written, saved))
include h

/-- What was saved is found, at the version that was saved, and is open where it was. -/
theorem saveReservationStrict_saved :
    saved.reservationId = reservation.reservationId ∧ saved.isOpen = reservation.isOpen ∧
      ∃ row, lookup reservationId reservation.reservationId written =
        some row ∧ row.isOpen = reservation.isOpen ∧ row.version = saved.version := by
  unfold saveReservationStrict at h
  cases hFound : lookup reservationId reservation.reservationId rows with
  | none =>
    simp only [hFound] at h
    obtain ⟨inserted, hInserted, h⟩ := bind_eq_ok.mp h
    cases h
    obtain ⟨-, rfl⟩ := insertReservation_ok hInserted
    refine ⟨rfl, rfl, reservation, ?_, rfl, rfl⟩
    rw [lookup_append, hFound]
    simp [lookup]
  | some =>
    simp only [hFound] at h
    obtain ⟨stored, hStored, _, hWritten, rfl⟩ := updateReservation_ok h
    have hKey : stored.reservationId = reservation.reservationId := lookup_key hStored
    refine ⟨rfl, rfl, writtenRow stored reservation (reservation.version + 1), ?_, rfl, rfl⟩
    have hOld : lookup reservationId
        (writtenRow stored reservation (reservation.version + 1)).reservationId rows =
          some stored :=
      hKey ▸ hStored
    rw [hWritten, ← hKey]
    exact lookup_store_self hOld

theorem saveReservationStrict_keyed (hKeyed : Keyed reservationId rows) :
    Keyed reservationId written := by
  obtain ⟨-, -, row, hRow⟩ := saveReservationStrict_ok h
  exact hRow.keyed hKeyed

end

/-- A commit that returns has written the database and the ledger. -/
theorem commit_ok (h : store.commit failure reservation mirror = (.ok saved, after)) :
    after.ledger = mirror store.ledger saved ∧ saved.reservationId = reservation.reservationId ∧
      saved.isOpen = reservation.isOpen ∧
      (store.database = none ∧ after.database = none ∨
        ∃ rows written, store.database = some rows ∧ after.database = some written ∧
          saveReservationStrict rows reservation = .ok (written, saved)) := by
  unfold commit at h
  split at h
  next hNone =>
    split at h
    · cases h
    · cases h
      exact ⟨rfl, rfl, rfl, Or.inl ⟨hNone, hNone⟩⟩
  next rows hRows =>
    split at h
    · cases h
    · split at h
      · cases h
      next written saved' hSaved =>
        split at h
        · cases h
        · cases h
          obtain ⟨hId, hOpen, -⟩ := saveReservationStrict_saved hSaved
          exact ⟨rfl, hId, hOpen, Or.inr ⟨rows, written, hRows, rfl, hSaved⟩⟩

/-- A commit that raises has written nothing, or the database only. -/
theorem commit_error {raised : Raised}
    (h : store.commit failure reservation mirror = (.error raised, after)) :
    after = store ∨ ∃ rows written saved, store.database = some rows ∧
      saveReservationStrict rows reservation = .ok (written, saved) ∧
      (failsAt failure [.unacknowledged, .ledgerUnwritable]).isSome = true ∧
      after = { store with database := some written } := by
  unfold commit at h
  split at h
  · split at h
    · cases h
      exact Or.inl rfl
    · cases h
  next rows hRows =>
    split at h
    · cases h
      exact Or.inl rfl
    · split at h
      · cases h
        exact Or.inl rfl
      next written saved hSaved =>
        split at h
        next raised' hFails =>
          cases h
          refine Or.inr ⟨rows, written, saved, hRows, hSaved, ?_, rfl⟩
          rw [hFails]
          rfl
        · cases h

theorem keyed_upsertLocalReservation {ledger : List CapitalReservation}
    (hKeyed : Keyed reservationId ledger) (reservation : CapitalReservation) :
    Keyed reservationId (upsertLocalReservation ledger reservation) :=
  hKeyed.upsert (fun _ _ => rfl)

theorem lookup_upsertLocalReservation (ledger : List CapitalReservation)
    (reservation : CapitalReservation) :
    lookup reservationId reservation.reservationId
      (upsertLocalReservation ledger reservation) = some reservation :=
  lookup_upsert_self (fun _ _ => rfl)

theorem WellKeyed.commit {result : Except Raised CapitalReservation} (h : store.WellKeyed)
    (hCommit : store.commit failure reservation upsertLocalReservation = (result, after)) :
    after.WellKeyed := by
  cases result with
  | ok saved =>
    obtain ⟨hLedger, -, -, hDatabase⟩ := commit_ok hCommit
    refine ⟨?_, fun rows hRows => ?_⟩
    · rw [hLedger]
      exact keyed_upsertLocalReservation h.ledger saved
    · rcases hDatabase with ⟨-, hNone⟩ | ⟨before, written, hBefore, hWritten, hSaved⟩
      · rw [hNone] at hRows
        cases hRows
      · rw [hWritten] at hRows
        cases hRows
        exact saveReservationStrict_keyed hSaved (h.database before hBefore)
  | error =>
    rcases commit_error hCommit with rfl | ⟨before, written, saved, hBefore, hSaved, -, rfl⟩
    · exact h
    · refine ⟨h.ledger, fun rows hRows => ?_⟩
      cases hRows
      exact saveReservationStrict_keyed hSaved (h.database before hBefore)

theorem WellKeyed.repaired (h : store.WellKeyed) (id : String) : (store.repaired id).WellKeyed := by
  unfold ReservationStore.repaired
  split
  · exact ⟨keyed_upsertLocalReservation h.ledger _, h.database⟩
  · exact h

theorem WellKeyed.mutateReservation (h : store.WellKeyed) (failure : Option StoreFailure)
    (id : String) (mutation : CapitalReservation → CapitalReservation) :
    (store.mutateReservation failure id mutation).2.WellKeyed := by
  unfold ReservationStore.mutateReservation
  split
  · exact h
  dsimp only
  split
  · exact h
  split
  · exact h
  split
  next hCommit => exact h.commit hCommit
  next hCommit =>
    split
    · split
      · exact h.commit hCommit
      · exact (h.commit hCommit).repaired id
    · exact h.commit hCommit

theorem find_eq_none_iff : store.find id = none ↔
    lookup reservationId id store.ledger = none ∧
      ∀ rows, store.database = some rows → lookup reservationId id rows = none := by
  unfold find
  rw [Option.or_eq_none_iff]
  refine and_congr_right fun _ => ?_
  cases store.database with
  | none | some => simp

theorem reservationId_of_find (h : store.find id = some reservation) :
    reservation.reservationId = id := by
  unfold find at h
  rcases Option.or_eq_some_iff.mp h with hLocal | ⟨-, hRow⟩
  · exact lookup_key hLocal
  · obtain ⟨rows, -, hRow⟩ := Option.bind_eq_some_iff.mp hRow
    exact lookup_key hRow

/-- A mutation that closes the reservation leaves no open copy of it, where it returns. -/
theorem not_openIn_of_mutated (hKeyed : store.WellKeyed)
    (hId : ∀ reservation, (mutation reservation).reservationId = reservation.reservationId)
    (hClosed : ∀ reservation, (mutation reservation).isOpen = false)
    (h : store.mutateReservation failure id mutation = (.ok result, after)) :
    ¬ after.OpenIn id := by
  have hAfterKeyed : after.WellKeyed := by
    have hMutated := hKeyed.mutateReservation failure id mutation
    rwa [h] at hMutated
  unfold mutateReservation at h
  split at h
  · cases h
  dsimp only at h
  split at h
  · cases h
  split at h
  next hMissing =>
    cases h
    obtain ⟨hLedger, hDatabase⟩ := find_eq_none_iff.mp hMissing
    rintro (hLocal | ⟨rows, hRows, hRow⟩)
    · obtain ⟨found, hFound, -⟩ := (exists_open_iff hKeyed.ledger).mp hLocal
      rw [hLedger] at hFound
      cases hFound
    · obtain ⟨found, hFound, -⟩ := (exists_open_iff (hKeyed.database rows hRows)).mp hRow
      rw [hDatabase rows hRows] at hFound
      cases hFound
  next reservation hFind =>
    have hFindId := reservationId_of_find hFind
    split at h
    next saved after' hCommit =>
      cases h
      obtain ⟨hLedger, hSavedId, hSavedOpen, hDatabase⟩ := commit_ok hCommit
      rw [hClosed] at hSavedOpen
      rw [hId, hFindId] at hSavedId
      rintro (hLocal | ⟨rows, hRows, hRow⟩)
      · obtain ⟨found, hFound, hOpen⟩ := (exists_open_iff hAfterKeyed.ledger).mp hLocal
        rw [hLedger, ← hSavedId, lookup_upsertLocalReservation] at hFound
        cases hFound
        rw [hSavedOpen] at hOpen
        cases hOpen
      · obtain ⟨found, hFound, hOpen⟩ := (exists_open_iff (hAfterKeyed.database rows hRows)).mp hRow
        rcases hDatabase with ⟨-, hNone⟩ | ⟨before, written, -, hWritten, hSaved⟩
        · rw [hNone] at hRows
          cases hRows
        · rw [hWritten] at hRows
          cases hRows
          obtain ⟨-, -, row, hRowFound, hRowOpen, -⟩ := saveReservationStrict_saved hSaved
          rw [hId, hFindId, hFound] at hRowFound
          cases hRowFound
          rw [hRowOpen, hClosed] at hOpen
          cases hOpen
    next hCommit =>
      split at h
      · split at h <;> cases h
      · cases h

theorem not_openIn_of_released {now : Instant} (hKeyed : store.WellKeyed)
    (h : store.releaseReservation failure id now = (.ok result, after)) : ¬ after.OpenIn id := by
  unfold releaseReservation at h
  refine not_openIn_of_mutated hKeyed ?_ ?_ h
  all_goals exact fun _ => rfl

/-- The local copy of a reservation is at the version of its row. -/
structure InStep (store : ReservationStore) (id : String) : Prop extends store.WellKeyed where
  version : ∀ rows copy row, store.database = some rows →
    lookup reservationId id store.ledger = some copy →
    lookup reservationId id rows = some row → row.version = copy.version

theorem saveReservationStrict_returns
    (hVersion : ∀ row, lookup reservationId reservation.reservationId rows =
      some row → row.version = reservation.version) :
    ∃ written saved, saveReservationStrict rows reservation = .ok (written, saved) := by
  unfold saveReservationStrict
  cases hFound : lookup reservationId reservation.reservationId rows with
  | none =>
    unfold insertReservation
    rw [hFound]
    exact ⟨_, _, rfl⟩
  | some row =>
    unfold updateReservation
    rw [hFound]
    dsimp only
    rw [if_pos (hVersion row hFound)]
    exact ⟨_, _, rfl⟩

/-- Where nothing fails, a mutation in step returns and stays in step. -/
theorem mutateReservation_returns (h : store.InStep id)
    (hId : ∀ reservation, (mutation reservation).reservationId = reservation.reservationId)
    (hVersion : ∀ reservation, (mutation reservation).version = reservation.version) :
    ∃ result after, store.mutateReservation none id mutation = (.ok result, after) ∧
      after.InStep id := by
  have hNever : ∀ faults, failsAt none faults = none := fun _ => rfl
  have hKeyed := h.toWellKeyed.mutateReservation none id mutation
  unfold mutateReservation at hKeyed ⊢
  rw [hNever, hNever] at hKeyed ⊢
  dsimp only at hKeyed ⊢
  cases hFind : store.find id with
  | none => exact ⟨none, store, rfl, h⟩
  | some reservation =>
    rw [hFind] at hKeyed
    dsimp only at hKeyed ⊢
    have hFindId := reservationId_of_find hFind
    have hCommit : ∃ saved after, store.commit none (mutation reservation)
        upsertLocalReservation = (.ok saved, after) := by
      unfold commit
      rw [hNever, hNever, hNever]
      cases hDatabase : store.database with
      | none => exact ⟨_, _, rfl⟩
      | some rows =>
        have hWritable : ∀ row, lookup reservationId
            (mutation reservation).reservationId rows = some row →
            row.version = (mutation reservation).version := by
          intro row hRow
          rw [hId, hFindId] at hRow
          rw [hVersion]
          unfold find at hFind
          rcases Option.or_eq_some_iff.mp hFind with hLocal | ⟨-, hOnly⟩
          · exact h.version rows reservation row hDatabase hLocal hRow
          · rw [hDatabase, Option.bind_some, hRow] at hOnly
            cases hOnly
            rfl
        obtain ⟨written, saved, hSaved⟩ := saveReservationStrict_returns hWritable
        dsimp only
        rw [hSaved]
        exact ⟨_, _, rfl⟩
    obtain ⟨saved, after, hCommit⟩ := hCommit
    rw [hCommit] at hKeyed ⊢
    refine ⟨some saved, after, rfl, hKeyed, fun rows copy row hRows hLocal hRow => ?_⟩
    obtain ⟨hLedger, hSavedId, -, hDatabase⟩ := commit_ok hCommit
    rw [hId, hFindId] at hSavedId
    rw [hLedger, ← hSavedId, lookup_upsertLocalReservation] at hLocal
    cases hLocal
    rcases hDatabase with ⟨-, hNone⟩ | ⟨before, written, -, hWritten, hSaved⟩
    · rw [hNone] at hRows
      cases hRows
    · rw [hWritten] at hRows
      cases hRows
      obtain ⟨-, -, found, hFound, -, hFoundVersion⟩ := saveReservationStrict_saved hSaved
      rw [hId, hFindId, hRow] at hFound
      cases hFound
      exact hFoundVersion

/-! ## A reservation is made -/

theorem Fresh.not_openIn (h : store.Fresh id) : ¬ store.OpenIn id := by
  rintro (⟨reservation, hMem, rfl, -⟩ | ⟨rows, hRows, reservation, hMem, rfl, -⟩)
  · exact h.ledger (List.mem_map_of_mem hMem)
  · exact h.database rows hRows (List.mem_map_of_mem hMem)

variable {buyingPower : ℚ} {request : ReserveRequest}

/-- What is available covers the request. -/
def Grants (store : ReservationStore) (buyingPower : ℚ) (request : ReserveRequest) : Prop :=
  reservationToSave store.ledger (store.database.map
      (fun rows => listActiveReservations rows request.environment request.accountNo))
    buyingPower request = .ok (some request.reservation)

/-- The row is committed, and the access fails after it. -/
def CommitsUnreported (failure : Option StoreFailure) (store : ReservationStore) (buyingPower : ℚ)
    (request : ReserveRequest) : Prop :=
  store.database.isSome = true ∧ store.Grants buyingPower request ∧
    (failsAt failure [.unacknowledged, .ledgerUnwritable]).isSome = true

/-- The store with a new reservation. -/
def added (store : ReservationStore) (reservation : CapitalReservation) : ReservationStore :=
  ⟨store.ledger ++ [reservation], store.database.map (· ++ [reservation])⟩

theorem reservationToSave_cases (ledger : List CapitalReservation)
    (databaseActive : Option (List CapitalReservation)) (buyingPower : ℚ)
    (request : ReserveRequest) :
    (∃ raised, reservationToSave ledger databaseActive buyingPower request = .error raised) ∨
      reservationToSave ledger databaseActive buyingPower request = .ok none ∨
      reservationToSave ledger databaseActive buyingPower request =
        .ok (some request.reservation) := by
  unfold reservationToSave
  split
  · exact Or.inl ⟨_, rfl⟩
  · dsimp only
    split
    · exact Or.inr (Or.inl rfl)
    · exact Or.inr (Or.inr rfl)

theorem saveReservationStrict_fresh
    (hFresh : reservation.reservationId ∉ rows.map reservationId) :
    saveReservationStrict rows reservation = .ok (rows ++ [reservation], reservation) := by
  have hMissing := lookup_eq_none_iff.mpr hFresh
  unfold saveReservationStrict insertReservation
  rw [hMissing]
  rfl

/-- A reservation is refused or fails without a trace, is committed unreported, or is made. -/
theorem reserveCapitalForEntry_cases (request : ReserveRequest)
    (hFresh : store.Fresh request.reservationId) (failure : Option StoreFailure)
    (buyingPower : ℚ) :
    ¬ CommitsUnreported failure store buyingPower request ∧
        ((∃ raised, store.reserveCapitalForEntry failure buyingPower request =
            (.error raised, store)) ∨
          store.reserveCapitalForEntry failure buyingPower request = (.ok none, store) ∨
          store.reserveCapitalForEntry failure buyingPower request =
            (.ok (some request.reservation), store.added request.reservation)) ∨
      CommitsUnreported failure store buyingPower request ∧ ∃ raised,
        store.reserveCapitalForEntry failure buyingPower request =
          (.error raised, ⟨store.ledger, store.database.map (· ++ [request.reservation])⟩) := by
  have hOnePlace : ∀ {here there : List StoreFault}, (∀ fault ∈ here, fault ∉ there) →
      (failsAt failure there).isSome = true → failsAt failure here = none := by
    intro here there hApart hThere
    cases failure with
    | none => rfl
    | some failure =>
      have hIn : failure.fault ∈ there := by
        by_contra hNot
        simp [failsAt, hNot] at hThere
      have hNotHere : failure.fault ∉ here := fun hHere => hApart _ hHere hIn
      simp [failsAt, hNotHere]
  have hGranted : store.Grants buyingPower request → ¬ request.requestedNotional ≤ 0 := by
    intro hGrants hNotPositive
    unfold Grants reservationToSave at hGrants
    rw [if_pos hNotPositive] at hGrants
    cases hGrants
  unfold reserveCapitalForEntry
  split
  next hNotPositive =>
    exact Or.inl ⟨fun hUnreported => hGranted hUnreported.2.1 hNotPositive, Or.inl ⟨_, rfl⟩⟩
  split
  next raised hFails =>
    refine Or.inl ⟨fun hUnreported => ?_, Or.inl ⟨_, rfl⟩⟩
    rw [hOnePlace (by split <;> simp) hUnreported.2.2] at hFails
    cases hFails
  dsimp only
  rcases reservationToSave_cases store.ledger (store.database.map
      (fun rows => listActiveReservations rows request.environment request.accountNo))
      buyingPower request with ⟨raised, hSaves⟩ | hSaves | hSaves
  · rw [hSaves]
    refine Or.inl ⟨fun hUnreported => ?_, Or.inl ⟨_, rfl⟩⟩
    have hGrants := hUnreported.2.1
    unfold Grants at hGrants
    rw [hSaves] at hGrants
    cases hGrants
  · rw [hSaves]
    refine Or.inl ⟨fun hUnreported => ?_, Or.inr (Or.inl rfl)⟩
    have hGrants := hUnreported.2.1
    unfold Grants at hGrants
    rw [hSaves] at hGrants
    cases hGrants
  · rw [hSaves]
    dsimp only
    unfold commit added CommitsUnreported
    cases hDatabase : store.database with
    | none =>
      refine Or.inl ⟨fun hUnreported => absurd hUnreported.1 (by decide), ?_⟩
      dsimp only
      split
      · exact Or.inl ⟨_, rfl⟩
      · exact Or.inr (Or.inr rfl)
    | some rows =>
      have hInserted : saveReservationStrict rows request.reservation =
          .ok (rows ++ [request.reservation], request.reservation) :=
        saveReservationStrict_fresh (hFresh.database rows hDatabase)
      dsimp only
      split
      next raised hFails =>
        refine Or.inl ⟨fun hUnreported => ?_, Or.inl ⟨_, rfl⟩⟩
        rw [hOnePlace (by simp) hUnreported.2.2] at hFails
        cases hFails
      rw [hInserted]
      dsimp only
      split
      next raised hFails =>
        refine Or.inr ⟨⟨rfl, hSaves, ?_⟩, _, rfl⟩
        rw [hFails]
        rfl
      next hReported =>
        refine Or.inl ⟨fun hUnreported => ?_, Or.inr (Or.inr rfl)⟩
        rw [hReported] at hUnreported
        cases hUnreported.2.2

theorem openIn_added (store : ReservationStore) (reservation : CapitalReservation)
    (h : reservation.isOpen = true) :
    (store.added reservation).OpenIn reservation.reservationId :=
  Or.inl ⟨reservation, List.mem_append_right _ List.mem_cons_self, rfl, h⟩

theorem WellKeyed.added (h : store.WellKeyed) (reservation : CapitalReservation)
    (hFresh : store.Fresh reservation.reservationId) :
    (store.added reservation).WellKeyed := by
  refine ⟨h.ledger.append_fresh hFresh.ledger, fun rows hRows => ?_⟩
  obtain ⟨before, hBefore, rfl⟩ := Option.map_eq_some_iff.mp hRows
  exact (h.database before hBefore).append_fresh (hFresh.database before hBefore)

end Access

end ReservationStore

end QuantApp.Services
