import QuantApp.Verified.VersionedTable
import QuantApp.Services.CapitalReservationRepository

/-!
# Runs of capital transactions

The reservation table under any interleaving of the repository's transactions.
A process may hold every row that was ever committed, mutate its copy and write
it back; `update_reservation`'s version check is the only protection.  The
ledger therefore keeps, beside the rows, the history of committed rows and the
pairs `prepare_reservation_for_replacement` returned.  A transaction that raises
is rolled back, so a run is a sequence of transactions that committed.
-/

namespace QuantApp.Services

open Core Verified
open CapitalReservation (consume create reservationId version)

variable {row before after preparedReservation previousReservation : CapitalReservation}
  {rows written : List CapitalReservation} {request : ReplacementRequest}
  {ledger next : CapitalLedger} {expectedVersion : Int}
  {originalReservationId preparedReservationId id : String}
  {portfolioRiskSpec : PortfolioRiskReservationSpec}

/-- What a process does to the reservation it holds before it writes it. -/
inductive ReservationMutation
  | consume (notional : ℚ)
  | release (now : Instant)
  | expire (now : Instant)

def ReservationMutation.apply (reservation : CapitalReservation) :
    ReservationMutation → CapitalReservation
  | .consume notional => reservation.consume notional
  | .release now => reservation.release now
  | .expire now => reservation.expire now

/-- The entry a reservation is created for.  The gateway requests
`quantity * limit_price` of a BUY after checking that both are positive, and
nothing of a SELL. -/
structure EntryRequest where
  reservationId : String
  environment : String
  accountNo : String
  symbol : String
  attemptGroupId : String
  notional : ℚ
  openRisk : ℚ
  notionalNonneg : 0 ≤ notional

/-- The reservation of an entry. -/
def EntryRequest.reservation (request : EntryRequest) : CapitalReservation :=
  CapitalReservation.create request.reservationId request.environment request.accountNo
    request.symbol request.attemptGroupId request.notional request.openRisk

structure CapitalLedger where
  rows : List CapitalReservation
  /-- every row that was ever committed -/
  history : List CapitalReservation
  /-- the prepared reservations, each with the snapshot it replaced -/
  prepared : List (CapitalReservation × CapitalReservation)

inductive CapitalTransaction
  | insert (request : EntryRequest) (portfolioRiskSpec : Option PortfolioRiskReservationSpec)
  | prepare (originalReservationId : String) (request : ReplacementRequest)
      (portfolioRiskSpec : PortfolioRiskReservationSpec)
  | activate (preparedReservationId : String) (expectedVersion : Int)
      (request : ReplacementRequest)
  | restore (preparedReservation previousReservation : CapitalReservation)
  | write (held : CapitalReservation) (mutations : List ReservationMutation)

/-- The ledger once a transaction on one reservation has committed. -/
def CapitalLedger.committed (ledger : CapitalLedger) (rows : List CapitalReservation)
    (reservationId : String) : CapitalLedger :=
  { ledger with
    rows := rows
    history := ledger.history ++
      (lookup CapitalReservation.reservationId reservationId rows).toList }

open ReservationMutation (apply)

/-- One transaction; `buyingPower` is the fixed buying power of each account. -/
def transact (buyingPower : String → String → ℚ) (ledger : CapitalLedger) :
    CapitalTransaction → Except Raised CapitalLedger
  | .insert request portfolioRiskSpec => do
    let rows ← insertReservationIfAvailable ledger.rows request.reservation
      (buyingPower request.environment request.accountNo) portfolioRiskSpec
    pure (ledger.committed rows request.reservationId)
  | .prepare originalReservationId request portfolioRiskSpec => do
    let (rows, prepared, previous) ← prepareReservationForReplacement ledger.rows
      originalReservationId request (buyingPower request.environment request.accountNo)
      portfolioRiskSpec
    pure { ledger.committed rows originalReservationId with
      prepared := ledger.prepared ++ [(prepared, previous)] }
  | .activate preparedReservationId expectedVersion request => do
    let (rows, _) ← activatePreparedReplacementReservation ledger.rows
      preparedReservationId expectedVersion request
    pure (ledger.committed rows preparedReservationId)
  | .restore preparedReservation previousReservation => do
    let (rows, _) ← restorePreparedReplacementReservation ledger.rows preparedReservation
      previousReservation
    pure (ledger.committed rows previousReservation.reservationId)
  | .write held mutations => do
    let (rows, _) ← updateReservation ledger.rows
      (mutations.foldl ReservationMutation.apply held) held.version
    pure (ledger.committed rows held.reservationId)

/-- A process can issue the transaction: it restores what a prepare returned and
writes back rows it has read. -/
def Issuable (ledger : CapitalLedger) : CapitalTransaction → Prop
  | .insert _ _ => True
  | .prepare _ _ _ => True
  | .activate _ _ _ => True
  | .restore preparedReservation previousReservation =>
    (preparedReservation, previousReservation) ∈ ledger.prepared
  | .write held _ => held ∈ ledger.history

/-- The ledgers a sequence of committed transactions reaches. -/
inductive CapitalRun (buyingPower : String → String → ℚ) (start : CapitalLedger) :
    List CapitalTransaction → CapitalLedger → Prop
  | start : CapitalRun buyingPower start [] start
  | commit {transactions : List CapitalTransaction} {ledger next : CapitalLedger}
      {transaction : CapitalTransaction} :
      CapitalRun buyingPower start transactions ledger → Issuable ledger transaction →
      transact buyingPower ledger transaction = .ok next →
      CapitalRun buyingPower start (transactions ++ [transaction]) next

/-! ## The total an account holds -/

section Account

variable {environment accountNo : String}

/-- The row belongs to the account. -/
def ofAccount (environment accountNo : String) (row : CapitalReservation) : Bool :=
  row.environment = environment && row.accountNo = accountNo

/-- What a row takes from the account's buying power. -/
def heldNotional (environment accountNo : String) (row : CapitalReservation) : ℚ :=
  if ofAccount environment accountNo row = true ∧ row.isOpen = true then
    row.remainingReservedNotional
  else 0

/-- The sum of `remaining_reserved_notional` over the account's active rows. -/
def accountHold (environment accountNo : String) (rows : List CapitalReservation) : ℚ :=
  reservedNotional (activeReservations rows environment accountNo)

theorem accountHold_eq_sum (rows : List CapitalReservation) :
    accountHold environment accountNo rows =
      (rows.map (heldNotional environment accountNo)).sum := by
  unfold accountHold reservedNotional activeReservations
  induction rows with
  | nil => rfl
  | cons row rows ih =>
    rw [List.filter_cons, List.map_cons, List.sum_cons, ← ih]
    by_cases hActive : ofAccount environment accountNo row = true ∧ row.isOpen = true
    · rw [if_pos (by rw [Bool.and_eq_true]; exact hActive), List.map_cons, List.sum_cons]
      unfold heldNotional
      rw [if_pos hActive]
    · rw [if_neg (by rw [Bool.and_eq_true]; exact hActive)]
      unfold heldNotional
      rw [if_neg hActive, zero_add]

/-- A row never holds a negative amount, and a closed row has given its capital
back but for the floor `consume` rounds away. -/
structure SoundHold (row : CapitalReservation) : Prop where
  nonneg : 0 ≤ row.remainingReservedNotional
  closed : row.isOpen = false → row.remainingReservedNotional ≤ consumedNotionalFloor

/-- The row's hold did not grow. -/
structure Shrinks (before after : CapitalReservation) : Prop where
  sound : SoundHold after
  hold : after.remainingReservedNotional ≤ before.remainingReservedNotional
  closed : before.isOpen = false → after.isOpen = false

theorem Shrinks.refl (h : SoundHold row) : Shrinks row row :=
  { sound := h, hold := le_refl _, closed := id }

theorem Shrinks.trans {a b c : CapitalReservation} (hab : Shrinks a b) (hbc : Shrinks b c) :
    Shrinks a c :=
  { sound := hbc.sound
    hold := hbc.hold.trans hab.hold
    closed := fun h => hbc.closed (hab.closed h) }

/-- Consuming shrinks a sound hold: a closed row stays closed because what it
still holds is below the floor. -/
theorem shrinks_consume (h : SoundHold row) (notional : ℚ) :
    Shrinks row (row.consume notional) := by
  have hSpent : 0 ≤ max 0 notional := le_max_left 0 notional
  have hLe : max 0 (row.remainingReservedNotional - max 0 notional) ≤
      row.remainingReservedNotional := by
    refine max_le h.nonneg ?_
    linarith
  unfold consume
  dsimp only
  split
  · rename_i hFloor
    exact { sound := ⟨le_max_left _ _, fun _ => hFloor⟩, hold := hLe, closed := fun _ => rfl }
  · rename_i hFloor
    refine { sound := ⟨le_max_left _ _, fun hClosed => by cases hClosed⟩, hold := hLe
             closed := ?_ }
    intro hClosed
    exact absurd (hLe.trans (h.closed hClosed)) hFloor

theorem consumedNotionalFloor_nonneg : 0 ≤ consumedNotionalFloor := by
  unfold consumedNotionalFloor
  norm_num

theorem shrinks_mutation (h : SoundHold row) (mutation : ReservationMutation) :
    Shrinks row (mutation.apply row) := by
  cases mutation with
  | consume notional => exact shrinks_consume h notional
  | release | expire =>
    exact { sound := ⟨le_refl _, fun _ => consumedNotionalFloor_nonneg⟩, hold := h.nonneg
            closed := fun _ => rfl }

theorem shrinks_mutations (h : SoundHold row) (mutations : List ReservationMutation) :
    Shrinks row (mutations.foldl apply row) := by
  induction mutations generalizing row with
  | nil => exact Shrinks.refl h
  | cons mutation mutations ih =>
    have hFirst := shrinks_mutation h mutation
    exact hFirst.trans (ih hFirst.sound)

theorem reservationId_mutations (row : CapitalReservation) (mutations : List ReservationMutation) :
    (mutations.foldl apply row).reservationId = row.reservationId := by
  refine foldl_frame reservationId ?_
  intro held mutation _
  cases mutation with
  | consume =>
    unfold apply CapitalReservation.consume
    dsimp only
    split <;> rfl
  | release | expire => rfl

theorem Shrinks.ofWritten {held : CapitalReservation} (h : Shrinks before held) :
    Shrinks before (writtenRow row held expectedVersion) :=
  { sound := ⟨h.sound.nonneg, h.sound.closed⟩, hold := h.hold, closed := h.closed }

/-! ## One committed write -/

/-- A transaction wrote `after` over the stored row `before`. -/
structure RowWrite (ledger next : CapitalLedger) (before after : CapitalReservation) : Prop where
  found : lookup CapitalReservation.reservationId after.reservationId ledger.rows = some before
  newer : before.version < after.version
  scope : reservationScope after = reservationScope before
  rows : next.rows = store CapitalReservation.reservationId after ledger.rows
  history : next.history = ledger.history ++ [after]

theorem rowWrite_of_update {reservation updated : CapitalReservation}
    (h : updateReservation ledger.rows reservation expectedVersion = .ok (rows, updated)) :
    ∃ stored, lookup reservationId reservation.reservationId ledger.rows =
        some stored ∧ stored.version = expectedVersion ∧
      RowWrite ledger (ledger.committed rows reservation.reservationId) stored
        (writtenRow stored reservation (expectedVersion + 1)) := by
  obtain ⟨stored, hFound, hVersion, rfl, _⟩ := updateReservation_ok h
  have hStored : stored.reservationId = reservation.reservationId := lookup_key hFound
  have hId : (writtenRow stored reservation (expectedVersion + 1)).reservationId =
      reservation.reservationId := hStored
  have hFound' : lookup reservationId
      (writtenRow stored reservation (expectedVersion + 1)).reservationId ledger.rows =
        some stored := by
    rw [hId]
    exact hFound
  refine ⟨stored, hFound, hVersion, ?_⟩
  refine
    { found := hFound'
      newer := ?_
      scope := rfl
      rows := rfl
      history := ?_ }
  · show stored.version < expectedVersion + 1
    omega
  · have hSelf := lookup_store_self hFound'
    rw [hId] at hSelf
    unfold CapitalLedger.committed
    rw [hSelf]
    rfl

theorem RowWrite.ofAccount_eq (h : RowWrite ledger next before after) :
    ofAccount environment accountNo after = ofAccount environment accountNo before := by
  have hScope := h.scope
  simp only [reservationScope, Prod.mk.injEq] at hScope
  unfold ofAccount
  rw [hScope.1, hScope.2.1]

theorem RowWrite.accountHold (h : RowWrite ledger next before after)
    (hKeyed : Keyed reservationId ledger.rows) :
    accountHold environment accountNo next.rows =
      accountHold environment accountNo ledger.rows - heldNotional environment accountNo before +
        heldNotional environment accountNo after := by
  rw [accountHold_eq_sum, accountHold_eq_sum, h.rows]
  exact sum_map_store (heldNotional environment accountNo) hKeyed h.found

theorem heldNotional_of_shrinks (h : Shrinks before after)
    (hAccount : ofAccount environment accountNo after = ofAccount environment accountNo before) :
    heldNotional environment accountNo after ≤ heldNotional environment accountNo before := by
  have hBefore : 0 ≤ before.remainingReservedNotional := h.sound.nonneg.trans h.hold
  unfold heldNotional
  rw [hAccount]
  by_cases hOwned : ofAccount environment accountNo before = true
  · by_cases hOpen : after.isOpen = true
    · have hOpenBefore : before.isOpen = true := by
        by_contra hClosed
        rw [Bool.not_eq_true] at hClosed
        rw [h.closed hClosed] at hOpen
        cases hOpen
      rw [if_pos ⟨hOwned, hOpen⟩, if_pos ⟨hOwned, hOpenBefore⟩]
      exact h.hold
    · rw [if_neg (fun hBoth => hOpen hBoth.2)]
      split
      · exact hBefore
      · exact le_refl _
  · rw [if_neg (fun hBoth => hOwned hBoth.1), if_neg (fun hBoth => hOwned hBoth.1)]

/-! ## The invariant -/

/-- A pair a prepare returned: the prepared row is in the history and the snapshot
shrinks it. -/
def Restorable (environment accountNo : String) (history : List CapitalReservation)
    (pair : CapitalReservation × CapitalReservation) : Prop :=
  pair.1 ∈ history ∧ pair.2.reservationId = pair.1.reservationId ∧
    (ofAccount environment accountNo pair.1 = true → Shrinks pair.1 pair.2)

/-- What every reachable ledger satisfies, seen from one account. -/
structure LedgerInvariant (environment accountNo : String) (ledger : CapitalLedger) : Prop where
  versioned : Versioned CapitalReservation.reservationId CapitalReservation.version
    ledger.rows ledger.history
  sound : ∀ row ∈ ledger.rows, ofAccount environment accountNo row = true → SoundHold row
  prepared : ∀ pair ∈ ledger.prepared, Restorable environment accountNo ledger.history pair

/-- A write of a sound row over the version it came from keeps the invariant; it
may be remembered with that version. -/
theorem LedgerInvariant.write (h : LedgerInvariant environment accountNo ledger)
    (hWrite : RowWrite ledger next before after)
    (hSound : ofAccount environment accountNo before = true → SoundHold after)
    (hPrepared : ∀ pair ∈ next.prepared, pair ∈ ledger.prepared ∨
      pair.1 = after ∧ pair.2.reservationId = after.reservationId ∧
        (ofAccount environment accountNo after = true → Shrinks after pair.2)) :
    LedgerInvariant environment accountNo next := by
  refine { versioned := ?_, sound := ?_, prepared := ?_ }
  · rw [hWrite.rows, hWrite.history]
    exact h.versioned.store hWrite.found hWrite.newer
  · rw [hWrite.rows]
    refine forall_mem_store h.sound fun hAccount => ?_
    rw [hWrite.ofAccount_eq] at hAccount
    exact hSound hAccount
  · intro pair hPair
    rw [hWrite.history]
    rcases hPrepared pair hPair with hOld | ⟨hNew, hId, hShrinks⟩
    · obtain ⟨hLogged, hRest⟩ := h.prepared pair hOld
      exact ⟨List.mem_append_left _ hLogged, hRest⟩
    · unfold Restorable
      rw [hNew]
      exact ⟨List.mem_append_right _ List.mem_cons_self, hId, hShrinks⟩

/-- The transaction relies on the tolerance of a check on the account. -/
def usesTolerance (environment accountNo : String) : CapitalTransaction → Bool
  | .prepare _ request _ =>
    request.environment = environment && request.accountNo = accountNo
  | .activate _ _ request =>
    request.environment = environment && request.accountNo = accountNo
  | _ => false

/-- What a run may hold for an account: its buying power, and the tolerance for
every prepare and activate. -/
def holdBound (buyingPower : ℚ) (steps : Nat) : ℚ := max 0 buyingPower + steps * moneyTolerance

theorem holdBound_succ (buyingPower : ℚ) (steps : Nat) :
    holdBound buyingPower (steps + 1) = holdBound buyingPower steps + moneyTolerance := by
  unfold holdBound
  push_cast
  ring

theorem moneyTolerance_pos : 0 < moneyTolerance := by
  unfold moneyTolerance
  norm_num

theorem le_holdBound (buyingPower : ℚ) (steps : Nat) :
    buyingPower ≤ holdBound buyingPower steps := by
  have hMax := le_max_right 0 buyingPower
  have hSteps : 0 ≤ (steps : ℚ) * moneyTolerance :=
    mul_nonneg (Nat.cast_nonneg steps) moneyTolerance_pos.le
  unfold holdBound
  linarith

/-! ## Each transaction -/

/-- An entry that is inserted fits what the account has left. -/
theorem insertReservationIfAvailable_ok {reservation : CapitalReservation} {buyingPower : ℚ}
    {portfolioRiskSpec : Option PortfolioRiskReservationSpec}
    (h : insertReservationIfAvailable rows reservation buyingPower portfolioRiskSpec =
      .ok written) :
    reservation.reservationId ∉ rows.map reservationId ∧
      written = rows ++ [reservation] ∧
      (0 < reservation.requestedNotional →
        accountHold reservation.environment reservation.accountNo rows +
          reservation.requestedNotional ≤ buyingPower) := by
  unfold insertReservationIfAvailable at h
  by_cases hPositive : 0 < reservation.requestedNotional
  · simp only [hPositive, if_true] at h
    by_cases hShort : buyingPower -
        reservedNotional (activeReservations rows reservation.environment
          reservation.accountNo) < reservation.requestedNotional
    · simp only [hShort, if_true] at h
      cases h
    · simp only [hShort, if_false] at h
      have hInserted : insertReservation rows reservation = .ok written := by
        cases portfolioRiskSpec with
        | none => exact h
        | some =>
          obtain ⟨_, _, hInserted⟩ := bind_eq_ok.mp h
          exact hInserted
      obtain ⟨hFresh, hWritten⟩ := insertReservation_ok hInserted
      refine ⟨hFresh, hWritten, fun _ => ?_⟩
      unfold accountHold
      linarith
  · simp only [hPositive, if_false] at h
    obtain ⟨hFresh, hWritten⟩ := insertReservation_ok h
    exact ⟨hFresh, hWritten, fun hTrue => absurd hTrue hPositive⟩

theorem prepareReservationForReplacement_ok {buyingPower : ℚ}
    {prepared previous : CapitalReservation}
    (h : prepareReservationForReplacement rows originalReservationId request buyingPower
      portfolioRiskSpec = .ok (written, prepared, previous)) :
    lookup reservationId originalReservationId
        (activeReservations rows request.environment request.accountNo) = some previous ∧
      0 < request.notional ∧
      reservedNotional ((activeReservations rows request.environment
          request.accountNo).filter (fun row => row.reservationId ≠ originalReservationId)) +
        request.notional ≤ buyingPower + moneyTolerance ∧
      updateReservation rows (preparedHold previous request) previous.version =
        .ok (written, prepared) := by
  unfold prepareReservationForReplacement at h
  by_cases hRefused : originalReservationId = "" ∨ request.notional ≤ 0 ∨ request.openRisk < 0
  · simp only [hRefused, if_true] at h
    cases h
  simp only [hRefused, if_false] at h
  have hPositive : 0 < request.notional := by
    by_contra hNot
    exact hRefused (Or.inr (Or.inl (not_lt.mp hNot)))
  cases hFound : lookup reservationId originalReservationId
      (activeReservations rows request.environment request.accountNo) with
  | none =>
    simp only [hFound] at h
    cases h
  | some original =>
    simp only [hFound] at h
    by_cases hScope : reservationScope original ≠ request.scope
    · simp only [hScope, ne_eq, not_false_eq_true, if_true] at h
      cases h
    by_cases hShort : buyingPower - reservedNotional
        ((activeReservations rows request.environment request.accountNo).filter
          (fun row => row.reservationId ≠ originalReservationId)) + moneyTolerance <
        request.notional
    · simp only [hScope, hShort, if_false, if_true] at h
      cases h
    simp only [hScope, hShort, if_false] at h
    obtain ⟨_, _, h⟩ := bind_eq_ok.mp h
    obtain ⟨⟨rows', prepared'⟩, hUpdated, h⟩ := bind_eq_ok.mp h
    cases h
    refine ⟨rfl, hPositive, ?_, hUpdated⟩
    linarith

theorem activatePreparedReplacementReservation_ok {activated : CapitalReservation}
    (h : activatePreparedReplacementReservation rows preparedReservationId expectedVersion
      request = .ok (written, activated)) :
    ∃ reservation, lookup reservationId preparedReservationId rows =
        some reservation ∧
      reservation.isOpen = true ∧ reservationScope reservation = request.scope ∧
      0 < request.notional ∧
      request.notional ≤ reservation.remainingReservedNotional + moneyTolerance ∧
      updateReservation rows (activatedHold reservation request) reservation.version =
        .ok (written, activated) := by
  unfold activatePreparedReplacementReservation at h
  cases hFound : lookup reservationId preparedReservationId rows with
  | none =>
    rw [hFound] at h
    cases h
  | some reservation =>
    simp only [hFound] at h
    split at h
    · cases h
    split at h
    · cases h
    rename_i hCurrent hCovered
    simp only [not_or, Bool.not_eq_false, not_not] at hCurrent
    simp only [not_or, not_le, not_lt] at hCovered
    exact ⟨reservation, rfl, hCurrent.1, hCurrent.2.2, hCovered.1, hCovered.2.2.1, h⟩

/-- A restore that succeeds writes the snapshot over the prepared version. -/
theorem restorePreparedReplacementReservation_ok {restored : CapitalReservation}
    (h : restorePreparedReplacementReservation rows preparedReservation previousReservation =
      .ok (written, restored)) :
    updateReservation rows
        { previousReservation with version := preparedReservation.version }
        preparedReservation.version = .ok (written, restored) := by
  unfold restorePreparedReplacementReservation at h
  cases hFound : lookup reservationId preparedReservation.reservationId
      rows with
  | none =>
    rw [hFound] at h
    cases h
  | some current =>
    simp only [hFound] at h
    by_cases hVersion : current.version ≠ preparedReservation.version
    · rw [if_pos hVersion] at h
      cases h
    · rw [if_neg hVersion, not_not.mp hVersion] at h
      exact h

/-! ## Each transaction keeps the bound -/

variable {ledger next : CapitalLedger}

section

variable (h : LedgerInvariant environment accountNo ledger)
include h

theorem LedgerInvariant.shrink (hWrite : RowWrite ledger next before after)
    (hPrepared : next.prepared = ledger.prepared)
    (hShrinks : ofAccount environment accountNo before = true → Shrinks before after) :
    LedgerInvariant environment accountNo next ∧
      accountHold environment accountNo next.rows ≤
        accountHold environment accountNo ledger.rows := by
  refine ⟨h.write hWrite (fun hAccount => (hShrinks hAccount).sound) ?_, ?_⟩
  · intro pair hPair
    rw [hPrepared] at hPair
    exact Or.inl hPair
  rw [hWrite.accountHold h.versioned.keyed]
  have hHeld : heldNotional environment accountNo after ≤
      heldNotional environment accountNo before := by
    by_cases hAccount : ofAccount environment accountNo before = true
    · exact heldNotional_of_shrinks (hShrinks hAccount) hWrite.ofAccount_eq
    · have hAccount' : ¬ ofAccount environment accountNo after = true := by
        rw [hWrite.ofAccount_eq]
        exact hAccount
      unfold heldNotional
      rw [if_neg (fun hBoth => hAccount' hBoth.1), if_neg (fun hBoth => hAccount hBoth.1)]
  linarith

theorem LedgerInvariant.insert
    (hFresh : row.reservationId ∉ ledger.rows.map reservationId)
    (hSound : SoundHold row) :
    LedgerInvariant environment accountNo
        (ledger.committed (ledger.rows ++ [row]) row.reservationId) ∧
      accountHold environment accountNo (ledger.rows ++ [row]) =
        accountHold environment accountNo ledger.rows + heldNotional environment accountNo row := by
  have hLookup : lookup reservationId row.reservationId
      (ledger.rows ++ [row]) = some row := by
    rw [lookup_append, lookup_eq_none_iff.mpr hFresh, Option.none_or]
    simp [lookup]
  have hHistory : (ledger.committed (ledger.rows ++ [row]) row.reservationId).history =
      ledger.history ++ [row] := by
    unfold CapitalLedger.committed
    rw [hLookup]
    rfl
  refine ⟨{ versioned := ?_, sound := ?_, prepared := ?_ }, ?_⟩
  · rw [hHistory]
    exact h.versioned.insert hFresh
  · exact forall_mem_concat h.sound fun _ => hSound
  · intro pair hPair
    obtain ⟨hMem, hRest⟩ := h.prepared pair hPair
    rw [hHistory]
    exact ⟨List.mem_append_left _ hMem, hRest⟩
  · rw [accountHold_eq_sum, accountHold_eq_sum, List.map_append, List.sum_append,
      List.map_singleton, List.sum_singleton]

theorem insert_step {buyingPower : String → String → ℚ} {steps : Nat} {request : EntryRequest}
    {portfolioRiskSpec : Option PortfolioRiskReservationSpec}
    (hBound : accountHold environment accountNo ledger.rows ≤ holdBound (buyingPower environment
      accountNo) steps)
    (hOk : transact buyingPower ledger (.insert request portfolioRiskSpec) = .ok next) :
    LedgerInvariant environment accountNo next ∧
      accountHold environment accountNo next.rows ≤
        holdBound (buyingPower environment accountNo) steps := by
  obtain ⟨rows, hInserted, hNext⟩ := bind_eq_ok.mp hOk
  cases hNext
  obtain ⟨hFresh, rfl, hAvailable⟩ := insertReservationIfAvailable_ok hInserted
  have hSound : SoundHold request.reservation :=
    { nonneg := request.notionalNonneg, closed := fun hClosed => by cases hClosed }
  obtain ⟨hInvariant, hHold⟩ := h.insert hFresh hSound
  refine ⟨hInvariant, ?_⟩
  show accountHold environment accountNo (ledger.rows ++ [request.reservation]) ≤ _
  rw [hHold]
  by_cases hAccount : ofAccount environment accountNo request.reservation = true
  · have hHeld : heldNotional environment accountNo request.reservation = request.notional :=
      if_pos ⟨hAccount, rfl⟩
    simp only [ofAccount, Bool.and_eq_true, decide_eq_true_eq] at hAccount
    have hEnvironment : request.environment = environment := hAccount.1
    have hAccountNo : request.accountNo = accountNo := hAccount.2
    rw [hHeld]
    rcases request.notionalNonneg.lt_or_eq with hPositive | hZero
    · have hFits := hAvailable hPositive
      have hFits' : accountHold environment accountNo ledger.rows + request.notional ≤
          buyingPower environment accountNo := by
        rw [← hEnvironment, ← hAccountNo]
        exact hFits
      exact hFits'.trans (le_holdBound _ _)
    · rw [← hZero, add_zero]
      exact hBound
  · have hHeld : heldNotional environment accountNo request.reservation = 0 :=
      if_neg (fun hBoth => hAccount hBoth.1)
    rw [hHeld, add_zero]
    exact hBound

end

/-- A row that a table's active rows hold is the stored row. -/
theorem lookup_of_active {environment accountNo : String}
    (hKeyed : Keyed reservationId rows)
    (h : lookup reservationId id
      (activeReservations rows environment accountNo) = some row) :
    lookup reservationId id rows = some row ∧
      ofAccount environment accountNo row = true ∧ row.isOpen = true := by
  obtain ⟨hMem, hActive⟩ := List.mem_filter.mp (lookup_mem h)
  rw [← lookup_key h]
  exact ⟨hKeyed.lookup_of_mem hMem, Bool.and_eq_true_iff.mp hActive⟩

/-- The active rows without one of them hold what the account holds but for it. -/
theorem reservedNotional_others (hKeyed : Keyed reservationId rows)
    (h : lookup reservationId id
      (activeReservations rows environment accountNo) = some row) :
    reservedNotional ((activeReservations rows environment accountNo).filter
        (fun other => other.reservationId ≠ id)) =
      accountHold environment accountNo rows - row.remainingReservedNotional := by
  have hSub : List.Sublist (activeReservations rows environment accountNo) rows :=
    List.filter_sublist
  have hActiveKeyed : Keyed reservationId
      (activeReservations rows environment accountNo) := hKeyed.sublist (hSub.map _)
  exact sum_map_filter_ne (·.remainingReservedNotional) hActiveKeyed h

theorem heldNotional_of_not_ofAccount (h : ¬ ofAccount environment accountNo row = true) :
    heldNotional environment accountNo row = 0 :=
  if_neg (fun hBoth => h hBoth.1)

theorem heldNotional_of_open (h : ofAccount environment accountNo row = true)
    (hOpen : row.isOpen = true) :
    heldNotional environment accountNo row = row.remainingReservedNotional :=
  if_pos ⟨h, hOpen⟩

theorem soundHold_of_open (hOpen : row.isOpen = true)
    (hNonneg : 0 ≤ row.remainingReservedNotional) :
    SoundHold row := by
  refine { nonneg := hNonneg, closed := ?_ }
  intro hClosed
  rw [hOpen] at hClosed
  cases hClosed

theorem usesAccount {rowEnvironment rowAccount : String}
    (hRow : ofAccount rowEnvironment rowAccount row = true)
    (hAccount : ofAccount environment accountNo row = true) :
    rowEnvironment = environment ∧ rowAccount = accountNo := by
  simp only [ofAccount, Bool.and_eq_true, decide_eq_true_eq] at hRow hAccount
  exact ⟨hRow.1.symm.trans hAccount.1, hRow.2.symm.trans hAccount.2⟩

theorem holdBound_le_add (buyingPower : ℚ) (steps more : Nat) :
    holdBound buyingPower steps ≤ holdBound buyingPower (steps + more) := by
  have hMore : 0 ≤ (more : ℚ) * moneyTolerance :=
    mul_nonneg (Nat.cast_nonneg more) moneyTolerance_pos.le
  unfold holdBound
  push_cast
  linarith

variable {buyingPower : String → String → ℚ} {steps : Nat}

variable (previous : CapitalReservation)

/-- The reservation a prepare writes over `previous`. -/
def preparedRow (request : ReplacementRequest) : CapitalReservation :=
  writtenRow previous (preparedHold previous request) (previous.version + 1)

@[simp] theorem preparedRow_remaining (request : ReplacementRequest) :
    (preparedRow previous request).remainingReservedNotional =
      max previous.remainingReservedNotional request.notional := rfl

@[simp] theorem preparedRow_isOpen (request : ReplacementRequest) :
    (preparedRow previous request).isOpen = previous.isOpen := rfl

/-- An activate writes the hold of the replacement over an open row. -/
theorem activate_write
    (hOk : transact buyingPower ledger (.activate preparedReservationId expectedVersion request) =
      .ok next) :
    ∃ reservation, reservation.isOpen = true ∧ reservationScope reservation = request.scope ∧
      0 < request.notional ∧
      request.notional ≤ reservation.remainingReservedNotional + moneyTolerance ∧
      RowWrite ledger next reservation (writtenRow reservation (activatedHold reservation request)
        (reservation.version + 1)) ∧ next.prepared = ledger.prepared := by
  obtain ⟨⟨rows, activated⟩, hActivate, hNext⟩ := bind_eq_ok.mp hOk
  cases hNext
  obtain ⟨reservation, hFound, hOpen, hScope, hPositive, hCovered, hUpdate⟩ :=
    activatePreparedReplacementReservation_ok hActivate
  have hKey : (activatedHold reservation request).reservationId = preparedReservationId := by
    show reservation.reservationId = preparedReservationId
    exact lookup_key hFound
  obtain ⟨stored, hStored, _, hWrite⟩ := rowWrite_of_update hUpdate
  rw [hKey] at hStored hWrite
  obtain rfl : reservation = stored := Option.some.inj (hFound.symm.trans hStored)
  exact ⟨reservation, hOpen, hScope, hPositive, hCovered, hWrite, rfl⟩

/-- A prepare writes the transition hold over an active row and remembers it. -/
theorem prepare_write (hKeyed : Keyed reservationId ledger.rows)
    (hOk : transact buyingPower ledger
      (.prepare originalReservationId request portfolioRiskSpec) = .ok next) :
    ∃ previous, lookup reservationId originalReservationId
        (activeReservations ledger.rows request.environment request.accountNo) = some previous ∧
      RowWrite ledger next previous (preparedRow previous request) ∧
      next.prepared = ledger.prepared ++ [(preparedRow previous request, previous)] ∧
      0 < request.notional ∧
      reservedNotional ((activeReservations ledger.rows request.environment
          request.accountNo).filter (fun row => row.reservationId ≠ originalReservationId)) +
        request.notional ≤ buyingPower request.environment request.accountNo +
          moneyTolerance := by
  obtain ⟨⟨rows, prepared, previous⟩, hPrepare, hNext⟩ := bind_eq_ok.mp hOk
  cases hNext
  obtain ⟨hActive, hPositive, hFits, hUpdate⟩ := prepareReservationForReplacement_ok hPrepare
  obtain ⟨hStored, hOwned, hOpen⟩ := lookup_of_active hKeyed hActive
  have hKey : (preparedHold previous request).reservationId = originalReservationId := by
    show previous.reservationId = originalReservationId
    exact lookup_key hStored
  obtain ⟨stored, hFound, _, hWrite⟩ := rowWrite_of_update hUpdate
  rw [hKey] at hFound hWrite
  obtain rfl : previous = stored := Option.some.inj (hStored.symm.trans hFound)
  obtain ⟨_, _, _, _, hPrepared⟩ := updateReservation_ok hUpdate
  have hSame : prepared = preparedRow previous request := hPrepared
  rw [hSame]
  exact ⟨previous, hActive,
    { found := hWrite.found, newer := hWrite.newer, scope := hWrite.scope
      rows := hWrite.rows, history := hWrite.history }, rfl, hPositive, hFits⟩

section

variable (h : LedgerInvariant environment accountNo ledger)
  (hBound : accountHold environment accountNo ledger.rows ≤ holdBound (buyingPower environment
    accountNo) steps)
include h hBound

theorem prepare_step
    (hOk : transact buyingPower ledger (.prepare originalReservationId request portfolioRiskSpec) =
      .ok next) :
    LedgerInvariant environment accountNo next ∧
      accountHold environment accountNo next.rows ≤
        holdBound (buyingPower environment accountNo)
          (steps + (usesTolerance environment accountNo
            (.prepare originalReservationId request portfolioRiskSpec)).toNat) := by
  obtain ⟨previous, hActive, hWrite, hPrepared, hPositive, hFits⟩ :=
    prepare_write h.versioned.keyed hOk
  obtain ⟨hStored, hOwned, hOpen⟩ := lookup_of_active h.versioned.keyed hActive
  have hSound : SoundHold (preparedRow previous request) := by
    refine soundHold_of_open hOpen ?_
    rw [preparedRow_remaining]
    exact hPositive.le.trans (le_max_right _ _)
  refine ⟨h.write hWrite (fun _ => hSound) ?_, ?_⟩
  · intro pair hPair
    rw [hPrepared] at hPair
    rcases List.mem_append.mp hPair with hOld | hNew
    · exact Or.inl hOld
    · rw [List.mem_singleton.mp hNew]
      refine Or.inr ⟨rfl, rfl, fun hAccount => ?_⟩
      have hOwner : ofAccount environment accountNo previous = true := hAccount
      refine
        { sound := h.sound previous (lookup_mem hStored) hOwner
          hold := le_max_left _ _
          closed := ?_ }
      intro hClosed
      rw [preparedRow_isOpen, hOpen] at hClosed
      cases hClosed
  · rw [hWrite.accountHold h.versioned.keyed]
    by_cases hAccount : ofAccount environment accountNo previous = true
    · obtain ⟨rfl, rfl⟩ := usesAccount hOwned hAccount
      have hSteps : (usesTolerance request.environment request.accountNo
          (.prepare originalReservationId request portfolioRiskSpec)).toNat = 1 := by
        simp [usesTolerance]
      rw [hSteps, holdBound_succ, heldNotional_of_open hOwned hOpen,
        heldNotional_of_open (hWrite.ofAccount_eq.trans hOwned) hOpen, preparedRow_remaining]
      rw [reservedNotional_others h.versioned.keyed hActive] at hFits
      have hPower := le_holdBound (buyingPower request.environment request.accountNo) steps
      have hTolerance := moneyTolerance_pos
      rcases max_choice previous.remainingReservedNotional request.notional with hMax | hMax
      all_goals
        rw [hMax]
        linarith
    · rw [heldNotional_of_not_ofAccount hAccount,
        heldNotional_of_not_ofAccount (by rwa [hWrite.ofAccount_eq])]
      have hMono := holdBound_le_add (buyingPower environment accountNo) steps
        (usesTolerance environment accountNo
            (.prepare originalReservationId request portfolioRiskSpec)).toNat
      linarith

theorem activate_step
    (hOk : transact buyingPower ledger (.activate preparedReservationId expectedVersion request) =
      .ok next) :
    LedgerInvariant environment accountNo next ∧
      accountHold environment accountNo next.rows ≤
        holdBound (buyingPower environment accountNo)
          (steps + (usesTolerance environment accountNo
            (.activate preparedReservationId expectedVersion request)).toNat) := by
  obtain ⟨reservation, hOpen, hScope, hPositive, hCovered, hWrite, hPrepared⟩ := activate_write hOk
  have hSound : SoundHold (writtenRow reservation (activatedHold reservation request)
      (reservation.version + 1)) := soundHold_of_open rfl hPositive.le
  refine ⟨h.write hWrite (fun _ => hSound) (fun _ hPair => Or.inl (hPrepared ▸ hPair)), ?_⟩
  rw [hWrite.accountHold h.versioned.keyed]
  by_cases hAccount : ofAccount environment accountNo reservation = true
  · have hOwned : ofAccount request.environment request.accountNo reservation = true := by
      simp only [reservationScope, ReplacementRequest.scope, Prod.mk.injEq] at hScope
      simp [ofAccount, hScope.1, hScope.2.1]
    obtain ⟨rfl, rfl⟩ := usesAccount hOwned hAccount
    have hSteps : (usesTolerance request.environment request.accountNo
        (.activate preparedReservationId expectedVersion request)).toNat = 1 := by
      simp [usesTolerance]
    have hHeld : heldNotional request.environment request.accountNo
        (writtenRow reservation (activatedHold reservation request)
          (reservation.version + 1)) = request.notional :=
      heldNotional_of_open (hWrite.ofAccount_eq.trans hOwned) rfl
    rw [hSteps, holdBound_succ, heldNotional_of_open hOwned hOpen, hHeld]
    linarith
  · rw [heldNotional_of_not_ofAccount hAccount,
      heldNotional_of_not_ofAccount (by rwa [hWrite.ofAccount_eq])]
    have hMono := holdBound_le_add (buyingPower environment accountNo) steps
      (usesTolerance environment accountNo
          (.activate preparedReservationId expectedVersion request)).toNat
    linarith

end

/-- The row a restore writes over the prepared one. -/
def restoredRow (prepared previous : CapitalReservation) : CapitalReservation :=
  writtenRow prepared { previous with version := prepared.version } (prepared.version + 1)

/-- The version check makes the prepared row the one a restore replaces. -/
theorem restore_write
    (hVersioned : Versioned reservationId version
      ledger.rows ledger.history) (hLogged : preparedReservation ∈ ledger.history)
    (hId : previousReservation.reservationId = preparedReservation.reservationId)
    (hOk : transact buyingPower ledger
      (.restore preparedReservation previousReservation) = .ok next) :
    RowWrite ledger next preparedReservation
        (restoredRow preparedReservation previousReservation) ∧
      next.prepared = ledger.prepared := by
  obtain ⟨⟨rows, restored⟩, hRestore, hNext⟩ := bind_eq_ok.mp hOk
  cases hNext
  obtain ⟨stored, hStored, hVersion, hWrite⟩ :=
    rowWrite_of_update (restorePreparedReplacementReservation_ok hRestore)
  rw [hId] at hStored
  obtain rfl : stored = preparedReservation := hVersioned.eq_of_version hLogged hStored hVersion
  exact ⟨hWrite, rfl⟩

section

variable (h : LedgerInvariant environment accountNo ledger)
include h

/-- The version check names the stored row; a restore shrinks it. -/
theorem restore_shrinks (hIssued : (preparedReservation, previousReservation) ∈ ledger.prepared)
    (hOk : transact buyingPower ledger (.restore preparedReservation previousReservation) =
      .ok next) :
    next.prepared = ledger.prepared ∧ ∃ after, RowWrite ledger next preparedReservation after ∧
      (ofAccount environment accountNo preparedReservation = true →
        Shrinks preparedReservation after) := by
  obtain ⟨hLogged, hId, hShrinks⟩ := h.prepared _ hIssued
  obtain ⟨hWrite, hPrepared⟩ := restore_write h.versioned hLogged hId hOk
  exact ⟨hPrepared, _, hWrite, fun hAccount => (hShrinks hAccount).ofWritten⟩

theorem write_shrinks {held : CapitalReservation} {mutations : List ReservationMutation}
    (hIssued : held ∈ ledger.history)
    (hOk : transact buyingPower ledger (.write held mutations) = .ok next) :
    next.prepared = ledger.prepared ∧ ∃ after, RowWrite ledger next held after ∧
      (ofAccount environment accountNo held = true → Shrinks held after) := by
  obtain ⟨⟨rows, updated⟩, hUpdate, hNext⟩ := bind_eq_ok.mp hOk
  cases hNext
  obtain ⟨stored, hStored, hVersion, hWrite⟩ := rowWrite_of_update hUpdate
  rw [reservationId_mutations] at hStored hWrite
  obtain rfl : stored = held := h.versioned.eq_of_version hIssued hStored hVersion
  refine ⟨rfl, _, hWrite, fun hAccount => ?_⟩
  exact (shrinks_mutations (h.sound stored (lookup_mem hStored) hAccount) mutations).ofWritten

/-- Every transaction keeps the invariant; only a prepare or an activate of the
account may use the tolerance. -/
theorem transact_step {transaction : CapitalTransaction}
    (hBound : accountHold environment accountNo ledger.rows ≤ holdBound (buyingPower environment
      accountNo) steps)
    (hIssuable : Issuable ledger transaction)
    (hOk : transact buyingPower ledger transaction = .ok next) :
    LedgerInvariant environment accountNo next ∧
      accountHold environment accountNo next.rows ≤
        holdBound (buyingPower environment accountNo)
          (steps + (usesTolerance environment accountNo transaction).toNat) := by
  cases transaction with
  | insert => exact insert_step h hBound hOk
  | prepare =>
    exact prepare_step h hBound hOk
  | activate =>
    exact activate_step h hBound hOk
  | restore =>
    obtain ⟨hPrepared, _, hWrite, hShrinks⟩ := restore_shrinks h hIssuable hOk
    exact (h.shrink hWrite hPrepared hShrinks).imp id hBound.trans'
  | write =>
    obtain ⟨hPrepared, _, hWrite, hShrinks⟩ := write_shrinks h hIssuable hOk
    exact (h.shrink hWrite hPrepared hShrinks).imp id hBound.trans'

end

/-! ## Runs -/

/-- A table the account has no active reservation in, as the processes find it:
every closed row of the account has given its capital back. -/
structure NoActiveReservation (environment accountNo : String)
    (rows : List CapitalReservation) : Prop where
  keyed : Keyed CapitalReservation.reservationId rows
  inactive : activeReservations rows environment accountNo = []
  sound : ∀ row ∈ rows, ofAccount environment accountNo row = true → SoundHold row

/-- The ledger before the first transaction: any process may already hold any row. -/
def CapitalLedger.start (rows : List CapitalReservation) : CapitalLedger :=
  { rows := rows, history := rows, prepared := [] }

theorem NoActiveReservation.invariant (h : NoActiveReservation environment accountNo rows) :
    LedgerInvariant environment accountNo (CapitalLedger.start rows) :=
  { versioned := Versioned.start h.keyed
    sound := h.sound
    prepared := fun pair hPair => by cases hPair }

/-- Every closed row of the account is still there, closed, and holds no more. -/
def ClosedStay (environment accountNo : String) (rows later : List CapitalReservation) : Prop :=
  ∀ row ∈ rows, ofAccount environment accountNo row = true → row.isOpen = false →
    ∃ kept ∈ later, kept.reservationId = row.reservationId ∧
      ofAccount environment accountNo kept = true ∧ Shrinks row kept

theorem RowWrite.keepsClosed (hWrite : RowWrite ledger next before after)
    (h : LedgerInvariant environment accountNo ledger)
    (hShrinks : ofAccount environment accountNo before = true → before.isOpen = false →
      Shrinks before after) : ClosedStay environment accountNo ledger.rows next.rows := by
  intro row hRow hAccount hClosed
  rw [hWrite.rows]
  by_cases hSame : row.reservationId = after.reservationId
  · obtain rfl : row = before := h.versioned.keyed.eq_of_mem hRow (lookup_mem hWrite.found)
      (hSame.trans (lookup_key hWrite.found).symm)
    exact ⟨after, mem_store_self hRow hSame, hSame.symm, hWrite.ofAccount_eq.trans hAccount,
      hShrinks hAccount hClosed⟩
  · exact ⟨row, mem_store_of_ne hRow hSame, rfl, hAccount, .refl (h.sound row hRow hAccount)⟩

/-- Only open rows are prepared or activated, and a prepared row that was closed since is not
restored. -/
theorem transact_keepsClosed {transaction : CapitalTransaction}
    (h : LedgerInvariant environment accountNo ledger) (hIssuable : Issuable ledger transaction)
    (hOk : transact buyingPower ledger transaction = .ok next) :
    ClosedStay environment accountNo ledger.rows next.rows := by
  cases transaction with
  | insert =>
    obtain ⟨rows, hInserted, hNext⟩ := bind_eq_ok.mp hOk
    cases hNext
    obtain ⟨_, rfl, _⟩ := insertReservationIfAvailable_ok hInserted
    exact fun row hRow hAccount _ =>
      ⟨row, List.mem_append_left _ hRow, rfl, hAccount, .refl (h.sound row hRow hAccount)⟩
  | prepare =>
    obtain ⟨previous, hActive, hWrite, _⟩ := prepare_write h.versioned.keyed hOk
    obtain ⟨_, _, hOpen⟩ := lookup_of_active h.versioned.keyed hActive
    exact hWrite.keepsClosed h fun _ hClosed => by simp [hOpen] at hClosed
  | activate =>
    obtain ⟨_, hOpen, _, _, _, hWrite, _⟩ := activate_write hOk
    exact hWrite.keepsClosed h fun _ hClosed => by simp [hOpen] at hClosed
  | restore =>
    obtain ⟨_, _, hWrite, hShrinks⟩ := restore_shrinks h hIssuable hOk
    exact hWrite.keepsClosed h fun hAccount _ => hShrinks hAccount
  | write =>
    obtain ⟨_, _, hWrite, hShrinks⟩ := write_shrinks h hIssuable hOk
    exact hWrite.keepsClosed h fun hAccount _ => hShrinks hAccount

theorem capitalRun_invariant {start : CapitalLedger} {transactions : List CapitalTransaction}
    (hStart : LedgerInvariant environment accountNo start)
    (hNone : accountHold environment accountNo start.rows = 0)
    (hRun : CapitalRun buyingPower start transactions ledger) :
    LedgerInvariant environment accountNo ledger ∧
      accountHold environment accountNo ledger.rows ≤
        holdBound (buyingPower environment accountNo)
          (transactions.filter (usesTolerance environment accountNo)).length := by
  induction hRun with
  | start =>
    refine ⟨hStart, ?_⟩
    rw [hNone]
    unfold holdBound
    simp
  | @commit transactions ledger next transaction _ hIssuable hOk ih =>
    obtain ⟨hInvariant, hBound⟩ := ih
    have hSteps : ((transactions ++ [transaction]).filter
        (usesTolerance environment accountNo)).length =
        (transactions.filter (usesTolerance environment accountNo)).length +
          (usesTolerance environment accountNo transaction).toNat := by
      rw [List.filter_append, List.length_append]
      cases hUses : usesTolerance environment accountNo transaction <;> simp [hUses]
    rw [hSteps]
    exact transact_step hInvariant hBound hIssuable hOk

/-- Account capital is never oversubscribed. -/
theorem capitalRun_accountHold_le {rows : List CapitalReservation}
    {transactions : List CapitalTransaction}
    (hStart : NoActiveReservation environment accountNo rows)
    (hRun : CapitalRun buyingPower (CapitalLedger.start rows) transactions ledger) :
    accountHold environment accountNo ledger.rows ≤
      max 0 (buyingPower environment accountNo) +
        (transactions.filter (usesTolerance environment accountNo)).length *
          moneyTolerance := by
  have hNone : accountHold environment accountNo rows = 0 := by
    unfold accountHold
    rw [hStart.inactive]
    rfl
  exact (capitalRun_invariant hStart.invariant hNone hRun).2

theorem CapitalRun.trans {start middle : CapitalLedger} {first second : List CapitalTransaction}
    (h : CapitalRun buyingPower start first middle)
    (hRest : CapitalRun buyingPower middle second ledger) :
    CapitalRun buyingPower start (first ++ second) ledger := by
  induction hRest with
  | start => exact (List.append_nil first).symm ▸ h
  | commit _ hIssuable hOk ih => exact List.append_assoc first _ _ ▸ ih.commit hIssuable hOk

/-- A reservation that was closed never holds capital again, whatever is committed after. -/
theorem closed_reservations_stay_closed {rows : List CapitalReservation} {later : CapitalLedger}
    {transactions more : List CapitalTransaction}
    (hStart : NoActiveReservation environment accountNo rows)
    (hRun : CapitalRun buyingPower (CapitalLedger.start rows) transactions ledger)
    (hRest : CapitalRun buyingPower ledger more later) :
    ClosedStay environment accountNo ledger.rows later.rows := by
  have hNone : accountHold environment accountNo rows = 0 := by
    unfold accountHold
    rw [hStart.inactive]
    rfl
  induction hRest with
  | start =>
    have h := (capitalRun_invariant hStart.invariant hNone hRun).1
    exact fun row hRow hAccount _ =>
      ⟨row, hRow, rfl, hAccount, .refl (h.sound row hRow hAccount)⟩
  | commit hBefore hIssuable hOk ih =>
    have h := (capitalRun_invariant hStart.invariant hNone (hRun.trans hBefore)).1
    intro row hRow hAccount hClosed
    obtain ⟨middle, hMiddle, hId, hOwned, hShrinks⟩ := ih row hRow hAccount hClosed
    obtain ⟨kept, hKept, hSame, hKeptAccount, hMore⟩ :=
      transact_keepsClosed h hIssuable hOk middle hMiddle hOwned (hShrinks.closed hClosed)
    exact ⟨kept, hKept, hSame.trans hId, hKeptAccount, hShrinks.trans hMore⟩

end Account

/-- An entry of ten shares at sixty and its replacement at seventy. -/
def sampleEntry : EntryRequest :=
  { reservationId := "R1", environment := "PROD", accountNo := "1", symbol := "AAPL"
    attemptGroupId := "G1", notional := 600, openRisk := 0, notionalNonneg := by norm_num }

def sampleReplacement : ReplacementRequest :=
  { environment := "PROD", accountNo := "1", symbol := "AAPL", notional := 700, openRisk := 0 }

def sampleRiskSpec : PortfolioRiskReservationSpec :=
  { environment := "PROD", accountNo := "1", symbol := "AAPL", proposedNotionalUsd := 700
    proposedOpenRiskUsd := 0, accountEquityUsd := 1000, maxSimultaneousPositions := 5
    maxTotalOpenRiskFraction := 1, maxGrossNotionalFraction := 1
    maxSinglePositionNotionalFraction := 1 }

theorem capitalRun_sample :
    ∃ ledger, CapitalRun (fun _ _ => 1000) (CapitalLedger.start [])
        [.insert sampleEntry none, .prepare "R1" sampleReplacement sampleRiskSpec] ledger ∧
      accountHold "PROD" "1" ledger.rows = 700 ∧
      accountHold "PROD" "1" ledger.rows ≤ max 0 1000 + 1 * moneyTolerance := by
  let power : String → String → ℚ := fun _ _ => 1000
  have hHeld : (do
      let inserted ← transact power (CapitalLedger.start []) (.insert sampleEntry none)
      let prepared ← transact power inserted
        (.prepare "R1" sampleReplacement sampleRiskSpec)
      pure (accountHold "PROD" "1" prepared.rows)) = .ok 700 := by
    decide +kernel
  obtain ⟨inserted, hInsert, hRest⟩ := bind_eq_ok.mp hHeld
  obtain ⟨prepared, hPrepare, hTotal⟩ := bind_eq_ok.mp hRest
  have hFirst : CapitalRun power (CapitalLedger.start []) [.insert sampleEntry none] inserted :=
    CapitalRun.start.commit trivial hInsert
  have hRun : CapitalRun power (CapitalLedger.start []) [.insert sampleEntry none,
      .prepare "R1" sampleReplacement sampleRiskSpec] prepared :=
    hFirst.commit trivial hPrepare
  have hNone : NoActiveReservation "PROD" "1" [] :=
    { keyed := by decide, inactive := rfl, sound := fun row hRow => by cases hRow }
  refine ⟨prepared, hRun, Except.ok.inj hTotal, ?_⟩
  have hLe := capitalRun_accountHold_le hNone hRun
  have hOnce : (([.insert sampleEntry none, .prepare "R1" sampleReplacement sampleRiskSpec] :
      List CapitalTransaction).filter (usesTolerance "PROD" "1")).length = 1 := by
    decide +kernel
  rw [hOnce, Nat.cast_one] at hLe
  exact hLe

/-- The entry is released before another one is inserted. -/
theorem closed_reservations_stay_closed_released :
    ∃ ledger later : CapitalLedger, (∃ row ∈ ledger.rows, row.isOpen = false) ∧
      ClosedStay "PROD" "1" ledger.rows later.rows := by
  let power : String → String → ℚ := fun _ _ => 1000
  have hAll : (do
      let inserted ← transact power (CapitalLedger.start []) (.insert sampleEntry none)
      let released ← transact power inserted (.write sampleEntry.reservation [.release 0])
      let _ ← transact power released (.insert { sampleEntry with reservationId := "R2" } none)
      pure (decide (sampleEntry.reservation ∈ inserted.history ∧
        ∃ row ∈ released.rows, row.isOpen = false))) = .ok true := by
    decide +kernel
  obtain ⟨inserted, hInsert, hRest⟩ := bind_eq_ok.mp hAll
  obtain ⟨released, hRelease, hRest⟩ := bind_eq_ok.mp hRest
  obtain ⟨later, hLater, hHolds⟩ := bind_eq_ok.mp hRest
  obtain ⟨hMem, hClosed⟩ := of_decide_eq_true (Except.ok.inj hHolds)
  have hIssued : Issuable inserted (.write sampleEntry.reservation [.release 0]) := hMem
  have hInserts : ∀ ledger request, Issuable ledger (.insert request none) := fun _ _ => trivial
  have hNone : NoActiveReservation "PROD" "1" [] :=
    { keyed := by decide, inactive := rfl, sound := fun row hRow => by cases hRow }
  have hRun := CapitalRun.start.commit (hInserts _ _) hInsert
  exact ⟨released, later, hClosed, closed_reservations_stay_closed hNone
    (hRun.commit hIssued hRelease) (CapitalRun.start.commit (hInserts _ _) hLater)⟩

end QuantApp.Services
