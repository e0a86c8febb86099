import QuantApp.Services.OrderReconciliation

/-!
# Direct evidence strengthens an order

What the broker says about one order is folded into its ledger order.  The fills only grow, within
the request, and a snapshot that was folded in brings nothing the second time.  A closed order
stays closed unless a late row of a live order, or a short fill, is folded into it.
-/

namespace QuantApp.Services

open Core

section Evidence

variable {order other : LedgerOrder} {snapshot : LedgerSnapshot} {terminal assumeFull : Bool}

/-! ## One snapshot -/

@[simp] theorem withSnapshotIdentity_quantityRequested (order : LedgerOrder)
    (snapshot : LedgerSnapshot) :
    (withSnapshotIdentity order snapshot).quantityRequested = order.quantityRequested := rfl

/-- The fills that a snapshot reports, within the request. -/
def reportedFilled (order : LedgerOrder) (snapshot : LedgerSnapshot) (assumeFull : Bool) : Int :=
  let clamped := max 0 (min snapshot.filledQuantity order.requested)
  if assumeFull ∧ clamped ≤ 0 then order.requested else clamped

theorem reportedFilled_within (h : WellFilled order) (snapshot : LedgerSnapshot)
    (assumeFull : Bool) :
    0 ≤ reportedFilled order snapshot assumeFull ∧
      reportedFilled order snapshot assumeFull ≤ order.quantityRequested := by
  have hRequest := h.nonneg.trans h.within
  unfold reportedFilled
  rw [h.requested]
  dsimp only
  split <;> omega

/-- The fills after a snapshot. -/
def mergedFills (order : LedgerOrder) (snapshot : LedgerSnapshot) (assumeFull : Bool) : Int :=
  max order.knownFilled (reportedFilled order snapshot assumeFull)

/-- What is left of a request after a snapshot. -/
def leftAfter (requested filled : Int) (snapshot : LedgerSnapshot) (terminal : Bool) : Int :=
  if terminal then (if 0 < filled then max 0 (requested - filled) else 0)
  else if max 0 snapshot.remainingQuantity ≤ 0 then max 0 (requested - filled)
  else min (max 0 (requested - filled)) (max 0 snapshot.remainingQuantity)

def priceAfter (price : ℚ) (snapshot : LedgerSnapshot) : ℚ :=
  if 0 < snapshot.avgFillPrice then snapshot.avgFillPrice else price

theorem applyBrokerFillProgress_eq (order : LedgerOrder) (snapshot : LedgerSnapshot)
    (terminal assumeFull : Bool) :
    applyBrokerFillProgress order snapshot terminal assumeFull =
      { order with
        filledQuantity := mergedFills order snapshot assumeFull
        remainingQuantity :=
          leftAfter order.requested (mergedFills order snapshot assumeFull) snapshot terminal
        avgFillPrice := priceAfter order.avgFillPrice snapshot } := rfl

theorem mergedFills_eq (h : WellFilled order) (snapshot : LedgerSnapshot) (assumeFull : Bool) :
    mergedFills order snapshot assumeFull =
      max order.filledQuantity (reportedFilled order snapshot assumeFull) := by
  unfold mergedFills
  rw [h.knownFilled]

theorem filled_le_mergedFills (h : WellFilled order) (snapshot : LedgerSnapshot)
    (assumeFull : Bool) : order.filledQuantity ≤ mergedFills order snapshot assumeFull := by
  rw [mergedFills_eq h]
  exact le_max_left _ _

theorem wellFilled_applyBrokerFillProgress (h : WellFilled order) (snapshot : LedgerSnapshot)
    (terminal assumeFull : Bool) :
    WellFilled (applyBrokerFillProgress order snapshot terminal assumeFull) where
  nonneg := h.nonneg.trans (filled_le_mergedFills h snapshot assumeFull)
  within := by
    show mergedFills order snapshot assumeFull ≤ order.quantityRequested
    rw [mergedFills_eq h]
    exact max_le h.within (reportedFilled_within h snapshot assumeFull).2

/-- One snapshot: the request stands, the fills grow and stay within it. -/
structure FillsGrow (before after : LedgerOrder) : Prop where
  requested : after.quantityRequested = before.quantityRequested
  grows : before.filledQuantity ≤ after.filledQuantity
  wellFilled : WellFilled after

theorem fillsGrow_withSnapshotStatus (h : WellFilled order) (snapshot : LedgerSnapshot) :
    FillsGrow order (withSnapshotStatus order snapshot) := by
  have hProgress : ∀ terminal assumeFull status, FillsGrow order
      { applyBrokerFillProgress order snapshot terminal assumeFull with status := status } :=
    fun terminal assumeFull status =>
      { requested := rfl
        grows := filled_le_mergedFills h snapshot assumeFull
        wellFilled := { wellFilled_applyBrokerFillProgress h snapshot terminal assumeFull with } }
  have hSame : FillsGrow order order := ⟨rfl, le_refl _, h⟩
  unfold withSnapshotStatus
  cases snapshot.status with
  | filled => exact hProgress true true _
  | partiallyFilled | working | accepted | cancelRequested => exact hProgress false false _
  | cancelled | rejected | expired => exact hProgress true false _
  | unknown | created | submitting | unknownSubmissionState => exact hSame

theorem fillsGrow_reconcile (h : WellFilled order) (snapshot : LedgerSnapshot) :
    FillsGrow order (reconcileOrderWithBrokerSnapshot order snapshot) := by
  have hIdentity : WellFilled (withSnapshotIdentity order snapshot) := { h with }
  have hStatus := fillsGrow_withSnapshotStatus hIdentity snapshot
  exact
    { requested := hStatus.requested
      grows := hStatus.grows
      wellFilled := { hStatus.wellFilled with } }

/-! ## A snapshot folded in twice -/

theorem priceAfter_again (price : ℚ) (snapshot : LedgerSnapshot) :
    priceAfter (priceAfter price snapshot) snapshot = priceAfter price snapshot := by
  unfold priceAfter
  split <;> rfl

/-- An order that has what a snapshot brings gets only the remainder from it. -/
theorem applyBrokerFillProgress_again (h : WellFilled order)
    (hRequested : other.quantityRequested = order.quantityRequested)
    (hFilled : other.filledQuantity = mergedFills order snapshot assumeFull)
    (hPrice : other.avgFillPrice = priceAfter order.avgFillPrice snapshot) :
    applyBrokerFillProgress other snapshot terminal assumeFull =
      { other with
        remainingQuantity :=
          leftAfter order.requested other.filledQuantity snapshot terminal } := by
  have hOther : WellFilled other := by
    constructor
    · rw [hFilled]
      exact h.nonneg.trans (filled_le_mergedFills h snapshot assumeFull)
    · rw [hFilled, hRequested]
      exact (wellFilled_applyBrokerFillProgress h snapshot terminal assumeFull).within
  have hSameRequest : other.requested = order.requested := by
    rw [hOther.requested, h.requested, hRequested]
  have hReported : reportedFilled other snapshot assumeFull =
      reportedFilled order snapshot assumeFull := by
    unfold reportedFilled
    rw [hSameRequest]
  have hMerged : mergedFills other snapshot assumeFull = other.filledQuantity := by
    rw [mergedFills_eq hOther, hReported, hFilled, mergedFills_eq h, max_assoc, max_self]
  have hSamePrice : priceAfter other.avgFillPrice snapshot = other.avgFillPrice := by
    rw [hPrice, priceAfter_again]
  rw [applyBrokerFillProgress_eq, hMerged, hSamePrice, hSameRequest]

/-- The remainder of a live order is not negative, so a missing one is zero. -/
theorem leftAfter_eq_of_nonpos {requested filled : Int}
    (h : leftAfter requested filled snapshot false ≤ 0) :
    leftAfter requested filled snapshot false = max 0 (requested - filled) := by
  unfold leftAfter at h ⊢
  simp only [Bool.false_eq_true, if_false] at h ⊢
  split at h
  next hNone => rw [if_pos hNone]
  next hSome =>
    rw [if_neg hSome]
    omega

theorem withSnapshotDefaults_remainingQuantity
    (h : order.status ∈ [OrderStatus.accepted, .working] → order.remainingQuantity ≤ 0 →
      order.remainingQuantity = max 0 (order.quantityRequested - order.filledQuantity)) :
    (withSnapshotDefaults order snapshot).remainingQuantity = order.remainingQuantity := by
  show (if _ then _ else _) = _
  split
  next hMissing => exact (h hMissing.2 hMissing.1).symm
  next => rfl

/-- The limit and the remainder are not missing the second time. -/
theorem withSnapshotDefaults_again :
    withSnapshotDefaults (withSnapshotDefaults order snapshot) snapshot =
      withSnapshotDefaults order snapshot := by
  have hLimit : (if 0 < snapshot.limitPrice ∧ (withSnapshotDefaults order snapshot).limitPrice ≤ 0
      then snapshot.limitPrice else (withSnapshotDefaults order snapshot).limitPrice) =
        (withSnapshotDefaults order snapshot).limitPrice := by
    split
    next hMissing =>
      obtain ⟨hGiven, hNone⟩ := hMissing
      have hKept : (withSnapshotDefaults order snapshot).limitPrice = order.limitPrice := by
        show (if _ then _ else _) = _
        split
        next hTaken =>
          have hTakes : (withSnapshotDefaults order snapshot).limitPrice = snapshot.limitPrice :=
            if_pos hTaken
          rw [hTakes] at hNone
          exact absurd hGiven (not_lt.mpr hNone)
        next => rfl
      have hTaken : 0 < snapshot.limitPrice ∧ order.limitPrice ≤ 0 := ⟨hGiven, hKept ▸ hNone⟩
      exact (if_pos hTaken).symm
    next => rfl
  have hRemaining : (withSnapshotDefaults (withSnapshotDefaults order snapshot)
      snapshot).remainingQuantity = (withSnapshotDefaults order snapshot).remainingQuantity := by
    refine withSnapshotDefaults_remainingQuantity (fun hStatus hNone => ?_)
    have hMissing : order.remainingQuantity ≤ 0 := by
      by_contra hGiven
      have hKept : (withSnapshotDefaults order snapshot).remainingQuantity =
          order.remainingQuantity := if_neg (fun hBoth => hGiven hBoth.1)
      exact hGiven (hKept ▸ hNone)
    exact if_pos ⟨hMissing, hStatus⟩
  show { withSnapshotDefaults order snapshot with
      limitPrice := if 0 < snapshot.limitPrice ∧
        (withSnapshotDefaults order snapshot).limitPrice ≤ 0 then snapshot.limitPrice
        else (withSnapshotDefaults order snapshot).limitPrice
      remainingQuantity := (withSnapshotDefaults (withSnapshotDefaults order snapshot)
        snapshot).remainingQuantity } = withSnapshotDefaults order snapshot
  rw [hLimit, hRemaining]

/-- `given or stored`, as the identifiers are taken. -/
def orMissing (given stored : String) : String := if given ≠ "" ∧ stored = "" then given else stored

theorem orMissing_again (given stored : String) :
    orMissing given (orMissing given stored) = orMissing given stored := by
  by_cases hTaken : given ≠ "" ∧ stored = ""
  · have hGiven : orMissing given stored = given := if_pos hTaken
    rw [hGiven]
    exact if_neg (fun hBoth => hBoth.1 hBoth.2)
  · have hStored : orMissing given stored = stored := if_neg hTaken
    rw [hStored]
    exact hStored

theorem withSnapshotIdentity_eq_self
    (hClient : order.clientOrderId = orMissing snapshot.clientOrderId other.clientOrderId)
    (hBroker : order.brokerOrderId = orMissing snapshot.brokerOrderId other.brokerOrderId)
    (hRaw : order.rawStatusResponse =
      if snapshot.rawResponse ≠ [] then some (.order snapshot) else other.rawStatusResponse) :
    withSnapshotIdentity order snapshot = order := by
  have hClientAgain : orMissing snapshot.clientOrderId order.clientOrderId =
      order.clientOrderId := by
    rw [hClient, orMissing_again]
  have hBrokerAgain : orMissing snapshot.brokerOrderId order.brokerOrderId =
      order.brokerOrderId := by
    rw [hBroker, orMissing_again]
  have hRawAgain : (if snapshot.rawResponse ≠ [] then some (.order snapshot)
      else order.rawStatusResponse) = order.rawStatusResponse := by
    rw [hRaw]
    split <;> rfl
  show { order with
      clientOrderId := orMissing snapshot.clientOrderId order.clientOrderId
      brokerOrderId := orMissing snapshot.brokerOrderId order.brokerOrderId
      rawStatusResponse := if snapshot.rawResponse ≠ [] then some (.order snapshot)
        else order.rawStatusResponse } = order
  rw [hClientAgain, hBrokerAgain, hRawAgain]

theorem withSnapshotStatus_identity (order : LedgerOrder) (snapshot : LedgerSnapshot) :
    (withSnapshotStatus order snapshot).clientOrderId = order.clientOrderId ∧
      (withSnapshotStatus order snapshot).brokerOrderId = order.brokerOrderId ∧
        (withSnapshotStatus order snapshot).rawStatusResponse = order.rawStatusResponse := by
  unfold withSnapshotStatus
  cases snapshot.status <;> exact ⟨rfl, rfl, rfl⟩

section

variable (h : WellFilled order)
include h

/-- The progress of a snapshot that is folded in again changes nothing. -/
theorem applyBrokerFillProgress_self {status : OrderStatus}
    (hLive : status ∈ [OrderStatus.accepted, .working] → terminal = false) :
    applyBrokerFillProgress
        (withSnapshotDefaults
          { applyBrokerFillProgress order snapshot terminal assumeFull with status := status }
          snapshot) snapshot terminal assumeFull =
      withSnapshotDefaults
        { applyBrokerFillProgress order snapshot terminal assumeFull with status := status }
        snapshot := by
  have hRemaining : (withSnapshotDefaults
      { applyBrokerFillProgress order snapshot terminal assumeFull with status := status }
      snapshot).remainingQuantity =
        leftAfter order.requested (mergedFills order snapshot assumeFull) snapshot terminal := by
    refine withSnapshotDefaults_remainingQuantity (fun hStatus hNone => ?_)
    have hTerminal := hLive hStatus
    subst hTerminal
    exact (leftAfter_eq_of_nonpos hNone).trans
      (congrArg (fun requested => max 0 (requested - mergedFills order snapshot assumeFull))
        h.requested)
  refine Eq.trans (applyBrokerFillProgress_again h ?_ ?_ ?_) ?_
  · rfl
  · rfl
  · rfl
  show { withSnapshotDefaults
      { applyBrokerFillProgress order snapshot terminal assumeFull with status := status } snapshot
    with remainingQuantity :=
      leftAfter order.requested (mergedFills order snapshot assumeFull) snapshot terminal } = _
  rw [← hRemaining]

theorem withSnapshotStatus_again_of_progress (terminal assumeFull : Bool)
    (status : Int → Int → OrderStatus)
    (hShape : ∀ found, withSnapshotStatus found snapshot =
      { applyBrokerFillProgress found snapshot terminal assumeFull with
        status := status found.requested
          (applyBrokerFillProgress found snapshot terminal assumeFull).filledQuantity })
    (hLive : ∀ requested filled, status requested filled ∈ [OrderStatus.accepted, .working] →
      terminal = false) :
    withSnapshotStatus (withSnapshotDefaults (withSnapshotStatus order snapshot) snapshot)
        snapshot =
      withSnapshotDefaults (withSnapshotStatus order snapshot) snapshot := by
  rw [hShape order, hShape (withSnapshotDefaults _ snapshot),
    applyBrokerFillProgress_self h (hLive _ _)]
  rfl

/-- The fills and the status of a snapshot that is folded in again change nothing. -/
theorem withSnapshotStatus_again (snapshot : LedgerSnapshot) :
    withSnapshotStatus (withSnapshotDefaults (withSnapshotStatus order snapshot) snapshot)
        snapshot =
      withSnapshotDefaults (withSnapshotStatus order snapshot) snapshot := by
  cases hStatus : snapshot.status with
  | filled =>
    refine withSnapshotStatus_again_of_progress h true true
      (fun requested filled => if requested ≤ filled then .filled else .partiallyFilled) ?_ ?_
    · intro found
      unfold withSnapshotStatus
      rw [hStatus]
    · intro requested filled
      split <;> decide
  | partiallyFilled =>
    refine withSnapshotStatus_again_of_progress h false false
      (fun _ filled => if 0 < filled then .partiallyFilled else .working) ?_ (fun _ _ _ => rfl)
    intro found
    unfold withSnapshotStatus
    rw [hStatus]
  | working | accepted =>
    refine withSnapshotStatus_again_of_progress h false false
      (fun _ filled => if 0 < filled then .partiallyFilled else snapshot.status) ?_
      (fun _ _ _ => rfl)
    intro found
    unfold withSnapshotStatus
    rw [hStatus]
  | cancelRequested =>
    refine withSnapshotStatus_again_of_progress h false false (fun _ _ => .cancelRequested) ?_
      (fun _ _ _ => rfl)
    intro found
    unfold withSnapshotStatus
    rw [hStatus]
  | cancelled | rejected | expired =>
    refine withSnapshotStatus_again_of_progress h true false (fun _ _ => snapshot.status) ?_ ?_
    · intro found
      unfold withSnapshotStatus
      rw [hStatus]
    · intro _ _
      rw [hStatus]
      decide
  | unknown | created | submitting | unknownSubmissionState =>
    have hSilent : ∀ found, withSnapshotStatus found snapshot = found := by
      intro found
      unfold withSnapshotStatus
      rw [hStatus]
    rw [hSilent, hSilent]

/-- A snapshot that is folded in twice in a row is folded in once. -/
theorem reconcileOrderWithBrokerSnapshot_again (snapshot : LedgerSnapshot) :
    reconcileOrderWithBrokerSnapshot (reconcileOrderWithBrokerSnapshot order snapshot) snapshot =
      reconcileOrderWithBrokerSnapshot order snapshot := by
  have hIdentified : WellFilled (withSnapshotIdentity order snapshot) := { h with }
  have hStatus := withSnapshotStatus_again hIdentified snapshot
  obtain ⟨hClient, hBroker, hRaw⟩ :=
    withSnapshotStatus_identity (withSnapshotIdentity order snapshot) snapshot
  have hIdentity : withSnapshotIdentity (reconcileOrderWithBrokerSnapshot order snapshot) snapshot =
      reconcileOrderWithBrokerSnapshot order snapshot :=
    withSnapshotIdentity_eq_self hClient hBroker hRaw
  show withSnapshotDefaults (withSnapshotStatus (withSnapshotIdentity
    (reconcileOrderWithBrokerSnapshot order snapshot) snapshot) snapshot) snapshot = _
  rw [hIdentity]
  show withSnapshotDefaults (withSnapshotStatus (withSnapshotDefaults (withSnapshotStatus
    (withSnapshotIdentity order snapshot) snapshot) snapshot) snapshot) snapshot = _
  rw [hStatus, withSnapshotDefaults_again]
  rfl

/-! ## Closed orders -/

/-- A snapshot that leaves a closed order closed: not one of a live order, and no fill short of
the request. -/
def KeepsClosed (order : LedgerOrder) (snapshot : LedgerSnapshot) : Prop :=
  match snapshot.status with
  | .working | .accepted | .partiallyFilled | .cancelRequested => False
  | .filled =>
    snapshot.filledQuantity ≤ 0 ∨ order.quantityRequested ≤ order.filledQuantity ∨
      order.quantityRequested ≤ snapshot.filledQuantity
  | _ => True

theorem keepsClosed_iff (hClosed : isClosedStatus order.status = true) :
    isClosedStatus (reconcileOrderWithBrokerSnapshot order snapshot).status = true ↔
      KeepsClosed order snapshot := by
  show isClosedStatus (withSnapshotStatus (withSnapshotIdentity order snapshot) snapshot).status =
    true ↔ _
  have hIdentified : WellFilled (withSnapshotIdentity order snapshot) := { h with }
  unfold withSnapshotStatus KeepsClosed
  cases hStatus : snapshot.status with
  | filled =>
    have hMerged := mergedFills_eq hIdentified snapshot true
    have hNonneg := h.nonneg
    have hWithin := h.within
    have hRequested := hIdentified.requested
    have hReported : reportedFilled (withSnapshotIdentity order snapshot) snapshot true =
        if max 0 (min snapshot.filledQuantity order.quantityRequested) ≤ 0 then
          order.quantityRequested
        else max 0 (min snapshot.filledQuantity order.quantityRequested) := by
      unfold reportedFilled
      rw [hRequested]
      simp
    have hFull : (withSnapshotIdentity order snapshot).requested ≤
        mergedFills (withSnapshotIdentity order snapshot) snapshot true ↔
          snapshot.filledQuantity ≤ 0 ∨ order.quantityRequested ≤ order.filledQuantity ∨
            order.quantityRequested ≤ snapshot.filledQuantity := by
      rw [hMerged, hReported, hRequested]
      dsimp only [withSnapshotIdentity]
      split <;> omega
    refine Iff.trans ?_ hFull
    show isClosedStatus (if (withSnapshotIdentity order snapshot).requested ≤
      mergedFills (withSnapshotIdentity order snapshot) snapshot true then OrderStatus.filled
      else .partiallyFilled) = true ↔ _
    split
    next hReached => exact iff_of_true rfl hReached
    next hShort => exact iff_of_false (by decide) hShort
  | partiallyFilled =>
    refine iff_of_false ?_ id
    dsimp only
    split <;> decide
  | working | accepted =>
    refine iff_of_false ?_ id
    dsimp only
    split <;> simp [isClosedStatus]
  | cancelRequested => exact iff_of_false Bool.false_ne_true id
  | cancelled | rejected | expired => exact iff_of_true rfl trivial
  | unknown | created | submitting | unknownSubmissionState => exact iff_of_true hClosed trivial

end

/-! ## Sequences of snapshots -/

/-- Every snapshot strengthens the order: the fills grow within the request, the snapshot brings
nothing when it is folded in again, and a closed order stays closed. -/
def Strengthens (order : LedgerOrder) : List LedgerSnapshot → Prop
  | [] => True
  | snapshot :: rest =>
    let next := reconcileOrderWithBrokerSnapshot order snapshot
    FillsGrow order next ∧ reconcileOrderWithBrokerSnapshot next snapshot = next ∧
      (isClosedStatus order.status = true → isClosedStatus next.status = true) ∧
        Strengthens next rest

/-- No snapshot of a live order and no fill short of the request meets a closed order. -/
def NoLateRow (order : LedgerOrder) : List LedgerSnapshot → Prop
  | [] => True
  | snapshot :: rest =>
    (isClosedStatus order.status = true → KeepsClosed order snapshot) ∧
      NoLateRow (reconcileOrderWithBrokerSnapshot order snapshot) rest

theorem direct_evidence_strengthens_iff (h : WellFilled order) (snapshots : List LedgerSnapshot) :
    Strengthens order snapshots ↔ NoLateRow order snapshots := by
  induction snapshots generalizing order with
  | nil => exact Iff.rfl
  | cons snapshot rest ih =>
    have hGrow := fillsGrow_reconcile h snapshot
    have hAgain := reconcileOrderWithBrokerSnapshot_again h snapshot
    have hRest := ih hGrow.wellFilled
    constructor
    · rintro ⟨_, _, hClosed, hLater⟩
      exact ⟨fun hWasClosed => (keepsClosed_iff h hWasClosed).mp (hClosed hWasClosed),
        hRest.mp hLater⟩
    · rintro ⟨hKeeps, hLater⟩
      exact ⟨hGrow, hAgain, fun hWasClosed => (keepsClosed_iff h hWasClosed).mpr
        (hKeeps hWasClosed), hRest.mpr hLater⟩

end Evidence

/-! ## A late row -/

def ledgerOrder (status : OrderStatus) (filled : Int) : LedgerOrder :=
  { clientOrderId := "c1"
    environment := "PROD"
    accountNo := "1"
    symbol := "AAPL"
    side := .buy
    intent := .entry
    quantityRequested := 10
    limitPrice := 100
    status := status
    filledQuantity := filled
    submittedAt := "2026-01-02T15:00:00+00:00" }

def ledgerSnapshot (status : OrderStatus) (filled : Int) : LedgerSnapshot :=
  { symbol := "AAPL", status := status, filledQuantity := filled, checkedAt := isoformat 0 }

/-- A partial fill, the full fill and the same again strengthen a working order. -/
theorem direct_evidence_strengthens_filled :
    Strengthens (ledgerOrder .working 0)
      [ledgerSnapshot .partiallyFilled 4, ledgerSnapshot .filled 10,
        ledgerSnapshot .filled 10] := by
  refine (direct_evidence_strengthens_iff ⟨by decide, by decide⟩ _).mpr ?_
  refine ⟨(fun hNever => nomatch hNever), ?_⟩
  refine ⟨fun hClosed => absurd hClosed (by decide +kernel), ?_⟩
  exact ⟨fun _ => Or.inr (Or.inl (by decide +kernel)), trivial⟩

/-- A query that was answered before the cancellation is folded in after it. -/
theorem late_row_reopens_order :
    WellFilled (ledgerOrder .working 0) ∧ ¬ Strengthens (ledgerOrder .working 0)
      [ledgerSnapshot .cancelled 0, ledgerSnapshot .working 0] := by
  refine ⟨⟨by decide, by decide⟩, ?_⟩
  intro hStrengthens
  have hLate := hStrengthens.2.2.2.2.2.1
  have hReopened : ¬ isClosedStatus (reconcileOrderWithBrokerSnapshot
      (reconcileOrderWithBrokerSnapshot (ledgerOrder .working 0) (ledgerSnapshot .cancelled 0))
      (ledgerSnapshot .working 0)).status = true := by
    decide +kernel
  exact hReopened (hLate (by decide +kernel))

end QuantApp.Services
