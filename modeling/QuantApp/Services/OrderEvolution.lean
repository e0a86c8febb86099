import QuantApp.Services.OrderEvidence
import QuantApp.Verified.ExceptFold

/-!
# How broker evidence changes an order

Each function of `OrderEvidence` is inverted once here.  Identity and request
of an order never change (`immutablePart`).  The status and recovery state
follow an automaton that does not look at quantities (`Lifecycle.observe`);
the filled quantity is a running maximum; and an exact row raises only when it
advances the status of a record whose quantities do not fit
(`applyExactOrderSnapshot_ok_iff`).
-/

namespace QuantApp.Services

open Core Verified
open Relation.ReflTransGen (refl single)

variable {order applied moved a b : ExecutionOrderRecord} {target : ExecutionOrderStatus}
  {row : BrokerOrderStatusSnapshot} {rows : List BrokerOrderStatusSnapshot}
  {recovery : OrderRecoveryState} {status : OrderStatus} {through : List ExecutionOrderStatus}
  {now : IsoText} {runtime : Runtime} {config : ExecutionConfig} {snapshot : AccountBrokerSnapshot}

/-! ## What never changes -/

/-- The order with everything broker evidence may change erased. -/
def immutablePart (order : ExecutionOrderRecord) : ExecutionOrderRecord :=
  { order with
    submissionStartedAt := none
    acknowledgedAt := none
    status := .prepared
    filledQuantity := 0
    remainingQuantity := 0
    averageFillPrice := 0
    lastBrokerSeenAt := none
    lastReconciledAt := none
    absenceCount := 0
    lastAbsenceSnapshotId := ""
    lastAbsenceObservedAt := none
    lastAbsenceSessionDate := none
    lastAbsenceBrokerOrderId := ""
    lastAbsenceHoldingQuantity := none
    recoveryState := .none_
    recoveryCandidateBrokerOrderIds := [] }

/-- Two versions of one order. -/
def SameOrder (before after : ExecutionOrderRecord) : Prop :=
  immutablePart before = immutablePart after

namespace SameOrder

variable {a b c : ExecutionOrderRecord}

@[refl] theorem refl (a : ExecutionOrderRecord) : SameOrder a a := rfl

theorem trans (hab : SameOrder a b) (hbc : SameOrder b c) : SameOrder a c := Eq.trans hab hbc

variable (h : SameOrder a b)
include h

theorem symm : SameOrder b a := Eq.symm h

theorem clientOrderId : b.clientOrderId = a.clientOrderId :=
  (congrArg ExecutionOrderRecord.clientOrderId h).symm

theorem brokerOrderId : b.brokerOrderId = a.brokerOrderId :=
  (congrArg ExecutionOrderRecord.brokerOrderId h).symm

theorem brokerIdentityStatus : b.brokerIdentityStatus = a.brokerIdentityStatus :=
  (congrArg ExecutionOrderRecord.brokerIdentityStatus h).symm

theorem submittedQuantity : b.submittedQuantity = a.submittedQuantity :=
  (congrArg ExecutionOrderRecord.submittedQuantity h).symm

theorem side : b.side = a.side := (congrArg ExecutionOrderRecord.side h).symm

theorem intent : b.intent = a.intent := (congrArg ExecutionOrderRecord.intent h).symm

theorem submittedLimitPrice : b.submittedLimitPrice = a.submittedLimitPrice :=
  (congrArg ExecutionOrderRecord.submittedLimitPrice h).symm

theorem capitalReservationId : b.capitalReservationId = a.capitalReservationId :=
  (congrArg ExecutionOrderRecord.capitalReservationId h).symm

theorem orderKey : orderKey b = orderKey a := by
  exact (congrArg Services.orderKey h).symm

theorem hasExactId : hasExactId b = hasExactId a := by
  unfold Services.hasExactId
  rw [h.brokerIdentityStatus, h.brokerOrderId]

end SameOrder

theorem sameOrder_mergeFillEvidence (order : ExecutionOrderRecord)
    (row : BrokerOrderStatusSnapshot) : SameOrder order (mergeFillEvidence order row) := rfl

/-! ## Status transitions of an order with exact identity -/

/-- An order with exact identity keeps it, whatever status a row moves it to. -/
theorem transitioned_of_exact (hIdentity : order.brokerIdentityStatus = .exact_)
    (hTarget : target ≠ .cancelledLocally) (now : IsoText) :
    transitioned order target now =
      { order with
        submissionStartedAt := if target = .submitting then some now else order.submissionStartedAt
        acknowledgedAt := if target = .acknowledged then some now else order.acknowledgedAt
        status := target } := by
  simp [transitioned, hIdentity, hTarget]

theorem applyStatusTransition_eq_ok {updated : ExecutionOrderRecord}
    (hIdentity : order.brokerIdentityStatus = .exact_) :
    applyStatusTransition order target none now = .ok updated ↔
      target ∈ allowedStatusTransitions order.status ∧
        updated = transitioned order target now ∧ updated.Consistent := by
  unfold applyStatusTransition
  by_cases hAllowed : target ∈ allowedStatusTransitions order.status
  · rw [if_neg (not_not.mpr hAllowed)]
    have hIdentified : transitionIdentity order target none = .ok order := by
      simp [transitionIdentity, hIdentity, bind, Except.bind, pure, Except.pure]
    simp only [hIdentified, bind_eq_ok, Except.ok.injEq, exists_eq_left']
    constructor
    · rintro ⟨_, hValid, hUpdated⟩
      cases hUpdated
      exact ⟨hAllowed, rfl, (validateConsistency_eq_ok_iff _).mp hValid⟩
    · rintro ⟨_, rfl, hConsistent⟩
      exact ⟨(), (validateConsistency_eq_ok_iff _).mpr hConsistent, rfl⟩
  · rw [if_pos hAllowed]
    simp [hAllowed]

/-! ## Quantities apart from the rest -/

/-- What `validate_consistency` asks of a record besides
`filled_quantity + remaining_quantity <= submitted_quantity`. -/
structure SoundRecord (order : ExecutionOrderRecord) : Prop where
  identity : order.brokerIdentityStatus ∈ legalIdentityStatuses order.status
  noBrokerOrder : order.brokerIdentityStatus = .noBrokerOrderConfirmed → order.brokerOrderId = ""
  applicationPermissions : order.origin = .application → order.adoptionPermissions = []
  adoptedFrom : order.origin = .userAdopted → order.adoptedFromExternalOrderId ≠ ""
  submittedNonneg : 0 ≤ order.submittedQuantity
  filledNonneg : 0 ≤ order.filledQuantity
  remainingNonneg : 0 ≤ order.remainingQuantity
  attempt : 1 ≤ order.attemptNumber
  epoch : 0 ≤ order.leaseEpoch

/-- Fills and remainder together fit the submitted quantity. -/
def QuantitiesFit (order : ExecutionOrderRecord) : Prop :=
  order.filledQuantity + order.remainingQuantity ≤ order.submittedQuantity

instance (order : ExecutionOrderRecord) : Decidable (QuantitiesFit order) :=
  inferInstanceAs (Decidable (_ ≤ _))

theorem consistent_iff (order : ExecutionOrderRecord) :
    order.Consistent ↔ SoundRecord order ∧ QuantitiesFit order := by
  constructor
  · intro h
    exact ⟨{ h with }, h.fillsFit⟩
  · rintro ⟨hSound, hFit⟩
    exact { hSound with fillsFit := hFit }

/-- Soundness survives any change of status to one that is legal for an exact
identity, and any change of quantities to nonnegative ones. -/
theorem SoundRecord.of_same {before after : ExecutionOrderRecord} (h : SoundRecord before)
    (hSame : SameOrder before after)
    (hIdentity : after.brokerIdentityStatus ∈ legalIdentityStatuses after.status)
    (hFilled : 0 ≤ after.filledQuantity) (hRemaining : 0 ≤ after.remainingQuantity) :
    SoundRecord after := by
  have hOrigin : after.origin = before.origin := (congrArg ExecutionOrderRecord.origin hSame).symm
  have hPermissions : after.adoptionPermissions = before.adoptionPermissions :=
    (congrArg ExecutionOrderRecord.adoptionPermissions hSame).symm
  have hAdopted : after.adoptedFromExternalOrderId = before.adoptedFromExternalOrderId :=
    (congrArg ExecutionOrderRecord.adoptedFromExternalOrderId hSame).symm
  have hAttempt : after.attemptNumber = before.attemptNumber :=
    (congrArg ExecutionOrderRecord.attemptNumber hSame).symm
  have hEpoch : after.leaseEpoch = before.leaseEpoch :=
    (congrArg ExecutionOrderRecord.leaseEpoch hSame).symm
  exact
    { identity := hIdentity
      noBrokerOrder := by
        rw [hSame.brokerIdentityStatus, hSame.brokerOrderId]
        exact h.noBrokerOrder
      applicationPermissions := by rw [hOrigin, hPermissions]; exact h.applicationPermissions
      adoptedFrom := by rw [hOrigin, hAdopted]; exact h.adoptedFrom
      submittedNonneg := by rw [hSame.submittedQuantity]; exact h.submittedNonneg
      filledNonneg := hFilled
      remainingNonneg := hRemaining
      attempt := by rw [hAttempt]; exact h.attempt
      epoch := by rw [hEpoch]; exact h.epoch }

/-- Merged fill evidence is sound: both quantities stay nonnegative. -/
theorem soundRecord_mergeFillEvidence (h : SoundRecord order) (row : BrokerOrderStatusSnapshot) :
    SoundRecord (mergeFillEvidence order row) := by
  refine h.of_same (sameOrder_mergeFillEvidence order row) h.identity ?_ ?_
  · exact le_trans h.filledNonneg (le_max_left _ _)
  · unfold mergeFillEvidence
    dsimp only
    split
    all_goals exact le_max_left _ _

/-! ## The status automaton -/

/-- The status and recovery state of an order. -/
structure Lifecycle where
  status : ExecutionOrderStatus
  recovery : OrderRecoveryState
  deriving Repr

def lifecycleOf (order : ExecutionOrderRecord) : Lifecycle :=
  { status := order.status, recovery := order.recoveryState }

/-- What an exact row does to the status and recovery state. -/
def Lifecycle.observe (current : Lifecycle) (row : BrokerOrderStatusSnapshot) : Lifecycle :=
  match snapshotStatus row.status with
  | none =>
    { current with
      recovery := nextRecoveryState current.recovery .manualInterventionRequired }
  | some target =>
    match statusMove current.status current.recovery target with
    | .contradiction =>
      { current with
        recovery := nextRecoveryState current.recovery .manualInterventionRequired }
    | .keep =>
      { current with
        recovery := settledRecovery current.recovery target
          (preservesAmbiguousCancel current.status current.recovery target) }
    | .advance _ =>
      { status := target
        recovery := settledRecovery current.recovery target false }

/-- The row advances the status, so the record is validated. -/
def Lifecycle.advances (current : Lifecycle) (row : BrokerOrderStatusSnapshot) : Bool :=
  match snapshotStatus row.status with
  | none => false
  | some target =>
    match statusMove current.status current.recovery target with
    | .advance _ => true
    | _ => false

/-- The filled quantity after a row. -/
def mergedFilled (filled : Int) (row : BrokerOrderStatusSnapshot) : Int :=
  max filled row.filledQuantity

/-- The remaining quantity after a row, for an order of `submitted` shares with
`filled` of them filled. -/
def mergedRemaining (submitted filled : Int) (row : BrokerOrderStatusSnapshot) : Int :=
  if row.remainingQuantity ≠ 0 ∨ row.status = .filled then max 0 row.remainingQuantity
  else max 0 (submitted - filled)

/-- The average fill price after a row; a row without one keeps the last. -/
def mergedAverage (average : ℚ) (row : BrokerOrderStatusSnapshot) : ℚ :=
  if row.avgFillPrice ≠ 0 then row.avgFillPrice else average

theorem snapshotStatus_legal (h : snapshotStatus status = some target) :
    .exact_ ∈ legalIdentityStatuses target ∧ target ≠ .cancelledLocally := by
  cases status <;> simp only [snapshotStatus, Option.some.injEq, reduceCtorEq] at h <;>
    subst h <;> decide

/-- An advance goes along edges of the transition table and ends at the target. -/
theorem statusMove_advance {status : ExecutionOrderStatus}
    (h : statusMove status recovery target = .advance through) :
    (through = [target] ∧ target ∈ allowedStatusTransitions status) ∨
      (through = [.cancelPending, target] ∧ target = .cancelled ∧
        .cancelPending ∈ allowedStatusTransitions status) := by
  unfold statusMove at h
  split at h
  · cases h
  split at h
  · rename_i hAllowed
    cases h
    exact Or.inl ⟨rfl, hAllowed⟩
  split at h
  · rename_i hCancel
    cases h
    exact Or.inr ⟨by rw [hCancel.1], hCancel.1, hCancel.2⟩
  · cases h

theorem Lifecycle.observe_reachable (current : Lifecycle) (row : BrokerOrderStatusSnapshot) :
    StatusReachable current.status (current.observe row).status := by
  unfold Lifecycle.observe
  split
  · exact refl
  split
  · exact refl
  · exact refl
  · rename_i target _ through hMove
    rcases statusMove_advance hMove with ⟨_, hEdge⟩ | ⟨_, rfl, hEdge⟩
    · exact single hEdge
    · have hCancel : ExecutionOrderStatus.cancelled ∈ allowedStatusTransitions .cancelPending :=
        by decide
      exact (single hEdge).tail hCancel

/-- The transitions of one advance succeed exactly when the quantities fit, and
then only the status and the acknowledgement time change. -/
theorem applyStatusTransitions_eq_ok (hTarget : snapshotStatus status = some target)
    (hIdentity : order.brokerIdentityStatus = .exact_)
    (hMove : statusMove order.status recovery target = .advance through)
    (h : applyStatusTransitions now order through = .ok moved) :
    SameOrder order moved ∧ moved.status = target ∧
      moved.filledQuantity = order.filledQuantity ∧
      moved.remainingQuantity = order.remainingQuantity ∧
      moved.averageFillPrice = order.averageFillPrice ∧
      moved.recoveryState = order.recoveryState ∧ moved.Consistent := by
  have hLegal := (snapshotStatus_legal hTarget).2
  rcases statusMove_advance hMove with ⟨rfl, _⟩ | ⟨rfl, rfl, _⟩
  · obtain ⟨first, hFirst, hRest⟩ := foldlM_cons_ok.mp h
    cases hRest
    obtain ⟨_, rfl, hConsistent⟩ := (applyStatusTransition_eq_ok hIdentity).mp hFirst
    rw [transitioned_of_exact hIdentity hLegal] at hConsistent ⊢
    exact ⟨rfl, rfl, rfl, rfl, rfl, rfl, hConsistent⟩
  · obtain ⟨first, hFirst, hRest⟩ := foldlM_cons_ok.mp h
    obtain ⟨second, hSecond, hNil⟩ := foldlM_cons_ok.mp hRest
    cases hNil
    obtain ⟨_, rfl, _⟩ := (applyStatusTransition_eq_ok hIdentity).mp hFirst
    rw [transitioned_of_exact hIdentity (by decide)] at hSecond
    obtain ⟨_, rfl, hConsistent⟩ := (applyStatusTransition_eq_ok (by exact hIdentity)).mp hSecond
    rw [transitioned_of_exact (by exact hIdentity) (by decide)] at hConsistent ⊢
    exact ⟨rfl, rfl, rfl, rfl, rfl, rfl, hConsistent⟩

theorem applyStatusTransitions_succeeds (now : IsoText)
    (hTarget : snapshotStatus status = some target)
    (hIdentity : order.brokerIdentityStatus = .exact_)
    (hMove : statusMove order.status recovery target = .advance through)
    (hSound : SoundRecord order) (hFit : QuantitiesFit order) :
    ∃ moved, applyStatusTransitions now order through = .ok moved := by
  have hConsistentAt : ∀ (record : ExecutionOrderRecord) (next : ExecutionOrderStatus),
      record.brokerIdentityStatus = .exact_ → SoundRecord record → QuantitiesFit record →
      .exact_ ∈ legalIdentityStatuses next → next ≠ .cancelledLocally →
      (transitioned record next now).Consistent := by
    intro record next hExact hRecord hRecordFit hLegal hLocal
    rw [transitioned_of_exact hExact hLocal]
    refine (consistent_iff _).mpr ⟨hRecord.of_same rfl ?_ hRecord.filledNonneg
      hRecord.remainingNonneg, hRecordFit⟩
    rw [hExact]
    exact hLegal
  have hLegal := snapshotStatus_legal hTarget
  rcases statusMove_advance hMove with ⟨rfl, hEdge⟩ | ⟨rfl, rfl, hEdge⟩
  · refine ⟨transitioned order target now, foldlM_cons_ok.mpr ⟨_, ?_, rfl⟩⟩
    exact (applyStatusTransition_eq_ok hIdentity).mpr
      ⟨hEdge, rfl, hConsistentAt order target hIdentity hSound hFit hLegal.1 hLegal.2⟩
  · have hPending : (transitioned order .cancelPending now).Consistent :=
      hConsistentAt order .cancelPending hIdentity hSound hFit (by decide) (by decide)
    have hPendingExact : (transitioned order .cancelPending now).brokerIdentityStatus =
        .exact_ := by
      rw [transitioned_of_exact hIdentity (by decide)]
      exact hIdentity
    have hPendingSound := ((consistent_iff _).mp hPending).1
    have hPendingFit := ((consistent_iff _).mp hPending).2
    have hFirst : applyStatusTransition order .cancelPending none now =
        .ok (transitioned order .cancelPending now) :=
      (applyStatusTransition_eq_ok hIdentity).mpr ⟨hEdge, rfl, hPending⟩
    have hEdge' : .cancelled ∈
        allowedStatusTransitions (transitioned order .cancelPending now).status := by
      rw [transitioned_of_exact hIdentity (by decide)]
      simp [allowedStatusTransitions]
    have hSecond : applyStatusTransition (transitioned order .cancelPending now) .cancelled
        none now = .ok (transitioned (transitioned order .cancelPending now) .cancelled now) :=
      (applyStatusTransition_eq_ok hPendingExact).mpr
        ⟨hEdge', rfl, hConsistentAt _ .cancelled hPendingExact hPendingSound hPendingFit
          (by decide) (by decide)⟩
    exact ⟨_, foldlM_cons_ok.mpr ⟨_, hFirst, foldlM_cons_ok.mpr ⟨_, hSecond, rfl⟩⟩⟩

/-! ## One exact row -/

/-- What `_apply_exact_order_snapshot` leaves of an order with exact identity. -/
structure RowEffect (order : ExecutionOrderRecord) (row : BrokerOrderStatusSnapshot)
    (applied : ExecutionOrderRecord) : Prop where
  same : SameOrder order applied
  lifecycle : lifecycleOf applied = (lifecycleOf order).observe row
  filled : applied.filledQuantity = mergedFilled order.filledQuantity row
  remaining : applied.remainingQuantity =
    mergedRemaining order.submittedQuantity applied.filledQuantity row
  average : applied.averageFillPrice = mergedAverage order.averageFillPrice row
  validated : (lifecycleOf order).advances row = true → QuantitiesFit applied

private theorem RowEffect.stamped (h : RowEffect order row moved) (config : ExecutionConfig)
    (before : ExecutionOrderRecord) (checkedAt : IsoText) :
    RowEffect order row (stampExactOrderObservationIfDue config moved before checkedAt) := by
  unfold stampExactOrderObservationIfDue
  generalize observationDue config moved before checkedAt = due
  exact
    { h with }

/-- A row that does not advance the status changes the quantities and at most
the recovery state. -/
private theorem rowEffect_of_recovery
    (hObserve : (lifecycleOf order).observe row = { status := order.status, recovery := recovery })
    (hAdvances : (lifecycleOf order).advances row = false) :
    RowEffect order row { mergeFillEvidence order row with recoveryState := recovery } :=
  { same := rfl
    lifecycle := hObserve.symm
    filled := rfl
    remaining := rfl
    average := rfl
    validated := by simp [hAdvances] }

theorem applyExactOrderSnapshot_effect {contradiction : Option String}
    (hIdentity : order.brokerIdentityStatus = .exact_)
    (h : applyExactOrderSnapshot runtime order row = .ok (applied, contradiction)) :
    RowEffect order row applied := by
  unfold applyExactOrderSnapshot at h
  cases hTarget : snapshotStatus row.status with
  | none =>
    simp only [hTarget, Except.ok.injEq, Prod.mk.injEq] at h
    rw [← h.1]
    exact (rowEffect_of_recovery (by simp only [Lifecycle.observe, hTarget]; rfl)
      (by simp only [Lifecycle.advances, hTarget])).stamped _ _ _
  | some target =>
    simp only [hTarget] at h
    change (match statusMove order.status order.recoveryState target with
      | .contradiction => _
      | .keep => _
      | .advance targets => _) = _ at h
    cases hMove : statusMove order.status order.recoveryState target with
    | keep | contradiction =>
      simp only [hMove, Except.ok.injEq, Prod.mk.injEq] at h
      rw [← h.1]
      exact (rowEffect_of_recovery
        (by simp only [Lifecycle.observe, lifecycleOf, hTarget, hMove]; rfl)
        (by simp only [Lifecycle.advances, lifecycleOf, hTarget, hMove])).stamped _ _ _
    | advance =>
      simp only [hMove] at h
      obtain ⟨moved, hMoved, hApplied⟩ := bind_eq_ok.mp h
      simp only [pure, Except.pure, Except.ok.injEq, Prod.mk.injEq] at hApplied
      rw [← hApplied.1]
      obtain ⟨hSame, hStatus, hFilled, hRemaining, hAverage, hRecovery, hConsistent⟩ :=
        applyStatusTransitions_eq_ok hTarget (by exact hIdentity) (by exact hMove) hMoved
      have hFit : QuantitiesFit moved := hConsistent.fillsFit
      have hSettled : RowEffect order row (settleRecovery moved target false) :=
        { same := (sameOrder_mergeFillEvidence order row).trans hSame
          lifecycle := by
            have hObserve : (lifecycleOf order).observe row =
                { status := target
                  recovery := settledRecovery order.recoveryState target false } := by
              simp only [Lifecycle.observe, lifecycleOf, hTarget, hMove]
            rw [hObserve]
            simp only [lifecycleOf, settleRecovery, hStatus, hRecovery]
            rfl
          filled := hFilled
          remaining := by
            show moved.remainingQuantity = mergedRemaining _ moved.filledQuantity row
            rw [hRemaining, hFilled]
            rfl
          average := hAverage
          validated := fun _ => hFit }
      exact hSettled.stamped _ _ _

/-- A row of a sound record raises only when it advances the status of quantities
that do not fit. -/
theorem applyExactOrderSnapshot_succeeds (hIdentity : order.brokerIdentityStatus = .exact_)
    (hSound : SoundRecord order)
    (hFit : (lifecycleOf order).advances row = true → QuantitiesFit (mergeFillEvidence order row)) :
    ∃ applied contradiction,
      applyExactOrderSnapshot runtime order row = .ok (applied, contradiction) := by
  unfold applyExactOrderSnapshot
  cases hTarget : snapshotStatus row.status with
  | none => exact ⟨_, _, rfl⟩
  | some target =>
    dsimp only
    change ∃ applied contradiction,
      (match statusMove order.status order.recoveryState target with
        | .contradiction => _
        | .keep => _
        | .advance targets => _) = Except.ok (applied, contradiction)
    cases hMove : statusMove order.status order.recoveryState target with
    | keep | contradiction => exact ⟨_, _, rfl⟩
    | advance through =>
      have hAdvances : (lifecycleOf order).advances row = true := by
        simp only [Lifecycle.advances, lifecycleOf, hTarget, hMove]
      have hMerged : statusMove (mergeFillEvidence order row).status order.recoveryState
          target = .advance through := hMove
      obtain ⟨moved, hMoved⟩ := applyStatusTransitions_succeeds runtime.utcNowIso hTarget
        (by exact hIdentity) hMerged (soundRecord_mergeFillEvidence hSound row)
        (hFit hAdvances)
      simp only [hMoved, bind, Except.bind, pure, Except.pure]
      exact ⟨_, _, rfl⟩

/-! ## Several exact rows -/

/-- The rows that carry the exact broker id of an order. -/
def rowsFor (order : ExecutionOrderRecord) (rows : List BrokerOrderStatusSnapshot) :
    List BrokerOrderStatusSnapshot :=
  rows.filter (fun row => hasExactId order && row.brokerOrderId = order.brokerOrderId)

/-- The effect of a list of exact rows, one after the other. -/
inductive RowsEffect : ExecutionOrderRecord → List BrokerOrderStatusSnapshot →
    ExecutionOrderRecord → Prop
  | nil (order : ExecutionOrderRecord) : RowsEffect order [] order
  | cons {order middle applied : ExecutionOrderRecord} {row : BrokerOrderStatusSnapshot}
      {rows : List BrokerOrderStatusSnapshot} :
      RowEffect order row middle → RowsEffect middle rows applied →
      RowsEffect order (row :: rows) applied

section

variable (h : RowsEffect order rows applied)
include h

theorem RowsEffect.same : SameOrder order applied := by
  induction h with
  | nil => rfl
  | cons hRow _ ih => exact hRow.same.trans ih

/-- The status and recovery state of an order once the rows of its exact id are
run through the automaton. -/
def lifecycleAfter (order : ExecutionOrderRecord) (rows : List BrokerOrderStatusSnapshot) :
    Lifecycle :=
  (rowsFor order rows).foldl Lifecycle.observe (lifecycleOf order)

theorem RowsEffect.lifecycle :
    lifecycleOf applied = rows.foldl Lifecycle.observe (lifecycleOf order) := by
  induction h with
  | nil => rfl
  | cons hRow _ ih => rw [List.foldl_cons, ← hRow.lifecycle, ih]

theorem RowsEffect.filled_le : order.filledQuantity ≤ applied.filledQuantity := by
  induction h with
  | nil => exact le_refl _
  | cons hRow _ ih =>
    refine le_trans ?_ ih
    rw [hRow.filled]
    exact le_max_left _ _

theorem RowsEffect.reachable : StatusReachable order.status applied.status := by
  induction h with
  | nil => exact refl
  | @cons order middle applied row rows hRow _ ih =>
    have hStatus : middle.status = ((lifecycleOf order).observe row).status :=
      congrArg Lifecycle.status hRow.lifecycle
    rw [hStatus] at ih
    exact (Lifecycle.observe_reachable (lifecycleOf order) row).trans ih

end

theorem RowEffect.sound (h : RowEffect order row applied) (hSound : SoundRecord order)
    (hIdentity : order.brokerIdentityStatus = .exact_) : SoundRecord applied := by
  have hStatus : applied.status = ((lifecycleOf order).observe row).status :=
    congrArg Lifecycle.status h.lifecycle
  refine hSound.of_same h.same ?_ ?_ ?_
  · rw [h.same.brokerIdentityStatus, hStatus, hIdentity]
    have hLegal : .exact_ ∈ legalIdentityStatuses order.status := by
      rw [← hIdentity]
      exact hSound.identity
    unfold Lifecycle.observe
    split
    · exact hLegal
    rename_i target hTarget
    split
    · exact hLegal
    · exact hLegal
    · exact (snapshotStatus_legal hTarget).1
  · rw [h.filled]
    exact le_trans hSound.filledNonneg (le_max_left _ _)
  · rw [h.remaining]
    unfold mergedRemaining
    split
    all_goals exact le_max_left _ _

/-- The rows of one order leave quantities that fit `submitted` wherever the
record is validated: at every row that advances the status, and at the end. -/
def RowsFit (submitted : Int) (current : Lifecycle) (filled remaining : Int) :
    List BrokerOrderStatusSnapshot → Prop
  | [] => filled + remaining ≤ submitted
  | row :: rows =>
    let filled' := mergedFilled filled row
    let remaining' := mergedRemaining submitted filled' row
    (current.advances row = true → filled' + remaining' ≤ submitted) ∧
      RowsFit submitted (current.observe row) filled' remaining' rows

/-- The rows with the exact id of an order fit it. -/
def OrderRowsFit (order : ExecutionOrderRecord) (rows : List BrokerOrderStatusSnapshot) : Prop :=
  RowsFit order.submittedQuantity (lifecycleOf order) order.filledQuantity
    order.remainingQuantity rows

instance decidableRowsFit (submitted : Int) (current : Lifecycle) (filled remaining : Int)
    (rows : List BrokerOrderStatusSnapshot) :
    Decidable (RowsFit submitted current filled remaining rows) :=
  match rows with
  | [] => inferInstanceAs (Decidable (_ ≤ _))
  | row :: rows =>
    have := decidableRowsFit submitted (current.observe row) (mergedFilled filled row)
      (mergedRemaining submitted (mergedFilled filled row) row) rows
    inferInstanceAs (Decidable (_ ∧ _))

theorem RowEffect.rowsFit_tail (h : RowEffect order row applied) :
    OrderRowsFit applied rows ↔
      RowsFit order.submittedQuantity ((lifecycleOf order).observe row)
        (mergedFilled order.filledQuantity row)
        (mergedRemaining order.submittedQuantity (mergedFilled order.filledQuantity row) row)
        rows := by
  unfold OrderRowsFit
  rw [h.lifecycle, h.remaining, h.filled, h.same.submittedQuantity]

/-- Rows that were all applied fit exactly when the quantities at the end do. -/
theorem RowsEffect.rowsFit_iff (h : RowsEffect order rows applied) :
    OrderRowsFit order rows ↔ QuantitiesFit applied := by
  induction h with
  | nil => exact Iff.rfl
  | @cons order middle applied row rows hRow _ ih =>
    rw [← ih, hRow.rowsFit_tail]
    constructor
    · intro hFit
      exact hFit.2
    · intro hFit
      refine ⟨?_, hFit⟩
      intro hAdvances
      have hMiddle := hRow.validated hAdvances
      unfold QuantitiesFit at hMiddle
      rwa [hRow.remaining, hRow.filled, hRow.same.submittedQuantity] at hMiddle

/-- The remaining passes leave status and quantities alone. -/
structure QuietUpdate (before after : ExecutionOrderRecord) : Prop where
  same : SameOrder before after
  status : after.status = before.status
  filled : after.filledQuantity = before.filledQuantity
  remaining : after.remainingQuantity = before.remainingQuantity
  average : after.averageFillPrice = before.averageFillPrice

namespace QuietUpdate

variable {a b c : ExecutionOrderRecord}

@[refl] theorem refl (a : ExecutionOrderRecord) : QuietUpdate a a := ⟨rfl, rfl, rfl, rfl, rfl⟩

theorem trans (hab : QuietUpdate a b) (hbc : QuietUpdate b c) : QuietUpdate a c :=
  ⟨hab.same.trans hbc.same, hbc.status.trans hab.status, hbc.filled.trans hab.filled,
    hbc.remaining.trans hab.remaining, hbc.average.trans hab.average⟩

end QuietUpdate

/-- Only the recovery state and the list of candidate ids changed. -/
def RecoveryUpdate (before after : ExecutionOrderRecord) : Prop :=
  ∃ recovery candidates, after =
    { before with
      recoveryState := recovery
      recoveryCandidateBrokerOrderIds := candidates }

theorem RecoveryUpdate.refl (order : ExecutionOrderRecord) : RecoveryUpdate order order :=
  ⟨order.recoveryState, order.recoveryCandidateBrokerOrderIds, rfl⟩

theorem RecoveryUpdate.trans {c : ExecutionOrderRecord} (hab : RecoveryUpdate a b)
    (hbc : RecoveryUpdate b c) : RecoveryUpdate a c := by
  obtain ⟨_, _, rfl⟩ := hab
  obtain ⟨recovery, candidates, rfl⟩ := hbc
  exact ⟨recovery, candidates, rfl⟩

theorem RecoveryUpdate.quiet (h : RecoveryUpdate a b) : QuietUpdate a b := by
  obtain ⟨_, _, rfl⟩ := h
  exact ⟨rfl, rfl, rfl, rfl, rfl⟩

theorem recoveryUpdate_setRecoveryState (order : ExecutionOrderRecord)
    (target : OrderRecoveryState) : RecoveryUpdate order (setRecoveryState order target) :=
  ⟨_, order.recoveryCandidateBrokerOrderIds, rfl⟩

theorem recoveryUpdate_escalatedSubmission (order : ExecutionOrderRecord) :
    RecoveryUpdate order (escalatedSubmission order) := by
  unfold escalatedSubmission
  dsimp only
  split
  · exact (recoveryUpdate_setRecoveryState order _).trans (recoveryUpdate_setRecoveryState _ _)
  · exact recoveryUpdate_setRecoveryState order _

theorem recoveryUpdate_retainedCandidate (order : ExecutionOrderRecord) (brokerOrderId : String) :
    RecoveryUpdate order (retainedCandidate order brokerOrderId) := by
  unfold retainedCandidate
  dsimp only
  split
  all_goals exact ⟨_, _, rfl⟩

theorem quietUpdate_recordAbsence {observed : ExecutionOrderRecord} {holdingQuantity : Int}
    {outcome : AbsenceOutcome}
    (h : recordAbsence config order snapshot holdingQuantity = .ok (observed, outcome)) :
    QuietUpdate order observed := by
  unfold recordAbsence at h
  split at h
  · cases h; exact ⟨rfl, rfl, rfl, rfl, rfl⟩
  split at h
  · cases h; exact ⟨rfl, rfl, rfl, rfl, rfl⟩
  split at h
  · cases h; rfl
  split at h
  · cases h; exact ⟨rfl, rfl, rfl, rfl, rfl⟩
  split at h
  · cases h; exact ⟨rfl, rfl, rfl, rfl, rfl⟩
  split at h
  · cases h; exact ⟨rfl, rfl, rfl, rfl, rfl⟩
  · cases h
  split at h
  · cases h; rfl
  split at h
  · cases h; rfl
  · unfold confirmedAbsence at h
    dsimp only at h
    split at h <;> cases h <;> exact ⟨rfl, rfl, rfl, rfl, rfl⟩

theorem quietUpdate_absenceStep {consumed : List String}
    {observed : ExecutionOrderRecord × List ReconciliationAlert}
    (h : absenceStep config snapshot consumed order = .ok observed) :
    QuietUpdate order observed.1 := by
  unfold absenceStep at h
  split at h
  · cases h; rfl
  obtain ⟨⟨record, outcome⟩, hRecord, hObserved⟩ := bind_eq_ok.mp h
  have hQuiet := quietUpdate_recordAbsence hRecord
  dsimp only at hObserved
  split at hObserved <;> cases hObserved <;> exact hQuiet

end QuantApp.Services
