import QuantApp.Core.OrderLifecycle
import QuantApp.Verified.Procedure

/-!
# A transition in place

`apply_status_transition` assigns to the record as it goes, and the check of the whole
record is its last statement.  `applyStatusTransitionInPlace` keeps what it has written
when it raises; `applyStatusTransitionInPlace_allowed` says what that is, in terms of the
functions of `ExecutionOrderRecord`.

A record that passes `validate_consistency` is left half applied in two cases only: an id
comes with a transition to a status that must not have an exact identity, or an id that
was stored before the identity was exact meets a status that says there is no order.
-/

namespace QuantApp.Core

open Verified

/-- A call that works on a record its caller keeps. -/
abbrev OnRecord (α : Type) := Procedure ExecutionOrderRecord Raised α

/-- Assign to the record. -/
def assign (f : ExecutionOrderRecord → ExecutionOrderRecord) : OnRecord PUnit := Procedure.update f

/-- The statuses that imply an ambiguous identity promote one that is not assigned. -/
def promoteIdentity (target : ExecutionOrderStatus) (record : ExecutionOrderRecord) :
    ExecutionOrderRecord :=
  if (target = .submitting ∨ target = .unknownSubmissionState) ∧
      record.brokerIdentityStatus = .notAssigned then
    { record with brokerIdentityStatus := .ambiguous }
  else record

/-- The statuses that imply that there is no broker order settle an ambiguous identity. -/
def settleIdentity (target : ExecutionOrderStatus) (record : ExecutionOrderRecord) :
    ExecutionOrderRecord :=
  if (target = .rejected ∨ target = .notAcceptedConfirmed) ∧
      record.brokerIdentityStatus = .ambiguous then
    { record with brokerIdentityStatus := .noBrokerOrderConfirmed }
  else record

/-- An attempt that turned out not to have reached the broker is retired. -/
def retireAttempt (target : ExecutionOrderStatus) (record : ExecutionOrderRecord) :
    ExecutionOrderRecord :=
  if target = .cancelledLocally ∧ record.status = .submitting then
    { record with
      brokerOrderId := ""
      brokerIdentityStatus := .notAssigned
      submissionStartedAt := none }
  else record

/-- The timestamp of the target. -/
def stampTransition (target : ExecutionOrderStatus) (now : IsoText)
    (record : ExecutionOrderRecord) : ExecutionOrderRecord :=
  if target = .submitting then { record with submissionStartedAt := some now }
  else if target = .acknowledged then { record with acknowledgedAt := some now }
  else record

/-- The assignments of a transition whose identity is settled, and the last check. -/
def finishTransition (target : ExecutionOrderStatus) (now : IsoText) : OnRecord PUnit := do
  assign (promoteIdentity target)
  assign (settleIdentity target)
  assign (retireAttempt target)
  assign (stampTransition target now)
  assign (fun record => { record with status := target })
  let record ← Procedure.read id
  Procedure.ofExcept (validateConsistency record)

/-- An id that comes with the transition is recorded; `mark_broker_identity_exact` assigns
after its checks. -/
def markInPlace : Option String → OnRecord PUnit
  | none => pure ⟨⟩
  | some brokerOrderId => do
    let record ← Procedure.read id
    let marked ← Procedure.ofExcept (markBrokerIdentityExact record brokerOrderId)
    assign (fun _ => marked)

/-- The identity a transition brings with it, and the demand of `ACKNOWLEDGED`. -/
def identifyTransition (target : ExecutionOrderStatus) (brokerOrderId : Option String) :
    OnRecord PUnit := do
  markInPlace brokerOrderId
  let identity ← Procedure.read ExecutionOrderRecord.brokerIdentityStatus
  if target = .acknowledged ∧ identity ≠ .exact_ then
    Procedure.raise
      { cls := .valueError
        message := "Cannot transition to " ++ target.value ++ " without a confirmed " ++
          "broker_order_id -- pass broker_order_id= or ensure broker_identity_status " ++
          "is already EXACT" }
  else pure ⟨⟩

/-- `apply_status_transition`, statement by statement. -/
def applyStatusTransitionInPlace (target : ExecutionOrderStatus) (brokerOrderId : Option String)
    (now : IsoText) : OnRecord PUnit := do
  let current ← Procedure.read ExecutionOrderRecord.status
  if target ∉ allowedStatusTransitions current then
    Procedure.raise
      { cls := .invalidExecutionOrderTransition
        message := "ExecutionOrderStatus cannot transition " ++ current.value ++
          " -> " ++ target.value }
  else do
    identifyTransition target brokerOrderId
    finishTransition target now

/-! ## What a call leaves -/

section Calls

variable {record : ExecutionOrderRecord} {target : ExecutionOrderStatus}
  {brokerOrderId : Option String} {now : IsoText}

theorem assignments_eq :
    { stampTransition target now
        (retireAttempt target (settleIdentity target (promoteIdentity target record))) with
      status := target } = transitioned record target now := by
  cases target <;>
    simp [stampTransition, retireAttempt, settleIdentity, promoteIdentity, transitioned]
  all_goals split <;> simp [*]

theorem finishTransition_eq :
    finishTransition target now record =
      match validateConsistency (transitioned record target now) with
      | .ok _ => (.returned ⟨⟩, transitioned record target now)
      | .error error => (.raised error, transitioned record target now) := by
  have hRun : finishTransition target now record =
      (Procedure.ofExcept (validateConsistency (transitioned record target now)) :
        OnRecord PUnit) (transitioned record target now) := by
    rw [← assignments_eq]
    rfl
  rw [hRun]
  cases validateConsistency (transitioned record target now) with
  | ok | error => rfl

/-- The record after a call that raises: what stands there when the last check fails. -/
def leftByRaise (record : ExecutionOrderRecord) (target : ExecutionOrderStatus)
    (brokerOrderId : Option String) (now : IsoText) : ExecutionOrderRecord :=
  if target ∈ allowedStatusTransitions record.status then
    match transitionIdentity record target brokerOrderId with
    | .ok identified => transitioned identified target now
    | .error _ => record
  else record

theorem markBrokerIdentityExact_eq_ok {marked : ExecutionOrderRecord} {id : String}
    (h : markBrokerIdentityExact record id = .ok marked) :
    marked = { record with brokerOrderId := strip id, brokerIdentityStatus := .exact_ } ∧
      strip id ≠ "" := by
  unfold markBrokerIdentityExact at h
  dsimp only at h
  split at h
  · cases h
  next hNamed =>
    split at h
    · cases h
    · cases h
      exact ⟨rfl, hNamed⟩

/-- A call that raises over the identity has assigned nothing. -/
theorem identifyTransition_eq :
    identifyTransition target brokerOrderId record =
      match transitionIdentity record target brokerOrderId with
      | .ok identified => (.returned ⟨⟩, identified)
      | .error error => (.raised error, record) := by
  cases brokerOrderId with
  | none =>
    by_cases hDemand : target = .acknowledged ∧ record.brokerIdentityStatus ≠ .exact_
    · simp [identifyTransition, markInPlace, transitionIdentity, hDemand, bind, Procedure.bind,
        Except.bind, pure, Except.pure, Procedure.read, Procedure.raise]
    · have hPass : ¬ (target = .acknowledged ∧ ¬ record.brokerIdentityStatus = .exact_) := hDemand
      simp [identifyTransition, markInPlace, transitionIdentity, hPass, bind, Procedure.bind,
        Except.bind, pure, Except.pure, Procedure.read]
  | some brokerOrderId =>
    cases hMarked : markBrokerIdentityExact record brokerOrderId with
    | error =>
      simp [identifyTransition, markInPlace, transitionIdentity, hMarked, bind,
        Procedure.bind, Except.bind, Procedure.read, Procedure.ofExcept, Procedure.raise]
    | ok marked =>
      have hExact : marked.brokerIdentityStatus = .exact_ := by
        rw [(markBrokerIdentityExact_eq_ok hMarked).1]
      simp [identifyTransition, markInPlace, transitionIdentity, hMarked, hExact, bind,
        Procedure.bind, Except.bind, pure, Except.pure, Procedure.read, Procedure.ofExcept,
        Procedure.update, assign]

theorem applyStatusTransitionInPlace_refused
    (hRefused : target ∉ allowedStatusTransitions record.status) :
    applyStatusTransitionInPlace target brokerOrderId now record =
      (.raised
        { cls := .invalidExecutionOrderTransition
          message := "ExecutionOrderStatus cannot transition " ++ record.status.value ++
            " -> " ++ target.value }, record) := by
  show (if target ∉ allowedStatusTransitions record.status then _ else _ :
    OnRecord PUnit) record = _
  rw [if_pos hRefused]
  rfl

/-- A call that raises before the last check leaves the record as it was; one that reaches
the check leaves everything assigned. -/
theorem applyStatusTransitionInPlace_allowed
    (hAllowed : target ∈ allowedStatusTransitions record.status) :
    applyStatusTransitionInPlace target brokerOrderId now record =
      match transitionIdentity record target brokerOrderId with
      | .error error => (.raised error, record)
      | .ok identified =>
        match validateConsistency (transitioned identified target now) with
        | .ok _ => (.returned ⟨⟩, transitioned identified target now)
        | .error error => (.raised error, transitioned identified target now) := by
  have hRun : applyStatusTransitionInPlace target brokerOrderId now record =
      (do identifyTransition target brokerOrderId; finishTransition target now :
        OnRecord PUnit) record := by
    show (if target ∉ allowedStatusTransitions record.status then _ else _ :
      OnRecord PUnit) record = _
    rw [if_neg (not_not.mpr hAllowed)]
  have hIdentify : identifyTransition target brokerOrderId record = _ := identifyTransition_eq
  rw [hRun]
  cases hIdentity : transitionIdentity record target brokerOrderId with
  | error =>
    rw [hIdentity] at hIdentify
    exact Procedure.bind_raised hIdentify
  | ok =>
    rw [hIdentity] at hIdentify
    rw [Procedure.bind_returned hIdentify, finishTransition_eq]

/-- The call returns what the one on a copy returns, and raises what that one raises. -/
theorem applyStatusTransitionInPlace_outcome :
    match applyStatusTransition record target brokerOrderId now with
    | .ok updated =>
      applyStatusTransitionInPlace target brokerOrderId now record = (.returned ⟨⟩, updated)
    | .error error =>
      applyStatusTransitionInPlace target brokerOrderId now record =
        (.raised error, leftByRaise record target brokerOrderId now) := by
  unfold applyStatusTransition leftByRaise
  by_cases hAllowed : target ∈ allowedStatusTransitions record.status
  · rw [applyStatusTransitionInPlace_allowed hAllowed, if_neg (not_not.mpr hAllowed),
      if_pos hAllowed]
    cases hIdentity : transitionIdentity record target brokerOrderId with
    | error => rfl
    | ok identified =>
      cases hValid : validateConsistency (transitioned identified target now) <;>
        simp [hValid, bind, Except.bind, pure, Except.pure]
  · rw [applyStatusTransitionInPlace_refused hAllowed, if_pos hAllowed, if_neg hAllowed]

/-- The last check looks at the identity alone: the other fields stay as they were. -/
theorem consistent_transitioned_iff {identified : ExecutionOrderRecord}
    (h : record.Consistent) (hStep : IdentityStep record identified) :
    (transitioned identified target now).Consistent ↔
      (transitioned identified target now).brokerIdentityStatus ∈ legalIdentityStatuses target ∧
        ((transitioned identified target now).brokerIdentityStatus = .noBrokerOrderConfirmed →
          (transitioned identified target now).brokerOrderId = "") := by
  constructor
  · intro hConsistent
    exact ⟨hConsistent.identity, hConsistent.noBrokerOrder⟩
  · rintro ⟨hIdentity, hNoOrder⟩
    cases hStep with
    | same =>
      exact { h with identity := hIdentity, noBrokerOrder := hNoOrder }
    | marked =>
      exact
        { h with
          identity := hIdentity
          noBrokerOrder := hNoOrder }

end Calls

/-! ## Half-applied transitions -/

/-- The identity and the target contradict each other, and only the last check notices: an
id comes with a target that must not have one, or a stored id that was never confirmed
meets a target that says there is no order. -/
def HalfApplied (record : ExecutionOrderRecord) (target : ExecutionOrderStatus) :
    Option String → Prop
  | some brokerOrderId =>
    strip brokerOrderId ≠ "" ∧ .exact_ ∉ legalIdentityStatuses target ∧
      ¬ (target = .cancelledLocally ∧ record.status = .submitting)
  | none =>
    (target = .rejected ∨ target = .notAcceptedConfirmed) ∧
      record.brokerIdentityStatus = .ambiguous ∧ record.brokerOrderId ≠ ""

section HalfApplied

variable {record : ExecutionOrderRecord} {target : ExecutionOrderStatus} {now : IsoText}

theorem consistent_marked_iff {brokerOrderId : String} (h : record.Consistent)
    (hStep : IdentityStep record
      { record with brokerOrderId := strip brokerOrderId, brokerIdentityStatus := .exact_ }) :
    (transitioned
        { record with brokerOrderId := strip brokerOrderId, brokerIdentityStatus := .exact_ }
        target now).Consistent ↔
      .exact_ ∈ legalIdentityStatuses target ∨
        (target = .cancelledLocally ∧ record.status = .submitting) := by
  rw [consistent_transitioned_iff h hStep]
  by_cases hRetired : target = .cancelledLocally ∧ record.status = .submitting
  · simp [transitioned, hRetired, legalIdentityStatuses]
  · have hKept : (transitioned
        { record with brokerOrderId := strip brokerOrderId, brokerIdentityStatus := .exact_ }
        target now).brokerIdentityStatus = .exact_ := by
      simp [transitioned, hRetired]
    rw [hKept]
    simp [hRetired]

theorem consistent_unmarked_iff (h : record.Consistent)
    (hAllowed : target ∈ allowedStatusTransitions record.status)
    (hDemand : ¬ (target = .acknowledged ∧ record.brokerIdentityStatus ≠ .exact_)) :
    (transitioned record target now).Consistent ↔
      ¬ ((target = .rejected ∨ target = .notAcceptedConfirmed) ∧
        record.brokerIdentityStatus = .ambiguous ∧ record.brokerOrderId ≠ "") := by
  rw [consistent_transitioned_iff h .same]
  have hIdentity := h.identity
  cases hStatus : record.status <;>
    simp [hStatus, allowedStatusTransitions, legalIdentityStatuses] at hAllowed hIdentity <;>
    rcases hAllowed with rfl | rfl | rfl | rfl | rfl | rfl <;>
    simp_all [transitioned, legalIdentityStatuses]

theorem target_ne_status (hAllowed : target ∈ allowedStatusTransitions record.status) :
    target ≠ record.status := by
  intro hSame
  rw [hSame] at hAllowed
  cases hStatus : record.status <;> simp [hStatus, allowedStatusTransitions] at hAllowed

section

variable (h : record.Consistent) (hAllowed : target ∈ allowedStatusTransitions record.status)
include h hAllowed

/-- An accepted identity, and whether the record then passes the last check. -/
theorem transitionIdentity_consistent_iff {brokerOrderId : Option String}
    {identified : ExecutionOrderRecord}
    (hIdentified : transitionIdentity record target brokerOrderId = .ok identified) :
    (transitioned identified target now).Consistent ↔
      ¬ HalfApplied record target brokerOrderId := by
  unfold transitionIdentity at hIdentified
  cases brokerOrderId with
  | none =>
    obtain ⟨_, hMarked, hDemanded⟩ := bind_eq_ok.mp hIdentified
    cases hMarked
    dsimp only at hDemanded
    split at hDemanded
    · cases hDemanded
    next hDemand =>
      cases hDemanded
      exact consistent_unmarked_iff h hAllowed hDemand
  | some =>
    obtain ⟨marked, hMarked, hDemanded⟩ := bind_eq_ok.mp hIdentified
    dsimp only at hDemanded
    split at hDemanded
    · cases hDemanded
    cases hDemanded
    have hStep := markBrokerIdentityExact_ok hMarked
    obtain ⟨hRecord, hNamed⟩ := markBrokerIdentityExact_eq_ok hMarked
    subst hRecord
    rw [consistent_marked_iff h hStep]
    constructor
    · rintro hPasses ⟨_, hBarred, hOther⟩
      exact hPasses.elim hBarred hOther
    · intro hWhole
      by_contra hFails
      obtain ⟨hBarred, hOther⟩ := not_or.mp hFails
      exact hWhole ⟨hNamed, hBarred, hOther⟩

theorem HalfApplied.identified {brokerOrderId : Option String}
    (hHalf : HalfApplied record target brokerOrderId) :
    ∃ identified, transitionIdentity record target brokerOrderId = .ok identified := by
  cases brokerOrderId with
  | none =>
    have hOther : ¬ (target = .acknowledged ∧ record.brokerIdentityStatus ≠ .exact_) := by
      rintro ⟨rfl, _⟩
      rcases hHalf.1 with hTarget | hTarget <;> cases hTarget
    exact ⟨record, if_neg hOther⟩
  | some brokerOrderId =>
    obtain ⟨hNamed, hBarred, _⟩ := hHalf
    have hFresh : record.brokerIdentityStatus ≠ .exact_ := by
      intro hExact
      have hIdentity := h.identity
      rw [hExact] at hIdentity
      cases hStatus : record.status <;>
        simp [hStatus, allowedStatusTransitions, legalIdentityStatuses] at hAllowed hIdentity <;>
        rcases hAllowed with rfl | rfl | rfl | rfl | rfl | rfl <;>
        simp [legalIdentityStatuses] at hBarred
    have hMarked : markBrokerIdentityExact record brokerOrderId =
        .ok { record with
          brokerOrderId := strip brokerOrderId, brokerIdentityStatus := .exact_ } := by
      unfold markBrokerIdentityExact
      rw [if_neg hNamed, if_neg (fun hc => hFresh hc.1)]
    refine ⟨{ record with
      brokerOrderId := strip brokerOrderId, brokerIdentityStatus := .exact_ }, ?_⟩
    unfold transitionIdentity
    show (markBrokerIdentityExact record brokerOrderId >>= _) = _
    rw [hMarked]
    exact if_neg (fun hc => hc.2 rfl)

end

/-- A transition that raises leaves the record as it was, except where it is half applied. -/
theorem raising_transition_unchanged_iff (target : ExecutionOrderStatus)
    (brokerOrderId : Option String) (now : IsoText) (h : record.Consistent) :
    (∀ error left,
      applyStatusTransitionInPlace target brokerOrderId now record = (.raised error, left) →
        left = record) ↔
      ¬ (target ∈ allowedStatusTransitions record.status ∧
        HalfApplied record target brokerOrderId) := by
  by_cases hAllowed : target ∈ allowedStatusTransitions record.status
  · rw [applyStatusTransitionInPlace_allowed hAllowed]
    cases hIdentity : transitionIdentity record target brokerOrderId with
    | error =>
      constructor
      · rintro _ ⟨_, hHalf⟩
        obtain ⟨identified, hIdentified⟩ := hHalf.identified h hAllowed
        rw [hIdentity] at hIdentified
        cases hIdentified
      · intro _ error left hRaised
        exact (congrArg Prod.snd hRaised).symm
    | ok identified =>
      have hChecked : (transitioned identified target now).Consistent ↔ _ :=
        transitionIdentity_consistent_iff h hAllowed hIdentity
      rw [← validateConsistency_eq_ok_iff] at hChecked
      cases hValid : validateConsistency (transitioned identified target now) with
      | ok =>
        simp only [hValid]
        constructor
        · rintro _ ⟨_, hHalf⟩
          exact hChecked.mp hValid hHalf
        · intro _ error left hRaised
          cases hRaised
      | error refused =>
        simp only [hValid]
        constructor
        · intro hKept _
          -- everything is assigned, the status included
          have hLeft : transitioned identified target now = record := hKept refused _ rfl
          exact target_ne_status hAllowed (congrArg ExecutionOrderRecord.status hLeft)
        · intro hWhole
          have hPasses := hChecked.mpr (fun hHalf => hWhole ⟨hAllowed, hHalf⟩)
          rw [hValid] at hPasses
          cases hPasses
  · rw [applyStatusTransitionInPlace_refused hAllowed]
    constructor
    · rintro _ ⟨hAllowed', _⟩
      exact hAllowed hAllowed'
    · intro _ error left hRaised
      exact (congrArg Prod.snd hRaised).symm

/-- An order that is prepared for ten shares. -/
def preparedOrder : ExecutionOrderRecord :=
  { environment := "PROD"
    accountNo := "1"
    symbol := "AAPL"
    side := .buy
    intent := .entry
    clientOrderId := "c1"
    preparedAt := isoformat 0
    submittedQuantity := 10
    clientOrderIdNamed := c1_ne_empty }

/-- A prepared order that must not be acknowledged stays as it was. -/
theorem raising_transition_unchanged_prepared :
    preparedOrder.Consistent ∧
      ∀ error left,
        applyStatusTransitionInPlace .acknowledged (some "B1") (isoformat 0) preparedOrder =
          (.raised error, left) → left = preparedOrder := by
  have hConsistent : preparedOrder.Consistent := by decide +kernel
  refine ⟨hConsistent, ?_⟩
  exact (raising_transition_unchanged_iff .acknowledged (some "B1") (isoformat 0) hConsistent).mpr
    (fun h => absurd h.1 (by decide))

/-- An id that comes with a transition to SUBMITTING makes the identity exact, and the last
check refuses a record that has the new status already. -/
theorem raising_transition_changes_record :
    ¬ ∀ (record : ExecutionOrderRecord) (target : ExecutionOrderStatus)
        (brokerOrderId : Option String) (now : IsoText), record.Consistent →
      ∀ error left,
        applyStatusTransitionInPlace target brokerOrderId now record = (.raised error, left) →
          left = record := by
  intro hKept
  obtain ⟨error, left, hRaised, hStatus⟩ : ∃ error left,
      applyStatusTransitionInPlace .submitting (some "B1") (isoformat 0) preparedOrder =
        (.raised error, left) ∧ left.status = .submitting := ⟨_, _, rfl, rfl⟩
  have hSame := hKept preparedOrder .submitting (some "B1") (isoformat 0) (by decide +kernel)
    error left hRaised
  rw [hSame] at hStatus
  cases hStatus

end HalfApplied

end QuantApp.Core
