import QuantApp.Core.ExecutionOrderRecord
import QuantApp.Verified.ExceptFold

/-!
# Runs of status transitions

`apply_status_transition` applied over and over to one order record, with any
targets and any supplied broker ids.  One step is inverted once
(`applyStatusTransition_ok`); a run then keeps the record consistent, freezes
an exact identity, enters SUBMITTING once and ends at a terminal status.
-/

namespace QuantApp.Core

open Verified

variable {record updated reached : ExecutionOrderRecord} {target status : ExecutionOrderStatus}
  {now : IsoText} {call : TransitionCall} {calls : List TransitionCall} {id : String}

/-- One call of `apply_status_transition` on a record. -/
structure TransitionCall where
  target : ExecutionOrderStatus
  brokerOrderId : Option String := none
  now : IsoText

def TransitionCall.apply (record : ExecutionOrderRecord) (call : TransitionCall) :
    Except Raised ExecutionOrderRecord :=
  applyStatusTransition record call.target call.brokerOrderId call.now

/-! ## One step -/

/-- What the identity step leaves: the record itself, or the record with an
exact id that does not replace another one. -/
inductive IdentityStep (record : ExecutionOrderRecord) : ExecutionOrderRecord → Prop
  | same : IdentityStep record record
  | marked {id : String} : id ≠ "" →
      (record.brokerIdentityStatus = .exact_ → record.brokerOrderId ≠ "" →
        id = record.brokerOrderId) →
      IdentityStep record { record with brokerOrderId := id, brokerIdentityStatus := .exact_ }

theorem markBrokerIdentityExact_ok {marked : ExecutionOrderRecord}
    (h : markBrokerIdentityExact record id = .ok marked) : IdentityStep record marked := by
  unfold markBrokerIdentityExact at h
  dsimp only at h
  split at h
  · cases h
  rename_i hNonblank
  split at h
  · cases h
  rename_i hContradiction
  cases h
  refine .marked hNonblank ?_
  intro hExact hId
  by_contra hNe
  exact hContradiction ⟨hExact, hId, fun hEq => hNe hEq.symm⟩

theorem transitionIdentity_ok {identified : ExecutionOrderRecord} {id : Option String}
    (h : transitionIdentity record target id = .ok identified) :
    IdentityStep record identified := by
  unfold transitionIdentity at h
  cases id with
  | none =>
    obtain ⟨marked, hMarked, h⟩ := bind_eq_ok.mp h
    cases hMarked
    dsimp only at h
    split at h
    · cases h
    · cases h
      exact .same
  | some =>
    obtain ⟨marked, hMarked, h⟩ := bind_eq_ok.mp h
    dsimp only at h
    split at h
    · cases h
    · cases h
      exact markBrokerIdentityExact_ok hMarked

theorem applyStatusTransition_ok {id : Option String}
    (h : applyStatusTransition record target id now = .ok updated) :
    target ∈ allowedStatusTransitions record.status ∧ updated.Consistent ∧
      ∃ identified, IdentityStep record identified ∧
        updated = transitioned identified target now := by
  unfold applyStatusTransition at h
  split at h
  · cases h
  rename_i hAllowed
  obtain ⟨identified, hIdentified, h⟩ := bind_eq_ok.mp h
  obtain ⟨_, hValid, h⟩ := bind_eq_ok.mp h
  cases h
  exact ⟨not_not.mp hAllowed, (validateConsistency_eq_ok_iff _).mp hValid, identified,
    transitionIdentity_ok hIdentified, rfl⟩

/-- A transition without a broker id only changes the fields that go with the target. -/
theorem applyStatusTransition_none_ok
    (h : applyStatusTransition record target none now = .ok updated) :
    target ∈ allowedStatusTransitions record.status ∧ updated.Consistent ∧
      updated = transitioned record target now := by
  unfold applyStatusTransition at h
  split at h
  · cases h
  rename_i hAllowed
  obtain ⟨identified, hIdentified, h⟩ := bind_eq_ok.mp h
  obtain ⟨_, hValid, h⟩ := bind_eq_ok.mp h
  cases h
  have hSame : identified = record := by
    unfold transitionIdentity at hIdentified
    obtain ⟨_, hMarked, hIdentified⟩ := bind_eq_ok.mp hIdentified
    cases hMarked
    dsimp only at hIdentified
    split at hIdentified
    · cases hIdentified
    · cases hIdentified
      rfl
  subst hSame
  exact ⟨not_not.mp hAllowed, (validateConsistency_eq_ok_iff _).mp hValid, rfl⟩

theorem applyStatusTransition_none_eq (hAllowed : target ∈ allowedStatusTransitions record.status)
    (hTarget : target ≠ .acknowledged) (hConsistent : (transitioned record target now).Consistent) :
    applyStatusTransition record target none now = .ok (transitioned record target now) := by
  unfold applyStatusTransition
  rw [if_neg (not_not.mpr hAllowed)]
  have hIdentity : transitionIdentity record target none = .ok record := by
    unfold transitionIdentity
    show (if target = .acknowledged ∧ record.brokerIdentityStatus ≠ .exact_ then _ else _) = _
    exact if_neg (fun h => hTarget h.1)
  rw [hIdentity]
  show (do validateConsistency (transitioned record target now); pure _) = _
  rw [(validateConsistency_eq_ok_iff _).mpr hConsistent]
  rfl

/-- A transition that brings a broker id succeeds exactly when the id names an order and
contradicts none. -/
theorem applyStatusTransition_some_eq_ok_iff :
    applyStatusTransition record target (some id) now = .ok updated ↔
      target ∈ allowedStatusTransitions record.status ∧ strip id ≠ "" ∧
        (record.brokerIdentityStatus = .exact_ → record.brokerOrderId ≠ "" →
          record.brokerOrderId = strip id) ∧
        updated.Consistent ∧
        updated = transitioned { record with
          brokerOrderId := strip id, brokerIdentityStatus := .exact_ } target now := by
  constructor
  · intro h
    unfold applyStatusTransition at h
    split at h
    · cases h
    rename_i hAllowed
    obtain ⟨identified, hIdentified, h⟩ := bind_eq_ok.mp h
    obtain ⟨_, hValid, h⟩ := bind_eq_ok.mp h
    cases h
    unfold transitionIdentity at hIdentified
    obtain ⟨marked, hMarked, hIdentified⟩ := bind_eq_ok.mp hIdentified
    dsimp only at hIdentified
    split at hIdentified
    · cases hIdentified
    cases hIdentified
    unfold markBrokerIdentityExact at hMarked
    dsimp only at hMarked
    split at hMarked
    · cases hMarked
    rename_i hNonblank
    split at hMarked
    · cases hMarked
    rename_i hContradiction
    cases hMarked
    refine ⟨not_not.mp hAllowed, hNonblank, ?_, (validateConsistency_eq_ok_iff _).mp hValid, rfl⟩
    intro hExact hId
    by_contra hNe
    exact hContradiction ⟨hExact, hId, hNe⟩
  · rintro ⟨hAllowed, hNonblank, hSame, hConsistent, rfl⟩
    have hMarked : markBrokerIdentityExact record id =
        .ok { record with brokerOrderId := strip id, brokerIdentityStatus := .exact_ } := by
      unfold markBrokerIdentityExact
      rw [if_neg hNonblank, if_neg (fun h => h.2.2 (hSame h.1 h.2.1))]
    have hIdentity : transitionIdentity record target (some id) =
        .ok { record with brokerOrderId := strip id, brokerIdentityStatus := .exact_ } := by
      unfold transitionIdentity
      show (markBrokerIdentityExact record id >>= _) = _
      rw [hMarked]
      exact if_neg (fun h => h.2 rfl)
    unfold applyStatusTransition
    rw [if_neg (not_not.mpr hAllowed), hIdentity]
    show (validateConsistency (transitioned _ target now) >>= _) = _
    rw [(validateConsistency_eq_ok_iff _).mpr hConsistent]
    rfl

@[simp] theorem transitioned_status (record : ExecutionOrderRecord)
    (target : ExecutionOrderStatus) (now : IsoText) :
    (transitioned record target now).status = target := rfl

theorem TransitionCall.apply_status (h : call.apply record = .ok updated) :
    updated.status = call.target := by
  obtain ⟨_, _, identified, _, rfl⟩ := applyStatusTransition_ok h
  rfl

/-! ## The exact identity -/

/-- A consistent record whose exact identity names a broker order. -/
structure TracedRecord (record : ExecutionOrderRecord) : Prop where
  consistent : record.Consistent
  exactNamed : record.brokerIdentityStatus = .exact_ → record.brokerOrderId ≠ ""

theorem tracedRecord_of_prepared (hConsistent : record.Consistent)
    (hPrepared : record.status = .prepared) : TracedRecord record := by
  refine ⟨hConsistent, fun hExact => ?_⟩
  have hIdentity := hConsistent.identity
  rw [hPrepared, hExact] at hIdentity
  simp [legalIdentityStatuses] at hIdentity

/-- The statuses that a record with an exact identity never enters. -/
def precedesIdentity (status : ExecutionOrderStatus) : Bool :=
  status = .submitting || status = .unknownSubmissionState || status = .cancelledLocally

theorem not_exact_of_precedesIdentity (hConsistent : record.Consistent)
    (hStatus : precedesIdentity record.status = true) : record.brokerIdentityStatus ≠ .exact_ := by
  intro hExact
  have hIdentity := hConsistent.identity
  rw [hExact] at hIdentity
  cases hCase : record.status <;>
    simp [hCase, precedesIdentity, legalIdentityStatuses] at hStatus hIdentity

section

variable (hRecord : TracedRecord record) (h : call.apply record = .ok updated)
include hRecord h

/-- A transition keeps an exact identity and its broker id, and does not lead
back in front of it. -/
theorem TracedRecord.exact_step (hExact : record.brokerIdentityStatus = .exact_) :
    updated.brokerIdentityStatus = .exact_ ∧ updated.brokerOrderId = record.brokerOrderId ∧
      precedesIdentity call.target = false := by
  obtain ⟨_, hConsistent, identified, hIdentity, hUpdated⟩ := applyStatusTransition_ok h
  have hIdentified : identified.brokerIdentityStatus = .exact_ ∧
      identified.brokerOrderId = record.brokerOrderId ∧
      identified.status = record.status := by
    cases hIdentity with
    | same => exact ⟨hExact, rfl, rfl⟩
    | marked hId hSame => exact ⟨rfl, hSame hExact (hRecord.exactNamed hExact), rfl⟩
  have hNotSubmitting : identified.status ≠ .submitting := by
    intro hSubmitting
    rw [hIdentified.2.2] at hSubmitting
    exact not_exact_of_precedesIdentity hRecord.consistent
      (by rw [hSubmitting]; rfl) hExact
  -- an exact order is never retired locally, so both fields stand as they were
  have hKeeps : updated.brokerIdentityStatus = .exact_ ∧
      updated.brokerOrderId = record.brokerOrderId := by
    rw [hUpdated]
    constructor
    · simp [transitioned, hIdentified.1, hNotSubmitting]
    · simp [transitioned, hIdentified.2.1, hNotSubmitting]
  refine ⟨hKeeps.1, hKeeps.2, ?_⟩
  by_contra hPrecedes
  refine not_exact_of_precedesIdentity hConsistent ?_ hKeeps.1
  rw [TransitionCall.apply_status h]
  simpa using hPrecedes

theorem TracedRecord.step : TracedRecord updated := by
  obtain ⟨_, hConsistent, identified, hIdentity, hUpdated⟩ := applyStatusTransition_ok h
  refine ⟨hConsistent, fun hExact => ?_⟩
  have hIdentified : identified.brokerIdentityStatus = .exact_ ∧
      updated.brokerOrderId = identified.brokerOrderId := by
    rw [hUpdated] at hExact ⊢
    by_cases hRetired : call.target = .cancelledLocally ∧ identified.status = .submitting
    · simp [transitioned, hRetired] at hExact
    · simp only [transitioned, hRetired, decide_false, Bool.false_eq_true, if_false,
        and_true] at hExact ⊢
      by_contra hOther
      split at hExact <;> split at hExact <;> simp_all
  rw [hIdentified.2]
  cases hIdentity with
  | same => exact hRecord.exactNamed hIdentified.1
  | marked hId => exact hId

end

/-! ## Runs -/

section

variable (hRecord : TracedRecord record)
  (h : calls.foldlM TransitionCall.apply record = .ok reached)
include hRecord h

theorem TracedRecord.run : TracedRecord reached :=
  foldlM_invariant TracedRecord hRecord (fun _ _ _ _ hTraced hStep => hTraced.step hStep) h

/-- From an exact identity on, a run keeps the broker id and never leads back
in front of it. -/
theorem TracedRecord.exact_run (hExact : record.brokerIdentityStatus = .exact_) :
    reached.brokerIdentityStatus = .exact_ ∧ reached.brokerOrderId = record.brokerOrderId ∧
      ∀ call ∈ calls, precedesIdentity call.target = false := by
  induction calls generalizing record with
  | nil =>
    cases h
    exact ⟨hExact, rfl, fun call hCall => absurd hCall List.not_mem_nil⟩
  | cons call calls ih =>
    obtain ⟨next, hStep, hRest⟩ := foldlM_cons_ok.mp h
    obtain ⟨hNextExact, hNextId, hTarget⟩ := hRecord.exact_step hStep hExact
    obtain ⟨hReached, hId, hTargets⟩ := ih (hRecord.step hStep) hRest hNextExact
    refine ⟨hReached, hId.trans hNextId, ?_⟩
    exact List.forall_mem_cons.mpr ⟨hTarget, hTargets⟩

end

theorem submitting_of_allowed (h : target ∈ allowedStatusTransitions status) :
    target ≠ .prepared ∧ (target = .submitting → status = .prepared) := by
  cases status <;> cases target <;> simp [allowedStatusTransitions] at h ⊢

/-- How often a run enters SUBMITTING. -/
def submissions (calls : List TransitionCall) : Nat :=
  calls.countP (fun call => call.target = .submitting)

theorem submissions_run (h : calls.foldlM TransitionCall.apply record = .ok reached) :
    submissions calls ≤ 1 ∧ (record.status ≠ .prepared → submissions calls = 0) := by
  induction calls generalizing record with
  | nil => exact ⟨Nat.zero_le 1, fun _ => rfl⟩
  | cons call calls ih =>
    obtain ⟨next, hStep, hRest⟩ := foldlM_cons_ok.mp h
    obtain ⟨hNotPrepared, hFrom⟩ := submitting_of_allowed (applyStatusTransition_ok hStep).1
    have hTail : submissions calls = 0 :=
      (ih hRest).2 (by rw [TransitionCall.apply_status hStep]; exact hNotPrepared)
    have hCons : submissions (call :: calls) =
        submissions calls + if call.target = .submitting then 1 else 0 := by
      simp [submissions, List.countP_cons]
    rw [hCons, hTail]
    constructor
    · split <;> omega
    · intro hRecord
      rw [if_neg (fun hTarget => hRecord (hFrom hTarget))]

theorem allowedStatusTransitions_of_terminal (h : status.isTerminal = true) :
    allowedStatusTransitions status = [] := by
  cases status <;> simp [ExecutionOrderStatus.isTerminal] at h <;> rfl

theorem TransitionCall.apply_of_terminal (h : record.status.isTerminal = true)
    (call : TransitionCall) : call.apply record ≠ .ok updated := by
  intro hOk
  have hAllowed := (applyStatusTransition_ok hOk).1
  rw [allowedStatusTransitions_of_terminal h] at hAllowed
  cases hAllowed

/-- What every run of successful transitions from a new PREPARED record
guarantees about the record it reaches. -/
structure LifecycleSafe (record : ExecutionOrderRecord) (calls : List TransitionCall)
    (reached : ExecutionOrderRecord) : Prop where
  consistent : reached.Consistent
  /-- Wherever the run had an exact identity, its broker id is still the same and
  no later call entered SUBMITTING, UNKNOWN_SUBMISSION_STATE or CANCELLED_LOCALLY. -/
  identityFrozen : ∀ (before later : List TransitionCall) (middle : ExecutionOrderRecord),
    calls = before ++ later → before.foldlM TransitionCall.apply record = .ok middle →
    middle.brokerIdentityStatus = .exact_ →
      reached.brokerOrderId = middle.brokerOrderId ∧
        ∀ call ∈ later, precedesIdentity call.target = false
  submittedOnce : submissions calls ≤ 1
  terminalFinal : reached.status.isTerminal = true →
    ∀ (call : TransitionCall) (updated : ExecutionOrderRecord), call.apply reached ≠ .ok updated

theorem lifecycle_safe (record : ExecutionOrderRecord) (hConsistent : record.Consistent)
    (hPrepared : record.status = .prepared) (calls : List TransitionCall)
    (reached : ExecutionOrderRecord)
    (h : calls.foldlM TransitionCall.apply record = .ok reached) :
    LifecycleSafe record calls reached := by
  have hTraced := tracedRecord_of_prepared hConsistent hPrepared
  refine
    { consistent := (hTraced.run h).consistent
      identityFrozen := ?_
      submittedOnce := (submissions_run h).1
      terminalFinal := fun hTerminal call _ => call.apply_of_terminal hTerminal }
  rintro before later middle rfl hBefore hExact
  rw [List.foldlM_append, hBefore] at h
  have hLater := (hTraced.run hBefore).exact_run h hExact
  exact ⟨hLater.2.1, hLater.2.2⟩

/-- An order that is submitted, acknowledged and filled. -/
theorem lifecycle_safe_sample :
    let now : IsoText := isoformat 0
    let record : ExecutionOrderRecord :=
      { environment := "PROD", accountNo := "1", symbol := "AAPL", side := .buy
        intent := .entry, clientOrderId := "c1", preparedAt := now, submittedQuantity := 10
        clientOrderIdNamed := c1_ne_empty }
    let calls : List TransitionCall :=
      [{ target := .submitting, now := now },
        { target := .acknowledged, brokerOrderId := some " B1 ", now := now },
        { target := .filled, now := now }]
    ∃ reached, reached.brokerOrderId = "B1" ∧ LifecycleSafe record calls reached := by
  intro now record calls
  have hRun : calls.foldlM TransitionCall.apply record =
      .ok (okOr (calls.foldlM TransitionCall.apply record) record) :=
    eq_okOr (by decide +kernel)
  exact ⟨_, by decide +kernel, lifecycle_safe record (by decide +kernel) rfl calls _ hRun⟩

end QuantApp.Core
