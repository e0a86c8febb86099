import Mathlib.Data.List.Induction
import QuantApp.Core.ExecutionRequest

/-!
# The emergency lease allowance

`EmergencyLeaseAllowance` of `src/services/emergency_journal.py`: a cached
proof that a lease was verified, which a database outage activates and never
renews.  Monotonic times are exact rationals; every call reads the clock once.
`Earned` reads the snapshot off the history of calls, and
`requireValid_earned` is what a granted emergency action rests on.
-/

namespace QuantApp.Services

open Core

variable {snapshot : EmergencyLeaseSnapshot} {allowance : EmergencyLeaseAllowance}
  {timed : TimedCall} {call : ExecutionLease → AllowanceCall}

structure EmergencyLeaseSnapshot where
  deviceId : String
  leaseToken : String
  leaseEpoch : Int
  verifiedAtMonotonic : ℚ
  outageStartedMonotonic : Option ℚ
  expiresAtMonotonic : ℚ
  deriving DecidableEq

/-- The constructor refuses a window that is not positive. -/
structure EmergencyLeaseAllowance where
  maxSeconds : ℚ
  snapshot : Option EmergencyLeaseSnapshot := none
  maxSecondsPositive : 0 < maxSeconds := by decide +kernel

/-- The lease is the one the snapshot was taken of. -/
def EmergencyLeaseSnapshot.carries (snapshot : EmergencyLeaseSnapshot) (lease : ExecutionLease) :
    Bool :=
  lease.deviceId = snapshot.deviceId && lease.leaseToken = snapshot.leaseToken &&
    lease.leaseEpoch = snapshot.leaseEpoch

theorem carries_unique {a b : ExecutionLease} (ha : snapshot.carries a = true)
    (hb : snapshot.carries b = true) : a = b := by
  simp only [EmergencyLeaseSnapshot.carries, Bool.and_eq_true, decide_eq_true_eq] at ha hb
  cases a
  cases b
  simp_all

namespace EmergencyLeaseAllowance

/-- `record_verified`: the allowance it leaves and what it returns. -/
def recordVerified (allowance : EmergencyLeaseAllowance) (now : ℚ)
    (lease : Option ExecutionLease) (verifiedCurrent handoffPending : Bool) :
    EmergencyLeaseAllowance × Bool :=
  match lease with
  | none => ({ allowance with snapshot := none }, false)
  | some lease =>
    if verifiedCurrent = false ∨ handoffPending = true ∨ lease.deviceId = "" ∨
        lease.leaseToken = "" ∨ lease.leaseEpoch ≤ 0 then
      ({ allowance with snapshot := none }, false)
    else
      ({ allowance with
        snapshot := some
          { deviceId := lease.deviceId
            leaseToken := lease.leaseToken
            leaseEpoch := lease.leaseEpoch
            verifiedAtMonotonic := now
            outageStartedMonotonic := none
            expiresAtMonotonic := now + allowance.maxSeconds } }, true)

def beginOutage (allowance : EmergencyLeaseAllowance) (now : ℚ)
    (lease : Option ExecutionLease) (verifiedCurrent handoffPending : Bool) :
    EmergencyLeaseAllowance × Bool :=
  match lease, allowance.snapshot with
  | some lease, some snapshot =>
    if verifiedCurrent = false ∨ handoffPending = true ∨ snapshot.expiresAtMonotonic ≤ now ∨
        snapshot.carries lease = false then
      ({ allowance with snapshot := none }, false)
    else
      ({ allowance with
        snapshot := some { snapshot with outageStartedMonotonic := some now } }, true)
  | _, _ => ({ allowance with snapshot := none }, false)

def clear (allowance : EmergencyLeaseAllowance) : EmergencyLeaseAllowance :=
  { allowance with snapshot := none }

private def refused (message : String) : Except Raised EmergencyLeaseSnapshot :=
  .error { cls := .emergencyLeaseAllowance, message := message }

def requireValid (allowance : EmergencyLeaseAllowance) (now : ℚ)
    (lease : Option ExecutionLease) : Except Raised EmergencyLeaseSnapshot :=
  match allowance.snapshot with
  | none => refused "No current lease proof is available for the database outage"
  | some snapshot =>
    if snapshot.outageStartedMonotonic = none then
      refused "The canonical database outage has not activated emergency mode"
    else if snapshot.expiresAtMonotonic ≤ now then
      refused "The monotonic emergency lease allowance expired"
    else
      match lease with
      | none => refused "The emergency action does not carry the exact cached lease"
      | some lease =>
        if snapshot.carries lease then .ok snapshot
        else refused "The emergency action does not carry the exact cached lease"

theorem requireValid_ok {now : ℚ} {lease : Option ExecutionLease}
    (h : allowance.requireValid now lease = .ok snapshot) :
    allowance.snapshot = some snapshot ∧ snapshot.outageStartedMonotonic ≠ none ∧
      now < snapshot.expiresAtMonotonic ∧
      ∃ carried, lease = some carried ∧ snapshot.carries carried = true := by
  unfold requireValid refused at h
  split at h
  · cases h
  rename_i found hFound
  split at h
  · cases h
  rename_i hOutage
  split at h
  · cases h
  rename_i hFresh
  split at h
  · cases h
  rename_i carried
  split at h
  · rename_i hCarries
    cases h
    exact ⟨hFound, hOutage, not_le.mp hFresh, carried, rfl, hCarries⟩
  · cases h

end EmergencyLeaseAllowance

/-! ## Histories of calls -/

inductive AllowanceCall
  | recordVerified (lease : Option ExecutionLease) (verifiedCurrent handoffPending : Bool)
  | beginOutage (lease : Option ExecutionLease) (verifiedCurrent handoffPending : Bool)
  | clear
  | requireValid (lease : Option ExecutionLease)

/-- A call and the monotonic time it reads. -/
structure TimedCall where
  time : ℚ
  call : AllowanceCall

namespace EmergencyLeaseAllowance

/-- One call: the allowance it leaves and whether it returned `True` (a `clear`
counts as such, and `require_valid` when it does not raise). -/
def perform (allowance : EmergencyLeaseAllowance) (timed : TimedCall) :
    EmergencyLeaseAllowance × Bool :=
  match timed.call with
  | .recordVerified lease verifiedCurrent handoffPending =>
    allowance.recordVerified timed.time lease verifiedCurrent handoffPending
  | .beginOutage lease verifiedCurrent handoffPending =>
    allowance.beginOutage timed.time lease verifiedCurrent handoffPending
  | .clear => (allowance.clear, true)
  | .requireValid lease => (allowance, (allowance.requireValid timed.time lease).isOk)

/-- The allowance after a history of calls. -/
def after (allowance : EmergencyLeaseAllowance) (calls : List TimedCall) :
    EmergencyLeaseAllowance :=
  calls.foldl (fun state timed => (state.perform timed).1) allowance

section

variable (allowance)

variable (calls : List TimedCall)

theorem after_append (timed : TimedCall) :
    allowance.after (calls ++ [timed]) = ((allowance.after calls).perform timed).1 := by
  simp [after]

@[simp] theorem perform_maxSeconds (timed : TimedCall) :
    (allowance.perform timed).1.maxSeconds = allowance.maxSeconds := by
  unfold perform recordVerified beginOutage clear
  split
  · split
    · rfl
    · split <;> rfl
  · split
    · split <;> rfl
    · rfl
  · rfl
  · rfl

@[simp] theorem after_maxSeconds : (allowance.after calls).maxSeconds = allowance.maxSeconds := by
  induction calls using List.reverseRecOn with
  | nil => rfl
  | append_singleton calls timed ih => rw [after_append, perform_maxSeconds, ih]

/-- The call withdraws the proof: a `clear`, or a `record_verified` or
`begin_outage` that returned `False`. -/
def withdraws (allowance : EmergencyLeaseAllowance) (timed : TimedCall) : Bool :=
  match timed.call with
  | .recordVerified _ _ _ | .beginOutage _ _ _ => !(allowance.perform timed).2
  | .clear => true
  | .requireValid _ => false

/-- No call of the history withdraws the proof. -/
def keepsProof (allowance : EmergencyLeaseAllowance) : List TimedCall → Bool
  | [] => true
  | timed :: calls =>
    !allowance.withdraws timed && keepsProof (allowance.perform timed).1 calls

theorem keepsProof_append (timed : TimedCall) :
    allowance.keepsProof (calls ++ [timed]) =
      (allowance.keepsProof calls && !(allowance.after calls).withdraws timed) := by
  induction calls generalizing allowance with
  | nil => simp [keepsProof, after]
  | cons first calls ih =>
    show (!allowance.withdraws first &&
      (allowance.perform first).1.keepsProof (calls ++ [timed])) = _
    rw [ih, ← Bool.and_assoc]
    rfl

end

/-- How a call can leave a snapshot: a verification takes a new one, an outage
activates the one there is, and a `require_valid` reads it. -/
theorem perform_snapshot (h : (allowance.perform timed).1.snapshot = some snapshot) :
    allowance.withdraws timed = false ∧
      ((∃ lease, timed.call = .recordVerified (some lease) true false ∧
          snapshot.carries lease = true ∧
          snapshot.expiresAtMonotonic = timed.time + allowance.maxSeconds ∧
          snapshot.outageStartedMonotonic = none) ∨
        (∃ lease old, timed.call = .beginOutage (some lease) true false ∧
          allowance.snapshot = some old ∧ old.carries lease = true ∧
          snapshot = { old with outageStartedMonotonic := some timed.time }) ∨
        allowance.snapshot = some snapshot) := by
  cases hCall : timed.call with
  | recordVerified lease verifiedCurrent handoffPending =>
    cases lease with
    | none => simp [perform, hCall, recordVerified] at h
    | some lease =>
      by_cases hRefused : verifiedCurrent = false ∨ handoffPending = true ∨
          lease.deviceId = "" ∨ lease.leaseToken = "" ∨ lease.leaseEpoch ≤ 0
      · simp [perform, hCall, recordVerified, hRefused] at h
      · simp only [perform, hCall, recordVerified, if_neg hRefused, Option.some.injEq] at h
        simp only [not_or, Bool.not_eq_false, Bool.not_eq_true] at hRefused
        refine ⟨by simp [withdraws, perform, hCall, recordVerified, hRefused], Or.inl ?_⟩
        refine ⟨lease, by rw [hRefused.1, hRefused.2.1], ?_⟩
        rw [← h]
        simp [EmergencyLeaseSnapshot.carries]
  | beginOutage lease verifiedCurrent handoffPending =>
    cases lease with
    | none => simp [perform, hCall, beginOutage] at h
    | some lease =>
      cases hOld : allowance.snapshot with
      | none => simp [perform, hCall, beginOutage, hOld] at h
      | some old =>
        by_cases hRefused : verifiedCurrent = false ∨ handoffPending = true ∨
            old.expiresAtMonotonic ≤ timed.time ∨ old.carries lease = false
        · simp [perform, hCall, beginOutage, hOld, hRefused] at h
        · simp only [perform, hCall, beginOutage, hOld, if_neg hRefused, Option.some.injEq] at h
          simp only [not_or, Bool.not_eq_false, Bool.not_eq_true] at hRefused
          refine ⟨by simp [withdraws, perform, hCall, beginOutage, hOld, hRefused],
            Or.inr (Or.inl ?_)⟩
          exact ⟨lease, old, by rw [hRefused.1, hRefused.2.1], rfl, hRefused.2.2.2, h.symm⟩
  | clear => simp [perform, hCall, clear] at h
  | requireValid =>
    simp only [perform, hCall] at h
    exact ⟨by simp [withdraws, hCall], Or.inr (Or.inr h)⟩

/-! ## What a snapshot was earned by -/

/-- A call for exactly this lease that returned `True` in the state it met. -/
structure AcceptedFor (allowance : EmergencyLeaseAllowance) (timed : TimedCall)
    (call : ExecutionLease → AllowanceCall) (snapshot : EmergencyLeaseSnapshot) : Prop where
  accepted : (allowance.perform timed).2 = true
  sameLease : ∃ lease, timed.call = call lease ∧ snapshot.carries lease = true

/-- The history behind a snapshot: the verification it was taken at, no
withdrawal since, and the outage that activated it. -/
structure EarnedBy (start : EmergencyLeaseAllowance) (earlier : List TimedCall)
    (verification : TimedCall) (rest : List TimedCall) (snapshot : EmergencyLeaseSnapshot) :
    Prop where
  verified : (start.after earlier).AcceptedFor verification
    (fun lease => .recordVerified (some lease) true false) snapshot
  expires : snapshot.expiresAtMonotonic = verification.time + start.maxSeconds
  kept : (start.after (earlier ++ [verification])).keepsProof rest = true
  activated : snapshot.outageStartedMonotonic ≠ none →
    ∃ between outage others, rest = between ++ outage :: others ∧
      (start.after (earlier ++ [verification] ++ between)).AcceptedFor outage
        (fun lease => .beginOutage (some lease) true false) snapshot

theorem AcceptedFor.of_carries {next : EmergencyLeaseSnapshot}
    (h : allowance.AcceptedFor timed call snapshot)
    (hCarries : ∀ lease, next.carries lease = snapshot.carries lease) :
    allowance.AcceptedFor timed call next := by
  obtain ⟨lease, hCall, hLease⟩ := h.sameLease
  exact ⟨h.accepted, lease, hCall, by rw [hCarries, hLease]⟩

/-- A verification or an outage that was not refused returned `True`. -/
theorem acceptedFor_of_kept {lease : ExecutionLease} (hKept : allowance.withdraws timed = false)
    (hKind : call = (fun lease => .recordVerified (some lease) true false) ∨
      call = (fun lease => .beginOutage (some lease) true false)) (hCall : timed.call = call lease)
    (hLease : snapshot.carries lease = true) : allowance.AcceptedFor timed call snapshot := by
  refine ⟨?_, lease, hCall, hLease⟩
  unfold withdraws at hKept
  rcases hKind with rfl | rfl
  all_goals
    rw [hCall] at hKept
    simpa using hKept

/-- Every snapshot an allowance holds was earned by its history. -/
theorem snapshot_earned {start : EmergencyLeaseAllowance} (hStart : start.snapshot = none)
    (calls : List TimedCall) (h : (start.after calls).snapshot = some snapshot) :
    ∃ earlier verification rest, calls = earlier ++ [verification] ++ rest ∧
      EarnedBy start earlier verification rest snapshot := by
  induction calls using List.reverseRecOn generalizing snapshot with
  | nil =>
    rw [show start.after [] = start from rfl, hStart] at h
    cases h
  | append_singleton calls timed ih =>
    rw [after_append] at h
    obtain ⟨hKept, hVerified | hOutage | hRead⟩ := perform_snapshot h
    · obtain ⟨lease, hCall, hLease, hExpires, hInactive⟩ := hVerified
      refine ⟨calls, timed, [], by simp, ?_⟩
      exact
        { verified := acceptedFor_of_kept hKept (Or.inl rfl) hCall hLease
          expires := by rw [hExpires, after_maxSeconds]
          kept := rfl
          activated := fun hActive => absurd hInactive hActive }
    · obtain ⟨lease, old, hCall, hOld, hLease, hSnapshot⟩ := hOutage
      obtain ⟨earlier, verification, rest, hCalls, hEarned⟩ := ih hOld
      have hCarries : ∀ lease, snapshot.carries lease = old.carries lease := by
        intro lease
        rw [hSnapshot]
        rfl
      refine ⟨earlier, verification, rest ++ [timed], by rw [hCalls]; simp, ?_⟩
      have hHere : start.after calls = (start.after (earlier ++ [verification])).after rest := by
        rw [hCalls]
        simp [after]
      exact
        { verified := hEarned.verified.of_carries hCarries
          expires := by rw [hSnapshot]; exact hEarned.expires
          kept := by rw [keepsProof_append, hEarned.kept, ← hHere, hKept]; rfl
          activated := fun _ => ⟨rest, timed, [], rfl, by
            rw [← hCalls]
            exact acceptedFor_of_kept hKept (Or.inr rfl) hCall (by rw [hCarries, hLease])⟩ }
    · obtain ⟨earlier, verification, rest, hCalls, hEarned⟩ := ih hRead
      refine ⟨earlier, verification, rest ++ [timed], by rw [hCalls]; simp, ?_⟩
      have hHere : start.after calls = (start.after (earlier ++ [verification])).after rest := by
        rw [hCalls]
        simp [after]
      refine
        { verified := hEarned.verified
          expires := hEarned.expires
          kept := by rw [keepsProof_append, hEarned.kept, ← hHere, hKept]; rfl
          activated := fun hActive => ?_ }
      obtain ⟨between, outage, others, rfl, hAccepted⟩ := hEarned.activated hActive
      exact ⟨between, outage, others ++ [timed], by simp, hAccepted⟩

/-- An emergency action is granted only within the window of an earlier
verification of its own lease that an outage activated and nothing withdrew. -/
theorem requireValid_earned (start : EmergencyLeaseAllowance) (hStart : start.snapshot = none)
    (calls : List TimedCall) (now : ℚ) (lease : Option ExecutionLease)
    (granted : EmergencyLeaseSnapshot)
    (h : (start.after calls).requireValid now lease = .ok granted) :
    ∃ (earlier between others : List TimedCall) (verification outage : TimedCall)
      (carried : ExecutionLease),
      lease = some carried ∧
      calls = earlier ++ [verification] ++ (between ++ outage :: others) ∧
      verification.call = .recordVerified (some carried) true false ∧
      ((start.after earlier).perform verification).2 = true ∧
      now - verification.time < start.maxSeconds ∧
      outage.call = .beginOutage (some carried) true false ∧
      ((start.after (earlier ++ [verification] ++ between)).perform outage).2 = true ∧
      (start.after (earlier ++ [verification])).keepsProof (between ++ outage :: others) =
        true := by
  obtain ⟨hSnapshot, hActive, hFresh, carried, hLease, hCarries⟩ := requireValid_ok h
  obtain ⟨earlier, verification, rest, hCalls, hEarned⟩ := snapshot_earned hStart calls hSnapshot
  obtain ⟨between, outage, others, rfl, hOutage⟩ := hEarned.activated hActive
  obtain ⟨verified, hVerified, hVerifiedLease⟩ := hEarned.verified.sameLease
  obtain ⟨interrupted, hInterrupted, hInterruptedLease⟩ := hOutage.sameLease
  rw [carries_unique hVerifiedLease hCarries] at hVerified
  rw [carries_unique hInterruptedLease hCarries] at hInterrupted
  have hWindow : now - verification.time < start.maxSeconds := by
    rw [hEarned.expires] at hFresh
    linarith
  exact ⟨earlier, between, others, verification, outage, carried, hLease, hCalls, hVerified,
    hEarned.verified.accepted, hWindow, hInterrupted, hOutage.accepted, hEarned.kept⟩

/-- A lease verified at 0, interrupted at 10 and used at 20 of a 30 second window. -/
theorem requireValid_earned_sample :
    let lease : ExecutionLease := { deviceId := "d", leaseToken := "t", leaseEpoch := 1 }
    let start : EmergencyLeaseAllowance := { maxSeconds := 30 }
    ∃ verification : TimedCall,
      verification.call = .recordVerified (some lease) true false ∧
        20 - verification.time < start.maxSeconds := by
  intro lease start
  have hGranted : (start.after
      [{ time := 0, call := .recordVerified (some lease) true false },
        { time := 10, call := .beginOutage (some lease) true false }]).requireValid 20
          (some lease) =
      .ok { deviceId := "d", leaseToken := "t", leaseEpoch := 1, verifiedAtMonotonic := 0
            outageStartedMonotonic := some 10, expiresAtMonotonic := 30 } := by
    decide +kernel
  obtain ⟨_, _, _, verification, _, carried, hLease, _, hCall, _, hWindow, _⟩ :=
    requireValid_earned start rfl _ 20 (some lease) _ hGranted
  cases hLease
  exact ⟨verification, hCall, hWindow⟩

end EmergencyLeaseAllowance

end QuantApp.Services
