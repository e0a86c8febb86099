import QuantApp.Services.KisRequestScheduler

/-!
# The rate of mutations

Between two authoritative settings the bucket of an account and endpoint is a budget that is
filled up lazily, so that within its window no more than twice its capacity is admitted.
-/

namespace QuantApp.Services

open Core Verified

variable {bucket : BudgetBucket} {after : KisRequestScheduler}

/-- What remains in a bucket lies between nothing and its capacity. -/
structure BudgetBucket.Sound (bucket : BudgetBucket) : Prop where
  nonneg : 0 ≤ bucket.remaining
  within : bucket.remaining ≤ bucket.capacity

namespace KisRequestScheduler

/-! ## One bucket -/

section Buckets

variable {scheduler : KisRequestScheduler} {key key' : BudgetKey} {bucket : BudgetBucket} {now : ℚ}

@[simp] theorem buckets_refreshBudgetMetrics :
    scheduler.refreshBudgetMetrics.buckets = scheduler.buckets := rfl

theorem get?_setBucket : (scheduler.setBucket key bucket).buckets.get? key' =
    if key' = key then some bucket else scheduler.buckets.get? key' :=
  Dictionary.get?_set

theorem get?_lookAt : (scheduler.lookAt key now).buckets.get? key' =
    if key' = key then some (scheduler.currentBucket key now)
    else scheduler.buckets.get? key' := by
  unfold lookAt
  cases hBucket : scheduler.buckets.get? key with
  | none => exact get?_setBucket
  | some bucket =>
    dsimp only
    split
    · exact get?_setBucket
    next hNotDue =>
      split
      next hKey =>
        have hCurrent : scheduler.currentBucket key now = bucket := by
          unfold currentBucket
          rw [hBucket]
          exact if_neg hNotDue
        rw [hKey, hBucket, hCurrent]
      · rfl

@[simp] theorem policy_lookAt : (scheduler.lookAt key now).policy = scheduler.policy := by
  unfold lookAt
  split
  · rfl
  · split <;> rfl

/-- What a bucket can be filled up to: that of the bucket or, before there is one, the
policy's. -/
def capacityOf (scheduler : KisRequestScheduler) (key : BudgetKey) : Int :=
  match scheduler.buckets.get? key with
  | none => (scheduler.policy key.1).capacity
  | some bucket => bucket.capacity

/-- The window after which a bucket is filled up. -/
def windowOf (scheduler : KisRequestScheduler) (key : BudgetKey) : ℚ :=
  match scheduler.buckets.get? key with
  | none => (scheduler.policy key.1).windowSeconds
  | some bucket => bucket.windowSeconds

/-- A bucket as a budget; where there is none, it is made when it is looked at. -/
def budgetOf (scheduler : KisRequestScheduler) (key : BudgetKey) : WindowBudget ℚ :=
  match scheduler.buckets.get? key with
  | none => ⟨0, none⟩
  | some bucket => ⟨bucket.remaining, some bucket.resetAt⟩

/-- Every bucket is sound. -/
def Sound (scheduler : KisRequestScheduler) : Prop :=
  ∀ key bucket, scheduler.buckets.get? key = some bucket → bucket.Sound

theorem sound_newBucket (scheduler : KisRequestScheduler) (kind : RequestKind) (now : ℚ) :
    (scheduler.newBucket kind now).Sound := by
  have hReserve := scheduler.reserveNonnegative
  have hPositive := (scheduler.policy kind).capacityPositive
  cases kind with
  | read => exact ⟨le_of_lt hPositive, le_refl _⟩
  | mutation => exact ⟨le_min (le_of_lt hPositive) hReserve, min_le_left _ _⟩

theorem sound_refilled (h : bucket.Sound) : (scheduler.refilled bucket now).Sound := by
  have hCapacity : 0 ≤ bucket.capacity := h.nonneg.trans h.within
  have hReserve := scheduler.reserveNonnegative
  unfold refilled
  constructor
  · dsimp only
    split
    · exact hCapacity
    · exact le_min hCapacity hReserve
  · dsimp only
    split
    · exact le_refl _
    · exact min_le_left _ _

/-- A bucket is looked at as it is, unless its time has come. -/
theorem currentBucket_spec (hSound : scheduler.Sound) (key : BudgetKey) (now : ℚ) :
    (scheduler.currentBucket key now).Sound ∧
      (scheduler.currentBucket key now).capacity = scheduler.capacityOf key ∧
      (scheduler.currentBucket key now).windowSeconds = scheduler.windowOf key ∧
      (scheduler.buckets.get? key = some (scheduler.currentBucket key now) ∨
        (scheduler.budgetOf key).Due now ∧
          (scheduler.currentBucket key now).resetAt = now + scheduler.windowOf key) := by
  unfold currentBucket capacityOf windowOf budgetOf WindowBudget.Due
  cases hBucket : scheduler.buckets.get? key with
  | none =>
    refine ⟨sound_newBucket scheduler key.1 now, rfl, rfl, Or.inr ⟨?_, rfl⟩⟩
    intro reset hReset
    cases hReset
  | some bucket =>
    have hBucketSound := hSound key bucket hBucket
    by_cases hDue : bucket.resetAt ≤ now
    · dsimp only
      rw [if_pos hDue]
      refine ⟨sound_refilled hBucketSound, rfl, rfl, Or.inr ⟨?_, rfl⟩⟩
      rintro reset ⟨⟩
      exact hDue
    · dsimp only
      rw [if_neg hDue]
      exact ⟨hBucketSound, rfl, rfl, Or.inl rfl⟩

theorem Sound.setBucket (h : scheduler.Sound) (hBucket : bucket.Sound) :
    (scheduler.setBucket key bucket).Sound := by
  intro other found hFound
  rw [get?_setBucket] at hFound
  split at hFound
  · cases hFound
    exact hBucket
  · exact h other found hFound

theorem Sound.lookAt (h : scheduler.Sound) (key : BudgetKey) (now : ℚ) :
    (scheduler.lookAt key now).Sound := by
  intro other found hFound
  rw [get?_lookAt] at hFound
  split at hFound
  · cases hFound
    exact (currentBucket_spec h key now).1
  · exact h other found hFound

theorem sound_create (readPolicy mutationPolicy : BudgetPolicy) (reserve : Int) :
    (create readPolicy mutationPolicy reserve).Sound := by
  intro key bucket hBucket
  cases hBucket

end Buckets

/-! ## One call -/

section Calls

variable {lower : String → String} {scheduler : KisRequestScheduler} {key : BudgetKey} {now : ℚ}
  {call : BudgetCall} {accountNo endpoint : String} {priority : RequestPriority}
  {isNewEntry consume : Bool}

/-- What a check that is passed leaves of its bucket. -/
def drawn (bucket : BudgetBucket) (consume : Bool) : BudgetBucket :=
  if consume then { bucket with remaining := bucket.remaining - 1 } else bucket

/-- A check is passed with something left, and by new entries only where the budget is known; the
bucket is brought up to date, and one is taken where it is consumed. -/
theorem requireAvailable_cases (lower : String → String) (scheduler : KisRequestScheduler)
    (accountNo endpoint : String) (priority : RequestPriority) (isNewEntry consume : Bool)
    (now : ℚ) :
    let key := budgetKey lower .mutation accountNo endpoint
    let bucket := scheduler.currentBucket key now
    let result := scheduler.requireAvailable lower accountNo endpoint priority isNewEntry consume
      now
    result.2.policy = scheduler.policy ∧
      ((result.1 = .ok () ∧ 0 < bucket.remaining ∧
          (isNewEntry = true → bucket.knowledge = .known) ∧
          ∀ other, result.2.buckets.get? other =
            if other = key then some (drawn bucket consume) else scheduler.buckets.get? other) ∨
        (result.1 ≠ .ok () ∧ ∀ other, result.2.buckets.get? other =
          if other = key then some bucket else scheduler.buckets.get? other)) := by
  intro key bucket result
  have hLooked : ∀ other, (scheduler.lookAt key now).buckets.get? other =
      if other = key then some bucket else scheduler.buckets.get? other :=
    fun other => get?_lookAt
  have hPolicy : (scheduler.lookAt key now).policy = scheduler.policy := policy_lookAt
  by_cases hEntry : isNewEntry = true ∧ bucket.knowledge ≠ .known
  · have hResult : result = (.error .requestBudgetUncertain,
        (scheduler.lookAt key now).withRejection true) := if_pos hEntry
    rw [hResult]
    exact ⟨hPolicy, Or.inr ⟨(fun hOk => nomatch hOk), hLooked⟩⟩
  have hKnown : isNewEntry = true → bucket.knowledge = .known :=
    fun hNew => not_not.mp (fun hUnknown => hEntry ⟨hNew, hUnknown⟩)
  by_cases hNone : bucket.remaining ≤ 0
  · have hResult : result = (.error (.mutationBudgetExceeded accountNo endpoint priority),
        (scheduler.lookAt key now).withRejection false) :=
      (if_neg hEntry).trans (if_pos hNone)
    rw [hResult]
    exact ⟨hPolicy, Or.inr ⟨(fun hOk => nomatch hOk), hLooked⟩⟩
  cases consume with
  | false =>
    have hResult : result = (.ok (), scheduler.lookAt key now) :=
      (if_neg hEntry).trans (if_neg hNone)
    rw [hResult]
    exact ⟨hPolicy, Or.inl ⟨rfl, not_le.mp hNone, hKnown, hLooked⟩⟩
  | true =>
    have hResult : result = (.ok (), (scheduler.lookAt key now).setBucket key
        { bucket with remaining := bucket.remaining - 1 }) :=
      (if_neg hEntry).trans (if_neg hNone)
    rw [hResult]
    refine ⟨hPolicy, Or.inl ⟨rfl, not_le.mp hNone, hKnown, fun other => ?_⟩⟩
    rw [get?_setBucket, hLooked]
    split <;> rfl

/-- The bucket that a mark leaves. -/
def marked (scheduler : KisRequestScheduler) (key : BudgetKey) (now : ℚ) : BudgetBucket :=
  { scheduler.currentBucket key now with
    knowledge := .uncertain
    remaining :=
      if key.1 = .mutation then
        min (scheduler.currentBucket key now).remaining scheduler.uncertainProtectiveReserve
      else (scheduler.currentBucket key now).remaining }

theorem get?_markBudgetUncertain {other : BudgetKey} :
    (scheduler.markBudgetUncertain key now).buckets.get? other =
      if other = key then some (scheduler.marked key now) else scheduler.buckets.get? other := by
  unfold markBudgetUncertain
  rw [buckets_refreshBudgetMetrics, get?_setBucket, get?_lookAt]
  split <;> rfl

theorem marked_within (hSound : scheduler.Sound) (key : BudgetKey) (now : ℚ) :
    0 ≤ (scheduler.marked key now).remaining ∧
      (scheduler.marked key now).remaining ≤ (scheduler.currentBucket key now).remaining := by
  have hReserve := scheduler.reserveNonnegative
  have hNonneg := (currentBucket_spec hSound key now).1.nonneg
  unfold marked
  dsimp only
  split
  · exact ⟨le_min hNonneg hReserve, min_le_left _ _⟩
  · exact ⟨hNonneg, le_refl _⟩

@[simp] theorem capacity_drawn : (drawn bucket consume).capacity = bucket.capacity := by
  cases consume <;> rfl

@[simp] theorem windowSeconds_drawn :
    (drawn bucket consume).windowSeconds = bucket.windowSeconds := by
  cases consume <;> rfl

@[simp] theorem resetAt_drawn : (drawn bucket consume).resetAt = bucket.resetAt := by
  cases consume <;> rfl

theorem drawn_within (hSome : 0 < bucket.remaining) (consume : Bool) :
    (drawn bucket consume).remaining = bucket.remaining - (if consume then 1 else 0) ∧
      0 ≤ (drawn bucket consume).remaining := by
  unfold drawn
  cases consume
  · exact ⟨(sub_zero _).symm, le_of_lt hSome⟩
  · exact ⟨rfl, Int.sub_nonneg.mpr hSome⟩

theorem policy_perform (lower : String → String) (scheduler : KisRequestScheduler) (now : ℚ)
    (call : BudgetCall) : (scheduler.perform lower now call).2.policy = scheduler.policy := by
  cases call with
  | synchronizeBudget => rfl
  | configureVerifiedMutationBudget =>
    unfold perform configureVerifiedMutationBudget
    dsimp only
    split
    · rfl
    · split <;> rfl
  | markBudgetUncertain => exact policy_lookAt
  | requireAvailable accountNo endpoint priority isNewEntry consume =>
    exact (requireAvailable_cases lower scheduler accountNo endpoint priority isNewEntry consume
      now).1

theorem Sound.perform (h : scheduler.Sound) (lower : String → String) (now : ℚ)
    (call : BudgetCall) : (scheduler.perform lower now call).2.Sound := by
  cases call with
  | synchronizeBudget kind =>
    have hPositive := (scheduler.policy kind).capacityPositive
    refine Sound.setBucket h ⟨le_max_left 0 _, max_le (le_of_lt hPositive) (min_le_left _ _)⟩
  | configureVerifiedMutationBudget =>
    unfold KisRequestScheduler.perform configureVerifiedMutationBudget
    dsimp only
    split
    · exact h
    next hPositive =>
      split
      · exact h
      · exact Sound.setBucket h
          ⟨le_of_lt (not_le.mp (not_or.mp hPositive).1), le_refl _⟩
  | markBudgetUncertain kind accountNo endpoint =>
    have hMarked := marked_within h (budgetKey lower kind accountNo endpoint) now
    have hCurrent := (currentBucket_spec h (budgetKey lower kind accountNo endpoint) now).1
    exact (h.lookAt _ now).setBucket ⟨hMarked.1, hMarked.2.trans hCurrent.within⟩
  | requireAvailable accountNo endpoint priority isNewEntry consume =>
    have hCurrent := (currentBucket_spec h (budgetKey lower .mutation accountNo endpoint) now).1
    obtain ⟨-, ⟨-, hSome, -, hLeft⟩ | ⟨-, hLeft⟩⟩ := requireAvailable_cases lower scheduler
      accountNo endpoint priority isNewEntry consume now
    · intro other found hFound
      have hFound := (hLeft other).symm.trans hFound
      split at hFound
      · cases hFound
        obtain ⟨hTaken, hNonneg⟩ := drawn_within hSome consume
        refine ⟨hNonneg, ?_⟩
        rw [hTaken, capacity_drawn]
        have hWithin := hCurrent.within
        split <;> omega
      · exact h other found hFound
    · intro other found hFound
      have hFound := (hLeft other).symm.trans hFound
      split at hFound
      · cases hFound
        exact hCurrent
      · exact h other found hFound

/-- The window that a call sets for a key, where it is an authoritative setting. -/
def settingWindow (lower : String → String) (scheduler : KisRequestScheduler) (key : BudgetKey) :
    BudgetCall → Option ℚ
  | .synchronizeBudget kind accountNo endpoint _ reset =>
    if budgetKey lower kind accountNo endpoint = key then
      some (match reset with
        | none => (scheduler.policy kind).windowSeconds
        | some seconds => max (1 / 1000) seconds)
    else none
  | .configureVerifiedMutationBudget accountNo endpoint capacity window =>
    if budgetKey lower .mutation accountNo endpoint = key ∧ 0 < capacity ∧ 0 < window ∧
        key ∉ scheduler.buckets then some window
    else none
  | .markBudgetUncertain _ _ _ | .requireAvailable _ _ _ _ _ => none

/-- Whether a call admits a mutation for a key. -/
def admits (lower : String → String) (scheduler : KisRequestScheduler) (key : BudgetKey)
    (now : ℚ) : BudgetCall → Bool
  | .requireAvailable accountNo endpoint priority isNewEntry consume =>
    budgetKey lower .mutation accountNo endpoint = key && consume &&
      (scheduler.requireAvailable lower accountNo endpoint priority isNewEntry consume now).1 =
        .ok ()
  | _ => false

/-- What a call takes of the budget of a key. -/
def taken (lower : String → String) (scheduler : KisRequestScheduler) (key : BudgetKey) (now : ℚ)
    (call : BudgetCall) : Int :=
  if scheduler.admits lower key now call then 1 else 0

/-- A call leaves the window and the capacity of a key as they are. -/
structure KeepsBudget (before after : KisRequestScheduler) (key : BudgetKey) : Prop where
  capacity : after.capacityOf key = before.capacityOf key
  window : after.windowOf key = before.windowOf key

theorem keepsBudget_of_get? (hPolicy : after.policy = scheduler.policy)
    (hGet : after.buckets.get? key = scheduler.buckets.get? key) :
    KeepsBudget scheduler after key ∧ after.budgetOf key = scheduler.budgetOf key := by
  unfold budgetOf
  refine ⟨⟨?_, ?_⟩, ?_⟩
  · unfold capacityOf
    rw [hGet, hPolicy]
  · unfold windowOf
    rw [hGet, hPolicy]
  · rw [hGet]

variable (hSound : scheduler.Sound)
include hSound

theorem budgetOf_nonneg (key : BudgetKey) :
    0 ≤ (scheduler.budgetOf key).remaining ∧
      (scheduler.budgetOf key).remaining ≤ scheduler.capacityOf key := by
  unfold budgetOf capacityOf
  cases hBucket : scheduler.buckets.get? key with
  | none => exact ⟨le_refl _, le_of_lt (scheduler.policy key.1).capacityPositive⟩
  | some bucket =>
    have hBucketSound := hSound key bucket hBucket
    exact ⟨hBucketSound.nonneg, hBucketSound.within⟩

theorem spend_of_get? (hPolicy : after.policy = scheduler.policy)
    (hGet : after.buckets.get? key = scheduler.buckets.get? key) :
    KeepsBudget scheduler after key ∧
      Spend (scheduler.capacityOf key) (scheduler.windowOf key) (scheduler.budgetOf key) now 0
        (after.budgetOf key) := by
  obtain ⟨hKeeps, hBudget⟩ := keepsBudget_of_get? hPolicy hGet
  rw [hBudget]
  exact ⟨hKeeps, Spend.kept (le_refl _) (budgetOf_nonneg hSound key).1 (add_zero _).le⟩

/-- A call that brings the bucket up to date and leaves some of it spends the rest. -/
theorem spend_of_current {spent : Int} (hGet : after.buckets.get? key = some bucket)
    (hCapacity : bucket.capacity = (scheduler.currentBucket key now).capacity)
    (hWindow : bucket.windowSeconds = (scheduler.currentBucket key now).windowSeconds)
    (hReset : bucket.resetAt = (scheduler.currentBucket key now).resetAt) (hSpent : 0 ≤ spent)
    (hNonneg : 0 ≤ bucket.remaining)
    (hLeft : bucket.remaining + spent ≤ (scheduler.currentBucket key now).remaining) :
    KeepsBudget scheduler after key ∧
      Spend (scheduler.capacityOf key) (scheduler.windowOf key) (scheduler.budgetOf key) now spent
        (after.budgetOf key) := by
  obtain ⟨hCurrent, hCapacityOf, hWindowOf, hLooked⟩ := currentBucket_spec hSound key now
  have hAfter : after.budgetOf key = ⟨bucket.remaining, some bucket.resetAt⟩ := by
    unfold budgetOf
    rw [hGet]
  refine ⟨⟨?_, ?_⟩, ?_⟩
  · rw [← hCapacityOf, ← hCapacity]
    unfold capacityOf
    rw [hGet]
  · rw [← hWindowOf, ← hWindow]
    unfold windowOf
    rw [hGet]
  · rw [hAfter]
    rcases hLooked with hFound | ⟨hDue, hNext⟩
    · have hBefore : scheduler.budgetOf key = ⟨(scheduler.currentBucket key now).remaining,
          some (scheduler.currentBucket key now).resetAt⟩ := by
        unfold budgetOf
        rw [hFound]
      rw [hBefore, hReset]
      exact Spend.kept hSpent hNonneg hLeft
    · have hWithin := hCurrent.within
      rw [hCapacityOf] at hWithin
      refine Spend.filled hDue hSpent hNonneg (hLeft.trans hWithin) ?_
      rw [hReset, hNext]

theorem perform_spend (lower : String → String) (key : BudgetKey) (now : ℚ) (call : BudgetCall)
    (hUnset : scheduler.settingWindow lower key call = none) :
    KeepsBudget scheduler (scheduler.perform lower now call).2 key ∧
      Spend (scheduler.capacityOf key) (scheduler.windowOf key) (scheduler.budgetOf key) now
        (scheduler.taken lower key now call)
        ((scheduler.perform lower now call).2.budgetOf key) := by
  have hPolicy := policy_perform lower scheduler now call
  cases call with
  | synchronizeBudget =>
    refine spend_of_get? hSound hPolicy ((get?_setBucket).trans (if_neg fun hKey => ?_))
    unfold settingWindow at hUnset
    dsimp only at hUnset
    rw [if_pos hKey.symm] at hUnset
    cases hUnset
  | configureVerifiedMutationBudget =>
    refine spend_of_get? hSound hPolicy ?_
    unfold perform configureVerifiedMutationBudget
    dsimp only
    split
    · rfl
    next hPositive =>
      split
      · rfl
      next hMissing =>
        refine (get?_setBucket).trans (if_neg fun hKey => ?_)
        obtain ⟨hCapacity, hWindow⟩ := not_or.mp hPositive
        unfold settingWindow at hUnset
        dsimp only at hUnset
        rw [if_pos ⟨hKey.symm, not_le.mp hCapacity, not_le.mp hWindow, hKey ▸ hMissing⟩] at hUnset
        cases hUnset
  | markBudgetUncertain kind accountNo endpoint =>
    by_cases hKey : key = budgetKey lower kind accountNo endpoint
    · have hMarked := marked_within hSound key now
      have hSpent : scheduler.taken lower key now (.markBudgetUncertain kind accountNo endpoint) =
          0 := rfl
      rw [hSpent]
      refine spend_of_current hSound (get?_markBudgetUncertain.trans (if_pos hKey)) ?_ ?_ ?_
        (le_refl _) ?_ ?_
      · rw [← hKey]
        rfl
      · rw [← hKey]
        rfl
      · rw [← hKey]
        rfl
      · rw [← hKey]
        exact hMarked.1
      · rw [← hKey, add_zero]
        exact hMarked.2
    · exact spend_of_get? hSound hPolicy (get?_markBudgetUncertain.trans (if_neg hKey))
  | requireAvailable accountNo endpoint priority isNewEntry consume =>
    obtain ⟨-, hCases⟩ := requireAvailable_cases lower scheduler accountNo endpoint priority
      isNewEntry consume now
    by_cases hKey : key = budgetKey lower .mutation accountNo endpoint
    · rcases hCases with ⟨hOk, hSome, -, hLeft⟩ | ⟨hRefused, hLeft⟩
      · obtain ⟨hTaken, hNonneg⟩ := drawn_within hSome consume
        have hSpent : scheduler.taken lower key now
            (.requireAvailable accountNo endpoint priority isNewEntry consume) =
              if consume then 1 else 0 := by
          unfold taken admits
          simp [hOk, hKey]
        rw [hSpent]
        rw [← hKey] at hTaken hNonneg
        refine spend_of_current hSound ((hLeft key).trans (if_pos hKey)) ?_ ?_ ?_ ?_ ?_ ?_
        · rw [← hKey, capacity_drawn]
        · rw [← hKey, windowSeconds_drawn]
        · rw [← hKey, resetAt_drawn]
        · split <;> decide
        · rw [← hKey]
          exact hNonneg
        · rw [← hKey, hTaken]
          omega
      · have hSpent : scheduler.taken lower key now
            (.requireAvailable accountNo endpoint priority isNewEntry consume) = 0 := by
          unfold taken admits
          simp [hRefused]
        have hCurrent := (currentBucket_spec hSound key now).1
        rw [hSpent]
        refine spend_of_current hSound ((hLeft key).trans (if_pos hKey)) ?_ ?_ ?_ (le_refl _)
          ?_ ?_
        · rw [← hKey]
        · rw [← hKey]
        · rw [← hKey]
        · rw [← hKey]
          exact hCurrent.nonneg
        · rw [← hKey, add_zero]
    · have hSpent : scheduler.taken lower key now
          (.requireAvailable accountNo endpoint priority isNewEntry consume) = 0 := by
        unfold taken admits
        simp [Ne.symm hKey]
      rw [hSpent]
      refine spend_of_get? hSound hPolicy ?_
      rcases hCases with ⟨-, -, -, hLeft⟩ | ⟨-, hLeft⟩
      all_goals exact (hLeft key).trans (if_neg hKey)

end Calls

end KisRequestScheduler

end QuantApp.Services
