import QuantApp.Services.MutationRate

/-!
# Runs of budget calls

Any sequence of calls at times that do not go back.  The admissions between two authoritative
settings are the events of a budget that is filled up lazily.
-/

namespace QuantApp.Services

open Core Verified

/-- A call and when it is made. -/
abbrev TimedBudgetCall := ℚ × BudgetCall

/-- The times do not go back. -/
def InOrder (calls : List TimedBudgetCall) : Prop :=
  calls.Pairwise (fun first later => first.1 ≤ later.1)

namespace KisRequestScheduler

variable (lower : String → String)

/-- What a sequence of calls leaves. -/
def after (scheduler : KisRequestScheduler) (calls : List TimedBudgetCall) : KisRequestScheduler :=
  calls.foldl (fun scheduler call => (scheduler.perform lower call.1 call.2).2) scheduler

/-- Every call meets a condition on the scheduler it is made to. -/
def Along (P : KisRequestScheduler → BudgetCall → Prop) :
    KisRequestScheduler → List TimedBudgetCall → Prop
  | _, [] => True
  | scheduler, (now, call) :: rest =>
    P scheduler call ∧ Along P (scheduler.perform lower now call).2 rest

/-- The times at which mutations of a key are admitted. -/
def admittedTimes (key : BudgetKey) : KisRequestScheduler → List TimedBudgetCall → List ℚ
  | _, [] => []
  | scheduler, (now, call) :: rest =>
    if scheduler.admits lower key now call then
      now :: admittedTimes key (scheduler.perform lower now call).2 rest
    else admittedTimes key (scheduler.perform lower now call).2 rest

/-- What the calls take of the budget of a key. -/
def spentEvents (key : BudgetKey) : KisRequestScheduler → List TimedBudgetCall → List (ℚ × Int)
  | _, [] => []
  | scheduler, (now, call) :: rest =>
    (now, scheduler.taken lower key now call) ::
      spentEvents key (scheduler.perform lower now call).2 rest

/-- How many of some times lie in a half-open interval. -/
def countWithin (start stop : ℚ) (times : List ℚ) : Nat :=
  times.countP (fun time => start ≤ time ∧ time < stop)

/-- The calls hold no authoritative setting of a key. -/
def Unset (key : BudgetKey) : KisRequestScheduler → List TimedBudgetCall → Prop :=
  Along lower (fun scheduler call => scheduler.settingWindow lower key call = none)

/-- The authoritative settings of a key set no window that is shorter than the policy's. -/
def KeepsWindow (key : BudgetKey) : KisRequestScheduler → List TimedBudgetCall → Prop :=
  Along lower (fun scheduler call => ∀ window,
    scheduler.settingWindow lower key call = some window →
      scheduler.mutationPolicy.windowSeconds ≤ window)

section Runs

variable {lower} {scheduler : KisRequestScheduler} {key : BudgetKey}
  {calls rest : List TimedBudgetCall} {P : KisRequestScheduler → BudgetCall → Prop}

theorem after_append : scheduler.after lower (calls ++ rest) =
    (scheduler.after lower calls).after lower rest :=
  List.foldl_append

theorem along_append : Along lower P scheduler (calls ++ rest) ↔
    Along lower P scheduler calls ∧ Along lower P (scheduler.after lower calls) rest := by
  induction calls generalizing scheduler with
  | nil => exact ⟨fun h => ⟨trivial, h⟩, fun h => h.2⟩
  | cons call calls ih =>
    obtain ⟨now, call⟩ := call
    show (P scheduler call ∧ Along lower P _ (calls ++ rest)) ↔
      (P scheduler call ∧ Along lower P _ calls) ∧ _
    rw [ih, and_assoc]
    rfl

theorem Sound.after (h : scheduler.Sound) (lower : String → String) (calls : List TimedBudgetCall) :
    (scheduler.after lower calls).Sound := by
  induction calls generalizing scheduler with
  | nil => exact h
  | cons call calls ih => exact ih (h.perform lower call.1 call.2)

theorem map_fst_spentEvents (lower : String → String) (key : BudgetKey)
    (scheduler : KisRequestScheduler) (calls : List TimedBudgetCall) :
    (spentEvents lower key scheduler calls).map Prod.fst = calls.map Prod.fst := by
  induction calls generalizing scheduler with
  | nil => rfl
  | cons call calls ih => exact congrArg (call.1 :: ·) (ih _)

theorem inOrder_spentEvents (h : InOrder calls) (lower : String → String) (key : BudgetKey)
    (scheduler : KisRequestScheduler) :
    (spentEvents lower key scheduler calls).Pairwise
      (fun first later => first.1 ≤ later.1) := by
  have hTimes : (calls.map Prod.fst).Pairwise (· ≤ ·) := List.pairwise_map.mpr h
  rw [← map_fst_spentEvents lower key scheduler] at hTimes
  exact List.pairwise_map.mp hTimes

/-- What is taken within an interval is what is admitted within it. -/
theorem spentWithin_spentEvents (lower : String → String) (key : BudgetKey)
    (scheduler : KisRequestScheduler) (calls : List TimedBudgetCall) (start stop : ℚ) :
    spentWithin start stop (spentEvents lower key scheduler calls) =
      countWithin start stop (admittedTimes lower key scheduler calls) := by
  induction calls generalizing scheduler with
  | nil => rfl
  | cons call calls ih =>
    obtain ⟨now, call⟩ := call
    have hRest := ih (scheduler.perform lower now call).2
    unfold spentEvents admittedTimes taken
    unfold countWithin spentWithin at hRest ⊢
    by_cases hAdmits : scheduler.admits lower key now call = true
    · by_cases hWithin : start ≤ now ∧ now < stop
      · simp only [hAdmits, if_true, List.filter_cons, List.countP_cons, hWithin, and_self,
          decide_true, List.map_cons, List.sum_cons, hRest, Nat.cast_add, Nat.cast_one]
        omega
      · simp only [hAdmits, if_true, List.filter_cons, List.countP_cons, hWithin, decide_false,
          Bool.false_eq_true, if_false, hRest, add_zero]
    · by_cases hWithin : start ≤ now ∧ now < stop
      · simp only [hAdmits, if_false, List.filter_cons, hWithin, and_self, decide_true, if_true,
          Bool.false_eq_true, List.map_cons, List.sum_cons, hRest, zero_add]
      · simp only [hAdmits, if_false, List.filter_cons, hWithin, decide_false,
          Bool.false_eq_true, hRest]

/-- Between two settings the calls spend the budget of a key. -/
theorem spendRun_of_unset (hSound : scheduler.Sound) (hUnset : Unset lower key scheduler calls) :
    KeepsBudget scheduler (scheduler.after lower calls) key ∧
      SpendRun (scheduler.capacityOf key) (scheduler.windowOf key) (scheduler.budgetOf key)
        (spentEvents lower key scheduler calls)
        ((scheduler.after lower calls).budgetOf key) := by
  induction calls generalizing scheduler with
  | nil => exact ⟨⟨rfl, rfl⟩, SpendRun.nil _⟩
  | cons call calls ih =>
    obtain ⟨now, call⟩ := call
    obtain ⟨hCall, hRest⟩ := hUnset
    obtain ⟨hKeeps, hSpend⟩ := perform_spend hSound lower key now call hCall
    obtain ⟨hKeepsRest, hRun⟩ := ih (hSound.perform lower now call) hRest
    rw [hKeeps.capacity, hKeeps.window] at hRun
    exact ⟨⟨hKeepsRest.capacity.trans hKeeps.capacity, hKeepsRest.window.trans hKeeps.window⟩,
      SpendRun.cons hSpend hRun⟩

/-- Between two settings no more than twice the capacity is admitted within the window. -/
theorem admitted_within_window (hSound : scheduler.Sound) (hOrder : InOrder calls)
    (hUnset : Unset lower key scheduler calls) {start stop : ℚ}
    (hLength : stop ≤ start + scheduler.windowOf key) :
    (countWithin start stop (admittedTimes lower key scheduler calls) : Int) ≤
      2 * (scheduler.after lower calls).capacityOf key := by
  obtain ⟨hKeeps, hRun⟩ := spendRun_of_unset hSound hUnset
  obtain ⟨hNonneg, hWithin⟩ := budgetOf_nonneg hSound key
  rw [← spentWithin_spentEvents, hKeeps.capacity]
  exact hRun.within_window (inOrder_spentEvents hOrder lower key scheduler) hNonneg hWithin hLength

theorem windowOf_perform_of_setting {window now : ℚ} {call : BudgetCall}
    (h : scheduler.settingWindow lower key call = some window) :
    (scheduler.perform lower now call).2.windowOf key = window := by
  cases call with
  | synchronizeBudget =>
    unfold settingWindow at h
    dsimp only at h
    split at h
    next hKey =>
      cases h
      subst hKey
      unfold windowOf perform synchronizeBudget
      dsimp only
      rw [buckets_refreshBudgetMetrics, get?_setBucket, if_pos rfl]
      rfl
    · cases h
  | configureVerifiedMutationBudget =>
    unfold settingWindow at h
    dsimp only at h
    split at h
    next hSetting =>
      cases h
      obtain ⟨rfl, hCapacity, hWindow, hMissing⟩ := hSetting
      unfold windowOf perform configureVerifiedMutationBudget
      dsimp only
      rw [if_neg (not_or.mpr ⟨not_le.mpr hCapacity, not_le.mpr hWindow⟩), if_neg hMissing]
      dsimp only
      rw [buckets_refreshBudgetMetrics, get?_setBucket, if_pos rfl]
    · cases h
  | markBudgetUncertain | requireAvailable => cases h

/-- Where no setting is shorter, the window of a bucket is as long as the policy's. -/
theorem window_le_of_keeps (hSound : scheduler.Sound)
    (hWindow : scheduler.mutationPolicy.windowSeconds ≤ scheduler.windowOf key)
    (h : KeepsWindow lower key scheduler calls) :
    scheduler.mutationPolicy.windowSeconds ≤ (scheduler.after lower calls).windowOf key := by
  induction calls generalizing scheduler with
  | nil => exact hWindow
  | cons call calls ih =>
    obtain ⟨now, call⟩ := call
    obtain ⟨hCall, hRest⟩ := h
    have hPolicy : (scheduler.perform lower now call).2.mutationPolicy =
        scheduler.mutationPolicy :=
      congrFun (policy_perform lower scheduler now call) RequestKind.mutation
    rw [← hPolicy]
    refine ih (hSound.perform lower now call) ?_ hRest
    rw [hPolicy]
    cases hSetting : scheduler.settingWindow lower key call with
    | none =>
      rw [(perform_spend hSound lower key now call hSetting).1.window]
      exact hWindow
    | some window =>
      rw [windowOf_perform_of_setting hSetting]
      exact hCall window hSetting

end Runs

end KisRequestScheduler

/-! ## Bounded budgets -/

open KisRequestScheduler

/-- The budget of an account and endpoint over a sequence of calls: between two authoritative
settings no more than twice the capacity is admitted within a window of the policy, new entries
are admitted only while it is known, and what remains lies between nothing and the capacity. -/
structure BudgetBounded (lower : String → String) (scheduler : KisRequestScheduler)
    (accountNo endpoint : String) (calls : List TimedBudgetCall) : Prop where
  rate : ∀ before segment later, calls = before ++ segment ++ later →
    Unset lower (budgetKey lower .mutation accountNo endpoint) (scheduler.after lower before)
      segment →
    ∀ start, (countWithin start (start + scheduler.mutationPolicy.windowSeconds)
        (admittedTimes lower (budgetKey lower .mutation accountNo endpoint)
          (scheduler.after lower before) segment) : Int) ≤
      2 * (scheduler.after lower (before ++ segment)).capacityOf
        (budgetKey lower .mutation accountNo endpoint)
  entries : ∀ {before later now priority consume},
    calls = before ++ (now, .requireAvailable accountNo endpoint priority true consume) :: later →
    ((scheduler.after lower before).requireAvailable lower accountNo endpoint priority true consume
      now).1 = .ok () →
    ∃ bucket, ((scheduler.after lower before).requireAvailable lower accountNo endpoint priority
        true consume now).2.buckets.get? (budgetKey lower .mutation accountNo endpoint) =
          some bucket ∧ bucket.knowledge = .known
  remaining : ∀ {before later}, calls = before ++ later → ∀ {bucket},
    (scheduler.after lower before).buckets.get? (budgetKey lower .mutation accountNo endpoint) =
      some bucket → 0 ≤ bucket.remaining ∧ bucket.remaining ≤ bucket.capacity

/-- A new entry is admitted only by a bucket that is known. -/
theorem known_of_admitted {lower : String → String} {scheduler : KisRequestScheduler}
    {accountNo endpoint : String} {priority : RequestPriority} {consume : Bool} {now : ℚ}
    (hOk : (scheduler.requireAvailable lower accountNo endpoint priority true consume now).1 =
      .ok ()) :
    ∃ bucket, (scheduler.requireAvailable lower accountNo endpoint priority true consume
        now).2.buckets.get? (budgetKey lower .mutation accountNo endpoint) = some bucket ∧
      bucket.knowledge = .known := by
  obtain ⟨-, ⟨-, -, hKnown, hLeft⟩ | ⟨hRefused, -⟩⟩ := requireAvailable_cases lower scheduler
    accountNo endpoint priority true consume now
  · refine ⟨_, (hLeft _).trans (if_pos rfl), ?_⟩
    have hSame : ∀ bucket : BudgetBucket, (drawn bucket consume).knowledge = bucket.knowledge := by
      intro bucket
      cases consume <;> rfl
    rw [hSame]
    exact hKnown rfl
  · exact absurd hOk hRefused

/-- In every run whose authoritative settings keep the window of the policy, the budget is
bounded. -/
theorem mutation_budget_bounded (lower : String → String) (readPolicy mutationPolicy : BudgetPolicy)
    (reserve : Int) (accountNo endpoint : String) {calls : List TimedBudgetCall}
    (hOrder : InOrder calls)
    (hWindows : KeepsWindow lower (budgetKey lower .mutation accountNo endpoint)
      (create readPolicy mutationPolicy reserve) calls) :
    BudgetBounded lower (create readPolicy mutationPolicy reserve) accountNo endpoint calls := by
  have hSound := sound_create readPolicy mutationPolicy reserve
  refine ⟨?_, ?_, ?_⟩
  · rintro before segment later rfl hUnset start
    have hBefore := (along_append.mp (along_append.mp hWindows).1).1
    have hWindow := window_le_of_keeps hSound (le_refl _) hBefore
    have hSegment : InOrder segment :=
      (List.pairwise_append.mp (List.pairwise_append.mp hOrder).1).2.1
    rw [after_append]
    refine admitted_within_window (hSound.after lower before) hSegment hUnset ?_
    gcongr
  · rintro before later now priority consume rfl hOk
    exact known_of_admitted hOk
  · rintro before later rfl bucket hBucket
    have hBucketSound := hSound.after lower before _ bucket hBucket
    exact ⟨hBucketSound.nonneg, hBucketSound.within⟩

/-! ## A short window -/

def twentyReads : BudgetPolicy := ⟨20, 1, by decide, by decide⟩

def fiveMutations : BudgetPolicy := ⟨5, 1, by decide, by decide⟩

/-- A new entry draws on the budget. -/
def drawAt (now : ℚ) : TimedBudgetCall := (now, .requireAvailable "1" "order" .newEntry true true)

/-- The broker reports five left, until a time or for a window of the policy. -/
def reported (reset : Option ℚ) : TimedBudgetCall :=
  (0, .synchronizeBudget .mutation "1" "order" 5 reset)

/-- A budget that the broker reports and a new entry draws on. -/
theorem mutation_budget_bounded_draw : BudgetBounded id (create twentyReads fiveMutations 2) "1"
    "order" [reported none, drawAt 0] := by
  refine mutation_budget_bounded id twentyReads fiveMutations 2 "1" "order" ?_ ⟨?_, ?_, trivial⟩
  · simp [InOrder, reported, drawAt]
  · intro window hWindow
    unfold settingWindow at hWindow
    cases hWindow
    exact le_refl _
  · intro window hWindow
    cases hWindow

/-- The time to a reset is kept as the window of the bucket: fifteen entries within a second. -/
theorem short_reset_exceeds_rate : ¬ BudgetBounded id (create twentyReads fiveMutations 2) "1"
    "order" (reported (some (1 / 10)) :: (List.replicate 5 (drawAt 0) ++
      List.replicate 5 (drawAt (1 / 10)) ++ List.replicate 5 (drawAt (1 / 5)))) := by
  intro hBounded
  have hUnset : Unset id (budgetKey id .mutation "1" "order")
      ((create twentyReads fiveMutations 2).after id [reported (some (1 / 10))])
      (List.replicate 5 (drawAt 0) ++ List.replicate 5 (drawAt (1 / 10)) ++
        List.replicate 5 (drawAt (1 / 5))) :=
    ⟨rfl, rfl, rfl, rfl, rfl, rfl, rfl, rfl, rfl, rfl, rfl, rfl, rfl, rfl, rfl, trivial⟩
  have hRate := hBounded.rate [reported (some (1 / 10))] _ [] (by simp) hUnset 0
  revert hRate
  decide +kernel

end QuantApp.Services
