import QuantApp.Core.Runtime
import QuantApp.Verified.Dictionary
import QuantApp.Verified.WindowBudget

/-!
# The KIS request scheduler

`src/services/kis_request_scheduler.py`: the request budgets of an account and endpoint.  A
bucket is filled up when it is looked at after its window has passed; until an authoritative
setting its budget is uncertain and only a small reserve is kept for protective requests.
-/

namespace QuantApp.Services

open Core Verified

inductive RequestKind
  | read
  | mutation
  deriving DecidableEq

inductive RequestPriority
  | emergencyExit
  | exitCancelOrReconciliation
  | leaseOrHandoff
  | accountReconciliation
  | entryCancel
  | newEntry
  | displayRefresh
  deriving DecidableEq

/-- The number of a priority. -/
def RequestPriority.toInt : RequestPriority → Int
  | .emergencyExit => 1
  | .exitCancelOrReconciliation => 2
  | .leaseOrHandoff => 3
  | .accountReconciliation => 4
  | .entryCancel => 5
  | .newEntry => 6
  | .displayRefresh => 7

inductive BudgetKnowledge
  | known
  | uncertain
  deriving DecidableEq

/-- `BudgetPolicy`: nothing else gets past its `__post_init__`. -/
structure BudgetPolicy where
  capacity : Int
  windowSeconds : ℚ
  capacityPositive : 0 < capacity
  windowPositive : 0 < windowSeconds

structure BudgetBucket where
  capacity : Int
  remaining : Int
  resetAt : ℚ
  windowSeconds : ℚ
  knowledge : BudgetKnowledge

/-- The metrics of the budgets. -/
structure SchedulerMetrics where
  budgetRejections : Nat := 0
  uncertainEntryRejections : Nat := 0
  knownMutationBudgetBuckets : Nat := 0
  uncertainMutationBudgetBuckets : Nat := 0

/-- What the budgets raise. -/
inductive BudgetError
  | requestBudgetUncertain
  | mutationBudgetExceeded (accountNo endpoint : String) (priority : RequestPriority)
  | budgetNotPositive
  deriving DecidableEq

/-- The texts; `repr` is that of a string. -/
def BudgetError.message (repr : String → String) : BudgetError → String
  | .requestBudgetUncertain => "New entries require an authoritative KIS mutation budget"
  | .mutationBudgetExceeded accountNo endpoint priority =>
    "No mutation budget remains for account=" ++ repr accountNo ++ " endpoint=" ++
      repr endpoint ++ " priority=" ++ toString priority.toInt
  | .budgetNotPositive => "verified mutation budget must be positive"

abbrev BudgetKey := RequestKind × String × String

/-- `_key`, with `str.lower()`. -/
def budgetKey (lower : String → String) (kind : RequestKind) (accountNo endpoint : String) :
    BudgetKey :=
  let name := lower (strip endpoint)
  (kind, strip accountNo, if name = "" then "unknown" else name)

structure KisRequestScheduler where
  readPolicy : BudgetPolicy
  mutationPolicy : BudgetPolicy
  uncertainProtectiveReserve : Int
  reserveNonnegative : 0 ≤ uncertainProtectiveReserve
  buckets : Dictionary BudgetKey BudgetBucket := ∅
  metrics : SchedulerMetrics := {}

namespace KisRequestScheduler

/-- The constructor. -/
def create (readPolicy mutationPolicy : BudgetPolicy) (uncertainProtectiveReserve : Int) :
    KisRequestScheduler :=
  { readPolicy := readPolicy
    mutationPolicy := mutationPolicy
    uncertainProtectiveReserve := max 0 uncertainProtectiveReserve
    reserveNonnegative := le_max_left 0 _ }

variable (scheduler : KisRequestScheduler)

/-- `_policies`. -/
def policy : RequestKind → BudgetPolicy
  | .read => scheduler.readPolicy
  | .mutation => scheduler.mutationPolicy

/-- `_refresh_budget_metrics_locked`. -/
def refreshBudgetMetrics : KisRequestScheduler :=
  let mutationBuckets := scheduler.buckets.rows.filter (fun row => row.1.1 = .mutation)
  { scheduler with
    metrics := { scheduler.metrics with
      knownMutationBudgetBuckets := mutationBuckets.countP (fun row => row.2.knowledge = .known)
      uncertainMutationBudgetBuckets :=
        mutationBuckets.countP (fun row => row.2.knowledge = .uncertain) } }

variable (key : BudgetKey)

/-- `self._buckets[key] = bucket`. -/
def setBucket (bucket : BudgetBucket) : KisRequestScheduler :=
  { scheduler with buckets := scheduler.buckets.set key bucket }

/-- What an uncertain budget keeps. -/
def reserveOf (capacity : Int) : Int := min capacity scheduler.uncertainProtectiveReserve

def newBucket (kind : RequestKind) (now : ℚ) : BudgetBucket :=
  let policy := scheduler.policy kind
  { capacity := policy.capacity
    remaining :=
      match kind with
      | .read => policy.capacity
      | .mutation => scheduler.reserveOf policy.capacity
    resetAt := now + policy.windowSeconds
    windowSeconds := policy.windowSeconds
    knowledge :=
      match kind with
      | .read => .known
      | .mutation => .uncertain }

/-- A bucket whose window has passed. -/
def refilled (bucket : BudgetBucket) (now : ℚ) : BudgetBucket :=
  { bucket with
    remaining :=
      if bucket.knowledge = .known then bucket.capacity else scheduler.reserveOf bucket.capacity
    resetAt := now + bucket.windowSeconds }

/-- The bucket that `_bucket` returns. -/
def currentBucket (now : ℚ) : BudgetBucket :=
  match scheduler.buckets.get? key with
  | none => scheduler.newBucket key.1 now
  | some bucket => if bucket.resetAt ≤ now then scheduler.refilled bucket now else bucket

/-- `_bucket`: what it leaves of the scheduler. -/
def lookAt (now : ℚ) : KisRequestScheduler :=
  match scheduler.buckets.get? key with
  | none => (scheduler.setBucket key (scheduler.currentBucket key now)).refreshBudgetMetrics
  | some bucket =>
    if bucket.resetAt ≤ now then scheduler.setBucket key (scheduler.currentBucket key now)
    else scheduler

def synchronizeBudget (remaining : Int)
    (resetAfterSeconds : Option ℚ) (now : ℚ) : KisRequestScheduler :=
  let policy := scheduler.policy key.1
  let resetAfter :=
    match resetAfterSeconds with
    | none => policy.windowSeconds
    | some seconds => max (1 / 1000) seconds
  (scheduler.setBucket key
    { capacity := policy.capacity
      remaining := max 0 (min policy.capacity remaining)
      resetAt := now + resetAfter
      windowSeconds := resetAfter
      knowledge := .known }).refreshBudgetMetrics

/-- `configure_verified_mutation_budget`: a bucket that exists is left alone. -/
def configureVerifiedMutationBudget (capacity : Int) (windowSeconds : ℚ) (now : ℚ) :
    Except BudgetError Unit × KisRequestScheduler :=
  if capacity ≤ 0 ∨ windowSeconds ≤ 0 then (.error .budgetNotPositive, scheduler)
  else if key ∈ scheduler.buckets then (.ok (), scheduler)
  else
    (.ok (), (scheduler.setBucket key
      { capacity := capacity
        remaining := capacity
        resetAt := now + windowSeconds
        windowSeconds := windowSeconds
        knowledge := .known }).refreshBudgetMetrics)

def markBudgetUncertain (now : ℚ) : KisRequestScheduler :=
  let bucket := scheduler.currentBucket key now
  ((scheduler.lookAt key now).setBucket key
    { bucket with
      knowledge := .uncertain
      remaining :=
        if key.1 = .mutation then min bucket.remaining scheduler.uncertainProtectiveReserve
        else bucket.remaining }).refreshBudgetMetrics

/-- One more rejection. -/
def withRejection (uncertainEntry : Bool) : KisRequestScheduler :=
  { scheduler with
    metrics := { scheduler.metrics with
      budgetRejections := scheduler.metrics.budgetRejections + 1
      uncertainEntryRejections :=
        if uncertainEntry then scheduler.metrics.uncertainEntryRejections + 1
        else scheduler.metrics.uncertainEntryRejections } }

def requireAvailable (lower : String → String) (scheduler : KisRequestScheduler)
    (accountNo endpoint : String) (priority : RequestPriority) (isNewEntry consume : Bool)
    (now : ℚ) : Except BudgetError Unit × KisRequestScheduler :=
  let key := budgetKey lower .mutation accountNo endpoint
  let bucket := scheduler.currentBucket key now
  let looked := scheduler.lookAt key now
  if isNewEntry = true ∧ bucket.knowledge ≠ .known then
    (.error .requestBudgetUncertain, looked.withRejection true)
  else if bucket.remaining ≤ 0 then
    (.error (.mutationBudgetExceeded accountNo endpoint priority), looked.withRejection false)
  else if consume then
    (.ok (), looked.setBucket key { bucket with remaining := bucket.remaining - 1 })
  else (.ok (), looked)

end KisRequestScheduler

/-! ## Calls -/

/-- The calls that a budget is set, marked and drawn on with. -/
inductive BudgetCall
  | synchronizeBudget (kind : RequestKind) (accountNo endpoint : String) (remaining : Int)
      (resetAfterSeconds : Option ℚ)
  | configureVerifiedMutationBudget (accountNo endpoint : String) (capacity : Int)
      (windowSeconds : ℚ)
  | markBudgetUncertain (kind : RequestKind) (accountNo endpoint : String)
  | requireAvailable (accountNo endpoint : String) (priority : RequestPriority)
      (isNewEntry consume : Bool)

/-- What a call at a time returns or raises, and what it leaves. -/
def KisRequestScheduler.perform (lower : String → String) (scheduler : KisRequestScheduler)
    (now : ℚ) : BudgetCall → Except BudgetError Unit × KisRequestScheduler
  | .synchronizeBudget kind accountNo endpoint remaining resetAfterSeconds =>
    (.ok (), scheduler.synchronizeBudget (budgetKey lower kind accountNo endpoint) remaining
      resetAfterSeconds now)
  | .configureVerifiedMutationBudget accountNo endpoint capacity windowSeconds =>
    scheduler.configureVerifiedMutationBudget (budgetKey lower .mutation accountNo endpoint)
      capacity windowSeconds now
  | .markBudgetUncertain kind accountNo endpoint =>
    (.ok (), scheduler.markBudgetUncertain (budgetKey lower kind accountNo endpoint) now)
  | .requireAvailable accountNo endpoint priority isNewEntry consume =>
    scheduler.requireAvailable lower accountNo endpoint priority isNewEntry consume now

end QuantApp.Services
