import Mathlib.Algebra.Order.BigOperators.Group.List
import Mathlib.Algebra.Order.Group.Defs
import Mathlib.Algebra.Order.Ring.Int

/-!
# Budgets that are filled up lazily

A budget holds an amount and the time at which it may be filled up again.  It is looked at only
when something is taken: where its time has come it is first filled up, to no more than a
capacity, and its next time is a window later at least.  However often it is filled up, no more
than twice the capacity is taken within a window.
-/

namespace QuantApp.Verified

universe u

/-- An amount, and when it may be filled up; a budget without a time may be at once. -/
structure WindowBudget (τ : Type u) where
  remaining : Int
  resetAt : Option τ

variable {τ : Type u} [LinearOrder τ]

/-- The time of a budget has come. -/
def WindowBudget.Due (budget : WindowBudget τ) (now : τ) : Prop :=
  ∀ reset, budget.resetAt = some reset → reset ≤ now

/-- What is taken from a time on and before another. -/
def spentWithin (start stop : τ) (events : List (τ × Int)) : Int :=
  ((events.filter (fun event => start ≤ event.1 ∧ event.1 < stop)).map Prod.snd).sum

section Within

variable {start stop now : τ} {spent : Int} {events : List (τ × Int)}

theorem spentWithin_cons_of_mem (hStart : start ≤ now) (hStop : now < stop) :
    spentWithin start stop ((now, spent) :: events) = spent + spentWithin start stop events := by
  simp [spentWithin, hStart, hStop]

theorem spentWithin_cons_of_before (hStart : now < start) :
    spentWithin start stop ((now, spent) :: events) = spentWithin start stop events := by
  simp [spentWithin, not_le.mpr hStart]

theorem spentWithin_of_late (h : ∀ event ∈ events, stop ≤ event.1) :
    spentWithin start stop events = 0 := by
  have hNone : events.filter (fun event => start ≤ event.1 ∧ event.1 < stop) = [] := by
    refine List.filter_eq_nil_iff.mpr (fun event hEvent => ?_)
    simp [h event hEvent]
  rw [spentWithin, hNone]
  rfl

theorem late_of_cons
    (hTimes : ((now, spent) :: events).Pairwise (fun first later => first.1 ≤ later.1))
    (hStop : stop ≤ now) : ∀ event ∈ (now, spent) :: events, stop ≤ event.1 := by
  intro event hEvent
  rcases List.mem_cons.mp hEvent with rfl | hLater
  · exact hStop
  · exact hStop.trans (List.rel_of_pairwise_cons hTimes hLater)

end Within

variable [AddCommGroup τ]

/-- At a time some of a budget is taken. -/
inductive Spend (capacity : Int) (window : τ) (budget : WindowBudget τ) (now : τ) (spent : Int) :
    WindowBudget τ → Prop
  | kept {left : Int} (hSpent : 0 ≤ spent) (hLeft : 0 ≤ left)
      (hWithin : left + spent ≤ budget.remaining) :
      Spend capacity window budget now spent ⟨left, budget.resetAt⟩
  | filled {left : Int} {reset : τ} (hDue : budget.Due now) (hSpent : 0 ≤ spent)
      (hLeft : 0 ≤ left) (hWithin : left + spent ≤ capacity) (hReset : now + window ≤ reset) :
      Spend capacity window budget now spent ⟨left, some reset⟩

/-- A sequence of times with what is taken at each. -/
inductive SpendRun (capacity : Int) (window : τ) :
    WindowBudget τ → List (τ × Int) → WindowBudget τ → Prop
  | nil (budget : WindowBudget τ) : SpendRun capacity window budget [] budget
  | cons {budget between after : WindowBudget τ} {now : τ} {spent : Int}
      {events : List (τ × Int)} (hSpend : Spend capacity window budget now spent between)
      (hRun : SpendRun capacity window between events after) :
      SpendRun capacity window budget ((now, spent) :: events) after

section Runs

variable {capacity : Int} {window start stop now : τ} {spent : Int}
  {budget between after : WindowBudget τ} {events : List (τ × Int)}

theorem Spend.remaining_le
    (h : Spend capacity window budget now spent between)
    (hBudget : budget.remaining ≤ capacity) : between.remaining ≤ capacity := by
  cases h with
  | kept | filled =>
    dsimp only
    omega

/-- Until it may be filled up, no more is taken than there is. -/
theorem SpendRun.within_before_reset (h : SpendRun capacity window budget events after)
    (hTimes : events.Pairwise (fun first later => first.1 ≤ later.1))
    (hRemaining : 0 ≤ budget.remaining) {reset : τ} (hReset : budget.resetAt = some reset)
    (hStop : stop ≤ reset) : spentWithin start stop events ≤ budget.remaining := by
  induction h generalizing reset with
  | nil => exact hRemaining
  | @cons budget between after now spent events hSpend hRun ih =>
    by_cases hNow : now < stop
    · cases hSpend with
      | kept hSpent hLeft =>
        have hRest := ih hTimes.of_cons hLeft hReset hStop
        dsimp only at hRest
        by_cases hStart : start ≤ now
        · rw [spentWithin_cons_of_mem hStart hNow]
          omega
        · rw [spentWithin_cons_of_before (not_le.mp hStart)]
          omega
      | filled hDue =>
        exact absurd (hDue reset hReset) (not_le.mpr (hNow.trans_le hStop))
    · rw [spentWithin_of_late (late_of_cons hTimes (not_lt.mp hNow))]
      exact hRemaining

variable [IsOrderedAddMonoid τ]

variable (h : SpendRun capacity window budget events after)
  (hTimes : events.Pairwise (fun first later => first.1 ≤ later.1))
  (hRemaining : 0 ≤ budget.remaining)
include h hTimes hRemaining

/-- From the start of an interval on, no more is taken than there is and a capacity. -/
theorem SpendRun.within_from_start (hCapacity : 0 ≤ capacity)
    (hFrom : ∀ event ∈ events, start ≤ event.1) (hLength : stop ≤ start + window) :
    spentWithin start stop events ≤ budget.remaining + capacity := by
  induction h with
  | nil => exact Int.add_nonneg hRemaining hCapacity
  | @cons budget between after now spent events hSpend hRun ih =>
    have hStart : start ≤ now := hFrom (now, spent) List.mem_cons_self
    by_cases hNow : now < stop
    · rw [spentWithin_cons_of_mem hStart hNow]
      cases hSpend with
      | kept hSpent hLeft =>
        have hRest := ih hTimes.of_cons hLeft
          (fun event hEvent => hFrom event (List.mem_cons_of_mem _ hEvent))
        dsimp only at hRest
        omega
      | filled hDue hSpent hLeft hWithin hReset =>
        -- the next filling lies behind the interval
        have hStop : stop ≤ now + window := hLength.trans (add_le_add_left hStart window)
        have hRest : spentWithin start stop events ≤ _ :=
          hRun.within_before_reset hTimes.of_cons hLeft rfl (hStop.trans hReset)
        dsimp only at hRest
        omega
    · rw [spentWithin_of_late (late_of_cons hTimes (not_lt.mp hNow))]
      exact Int.add_nonneg hRemaining hCapacity

/-- Within a window no more than twice the capacity is taken. -/
theorem SpendRun.within_window (hBudget : budget.remaining ≤ capacity)
    (hLength : stop ≤ start + window) : spentWithin start stop events ≤ 2 * capacity := by
  have hCapacity : 0 ≤ capacity := hRemaining.trans hBudget
  induction h with
  | nil => exact Int.mul_nonneg (by decide) hCapacity
  | @cons budget between after now spent events hSpend hRun ih =>
    by_cases hStart : start ≤ now
    · have hAll := (SpendRun.cons hSpend hRun).within_from_start hTimes hRemaining hCapacity
        (late_of_cons hTimes hStart) hLength
      omega
    · rw [spentWithin_cons_of_before (not_le.mp hStart)]
      have hLeft : 0 ≤ between.remaining := by
        cases hSpend <;> assumption
      exact ih hTimes.of_cons hLeft (hSpend.remaining_le hBudget)

end Runs

end QuantApp.Verified
