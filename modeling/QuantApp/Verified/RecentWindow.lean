import Mathlib.Data.Finset.Dedup
import Mathlib.Data.Finset.Basic
import Mathlib.Data.Finset.Erase
import Mathlib.Data.Finset.Insert
import Mathlib.Data.List.DropRight
import Mathlib.Data.List.Nodup

/-!
# The recent elements of a stream

A bounded queue of the last elements together with the set of them, for recognising
repetitions.  The queue drops its oldest element when it is full, the set has to be told.

`Records` says that the queue holds the last elements of a history, that none of them is held
twice and that the set is the set of the queue.  An element that is not in the set keeps it
(`Records.push`), so a recorded element is not one of the last (`Records.fresh`).
-/

namespace QuantApp.Verified

universe u

structure RecentWindow (α : Type u) where
  order : List α := []
  seen : Finset α := ∅

namespace RecentWindow

variable {α : Type u} [DecidableEq α]

/-- Append to the queue of at most `capacity` elements, taking the element that leaves it out of
the set first. -/
def push (capacity : Nat) (window : RecentWindow α) (x : α) : RecentWindow α where
  order := (window.order ++ [x]).rtake capacity
  seen := insert x
    (if window.order.length = capacity then window.order.head?.elim window.seen window.seen.erase
    else window.seen)

/-- The window holds the last `capacity` elements of the history. -/
structure Records (capacity : Nat) (history : List α) (window : RecentWindow α) : Prop where
  order : window.order = history.rtake capacity
  seen : window.seen = window.order.toFinset
  nodup : window.order.Nodup

variable {capacity : Nat} {history : List α} {window : RecentWindow α} {x : α}

theorem records_nil : Records capacity ([] : List α) {} :=
  ⟨(List.rtake_nil capacity).symm, rfl, List.nodup_nil⟩

omit [DecidableEq α] in
theorem length_rtake (xs : List α) : (xs.rtake capacity).length = min capacity xs.length := by
  rw [List.rtake, List.length_drop]
  omega

omit [DecidableEq α] in
theorem rtake_of_length_le {xs : List α} (h : xs.length ≤ capacity) : xs.rtake capacity = xs := by
  rw [List.rtake, Nat.sub_eq_zero_of_le h, List.drop_zero]

omit [DecidableEq α] in
/-- The last elements of the last elements. -/
theorem rtake_append_singleton (xs : List α) (x : α) :
    (xs.rtake capacity ++ [x]).rtake capacity = (xs ++ [x]).rtake capacity := by
  cases capacity with
  | zero => simp
  | succ =>
    rw [List.rtake_concat_succ, List.rtake_concat_succ]
    congr 1
    unfold List.rtake
    rw [List.drop_drop, List.length_drop]
    congr 1
    omega

variable (h : Records capacity history window)
include h

theorem Records.fresh (hx : x ∉ window.seen) : x ∉ history.rtake capacity := by
  rw [h.seen, List.mem_toFinset] at hx
  rw [← h.order]
  exact hx

theorem Records.length_le : window.order.length ≤ capacity := by
  rw [h.order, length_rtake]
  exact Nat.min_le_left _ _

/-- The set follows the queue. -/
theorem Records.seen_push (hPos : 0 < capacity) :
    (window.push capacity x).seen = (window.push capacity x).order.toFinset := by
  unfold push
  by_cases hFull : window.order.length = capacity
  · rw [if_pos hFull, h.seen]
    cases hOrder : window.order with
    | nil =>
      rw [hOrder, List.length_nil] at hFull
      omega
    | cons oldest rest =>
      have hNodup := h.nodup
      rw [hOrder, List.nodup_cons] at hNodup
      rw [hOrder, List.length_cons] at hFull
      have hKept : ((oldest :: rest) ++ [x]).rtake capacity = rest ++ [x] := by
        rw [List.rtake, List.length_append, List.length_cons, List.length_singleton, hFull,
          Nat.add_sub_cancel_left]
        rfl
      show insert x ((oldest :: rest).toFinset.erase oldest) =
        (((oldest :: rest) ++ [x]).rtake capacity).toFinset
      rw [hKept, List.toFinset_cons, Finset.erase_insert (by simpa using hNodup.1)]
      ext y
      simp [or_comm]
  · have hShort : (window.order ++ [x]).length ≤ capacity := by
      have hLength := h.length_le
      rw [List.length_append, List.length_singleton]
      omega
    rw [if_neg hFull, h.seen, rtake_of_length_le hShort]
    ext y
    simp [or_comm]

/-- A new element is recorded. -/
theorem Records.push (hPos : 0 < capacity) (hx : x ∉ window.seen) :
    Records capacity (history ++ [x]) (window.push capacity x) := by
  constructor
  · show (window.order ++ [x]).rtake capacity = _
    rw [h.order]
    exact rtake_append_singleton history x
  · exact h.seen_push hPos
  · have hNew : x ∉ window.order := by
      rwa [h.seen, List.mem_toFinset] at hx
    refine List.Nodup.sublist (List.drop_sublist _ _) ?_
    exact List.Nodup.append h.nodup (List.nodup_singleton x) (List.disjoint_singleton.mpr hNew)

end RecentWindow

end QuantApp.Verified
