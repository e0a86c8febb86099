import Mathlib.Algebra.Order.BigOperators.Group.List
import Mathlib.Algebra.Order.Ring.Int

/-!
# Allotting an amount in order

Each element of a list has some room.  An amount is handed out from the front, each element
taking as much as it has room for, until nothing is left.
-/

namespace QuantApp.Verified

universe u

variable {α : Type u} (room : α → Int)

/-- The elements with what each is given. -/
def allot : Int → List α → List (α × Int)
  | _, [] => []
  | left, x :: rest => (x, min (room x) left) :: allot (left - min (room x) left) rest

@[simp] theorem map_fst_allot (left : Int) (xs : List α) :
    (allot room left xs).map Prod.fst = xs := by
  induction xs generalizing left with
  | nil => rfl
  | cons x rest ih => rw [allot, List.map_cons, ih]

variable {room}

variable {xs : List α}

/-- Everyone is given something between nothing and its room. -/
theorem allot_within {left : Int} (hLeft : 0 ≤ left) (hRoom : ∀ x, 0 ≤ room x)
    {given : α × Int} (h : given ∈ allot room left xs) :
    0 ≤ given.2 ∧ given.2 ≤ room given.1 := by
  induction xs generalizing left with
  | nil => cases h
  | cons x rest ih =>
    have hX := hRoom x
    rcases List.mem_cons.mp h with rfl | hRest
    · dsimp only
      omega
    · exact ih (by omega) hRest

/-- All of the amount is handed out, or all of the room is taken. -/
theorem sum_allot {left : Int} (hLeft : 0 ≤ left) (hRoom : ∀ x, 0 ≤ room x) :
    ((allot room left xs).map Prod.snd).sum = min left (xs.map room).sum := by
  induction xs generalizing left with
  | nil => exact (min_eq_right hLeft).symm
  | cons x rest ih =>
    have hX := hRoom x
    have hRest : 0 ≤ (rest.map room).sum := List.sum_nonneg (by simpa using fun y _ => hRoom y)
    have hTail := @ih (left - min (room x) left) (by omega)
    rw [allot, List.map_cons, List.sum_cons, hTail, List.map_cons, List.sum_cons]
    omega

theorem not_given_of_nothing_left (hRoom : ∀ x, 0 ≤ room x) {given : α × Int}
    (h : given ∈ allot room 0 xs) : given.2 ≤ 0 := by
  induction xs with
  | nil => cases h
  | cons x rest ih =>
    have hX := hRoom x
    rcases List.mem_cons.mp h with rfl | hRest
    · dsimp only
      omega
    · have hSame : (0 : Int) - min (room x) 0 = 0 := by omega
      rw [hSame] at hRest
      exact ih hRest

/-- Whoever is given something comes after elements whose room is taken. -/
theorem allot_in_order {left : Int} (hLeft : 0 ≤ left) (hRoom : ∀ x, 0 ≤ room x) :
    (allot room left xs).Pairwise (fun first later => 0 < later.2 → first.2 = room first.1) := by
  induction xs generalizing left with
  | nil => exact List.Pairwise.nil
  | cons x rest ih =>
    have hX := hRoom x
    refine List.pairwise_cons.mpr ⟨fun later hLater hGiven => ?_, ih (by omega)⟩
    have hSome : 0 < left - min (room x) left := by
      by_contra hNone
      have hNothing : left - min (room x) left = 0 := by omega
      rw [hNothing] at hLater
      have hGivenNone := not_given_of_nothing_left hRoom hLater
      omega
    dsimp only
    omega

/-! ## Pairs in a list -/

/-- Of two members of a list, one comes first. -/
theorem pair_sublist_or {x y : α} (hx : x ∈ xs) (hy : y ∈ xs) (hne : x ≠ y) :
    List.Sublist [x, y] xs ∨ List.Sublist [y, x] xs := by
  induction xs with
  | nil => cases hx
  | cons head rest ih =>
    rcases List.mem_cons.mp hx with rfl | hxRest
    · rcases List.mem_cons.mp hy with rfl | hyRest
      · exact absurd rfl hne
      · exact Or.inl (List.cons_sublist_cons.mpr (List.singleton_sublist.mpr hyRest))
    · rcases List.mem_cons.mp hy with rfl | hyRest
      · exact Or.inr (List.cons_sublist_cons.mpr (List.singleton_sublist.mpr hxRest))
      · exact (ih hxRest hyRest).imp (fun h => h.cons _) (fun h => h.cons _)

theorem rel_of_pair_sublist {R : α → α → Prop} {x y : α} (h : xs.Pairwise R)
    (hPair : List.Sublist [x, y] xs) : R x y :=
  List.rel_of_pairwise_cons (h.sublist hPair) (List.mem_singleton_self y)

end QuantApp.Verified
