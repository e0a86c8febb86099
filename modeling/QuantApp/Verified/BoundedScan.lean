import Mathlib.Order.Bounds.Basic
import Mathlib.Order.Lattice
import Mathlib.Algebra.Order.Ring.Int
import Mathlib.Data.Int.LeastGreatest

/-!
# Scans with a bound

A scan walks the integers upwards from a start and stops where a test holds.  The test may fail,
and the scan looks at no more than a number of places.
-/

namespace QuantApp.Verified

/-- The first place from a start on at which the test holds; `none` where the test fails first
or no place within the bound passes it. -/
def scan (test : Int → Option Bool) : Nat → Int → Option Int
  | 0, _ => none
  | fuel + 1, place =>
    match test place with
    | none => none
    | some true => some place
    | some false => scan test fuel (place + 1)

variable {test : Int → Option Bool} {start target : Int}

theorem exists_isLeast_passing (hStart : start ≤ target) (hTarget : test target = some true) :
    ∃ first, IsLeast {place | start ≤ place ∧ test place = some true} first := by
  obtain ⟨first, hFirst, hLeast⟩ := Int.exists_least_of_bdd
    (P := fun place => start ≤ place ∧ test place = some true) ⟨start, fun _ h => h.1⟩
    ⟨target, hStart, hTarget⟩
  exact ⟨first, hFirst, hLeast⟩

/-- A scan finds the least place that passes, where the test fails at no place before it. -/
theorem scan_of_isLeast {fuel : Nat} {first : Int}
    (hLeast : IsLeast {place | start ≤ place ∧ test place = some true} first)
    (hTotal : ∀ place, start ≤ place → place < first → ∃ passes, test place = some passes)
    (hFuel : first < start + fuel) : scan test fuel start = some first := by
  induction fuel generalizing start with
  | zero => exact absurd hLeast.1.1 (by omega)
  | succ fuel ih =>
    obtain hHere | hLater := hLeast.1.1.eq_or_lt
    · subst hHere
      rw [scan, hLeast.1.2]
    · obtain ⟨passes, hPasses⟩ := hTotal start le_rfl hLater
      cases passes with
      | true => exact absurd (hLeast.2 ⟨le_rfl, hPasses⟩) (not_le.mpr hLater)
      | false =>
        rw [scan, hPasses]
        refine ih ⟨⟨hLater, hLeast.1.2⟩, ?_⟩ ?_ (by omega)
        · exact fun place hPlace => hLeast.2 ⟨(by omega : start ≤ start + 1).trans hPlace.1,
          hPlace.2⟩
        · exact fun place hPlace => hTotal place (by omega)

end QuantApp.Verified
