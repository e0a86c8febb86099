import Mathlib.Algebra.BigOperators.Group.List.Basic
import Mathlib.Tactic.Abel
import QuantApp.Verified.KeyedTable

/-!
# Tables written by compare-and-swap

A keyed table whose rows carry a version, and the log of every row that was
ever committed.  A process may hold any logged row and write it back on
condition that the stored version is still the one it holds.  Versions only
grow, so a held row whose version is current is the stored row
(`Versioned.eq_of_version`): a write that passes the check starts from what is
stored, however long ago it was read.
-/

namespace QuantApp.Verified

universe u v

variable {α : Type u} {κ : Type v} [DecidableEq κ] {key : α → κ} {version : α → Int}

/-- `history` holds every version of the rows of the table. -/
structure Versioned (key : α → κ) (version : α → Int) (rows history : List α) : Prop where
  keyed : Keyed key rows
  current : ∀ held ∈ history, ∃ row ∈ rows, key row = key held ∧
    version held ≤ version row ∧ (version held = version row → held = row)

namespace Versioned

variable {rows history : List α} {row held stored : α}

omit [DecidableEq κ] in
theorem start (hKeyed : Keyed key rows) : Versioned key version rows rows :=
  { keyed := hKeyed
    current := fun held hHeld => ⟨held, hHeld, rfl, Int.le_refl _, fun _ => rfl⟩ }

theorem eq_of_version (h : Versioned key version rows history) (hHeld : held ∈ history)
    (hStored : lookup key (key held) rows = some stored)
    (hVersion : version stored = version held) : stored = held := by
  obtain ⟨row, hRow, hKey, _, hSame⟩ := h.current held hHeld
  have hEq : row = stored :=
    h.keyed.eq_of_mem hRow (lookup_mem hStored) (hKey.trans (lookup_key hStored).symm)
  rw [hEq] at hSame
  exact (hSame hVersion.symm).symm

omit [DecidableEq κ] in
/-- A row with a new key is logged when it is inserted. -/
theorem insert (h : Versioned key version rows history) (hFresh : key row ∉ rows.map key) :
    Versioned key version (rows ++ [row]) (history ++ [row]) := by
  refine { keyed := h.keyed.append_fresh hFresh, current := ?_ }
  · refine forall_mem_concat (fun old hOld => ?_) ?_
    · obtain ⟨current, hCurrent, hRest⟩ := h.current old hOld
      exact ⟨current, List.mem_append_left _ hCurrent, hRest⟩
    · exact ⟨row, List.mem_append_right _ List.mem_cons_self, rfl, Int.le_refl _, fun _ => rfl⟩

/-- A row is logged when it replaces an older version. -/
theorem store (h : Versioned key version rows history)
    (hStored : lookup key (key row) rows = some stored)
    (hNewer : version stored < version row) :
    Versioned key version (store key row rows) (history ++ [row]) := by
  have hMem : row ∈ Verified.store key row rows :=
    List.mem_map.mpr ⟨stored, lookup_mem hStored, if_pos (lookup_key hStored)⟩
  refine { keyed := h.keyed.store, current := ?_ }
  intro old hOld
  rcases List.mem_append.mp hOld with hOld | hNew
  · obtain ⟨current, hCurrent, hKey, hVersion, hSame⟩ := h.current old hOld
    by_cases hReplaced : key current = key row
    · have hEq : current = stored := h.keyed.eq_of_mem hCurrent (lookup_mem hStored)
        (hReplaced.trans (lookup_key hStored).symm)
      rw [hEq] at hVersion
      refine ⟨row, hMem, hReplaced.symm.trans hKey, by omega, ?_⟩
      intro hNow
      omega
    · exact ⟨current, List.mem_map.mpr ⟨current, hCurrent, if_neg hReplaced⟩, hKey, hVersion, hSame⟩
  · rw [List.mem_singleton.mp hNew]
    exact ⟨row, hMem, rfl, Int.le_refl _, fun _ => rfl⟩

end Versioned

/-! ## Totals over a table -/

section Totals

variable {M : Type v} [AddCommGroup M] {rows : List α} {row old : α}

/-- Replacing a row changes a total by the difference of the two rows. -/
theorem sum_map_store (amount : α → M) (hKeyed : Keyed key rows)
    (hOld : lookup key (key row) rows = some old) :
    ((store key row rows).map amount).sum = (rows.map amount).sum - amount old + amount row := by
  induction rows with
  | nil => cases hOld
  | cons x rows ih =>
    have hTailKeyed : Keyed key rows := (List.nodup_cons.mp hKeyed).2
    by_cases hKey : key x = key row
    · have hx : x = old := by
        rw [← hKey, hKeyed.lookup_of_mem List.mem_cons_self] at hOld
        exact Option.some.inj hOld
      have hRest : store key row rows = rows := by
        refine (List.map_congr_left ?_).trans (List.map_id rows)
        intro y hy
        refine if_neg ?_
        intro hEq
        refine (List.nodup_cons.mp hKeyed).1 ?_
        rw [hKey, ← hEq]
        exact List.mem_map_of_mem hy
      have hHead : store key row (x :: rows) = row :: store key row rows := by
        simp [store, hKey]
      rw [hHead, hRest, hx, List.map_cons, List.map_cons, List.sum_cons, List.sum_cons]
      abel
    · have hTail : lookup key (key row) rows = some old := by
        rwa [lookup_cons_of_ne x hKey] at hOld
      have hHead : store key row (x :: rows) = x :: store key row rows := by
        simp [store, hKey]
      rw [hHead, List.map_cons, List.map_cons, List.sum_cons, List.sum_cons, ih hTailKeyed hTail]
      abel

/-- Leaving one row out of a total. -/
theorem sum_map_filter_ne (amount : α → M) {k : κ} (hKeyed : Keyed key rows)
    (hOld : lookup key k rows = some old) :
    ((rows.filter (fun row => key row ≠ k)).map amount).sum =
      (rows.map amount).sum - amount old := by
  induction rows with
  | nil => cases hOld
  | cons x rows ih =>
    have hTailKeyed : Keyed key rows := (List.nodup_cons.mp hKeyed).2
    by_cases hKey : key x = k
    · have hx : x = old := by
        rw [← hKey, hKeyed.lookup_of_mem List.mem_cons_self] at hOld
        exact Option.some.inj hOld
      have hRest : rows.filter (fun row => key row ≠ k) = rows := by
        refine List.filter_eq_self.mpr ?_
        intro y hy
        rw [decide_eq_true_eq]
        intro hEq
        refine (List.nodup_cons.mp hKeyed).1 ?_
        rw [hKey, ← hEq]
        exact List.mem_map_of_mem hy
      rw [List.filter_cons_of_neg (by simp [hKey]), hRest, hx, List.map_cons, List.sum_cons]
      abel
    · have hTail : lookup key k rows = some old := by
        rwa [lookup_cons_of_ne x hKey] at hOld
      rw [List.filter_cons_of_pos (by simp [hKey]), List.map_cons, List.map_cons,
        List.sum_cons, List.sum_cons, ih hTailKeyed hTail]
      abel

end Totals

end QuantApp.Verified
