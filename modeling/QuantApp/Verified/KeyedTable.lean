import Mathlib.Data.List.Nodup
import Mathlib.Data.List.Forall2

/-!
# Tables with a key

A list of rows whose keys are pairwise distinct, read with `lookup` and
written with `store`.  This is the store behind a dictionary that points into
a list of mutable records: `store` replaces the row with the same key and
leaves every other row where it stands.

A relation that every single write respects holds between the table before
and the table after (`forall₂_store`), and two tables with the same keys are
equal as soon as their lookups agree (`eq_of_lookup_eq`).
-/

namespace QuantApp.Verified

universe u v

/-- A list grows by one element. -/
theorem forall_mem_concat {α : Type u} {P : α → Prop} {items : List α} {last : α}
    (h : ∀ item ∈ items, P item) (hLast : P last) : ∀ item ∈ items ++ [last], P item :=
  List.forall_mem_append.mpr ⟨h, List.forall_mem_singleton.mpr hLast⟩

section Table

variable {α : Type u} {κ : Type v} [DecidableEq κ] (key : α → κ)

/-- The row with key `k`. -/
def lookup (k : κ) (rows : List α) : Option α := rows.find? (fun row => key row = k)

/-- Replace the row that has the key of `row`. -/
def store (row : α) (rows : List α) : List α :=
  rows.map (fun old => if key old = key row then row else old)

/-- No two rows share a key. -/
def Keyed (rows : List α) : Prop := (rows.map key).Nodup

instance (rows : List α) : Decidable (Keyed key rows) :=
  inferInstanceAs (Decidable (rows.map key).Nodup)

omit [DecidableEq κ] in
theorem keyed_nil : Keyed key [] := List.nodup_nil

omit [DecidableEq κ] in
theorem keyed_singleton (row : α) : Keyed key [row] := List.nodup_singleton (key row)

omit [DecidableEq κ] in
theorem keyed_filter_nil (p : α → Bool) : Keyed key (List.filter p []) := List.nodup_nil

omit [DecidableEq κ] in
theorem keyed_filter_singleton (p : α → Bool) (row : α) : Keyed key (List.filter p [row]) :=
  List.Nodup.sublist (List.filter_sublist.map key) (keyed_singleton key row)

variable {key} {k : κ} {row old : α} {rows : List α}

theorem lookup_key (h : lookup key k rows = some row) : key row = k := by
  simpa using List.find?_some h

theorem lookup_mem (h : lookup key k rows = some row) : row ∈ rows := List.mem_of_find?_eq_some h

omit [DecidableEq κ] in
theorem Keyed.eq_of_mem (hKeyed : Keyed key rows) (hRow : row ∈ rows) (hOld : old ∈ rows)
    (hKey : key row = key old) : row = old :=
  List.inj_on_of_nodup_map hKeyed hRow hOld hKey

theorem Keyed.lookup_of_mem (hKeyed : Keyed key rows) (h : row ∈ rows) :
    lookup key (key row) rows = some row := by
  cases hFound : lookup key (key row) rows with
  | none => exact absurd (List.find?_eq_none.mp hFound row h) (by simp)
  | some =>
    rw [hKeyed.eq_of_mem (lookup_mem hFound) h (lookup_key hFound)]

theorem Keyed.length_filter (hKeyed : Keyed key rows) (h : lookup key k rows = some row) :
    (rows.filter (fun old => key old = k)).length = 1 := by
  have hMem : k ∈ rows.map key := List.mem_map.mpr ⟨row, lookup_mem h, lookup_key h⟩
  have hCount : (rows.map key).count k = 1 := List.count_eq_one_of_mem hKeyed hMem
  rw [List.count_eq_countP, List.countP_map, List.countP_eq_length_filter] at hCount
  rw [← hCount]
  rfl

theorem Keyed.filter_key (hKeyed : Keyed key rows) (h : lookup key k rows = some row) :
    rows.filter (fun old => key old = k) = [row] := by
  obtain ⟨only, hOnly⟩ := List.length_eq_one_iff.mp (hKeyed.length_filter h)
  have hRow : row ∈ rows.filter (fun old => key old = k) :=
    List.mem_filter.mpr ⟨lookup_mem h, by simpa using lookup_key h⟩
  rw [hOnly, List.mem_singleton] at hRow
  rw [hOnly, hRow]

theorem lookup_eq_none_iff : lookup key k rows = none ↔ k ∉ rows.map key := by
  simp only [lookup, List.find?_eq_none, decide_eq_true_eq, List.mem_map, not_exists, not_and]

theorem lookup_isSome_iff : (lookup key k rows).isSome = true ↔ k ∈ rows.map key := by
  rw [Option.isSome_iff_ne_none, Ne, lookup_eq_none_iff, not_not]

@[simp] theorem map_key_store : (store key row rows).map key = rows.map key := by
  simp only [store, List.map_map]
  apply List.map_congr_left
  intro x _
  by_cases hKey : key x = key row
  all_goals simp [Function.comp_apply, hKey]

theorem Keyed.store (hKeyed : Keyed key rows) : Keyed key (store key row rows) := by
  unfold Keyed
  rwa [map_key_store]

omit [DecidableEq κ] in
theorem Keyed.append_fresh (hKeyed : Keyed key rows) (hFresh : key row ∉ rows.map key) :
    Keyed key (rows ++ [row]) := by
  unfold Keyed
  rw [List.map_append, List.map_singleton]
  refine List.Nodup.append hKeyed (List.nodup_singleton _) ?_
  intro k hk hRow
  rw [List.mem_singleton.mp hRow] at hk
  exact hFresh hk

theorem mem_store {x : α} (h : x ∈ store key row rows) : x = row ∨ x ∈ rows := by
  obtain ⟨y, hy, rfl⟩ := List.mem_map.mp h
  by_cases hKey : key y = key row
  · exact Or.inl (if_pos hKey)
  · rw [if_neg hKey]
    exact Or.inr hy

theorem forall_mem_store {P : α → Prop} (h : ∀ item ∈ rows, P item) (hRow : P row) :
    ∀ item ∈ store key row rows, P item := by
  intro item hItem
  rcases mem_store hItem with rfl | hOld
  · exact hRow
  · exact h item hOld

theorem key_ne_of_mem_store {x : α} (h : x ∈ store key row rows) (hne : x ≠ row) :
    key x ≠ key row := by
  obtain ⟨y, hy, rfl⟩ := List.mem_map.mp h
  by_cases hKey : key y = key row
  · exact absurd (if_pos hKey) hne
  · rw [if_neg hKey]
    exact hKey

theorem mem_store_of_ne (hRow : old ∈ rows) (hKey : key old ≠ key row) : old ∈ store key row rows :=
  List.mem_map.mpr ⟨old, hRow, if_neg hKey⟩

theorem mem_store_self (hOld : old ∈ rows) (hKey : key old = key row) : row ∈ store key row rows :=
  List.mem_map.mpr ⟨old, hOld, if_pos hKey⟩

theorem lookup_store_self (h : lookup key (key row) rows = some old) :
    lookup key (key row) (store key row rows) = some row := by
  induction rows with
  | nil => cases h
  | cons x rows ih =>
    by_cases hKey : key x = key row
    · simp [lookup, QuantApp.Verified.store, hKey]
    · have hTail : lookup key (key row) rows = some old := by
        simpa [lookup, List.find?_cons, hKey] using h
      simpa [lookup, QuantApp.Verified.store, List.find?_cons, hKey] using ih hTail

theorem store_ne_self (h : lookup key (key row) rows = some old) (hne : row ≠ old) :
    store key row rows ≠ rows := by
  intro hSame
  have hNew := lookup_store_self h
  rw [hSame, h] at hNew
  exact hne (Option.some.inj hNew).symm

theorem lookup_store_of_ne (hne : k ≠ key row) :
    lookup key k (store key row rows) = lookup key k rows := by
  induction rows with
  | nil => rfl
  | cons x rows ih =>
    simp only [lookup, QuantApp.Verified.store, List.map_cons, List.find?_cons] at ih ⊢
    by_cases hKey : key x = key row
    · have hx : ¬ key x = k := fun hEq => hne (hEq.symm.trans hKey)
      simp only [hKey, if_true, hne.symm, decide_false] at ih ⊢
      exact ih
    · simp only [hKey, if_false]
      rw [ih]

/-- Writes under different keys commute. -/
theorem store_comm (hne : key row ≠ key old) :
    store key row (store key old rows) = store key old (store key row rows) := by
  unfold store
  rw [List.map_map, List.map_map]
  apply List.map_congr_left
  intro x _
  rw [Function.comp_apply, Function.comp_apply]
  by_cases hOld : key x = key old
  · have hRow : ¬ key x = key row := fun hEq => hne (hEq.symm.trans hOld)
    rw [if_pos hOld, if_neg (Ne.symm hne), if_neg hRow, if_pos hOld]
  · by_cases hRow : key x = key row
    · rw [if_neg hOld, if_pos hRow, if_neg hne]
    · rw [if_neg hOld, if_neg hRow, if_neg hOld]

theorem forall₂_trans {R : α → α → Prop} (hTrans : ∀ {x y z}, R x y → R y z → R x z)
    {first second third : List α} (h : List.Forall₂ R first second)
    (h' : List.Forall₂ R second third) : List.Forall₂ R first third := by
  induction h generalizing third with
  | nil => exact h'
  | cons hHead _ ih =>
    cases h' with
    | cons hHead' hTail' => exact List.Forall₂.cons (hTrans hHead hHead') (ih hTail')

/-- One write relates the table before to the table after, row by row. -/
theorem forall₂_store {R : α → α → Prop} (hKeyed : Keyed key rows)
    (hOld : lookup key (key row) rows = some old) (hRefl : ∀ x, R x x) (hRow : R old row) :
    List.Forall₂ R rows (store key row rows) := by
  have hEach : ∀ x ∈ rows, R x (if key x = key row then row else x) := by
    intro x hx
    by_cases hKey : key x = key row
    · have hxOld : x = old :=
        hKeyed.eq_of_mem hx (lookup_mem hOld) (hKey.trans (lookup_key hOld).symm)
      rw [if_pos hKey, hxOld]
      exact hRow
    · rw [if_neg hKey]
      exact hRefl x
  exact List.forall₂_map_right_iff.mpr (List.forall₂_same.mpr hEach)

theorem lookup_cons_of_ne (x : α) (hne : key x ≠ k) :
    lookup key k (x :: rows) = lookup key k rows := by
  simp [lookup, hne]

/-! ### Insert or replace -/

variable (key) in
/-- Make the row with key `k` from what the table holds for it. -/
def upsert (k : κ) (make : Option α → α) (rows : List α) : List α :=
  match lookup key k rows with
  | none => rows ++ [make none]
  | some old => store key (make (some old)) rows

section Upsert

variable {make : Option α → α}

theorem map_key_upsert (hKey : ∀ found, found = lookup key k rows → key (make found) = k) :
    (upsert key k make rows).map key =
      if k ∈ rows.map key then rows.map key else rows.map key ++ [k] := by
  have hMake := hKey _ rfl
  unfold upsert
  cases hFound : lookup key k rows with
  | none =>
    rw [hFound] at hMake
    rw [if_neg (lookup_eq_none_iff.mp hFound), List.map_append, List.map_singleton, hMake]
  | some =>
    have hMem : k ∈ rows.map key := by
      by_contra hAbsent
      rw [lookup_eq_none_iff.mpr hAbsent] at hFound
      cases hFound
    rw [if_pos hMem]
    exact map_key_store

theorem Keyed.upsert (hKeyed : Keyed key rows)
    (hKey : ∀ found, found = lookup key k rows → key (make found) = k) :
    Keyed key (upsert key k make rows) := by
  unfold Keyed
  rw [map_key_upsert hKey]
  split
  · exact hKeyed
  · rename_i hAbsent
    refine List.Nodup.append hKeyed (List.nodup_singleton k) ?_
    intro x hx hk
    rw [List.mem_singleton] at hk
    rw [hk] at hx
    exact hAbsent hx

theorem lookup_append (rows' : List α) :
    lookup key k (rows ++ rows') = (lookup key k rows).or (lookup key k rows') := by
  simp only [lookup, List.find?_append]

theorem lookup_upsert_self
    (hKey : ∀ found, found = lookup key k rows → key (make found) = k) :
    lookup key k (upsert key k make rows) = some (make (lookup key k rows)) := by
  have hMake := hKey _ rfl
  unfold upsert
  cases hFound : lookup key k rows with
  | none =>
    rw [hFound] at hMake
    rw [lookup_append, hFound, Option.none_or]
    simp [lookup, hMake]
  | some old =>
    rw [hFound] at hMake
    have hOld : lookup key (key (make (some old))) rows = some old := by
      rw [hMake]
      exact hFound
    have hSelf := lookup_store_self hOld
    rwa [hMake] at hSelf

theorem lookup_upsert_of_ne {k' : κ} (hne : k' ≠ k)
    (hKey : ∀ found, found = lookup key k rows → key (make found) = k) :
    lookup key k' (upsert key k make rows) = lookup key k' rows := by
  have hMake := hKey _ rfl
  unfold upsert
  cases hFound : lookup key k rows with
  | none =>
    rw [hFound] at hMake
    rw [lookup_append]
    have hNew : lookup key k' [make none] = none := by
      rw [lookup_eq_none_iff, List.map_singleton, hMake, List.mem_singleton]
      exact hne
    rw [hNew, Option.or_none]
  | some =>
    rw [hFound] at hMake
    exact lookup_store_of_ne (by rw [hMake]; exact hne)

theorem mem_upsert {x : α} (h : x ∈ upsert key k make rows) :
    x = make (lookup key k rows) ∨ x ∈ rows := by
  unfold upsert at h
  cases hFound : lookup key k rows with
  | none =>
    rw [hFound] at h
    rcases List.mem_append.mp h with hOld | hNew
    · exact Or.inr hOld
    · exact Or.inl (List.mem_singleton.mp hNew)
  | some =>
    rw [hFound] at h
    exact mem_store h

end Upsert

variable (key) in
/-- Put every row of a table into another: `dict.update`. -/
def putAll (added rows : List α) : List α :=
  added.foldl (fun rows row => upsert key (key row) (fun _ => row) rows) rows

section PutAll

variable {added : List α}

theorem Keyed.putAll (hKeyed : Keyed key rows) : Keyed key (putAll key added rows) := by
  induction added generalizing rows with
  | nil => exact hKeyed
  | cons x added ih => exact ih (hKeyed.upsert (fun _ _ => rfl))

theorem lookup_putAll_of_fresh (hFresh : k ∉ added.map key) :
    lookup key k (putAll key added rows) = lookup key k rows := by
  induction added generalizing rows with
  | nil => rfl
  | cons x added ih =>
    rw [List.map_cons, List.mem_cons, not_or] at hFresh
    exact (ih hFresh.2).trans (lookup_upsert_of_ne hFresh.1 (fun _ _ => rfl))

/-- A row that was put is found under its key. -/
theorem lookup_putAll (hAdded : Keyed key added) (hRow : row ∈ added) :
    lookup key (key row) (putAll key added rows) = some row := by
  induction added generalizing rows with
  | nil => cases hRow
  | cons x added ih =>
    obtain ⟨hFresh, hTail⟩ := List.nodup_cons.mp hAdded
    rcases List.mem_cons.mp hRow with rfl | hRow
    · exact (lookup_putAll_of_fresh hFresh).trans (lookup_upsert_self (fun _ _ => rfl))
    · exact ih hTail hRow

theorem mem_putAll {x : α} (h : x ∈ putAll key added rows) : x ∈ added ∨ x ∈ rows := by
  induction added generalizing rows with
  | nil => exact Or.inr h
  | cons y added ih =>
    rcases ih h with hAdded | hRows
    · exact Or.inl (List.mem_cons_of_mem _ hAdded)
    · rcases mem_upsert hRows with rfl | hOld
      · exact Or.inl List.mem_cons_self
      · exact Or.inr hOld

theorem mem_putAll_of_added (hAdded : Keyed key added) (hRow : row ∈ added) :
    row ∈ putAll key added rows := lookup_mem (lookup_putAll hAdded hRow)

theorem Keyed.mem_putAll (hKeyed : Keyed key rows) (hRow : row ∈ rows)
    (hFresh : key row ∉ added.map key) : row ∈ QuantApp.Verified.putAll key added rows :=
  lookup_mem ((lookup_putAll_of_fresh hFresh).trans (hKeyed.lookup_of_mem hRow))

/-- Rows whose keys are new and distinct are put at the end, in their order. -/
theorem putAll_of_fresh (h : Keyed key (rows ++ added)) :
    putAll key added rows = rows ++ added := by
  induction added generalizing rows with
  | nil => simp [QuantApp.Verified.putAll]
  | cons x added ih =>
    have hSplit : Keyed key ((rows ++ [x]) ++ added) := by
      simpa using h
    have hFresh : lookup key (key x) rows = none := by
      rw [lookup_eq_none_iff]
      intro hMem
      have hNodup : (rows.map key ++ key x :: added.map key).Nodup := by
        simpa [Keyed] using h
      exact (List.nodup_middle.mp hNodup).notMem (List.mem_append_left _ hMem)
    have hFirst : upsert key (key x) (fun _ => x) rows = rows ++ [x] := by
      unfold upsert
      rw [hFresh]
    show putAll key added (upsert key (key x) (fun _ => x) rows) = rows ++ x :: added
    rw [hFirst, ih hSplit, List.append_assoc, List.singleton_append]

end PutAll

end Table

/-! ## Row-by-row relations -/

section Evolution

variable {α : Type u} {R : α → α → Prop}

theorem forall₂_comp {S T : α → α → Prop} (hComp : ∀ x y z, R x y → S y z → T x z) :
    ∀ {xs ys zs : List α}, List.Forall₂ R xs ys → List.Forall₂ S ys zs → List.Forall₂ T xs zs
  | _, _, _, .nil, .nil => .nil
  | _, _, _, .cons hxy hxs, .cons hyz hys =>
    .cons (hComp _ _ _ hxy hyz) (forall₂_comp hComp hxs hys)

section

variable {β : Type v} {S : α → β → Prop} {xs : List α} {ys : List β} (h : List.Forall₂ S xs ys)
include h

theorem forall₂_mem_right {y : β} (hy : y ∈ ys) : ∃ x ∈ xs, S x y := by
  induction h with
  | nil => cases hy
  | cons hHead _ ih =>
    rcases List.mem_cons.mp hy with rfl | hTail
    · exact ⟨_, List.mem_cons_self, hHead⟩
    · obtain ⟨x, hx, hS⟩ := ih hTail
      exact ⟨x, List.mem_cons_of_mem _ hx, hS⟩

theorem forall₂_mem_left {x : α} (hx : x ∈ xs) : ∃ y ∈ ys, S x y := by
  induction h with
  | nil => cases hx
  | cons hHead _ ih =>
    rcases List.mem_cons.mp hx with rfl | hTail
    · exact ⟨_, List.mem_cons_self, hHead⟩
    · obtain ⟨y, hy, hS⟩ := ih hTail
      exact ⟨y, List.mem_cons_of_mem _ hy, hS⟩

end

/-- A row-by-row relation that keeps keys relates what is found under a key. -/
theorem lookup_forall₂ {κ : Type v} [DecidableEq κ] {key : α → κ} {k : κ} {xs ys : List α}
    {x : α} (hKey : ∀ a b, R a b → key b = key a) (h : List.Forall₂ R xs ys)
    (hFound : lookup key k xs = some x) : ∃ y, lookup key k ys = some y ∧ R x y := by
  induction h with
  | nil => cases hFound
  | @cons a b xs ys hHead _ ih =>
    by_cases hHere : key a = k
    · have hx : a = x := by simpa [lookup, hHere] using hFound
      refine ⟨b, ?_, hx ▸ hHead⟩
      simp [lookup, hKey a b hHead, hHere]
    · have hThere : key b ≠ k := by rwa [hKey a b hHead]
      rw [lookup_cons_of_ne a hHere] at hFound
      rw [lookup_cons_of_ne b hThere]
      exact ih hFound

end Evolution

end QuantApp.Verified
