import Mathlib.Data.List.Induction
import Mathlib.Data.List.Perm.Subperm
import QuantApp.Verified.KeyedTable

/-!
# Dictionaries

A dictionary in insertion order: rows of a key and a value, no key twice.
`set` overwrites the row of a key that is present where it stands and appends
the row of any other key, `erase` drops a row.  The lemmas say what a lookup
finds, which keys are present and how many rows there are after either.
-/

namespace QuantApp.Verified

universe u v w

/-- Rows of a key and a value, in the order their keys were first set. -/
structure Dictionary (κ : Type u) (α : Type v) where
  rows : List (κ × α)
  keyed : Keyed Prod.fst rows

namespace Dictionary

variable {κ : Type u} {α : Type v} {β : Type w}

/-- The dictionary without rows. -/
def empty : Dictionary κ α := ⟨[], List.nodup_nil⟩

instance : EmptyCollection (Dictionary κ α) := ⟨empty⟩

def keys (d : Dictionary κ α) : List κ := d.rows.map Prod.fst

def values (d : Dictionary κ α) : List α := d.rows.map Prod.snd

def size (d : Dictionary κ α) : Nat := d.rows.length

instance : Membership κ (Dictionary κ α) := ⟨fun d k => k ∈ d.keys⟩

/-- Every value replaced by a function of its row. -/
def mapValues (f : κ → α → β) (d : Dictionary κ α) : Dictionary κ β where
  rows := d.rows.map (fun row => (row.1, f row.1 row.2))
  keyed := by
    have hKeys : (d.rows.map (fun row => (row.1, f row.1 row.2))).map Prod.fst =
        d.rows.map Prod.fst := by
      rw [List.map_map]
      rfl
    unfold Keyed
    rw [hKeys]
    exact d.keyed

variable [DecidableEq κ]

instance (k : κ) (d : Dictionary κ α) : Decidable (k ∈ d) :=
  inferInstanceAs (Decidable (k ∈ d.keys))

def get? (d : Dictionary κ α) (k : κ) : Option α := (lookup Prod.fst k d.rows).map Prod.snd

/-- `d[k] = v`. -/
def set (d : Dictionary κ α) (k : κ) (v : α) : Dictionary κ α :=
  if h : k ∈ d.rows.map Prod.fst then ⟨store Prod.fst (k, v) d.rows, d.keyed.store⟩
  else ⟨d.rows ++ [(k, v)], d.keyed.append_fresh h⟩

/-- `d.setdefault(k, v)`. -/
def setDefault (d : Dictionary κ α) (k : κ) (v : α) : Dictionary κ α :=
  if k ∈ d then d else d.set k v

/-- `d.pop(k, None)`. -/
def erase (d : Dictionary κ α) (k : κ) : Dictionary κ α :=
  ⟨d.rows.filter (fun row => row.1 ≠ k), (List.filter_sublist.map Prod.fst).nodup d.keyed⟩

/-- The rows whose key is kept. -/
def filterKeys (keep : κ → Bool) (d : Dictionary κ α) : Dictionary κ α :=
  ⟨d.rows.filter (fun row => keep row.1), (List.filter_sublist.map Prod.fst).nodup d.keyed⟩

variable {d : Dictionary κ α} {k k' : κ} {v : α}

/-! ## Lookups -/

theorem mem_iff_isSome : k ∈ d ↔ (d.get? k).isSome = true := by
  show k ∈ d.rows.map Prod.fst ↔ _
  rw [get?, Option.isSome_map, lookup_isSome_iff]

theorem mem_of_get? (h : d.get? k = some v) : k ∈ d := by
  rw [mem_iff_isSome, h]
  rfl

theorem exists_get? (h : k ∈ d) : ∃ v, d.get? k = some v :=
  Option.isSome_iff_exists.mp (mem_iff_isSome.mp h)

theorem get?_eq_none : d.get? k = none ↔ k ∉ d := by
  rw [mem_iff_isSome, Option.not_isSome_iff_eq_none]

/-- The rows are what the lookups find. -/
theorem mem_rows : (k, v) ∈ d.rows ↔ d.get? k = some v := by
  constructor
  · intro h
    have hLookup : lookup Prod.fst k d.rows = some (k, v) := d.keyed.lookup_of_mem h
    rw [get?, hLookup]
    rfl
  · intro h
    obtain ⟨row, hRow, rfl⟩ := Option.map_eq_some_iff.mp h
    have hKey : row.1 = k := lookup_key hRow
    rw [← hKey]
    exact lookup_mem hRow

@[simp] theorem get?_empty : (∅ : Dictionary κ α).get? k = none := rfl

omit [DecidableEq κ] in
@[simp] theorem not_mem_empty : k ∉ (∅ : Dictionary κ α) := List.not_mem_nil

/-! ## Writes -/

theorem get?_set_self : (d.set k v).get? k = some v := by
  unfold set
  split
  next h =>
    obtain ⟨old, hOld⟩ := Option.isSome_iff_exists.mp (lookup_isSome_iff.mpr h)
    have hKey : lookup Prod.fst (Prod.fst (k, v)) d.rows = some old := hOld
    have hNew : lookup Prod.fst k (store Prod.fst (k, v) d.rows) = some (k, v) :=
      lookup_store_self hKey
    simp only [get?, hNew, Option.map_some]
  next h =>
    have hOld : lookup Prod.fst k d.rows = none := lookup_eq_none_iff.mpr h
    unfold lookup at hOld
    simp [get?, lookup, List.find?_append, hOld]

theorem get?_set_of_ne (hne : k' ≠ k) : (d.set k v).get? k' = d.get? k' := by
  unfold set
  split
  · have hSame : lookup Prod.fst k' (store Prod.fst (k, v) d.rows) = lookup Prod.fst k' d.rows :=
      lookup_store_of_ne hne
    simp only [get?, hSame]
  · simp [get?, lookup, List.find?_append, hne.symm]

theorem get?_set : (d.set k v).get? k' = if k' = k then some v else d.get? k' := by
  split
  next h =>
    rw [h]
    exact get?_set_self
  next h => exact get?_set_of_ne h

@[simp] theorem mem_set : k' ∈ d.set k v ↔ k' = k ∨ k' ∈ d := by
  rw [mem_iff_isSome, mem_iff_isSome, get?_set]
  split <;> simp_all

theorem size_set_of_mem (h : k ∈ d) : (d.set k v).size = d.size := by
  have hKey : k ∈ d.rows.map Prod.fst := h
  unfold set size
  rw [dif_pos hKey]
  simp [store]

theorem size_set_of_not_mem (h : k ∉ d) : (d.set k v).size = d.size + 1 := by
  have hKey : k ∉ d.rows.map Prod.fst := h
  unfold set size
  rw [dif_neg hKey]
  simp

theorem get?_setDefault : (d.setDefault k v).get? k' =
    if k' = k ∧ k ∉ d then some v else d.get? k' := by
  unfold setDefault
  by_cases hMem : k ∈ d
  · simp [hMem]
  · simp [hMem, get?_set]

theorem get?_erase : (d.erase k).get? k' = if k' = k then none else d.get? k' := by
  unfold get? lookup erase
  rw [List.find?_filter]
  split
  next h => simp [h]
  next h =>
    congr 2
    funext row
    by_cases hRow : row.1 = k'
    · simp [hRow, h]
    · simp [hRow]

@[simp] theorem mem_erase : k' ∈ d.erase k ↔ k' ≠ k ∧ k' ∈ d := by
  rw [mem_iff_isSome, mem_iff_isSome, get?_erase]
  split <;> simp_all

theorem get?_filterKeys {keep : κ → Bool} :
    (d.filterKeys keep).get? k = if keep k then d.get? k else none := by
  unfold get? lookup filterKeys
  rw [List.find?_filter]
  by_cases hKeep : keep k = true
  · rw [if_pos hKeep]
    congr 2
    funext row
    by_cases hRow : row.1 = k
    · simp [hRow, hKeep]
    · simp [hRow]
  · rw [if_neg hKeep, Option.map_eq_none_iff, List.find?_eq_none]
    intro row _ hRow
    simp only [decide_eq_true_eq] at hRow
    exact hKeep (hRow.2 ▸ hRow.1)

theorem get?_of_erase (h : (d.erase k).get? k' = some v) : k' ≠ k ∧ d.get? k' = some v := by
  rw [get?_erase] at h
  split at h
  · cases h
  next hne => exact ⟨hne, h⟩

theorem size_erase_le : (d.erase k).size ≤ d.size := List.length_filter_le _ _

omit [DecidableEq κ] in
theorem size_le_of_subset {d' : Dictionary κ β} (h : ∀ k, k ∈ d → k ∈ d') : d.size ≤ d'.size := by
  have hSub : d.keys.Subperm d'.keys := List.Nodup.subperm d.keyed h
  have hLength := hSub.length_le
  unfold keys at hLength
  rwa [List.length_map, List.length_map] at hLength

theorem get?_mapValues {f : κ → α → β} : (d.mapValues f).get? k = (d.get? k).map (f k) := by
  unfold get? mapValues lookup
  rw [List.find?_map, Option.map_map, Option.map_map]
  show ((d.rows.find? (fun row => row.1 = k)).map _) = _
  apply Option.map_congr
  intro row hRow
  have hKey : row.1 = k := by simpa using List.find?_some hRow
  simp [hKey]

@[simp] theorem mem_mapValues {f : κ → α → β} : k ∈ d.mapValues f ↔ k ∈ d := by
  rw [mem_iff_isSome, mem_iff_isSome, get?_mapValues, Option.isSome_map]

omit [DecidableEq κ] in
@[simp] theorem size_mapValues {f : κ → α → β} : (d.mapValues f).size = d.size := List.length_map _

/-! ## Values filed under their keys -/

/-- `for value in items: d[key(value)] = value`. -/
def fileUnder (key : α → κ) (items : List α) : Dictionary κ α :=
  items.foldl (fun d value => d.set (key value) value) ∅

variable {key : α → κ} {items : List α}

/-- A key finds the last of its values. -/
theorem get?_fileUnder :
    (fileUnder key items).get? k = items.reverse.find? (fun value => key value = k) := by
  induction items using List.reverseRecOn with
  | nil => rfl
  | append_singleton items value ih =>
    have hSet : fileUnder key (items ++ [value]) =
        (fileUnder key items).set (key value) value := by
      unfold fileUnder
      rw [List.foldl_append]
      rfl
    rw [hSet, get?_set, ih, List.reverse_append, List.reverse_singleton,
      List.singleton_append, List.find?_cons]
    by_cases hKey : key value = k
    · simp [hKey]
    · simp [hKey, Ne.symm hKey]

/-- Every value stands under its own key. -/
theorem map_key_values_fileUnder :
    (fileUnder key items).values.map key = (fileUnder key items).keys := by
  unfold values keys
  rw [List.map_map]
  apply List.map_congr_left
  intro row hRow
  have hFound := mem_rows.mp hRow
  rw [get?_fileUnder] at hFound
  have hKey : key row.2 = row.1 := by simpa using List.find?_some hFound
  exact hKey

/-- What is left is the last value of every key. -/
theorem mem_values_fileUnder : v ∈ (fileUnder key items).values ↔
    items.reverse.find? (fun value => key value = key v) = some v := by
  rw [← get?_fileUnder]
  constructor
  · intro h
    obtain ⟨⟨k, value⟩, hRow, rfl⟩ := List.mem_map.mp h
    have hFound := mem_rows.mp hRow
    have hKey : key value = k := by
      rw [get?_fileUnder] at hFound
      simpa using List.find?_some hFound
    rw [hKey]
    exact hFound
  · intro h
    exact List.mem_map.mpr ⟨(key v, v), mem_rows.mpr h, rfl⟩

theorem mem_of_mem_fileUnder (h : v ∈ (fileUnder key items).values) : v ∈ items :=
  List.mem_reverse.mp (List.mem_of_find?_eq_some (mem_values_fileUnder.mp h))

/-- Every item has a value under its key. -/
theorem exists_mem_fileUnder (h : v ∈ items) :
    ∃ value ∈ (fileUnder key items).values, key value = key v := by
  have hFound : (items.reverse.find? (fun value => key value = key v)).isSome = true := by
    rw [List.find?_isSome]
    exact ⟨v, List.mem_reverse.mpr h, by simp⟩
  obtain ⟨value, hValue⟩ := Option.isSome_iff_exists.mp hFound
  have hKey : key value = key v := by simpa using List.find?_some hValue
  refine ⟨value, mem_values_fileUnder.mpr ?_, hKey⟩
  rw [hKey]
  exact hValue

theorem eq_of_mem_fileUnder {v' : α} (h : v ∈ (fileUnder key items).values)
    (h' : v' ∈ (fileUnder key items).values) (hKey : key v = key v') : v = v' := by
  have hFound := mem_values_fileUnder.mp h
  rw [hKey, mem_values_fileUnder.mp h'] at hFound
  exact (Option.some.inj hFound).symm

end Dictionary

end QuantApp.Verified
