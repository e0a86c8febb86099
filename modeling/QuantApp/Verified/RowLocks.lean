import Mathlib.Logic.Function.Basic

/-!
# Rows under locks

Rows of a table as transactions see them: a locking read and a write take the row's lock
and keep it until the transaction ends; what a transaction writes is seen by others once it
commits.  A missing row cannot be locked by reading it, only by inserting it.
-/

namespace QuantApp.Verified

open Function (update)

universe u v w

/-- The committed rows, the transaction that holds each lock, and the uncommitted writes of
each transaction. -/
structure LockedRows (κ : Type u) (ρ : Type v) (τ : Type w) where
  rows : κ → Option ρ
  holder : κ → Option τ := fun _ => none
  pending : τ → κ → Option ρ := fun _ _ => none

namespace LockedRows

variable {κ : Type u} {ρ : Type v} {τ : Type w}

/-- The lock can be taken: it is free, or held by the transaction itself. -/
def CanLock (store : LockedRows κ ρ τ) (t : τ) (k : κ) : Prop :=
  store.holder k = none ∨ store.holder k = some t

instance [DecidableEq τ] (store : LockedRows κ ρ τ) (t : τ) (k : κ) :
    Decidable (store.CanLock t k) := inferInstanceAs (Decidable (_ ∨ _))

/-- The row as the transaction sees it under the lock. -/
def seen (store : LockedRows κ ρ τ) (t : τ) (k : κ) : Option ρ :=
  (store.pending t k).or (store.rows k)

/-- Every uncommitted write is under the lock of its transaction. -/
def Sound (store : LockedRows κ ρ τ) : Prop :=
  ∀ t k row, store.pending t k = some row → store.holder k = some t

/-- The transaction has written nothing yet. -/
def Clean (store : LockedRows κ ρ τ) (t : τ) : Prop := ∀ k, store.pending t k = none

/-- What a transaction holds is kept: its locks, the rows under them, and its writes. -/
structure Keeps (t : τ) (before after : LockedRows κ ρ τ) : Prop where
  holder : ∀ k, before.holder k = some t → after.holder k = some t
  rows : ∀ k, before.holder k = some t → after.rows k = before.rows k
  pending : after.pending t = before.pending t

theorem Keeps.refl (t : τ) (store : LockedRows κ ρ τ) : Keeps t store store :=
  ⟨fun _ h => h, fun _ _ => rfl, rfl⟩

theorem seen_of_clean {store : LockedRows κ ρ τ} {t : τ} (h : store.Clean t) (k : κ) :
    store.seen t k = store.rows k := by
  simp [seen, h k]

set_option linter.unusedSectionVars false

variable [DecidableEq κ] [DecidableEq τ]

/-- `SELECT .. FOR UPDATE`. -/
def lock (store : LockedRows κ ρ τ) (t : τ) (k : κ) : LockedRows κ ρ τ :=
  if (store.seen t k).isSome then
    { store with holder := Function.update store.holder k (some t) }
  else store

/-- `INSERT`, or an `UPDATE` that matches. -/
def put (store : LockedRows κ ρ τ) (t : τ) (k : κ) (row : ρ) : LockedRows κ ρ τ :=
  { store with
    holder := Function.update store.holder k (some t)
    pending := Function.update store.pending t (Function.update (store.pending t) k (some row)) }

/-- The locks without those of a transaction. -/
def released (store : LockedRows κ ρ τ) (t : τ) : κ → Option τ :=
  fun k => if store.holder k = some t then none else store.holder k

def commit (store : LockedRows κ ρ τ) (t : τ) : LockedRows κ ρ τ :=
  { rows := fun k => store.seen t k
    holder := store.released t
    pending := Function.update store.pending t (fun _ => none) }

def abort (store : LockedRows κ ρ τ) (t : τ) : LockedRows κ ρ τ :=
  { store with
    holder := store.released t
    pending := Function.update store.pending t (fun _ => none) }

/-- A transaction of its own that writes one row. -/
def overwrite (store : LockedRows κ ρ τ) (k : κ) (row : ρ) : LockedRows κ ρ τ :=
  { store with rows := Function.update store.rows k (some row) }

section Operations

variable {store : LockedRows κ ρ τ} {t other : τ} {k : κ} {row : ρ}

@[simp] theorem lock_rows : (store.lock t k).rows = store.rows := by
  unfold lock
  split <;> rfl

@[simp] theorem lock_pending : (store.lock t k).pending = store.pending := by
  unfold lock
  split <;> rfl

@[simp] theorem put_holder : (store.put t k row).holder k = some t := by simp [put]

@[simp] theorem put_pending : (store.put t k row).pending t k = some row := by simp [put]

theorem put_pending_ne {k' : κ} (h : k' ≠ k) :
    (store.put t k row).pending t k' = store.pending t k' := by
  simp [put, h]

theorem abort_clean : (store.abort t).Clean t := by
  intro k
  simp [abort]

theorem commit_clean : (store.commit t).Clean t := by
  intro k
  simp [commit]

theorem lock_holder_of_some (h : (store.seen t k).isSome = true) :
    (store.lock t k).holder k = some t := by
  simp [lock, h]

/-! ### Soundness -/

theorem released_of_other (h : store.holder k = some t) (hOther : t ≠ other) :
    store.released other k = some t := by
  simp [released, h, hOther]

section

variable (h : store.Sound)
include h

theorem Sound.lock (hCan : store.CanLock t k) : (store.lock t k).Sound := by
  intro u k' row hPending
  rw [lock_pending] at hPending
  have hHeld := h u k' row hPending
  unfold LockedRows.lock
  split
  · by_cases hKey : k' = k
    · subst hKey
      cases hCan with
      | inl hFree =>
        rw [hFree] at hHeld
        cases hHeld
      | inr hOwn => simpa [hOwn] using hHeld
    · simpa [hKey] using hHeld
  · exact hHeld

theorem Sound.put (hCan : store.CanLock t k) (row : ρ) : (store.put t k row).Sound := by
  intro u k' found hPending
  by_cases hKey : k' = k
  · subst hKey
    by_cases hSelf : u = t
    · rw [hSelf]
      exact put_holder
    · have hBefore : store.pending u k' = some found := by
        simpa [LockedRows.put, hSelf] using hPending
      have hHeld := h u k' found hBefore
      cases hCan with
      | inl hFree =>
        rw [hFree] at hHeld
        cases hHeld
      | inr hOwn =>
        rw [hOwn] at hHeld
        exact absurd (Option.some.inj hHeld).symm hSelf
  · have hBefore : store.pending u k' = some found := by
      by_cases hSelf : u = t
      · subst hSelf
        simpa [LockedRows.put, hKey] using hPending
      · simpa [LockedRows.put, hSelf] using hPending
    simpa [LockedRows.put, hKey] using h u k' found hBefore

theorem Sound.ended {u : τ} {k' : κ} {found : ρ}
    (hPending : update store.pending t (fun _ => none) u k' = some found) :
    store.released t k' = some u := by
  by_cases hSelf : u = t
  · subst hSelf
    simp at hPending
  · have hBefore : store.pending u k' = some found := by simpa [hSelf] using hPending
    exact released_of_other (h u k' found hBefore) hSelf

theorem Sound.commit (t : τ) : (store.commit t).Sound := by
  intro u k' found hPending
  exact h.ended hPending

theorem Sound.abort (t : τ) : (store.abort t).Sound := by
  intro u k' found hPending
  exact h.ended hPending

end

/-! ### What the others hold -/

/-- A lock another transaction holds cannot be taken. -/
theorem ne_of_canLock {k' : κ} (hCan : store.CanLock other k') (hOther : t ≠ other)
    (hHeld : store.holder k = some t) : k ≠ k' := by
  intro hKey
  subst hKey
  cases hCan with
  | inl hFree =>
    rw [hFree] at hHeld
    cases hHeld
  | inr hOwn =>
    rw [hOwn] at hHeld
    exact hOther (Option.some.inj hHeld).symm

theorem keeps_lock {k' : κ} (hCan : store.CanLock other k') (hOther : t ≠ other) :
    Keeps t store (store.lock other k') := by
  constructor
  · intro k hHeld
    have hKey := ne_of_canLock hCan hOther hHeld
    unfold lock
    split
    · simpa [hKey] using hHeld
    · exact hHeld
  · intro k _
    rw [lock_rows]
  · rw [lock_pending]

/-- A transaction's own locking read keeps what it holds as well. -/
theorem keeps_own_lock (k' : κ) : Keeps t store (store.lock t k') := by
  constructor
  · intro k hHeld
    unfold lock
    split
    · by_cases hKey : k = k'
      · simp [hKey]
      · simpa [hKey] using hHeld
    · exact hHeld
  · intro k _
    rw [lock_rows]
  · rw [lock_pending]

theorem keeps_put {k' : κ} (hCan : store.CanLock other k') (hOther : t ≠ other) (row : ρ) :
    Keeps t store (store.put other k' row) := by
  constructor
  · intro k hHeld
    have hKey := ne_of_canLock hCan hOther hHeld
    simpa [put, hKey] using hHeld
  · intro k _
    rfl
  · simp [put, hOther]

theorem keeps_abort (hOther : t ≠ other) : Keeps t store (store.abort other) := by
  constructor
  · intro k hHeld
    exact released_of_other hHeld hOther
  · intro k _
    rfl
  · simp [abort, hOther]

/-- A commit leaves the rows that another transaction has locked. -/
theorem keeps_commit (hSound : store.Sound) (hOther : t ≠ other) :
    Keeps t store (store.commit other) := by
  constructor
  · intro k hHeld
    exact released_of_other hHeld hOther
  · intro k hHeld
    show store.seen other k = store.rows k
    unfold seen
    cases hPending : store.pending other k with
    | none => rfl
    | some row =>
      have hOwn := hSound other k row hPending
      rw [hOwn] at hHeld
      exact absurd (Option.some.inj hHeld).symm hOther
  · simp [commit, hOther]

theorem Sound.overwrite (h : store.Sound) (k : κ) (row : ρ) : (store.overwrite k row).Sound := h

theorem keeps_overwrite {k' : κ} (hFree : store.holder k' = none) (row : ρ) :
    Keeps t store (store.overwrite k' row) := by
  constructor
  · intro k hHeld
    exact hHeld
  · intro k hHeld
    have hKey : k ≠ k' := by
      intro hKey
      rw [hKey, hFree] at hHeld
      cases hHeld
    simp [LockedRows.overwrite, hKey]
  · rfl

theorem seen_eq_rows (h : store.pending t k = none) : store.seen t k = store.rows k := by
  simp [seen, h]

end Operations

end LockedRows

end QuantApp.Verified
