import QuantApp.Services.ExecutionOrderRepository

/-!
# What the order store keeps

The statements of `src/services/execution_order_repository.py` read as invariants of the
table they write (`SoundOrders`): unique identities, consistent records, and no broker
identity or adoption source claimed by two orders.  On such a table an insert or an update
succeeds exactly under the conditions its checks name.
-/

namespace QuantApp.Services

open Core Verified

variable {rows written : List ExecutionOrderRecord} {record stored updated : ExecutionOrderRecord}
  {expectedVersion : Int}

/-! ## Claims -/

section Claims

variable {κ : Type} {claim : ExecutionOrderRecord → Option κ} {rows : List ExecutionOrderRecord}
  {record : ExecutionOrderRecord}

/-- No other order of the table claims what `record` claims. -/
def Unclaimed (claim : ExecutionOrderRecord → Option κ) (rows : List ExecutionOrderRecord)
    (record : ExecutionOrderRecord) : Prop :=
  ∀ row ∈ rows, ∀ key, claim record = some key → claim row = some key →
    row.clientOrderId = record.clientOrderId

/-- No two orders of the table claim the same. -/
def ClaimedOnce (claim : ExecutionOrderRecord → Option κ) (rows : List ExecutionOrderRecord) :
    Prop :=
  ∀ record ∈ rows, Unclaimed claim rows record

theorem unclaimed_of_none (h : claim record = none) : Unclaimed claim rows record := by
  intro row _ key hKey
  rw [h] at hKey
  cases hKey

variable (h : ClaimedOnce claim rows)
include h

theorem ClaimedOnce.insert (hFree : Unclaimed claim rows record) :
    ClaimedOnce claim (rows ++ [record]) := by
  apply forall_mem_concat
  · intro first hFirst
    exact forall_mem_concat (h first hFirst) fun key hKey hOther =>
      (hFree first hFirst key hOther hKey).symm
  · exact forall_mem_concat hFree fun _ _ _ => rfl

theorem ClaimedOnce.store (hFree : Unclaimed claim rows record) :
    ClaimedOnce claim (store ExecutionOrderRecord.clientOrderId record rows) := by
  apply forall_mem_store
  · intro first hFirst
    exact forall_mem_store (h first hFirst) fun key hKey hOther =>
      (hFree first hFirst key hOther hKey).symm
  · exact forall_mem_store hFree fun _ _ _ => rfl

theorem ClaimedOnce.kept (hStored : stored ∈ rows)
    (hId : record.clientOrderId = stored.clientOrderId) (hClaim : claim record = claim stored) :
    Unclaimed claim rows record := by
  intro row hRow key hKey hOther
  rw [hClaim] at hKey
  rw [hId]
  exact h stored hStored row hRow key hKey hOther

end Claims

/-! ## The checks -/

section Checks

variable {rows : List ExecutionOrderRecord} {record : ExecutionOrderRecord}

/-- A search for another order that claims the same finds none. -/
theorem find_claim_eq_none_iff {κ : Type} [DecidableEq κ]
    {claim : ExecutionOrderRecord → Option κ} {key : κ} (hKey : claim record = some key) :
    (rows.find? (fun row => row.clientOrderId ≠ record.clientOrderId && claim row = some key)) =
      none ↔ Unclaimed claim rows record := by
  rw [List.find?_eq_none]
  constructor
  · intro h row hRow found hFound hOther
    rw [hKey] at hFound
    cases hFound
    by_contra hNe
    exact h row hRow (by simp [hNe, hOther])
  · intro h row hRow hBoth
    simp only [Bool.and_eq_true, decide_eq_true_eq] at hBoth
    exact hBoth.1 (h row hRow key hKey hBoth.2)

theorem checkBrokerIdentityConflict_eq_ok_iff :
    checkBrokerIdentityConflict rows record = .ok () ↔ Unclaimed identityKeyOrNone rows record := by
  have hHolder : identityHolder rows record = none ↔ Unclaimed identityKeyOrNone rows record := by
    unfold identityHolder
    cases hKey : identityKeyOrNone record with
    | none => exact iff_of_true rfl (unclaimed_of_none hKey)
    | some => exact find_claim_eq_none_iff hKey
  rw [← hHolder]
  unfold checkBrokerIdentityConflict
  cases identityHolder rows record with
  | none | some => simp

theorem adoptionHolder_eq_none_iff :
    adoptionHolder rows record = none ↔ Unclaimed adoptionSourceOrNone rows record := by
  unfold adoptionHolder
  cases hKey : adoptionSourceOrNone record with
  | none => exact iff_of_true rfl (unclaimed_of_none hKey)
  | some => exact find_claim_eq_none_iff hKey

theorem checkAdoptionSource_eq_ok_iff :
    checkAdoptionSource rows record = .ok () ↔ Unclaimed adoptionSourceOrNone rows record := by
  rw [← adoptionHolder_eq_none_iff]
  unfold checkAdoptionSource
  cases adoptionHolder rows record with
  | none | some => simp

theorem checkAdoptionSourceOfUpdate_eq_ok_iff :
    checkAdoptionSourceOfUpdate rows record = .ok () ↔
      Unclaimed adoptionSourceOrNone rows record := by
  rw [← adoptionHolder_eq_none_iff]
  unfold checkAdoptionSourceOfUpdate
  cases adoptionHolder rows record with
  | none | some => simp

end Checks

/-! ## The statements -/

/-- Everything an insert asks of the record. -/
structure CanInsert (rows : List ExecutionOrderRecord) (record : ExecutionOrderRecord) : Prop where
  consistent : record.Consistent
  absent : getExecutionOrder rows record.clientOrderId = none
  identity : Unclaimed identityKeyOrNone rows record
  adoption : Unclaimed adoptionSourceOrNone rows record

theorem insertExecutionOrder_eq_ok_iff :
    insertExecutionOrder rows record = .ok written ↔
      CanInsert rows record ∧ written = rows ++ [record] := by
  unfold insertExecutionOrder
  constructor
  · intro h
    obtain ⟨_, hValid, h⟩ := bind_eq_ok.mp h
    obtain ⟨_, hIdentity, h⟩ := bind_eq_ok.mp h
    split at h
    · cases h
    rename_i hAbsent
    obtain ⟨_, hAdoption, h⟩ := bind_eq_ok.mp h
    cases h
    rw [Bool.not_eq_true, Option.isSome_eq_false_iff, Option.isNone_iff_eq_none] at hAbsent
    exact ⟨⟨(validateConsistency_eq_ok_iff record).mp hValid, hAbsent,
      checkBrokerIdentityConflict_eq_ok_iff.mp hIdentity,
      checkAdoptionSource_eq_ok_iff.mp hAdoption⟩, rfl⟩
  · rintro ⟨h, rfl⟩
    rw [(validateConsistency_eq_ok_iff record).mpr h.consistent,
      checkBrokerIdentityConflict_eq_ok_iff.mpr h.identity, h.absent,
      checkAdoptionSource_eq_ok_iff.mpr h.adoption]
    rfl

/-- Everything an update asks of the record. -/
structure CanUpdate (rows : List ExecutionOrderRecord) (record : ExecutionOrderRecord)
    (expectedVersion : Int) : Prop where
  consistent : record.Consistent
  stored : ∃ current, getExecutionOrder rows record.clientOrderId = some current ∧
    current.environment = record.environment ∧ current.accountNo = record.accountNo ∧
      current.symbol = record.symbol ∧ current.version = expectedVersion
  identity : Unclaimed identityKeyOrNone rows record
  adoption : Unclaimed adoptionSourceOrNone rows record

theorem updateExecutionOrder_eq_ok_iff :
    updateExecutionOrder rows record expectedVersion = .ok (written, updated) ↔
      CanUpdate rows record expectedVersion ∧
        updated = { record with version := expectedVersion + 1 } ∧
        written = store ExecutionOrderRecord.clientOrderId updated rows := by
  unfold updateExecutionOrder
  constructor
  · intro h
    obtain ⟨_, hValid, h⟩ := bind_eq_ok.mp h
    cases hFound : getExecutionOrder rows record.clientOrderId with
    | none =>
      rw [hFound] at h
      cases h
    | some current =>
      rw [hFound] at h
      dsimp only at h
      split at h
      · cases h
      rename_i hFields
      split at h
      · cases h
      rename_i hVersion
      obtain ⟨_, hIdentity, h⟩ := bind_eq_ok.mp h
      obtain ⟨_, hAdoption, h⟩ := bind_eq_ok.mp h
      cases h
      simp only [not_or, not_not] at hFields hVersion
      exact ⟨⟨(validateConsistency_eq_ok_iff record).mp hValid,
        ⟨current, hFound, hFields.1, hFields.2.1, hFields.2.2, hVersion⟩,
        checkBrokerIdentityConflict_eq_ok_iff.mp hIdentity,
        checkAdoptionSourceOfUpdate_eq_ok_iff.mp hAdoption⟩, rfl, rfl⟩
  · rintro ⟨h, rfl, rfl⟩
    obtain ⟨current, hFound, hEnvironment, hAccount, hSymbol, hVersion⟩ := h.stored
    rw [(validateConsistency_eq_ok_iff record).mpr h.consistent, hFound,
      checkBrokerIdentityConflict_eq_ok_iff.mpr h.identity,
      checkAdoptionSourceOfUpdate_eq_ok_iff.mpr h.adoption]
    show (if current.environment ≠ record.environment ∨ current.accountNo ≠ record.accountNo ∨
      current.symbol ≠ record.symbol then _ else _) = _
    rw [if_neg (by simp [hEnvironment, hAccount, hSymbol]), if_neg (by simp [hVersion])]
    rfl

/-! ## The table -/

/-- The table as its statements leave it. -/
structure SoundOrders (rows : List ExecutionOrderRecord) : Prop where
  keyed : Keyed ExecutionOrderRecord.clientOrderId rows
  consistent : ∀ record ∈ rows, record.Consistent
  identity : ClaimedOnce identityKeyOrNone rows
  adoption : ClaimedOnce adoptionSourceOrNone rows

theorem soundOrders_of_length (hLength : rows.length ≤ 1)
    (hConsistent : ∀ record ∈ rows, record.Consistent) : SoundOrders rows := by
  have hSame : ∀ record ∈ rows, ∀ row ∈ rows, row.clientOrderId = record.clientOrderId := by
    intro record hRecord row hRow
    cases rows with
    | nil => cases hRow
    | cons first rest =>
      obtain rfl : rest = [] := List.eq_nil_of_length_eq_zero (by simpa using hLength)
      rw [List.mem_singleton.mp hRecord, List.mem_singleton.mp hRow]
  refine
    { keyed := ?_
      consistent := hConsistent
      identity := fun record hRecord row hRow _ _ _ => hSame record hRecord row hRow
      adoption := fun record hRecord row hRow _ _ _ => hSame record hRecord row hRow }
  unfold Keyed
  cases rows with
  | nil => exact List.nodup_nil
  | cons first rest =>
    obtain rfl : rest = [] := List.eq_nil_of_length_eq_zero (by simpa using hLength)
    exact List.nodup_singleton _

variable (h : SoundOrders rows)
include h

theorem SoundOrders.insert (hInsert : insertExecutionOrder rows record = .ok written) :
    SoundOrders written := by
  obtain ⟨hCan, rfl⟩ := insertExecutionOrder_eq_ok_iff.mp hInsert
  refine
    { keyed := h.keyed.append_fresh (lookup_eq_none_iff.mp hCan.absent)
      consistent := ?_
      identity := h.identity.insert hCan.identity
      adoption := h.adoption.insert hCan.adoption }
  exact forall_mem_concat h.consistent hCan.consistent

theorem SoundOrders.update
    (hUpdate : updateExecutionOrder rows record expectedVersion = .ok (written, updated)) :
    SoundOrders written := by
  obtain ⟨hCan, rfl, rfl⟩ := updateExecutionOrder_eq_ok_iff.mp hUpdate
  exact
    { keyed := h.keyed.store
      consistent := forall_mem_store h.consistent (hCan.consistent.versioned _)
      identity := h.identity.store hCan.identity
      adoption := h.adoption.store hCan.adoption }

/-- A stored order whose identity, claims and version stand can be written back. -/
theorem SoundOrders.canUpdate (hStored : getExecutionOrder rows stored.clientOrderId = some stored)
    (hConsistent : record.Consistent) (hId : record.clientOrderId = stored.clientOrderId)
    (hFields : stored.environment = record.environment ∧ stored.accountNo = record.accountNo ∧
      stored.symbol = record.symbol)
    (hIdentity : identityKeyOrNone record = identityKeyOrNone stored)
    (hAdoption : adoptionSourceOrNone record = adoptionSourceOrNone stored) :
    CanUpdate rows record stored.version where
  consistent := hConsistent
  stored := ⟨stored, by rw [hId]; exact hStored, hFields.1, hFields.2.1, hFields.2.2, rfl⟩
  identity := h.identity.kept (lookup_mem hStored) hId hIdentity
  adoption := h.adoption.kept (lookup_mem hStored) hId hAdoption

end QuantApp.Services
