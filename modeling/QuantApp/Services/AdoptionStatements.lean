import QuantApp.Services.AdoptionSteps

/-!
# The statements of adoptions, discoveries and submissions

One lemma for the next statement of every kind of transaction.  Under the condition on it, the
insert of an attributed adoption of an unowned order does not raise, and its update never does:
the row is the transaction's own.
-/

namespace QuantApp.Services

open Core Verified

variable {record : ExecutionOrderRecord} {external : DiscoveredExternalOrder} {adoption : Adoption}
  {written : List DiscoveredExternalOrder} {rest : List ExternalWrite}

section Condition

variable {Tx : Type}

/-- An insert of the adoption's record is refused by no check. -/
structure AdoptionInsertable (orders : List ExecutionOrderRecord)
    (external : DiscoveredExternalOrder) (adoption : Adoption) : Prop where
  adoptable : external.Adoptable
  unused : getExecutionOrder orders adoption.clientOrderId = none
  identity : Unclaimed identityKeyOrNone orders (adoptedRecord external adoption)

/-- The condition on a step: an adoption of an unowned order can be inserted; no two adoptions
of active orders of a symbol are under way between the scope check of the one and the commit
of the other; and no active unowned order is committed between the fence and the commit of a
submission for its symbol. -/
def Unraced (world : AdoptionWorld Tx) : AdoptionStep Tx → Prop
  | .statement tx =>
    match world.stage tx with
    | .adoptionChecked adoption external =>
      strip adoption.adoptedBy ≠ "" → external.disposition = .discoveredUnowned →
        AdoptionInsertable world.orders external adoption
    | _ => True
  | .commit tx =>
    match world.stage tx with
    | .adoptionUpdated external _ _ =>
      external.brokerStatus.isTerminal = false → ∀ other, other ≠ tx →
        (world.stage other).adoptsActive (externalScope external) = false
    | .reconciling _ written =>
      ∀ row ∈ written, row.disposition = .discoveredUnowned →
        isBrokerTerminal row.brokerStatus = false → ∀ other, other ≠ tx →
          (world.stage other).preparesIn (externalScope row) = false
    | _ => True
  | _ => True

end Condition

section Tables

variable {externals : List DiscoveredExternalOrder} {orders : List ExecutionOrderRecord}
  {external : DiscoveredExternalOrder} {adoption : Adoption}

variable (h : StoredSoundly externals orders) (hMem : external ∈ externals)
include h hMem

/-- No order was adopted from an order that is still unowned. -/
theorem StoredSoundly.unclaimed (hUnowned : external.disposition = .discoveredUnowned) :
    Unclaimed adoptionSourceOrNone orders (adoptedRecord external adoption) := by
  have hNamed : external.externalOrderId ≠ "" := (h.readable external hMem).named
  intro row hRow source hSource hOther
  have hRowNamed : row.adoptedFromExternalOrderId ≠ "" := by
    intro hBlank
    simp [adoptionSourceOrNone, hBlank] at hOther
  have hRowSource : row.adoptedFromExternalOrderId = source := by
    simpa [adoptionSourceOrNone, hRowNamed] using hOther
  have hRecordSource : external.externalOrderId = source := by
    simpa [adoptionSourceOrNone, adoptedRecord, hNamed] using hSource
  obtain ⟨_, found, hFound, hId, hAdopted⟩ := h.sources row hRow hRowNamed
  have hSame : found = external :=
    h.externalsKeyed.eq_of_mem hFound hMem (hId.trans (hRowSource.trans hRecordSource.symm))
  rw [hSame, hUnowned] at hAdopted
  cases hAdopted

theorem StoredSoundly.consistent (hAdoptable : external.Adoptable) :
    (adoptedRecord external adoption).Consistent :=
  (adoptedRecord_consistent_iff (h.readable external hMem).observable
    (h.readable external hMem).named).mpr hAdoptable

theorem StoredSoundly.canInsert (hUnowned : external.disposition = .discoveredUnowned)
    (hInsertable : AdoptionInsertable orders external adoption) :
    CanInsert orders (adoptedRecord external adoption) where
  consistent := h.consistent hMem hInsertable.adoptable
  absent := hInsertable.unused
  identity := hInsertable.identity
  adoption := h.unclaimed hMem hUnowned

end Tables

section Statements

variable {Tx : Type} [DecidableEq Tx] {tx : Tx} {world after : AdoptionWorld Tx}

theorem unused_of_inserted {orders written : List ExecutionOrderRecord}
    (h : insertExecutionOrder orders record = .ok written) :
    record.clientOrderId ∉ orders.map ExecutionOrderRecord.clientOrderId :=
  lookup_eq_none_iff.mp (insertExecutionOrder_ok h).2.1

theorem AdoptionKept.moveTo {stage : StoreStage} (h : AdoptionKept world external) :
    AdoptionKept (world.moveTo tx stage) external :=
  ⟨h.locked, h.alone⟩

section

variable (h : world.Kept)
include h

/-- The insert of an adoption. -/
theorem AdoptionWorld.Kept.insertAdopted
    (hStage : world.stage tx = .adoptionChecked adoption external)
    (hInsertable : strip adoption.adoptedBy ≠ "" → external.disposition = .discoveredUnowned →
      AdoptionInsertable world.orders external adoption)
    (hNext : world.statement tx = some after) :
    after.Kept := by
  have hKept : AdoptionKept world external := h.stageAt hStage
  unfold AdoptionWorld.statement at hNext
  rw [hStage] at hNext
  dsimp only at hNext
  cases hAdopt : adoptExternalOrder external adoption with
  | error =>
    rw [hAdopt] at hNext
    cases hNext
    refine h.refused (fun hBy hUnowned => ?_)
    obtain ⟨adopted, hReturns⟩ := adoptExternalOrder_returns hBy hUnowned
      (h.tables.consistent hKept.locked (hInsertable hBy hUnowned).adoptable)
    rw [hReturns] at hAdopt
    cases hAdopt
  | ok built =>
    obtain ⟨record, adopted⟩ := built
    rw [hAdopt] at hNext
    obtain ⟨locked, hTake, rfl⟩ := Option.map_eq_some_iff.mp hNext
    have hTaken := taken_of_take hTake
    obtain ⟨hUnowned, rfl, _⟩ := adoptExternalOrder_ok hAdopt
    have hLocked : locked.Kept := h.taken hTaken
    cases hInsert : insertExecutionOrder locked.orders (adoptedRecord external adoption) with
    | error =>
      refine hLocked.refused (fun hBy _ => ?_)
      have hCan := h.tables.canInsert hKept.locked hUnowned (hInsertable hBy hUnowned)
      rw [hTaken.moves.orders, insertExecutionOrder_eq_ok_iff.mpr ⟨hCan, rfl⟩] at hInsert
      cases hInsert
    | ok =>
      refine hLocked.movedTo ?_ ⟨?_, hAdopt, unused_of_inserted hInsert⟩
      · intro key hKey
        rcases List.mem_cons.mp hKey with rfl | hOrder
        · refine hTaken.own _ (h.held tx _ ?_)
          rw [hStage]
          exact List.mem_cons_self
        · exact hTaken.taken key hOrder
      · have hTx : StageKept locked tx (locked.stage tx) := hLocked.stages tx
        rw [hTaken.stage, hStage] at hTx
        exact AdoptionKept.moveTo hTx

/-- The update of the external order. -/
theorem AdoptionWorld.Kept.updateAdopted {adopted : DiscoveredExternalOrder}
    (hStage : world.stage tx = .adoptionInserted adoption external adopted record)
    (hNext : world.statement tx = some after) : after.Kept := by
  obtain ⟨hKept, hAdopt, hUnused⟩ : AdoptionKept world external ∧
      adoptExternalOrder external adoption = .ok (record, adopted) ∧ Unused world record :=
    h.stageAt hStage
  have hFound : getDiscoveredExternalOrder world.externals external.externalOrderId =
      some external := h.tables.externalsKeyed.lookup_of_mem hKept.locked
  have hCurrent : getDiscoveredExternalOrder world.externals adopted.externalOrderId =
      some external ∧ externalScope external = externalScope adopted ∧
        external.brokerOrderId = adopted.brokerOrderId ∧ external.version = external.version := by
    obtain ⟨_, _, hAdopted⟩ := adoptExternalOrder_ok hAdopt
    rw [hAdopted]
    exact ⟨hFound, rfl, rfl, rfl⟩
  unfold AdoptionWorld.statement at hNext
  rw [hStage] at hNext
  dsimp only at hNext
  rw [updateDiscoveredExternalOrder_eq_ok_iff.mpr ⟨⟨external, hCurrent⟩, rfl, rfl⟩] at hNext
  cases hNext
  refine h.movedTo ?_ ⟨hKept.moveTo, ⟨adoption, adopted, hAdopt, rfl⟩, hUnused⟩
  intro key hKey
  refine h.held tx key ?_
  rw [hStage]
  exact hKey

/-- The first query of the fence. -/
theorem AdoptionWorld.Kept.fenceExternals (hStage : world.stage tx = .preparing record)
    (hNext : world.statement tx = some after) :
    after.Kept := by
  have hSubmitted : Submitted record := h.stageAt hStage
  unfold AdoptionWorld.statement at hNext
  rw [hStage] at hNext
  obtain ⟨locked, hTake, rfl⟩ := Option.map_eq_some_iff.mp hNext
  have hTaken := taken_of_take hTake
  have hLocked : locked.Kept := h.taken hTaken
  cases hFind : locked.externals.find?
      (isActiveUnowned record.environment record.accountNo record.symbol) with
  | some active => exact hLocked.left tx
  | none =>
    refine hLocked.movedTo (fun key hKey => absurd hKey List.not_mem_nil) ⟨?_, hSubmitted⟩
    intro external hMem hUnowned
    have hMemBefore : external ∈ world.externals := hTaken.moves.externals ▸ hMem
    refine ⟨hTaken.taken _ (List.mem_map.mpr
      ⟨external, List.mem_filter.mpr ⟨hMemBefore, hUnowned⟩, rfl⟩), ?_⟩
    by_contra hActive
    exact List.find?_eq_none.mp hFind external hMem ((isActiveUnowned_iff_unowned
      (recordScope record)).mpr ⟨hUnowned, Bool.not_eq_true _ ▸ hActive⟩)

/-- The second query of the fence. -/
theorem AdoptionWorld.Kept.fenceOrders (hStage : world.stage tx = .externalsFenced record)
    (hNext : world.statement tx = some after) :
    after.Kept := by
  obtain ⟨hFenced, hSubmitted⟩ : FencedOff world tx (recordScope record) ∧ Submitted record :=
    h.stageAt hStage
  unfold AdoptionWorld.statement at hNext
  rw [hStage] at hNext
  dsimp only at hNext
  cases hFind : world.orders.find?
      (isActiveAdopted record.environment record.accountNo record.symbol "") with
  | some adopted =>
    rw [hFind] at hNext
    cases hNext
    exact h.left tx
  | none =>
    rw [hFind] at hNext
    cases hNext
    refine h.movedTo (fun key hKey => absurd hKey List.not_mem_nil)
      ⟨hFenced, ?_, hSubmitted⟩
    intro order hMem hActive
    exact List.find?_eq_none.mp hFind order hMem ((isActiveAdopted_iff
      (recordScope record)).mpr ⟨hActive.origin, hActive.scope, hActive.active⟩)

/-- The insert of a prepared submission. -/
theorem AdoptionWorld.Kept.insertPrepared (hStage : world.stage tx = .ordersFenced record)
    (hNext : world.statement tx = some after) :
    after.Kept := by
  unfold AdoptionWorld.statement at hNext
  rw [hStage] at hNext
  obtain ⟨locked, hTake, rfl⟩ := Option.map_eq_some_iff.mp hNext
  have hTaken := taken_of_take hTake
  have hLocked : locked.Kept := h.taken hTaken
  obtain ⟨hFenced, hNone, hSubmitted⟩ : FencedOff locked tx (recordScope record) ∧
      NoActiveAdopted locked.orders (recordScope record) ∧ Submitted record := by
    have hTx := hLocked.stages tx
    rw [hTaken.stage, hStage] at hTx
    exact hTx
  cases hInsert : insertExecutionOrder locked.orders record with
  | error => exact hLocked.left tx
  | ok =>
    exact hLocked.movedTo hTaken.taken
      ⟨hFenced, hNone, hSubmitted, unused_of_inserted hInsert⟩

end

/-! ## Reconciliation writes -/

section View

variable {written externals : List DiscoveredExternalOrder} {externalOrderId : String}

variable (hKeyed : Keyed DiscoveredExternalOrder.externalOrderId externals)
  (hWritten : Keyed DiscoveredExternalOrder.externalOrderId written)
include hKeyed hWritten

/-- A row that neither the table nor the transaction has. -/
theorem absent_of_view
    (h : getDiscoveredExternalOrder (putAll DiscoveredExternalOrder.externalOrderId written
      externals) externalOrderId = none) :
    externalOrderId ∉ written.map DiscoveredExternalOrder.externalOrderId ∧
      externalOrderId ∉ externals.map DiscoveredExternalOrder.externalOrderId := by
  have hAbsent := lookup_eq_none_iff.mp h
  have hOwn : externalOrderId ∉ written.map DiscoveredExternalOrder.externalOrderId := by
    intro hMem
    obtain ⟨row, hRow, rfl⟩ := List.mem_map.mp hMem
    exact hAbsent (List.mem_map.mpr ⟨row, mem_putAll_of_added hWritten hRow, rfl⟩)
  refine ⟨hOwn, ?_⟩
  intro hMem
  obtain ⟨row, hRow, rfl⟩ := List.mem_map.mp hMem
  exact hAbsent (List.mem_map.mpr ⟨row, hKeyed.mem_putAll hRow hOwn, rfl⟩)

/-- A row that still has the version that was read is the row that was read. -/
theorem read_of_view {read current : DiscoveredExternalOrder}
    (hKept : ∀ row ∈ written, WriteKept externals row) (hRead : ReadKept externals read)
    (h : getDiscoveredExternalOrder (putAll DiscoveredExternalOrder.externalOrderId written
      externals) read.externalOrderId = some current)
    (hVersion : current.version = read.version) :
    read ∈ externals ∧
      read.externalOrderId ∉ written.map DiscoveredExternalOrder.externalOrderId := by
  obtain ⟨stored, hStored, hId, hGrown, hSame⟩ := hRead.stored
  have hOwn : read.externalOrderId ∉ written.map DiscoveredExternalOrder.externalOrderId := by
    intro hMem
    obtain ⟨row, hRow, hRowId⟩ := List.mem_map.mp hMem
    have hFound : lookup DiscoveredExternalOrder.externalOrderId row.externalOrderId
        (putAll DiscoveredExternalOrder.externalOrderId written externals) = some row :=
      lookup_putAll hWritten hRow
    rw [hRowId] at hFound
    have hCurrent : row = current := Option.some.inj (hFound.symm.trans h)
    subst hCurrent
    rcases (hKept row hRow).origin with hFresh | ⟨before, hBefore, hObserved⟩
    · exact hFresh.absent (List.mem_map.mpr ⟨stored, hStored, hId.trans hRowId.symm⟩)
    · have hBeforeStored : before = stored := hKeyed.eq_of_mem hBefore hStored
        (hObserved.externalOrderId.symm.trans (hRowId.trans hId.symm))
      have hNextVersion := hObserved.version
      rw [hBeforeStored] at hNextVersion
      omega
  have hLookup : lookup DiscoveredExternalOrder.externalOrderId read.externalOrderId externals =
      some current := (lookup_putAll_of_fresh hOwn).symm.trans h
  have hCurrent : current = stored := hKeyed.eq_of_mem (lookup_mem hLookup) hStored
    ((lookup_key hLookup).trans hId.symm)
  have hStoredRead : stored = read := hSame (hCurrent ▸ hVersion)
  exact ⟨hStoredRead ▸ hStored, hOwn⟩

end View

theorem mem_keys_append {key : StoreKey}
    (h : key ∈ (StoreStage.reconciling rest (written ++ [external])).keys) :
    key ∈ written.map (fun row => StoreKey.external row.externalOrderId) ∨
      key = .external external.externalOrderId := by
  simpa [StoreStage.keys] using h

/-- One element of a reconciliation plan. -/
theorem AdoptionWorld.Kept.writeExternal (h : world.Kept) {write : ExternalWrite}
    (hStage : world.stage tx = .reconciling (write :: rest) written)
    (hNext : world.writeExternal tx rest written write = some after) : after.Kept := by
  obtain ⟨hWritten, hRows, hPlan⟩ : Keyed DiscoveredExternalOrder.externalOrderId written ∧
      (∀ row ∈ written, WriteKept world.externals row) ∧
        ∀ element ∈ write :: rest, element.Kept world.externals :=
    h.stageAt hStage
  have hHeld : ∀ key ∈ written.map (fun row => StoreKey.external row.externalOrderId),
      world.holder key = some tx := by
    intro key hKey
    refine h.held tx key ?_
    rw [hStage]
    exact hKey
  have hRest : ∀ element ∈ rest, element.Kept world.externals := fun element hMem =>
    hPlan element (List.mem_cons_of_mem _ hMem)
  -- A new row of the transaction, with the keys it has waited for.
  have hAppend : ∀ {locked : AdoptionWorld Tx} {keys : List StoreKey}
      {external : DiscoveredExternalOrder}, Taken tx keys world locked →
      StoreKey.external external.externalOrderId ∈ keys →
      external.externalOrderId ∉ written.map DiscoveredExternalOrder.externalOrderId →
      WriteKept world.externals external →
      (locked.moveTo tx (.reconciling rest (written ++ [external]))).Kept := by
    intro locked keys external hTaken hKey hOwn hExternal
    refine (h.taken hTaken).movedTo ?_ ⟨hWritten.append_fresh hOwn, ?_, ?_⟩
    · intro key hMem
      rcases mem_keys_append hMem with hOld | rfl
      · exact hTaken.own key (hHeld key hOld)
      · exact hTaken.taken _ hKey
    · show ∀ row ∈ _, WriteKept locked.externals row
      rw [hTaken.moves.externals]
      exact forall_mem_concat hRows hExternal
    · show ∀ element ∈ rest, element.Kept locked.externals
      rw [hTaken.moves.externals]
      exact hRest
  unfold AdoptionWorld.writeExternal at hNext
  cases write with
  | create discovery =>
    dsimp only at hNext
    split at hNext
    next existing hExisting =>
      cases hNext
      exact h.movedTo hHeld ⟨hWritten, hRows, hRest⟩
    next hNone =>
      obtain ⟨locked, hTake, rfl⟩ := Option.map_eq_some_iff.mp hNext
      have hTaken := taken_of_take hTake
      cases hInsert : insertDiscoveredExternalOrder
          (putAll DiscoveredExternalOrder.externalOrderId written world.externals)
          discovery.external with
      | error raised => exact (h.taken hTaken).left tx
      | ok inserted =>
        obtain ⟨hOwn, hAbsent⟩ := absent_of_view h.tables.externalsKeyed hWritten
          (insertDiscoveredExternalOrder_ok hInsert).1
        obtain ⟨hReadable, hFresh⟩ := discovery.external_fresh hAbsent
        exact hAppend hTaken List.mem_cons_self hOwn ⟨hReadable, Or.inl hFresh⟩
  | update read rows =>
    obtain ⟨locked, hTake, rfl⟩ := Option.map_eq_some_iff.mp hNext
    have hTaken := taken_of_take hTake
    have hRead : ReadKept world.externals read := hPlan _ List.mem_cons_self
    have hObserved := observedRows_foldl rows read
    cases hUpdate : updateDiscoveredExternalOrder
        (putAll DiscoveredExternalOrder.externalOrderId written world.externals)
        (rows.foldl observeExternal read) read.version with
    | error raised => exact (h.taken hTaken).left tx
    | ok result =>
      obtain ⟨table, updated⟩ := result
      obtain ⟨⟨current, hCurrent, _, _, hVersion⟩, rfl, _⟩ :=
        updateDiscoveredExternalOrder_eq_ok_iff.mp hUpdate
      rw [hObserved.externalOrderId] at hCurrent
      obtain ⟨hMem, hOwn⟩ := read_of_view h.tables.externalsKeyed hWritten hRows hRead
        hCurrent hVersion
      refine hAppend hTaken ?_ ?_ ?_
      · show StoreKey.external (rows.foldl observeExternal read).externalOrderId ∈ _
        rw [hObserved.externalOrderId]
        exact List.mem_cons_self
      · show (rows.foldl observeExternal read).externalOrderId ∉ _
        rw [hObserved.externalOrderId]
        exact hOwn
      · refine ⟨⟨?_, hObserved.observable hRead.readable.observable⟩, Or.inr ⟨read, hMem, ?_⟩⟩
        · exact fun hBlank => hRead.readable.named
            (hObserved.externalOrderId.symm.trans hBlank)
        · exact ⟨hObserved.externalOrderId, hObserved.scope, hObserved.brokerOrderId, rfl,
            hObserved.disposition⟩

/-! ## Every statement -/

theorem AdoptionWorld.Kept.statement (h : world.Kept) (hUnraced : Unraced world (.statement tx))
    (hNext : world.statement tx = some after) : after.Kept := by
  cases hStage : world.stage tx with
  | adopting externalOrderId =>
    unfold AdoptionWorld.statement at hNext
    rw [hStage] at hNext
    dsimp only at hNext
    cases hFound : getDiscoveredExternalOrder world.externals externalOrderId with
    | none =>
      rw [hFound] at hNext
      cases hNext
      exact h.left tx
    | some external =>
      rw [hFound] at hNext
      obtain ⟨locked, hTake, rfl⟩ := Option.map_eq_some_iff.mp hNext
      have hTaken := taken_of_take hTake
      refine (h.taken hTaken).movedTo ?_ ?_
      · intro key hKey
        rw [List.mem_singleton.mp hKey, show external.externalOrderId = externalOrderId from
          lookup_key hFound]
        exact hTaken.taken _ List.mem_cons_self
      · show external ∈ locked.externals
        rw [hTaken.moves.externals]
        exact lookup_mem hFound
  | adoptionLocked adoption external =>
    unfold AdoptionWorld.statement at hNext
    rw [hStage] at hNext
    dsimp only at hNext
    have hMem : external ∈ world.externals := by
      have hTx := h.stages tx
      rw [hStage] at hTx
      exact hTx
    cases hFind : findActiveExecutionOrderForScope world.orders (externalScope external) with
    | some =>
      rw [hFind] at hNext
      cases hNext
      exact h.left tx
    | none =>
      rw [hFind] at hNext
      cases hNext
      refine h.movedTo ?_ ⟨hMem, fun _ order hOrder hActive => ?_⟩
      · intro key hKey
        refine h.held tx key ?_
        rw [hStage]
        exact hKey
      · refine List.find?_eq_none.mp hFind order hOrder ?_
        simp [isActiveInScope, hActive.scope, hActive.active]
  | adoptionChecked =>
    dsimp only [Unraced] at hUnraced
    rw [hStage] at hUnraced
    exact h.insertAdopted hStage hUnraced hNext
  | adoptionInserted => exact h.updateAdopted hStage hNext
  | preparing => exact h.fenceExternals hStage hNext
  | externalsFenced => exact h.fenceOrders hStage hNext
  | ordersFenced => exact h.insertPrepared hStage hNext
  | reconciling plan =>
    unfold AdoptionWorld.statement at hNext
    rw [hStage] at hNext
    cases plan with
    | nil => cases hNext
    | cons => exact h.writeExternal hStage hNext
  | outside | adoptionUpdated | submissionInserted =>
    unfold AdoptionWorld.statement at hNext
    rw [hStage] at hNext
    cases hNext

end Statements

end QuantApp.Services
