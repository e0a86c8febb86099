import QuantApp.Services.AdoptionStatements

/-!
# The commits of adoptions, discoveries and submissions

A commit of external orders puts rows over rows that its transaction has locked, so it leaves
every other transaction what it has read, but for the new unowned rows: those are what the
condition is about.  An order row is added under its unique keys.
-/

namespace QuantApp.Services

open Core Verified

variable {record : ExecutionOrderRecord} {written externals : List DiscoveredExternalOrder}
  {orders : List ExecutionOrderRecord} {external : DiscoveredExternalOrder}
  {externalOrderId : String} {scope : SymbolScope}

section Commits

variable {Tx : Type} {tx : Tx} {world after : AdoptionWorld Tx}

/-- `after` takes the place of the stored row `before`. -/
structure Replaces (before after : DiscoveredExternalOrder) : Prop where
  externalOrderId : after.externalOrderId = before.externalOrderId
  scope : externalScope after = externalScope before
  version : after.version = before.version + 1
  unowned : after.disposition = .discoveredUnowned → before.disposition = .discoveredUnowned
  adopted : before.disposition = .userAdopted → after.disposition = .userAdopted

theorem NextObserved.replaces {before after : DiscoveredExternalOrder}
    (h : NextObserved before after) : Replaces before after where
  externalOrderId := h.externalOrderId
  scope := h.scope
  version := h.version
  unowned := by
    intro hUnowned
    rcases h.disposition with hSame | ⟨hBefore, _⟩
    · exact hSame ▸ hUnowned
    · exact hBefore
  adopted := by
    intro hAdopted
    rcases h.disposition with hSame | ⟨hBefore, _⟩
    · exact hSame.trans hAdopted
    · rw [hBefore] at hAdopted
      cases hAdopted

/-- The rows a transaction commits. -/
structure RowCommit (world : AdoptionWorld Tx) (tx : Tx) (written : List DiscoveredExternalOrder) :
    Prop where
  keyed : Keyed DiscoveredExternalOrder.externalOrderId written
  held : ∀ row ∈ written, world.holder (.external row.externalOrderId) = some tx
  readable : ∀ row ∈ written, DiscoveredExternalOrder.Readable row
  origin : ∀ row ∈ written, FreshRow world.externals row ∨
    ∃ before ∈ world.externals, Replaces before row

namespace RowCommit

variable {written : List DiscoveredExternalOrder} {other : Tx}
  {external row : DiscoveredExternalOrder}

variable (h : RowCommit world tx written)
include h

theorem not_mem_of_held (hOther : other ≠ tx)
    (hHeld : world.holder (.external externalOrderId) = some other) :
    externalOrderId ∉ written.map DiscoveredExternalOrder.externalOrderId := by
  intro hMem
  obtain ⟨row, hRow, rfl⟩ := List.mem_map.mp hMem
  rw [h.held row hRow] at hHeld
  exact hOther (Option.some.inj hHeld).symm

/-- Every stored row is still there, or replaced. -/
theorem later (hKeyed : Keyed DiscoveredExternalOrder.externalOrderId world.externals)
    (hMem : external ∈ world.externals) :
    ∃ row ∈ putAll DiscoveredExternalOrder.externalOrderId written world.externals,
      row = external ∨ Replaces external row := by
  by_cases hOwn : external.externalOrderId ∈ written.map DiscoveredExternalOrder.externalOrderId
  · obtain ⟨row, hRow, hId⟩ := List.mem_map.mp hOwn
    refine ⟨row, mem_putAll_of_added h.keyed hRow, Or.inr ?_⟩
    rcases h.origin row hRow with hFresh | ⟨before, hBefore, hReplaces⟩
    · exact absurd (List.mem_map.mpr ⟨external, hMem, hId.symm⟩) hFresh.absent
    · have hSame : before = external := hKeyed.eq_of_mem hBefore hMem
        (hReplaces.externalOrderId.symm.trans hId)
      exact hSame ▸ hReplaces
  · exact ⟨external, hKeyed.mem_putAll hMem hOwn, Or.inl rfl⟩

/-- A submission that another transaction prepares has no new unowned row in its symbol,
provided that none of the written rows is an active unowned one of it. -/
theorem unowned (hOther : other ≠ tx)
    (hFenced : ∀ scope, (world.stage other).preparesIn scope = true → FencedOff world other scope)
    (hUnraced : ∀ row ∈ written, row.disposition = .discoveredUnowned →
      isBrokerTerminal row.brokerStatus = false →
      (world.stage other).preparesIn (externalScope row) = false)
    (hMem : row ∈ putAll DiscoveredExternalOrder.externalOrderId written world.externals)
    (hUnowned : row.disposition = .discoveredUnowned) :
    row ∈ world.externals ∨ (world.stage other).preparesIn (externalScope row) = false := by
  rcases mem_putAll hMem with hRow | hOld
  · refine Or.inr ?_
    rcases h.origin row hRow with hFresh | ⟨before, hBefore, hReplaces⟩
    · exact hUnraced row hRow hUnowned (hFresh.active hUnowned)
    · by_contra hIn
      rw [Bool.not_eq_false] at hIn
      have hInScope : isUnownedInScope (externalScope row) before = true := by
        simp [isUnownedInScope, hReplaces.scope, hReplaces.unowned hUnowned]
      have hHeld := (hFenced _ hIn before hBefore hInScope).1
      rw [← hReplaces.externalOrderId, h.held row hRow] at hHeld
      exact hOther (Option.some.inj hHeld).symm
  · exact Or.inl hOld

theorem absent (hOther : other ≠ tx) (hHeld : world.holder (.external externalOrderId) = some other)
    (hAbsent : externalOrderId ∉ world.externals.map DiscoveredExternalOrder.externalOrderId) :
    externalOrderId ∉ (putAll DiscoveredExternalOrder.externalOrderId written
      world.externals).map DiscoveredExternalOrder.externalOrderId := by
  intro hMem
  obtain ⟨row, hRow, rfl⟩ := List.mem_map.mp hMem
  rcases mem_putAll hRow with hOwn | hOld
  · exact h.not_mem_of_held hOther hHeld (List.mem_map.mpr ⟨row, hOwn, rfl⟩)
  · exact hAbsent (List.mem_map.mpr ⟨row, hOld, rfl⟩)

end RowCommit

theorem fencedOff_of_preparesIn {other : Tx} (h : StageKept world other (world.stage other))
    (hIn : (world.stage other).preparesIn scope = true) : FencedOff world other scope := by
  cases hStage : world.stage other with
  | externalsFenced record =>
    rw [hStage] at h hIn
    have hScope : recordScope record = scope := by simpa [StoreStage.preparesIn] using hIn
    exact hScope ▸ h.1
  | ordersFenced record =>
    rw [hStage] at h hIn
    have hScope : recordScope record = scope := by simpa [StoreStage.preparesIn] using hIn
    exact hScope ▸ h.1
  | submissionInserted record =>
    rw [hStage] at h hIn
    have hScope : recordScope record = scope := by simpa [StoreStage.preparesIn] using hIn
    exact hScope ▸ h.1
  | _ =>
    rw [hStage] at hIn
    cases hIn

theorem AdoptionWorld.Kept.rowCommit (h : world.Kept)
    (hStage : world.stage tx = .reconciling [] written) : RowCommit world tx written := by
  obtain ⟨hKeyed, hRows, _⟩ : Keyed DiscoveredExternalOrder.externalOrderId written ∧
      (∀ row ∈ written, WriteKept world.externals row) ∧
        ∀ element ∈ ([] : List ExternalWrite), element.Kept world.externals :=
    h.stageAt hStage
  refine ⟨hKeyed, ?_, fun row hRow => (hRows row hRow).readable, ?_⟩
  · intro row hRow
    refine h.held tx _ ?_
    rw [hStage]
    exact List.mem_map.mpr ⟨row, hRow, rfl⟩
  · intro row hRow
    rcases (hRows row hRow).origin with hFresh | ⟨before, hBefore, hObserved⟩
    · exact Or.inl hFresh
    · exact Or.inr ⟨before, hBefore, hObserved.replaces⟩

theorem StoredSoundly.reconciled (h : StoredSoundly world.externals orders)
    (hCommit : RowCommit world tx written)
    (hUnadopted : ∀ row ∈ written, row.disposition = .userAdopted →
      ∃ before ∈ world.externals, before.externalOrderId = row.externalOrderId ∧
        before.disposition = .userAdopted) :
    StoredSoundly (putAll DiscoveredExternalOrder.externalOrderId written world.externals)
      orders where
  externalsKeyed := h.externalsKeyed.putAll
  ordersKeyed := h.ordersKeyed
  readable := by
    intro external hMem
    rcases mem_putAll hMem with hRow | hOld
    · exact hCommit.readable external hRow
    · exact h.readable external hOld
  linked := by
    intro external hMem hAdopted
    rcases mem_putAll hMem with hRow | hOld
    · obtain ⟨before, hBefore, hId, hWasAdopted⟩ := hUnadopted external hRow hAdopted
      exact hId ▸ h.linked before hBefore hWasAdopted
    · exact h.linked external hOld hAdopted
  sources := by
    intro order hOrder hNamed
    obtain ⟨hOrigin, external, hMem, hId, hAdopted⟩ := h.sources order hOrder hNamed
    obtain ⟨row, hRow, hLater⟩ := hCommit.later h.externalsKeyed hMem
    refine ⟨hOrigin, row, hRow, ?_⟩
    rcases hLater with rfl | hReplaces
    · exact ⟨hId, hAdopted⟩
    · exact ⟨hReplaces.externalOrderId.trans hId, hReplaces.adopted hAdopted⟩
  named := h.named
  once := h.once
  exclusive := h.exclusive

variable [DecidableEq Tx]

theorem holder_left {other : Tx} (hOther : other ≠ tx) {key : StoreKey}
    (h : world.holder key = some other) : (world.leave tx).holder key = some other :=
  (moves_leave world tx).holder other hOther key h

theorem stage_left {other : Tx} (hOther : other ≠ tx) :
    (world.leave tx).stage other = world.stage other :=
  (moves_leave world tx).stage other hOther

theorem AdoptionWorld.Kept.held_left (h : world.Kept)
    (hHolder : after.holder = (world.leave tx).holder)
    (hStage : after.stage = (world.leave tx).stage) (other : Tx) :
    ∀ key ∈ (after.stage other).keys, after.holder key = some other := by
  intro key hKey
  rw [hStage] at hKey
  rw [hHolder]
  exact (h.left tx).held other key hKey

/-- The same for what every transaction relies on. -/
theorem AdoptionWorld.Kept.stages_left (h : world.Kept)
    (hStage : after.stage = (world.leave tx).stage)
    (hLeaves : ∀ other, other ≠ tx → Leaves other world after) (other : Tx) :
    StageKept after other (after.stage other) := by
  by_cases hSelf : other = tx
  · subst hSelf
    rw [hStage, leave_stage]
    trivial
  · exact (h.stages other).left (h.held other) (hLeaves other hSelf)

/-! ## A reconciliation -/

theorem AdoptionWorld.Kept.commitReconciliation (h : world.Kept)
    (hStage : world.stage tx = .reconciling [] written)
    (hUnraced : ∀ row ∈ written, row.disposition = .discoveredUnowned →
      isBrokerTerminal row.brokerStatus = false → ∀ other, other ≠ tx →
        (world.stage other).preparesIn (externalScope row) = false)
    (hNext : world.commit tx = some after) : after.Kept := by
  have hCommit := h.rowCommit hStage
  have hRows : ∀ row ∈ written, WriteKept world.externals row := (h.stageAt hStage).2.1
  unfold AdoptionWorld.commit at hNext
  rw [hStage] at hNext
  cases hNext
  have hLater : ∀ external ∈ world.externals, ∃ row ∈
      putAll DiscoveredExternalOrder.externalOrderId written world.externals,
        row = external ∨ Replaces external row :=
    fun external hMem => hCommit.later h.tables.externalsKeyed hMem
  refine
    { h with
      tables := h.tables.reconciled hCommit ?_
      held := h.held_left rfl rfl
      stages := h.stages_left rfl ?_
      adopted := ?_ }
  · intro row hRow hAdopted
    rcases (hRows row hRow).origin with hFresh | ⟨before, hBefore, hObserved⟩
    · exact absurd hAdopted hFresh.unadopted
    · rcases hObserved.disposition with hSame | ⟨_, hDismissed⟩
      · exact ⟨before, hBefore, hObserved.externalOrderId.symm, hSame ▸ hAdopted⟩
      · rw [hDismissed] at hAdopted
        cases hAdopted
  · intro other hOther
    exact
      { stage := stage_left hOther
        holder := fun key hKey => holder_left hOther hKey
        locked := fun external hMem hHeld =>
          h.tables.externalsKeyed.mem_putAll hMem (hCommit.not_mem_of_held hOther hHeld)
        unowned := fun external hMem hUnowned => hCommit.unowned hOther
          (fun scope hIn => fencedOff_of_preparesIn (h.stages other) hIn)
          (fun row hRow hRowUnowned hActive => hUnraced row hRow hRowUnowned hActive other hOther)
          hMem hUnowned
        versions := by
          intro external hMem
          obtain ⟨row, hRow, hCases⟩ := hLater external hMem
          rcases hCases with rfl | hReplaces
          · exact ⟨row, hRow, rfl, Or.inl rfl⟩
          · exact ⟨row, hRow, hReplaces.externalOrderId, Or.inr hReplaces.version⟩
        absent := fun externalOrderId hHeld hAbsent => hCommit.absent hOther hHeld hAbsent
        adopted := fun scope hNone => Or.inl hNone
        unused := fun clientOrderId _ hAbsent => hAbsent }
  · intro externalOrderId hMem
    obtain ⟨external, hExternal, hId, hAdopted⟩ := h.adopted externalOrderId hMem
    obtain ⟨row, hRow, hCases⟩ := hLater external hExternal
    rcases hCases with rfl | hReplaces
    · exact ⟨row, hRow, hId, hAdopted⟩
    · exact ⟨row, hRow, hReplaces.externalOrderId.trans hId, hReplaces.adopted hAdopted⟩

/-! ## An adoption -/

/-- What an adoption writes. -/
structure Adopts (external written : DiscoveredExternalOrder) (record : ExecutionOrderRecord) :
    Prop where
  unowned : external.disposition = .discoveredUnowned
  replaces : Replaces external written
  adopted : written.disposition = .userAdopted
  status : written.brokerStatus = external.brokerStatus
  origin : record.origin = .userAdopted
  scope : recordScope record = externalScope external
  source : record.adoptedFromExternalOrderId = external.externalOrderId
  recordStatus : record.status = external.brokerStatus
  built : ∃ adoption, record = adoptedRecord external adoption

theorem adopts_of_ok {adoption : Adoption} {adopted : DiscoveredExternalOrder}
    (h : adoptExternalOrder external adoption = .ok (record, adopted)) :
    Adopts external { adopted with version := external.version + 1 } record := by
  obtain ⟨hUnowned, rfl, rfl⟩ := adoptExternalOrder_ok h
  exact
    { unowned := hUnowned
      replaces := ⟨rfl, rfl, rfl, (fun hNever => nomatch hNever), fun _ => rfl⟩
      adopted := rfl
      status := rfl
      origin := rfl
      scope := rfl
      source := rfl
      recordStatus := rfl
      built := ⟨adoption, rfl⟩ }

/-- The rows of a table after an adoption. -/
theorem StoredSoundly.adopt {written : DiscoveredExternalOrder} (h : StoredSoundly externals orders)
    (hMem : external ∈ externals) (hAdopts : Adopts external written record)
    (hAlone : external.brokerStatus.isTerminal = false →
      NoActiveAdopted orders (externalScope external))
    (hUnused : record.clientOrderId ∉ orders.map ExecutionOrderRecord.clientOrderId) :
    StoredSoundly (store DiscoveredExternalOrder.externalOrderId written externals)
      (orders ++ [record]) where
  externalsKeyed := h.externalsKeyed.store
  ordersKeyed := h.ordersKeyed.append_fresh hUnused
  readable := by
    have hReadable := h.readable external hMem
    refine forall_mem_store h.readable ⟨?_, ?_⟩
    · rw [hAdopts.replaces.externalOrderId]
      exact hReadable.named
    · rw [hAdopts.status]
      exact hReadable.observable
  linked := by
    intro row hRow hAdopted
    rcases mem_store hRow with rfl | hOld
    · refine ⟨record, List.mem_append_right _ List.mem_cons_self, hAdopts.origin, ?_⟩
      rw [hAdopts.source, hAdopts.replaces.externalOrderId]
    · obtain ⟨order, hOrder, hLink⟩ := h.linked row hOld hAdopted
      exact ⟨order, List.mem_append_left _ hOrder, hLink⟩
  sources := by
    refine forall_mem_concat (fun order hOld hNamed => ?_) fun _ => ?_
    · obtain ⟨hOrigin, row, hRow, hId, hAdopted⟩ := h.sources order hOld hNamed
      refine ⟨hOrigin, row, mem_store_of_ne hRow ?_, hId, hAdopted⟩
      rw [hAdopts.replaces.externalOrderId]
      intro hSame
      rw [h.externalsKeyed.eq_of_mem hRow hMem hSame, hAdopts.unowned] at hAdopted
      cases hAdopted
    · refine ⟨hAdopts.origin, written, mem_store_self hMem ?_, ?_, hAdopts.adopted⟩
      · exact hAdopts.replaces.externalOrderId.symm
      · rw [hAdopts.source, hAdopts.replaces.externalOrderId]
  named := by
    refine forall_mem_concat h.named fun _ => ?_
    rw [hAdopts.source]
    exact (h.readable external hMem).named
  once := by
    obtain ⟨adoption, rfl⟩ := hAdopts.built
    exact h.once.insert (h.unclaimed hMem hAdopts.unowned)
  exclusive := by
    have hRival : ∀ scope, ActiveAdopted scope record → NoActiveAdopted orders scope := by
      intro scope hActive
      have hScope : externalScope external = scope := hAdopts.scope.symm.trans hActive.scope
      exact hScope ▸ hAlone (hAdopts.recordStatus ▸ hActive.active)
    apply forall_mem_concat
    · intro first hFirst
      exact forall_mem_concat (h.exclusive first hFirst) fun scope hActive hOther =>
        absurd hActive (hRival scope hOther first hFirst)
    · exact forall_mem_concat (fun second hSecond scope hActive hOther =>
        absurd hOther (hRival scope hActive second hSecond)) fun _ _ _ => rfl

theorem AdoptionWorld.Kept.commitAdoption (h : world.Kept) {written : DiscoveredExternalOrder}
    (hStage : world.stage tx = .adoptionUpdated external written record)
    (hUnraced : external.brokerStatus.isTerminal = false → ∀ other, other ≠ tx →
      (world.stage other).adoptsActive (externalScope external) = false)
    (hNext : world.commit tx = some after) : after.Kept := by
  obtain ⟨hKept, ⟨adoption, adopted, hAdopt, rfl⟩, hUnused⟩ : AdoptionKept world external ∧
      (∃ adoption adopted, adoptExternalOrder external adoption = .ok (record, adopted) ∧
        written = { adopted with version := external.version + 1 }) ∧ Unused world record :=
    h.stageAt hStage
  have hAdopts := adopts_of_ok hAdopt
  have hHeld : ∀ key ∈ StoreKey.external external.externalOrderId :: orderKeys record,
      world.holder key = some tx := by
    intro key hKey
    refine h.held tx key ?_
    rw [hStage]
    exact hKey
  have hOther : ∀ {other : Tx} {key : StoreKey}, other ≠ tx → world.holder key = some other →
      key ∉ StoreKey.external external.externalOrderId :: orderKeys record := by
    intro other key hNe hKey hMem
    rw [hHeld key hMem] at hKey
    exact hNe (Option.some.inj hKey).symm
  have hNew : external.externalOrderId ∉ world.adoptions := by
    intro hMem
    obtain ⟨row, hRow, hId, hAdopted⟩ := h.adopted _ hMem
    rw [h.tables.externalsKeyed.eq_of_mem hRow hKept.locked hId, hAdopts.unowned] at hAdopted
    cases hAdopted
  unfold AdoptionWorld.commit at hNext
  rw [hStage] at hNext
  cases hNext
  refine
    { tables := h.tables.adopt hKept.locked hAdopts hKept.alone hUnused
      held := h.held_left rfl rfl
      stages := h.stages_left rfl ?_
      nodup := List.nodup_append'.mpr ⟨h.nodup, List.nodup_singleton _,
        List.disjoint_singleton.mpr hNew⟩
      adopted := ?_
      clear := h.clear
      refusals := h.refusals }
  · intro other hNe
    exact
      { stage := stage_left hNe
        holder := fun key hKey => holder_left hNe hKey
        locked := by
          intro row hRow hRowHeld
          refine mem_store_of_ne hRow ?_
          rw [hAdopts.replaces.externalOrderId]
          intro hSame
          exact hOther hNe hRowHeld (hSame ▸ List.mem_cons_self)
        unowned := by
          refine forall_mem_store (fun _ hOld _ => Or.inl hOld) fun hUnowned => ?_
          rw [hAdopts.adopted] at hUnowned
          cases hUnowned
        versions := by
          intro row hRow
          by_cases hSame : row.externalOrderId = external.externalOrderId
          · rw [h.tables.externalsKeyed.eq_of_mem hRow hKept.locked hSame]
            exact ⟨_, mem_store_self hKept.locked hAdopts.replaces.externalOrderId.symm,
              hAdopts.replaces.externalOrderId, Or.inr hAdopts.replaces.version⟩
          · refine ⟨row, mem_store_of_ne hRow ?_, rfl, Or.inl rfl⟩
            rw [hAdopts.replaces.externalOrderId]
            exact hSame
        absent := by
          intro externalOrderId _ hAbsent
          rwa [map_key_store]
        adopted := by
          intro scope hNone
          by_cases hActive : ActiveAdopted scope record
          · have hScope : externalScope external = scope := hAdopts.scope.symm.trans hActive.scope
            refine Or.inr ⟨?_, ?_⟩
            · rw [← hScope]
              exact hUnraced (hAdopts.recordStatus ▸ hActive.active) other hNe
            · by_contra hIn
              rw [Bool.not_eq_false] at hIn
              have hFenced := fencedOff_of_preparesIn (h.stages other) hIn
              have hRow := hFenced external hKept.locked
                (by simp [isUnownedInScope, hScope, hAdopts.unowned])
              exact hOther hNe hRow.1 List.mem_cons_self
          · exact Or.inl (forall_mem_concat hNone hActive)
        unused := by
          intro clientOrderId hKey hAbsent hMem
          rw [List.map_append, List.map_singleton, List.mem_append, List.mem_singleton] at hMem
          rcases hMem with hOld | rfl
          · exact hAbsent hOld
          · exact hOther hNe hKey (by simp [orderKeys]) }
  · refine forall_mem_concat (fun externalOrderId hOld => ?_) ?_
    · obtain ⟨row, hRow, hId, hAdopted⟩ := h.adopted externalOrderId hOld
      refine ⟨row, mem_store_of_ne hRow ?_, hId, hAdopted⟩
      rw [hAdopts.replaces.externalOrderId]
      intro hSame
      rw [h.tables.externalsKeyed.eq_of_mem hRow hKept.locked hSame, hAdopts.unowned] at hAdopted
      cases hAdopted
    · exact ⟨_, mem_store_self hKept.locked hAdopts.replaces.externalOrderId.symm,
        hAdopts.replaces.externalOrderId, hAdopts.adopted⟩

/-! ## A submission -/

theorem not_activeAdopted_of_submitted (h : Submitted record) : ¬ ActiveAdopted scope record := by
  intro hActive
  have hOrigin := hActive.origin
  rw [h.origin] at hOrigin
  cases hOrigin

theorem StoredSoundly.submit (h : StoredSoundly externals orders) (hSubmitted : Submitted record)
    (hUnused : record.clientOrderId ∉ orders.map ExecutionOrderRecord.clientOrderId) :
    StoredSoundly externals (orders ++ [record]) where
  externalsKeyed := h.externalsKeyed
  ordersKeyed := h.ordersKeyed.append_fresh hUnused
  readable := h.readable
  linked := by
    intro external hMem hAdopted
    obtain ⟨order, hOrder, hLink⟩ := h.linked external hMem hAdopted
    exact ⟨order, List.mem_append_left _ hOrder, hLink⟩
  sources := by
    exact forall_mem_concat h.sources fun hNamed => absurd hSubmitted.source hNamed
  named := by
    refine forall_mem_concat h.named fun hOrigin => ?_
    rw [hSubmitted.origin] at hOrigin
    cases hOrigin
  once := h.once.insert (unclaimed_of_none (by simp [adoptionSourceOrNone, hSubmitted.source]))
  exclusive := by
    apply forall_mem_concat
    · intro first hFirst
      exact forall_mem_concat (h.exclusive first hFirst) fun _ _ hOther =>
        absurd hOther (not_activeAdopted_of_submitted hSubmitted)
    · intro _ _ _ hActive
      exact absurd hActive (not_activeAdopted_of_submitted hSubmitted)

theorem AdoptionWorld.Kept.commitSubmission (h : world.Kept)
    (hStage : world.stage tx = .submissionInserted record) (hNext : world.commit tx = some after) :
    after.Kept := by
  obtain ⟨hFenced, hNone, hSubmitted, hUnused⟩ : FencedOff world tx (recordScope record) ∧
      NoActiveAdopted world.orders (recordScope record) ∧ Submitted record ∧ Unused world record :=
    h.stageAt hStage
  have hHeld : world.holder (.order record.clientOrderId) = some tx := by
    refine h.held tx _ ?_
    rw [hStage]
    exact List.mem_cons_self
  unfold AdoptionWorld.commit at hNext
  rw [hStage] at hNext
  cases hNext
  refine
    { h with
      tables := h.tables.submit hSubmitted hUnused
      held := h.held_left rfl rfl
      stages := h.stages_left rfl ?_
      clear := ?_ }
  · intro other hNe
    exact
      { stage := stage_left hNe
        holder := fun key hKey => holder_left hNe hKey
        locked := fun external hMem _ => hMem
        unowned := fun external hMem _ => Or.inl hMem
        versions := fun external hMem => ⟨external, hMem, rfl, Or.inl rfl⟩
        absent := fun externalOrderId _ hAbsent => hAbsent
        adopted := by
          exact fun scope hScope => Or.inl (forall_mem_concat hScope
            (not_activeAdopted_of_submitted hSubmitted))
        unused := by
          intro clientOrderId hKey hAbsent hMem
          rw [List.map_append, List.map_singleton, List.mem_append, List.mem_singleton] at hMem
          rcases hMem with hOld | rfl
          · exact hAbsent hOld
          · rw [hHeld] at hKey
            exact hNe (Option.some.inj hKey).symm }
  · refine forall_mem_concat h.clear ?_
    intro hRejects
    rcases fenceRejects_iff.mp hRejects with ⟨external, hExternal, hActive⟩ |
      ⟨order, hOrder, hActive⟩
    · obtain ⟨hUnowned, hOpen⟩ := (isActiveUnowned_iff_unowned (recordScope record)).mp hActive
      rw [(hFenced external hExternal hUnowned).2] at hOpen
      cases hOpen
    · obtain ⟨hOrigin, hScope, hOpen⟩ := (isActiveAdopted_iff (recordScope record)).mp hActive
      exact hNone order hOrder ⟨hOrigin, hScope, hOpen⟩

end Commits

end QuantApp.Services
