import QuantApp.Services.AdoptionRuns
import QuantApp.Verified.LabelledRuns

/-!
# What adoptions, discoveries and submissions rely on

Each transaction relies on what it has read: an adoption on the row it has locked and on
finding no active order of its symbol, a submission on the unowned rows of its symbol, all of
them locked and ended.  `Leaves` says what the step of another transaction leaves of this.
-/

namespace QuantApp.Services

open Core Verified
open DiscoveredExternalOrder (externalOrderId)

variable {external : DiscoveredExternalOrder} {scope : SymbolScope}

/-! ## Rows -/

/-- What the constructor accepts. -/
structure DiscoveredExternalOrder.Readable (external : DiscoveredExternalOrder) : Prop where
  named : external.externalOrderId ≠ ""
  observable : external.brokerStatus ∈ brokerObservableStatuses

/-- An order created by adoption that is still active. -/
structure ActiveAdopted (scope : SymbolScope) (order : ExecutionOrderRecord) : Prop where
  origin : order.origin = .userAdopted
  scope : recordScope order = scope
  active : order.status.isTerminal = false

def NoActiveAdopted (orders : List ExecutionOrderRecord) (scope : SymbolScope) : Prop :=
  ∀ order ∈ orders, ¬ ActiveAdopted scope order

/-- `after` is `before` as rows of the broker have it, one version later. -/
structure NextObserved (before after : DiscoveredExternalOrder) : Prop where
  externalOrderId : after.externalOrderId = before.externalOrderId
  scope : externalScope after = externalScope before
  brokerOrderId : after.brokerOrderId = before.brokerOrderId
  version : after.version = before.version + 1
  disposition : after.disposition = before.disposition ∨
    (before.disposition = .discoveredUnowned ∧ after.disposition = .dismissedTerminal)

variable (rows : List DiscoveredExternalOrder)

/-- A new row: an unowned one is active. -/
structure FreshRow (external : DiscoveredExternalOrder) : Prop where
  absent : external.externalOrderId ∉ rows.map DiscoveredExternalOrder.externalOrderId
  unadopted : external.disposition ≠ .userAdopted
  active : external.disposition = .discoveredUnowned →
    isBrokerTerminal external.brokerStatus = false

/-- An uncommitted row of a reconciliation over the committed rows. -/
structure WriteKept (external : DiscoveredExternalOrder) : Prop where
  readable : DiscoveredExternalOrder.Readable external
  origin : FreshRow rows external ∨ ∃ current ∈ rows, NextObserved current external

/-- A row that was read before: as long as the version stands, so does the row. -/
structure ReadKept (read : DiscoveredExternalOrder) : Prop where
  readable : DiscoveredExternalOrder.Readable read
  stored : ∃ current ∈ rows, current.externalOrderId = read.externalOrderId ∧
    read.version ≤ current.version ∧ (current.version = read.version → current = read)

def ExternalWrite.Kept : ExternalWrite → Prop
  | .create _ => True
  | .update read _ => ReadKept rows read

theorem externalStatus_observable (row : BrokerOrderStatusSnapshot) :
    externalStatus row ∈ brokerObservableStatuses := by
  unfold externalStatus
  cases row.status <;> decide

/-- Rows of the broker change the status, the fill and, at an end, the disposition. -/
structure ObservedRows (before after : DiscoveredExternalOrder) : Prop where
  externalOrderId : after.externalOrderId = before.externalOrderId
  scope : externalScope after = externalScope before
  brokerOrderId : after.brokerOrderId = before.brokerOrderId
  version : after.version = before.version
  disposition : after.disposition = before.disposition ∨
    (before.disposition = .discoveredUnowned ∧ after.disposition = .dismissedTerminal)
  observable : before.brokerStatus ∈ brokerObservableStatuses →
    after.brokerStatus ∈ brokerObservableStatuses

theorem observedRows_step (external : DiscoveredExternalOrder) (row : BrokerOrderStatusSnapshot) :
    ObservedRows external (observeExternal external row) where
  externalOrderId := rfl
  scope := rfl
  brokerOrderId := rfl
  version := rfl
  disposition := by
    unfold observeExternal
    dsimp only
    split
    next h => exact Or.inr ⟨h.1, rfl⟩
    next => exact Or.inl rfl
  observable := fun _ => externalStatus_observable row

theorem ObservedRows.trans {first second third : DiscoveredExternalOrder}
    (h : ObservedRows first second) (hNext : ObservedRows second third) :
    ObservedRows first third where
  externalOrderId := hNext.externalOrderId.trans h.externalOrderId
  scope := hNext.scope.trans h.scope
  brokerOrderId := hNext.brokerOrderId.trans h.brokerOrderId
  version := hNext.version.trans h.version
  disposition := by
    rcases hNext.disposition with hSame | ⟨hUnowned, hDismissed⟩
    · rw [hSame]
      exact h.disposition
    · rcases h.disposition with hFirst | ⟨_, hEnded⟩
      · exact Or.inr ⟨hFirst ▸ hUnowned, hDismissed⟩
      · rw [hEnded] at hUnowned
        cases hUnowned
  observable := fun hFirst => hNext.observable (h.observable hFirst)

theorem observedRows_foldl (rows : List BrokerOrderStatusSnapshot)
    (external : DiscoveredExternalOrder) :
    ObservedRows external (rows.foldl observeExternal external) := by
  induction rows generalizing external with
  | nil => exact ⟨rfl, rfl, rfl, rfl, Or.inl rfl, fun h => h⟩
  | cons row rows ih => exact (observedRows_step external row).trans (ih _)

/-- An order that a row of the broker has left unowned is active. -/
theorem observedRows_active (rows : List BrokerOrderStatusSnapshot)
    (h : external.disposition = .discoveredUnowned → isBrokerTerminal external.brokerStatus = false)
    (hUnowned : (rows.foldl observeExternal external).disposition = .discoveredUnowned) :
    isBrokerTerminal (rows.foldl observeExternal external).brokerStatus = false := by
  induction rows generalizing external with
  | nil => exact h hUnowned
  | cons row rows ih =>
    refine ih (fun hStep => ?_) hUnowned
    rw [← (observeExternal_disposition.mp hStep).2]
    exact (externalStatus_terminal row).2

theorem discoveredExternal_disposition (runtime : Runtime) (snapshot : AccountBrokerSnapshot)
    (row : BrokerOrderStatusSnapshot) :
    (discoveredExternal runtime snapshot row).disposition =
      if isClosedStatus row.status then .dismissedTerminal else .discoveredUnowned := by
  unfold discoveredExternal
  dsimp only
  rw [(externalStatus_terminal row).1]

/-- A created order is readable, not adopted, and active while it is unowned. -/
theorem Discovery.external_fresh (discovery : Discovery) {rows : List DiscoveredExternalOrder}
    (hAbsent : discovery.external.externalOrderId ∉
      rows.map externalOrderId) :
    DiscoveredExternalOrder.Readable discovery.external ∧ FreshRow rows discovery.external := by
  have hRows := observedRows_foldl discovery.laterRows
    (discoveredExternal discovery.runtime discovery.snapshot discovery.row)
  have hFirst := discoveredExternal_disposition discovery.runtime discovery.snapshot discovery.row
  refine ⟨⟨?_, ?_⟩, hAbsent, ?_, ?_⟩
  · exact fun hBlank => discovery.named (hRows.externalOrderId.symm.trans hBlank)
  · exact hRows.observable (externalStatus_observable discovery.row)
  · intro hAdopted
    rcases hRows.disposition with hSame | ⟨_, hDismissed⟩
    · have hNever := hFirst.symm.trans (hSame.symm.trans hAdopted)
      split at hNever
      all_goals cases hNever
    · rw [show discovery.external.disposition = .dismissedTerminal from hDismissed] at hAdopted
      cases hAdopted
  · refine observedRows_active discovery.laterRows (fun hUnowned => ?_)
    rw [hFirst] at hUnowned
    split at hUnowned
    next => cases hUnowned
    next hOpen =>
      exact (externalStatus_terminal discovery.row).2.trans (Bool.not_eq_true _ ▸ hOpen)

/-! ## What a transaction holds and relies on -/

/-- The keys a transaction holds for its rows; those of the fence are with `FencedOff`. -/
def StoreStage.keys : StoreStage → List StoreKey
  | .adoptionLocked _ external | .adoptionChecked _ external =>
    [.external external.externalOrderId]
  | .adoptionInserted _ external _ record | .adoptionUpdated external _ record =>
    .external external.externalOrderId :: orderKeys record
  | .submissionInserted record => orderKeys record
  | .reconciling _ written => written.map (fun row => .external row.externalOrderId)
  | _ => []

/-- An adoption of an active order past its scope check. -/
def StoreStage.adoptsActive (scope : SymbolScope) : StoreStage → Bool
  | .adoptionChecked _ external | .adoptionInserted _ external _ _
  | .adoptionUpdated external _ _ =>
    externalScope external = scope && !external.brokerStatus.isTerminal
  | _ => false

/-- A submission past the first query of its fence. -/
def StoreStage.preparesIn (scope : SymbolScope) : StoreStage → Bool
  | .externalsFenced record | .ordersFenced record | .submissionInserted record =>
    recordScope record = scope
  | _ => false

section Invariant

variable {Tx : Type}

variable (world : AdoptionWorld Tx)

/-- The unowned rows of the symbol are locked by the transaction and have ended. -/
def FencedOff (tx : Tx) (scope : SymbolScope) : Prop :=
  ∀ external ∈ world.externals, isUnownedInScope scope external = true →
    world.holder (.external external.externalOrderId) = some tx ∧
      isBrokerTerminal external.brokerStatus = true

/-- The locked row stands, and an active one has no rival. -/
structure AdoptionKept (external : DiscoveredExternalOrder) : Prop where
  locked : external ∈ world.externals
  alone : external.brokerStatus.isTerminal = false →
    NoActiveAdopted world.orders (externalScope external)

def Unused (record : ExecutionOrderRecord) : Prop :=
  record.clientOrderId ∉ world.orders.map ExecutionOrderRecord.clientOrderId

/-- The record of a submission is no adopted one. -/
structure Submitted (record : ExecutionOrderRecord) : Prop where
  origin : record.origin = .application
  source : record.adoptedFromExternalOrderId = ""

def StageKept (tx : Tx) : StoreStage → Prop
  | .adoptionLocked _ external => external ∈ world.externals
  | .adoptionChecked _ external => AdoptionKept world external
  | .adoptionInserted adoption external adopted record =>
    AdoptionKept world external ∧
      adoptExternalOrder external adoption = .ok (record, adopted) ∧ Unused world record
  | .adoptionUpdated external written record =>
    AdoptionKept world external ∧
      (∃ adoption adopted, adoptExternalOrder external adoption = .ok (record, adopted) ∧
        written = { adopted with version := external.version + 1 }) ∧ Unused world record
  | .preparing record => Submitted record
  | .externalsFenced record => FencedOff world tx (recordScope record) ∧ Submitted record
  | .ordersFenced record =>
    FencedOff world tx (recordScope record) ∧
      NoActiveAdopted world.orders (recordScope record) ∧ Submitted record
  | .submissionInserted record =>
    FencedOff world tx (recordScope record) ∧
      NoActiveAdopted world.orders (recordScope record) ∧ Submitted record ∧ Unused world record
  | .reconciling plan written =>
    Keyed DiscoveredExternalOrder.externalOrderId written ∧
      (∀ row ∈ written, WriteKept world.externals row) ∧
      ∀ write ∈ plan, write.Kept world.externals
  | _ => True

/-- What a step leaves to a transaction that does not take it. -/
structure Leaves (tx : Tx) (before after : AdoptionWorld Tx) : Prop where
  stage : after.stage tx = before.stage tx
  holder : ∀ key, before.holder key = some tx → after.holder key = some tx
  locked : ∀ external ∈ before.externals,
    before.holder (.external external.externalOrderId) = some tx → external ∈ after.externals
  unowned : ∀ external ∈ after.externals, external.disposition = .discoveredUnowned →
    external ∈ before.externals ∨ (before.stage tx).preparesIn (externalScope external) = false
  versions : ∀ external ∈ before.externals, ∃ later ∈ after.externals,
    later.externalOrderId = external.externalOrderId ∧
      (later = external ∨ later.version = external.version + 1)
  absent : ∀ externalOrderId, before.holder (.external externalOrderId) = some tx →
    externalOrderId ∉ before.externals.map DiscoveredExternalOrder.externalOrderId →
    externalOrderId ∉ after.externals.map DiscoveredExternalOrder.externalOrderId
  adopted : ∀ scope, NoActiveAdopted before.orders scope →
    NoActiveAdopted after.orders scope ∨ ((before.stage tx).adoptsActive scope = false ∧
      (before.stage tx).preparesIn scope = false)
  unused : ∀ clientOrderId, before.holder (.order clientOrderId) = some tx →
    clientOrderId ∉ before.orders.map ExecutionOrderRecord.clientOrderId →
    clientOrderId ∉ after.orders.map ExecutionOrderRecord.clientOrderId

section Leaves

variable {tx : Tx} {before after : AdoptionWorld Tx}

theorem FencedOff.left (h : FencedOff before tx scope) (hLeaves : Leaves tx before after)
    (hStage : (before.stage tx).preparesIn scope = true) : FencedOff after tx scope := by
  intro external hMem hUnowned
  have hParts : externalScope external = scope ∧ external.disposition = .discoveredUnowned := by
    simpa [isUnownedInScope] using hUnowned
  rcases hLeaves.unowned external hMem hParts.2 with hOld | hOutside
  · obtain ⟨hHeld, hEnded⟩ := h external hOld hUnowned
    exact ⟨hLeaves.holder _ hHeld, hEnded⟩
  · rw [hParts.1, hStage] at hOutside
    cases hOutside

theorem NoActiveAdopted.left_prepare (h : NoActiveAdopted before.orders scope)
    (hLeaves : Leaves tx before after) (hStage : (before.stage tx).preparesIn scope = true) :
    NoActiveAdopted after.orders scope := by
  rcases hLeaves.adopted scope h with hKept | ⟨_, hOutside⟩
  · exact hKept
  · rw [hStage] at hOutside
    cases hOutside

theorem AdoptionKept.left (h : AdoptionKept before external) (hLeaves : Leaves tx before after)
    (hHeld : before.holder (.external external.externalOrderId) = some tx)
    (hStage : (before.stage tx).adoptsActive (externalScope external) =
      !external.brokerStatus.isTerminal) : AdoptionKept after external where
  locked := hLeaves.locked external h.locked hHeld
  alone := by
    intro hActive
    rcases hLeaves.adopted _ (h.alone hActive) with hKept | ⟨hOutside, _⟩
    · exact hKept
    · rw [hStage, hActive] at hOutside
      cases hOutside

theorem WriteKept.left (h : WriteKept before.externals external) (hLeaves : Leaves tx before after)
    (hHeld : before.holder (.external external.externalOrderId) = some tx) :
    WriteKept after.externals external where
  readable := h.readable
  origin := by
    rcases h.origin with hFresh | ⟨current, hMem, hObserved⟩
    · exact Or.inl ⟨hLeaves.absent _ hHeld hFresh.absent, hFresh.unadopted, hFresh.active⟩
    · rw [hObserved.externalOrderId] at hHeld
      exact Or.inr ⟨current, hLeaves.locked current hMem hHeld, hObserved⟩

theorem ReadKept.left {read : DiscoveredExternalOrder} (h : ReadKept before.externals read)
    (hLeaves : Leaves tx before after) : ReadKept after.externals read where
  readable := h.readable
  stored := by
    obtain ⟨current, hMem, hId, hVersion, hSame⟩ := h.stored
    obtain ⟨later, hLater, hLaterId, hChange⟩ := hLeaves.versions current hMem
    refine ⟨later, hLater, hLaterId.trans hId, ?_⟩
    rcases hChange with rfl | hNext
    · exact ⟨hVersion, hSame⟩
    · exact ⟨by omega, fun hEq => by omega⟩

/-- What a transaction relies on survives the steps of the others. -/
theorem StageKept.left (h : StageKept before tx (before.stage tx))
    (hHeld : ∀ key ∈ (before.stage tx).keys, before.holder key = some tx)
    (hLeaves : Leaves tx before after) : StageKept after tx (after.stage tx) := by
  rw [hLeaves.stage]
  cases hStage : before.stage tx with
  | outside | adopting => trivial
  | preparing =>
    rw [hStage] at h
    exact h
  | adoptionLocked adoption external =>
    rw [hStage] at h hHeld
    exact hLeaves.locked external h (hHeld _ List.mem_cons_self)
  | adoptionChecked =>
    rw [hStage] at h hHeld
    exact AdoptionKept.left h hLeaves (hHeld _ List.mem_cons_self)
      (by rw [hStage]; simp [StoreStage.adoptsActive])
  | adoptionInserted | adoptionUpdated =>
    rw [hStage] at h hHeld
    exact ⟨h.1.left hLeaves (hHeld _ List.mem_cons_self)
      (by rw [hStage]; simp [StoreStage.adoptsActive]), h.2.1,
      hLeaves.unused _ (hHeld _ (by simp [StoreStage.keys, orderKeys])) h.2.2⟩
  | externalsFenced =>
    rw [hStage] at h
    exact ⟨h.1.left hLeaves (by rw [hStage]; simp [StoreStage.preparesIn]), h.2⟩
  | ordersFenced record =>
    rw [hStage] at h
    have hIn : (before.stage tx).preparesIn (recordScope record) = true := by
      rw [hStage]
      simp [StoreStage.preparesIn]
    exact ⟨h.1.left hLeaves hIn, h.2.1.left_prepare hLeaves hIn, h.2.2⟩
  | submissionInserted record =>
    rw [hStage] at h hHeld
    have hIn : (before.stage tx).preparesIn (recordScope record) = true := by
      rw [hStage]
      simp [StoreStage.preparesIn]
    exact ⟨h.1.left hLeaves hIn, h.2.1.left_prepare hLeaves hIn, h.2.2.1,
      hLeaves.unused _ (hHeld _ (by simp [StoreStage.keys, orderKeys])) h.2.2.2⟩
  | reconciling =>
    rw [hStage] at h hHeld
    refine ⟨h.1, fun row hRow => ?_, fun write hWrite => ?_⟩
    · exact (h.2.1 row hRow).left hLeaves (hHeld _ (List.mem_map.mpr ⟨row, hRow, rfl⟩))
    · cases write with
      | create => trivial
      | update => exact ReadKept.left (h.2.2 _ hWrite) hLeaves

end Leaves

end Invariant

end QuantApp.Services
