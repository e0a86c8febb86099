import QuantApp.Services.AlertAppends

/-!
# What the commits keep

A commit puts one row over the one that its transaction has read.  What the row gains, the
call has just stored or the import has taken from the spool; and a row that is closed counts
what the closing has read.
-/

namespace QuantApp.Services

open Core Verified

/-! ## A commit takes effect -/

section Commits

variable {Caller : Type} {base : AlertKey → Nat} {world : AlertWorld Caller} {caller : Caller}
  {key : AlertKey} {write : IncidentWrite} {row : Option AlertIncident} {new : AlertIncident}

theorem incident?_takeEffect (hWritten : Written world caller key write row new)
    (other : AlertKey) :
    (world.takeEffect key write row (some new)).incident? other =
      if other = key then some new else world.incident? other := by
  obtain ⟨hFound, hKey⟩ := And.intro hWritten.found hWritten.key
  subst hKey
  cases row with
  | none =>
    show lookup AlertIncident.key other (world.incidents ++ [new]) = _
    rw [lookup_append]
    split
    next hOther =>
      subst hOther
      have hNone : lookup AlertIncident.key new.key world.incidents = none := hFound
      rw [hNone]
      unfold lookup
      simp
    next hOther =>
      unfold AlertWorld.incident? lookup
      simp [Ne.symm hOther]
  | some =>
    show lookup AlertIncident.key other (store AlertIncident.key new world.incidents) = _
    split
    next hOther =>
      subst hOther
      exact lookup_store_self hFound
    next hOther => exact lookup_store_of_ne hOther

theorem readFrom_takeEffect {other : AlertKey} {read : AlertIncident}
    (hWritten : Written world caller key write row new) (h : ReadFrom world other read) :
    ReadFrom (world.takeEffect key write row (some new)) other read := by
  obtain ⟨current, hFound, hRead⟩ := h
  by_cases hOther : other = key
  · subst hOther
    refine ⟨new, by rw [incident?_takeEffect hWritten, if_pos rfl], Or.inr ?_⟩
    have hNewer := hWritten.newer current (hWritten.found ▸ hFound)
    rcases hRead with rfl | hOlder
    · exact hNewer
    · exact Nat.lt_trans hOlder hNewer
  · exact ⟨current, by rw [incident?_takeEffect hWritten, if_neg hOther, hFound], hRead⟩

theorem mem_receipts_takeEffect {eventId : String}
    (h : eventId ∈ (world.takeEffect key write row (some new)).receipts) :
    eventId ∈ world.receipts ∨
      ∃ pending rest, write = .importPending pending rest ∧ eventId = pending.eventId := by
  cases write with
  | importPending pending rest =>
    rcases List.mem_append.mp h with hMem | hMem
    · exact Or.inl hMem
    · exact Or.inr ⟨pending, rest, rfl, List.mem_singleton.mp hMem⟩
  | _ => exact Or.inl h

theorem receipts_subset_takeEffect {eventId : String} (h : eventId ∈ world.receipts) :
    eventId ∈ (world.takeEffect key write row (some new)).receipts := by
  cases write with
  | importPending => exact List.mem_append_left _ h
  | _ => exact h

/-- The lock of the written row keeps the others apart from it. -/
theorem keptFor_takeEffect {other : Caller} (hTallied : AlertsTallied base world)
    (hKnown : WriteKnown world key write) (hWritten : Written world caller key write row new)
    (hOther : other ≠ caller) :
    KeptFor other world (world.takeEffect key write row (some new)) where
  spooled := fun _ h => h
  rows := fun _ _ h => readFrom_takeEffect hWritten h
  held := by
    intro held hHeld
    refine ⟨hHeld, ?_⟩
    rw [incident?_takeEffect hWritten, if_neg]
    rintro rfl
    rw [hWritten.locked] at hHeld
    exact hOther (Option.some.inj hHeld).symm
  receipts := fun _ h => receipts_subset_takeEffect h
  unreceipted := by
    intro eventId held hMem hHeld hReceipt hAdded
    rcases mem_receipts_takeEffect hAdded with hBefore | ⟨pending, rest, rfl, rfl⟩
    · exact hReceipt hBefore
    · have hOwn : (pending.eventId, pending.key) ∈ pendingIds (entriesOf world.spool) :=
        hKnown.2 pending List.mem_cons_self
      have hSame := List.inj_on_of_nodup_map hTallied.nodup hMem hOwn rfl
      have hKey : held = pending.key := congrArg Prod.snd hSame
      rw [hKey, hKnown.1, hWritten.locked] at hHeld
      exact hOther (Option.some.inj hHeld).symm

theorem KeptFor.trans {other : Caller} {between after : AlertWorld Caller}
    (h : KeptFor other world between) (hLater : KeptFor other between after) :
    KeptFor other world after where
  spooled := fun pending hMem => hLater.spooled pending (h.spooled pending hMem)
  rows := fun key row hRead => hLater.rows key row (h.rows key row hRead)
  held := fun key hHeld =>
    ⟨(hLater.held key (h.held key hHeld).1).1,
      (hLater.held key (h.held key hHeld).1).2.trans (h.held key hHeld).2⟩
  receipts := fun eventId hMem => hLater.receipts eventId (h.receipts eventId hMem)
  unreceipted := fun eventId key hMem hHeld hNone =>
    hLater.unreceipted eventId key (h.spooled _ hMem) (h.held key hHeld).1
      (h.unreceipted eventId key hMem hHeld hNone)

/-- The calls that a committed write has stored. -/
def IncidentWrite.storedAfter (stored : List AlertKey) (key : AlertKey) :
    IncidentWrite → List AlertKey
  | .raise _ => stored ++ [key]
  | _ => stored

theorem keyed_takeEffect (hTallied : AlertsTallied base world)
    (hWritten : Written world caller key write row new) :
    Keyed AlertIncident.key (world.takeEffect key write row (some new)).incidents := by
  cases row with
  | none =>
    refine hTallied.keyed.append_fresh ?_
    rw [hWritten.key]
    exact lookup_eq_none_iff.mp hWritten.found
  | some => exact hTallied.keyed.store

theorem settled_takeEffect_of_ne {other : AlertKey} (hOther : other ≠ key) :
    (world.takeEffect key write row (some new)).settled other = world.settled other := by
  cases write with
  | close =>
    cases row with
    | none => rfl
    | some read =>
      show Function.update world.settled key read.occurrenceCount other = _
      rw [Function.update_of_ne hOther]
  | _ => rfl

/-- A row that is closed counts no more than the closing has read. -/
theorem closed_takeEffect (hTallied : AlertsTallied base world)
    (hWritten : Written world caller key write row new) {found : AlertIncident}
    (hFound : found ∈ (world.takeEffect key write row (some new)).incidents)
    (hClosed : found.status ≠ .open_) :
    found.occurrenceCount ≤ (world.takeEffect key write row (some new)).settled found.key := by
  by_cases hKey : found.key = key
  · have hSame : found = new := by
      have hLookup := (keyed_takeEffect hTallied hWritten).lookup_of_mem hFound
      have hTaken := incident?_takeEffect hWritten found.key
      rw [if_pos hKey] at hTaken
      exact Option.some.inj (hLookup.symm.trans hTaken)
    subst hSame
    obtain ⟨target, closedBy, read, rfl, rfl⟩ := hWritten.closes hClosed
    rw [hWritten.count, hKey]
    show _ ≤ Function.update world.settled key read.occurrenceCount key
    rw [Function.update_self]
    exact Nat.le_refl _
  · rw [settled_takeEffect_of_ne hKey]
    refine hTallied.closed found ?_ hClosed
    cases row with
    | none =>
      rcases List.mem_append.mp hFound with hMem | hNew
      · exact hMem
      · rw [List.mem_singleton.mp hNew] at hKey
        exact absurd hWritten.key hKey
    | some =>
      rcases mem_store hFound with rfl | hMem
      · exact absurd hWritten.key hKey
      · exact hMem

section

variable (h : AlertsTallied base world) (hKnown : WriteKnown world key write)
  (hWritten : Written world caller key write row new)
  (hReceipt : ∀ pending rest, write = .importPending pending rest →
    pending.eventId ∉ world.receipts)
  (hFolded : ∀ pending rest, write = .importPending pending rest →
    pendingCount (entriesOf world.spool) pending.eventId = pending.occurrenceCount)
include h hKnown hWritten hReceipt hFolded

/-- What a committed write adds to its row, it takes from the spool or it was raised. -/
theorem counted_takeEffect (other : AlertKey) :
    (world.takeEffect key write row (some new)).counted other + world.stored.count other =
      world.counted other + (write.storedAfter world.stored key).count other := by
  have hRow : (world.takeEffect key write row (some new)).rowCount other =
      world.rowCount other + if other = key then write.amount else 0 := by
    unfold AlertWorld.rowCount
    rw [incident?_takeEffect hWritten]
    split
    next hOther =>
      rw [hOther, hWritten.found]
      exact hWritten.count
    next => rfl
  unfold AlertWorld.counted
  rw [hRow]
  cases write with
  | importPending pending rest =>
    obtain ⟨rfl, hSpooled⟩ := hKnown
    have hOwn : (pending.eventId, pending.key) ∈ pendingIds (entriesOf world.spool) :=
      hSpooled pending List.mem_cons_self
    have hFresh : world.isImported pending.eventId = false :=
      decide_eq_false (hReceipt pending rest rfl)
    have hTaken := spooledCount_import h.nodup hOwn hFresh other
    rw [hFolded pending rest rfl] at hTaken
    have hImported : (world.takeEffect pending.key (.importPending pending rest) row
        (some new)).isImported =
        fun found => world.isImported found || found = pending.eventId := by
      funext found
      show decide (found ∈ world.receipts ++ [pending.eventId]) = _
      rw [AlertWorld.isImported, ← Bool.decide_or]
      simp
    rw [hImported]
    show _ + spooledCount _ other (entriesOf world.spool) + _ = _
    dsimp only [IncidentWrite.amount, IncidentWrite.storedAfter]
    omega
  | raise =>
    show world.rowCount other + (if other = key then 1 else 0) +
      spooledCount world.isImported other (entriesOf world.spool) + _ =
        _ + (world.stored ++ [key]).count other
    rw [List.count_append, List.count_singleton]
    by_cases hOther : other = key
    · simp [hOther]
      omega
    · simp [hOther, Ne.symm hOther]
  | deliver rest | close target closedBy =>
    show world.rowCount other + (if other = key then 0 else 0) +
      spooledCount world.isImported other (entriesOf world.spool) + _ = _
    rw [ite_self]
    rfl

theorem AlertsTallied.takeEffect :
    AlertsTallied base
      { world.takeEffect key write row (some new) with
        stored := write.storedAfter world.stored key } where
  keyed := keyed_takeEffect h hWritten
  nodup := h.nodup
  reconciled := fun eventId hMem => by
    show eventId ∈ (world.takeEffect key write row (some new)).receipts
    exact receipts_subset_takeEffect (h.reconciled eventId hMem)
  counted := fun other => by
    have hBefore := h.counted other
    have hTaken := counted_takeEffect h hKnown hWritten hReceipt hFolded other
    show (world.takeEffect key write row (some new)).counted other = _
    dsimp only
    omega
  closed := fun _ hFound hClosed => closed_takeEffect h hWritten hFound hClosed
  running := h.running

end

theorem takeEffect_none (hMiss : write.MayMiss) : world.takeEffect key write row none = world := by
  cases write with
  | deliver | close => cases row <;> rfl
  | raise | importPending => exact absurd hMiss id

theorem keptFor_stored (other : Caller) (stored : List AlertKey) :
    KeptFor other world { world with stored := stored } :=
  keptFor_of_same rfl rfl rfl (fun _ h => h)

theorem WriteKnown.takeEffect (hWritten : Written world caller key write row new)
    (h : WriteKnown world key write) :
    WriteKnown (world.takeEffect key write row (some new)) key write := by
  cases write with
  | importPending => exact h
  | deliver => exact fun read hMem => readFrom_takeEffect hWritten (h read hMem)
  | raise | close => trivial

variable [DecidableEq Caller] {confirmed : Bool} {after : AlertWorld Caller}

theorem AlertsHold.committed {stage : AlertStage} (h : AlertsHold base world)
    (hStage : world.stage caller = .committing key write row (some new))
    (hFolded : ∀ pending rest, write = .importPending pending rest →
      pendingCount (entriesOf world.spool) pending.eventId = pending.occurrenceCount)
    (hNext : StageKnown ((world.takeEffect key write row (some new)).leave caller stage) caller
      stage) :
    AlertsHold base
      { (world.takeEffect key write row (some new)).leave caller stage with
        stored := write.storedAfter world.stored key } := by
  have hOwn := h.stages caller
  rw [hStage] at hOwn
  obtain ⟨hKnown, _, hSome, hReceipt⟩ := hOwn
  have hWritten := hSome new rfl
  refine h.stepped { h.tallied.takeEffect hKnown hWritten hReceipt hFolded with }
    (fun other hOther => ⟨stage_leave_of_ne hOther, ?_⟩) ?_
  · have hKept : KeptFor other world
        ((world.takeEffect key write row (some new)).leave caller stage) :=
      (keptFor_takeEffect h.tallied hKnown hWritten hOther).trans (keptFor_leave hOther stage)
    exact { hKept with }
  · have hSelf : ((world.takeEffect key write row (some new)).leave caller stage).stage caller =
        stage := Function.update_self ..
    show StageKnown _ caller (((world.takeEffect key write row (some new)).leave caller
      stage).stage caller)
    rw [hSelf]
    exact StageKnown.kept (keptFor_stored caller _) hNext

theorem AlertsHold.commit (h : AlertsHold base world) (hRaise : ∀ key message row written,
      world.stage caller = .committing key (.raise message) row written → confirmed = true)
    (hFolded : ∀ key pending rest row written,
      world.stage caller = .committing key (.importPending pending rest) row written →
        pendingCount (entriesOf world.spool) pending.eventId = pending.occurrenceCount)
    (hStep : world.commit caller confirmed = some after) : AlertsHold base after := by
  unfold AlertWorld.commit at hStep
  split at hStep
  next key write row written hStage =>
    have hOwn := h.stages caller
    rw [hStage] at hOwn
    obtain ⟨hKnown, hMiss, hSome, _⟩ := hOwn
    cases written with
    | none =>
      have hMissed := hMiss rfl
      rw [takeEffect_none hMissed] at hStep
      cases write with
      | deliver =>
        cases confirmed with
        | true =>
          cases hStep
          exact h.leave hKnown
        | false =>
          cases hStep
          exact h.leave trivial
      | close => cases confirmed <;> (cases hStep; exact h.leave trivial)
      | raise | importPending => exact absurd hMissed id
    | some new =>
      have hWritten := hSome new rfl
      have hImport := fun pending rest (hWrite : write = .importPending pending rest) =>
        hFolded key pending rest row (some new) (hWrite ▸ hStage)
      have hAfter := WriteKnown.takeEffect hWritten hKnown
      cases write with
      | raise message =>
        have hConfirmed := hRaise key message row (some new) hStage
        subst hConfirmed
        cases hStep
        exact h.committed hStage hImport trivial
      | importPending =>
        cases confirmed with
        | true =>
          cases hStep
          exact h.committed hStage hImport
            ⟨hAfter.2, List.mem_append_right _ (List.mem_singleton_self _)⟩
        | false =>
          cases hStep
          exact h.committed hStage hImport hAfter.2
      | deliver =>
        cases confirmed with
        | true =>
          cases hStep
          exact h.committed hStage hImport hAfter
        | false =>
          cases hStep
          exact h.committed hStage hImport trivial
      | close =>
        cases confirmed <;> (cases hStep; exact h.committed hStage hImport trivial)
  next => cases hStep

end Commits

end QuantApp.Services
