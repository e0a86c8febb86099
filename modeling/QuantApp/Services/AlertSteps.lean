import QuantApp.Services.AlertStages

/-!
# What the statements keep

The incidents and the spool together count what was stored, and whatever the last closing of an
incident has not counted keeps it open or is still in the spool.  A statement of a caller keeps
this where an update of `_raise_alert_occurrences` finds the version that was read, a record is
appended behind whole lines only, and an occurrence is added to no imported alert.
-/

namespace QuantApp.Services

open Core Verified
open Function (update update_of_ne update_self)

variable {stage : AlertStage} {new read : AlertIncident} {row : Option AlertIncident}

section Tallies

variable {Caller : Type}

namespace AlertWorld

/-- The occurrences that the incident of a key counts. -/
def rowCount (world : AlertWorld Caller) (key : AlertKey) : Nat :=
  (world.incident? key).elim 0 AlertIncident.occurrenceCount

def isImported (world : AlertWorld Caller) (eventId : String) : Bool := eventId ∈ world.receipts

/-- The occurrences in the incident and in the spool entries that are not imported. -/
def counted (world : AlertWorld Caller) (key : AlertKey) : Nat :=
  world.rowCount key + spooledCount world.isImported key (entriesOf world.spool)

end AlertWorld

/-- The tables and the spool count what was stored, on top of what they counted first. -/
structure AlertsTallied (base : AlertKey → Nat) (world : AlertWorld Caller) : Prop where
  keyed : Keyed AlertIncident.key world.incidents
  nodup : ((pendingIds (entriesOf world.spool)).map Prod.fst).Nodup
  reconciled : ∀ eventId, isReconciled (entriesOf world.spool) eventId = true →
    eventId ∈ world.receipts
  counted : ∀ key, world.counted key = base key + world.stored.count key
  closed : ∀ row ∈ world.incidents, row.status ≠ .open_ →
    row.occurrenceCount ≤ world.settled row.key
  running : world.stopped = false

structure AlertsHold (base : AlertKey → Nat) (world : AlertWorld Caller) : Prop where
  tallied : AlertsTallied base world
  stages : ∀ caller, StageKnown world caller (world.stage caller)

end Tallies

section Steps

variable {Caller : Type} {base : AlertKey → Nat} {before after world : AlertWorld Caller}
  {caller : Caller} {key : AlertKey} {write : IncidentWrite}

variable {other : Caller}

/-- The tables and the file stand, and so do the locks of another caller. -/
theorem keptFor_of_same (hIncidents : after.incidents = before.incidents)
    (hSpool : after.spool = before.spool) (hReceipts : after.receipts = before.receipts)
    (hHeld : ∀ key, before.holder key = some other → after.holder key = some other) :
    KeptFor other before after where
  spooled := fun pending h => by rwa [hSpool]
  rows := fun key row h => by
    unfold ReadFrom AlertWorld.incident? at h ⊢
    rwa [hIncidents]
  held := fun key h => ⟨hHeld key h, by unfold AlertWorld.incident?; rw [hIncidents]⟩
  receipts := fun eventId h => by rwa [hReceipts]
  unreceipted := fun eventId key _ _ h => by rwa [hReceipts]

/-! ## A row is written -/

/-- The world with the lock of the row taken. -/
def AlertWorld.lock (world : AlertWorld Caller) (caller : Caller) (key : AlertKey) :
    AlertWorld Caller :=
  { world with holder := Function.update world.holder key (some caller) }

theorem written_inserted {now : Instant} (hNames : write.Names key)
    (hFound : world.incident? key = none) (h : write.inserted key now = some new) :
    Written (world.lock caller key) caller key write none new := by
  obtain ⟨hKey, hCount, hOpen⟩ := IncidentWrite.inserted_row hNames h
  exact
    { locked := update_self ..
      found := hFound
      key := hKey
      count := by rw [hCount]; exact (Nat.zero_add _).symm
      closes := fun hClosed => absurd hOpen hClosed
      newer := fun _ hNever => nomatch hNever }

theorem written_updated (config : AlertingConfig) (moment : AlertMoment)
    (hFound : world.incident? key = some read) (hMatches : write.matchesStatus read.status = true) :
    Written (world.lock caller key) caller key write (some read)
      (write.updated config moment.now moment.delivered read) where
  locked := update_self ..
  found := hFound
  key := IncidentWrite.updated_key.trans (lookup_key hFound)
  count := IncidentWrite.updated_occurrenceCount
  closes := fun hClosed => by
    obtain ⟨target, closedBy, hWrite⟩ := IncidentWrite.updated_status hMatches hClosed
    exact ⟨target, closedBy, read, hWrite, rfl⟩
  newer := fun found hRead => by
    cases hRead
    exact IncidentWrite.version_lt_updated

/-- The version that the transaction has read is the committed one. -/
def AlertWorld.FindsVersion (world : AlertWorld Caller) (key : AlertKey) (row : AlertIncident) :
    Prop :=
  ∃ current ∈ world.incident? key, current.version = row.version

instance (world : AlertWorld Caller) (key : AlertKey) (row : AlertIncident) :
    Decidable (world.FindsVersion key row) :=
  inferInstanceAs (Decidable (∃ current ∈ world.incident? key, _))

theorem ReadFrom.eq_of_version {current : AlertIncident} (h : ReadFrom world key read)
    (hFound : world.incident? key = some current) (hVersion : current.version = read.version) :
    current = read := by
  obtain ⟨found, hMem, hRead⟩ := h
  rw [hFound] at hMem
  cases hMem
  rcases hRead with rfl | hOlder
  · rfl
  · omega

theorem keptFor_lock (hOther : other ≠ caller)
    (hFree : world.holder key = none ∨ world.holder key = some caller) :
    KeptFor other world (world.lock caller key) := by
  refine keptFor_of_same rfl rfl rfl (fun held h => ?_)
  have hNe : held ≠ key := by
    rintro rfl
    rcases hFree with hFree | hFree
    · rw [hFree] at h
      cases h
    · rw [hFree] at h
      exact hOther (Option.some.inj h).symm
  show update world.holder key (some caller) held = some other
  rwa [update_of_ne hNe]

variable [DecidableEq Caller]

/-- A step of one caller: its own stage, and what the others rely on. -/
theorem AlertsHold.stepped (h : AlertsHold base before) (hTallied : AlertsTallied base after)
    (hOthers : ∀ other, other ≠ caller →
      after.stage other = before.stage other ∧ KeptFor other before after)
    (hOwn : StageKnown after caller (after.stage caller)) : AlertsHold base after := by
  refine ⟨hTallied, fun other => ?_⟩
  by_cases hOther : other = caller
  · rw [hOther]
    exact hOwn
  · obtain ⟨hStage, hKept⟩ := hOthers other hOther
    rw [hStage]
    exact StageKnown.kept hKept (h.stages other)

/-! ## Steps that write no table and no file -/

theorem stage_moveTo_of_ne (h : other ≠ caller) :
    (world.moveTo caller stage).stage other = world.stage other := by
  show update world.stage caller stage other = _
  rw [update_of_ne h]

theorem stage_leave_of_ne (h : other ≠ caller) :
    (world.leave caller stage).stage other = world.stage other := by
  show update world.stage caller stage other = _
  rw [update_of_ne h]

theorem keptFor_moveTo (other : Caller) (stage : AlertStage) :
    KeptFor other world (world.moveTo caller stage) :=
  keptFor_of_same rfl rfl rfl (fun _ h => h)

theorem keptFor_leave (hOther : other ≠ caller) (stage : AlertStage) :
    KeptFor other world (world.leave caller stage) := by
  refine keptFor_of_same rfl rfl rfl (fun key h => ?_)
  show (if world.holder key = some caller then none else world.holder key) = some other
  rw [h, if_neg (fun hEq => hOther (Option.some.inj hEq))]

theorem AlertsHold.moveTo (h : AlertsHold base world) (hStage : StageKnown world caller stage) :
    AlertsHold base (world.moveTo caller stage) := by
  refine h.stepped { h.tallied with }
    (fun other hOther => ⟨stage_moveTo_of_ne hOther, keptFor_moveTo other stage⟩) ?_
  have hOwn : (world.moveTo caller stage).stage caller = stage := update_self ..
  rw [hOwn]
  exact StageKnown.kept (keptFor_moveTo caller stage) hStage

theorem AlertsHold.leave (h : AlertsHold base world)
    (hStage : StageKnown (world.leave caller stage) caller stage) :
    AlertsHold base (world.leave caller stage) := by
  refine h.stepped { h.tallied with }
    (fun other hOther => ⟨stage_leave_of_ne hOther, keptFor_leave hOther stage⟩) ?_
  have hOwn : (world.leave caller stage).stage caller = stage := update_self ..
  rw [hOwn]
  exact hStage

theorem WriteKnown.raised (h : WriteKnown world key write) :
    StageKnown (world.leave caller (write.raised key)) caller (write.raised key) := by
  cases write with
  | importPending => exact h.2
  | raise | deliver | close => trivial

/-- Where the caller goes on with the row written. -/
def writtenStage (key : AlertKey) (row : Option AlertIncident) (new : AlertIncident) :
    IncidentWrite → AlertStage
  | .importPending pending rest => .receipting pending rest row new
  | write => .committing key write row (some new)

theorem AlertsHold.written (h : AlertsHold base world)
    (hFree : world.holder key = none ∨ world.holder key = some caller)
    (hKnown : WriteKnown world key write)
    (hWritten : Written (world.lock caller key) caller key write row new) :
    AlertsHold base ((world.lock caller key).moveTo caller (writtenStage key row new write)) := by
  refine h.stepped { h.tallied with } (fun other hOther => ⟨stage_moveTo_of_ne hOther, ?_⟩) ?_
  · exact keptFor_of_same rfl rfl rfl (keptFor_lock hOther hFree |>.held · · |>.1)
  have hOwn : ((world.lock caller key).moveTo caller (writtenStage key row new write)).stage
      caller = writtenStage key row new write := update_self ..
  rw [hOwn]
  refine StageKnown.kept (keptFor_moveTo caller _) ?_
  have hNone : some new = none → write.MayMiss := fun hNever => nomatch hNever
  have hSome : ∀ found ∈ some new, Written (world.lock caller key) caller key write row found := by
    intro found hFound
    cases hFound
    exact hWritten
  cases write with
  | importPending =>
    obtain ⟨rfl, hSpooled⟩ := hKnown
    exact ⟨⟨rfl, hSpooled⟩, hWritten⟩
  | raise | close => exact ⟨trivial, hNone, hSome, fun _ _ hNever => nomatch hNever⟩
  | deliver => exact ⟨hKnown, hNone, hSome, fun _ _ hNever => nomatch hNever⟩

theorem AlertsHold.writeRow {config : AlertingConfig} {moment : AlertMoment}
    (h : AlertsHold base world) (hKnown : WriteKnown world key write)
    (hRead : ∀ read ∈ row, ReadFrom world key read)
    (hRaise : ∀ message, write = .raise message → ∀ read ∈ row, world.FindsVersion key read)
    (hStep : AlertWorld.writeRow config world caller moment key write row = some after) :
    AlertsHold base after := by
  have hLeft : AlertsHold base (world.leave caller (write.raised key)) :=
    h.leave (WriteKnown.raised hKnown)
  unfold AlertWorld.writeRow at hStep
  split at hStep
  next hFree =>
    cases row with
    | none =>
      dsimp only at hStep
      split at hStep
      next new hFound hInserted =>
        have hWritten := h.written hFree hKnown
          (written_inserted (WriteKnown.names hKnown) hFound hInserted)
        cases write <;> (cases hStep; exact hWritten)
      next =>
        cases hStep
        exact hLeft
    | some read =>
      dsimp only at hStep
      split at hStep
      next hMatched =>
        obtain ⟨current, hFound, hCurrent⟩ := (Option.any_eq_true _ _).mp hMatched
        obtain ⟨hVersion, hStatus⟩ := Bool.and_eq_true_iff.mp hCurrent
        have hSame : current = read :=
          (hRead read rfl).eq_of_version hFound (of_decide_eq_true hVersion)
        subst hSame
        have hWritten := h.written hFree hKnown (written_updated config moment hFound hStatus)
        cases write <;> (cases hStep; exact hWritten)
      next hMissed =>
        have hMissing : ∀ hMiss : write.MayMiss, AlertsHold base
            (world.moveTo caller (.committing key write (some read) none)) := by
          intro hMiss
          refine h.moveTo ⟨hKnown, fun _ => hMiss, (fun _ hNever => nomatch hNever), ?_⟩
          rintro pending rest rfl
          exact absurd hMiss id
        cases write with
        | raise message =>
          obtain ⟨current, hFound, hVersion⟩ := hRaise message rfl read rfl
          refine absurd ?_ hMissed
          refine (Option.any_eq_true _ _).mpr ⟨current, hFound, ?_⟩
          exact Bool.and_eq_true_iff.mpr ⟨decide_eq_true hVersion, rfl⟩
        | importPending =>
          cases hStep
          exact hLeft
        | deliver | close =>
          cases hStep
          exact hMissing trivial
  next => cases hStep

end Steps

end QuantApp.Services
