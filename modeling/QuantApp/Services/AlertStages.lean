import QuantApp.Services.ExternalAlerting

/-!
# What an alert transaction knows

A row that a transaction has read is the committed one or an older version of it; the lock of
the row that it has written keeps the two equal until it commits.  What an import works on
is pending in the spool, and the alert that it commits has no receipt yet.
-/

namespace QuantApp.Services

open Core Verified

/-! ## The written rows -/

section Rows

variable {config : AlertingConfig} {key : AlertKey} {now : Instant} {delivered : Bool}
  {row new : AlertIncident} {write : IncidentWrite} {attempts : List SpoolAttempt}

@[simp] theorem withAttempts_key : (withAttempts attempts row).key = row.key := by
  unfold withAttempts
  split <;> rfl

@[simp] theorem withAttempts_occurrenceCount :
    (withAttempts attempts row).occurrenceCount = row.occurrenceCount := by
  unfold withAttempts
  split <;> rfl

@[simp] theorem withAttempts_status : (withAttempts attempts row).status = row.status := by
  unfold withAttempts
  split <;> rfl

theorem version_le_withAttempts : row.version ≤ (withAttempts attempts row).version := by
  unfold withAttempts
  split
  · exact Nat.le_refl _
  · exact Nat.le_succ _

namespace IncidentWrite

/-- What a write adds to the occurrences of its row. -/
def amount : IncidentWrite → Nat
  | .raise _ => 1
  | .importPending pending _ => pending.occurrenceCount
  | .deliver _ | .close _ _ => 0

/-- The key that a write names, if it names one. -/
def Names (key : AlertKey) : IncidentWrite → Prop
  | .importPending pending _ => pending.key = key
  | _ => True

theorem inserted_row (hNames : write.Names key) (h : write.inserted key now = some new) :
    new.key = key ∧ new.occurrenceCount = write.amount ∧ new.status = .open_ := by
  cases write with
  | raise =>
    cases h
    exact ⟨rfl, rfl, rfl⟩
  | importPending =>
    cases h
    exact ⟨withAttempts_key.trans hNames, withAttempts_occurrenceCount, withAttempts_status⟩
  | deliver | close => cases h

theorem updated_key : (write.updated config now delivered row).key = row.key := by
  cases write with
  | raise message =>
    show (raisedIncident message now row).key = _
    unfold raisedIncident
    split <;> rfl
  | importPending => exact withAttempts_key
  | deliver | close => rfl

theorem updated_occurrenceCount :
    (write.updated config now delivered row).occurrenceCount =
      row.occurrenceCount + write.amount := by
  cases write with
  | raise message =>
    show (raisedIncident message now row).occurrenceCount = _
    unfold raisedIncident
    split <;> rfl
  | importPending => exact withAttempts_occurrenceCount
  | deliver | close => rfl

theorem version_lt_updated : row.version < (write.updated config now delivered row).version := by
  cases write with
  | raise message =>
    show _ < (raisedIncident message now row).version
    unfold raisedIncident
    split <;> exact Nat.lt_succ_self _
  | importPending pending =>
    show _ < (importedIncident pending now row).version
    unfold importedIncident
    refine Nat.lt_of_lt_of_le ?_ version_le_withAttempts
    exact Nat.lt_succ_self row.version
  | deliver | close => exact Nat.lt_succ_self _

/-- Only an acknowledgement or a resolution leaves a row that is not open. -/
theorem updated_status (hMatches : write.matchesStatus row.status = true)
    (h : (write.updated config now delivered row).status ≠ .open_) :
    ∃ target closedBy, write = .close target closedBy := by
  cases write with
  | raise message =>
    refine absurd ?_ h
    show (raisedIncident message now row).status = _
    unfold raisedIncident
    split
    next hOpen => exact hOpen
    next => rfl
  | importPending => exact absurd withAttempts_status h
  | deliver => exact absurd (of_decide_eq_true hMatches) h
  | close target closedBy => exact ⟨target, closedBy, rfl⟩

/-- A write that may match no row without an error or a loss. -/
def MayMiss : IncidentWrite → Prop
  | .deliver _ | .close _ _ => True
  | .raise _ | .importPending _ _ => False

end IncidentWrite

end Rows

section Stages

variable {Caller : Type}

/-- The row was read from the table, and may have been replaced since. -/
def ReadFrom (world : AlertWorld Caller) (key : AlertKey) (row : AlertIncident) : Prop :=
  ∃ current, world.incident? key = some current ∧ (row = current ∨ row.version < current.version)

/-- The pending alert is one of the spool. -/
def Spooled (world : AlertWorld Caller) (pending : PendingAlert) : Prop :=
  (pending.eventId, pending.key) ∈ pendingIds (entriesOf world.spool)

/-- What a write was made from. -/
def WriteKnown (world : AlertWorld Caller) (key : AlertKey) : IncidentWrite → Prop
  | .importPending pending rest =>
    pending.key = key ∧ ∀ found ∈ pending :: rest, Spooled world found
  | .deliver rest => ∀ row ∈ rest, ReadFrom world row.key row
  | .raise _ | .close _ _ => True

/-- The row is written and not committed yet. -/
structure Written (world : AlertWorld Caller) (caller : Caller) (key : AlertKey)
    (write : IncidentWrite) (row : Option AlertIncident) (new : AlertIncident) : Prop where
  locked : world.holder key = some caller
  found : world.incident? key = row
  key : new.key = key
  count : new.occurrenceCount = (row.elim 0 AlertIncident.occurrenceCount) + write.amount
  closes : new.status ≠ .open_ → ∃ target closedBy read,
    write = .close target closedBy ∧ row = some read
  newer : ∀ read ∈ row, read.version < new.version

/-- What a caller knows at each stage. -/
def StageKnown (world : AlertWorld Caller) (caller : Caller) : AlertStage → Prop
  | .reading key write => WriteKnown world key write
  | .writing key write row => WriteKnown world key write ∧ ∀ read ∈ row, ReadFrom world key read
  | .receipting pending rest row written =>
    WriteKnown world pending.key (.importPending pending rest) ∧
      Written world caller pending.key (.importPending pending rest) row written
  | .committing key write row written =>
    WriteKnown world key write ∧ (written = none → write.MayMiss) ∧
      (∀ new ∈ written, Written world caller key write row new) ∧
        ∀ pending rest, write = .importPending pending rest → pending.eventId ∉ world.receipts
  | .importing pendings => ∀ pending ∈ pendings, Spooled world pending
  | .checkingReceipt pending rest | .retrying pending rest =>
    ∀ found ∈ pending :: rest, Spooled world found
  | .marking pending rest =>
    (∀ found ∈ pending :: rest, Spooled world found) ∧ pending.eventId ∈ world.receipts
  | .delivering due => ∀ row ∈ due, ReadFrom world row.key row
  | .idle | .spooling _ _ _ | .attempting _ | .draining | .listing => True

/-- What a caller relies on is still there. -/
structure KeptFor (caller : Caller) (before after : AlertWorld Caller) : Prop where
  spooled : ∀ pending ∈ pendingIds (entriesOf before.spool),
    pending ∈ pendingIds (entriesOf after.spool)
  rows : ∀ key row, ReadFrom before key row → ReadFrom after key row
  held : ∀ key, before.holder key = some caller →
    after.holder key = some caller ∧ after.incident? key = before.incident? key
  receipts : ∀ eventId ∈ before.receipts, eventId ∈ after.receipts
  unreceipted : ∀ eventId key, (eventId, key) ∈ pendingIds (entriesOf before.spool) →
    before.holder key = some caller → eventId ∉ before.receipts → eventId ∉ after.receipts

variable {before after world : AlertWorld Caller} {caller : Caller} {key : AlertKey}
  {write : IncidentWrite}

theorem WriteKnown.names (h : WriteKnown world key write) : write.Names key := by
  cases write with
  | importPending => exact h.1
  | _ => trivial

theorem WriteKnown.kept (hKept : KeptFor caller before after) (h : WriteKnown before key write) :
    WriteKnown after key write := by
  cases write with
  | importPending =>
    exact ⟨h.1, fun found hFound => hKept.spooled _ (h.2 found hFound)⟩
  | deliver => exact fun row hRow => hKept.rows row.key row (h row hRow)
  | raise | close => trivial

theorem Written.kept {row : Option AlertIncident} {new : AlertIncident}
    (hKept : KeptFor caller before after) (h : Written before caller key write row new) :
    Written after caller key write row new :=
  { h with
    locked := (hKept.held key h.locked).1
    found := (hKept.held key h.locked).2.trans h.found }

/-- What a caller knows stays true while others take their steps. -/
theorem StageKnown.kept {stage : AlertStage} (hKept : KeptFor caller before after)
    (h : StageKnown before caller stage) : StageKnown after caller stage := by
  cases stage with
  | reading => exact WriteKnown.kept hKept h
  | writing key =>
    exact ⟨WriteKnown.kept hKept h.1, fun read hRead => hKept.rows key read (h.2 read hRead)⟩
  | receipting =>
    exact ⟨WriteKnown.kept hKept h.1, Written.kept hKept h.2⟩
  | committing key write row written =>
    obtain ⟨hKnown, hMiss, hWritten, hReceipt⟩ := h
    refine ⟨WriteKnown.kept hKept hKnown, hMiss,
      fun new hNew => Written.kept hKept (hWritten new hNew), ?_⟩
    intro pending rest hWrite
    subst hWrite
    cases written with
    | none => exact absurd (hMiss rfl) id
    | some new =>
      have hOwn : Spooled before pending := hKnown.2 pending List.mem_cons_self
      have hLocked := (hWritten new rfl).locked
      rw [← hKnown.1] at hLocked
      exact hKept.unreceipted pending.eventId pending.key hOwn hLocked
        (hReceipt pending rest rfl)
  | importing => exact fun pending hMem => hKept.spooled _ (h pending hMem)
  | checkingReceipt pending rest | retrying pending rest =>
    exact fun found hMem => hKept.spooled _ (h found hMem)
  | marking =>
    exact ⟨fun found hMem => hKept.spooled _ (h.1 found hMem), hKept.receipts _ h.2⟩
  | delivering => exact fun row hRow => hKept.rows row.key row (h row hRow)
  | idle | spooling | attempting | draining | listing => trivial

theorem stageKnown_startWithKey (alertType : CriticalAlertType) (dedupeKey : String)
    {stage : AlertKey → AlertStage} (h : ∀ key, StageKnown world caller (stage key)) :
    StageKnown world caller (startWithKey alertType dedupeKey stage) := by
  unfold startWithKey
  split
  · trivial
  · exact h _

theorem stageKnown_start (call : AlertCall) : StageKnown world caller call.start := by
  unfold AlertCall.start
  split
  · exact stageKnown_startWithKey _ _ (fun _ => trivial)
  · exact stageKnown_startWithKey _ _ (fun _ => trivial)
  · trivial
  · trivial
  · exact stageKnown_startWithKey _ _ (fun _ => trivial)

end Stages

end QuantApp.Services
