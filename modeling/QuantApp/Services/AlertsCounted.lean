import QuantApp.Services.AlertCommits
import QuantApp.Verified.LabelledRuns

/-!
# Critical alerts are counted once

In every undisturbed run every stored occurrence is counted once, in its incident or in the
spool, and whatever the last closing of an incident has not counted keeps it open or pending.
-/

namespace QuantApp.Services

open Core Verified

/-! ## Undisturbed steps -/

namespace IncidentWrite

def isRaise : IncidentWrite → Bool
  | .raise _ => true
  | _ => false

def imported? : IncidentWrite → Option PendingAlert
  | .importPending pending _ => some pending
  | _ => none

end IncidentWrite

namespace AlertWorld

variable {Caller : Type}

/-- Nothing comes between what a statement relies on and the statement. -/
def StatementUndisturbed (world : AlertWorld Caller) (moment : AlertMoment) : AlertStage → Prop
  -- Nobody has written the row since `_raise_alert_occurrences` has read it.
  | .writing key write row =>
    write.isRaise = true → ∀ read ∈ row, world.FindsVersion key read
  -- The pending alert that takes the occurrence is not imported yet.
  | .spooling key _ _ =>
    (readLines world.spool).isSome = true →
      AppendsApart moment.append world.spool ∧
        (moment.append.isRecord = true →
          ∀ pending ∈ (foldPendingAlerts (entriesOf world.spool)).find?
            (fun pending => pending.key = key), pending.eventId ∉ world.receipts)
  | .attempting _ | .marking _ _ => AppendsApart moment.append world.spool
  | .retrying pending _ =>
    (dueAttempt pending moment.now).isSome = true → AppendsApart moment.append world.spool
  -- Every line of the spool is a record, or no incident waits behind it.
  | .draining =>
    (readLines world.spool).isSome = true ∨ dueIncidents world.incidents moment.now = []
  | .idle | .reading _ _ | .receipting _ _ _ _ | .committing _ _ _ _ | .importing _
  | .checkingReceipt _ _ | .listing | .delivering _ => True

/-- Nothing comes between what a commit relies on and the commit. -/
def CommitUndisturbed (world : AlertWorld Caller) (confirmed : Bool) : AlertStage → Prop
  | .committing _ write _ _ =>
    (write.isRaise = true → confirmed = true) ∧
      -- No occurrence was appended since the spool was folded.
      ∀ pending ∈ write.imported?,
        pendingCount (entriesOf world.spool) pending.eventId = pending.occurrenceCount
  | _ => True

def Undisturbed (world : AlertWorld Caller) : AlertStep Caller → Prop
  | .statement caller moment => world.StatementUndisturbed moment (world.stage caller)
  | .commit caller confirmed => world.CommitUndisturbed confirmed (world.stage caller)
  | .appendHeartbeat append => AppendsApart append world.spool
  | .call _ _ | .fail _ | .crash => True

instance (world : AlertWorld Caller) (moment : AlertMoment) (stage : AlertStage) :
    Decidable (world.StatementUndisturbed moment stage) :=
  match stage with
  | .writing _ _ _ => inferInstanceAs (Decidable (_ → _))
  | .spooling _ _ _ => inferInstanceAs (Decidable (_ → _ ∧ _))
  | .attempting _ | .marking _ _ => inferInstanceAs (Decidable (AppendsApart _ _))
  | .retrying _ _ => inferInstanceAs (Decidable (_ → _))
  | .draining => inferInstanceAs (Decidable (_ ∨ _))
  | .idle | .reading _ _ | .receipting _ _ _ _ | .committing _ _ _ _ | .importing _
  | .checkingReceipt _ _ | .listing | .delivering _ => inferInstanceAs (Decidable True)

instance (world : AlertWorld Caller) (confirmed : Bool) (stage : AlertStage) :
    Decidable (world.CommitUndisturbed confirmed stage) :=
  match stage with
  | .committing _ _ _ _ => inferInstanceAs (Decidable (_ ∧ _))
  | .idle | .reading _ _ | .writing _ _ _ | .receipting _ _ _ _ | .spooling _ _ _
  | .attempting _ | .draining | .importing _ | .checkingReceipt _ _ | .marking _ _
  | .retrying _ _ | .listing | .delivering _ => inferInstanceAs (Decidable True)

instance (world : AlertWorld Caller) (step : AlertStep Caller) :
    Decidable (world.Undisturbed step) :=
  match step with
  | .statement caller moment =>
    inferInstanceAs (Decidable (world.StatementUndisturbed moment (world.stage caller)))
  | .commit caller confirmed =>
    inferInstanceAs (Decidable (world.CommitUndisturbed confirmed (world.stage caller)))
  | .appendHeartbeat append => inferInstanceAs (Decidable (AppendsApart append world.spool))
  | .call _ _ | .fail _ | .crash => inferInstanceAs (Decidable True)

end AlertWorld

/-! ## Steps -/

section Steps

variable {Caller : Type} [DecidableEq Caller] {config : AlertingConfig} {base : AlertKey → Nat}
  {world after : AlertWorld Caller} {caller : Caller} {moment : AlertMoment}

variable (h : AlertsHold base world)
include h

theorem AlertsHold.statement (hUndisturbed : world.StatementUndisturbed moment (world.stage caller))
    (hStep : world.statement config caller moment = some after) : AlertsHold base after := by
  have hKnown := h.stages caller
  unfold AlertWorld.statement at hStep
  cases hStage : world.stage caller with
  | reading key write =>
    rw [hStage] at hStep hKnown
    dsimp only at hStep
    have hRow : ∀ read ∈ world.incident? key, ReadFrom world key read :=
      fun read hRead => ⟨read, hRead, Or.inl rfl⟩
    cases write with
    | close =>
      cases hFound : world.incident? key with
      | none =>
        rw [hFound] at hStep
        cases hStep
        exact h.moveTo trivial
      | some =>
        rw [hFound] at hStep hRow
        dsimp only at hStep
        split at hStep
        · cases hStep
          exact h.moveTo trivial
        · cases hStep
          exact h.moveTo ⟨trivial, hRow⟩
    | _ =>
      cases hStep
      exact h.moveTo ⟨hKnown, hRow⟩
  | writing =>
    rw [hStage] at hStep hKnown hUndisturbed
    refine h.writeRow hKnown.1 hKnown.2 ?_ hStep
    rintro message rfl
    exact hUndisturbed rfl
  | receipting =>
    rw [hStage] at hStep hKnown
    obtain ⟨hPending, hWritten⟩ := hKnown
    dsimp only at hStep
    split at hStep
    · cases hStep
      exact h.leave hPending.2
    next hReceipt =>
      cases hStep
      refine h.moveTo ⟨hPending, (fun hNever => nomatch hNever), ?_, ?_⟩
      · intro new hNew
        cases hNew
        exact hWritten
      · intro found others hSame
        cases hSame
        exact hReceipt
  | spooling =>
    rw [hStage] at hStep hUndisturbed
    exact h.recordOccurrence hUndisturbed hStep
  | attempting =>
    rw [hStage] at hStep hUndisturbed
    refine h.appendRecord hStep hUndisturbed rfl ?_ trivial trivial
    exact fun _ hNever => nomatch hNever
  | draining =>
    rw [hStage] at hStep hUndisturbed
    dsimp only at hStep
    split at hStep
    next hTorn =>
      have hNone : readLines world.spool = none := Option.map_eq_none_iff.mp hTorn
      have hNotDue : dueIncidents world.incidents moment.now = [] := by
        rcases hUndisturbed with hRead | hNotDue
        · rw [hNone] at hRead
          cases hRead
        · exact hNotDue
      rw [hNotDue] at hStep
      cases hStep
      show AlertsHold base { world.moveTo caller .idle with stopped := world.stopped || false }
      rw [Bool.or_false]
      exact h.moveTo trivial
    next pendings hPendings =>
      cases hStep
      obtain ⟨entries, hRead, rfl⟩ := Option.map_eq_some_iff.mp hPendings
      refine h.moveTo (fun pending hMem => ?_)
      rw [entriesOf_of_read hRead] at hMem
      exact (mem_foldPendingAlerts hMem).1
  | importing pendings =>
    rw [hStage] at hStep hKnown
    cases pendings with
    | nil =>
      cases hStep
      exact h.moveTo trivial
    | cons =>
      cases hStep
      exact h.moveTo hKnown
  | checkingReceipt =>
    rw [hStage] at hStep hKnown
    dsimp only at hStep
    split at hStep
    next hReceipt =>
      cases hStep
      exact h.moveTo ⟨hKnown, hReceipt⟩
    · cases hStep
      exact h.moveTo ⟨rfl, hKnown⟩
  | marking pending rest =>
    rw [hStage] at hStep hKnown hUndisturbed
    have hRest : ∀ found ∈ rest, Spooled world found :=
      fun found hMem => hKnown.1 found (List.mem_cons_of_mem _ hMem)
    refine h.appendRecord hStep hUndisturbed rfl ?_ hRest hKnown.1
    intro eventId hSame
    cases hSame
    exact hKnown.2
  | retrying pending rest =>
    rw [hStage] at hStep hKnown hUndisturbed
    have hRest : ∀ found ∈ rest, Spooled world found :=
      fun found hMem => hKnown found (List.mem_cons_of_mem _ hMem)
    dsimp only at hStep
    split at hStep
    · cases hStep
      exact h.moveTo hRest
    next attemptNumber hDue =>
      have hApart := hUndisturbed (by rw [hDue]; rfl)
      refine h.appendRecord hStep hApart rfl ?_ hRest trivial
      exact fun _ hNever => nomatch hNever
  | listing =>
    rw [hStage] at hStep
    cases hStep
    refine h.moveTo (fun row hMem => ?_)
    have hRow : row ∈ world.incidents := by
      unfold dueIncidents at hMem
      exact (List.mem_filter.mp (List.mem_mergeSort.mp hMem)).1
    exact ⟨row, h.tallied.keyed.lookup_of_mem hRow, Or.inl rfl⟩
  | delivering due =>
    rw [hStage] at hStep hKnown
    cases due with
    | nil =>
      cases hStep
      exact h.moveTo trivial
    | cons row =>
      cases hStep
      refine h.moveTo ⟨fun found hMem => hKnown found (List.mem_cons_of_mem _ hMem), ?_⟩
      intro read hRead
      cases hRead
      exact hKnown row List.mem_cons_self
  | idle | committing =>
    rw [hStage] at hStep
    cases hStep

theorem AlertsHold.fail (hStep : world.fail caller = some after) : AlertsHold base after := by
  have hKnown := h.stages caller
  unfold AlertWorld.fail at hStep
  cases hStage : world.stage caller with
  | reading =>
    rw [hStage] at hStep hKnown
    cases hStep
    exact h.leave (WriteKnown.raised hKnown)
  | writing key write row | committing key write row written =>
    rw [hStage] at hStep hKnown
    cases hStep
    exact h.leave (WriteKnown.raised hKnown.1)
  | receipting =>
    rw [hStage] at hStep hKnown
    cases hStep
    exact h.leave hKnown.1.2
  | checkingReceipt =>
    rw [hStage] at hStep hKnown
    cases hStep
    exact h.leave hKnown
  | draining | listing =>
    rw [hStage] at hStep
    cases hStep
    exact h.leave trivial
  | idle | spooling | attempting | importing | marking | retrying | delivering =>
    rw [hStage] at hStep
    cases hStep

theorem AlertsHold.next {step : AlertStep Caller} (hUndisturbed : world.Undisturbed step)
    (hStep : world.next config step = some after) :
    AlertsHold base after := by
  cases step with
  | call caller call =>
    dsimp only [AlertWorld.next] at hStep
    split at hStep
    · cases hStep
      exact h.moveTo (stageKnown_start call)
    · cases hStep
  | statement => exact h.statement hUndisturbed hStep
  | fail => exact h.fail hStep
  | commit =>
    refine h.commit ?_ ?_ hStep
    · intro key message row written hStage
      dsimp only [AlertWorld.Undisturbed] at hUndisturbed
      rw [hStage] at hUndisturbed
      exact hUndisturbed.1 rfl
    · intro key pending rest row written hStage
      dsimp only [AlertWorld.Undisturbed] at hUndisturbed
      rw [hStage] at hUndisturbed
      exact hUndisturbed.2 pending rfl
  | appendHeartbeat append =>
    cases hStep
    have hTallied : AlertsTallied base
        { world with spool := appendLine append .heartbeatAttempt world.spool } :=
      h.tallied.append rfl (fun _ hNever => nomatch hNever) hUndisturbed
    exact ⟨hTallied, fun other =>
      StageKnown.kept (keptFor_append other hUndisturbed) (h.stages other)⟩
  | crash =>
    cases hStep
    exact ⟨{ h.tallied with }, fun _ => trivial⟩

end Steps

/-! ## Runs -/

section Runs

variable {Caller : Type}

/-- The tables and the spool before any call, with no two rows of one key and no two pending
records of one id. -/
structure AlertsStart (world : AlertWorld Caller) : Prop where
  idle : ∀ caller, world.stage caller = .idle
  keyed : Keyed AlertIncident.key world.incidents
  nodup : ((pendingIds (entriesOf world.spool)).map Prod.fst).Nodup
  reconciled : ∀ eventId, isReconciled (entriesOf world.spool) eventId = true →
    eventId ∈ world.receipts
  closed : ∀ row ∈ world.incidents, row.status ≠ .open_ →
    row.occurrenceCount ≤ world.settled row.key
  stored : world.stored = []
  running : world.stopped = false

/-- Every stored occurrence is counted once, on top of what was counted first; whatever the last
closing has not counted is open or pending; and no line of the spool has stopped a delivery. -/
structure AlertsCounted (base : AlertKey → Nat) (world : AlertWorld Caller) : Prop where
  once : ∀ key, world.counted key = base key + world.stored.count key
  raised : ∀ key, world.settled key < base key + world.stored.count key →
    (∃ row ∈ world.incident? key, row.status = .open_) ∨
      ∃ pending ∈ foldPendingAlerts (entriesOf world.spool), pending.key = key
  running : world.stopped = false

theorem AlertsStart.hold {world : AlertWorld Caller} (h : AlertsStart world) :
    AlertsHold world.counted world where
  tallied :=
    { h with
      counted := fun key => by
        rw [h.stored]
        rfl }
  stages := fun caller => by
    rw [h.idle caller]
    trivial

section

variable {base : AlertKey → Nat} {world : AlertWorld Caller} (h : AlertsHold base world)
include h

theorem AlertsHold.pending {key : AlertKey}
    (hSpooled : 0 < spooledCount world.isImported key (entriesOf world.spool)) :
    ∃ pending ∈ foldPendingAlerts (entriesOf world.spool), pending.key = key := by
  have hSome : ((pendingIds (entriesOf world.spool)).filter
      (fun pending => pending.2 = key && !world.isImported pending.1)) ≠ [] := by
    intro hNone
    unfold spooledCount at hSpooled
    rw [hNone] at hSpooled
    exact Nat.lt_irrefl 0 hSpooled
  obtain ⟨found, hFound⟩ := List.exists_mem_of_ne_nil _ hSome
  obtain ⟨hMem, hOpen⟩ := List.mem_filter.mp hFound
  obtain ⟨hKey, hFresh⟩ := Bool.and_eq_true_iff.mp hOpen
  have hReconciled : isReconciled (entriesOf world.spool) found.1 = false := by
    rw [Bool.eq_false_iff]
    intro hMarked
    have hImported : world.isImported found.1 = true :=
      decide_eq_true (h.tallied.reconciled found.1 hMarked)
    rw [hImported] at hFresh
    cases hFresh
  obtain ⟨pending, hPending, _, hSame⟩ := exists_folded hMem hReconciled
  exact ⟨pending, hPending, hSame.trans (of_decide_eq_true hKey)⟩

theorem AlertsHold.alertsCounted : AlertsCounted base world where
  once := h.tallied.counted
  raised := by
    intro key hOwed
    rw [← h.tallied.counted key] at hOwed
    unfold AlertWorld.counted AlertWorld.rowCount at hOwed
    cases hRow : world.incident? key with
    | none =>
      rw [hRow] at hOwed
      refine Or.inr (h.pending ?_)
      dsimp only [Option.elim] at hOwed
      omega
    | some row =>
      by_cases hOpen : row.status = .open_
      · exact Or.inl ⟨row, rfl, hOpen⟩
      · rw [hRow] at hOwed
        have hClosed := h.tallied.closed row (lookup_mem hRow) hOpen
        rw [lookup_key hRow] at hClosed
        refine Or.inr (h.pending ?_)
        dsimp only [Option.elim] at hOwed
        omega
  running := h.tallied.running

end

variable [DecidableEq Caller]

/-- A run of the callers. -/
def AlertRun (config : AlertingConfig) (met : AlertWorld Caller → AlertStep Caller → Prop) :
    AlertWorld Caller → AlertWorld Caller → Prop :=
  RunWith (fun before step after => AlertWorld.next config before step = some after) met

/-- In every undisturbed run no alert is lost, none is counted twice, and no line of the spool
stops a delivery. -/
theorem alerts_counted_once {config : AlertingConfig} {start world : AlertWorld Caller}
    (hStart : AlertsStart start)
    (hRun : AlertRun config (fun before step => before.Undisturbed step) start world) :
    AlertsCounted start.counted world := by
  have hHold : AlertsHold start.counted world :=
    RunWith.invariant hRun hStart.hold
      (fun _ _ _ hBefore hUndisturbed hStep => hBefore.next hUndisturbed hStep)
  exact hHold.alertsCounted

end Runs

/-! ## Runs of two callers -/

section TwoCallers

def outageKey : AlertKey := { alertType := .marketDataOutage, dedupeKey := "feed" }

def alertingConfig : AlertingConfig :=
  { retryBase := 30, acknowledgementTimeout := 300, escalationEveryAttempts := 2,
    maxEscalationLevel := 3 }

def sinkOutage (caller : Bool) : AlertStep Bool :=
  .call caller (.sink .marketDataOutage "feed" "down")

def sinkOutageOffline (caller : Bool) : AlertStep Bool :=
  .call caller (.sinkOffline .marketDataOutage "feed" "down" false)

/-- The read and the write of one raise, and its commit. -/
def raiseSteps (caller : Bool) : List (AlertStep Bool) :=
  [.statement caller {}, .statement caller {}, .commit caller true]

/-- The spool is folded; its pending alert is found without a receipt, imported and marked. -/
def drainSteps (caller : Bool) : List (AlertStep Bool) :=
  [.call caller .processDue] ++ List.replicate 6 (.statement caller {}) ++
    [.commit caller true, .statement caller {}]

/-- One alert is raised twice, spooled once, imported, delivered and acknowledged. -/
def alertedSteps : List (AlertStep Bool) :=
  [sinkOutage false] ++ raiseSteps false ++ [sinkOutage false] ++ raiseSteps false ++
    [sinkOutageOffline true, .statement true { freshId := "p1" }] ++ drainSteps true ++
    [.statement true {}, .statement true {}, .statement true {}, .statement true {},
      .commit true true, .statement true {}] ++
    [.call false (.acknowledge outageKey "operator")] ++ raiseSteps false

theorem alerts_counted_alerted : ∃ world : AlertWorld Bool,
    AlertRun alertingConfig (fun before step => before.Undisturbed step) {} world ∧
      world.rowCount outageKey = 3 ∧ world.settled outageKey = 3 ∧
        AlertsCounted (AlertWorld.counted ({} : AlertWorld Bool)) world := by
  have hEnd : (runLabels (AlertWorld.next alertingConfig)
      (fun before step => decide (before.Undisturbed step)) alertedSteps {}).map
        (fun world => (world.rowCount outageKey, world.settled outageKey)) = some (3, 3) := by
    decide +kernel
  obtain ⟨world, hWorld, hCounts⟩ := Option.map_eq_some_iff.mp hEnd
  have hRun : AlertRun alertingConfig (fun before step => before.Undisturbed step) {} world :=
    RunWith.of_labels (fun _ _ _ hNext => hNext) (fun _ _ => of_decide_eq_true) hWorld
  have hStart : AlertsStart ({} : AlertWorld Bool) :=
    { idle := fun _ => rfl
      keyed := List.nodup_nil
      nodup := List.nodup_nil
      reconciled := fun _ hNever => nomatch hNever
      closed := fun _ hNever => nomatch hNever
      stored := rfl
      running := rfl }
  exact ⟨world, hRun, congrArg Prod.fst hCounts, congrArg Prod.snd hCounts,
    alerts_counted_once hStart hRun⟩

/-- Two raises read the same version, and the second update matches no row. -/
def racingSteps : List (AlertStep Bool) :=
  [sinkOutage false] ++ raiseSteps false ++
    [sinkOutage false, sinkOutage true, .statement false {}, .statement true {},
      .statement false {}, .commit false true, .statement true {}, .commit true true]

/-- A crash in the middle of an append leaves a fragment behind an incident that is due. -/
def tornSteps : List (AlertStep Bool) :=
  [sinkOutage false] ++ raiseSteps false ++
    [.appendHeartbeat .part, .crash, .call false .processDue, .statement false {}]

/-- An occurrence is appended between the fold and the reconciliation of its pending alert. -/
def lateSteps : List (AlertStep Bool) :=
  [sinkOutageOffline false, .statement false { freshId := "p1" }, .call true .processDue,
    .statement true {}, sinkOutageOffline false, .statement false { freshId := "p2" }] ++
    List.replicate 5 (.statement true {}) ++ [.commit true true, .statement true {}]

/-- A commit takes effect and raises all the same, so the occurrence is spooled as well. -/
def unconfirmedSteps : List (AlertStep Bool) :=
  [sinkOutage false, .statement false {}, .statement false {}, .commit false false,
    .statement false { freshId := "p1" }]

/-- An append goes on behind a record that lacks its end of line. -/
def unendedSteps : List (AlertStep Bool) :=
  [sinkOutageOffline false,
    .statement false { freshId := "p1", append := .unended, appendRaises := true },
    .appendHeartbeat .whole]

theorem alerts_not_counted :
    [racingSteps, tornSteps, lateSteps, unconfirmedSteps, unendedSteps].Forall fun steps =>
      ∃ world : AlertWorld Bool, AlertRun alertingConfig (fun _ _ => True) {} world ∧
        runLabels (AlertWorld.next alertingConfig) (fun _ _ => true) steps {} = some world ∧
          ¬ AlertsCounted (AlertWorld.counted ({} : AlertWorld Bool)) world := by
  have hEnds : ∀ steps ∈ [racingSteps, tornSteps, lateSteps, unconfirmedSteps, unendedSteps],
      (runLabels (AlertWorld.next alertingConfig) (fun _ _ => true) steps {}).map
        (fun world => decide (world.counted outageKey = world.stored.count outageKey ∧
          world.stopped = false)) = some false := by
    decide +kernel
  apply List.forall_iff_forall_mem.mpr
  intro steps hSteps
  obtain ⟨world, hWorld, hLost⟩ := Option.map_eq_some_iff.mp (hEnds steps hSteps)
  refine ⟨world, RunWith.of_labels (fun _ _ _ hNext => hNext) (fun _ _ _ => trivial) hWorld,
    hWorld, ?_⟩
  intro hCounted
  have hOnce : world.counted outageKey = world.stored.count outageKey :=
    (hCounted.once outageKey).trans (Nat.zero_add _)
  exact of_decide_eq_false hLost ⟨hOnce, hCounted.running⟩

end TwoCallers

end QuantApp.Services
