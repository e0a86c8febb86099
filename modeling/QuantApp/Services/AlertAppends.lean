import QuantApp.Services.AlertSteps

/-!
# What the appends keep

A record that goes behind whole lines takes nothing from the file.  An occurrence adds one to
its key, any other record adds nothing, and only an imported alert is marked as reconciled.
-/

namespace QuantApp.Services

open Core Verified

variable {stored : List AlertKey} {spool : SpoolFile} {message : String} {moment : AlertMoment}

section Appends

variable {Caller : Type} {base : AlertKey → Nat} {before after world : AlertWorld Caller}
  {caller : Caller} {key : AlertKey} {record : SpoolRecord} {outcome : AppendOutcome}

/-! ## Records are appended -/

theorem AlertsTallied.appended (h : AlertsTallied base world)
    (hNodup : ((pendingIds (entriesOf spool)).map Prod.fst).Nodup)
    (hReconciled : ∀ eventId, isReconciled (entriesOf spool) eventId = true →
      eventId ∈ world.receipts)
    (hCount : ∀ key, spooledCount world.isImported key (entriesOf spool) + world.stored.count key =
      spooledCount world.isImported key (entriesOf world.spool) + stored.count key) :
    AlertsTallied base { world with spool := spool, stored := stored } :=
  { h with
    nodup := hNodup
    reconciled := hReconciled
    counted := fun key => by
      have hBefore := h.counted key
      have hSpooled := hCount key
      show world.rowCount key + spooledCount world.isImported key (entriesOf spool) = _
      unfold AlertWorld.counted at hBefore
      dsimp only
      omega }

theorem isReconciled_append {entries : List SpoolRecord} {eventId : String}
    (h : isReconciled (entries ++ [record]) eventId = true) :
    isReconciled entries eventId = true ∨ record = .alertReconciled eventId := by
  unfold isReconciled at h ⊢
  rw [List.any_append, Bool.or_eq_true] at h
  refine h.imp_right (fun hLast => ?_)
  simpa using hLast

/-- A record that counts nothing; a reconciliation names an imported alert. -/
theorem AlertsTallied.append (h : AlertsTallied base world) (hOther : record.isCounted = false)
    (hReconciled : ∀ eventId, record = .alertReconciled eventId → eventId ∈ world.receipts)
    (hApart : AppendsApart outcome world.spool) :
    AlertsTallied base { world with spool := appendLine outcome record world.spool } := by
  rcases entriesOf_appendLine_cases outcome record hApart with hSame | hMore
  · refine h.appended ?_ ?_ ?_ <;> rw [hSame]
    · exact h.nodup
    · exact h.reconciled
    · exact fun _ => rfl
  · refine h.appended ?_ ?_ ?_ <;> rw [hMore]
    · have hIds : pendingIds [record] = [] := by
        cases record with
        | alertPending => cases hOther
        | _ => rfl
      rw [pendingIds_append, hIds, List.append_nil]
      exact h.nodup
    · intro eventId hFound
      rcases isReconciled_append hFound with hBefore | hRecord
      · exact h.reconciled eventId hBefore
      · exact hReconciled eventId hRecord
    · intro key
      rw [spooledCount_append_other hOther]

theorem keptFor_append {stage : Caller → AlertStage} (other : Caller)
    (hApart : AppendsApart outcome world.spool) :
    KeptFor other world
      { world with
        spool := appendLine outcome record world.spool, stage := stage, stored := stored } where
  spooled := fun pending h => by
    rcases entriesOf_appendLine_cases outcome record hApart with hSame | hMore
    · rwa [hSame]
    · rw [hMore, pendingIds_append]
      exact List.mem_append_left _ h
  rows := fun _ _ h => h
  held := fun _ h => ⟨h, rfl⟩
  receipts := fun _ h => h
  unreceipted := fun _ _ _ _ h => h

/-! ## An occurrence is recorded -/

theorem AlertsTallied.occurrence {freshId : String} (h : AlertsTallied base world)
    (hUnused : world.UnusedId freshId)
    (hOpen : ∀ pending ∈ (foldPendingAlerts (entriesOf world.spool)).find?
      (fun pending => pending.key = key), pending.eventId ∉ world.receipts)
    (hSpool : entriesOf spool = entriesOf world.spool ++
      [occurrenceRecord (entriesOf world.spool) key message freshId]) :
    AlertsTallied base { world with spool := spool, stored := world.stored ++ [key] } := by
  obtain ⟨hReceipt, hId, hOccurrences⟩ := hUnused
  have hStored : ∀ other, (world.stored ++ [key]).count other =
      world.stored.count other + (if other = key then 1 else 0) := by
    intro other
    rw [List.count_append, List.count_singleton]
    by_cases hOther : other = key
    · simp [hOther]
    · simp [hOther, Ne.symm hOther]
  unfold occurrenceRecord at hSpool
  split at hSpool
  next existing hFound =>
    obtain ⟨hMem, _, _⟩ := mem_foldPendingAlerts (List.mem_of_find?_eq_some hFound)
    have hFirst := List.find?_some hFound
    have hKey : existing.key = key := of_decide_eq_true hFirst
    rw [hKey] at hMem
    have hFresh : world.isImported existing.eventId = false :=
      decide_eq_false (hOpen existing hFound)
    refine h.appended ?_ ?_ ?_ <;> rw [hSpool]
    · rw [pendingIds_append]
      exact (List.append_nil _).symm ▸ h.nodup
    · intro eventId hReconciled
      rcases isReconciled_append hReconciled with hBefore | hNever
      · exact h.reconciled eventId hBefore
      · cases hNever
    · intro other
      rw [spooledCount_append_occurrence h.nodup hMem hFresh other, hStored]
      omega
  next =>
    refine h.appended ?_ ?_ ?_ <;> rw [hSpool]
    · rw [pendingIds_append, List.map_append]
      refine List.nodup_append.mpr ⟨h.nodup, List.nodup_singleton _, ?_⟩
      rintro found hFound other hOther rfl
      rw [List.mem_singleton.mp hOther] at hFound
      exact hId hFound
    · intro eventId hReconciled
      rcases isReconciled_append hReconciled with hBefore | hNever
      · exact h.reconciled eventId hBefore
      · cases hNever
    · intro other
      rw [spooledCount_append_pending (decide_eq_false hReceipt) hOccurrences other, hStored]
      omega

/-! ## What the caller does next -/

variable [DecidableEq Caller]

variable (h : AlertsHold base world)
include h

theorem AlertsHold.append {stage : AlertStage} (hTallied : AlertsTallied base
      { world with spool := appendLine outcome record world.spool, stored := stored })
    (hApart : AppendsApart outcome world.spool) (hStage : StageKnown world caller stage) :
    AlertsHold base
      { world.moveTo caller stage with
        spool := appendLine outcome record world.spool, stored := stored } := by
  have hMoved := h.moveTo hStage
  exact ⟨{ hTallied with }, fun other =>
    StageKnown.kept (keptFor_append other hApart) (hMoved.stages other)⟩

theorem AlertsHold.appendRecord {returned raised : AlertStage}
    (hStep : world.appendRecord caller moment record returned raised = some after)
    (hApart : AppendsApart moment.append world.spool) (hOther : record.isCounted = false)
    (hReconciled : ∀ eventId, record = .alertReconciled eventId → eventId ∈ world.receipts)
    (hReturned : StageKnown world caller returned) (hRaised : StageKnown world caller raised) :
    AlertsHold base after := by
  unfold AlertWorld.appendRecord at hStep
  split at hStep
  · cases hStep
    refine h.append (h.tallied.append hOther hReconciled hApart) hApart ?_
    split
    · exact hRaised
    · exact hReturned
  · cases hStep

theorem AlertsHold.recordOccurrence {deliverDirectly : Bool}
    (hUndisturbed : (readLines world.spool).isSome = true →
      AppendsApart moment.append world.spool ∧ (moment.append.isRecord = true →
      ∀ pending ∈ (foldPendingAlerts (entriesOf world.spool)).find? (fun pending => pending.key =
      key), pending.eventId ∉ world.receipts))
    (hStep : world.recordOccurrence caller moment key message deliverDirectly = some after) :
    AlertsHold base after := by
  unfold AlertWorld.recordOccurrence at hStep
  split at hStep
  next =>
    cases hStep
    exact h.moveTo trivial
  next entries hRead =>
    have hEntries := entriesOf_of_read hRead
    subst hEntries
    obtain ⟨hKept, hOpen⟩ := hUndisturbed (by rw [hRead]; rfl)
    split at hStep
    next hMoment =>
      cases hStep
      have hAppended := entriesOf_appendLine_of_read
        (occurrenceRecord (entriesOf world.spool) key message moment.freshId) hRead hKept
      refine h.append ?_ hKept ?_
      · split at hAppended
        next hRecord =>
          rw [if_pos hRecord]
          exact h.tallied.occurrence hMoment.1 (hOpen hRecord) hAppended
        next hLost =>
          rw [if_neg hLost]
          rw [List.append_nil] at hAppended
          refine h.tallied.appended ?_ ?_ ?_ <;> rw [hAppended]
          · exact h.tallied.nodup
          · exact h.tallied.reconciled
          · exact fun _ => rfl
      · split <;> trivial
    next => cases hStep

end Appends

end QuantApp.Services
