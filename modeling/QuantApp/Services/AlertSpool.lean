import QuantApp.Core.Runtime
import QuantApp.Verified.AppendedLines
import Mathlib.Data.List.Nodup

/-!
# The spool of critical alerts

`LocalAlertSpool` of `src/services/external_alerting.py`: the records of the append-only file,
and the pending alerts that a reader folds them into.  A pending alert counts itself and the
occurrences that name it, until a record marks it as reconciled.
-/

namespace QuantApp.Services

open Core Verified

inductive CriticalAlertType
  | marketDataOutage
  | staleCriticalSymbol
  | executionLeaseLost
  | accountReconciliationFailed
  | unknownSubmissionState
  | discoveredExternalOrder
  | cancelConfirmationTimeout
  | emergencyLiquidationAttempted
  | databaseUnavailable
  | applicationHeartbeatMissing
  deriving DecidableEq, Repr

/-- `alert_type` and `dedupe_key`. -/
structure AlertKey where
  alertType : CriticalAlertType
  dedupeKey : String
  deriving DecidableEq, Repr

/-- What the import reads of an `ALERT_DELIVERY_ATTEMPT`. -/
structure SpoolAttempt where
  attemptNumber : Nat
  escalationLevel : Nat
  nextAttemptAt : Instant
  deriving DecidableEq, Repr

inductive SpoolRecord
  | alertPending (eventId : String) (key : AlertKey) (message : String)
  | alertOccurrence (pendingEventId message : String)
  | alertDeliveryAttempt (pendingEventId : String) (attempt : SpoolAttempt)
  | alertReconciled (pendingEventId : String)
  | heartbeatAttempt
  deriving DecidableEq, Repr

abbrev SpoolFile := List (Line SpoolRecord)

/-- A folded pending alert. -/
structure PendingAlert where
  eventId : String
  key : AlertKey
  message : String
  occurrenceCount : Nat
  deliveryAttempts : List SpoolAttempt
  deriving Repr

/-! ## The fold -/

section Fold

variable (entries : List SpoolRecord)

def isReconciled (eventId : String) : Bool :=
  entries.any (fun entry => entry = .alertReconciled eventId)

/-- The messages of the occurrences of a pending alert. -/
def occurrenceMessages (eventId : String) : List String :=
  entries.filterMap (fun entry =>
    match entry with
    | .alertOccurrence pendingEventId message =>
      if pendingEventId = eventId then some message else none
    | _ => none)

def deliveryAttempts (eventId : String) : List SpoolAttempt :=
  entries.filterMap (fun entry =>
    match entry with
    | .alertDeliveryAttempt pendingEventId attempt =>
      if pendingEventId = eventId then some attempt else none
    | _ => none)

/-- A pending record with the records that name it; an empty message does not replace the
one before. -/
def foldPending (eventId : String) (key : AlertKey) (message : String) : PendingAlert :=
  let latest := (occurrenceMessages entries eventId).getLast?.getD ""
  { eventId := eventId
    key := key
    message := if latest = "" then message else latest
    occurrenceCount := 1 + (occurrenceMessages entries eventId).length
    deliveryAttempts := deliveryAttempts entries eventId }

def foldPendingAlerts : List PendingAlert :=
  entries.filterMap (fun entry =>
    match entry with
    | .alertPending eventId key message =>
      if isReconciled entries eventId then none
      else some (foldPending entries eventId key message)
    | _ => none)

end Fold

/-- `pending_alerts`: none where a line cannot be read. -/
def pendingAlerts (file : SpoolFile) : Option (List PendingAlert) :=
  (readLines file).map foldPendingAlerts

/-- What `record_alert_occurrence` appends: an occurrence of the first pending alert of the key,
or a new pending alert. -/
def occurrenceRecord (entries : List SpoolRecord) (key : AlertKey) (message freshId : String) :
    SpoolRecord :=
  match (foldPendingAlerts entries).find? (fun pending => pending.key = key) with
  | some existing => .alertOccurrence existing.eventId message
  | none => .alertPending freshId key message

/-! ## What the records count -/

/-- The pending records, by their ids and keys. -/
def pendingIds (entries : List SpoolRecord) : List (String × AlertKey) :=
  entries.filterMap (fun entry =>
    match entry with
    | .alertPending eventId key _ => some (eventId, key)
    | _ => none)

def pendingCount (entries : List SpoolRecord) (eventId : String) : Nat :=
  1 + (occurrenceMessages entries eventId).length

/-- The occurrences of a key in the pending records that are not imported yet. -/
def spooledCount (imported : String → Bool) (key : AlertKey) (entries : List SpoolRecord) : Nat :=
  (((pendingIds entries).filter (fun pending => pending.2 = key && !imported pending.1)).map
    (fun pending => pendingCount entries pending.1)).sum

section Counts

variable {entries : List SpoolRecord} {eventId : String} {key : AlertKey}
  {imported : String → Bool}

theorem mem_foldPendingAlerts {pending : PendingAlert} (h : pending ∈ foldPendingAlerts entries) :
    (pending.eventId, pending.key) ∈ pendingIds entries ∧
      isReconciled entries pending.eventId = false ∧
        pending.occurrenceCount = pendingCount entries pending.eventId := by
  obtain ⟨entry, hEntry, hFolded⟩ := List.mem_filterMap.mp h
  cases entry with
  | alertPending =>
    dsimp only at hFolded
    split at hFolded
    next => cases hFolded
    next hOpen =>
      cases hFolded
      exact ⟨List.mem_filterMap.mpr ⟨_, hEntry, rfl⟩, Bool.not_eq_true _ ▸ hOpen, rfl⟩
  | _ => cases hFolded

/-- A pending record that is not reconciled is folded into a pending alert. -/
theorem exists_folded (h : (eventId, key) ∈ pendingIds entries)
    (hOpen : isReconciled entries eventId = false) :
    ∃ pending ∈ foldPendingAlerts entries, pending.eventId = eventId ∧ pending.key = key := by
  obtain ⟨entry, hEntry, hPending⟩ := List.mem_filterMap.mp h
  cases entry with
  | alertPending found foundKey message =>
    cases hPending
    refine ⟨foldPending entries eventId key message, List.mem_filterMap.mpr ⟨_, hEntry, ?_⟩,
      rfl, rfl⟩
    dsimp only
    rw [hOpen]
    rfl
  | _ => cases hPending

/-- A record that is neither a pending one nor an occurrence counts nothing. -/
def SpoolRecord.isCounted : SpoolRecord → Bool
  | .alertPending _ _ _ | .alertOccurrence _ _ => true
  | _ => false

theorem occurrenceMessages_append (eventId : String) (more : List SpoolRecord) :
    occurrenceMessages (entries ++ more) eventId =
      occurrenceMessages entries eventId ++ occurrenceMessages more eventId :=
  List.filterMap_append

theorem pendingIds_append (more : List SpoolRecord) :
    pendingIds (entries ++ more) = pendingIds entries ++ pendingIds more :=
  List.filterMap_append

theorem spooledCount_append_other {entry : SpoolRecord} (h : entry.isCounted = false) :
    spooledCount imported key (entries ++ [entry]) = spooledCount imported key entries := by
  have hIds : pendingIds [entry] = [] := by
    cases entry with
    | alertPending => cases h
    | _ => rfl
  have hMessages : ∀ eventId, occurrenceMessages [entry] eventId = [] := by
    intro eventId
    cases entry with
    | alertOccurrence => cases h
    | _ => rfl
  unfold spooledCount pendingCount
  rw [pendingIds_append, hIds, List.append_nil]
  simp only [occurrenceMessages_append, hMessages, List.append_nil]

/-- A new pending record counts one occurrence of its key. -/
theorem spooledCount_append_pending {message : String} (hFresh : imported eventId = false)
    (hOwn : occurrenceMessages entries eventId = []) (other : AlertKey) :
    spooledCount imported other (entries ++ [.alertPending eventId key message]) =
      spooledCount imported other entries + (if other = key then 1 else 0) := by
  have hMessages : ∀ found,
      occurrenceMessages [.alertPending eventId key message] found = [] := fun _ => rfl
  have hIds : pendingIds [.alertPending eventId key message] = [(eventId, key)] := rfl
  unfold spooledCount pendingCount
  rw [pendingIds_append, hIds, List.filter_append]
  simp only [occurrenceMessages_append, hMessages, List.append_nil, List.map_append,
    List.sum_append]
  congr 1
  by_cases hKey : other = key
  · subst hKey
    simp [hFresh, hOwn]
  · simp [hKey, Ne.symm hKey]

/-- The sum over pending records with distinct ids grows by one where one of them does. -/
theorem sum_map_update {ids : List (String × AlertKey)} {count : String → Nat}
    (hNodup : (ids.map Prod.fst).Nodup) {eventId : String} {key : AlertKey}
    (hMem : (eventId, key) ∈ ids) :
    (ids.map (fun pending => count pending.1 + if pending.1 = eventId then 1 else 0)).sum =
      (ids.map (fun pending => count pending.1)).sum + 1 := by
  induction ids with
  | nil => cases hMem
  | cons first rest ih =>
    obtain ⟨hFirst, hRest⟩ := List.nodup_cons.mp hNodup
    rw [List.map_cons, List.map_cons, List.sum_cons, List.sum_cons]
    rcases List.mem_cons.mp hMem with rfl | hMem
    · have hTail : rest.map (fun pending => count pending.1 +
          if pending.1 = eventId then 1 else 0) = rest.map (fun pending => count pending.1) := by
        refine List.map_congr_left (fun pending hPending => ?_)
        have hNe : ¬ pending.1 = eventId := fun hEq =>
          hFirst (List.mem_map.mpr ⟨pending, hPending, hEq⟩)
        rw [if_neg hNe, Nat.add_zero]
      rw [hTail, if_pos rfl]
      omega
    · have hNe : ¬ first.1 = eventId := fun hEq =>
        hFirst (List.mem_map.mpr ⟨(eventId, key), hMem, hEq.symm⟩)
      rw [if_neg hNe, ih hRest hMem]
      omega

variable (hNodup : ((pendingIds entries).map Prod.fst).Nodup)
  (hMem : (eventId, key) ∈ pendingIds entries) (hFresh : imported eventId = false)
  (other : AlertKey)
include hNodup hMem hFresh other

/-- An occurrence of a pending alert that is not imported counts one of its key. -/
theorem spooledCount_append_occurrence {message : String} :
    spooledCount imported other (entries ++ [.alertOccurrence eventId message]) =
      spooledCount imported other entries + (if other = key then 1 else 0) := by
  have hIds : pendingIds [.alertOccurrence eventId message] = [] := rfl
  have hCount : ∀ found, pendingCount (entries ++ [.alertOccurrence eventId message]) found =
      pendingCount entries found + if found = eventId then 1 else 0 := by
    intro found
    unfold pendingCount
    rw [occurrenceMessages_append, List.length_append]
    by_cases hFound : found = eventId
    · subst hFound
      simp [occurrenceMessages]
      omega
    · simp [occurrenceMessages, hFound, Ne.symm hFound]
  unfold spooledCount
  rw [pendingIds_append, hIds, List.append_nil]
  simp only [hCount]
  by_cases hKey : other = key
  · subst hKey
    rw [if_pos rfl]
    have hCovered : (eventId, other) ∈ (pendingIds entries).filter
        (fun pending => pending.2 = other && !imported pending.1) :=
      List.mem_filter.mpr ⟨hMem, by simp [hFresh]⟩
    exact sum_map_update (hNodup.sublist (List.Sublist.map _ List.filter_sublist)) hCovered
  · rw [if_neg hKey, Nat.add_zero]
    congr 1
    refine List.map_congr_left (fun pending hPending => ?_)
    obtain ⟨hPendingMem, hCovered⟩ := List.mem_filter.mp hPending
    have hNe : ¬ pending.1 = eventId := by
      intro hEq
      have hSame : pending = (eventId, key) := List.inj_on_of_nodup_map hNodup hPendingMem hMem hEq
      rw [hSame] at hCovered
      simp [Ne.symm hKey] at hCovered
    rw [if_neg hNe, Nat.add_zero]

/-- Importing a pending alert takes what it counts from its key. -/
theorem spooledCount_import :
    spooledCount (fun found => imported found || found = eventId) other entries +
        (if other = key then pendingCount entries eventId else 0) =
      spooledCount imported other entries := by
  unfold spooledCount
  generalize pendingIds entries = ids at hNodup hMem
  induction ids with
  | nil => cases hMem
  | cons first rest ih =>
    obtain ⟨hFirst, hRest⟩ := List.nodup_cons.mp hNodup
    rw [List.filter_cons, List.filter_cons]
    rcases List.mem_cons.mp hMem with rfl | hMem
    · have hTail : rest.filter (fun pending => pending.2 = other &&
          !(imported pending.1 || pending.1 = eventId)) =
          rest.filter (fun pending => pending.2 = other && !imported pending.1) := by
        refine List.filter_congr (fun pending hPending => ?_)
        have hNe : ¬ pending.1 = eventId := fun hEq =>
          hFirst (List.mem_map.mpr ⟨pending, hPending, hEq⟩)
        simp [hNe]
      rw [hTail]
      by_cases hKey : other = key
      · subst hKey
        simp [hFresh]
        omega
      · simp [hKey, Ne.symm hKey]
    · have hNe : ¬ first.1 = eventId := fun hEq =>
        hFirst (List.mem_map.mpr ⟨(eventId, key), hMem, hEq.symm⟩)
      have hTail := ih hRest hMem
      have hHead : (first.2 = other && !(imported first.1 || first.1 = eventId)) =
          (first.2 = other && !imported first.1) := by simp [hNe]
      rw [hHead]
      split
      · rw [List.map_cons, List.map_cons, List.sum_cons, List.sum_cons]
        omega
      · exact hTail

end Counts

end QuantApp.Services
