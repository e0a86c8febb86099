import QuantApp.Services.PartialExit
import QuantApp.Services.StopChangeCoordinator
import QuantApp.Verified.LabelledRuns

/-!
# Requests under the coordinator

While the lock of a card is free, the coordinator holds the outstanding request of the card and
no other.  An overlay lays it on every object in an open position that has not carried it, unless
the object has another pending stop or its own stop happens to be the requested one; it leaves
an object alone that has carried the request, as long as the stop it was acknowledged with is
still that of the object.
-/

namespace QuantApp.Services

open Core Verified

/-! ## Entries of the coordinator -/

namespace StopChangeCoordinator

variable {coordinator : StopChangeCoordinator} {card : TradeCardState}
  {change : CoordinatedStopChange}

/-- What `reconcile_durable` leaves of the entry of its card. -/
def reconciled (card : TradeCardState) (change : CoordinatedStopChange) :
    Option CoordinatedStopChange :=
  if card.pendingStop.commandId = change.commandId then some change
  else if change.matchesActive card ∨ change.supersededBy card then none
  else some change

theorem get?_reconcileDurable (key : CardKey) :
    (coordinator.reconcileDurable card).1.get? key =
      if key = card.cardKey then (coordinator.get? key).bind (reconciled card)
      else coordinator.get? key := by
  by_cases hKey : key = card.cardKey
  · rw [if_pos hKey, hKey]
    unfold reconcileDurable
    cases hEntry : coordinator.get? card.cardKey with
    | none => exact hEntry
    | some =>
      simp only [Option.bind_some, reconciled]
      split
      · exact hEntry
      · split
        · rw [Dictionary.get?_erase, if_pos rfl]
        · exact hEntry
  · rw [if_neg hKey]
    unfold reconcileDurable
    split
    · rfl
    · split
      · rfl
      · split
        · rw [Dictionary.get?_erase, if_neg hKey]
        · rfl

/-! ### One overlay after another -/

variable {pending later other : StopChangeCoordinator} {cards : List TradeCardState}

theorem get?_of_overlayCards {key : CardKey} {change : CoordinatedStopChange}
    (h : (overlayCards pending coordinator cards).1.get? key = some change) :
    coordinator.get? key = some change := by
  induction cards generalizing coordinator with
  | nil => exact h
  | cons card cards ih =>
    have hFirst : (overlayCard pending coordinator card).1.get? key = some change := ih h
    unfold overlayCard at hFirst
    have hRetired : (coordinator.reconcileDurable card).1.get? key = some change →
        coordinator.get? key = some change := by
      rw [get?_reconcileDurable]
      split
      · intro hLeft
        obtain ⟨found, hFound, hLeft⟩ := Option.bind_eq_some_iff.mp hLeft
        unfold reconciled at hLeft
        grind
      · exact id
    grind

theorem overlayCard_cardKey : (overlayCard pending coordinator card).2.cardKey = card.cardKey := by
  unfold overlayCard
  repeat' split
  all_goals rfl

/-- Whatever the coordinators have become in between: a card that an overlay has gone over is
left alone by an overlay with some of the same entries. -/
theorem overlayCard_again
    (h : ∀ change, later.get? card.cardKey = some change →
      pending.get? card.cardKey = some change) :
    (overlayCard later other (overlayCard pending coordinator card).2).2 =
      (overlayCard pending coordinator card).2 := by
  have hKey : (overlayCard pending coordinator card).2.cardKey = card.cardKey := overlayCard_cardKey
  cases hLater : later.get? card.cardKey with
  | none =>
    rw [overlayCard, hKey, hLater]
  | some change =>
    generalize hOnce : (overlayCard pending coordinator card).2 = once at hKey ⊢
    unfold overlayCard at hOnce ⊢
    rw [h change hLater] at hOnce
    rw [hKey, hLater]
    dsimp only at hOnce ⊢
    obtain rfl | rfl : once = change.applyTo card ∨ once = card := by grind
    · rw [if_pos (by rfl)]
      rfl
    · grind

theorem overlayCards_again
    (h : ∀ key change, later.get? key = some change → pending.get? key = some change) :
    (overlayCards later other (overlayCards pending coordinator cards).2).2 =
      (overlayCards pending coordinator cards).2 := by
  induction cards generalizing coordinator other with
  | nil => rfl
  | cons card cards ih =>
    show _ :: _ = _
    rw [overlayCard_again (h card.cardKey), ih]
    rfl

/-- Right after an overlay another one changes no card, whatever entries the first one has
retired and however many cards share a key. -/
theorem overlayPending_again (coordinator : StopChangeCoordinator) (cards : List TradeCardState) :
    (overlayPending (coordinator.overlayPending cards).1 (coordinator.overlayPending cards).2).2 =
      (coordinator.overlayPending cards).2 :=
  overlayCards_again fun _ _ => get?_of_overlayCards

end StopChangeCoordinator

namespace CoordinatedStopChange

variable {change : CoordinatedStopChange} {card : TradeCardState}

theorem fromCard_ok (h : fromCard card = .ok change) :
    change.cardKey = card.cardKey ∧ change.requestCardVersion = card.version ∧
      change.commandId = card.pendingStop.commandId ∧ change.commandId ≠ "" := by
  unfold fromCard at h
  split at h
  · cases h
  next hId =>
    split at h
    · cases h
    · cases h
    · rw [← Except.ok.inj h]
      exact ⟨rfl, rfl, rfl, hId⟩

@[simp] theorem applyTo_cardKey : (change.applyTo card).cardKey = card.cardKey := rfl

@[simp] theorem applyTo_version : (change.applyTo card).version = card.version := rfl

@[simp] theorem applyTo_pendingStop : (change.applyTo card).pendingStop = change.pendingStop := rfl

@[simp] theorem pendingStop_commandId : change.pendingStop.commandId = change.commandId := rfl

end CoordinatedStopChange

namespace Publication

/-- What the publication makes of the entry of its card. -/
def entry (publication : Publication) (entry : Option CoordinatedStopChange) :
    Option CoordinatedStopChange :=
  match publication with
  | .record card =>
    match CoordinatedStopChange.fromCard card with
    | .ok change => some change
    | .error _ => entry
  | .reconcile card => entry.bind (StopChangeCoordinator.reconciled card)

theorem get?_publish (publication : Publication) (coordinator : StopChangeCoordinator)
    (key : CardKey) :
    (publication.publish coordinator).get? key =
      if key = publication.card.cardKey then publication.entry (coordinator.get? key)
      else coordinator.get? key := by
  cases publication with
  | record card =>
    simp only [publish, entry, Publication.card, StopChangeCoordinator.recordDurable]
    cases hChange : CoordinatedStopChange.fromCard card with
    | error => exact (ite_self _).symm
    | ok change =>
      have hKey := (CoordinatedStopChange.fromCard_ok hChange).1
      change (coordinator.set change.cardKey change).get? key =
        if key = card.cardKey then some change else coordinator.get? key
      rw [Dictionary.get?_set, hKey]
  | reconcile => exact StopChangeCoordinator.get?_reconcileDurable key

end Publication

/-! ## The invariant -/

namespace StopChangeWorld

variable {world : StopChangeWorld} {held : HeldCard} {key : CardKey}
  {change : CoordinatedStopChange}

/-- The entry of the card once the publication under way is made. -/
def settled (world : StopChangeWorld) (key : CardKey) : Option CoordinatedStopChange :=
  match world.locked.get? key with
  | none => world.coordinator.get? key
  | some publication => publication.entry (world.coordinator.get? key)

/-- An object is not newer than its row; one of the row's version has its pending stop or has
emptied it, and one not older than the newest request has carried it. -/
structure HeldKept (world : StopChangeWorld) (held : HeldCard) (row : TradeCardState) : Prop where
  version : held.card.version ≤ row.version
  current : held.card.version = row.version →
    held.card.pendingStop.commandId = row.pendingStop.commandId ∨
      held.card.pendingStop.commandId = ""
  carried : ∀ change, world.newest.get? held.key = some change →
    change.requestCardVersion ≤ held.card.version → held.carried = some change.requestCardVersion

/-- The outstanding request is the newest one and the one its row carries. -/
structure OutstandingKept (world : StopChangeWorld) (key : CardKey)
    (change : CoordinatedStopChange) : Prop where
  newest : world.newest.get? key = some change
  row : ∃ row, world.rows.get? key = some row ∧ row.pendingStop.commandId = change.commandId
  commandId : change.commandId ≠ ""

structure Kept (world : StopChangeWorld) : Prop where
  keyed : ∀ key row, world.rows.get? key = some row → row.cardKey = key
  locked : ∀ key publication, world.locked.get? key = some publication →
    publication.card.cardKey = key
  settled : ∀ key, world.settled key = world.outstanding.get? key
  outstanding : ∀ key change, world.outstanding.get? key = some change →
    world.OutstandingKept key change
  newest : ∀ key change, world.newest.get? key = some change →
    ∃ row, world.rows.get? key = some row ∧ change.requestCardVersion ≤ row.version
  held : ∀ held ∈ world.held, ∃ row, world.rows.get? held.key = some row ∧ world.HeldKept held row

theorem kept_start (cards : List TradeCardState) : (start cards).Kept := by
  constructor
  · intro key row hRow
    unfold start at hRow
    rw [Dictionary.get?_fileUnder] at hRow
    simpa using List.find?_some hRow
  · intro key publication hLocked
    cases hLocked
  · intro key
    rfl
  · intro key change hOutstanding
    cases hOutstanding
  · intro key change hNewest
    cases hNewest
  · intro held hHeld
    cases hHeld

/-! ## Commits and publications -/

/-- A row is committed under the free lock of its card, one version up. -/
structure Commits (world after : StopChangeWorld) (key : CardKey) (row written : TradeCardState)
    (publication : Publication) : Prop where
  free : key ∉ world.locked
  stored : world.rows.get? key = some row
  writtenKey : written.cardKey = key
  version : written.version = row.version + 1
  rows : after.rows = world.rows.set key written
  locked : after.locked = world.locked.set key publication
  published : publication.card = written
  coordinator : after.coordinator = world.coordinator
  newest : ∀ other, other ≠ key → after.newest.get? other = world.newest.get? other
  outstanding : ∀ other, other ≠ key → after.outstanding.get? other = world.outstanding.get? other

namespace Commits

variable {after : StopChangeWorld} {row written : TradeCardState} {publication : Publication}

variable (h : Commits world after key row written publication)
include h

theorem rows_of_ne {other : CardKey} (hOther : other ≠ key) :
    after.rows.get? other = world.rows.get? other := by
  rw [h.rows, Dictionary.get?_set_of_ne hOther]

theorem rows_self : after.rows.get? key = some written := by
  rw [h.rows, Dictionary.get?_set_self]

/-- An object that is not the one written is kept: its row has become newer. -/
theorem heldKept
    (hNewest : after.newest.get? key = world.newest.get? key ∨ ∃ change, after.newest.get? key =
      some change ∧ change.requestCardVersion = written.version)
    (hHeld : ∃ row, world.rows.get? held.key = some row ∧ world.HeldKept held row) :
    ∃ row, after.rows.get? held.key = some row ∧ after.HeldKept held row := by
  obtain ⟨old, hOld, hKept⟩ := hHeld
  by_cases hKey : held.key = key
  · rw [hKey, h.stored] at hOld
    obtain rfl := Option.some.inj hOld
    have hVersion := hKept.version
    have hNewer := h.version
    refine ⟨written, by rw [hKey, h.rows_self], ?_⟩
    constructor
    · omega
    · intro hSame
      omega
    · intro change hChange hOlder
      rw [hKey] at hChange
      rcases hNewest with hSame | ⟨newer, hNewerChange, hNewerVersion⟩
      · rw [hSame, ← hKey] at hChange
        exact hKept.carried change hChange hOlder
      · rw [hChange] at hNewerChange
        obtain rfl := Option.some.inj hNewerChange
        omega
  · refine ⟨old, (h.rows_of_ne hKey).trans hOld, hKept.version, hKept.current, ?_⟩
    intro change hChange
    rw [h.newest _ hKey] at hChange
    exact hKept.carried change hChange

theorem kept (hBefore : world.Kept)
    (hSettled : publication.entry (world.outstanding.get? key) = after.outstanding.get? key)
    (hOutstanding : ∀ change, after.outstanding.get? key = some change → after.newest.get? key =
      some change ∧ written.pendingStop.commandId = change.commandId ∧ change.commandId ≠ "")
    (hNewest : ∀ change, after.newest.get? key = some change →
      change.requestCardVersion ≤ written.version)
    (hHeld : ∀ held ∈ after.held, ∃ row, after.rows.get? held.key = some row ∧
      after.HeldKept held row) :
    after.Kept := by
  constructor
  · intro other stored hStored
    by_cases hOther : other = key
    · rw [hOther, h.rows_self] at hStored
      rw [← Option.some.inj hStored, hOther]
      exact h.writtenKey
    · rw [h.rows_of_ne hOther] at hStored
      exact hBefore.keyed other stored hStored
  · intro other publishing hPublishing
    rw [h.locked, Dictionary.get?_set] at hPublishing
    split at hPublishing
    next hOther =>
      rw [← Option.some.inj hPublishing, h.published, hOther]
      exact h.writtenKey
    · exact hBefore.locked other publishing hPublishing
  · intro other
    have hFree : world.locked.get? key = none := Dictionary.get?_eq_none.mpr h.free
    have hBeforeSettled := hBefore.settled other
    unfold settled at hBeforeSettled ⊢
    rw [h.locked, h.coordinator, Dictionary.get?_set]
    by_cases hOther : other = key
    · rw [if_pos hOther]
      rw [hOther, hFree] at hBeforeSettled
      dsimp only at hBeforeSettled ⊢
      rw [hOther, hBeforeSettled]
      exact hSettled
    · rw [if_neg hOther, h.outstanding other hOther]
      exact hBeforeSettled
  · intro other change hChange
    by_cases hOther : other = key
    · rw [hOther] at hChange ⊢
      obtain ⟨hNew, hRow, hId⟩ := hOutstanding change hChange
      exact ⟨hNew, ⟨written, h.rows_self, hRow⟩, hId⟩
    · rw [h.outstanding other hOther] at hChange
      have hKept := hBefore.outstanding other change hChange
      refine ⟨?_, ?_, hKept.commandId⟩
      · rw [h.newest other hOther]
        exact hKept.newest
      · rw [h.rows_of_ne hOther]
        exact hKept.row
  · intro other change hChange
    by_cases hOther : other = key
    · rw [hOther] at hChange ⊢
      exact ⟨written, h.rows_self, hNewest change hChange⟩
    · rw [h.newest other hOther] at hChange
      rw [h.rows_of_ne hOther]
      exact hBefore.newest other change hChange
  · exact hHeld

end Commits

theorem requestStop_guard {config : ExecutionConfig} {card next : TradeCardState}
    {request : StopRequest} (h : requestStop config card request = .ok next) :
    card.pendingStop.commandId = "" := by
  obtain ⟨_, hGuard, _⟩ := bind_eq_ok.mp h
  unfold requireStopActionNotConflicted at hGuard
  by_contra hPending
  dsimp only at hGuard
  split at hGuard
  · cases hGuard
  · split at hGuard
    all_goals cases hGuard

theorem kept_commitRequest (config : ExecutionConfig) (key : CardKey) (request : StopRequest)
    (h : world.Kept) : (world.commitRequest config key request).Kept := by
  unfold commitRequest
  by_cases hFree : key ∈ world.locked
  · rw [if_pos hFree]
    exact h
  rw [if_neg hFree]
  cases hRow : world.rows.get? key with
  | none => exact h
  | some row =>
    dsimp only
    cases hRequest : requestStop config row request with
    | error => exact h
    | ok card =>
      dsimp only
      obtain ⟨pending, hCard, -⟩ := requestStop_ok hRequest
      have hRowKey := h.keyed key row hRow
      have hNone : world.outstanding.get? key = none := by
        cases hOutstanding : world.outstanding.get? key with
        | none => rfl
        | some change =>
          have hKept := h.outstanding key change hOutstanding
          obtain ⟨stored, hStored, hId⟩ := hKept.row
          rw [hRow] at hStored
          rw [← Option.some.inj hStored, requestStop_guard hRequest] at hId
          exact absurd hId.symm hKept.commandId
      have hWrittenKey : ({ card with version := row.version + 1 } : TradeCardState).cardKey =
          key := by
        rw [hCard]
        exact hRowKey
      cases hChange : CoordinatedStopChange.fromCard
          { card with version := row.version + 1 } with
      | error raised =>
        have hCommits : Commits world
            { world with
              rows := world.rows.set key { card with version := row.version + 1 }
              locked := world.locked.set key
                (.record { card with version := row.version + 1 }) } key row
            { card with version := row.version + 1 }
            (.record { card with version := row.version + 1 }) :=
          ⟨hFree, hRow, hWrittenKey, rfl, rfl, rfl, rfl, rfl, fun _ _ => rfl, fun _ _ => rfl⟩
        apply hCommits.kept h
        · dsimp only [Publication.entry]
          rw [hChange]
        · intro change hOutstanding
          rw [hNone] at hOutstanding
          cases hOutstanding
        · intro change hNewest
          obtain ⟨stored, hStored, hOlder⟩ := h.newest key change hNewest
          rw [hRow] at hStored
          rw [Option.some.inj hStored]
          dsimp only
          omega
        · intro held hHeld
          exact hCommits.heldKept (.inl rfl) (h.held held hHeld)
      | ok change =>
        obtain ⟨-, hVersion, hId, hNonempty⟩ := CoordinatedStopChange.fromCard_ok hChange
        have hCommits : Commits world
            { world with
              rows := world.rows.set key { card with version := row.version + 1 }
              locked := world.locked.set key
                (.record { card with version := row.version + 1 })
              newest := world.newest.set key change
              outstanding := world.outstanding.set key change } key row
            { card with version := row.version + 1 }
            (.record { card with version := row.version + 1 }) :=
          ⟨hFree, hRow, hWrittenKey, rfl, rfl, rfl, rfl, rfl,
            fun _ hOther => Dictionary.get?_set_of_ne hOther,
            fun _ hOther => Dictionary.get?_set_of_ne hOther⟩
        apply hCommits.kept h
        · dsimp only [Publication.entry]
          rw [hChange, Dictionary.get?_set_self]
        · intro found hFound
          dsimp only at hFound ⊢
          rw [Dictionary.get?_set_self] at hFound ⊢
          obtain rfl := Option.some.inj hFound
          exact ⟨rfl, hId.symm, hNonempty⟩
        · intro found hFound
          dsimp only at hFound
          rw [Dictionary.get?_set_self] at hFound
          obtain rfl := Option.some.inj hFound
          exact hVersion.le
        · intro held hHeld
          exact hCommits.heldKept
            (.inr ⟨change, Dictionary.get?_set_self, hVersion⟩) (h.held held hHeld)

theorem Kept.coordinator_eq (h : world.Kept) (hFree : key ∉ world.locked) :
    world.coordinator.get? key = world.outstanding.get? key := by
  have hSettled := h.settled key
  unfold StopChangeWorld.settled at hSettled
  rwa [Dictionary.get?_eq_none.mpr hFree] at hSettled

/-- The version of the outstanding request is at most that of the row. -/
theorem Kept.outstanding_row (h : world.Kept) {row : TradeCardState}
    (hOutstanding : world.outstanding.get? key = some change)
    (hRow : world.rows.get? key = some row) :
    row.pendingStop.commandId = change.commandId ∧ change.requestCardVersion ≤ row.version := by
  have hKept := h.outstanding key change hOutstanding
  obtain ⟨stored, hStored, hId⟩ := hKept.row
  obtain ⟨newest, hNewest, hVersion⟩ := h.newest key change hKept.newest
  rw [hRow] at hStored hNewest
  rw [← Option.some.inj hStored] at hId
  rw [← Option.some.inj hNewest] at hVersion
  exact ⟨hId, hVersion⟩

theorem forall_mem_set {P : HeldCard → Prop} {i : Nat} {items : List HeldCard} {new : HeldCard}
    (h : ∀ item ∈ items, P item) (hNew : P new) : ∀ item ∈ items.set i new, P item := by
  intro item hItem
  rcases List.mem_or_eq_of_mem_set hItem with hOld | rfl
  · exact h item hOld
  · exact hNew

theorem kept_commitWrite (i : Nat) (h : world.Kept) : (world.commitWrite i).Kept := by
  unfold commitWrite
  cases hFound : world.held[i]? with
  | none => exact h
  | some held =>
    have hMem : held ∈ world.held := List.mem_of_getElem? hFound
    obtain ⟨row, hRow, hHeld⟩ := h.held held hMem
    dsimp only
    rw [hRow]
    dsimp only
    split
    · exact h
    next hEnabled =>
      obtain ⟨hFree, hVersion⟩ := not_or.mp hEnabled
      have hSame : held.card.version = row.version := (not_not.mp hVersion).symm
      have hCommits : Commits world (world.stored i held) held.key row
          held.written (.reconcile held.written) := by
        refine ⟨hFree, hRow, rfl, ?_, rfl, rfl, rfl, rfl, fun _ _ => rfl, ?_⟩
        · exact congrArg (· + 1) hSame
        · intro other hOther
          dsimp only [stored]
          split
          · rfl
          · rw [Dictionary.get?_erase, if_neg hOther]
      refine hCommits.kept h ?_ ?_ ?_ ?_
      · cases hOutstanding : world.outstanding.get? held.key with
        | none =>
          dsimp only [stored]
          rw [hOutstanding]
          exact (Dictionary.get?_erase.trans (if_pos rfl)).symm
        | some change =>
          obtain ⟨hRowId, hRowVersion⟩ := h.outstanding_row hOutstanding hRow
          dsimp only [stored, Publication.entry, Option.bind_some]
          rw [hOutstanding, Option.any_some]
          unfold StopChangeCoordinator.reconciled
          by_cases hId : held.written.pendingStop.commandId = change.commandId
          · rw [if_pos hId, if_pos (decide_eq_true hId.symm), hOutstanding]
          · have hEmpty : held.written.pendingStop.commandId = "" := by
              rcases hHeld.current hSame with hCarries | hEmptied
              · exact absurd (hCarries.trans hRowId) hId
              · exact hEmptied
            have hSuperseded : change.supersededBy held.written = true := by
              unfold CoordinatedStopChange.supersededBy
              rw [hEmpty]
              have hNewer : change.requestCardVersion < held.written.version := by
                dsimp only [HeldCard.written]
                omega
              simp [hNewer]
            rw [if_neg hId, if_pos (.inr hSuperseded),
              if_neg (fun hKept => hId (of_decide_eq_true hKept).symm),
              Dictionary.get?_erase, if_pos rfl]
      · intro change hChange
        dsimp only [stored] at hChange
        split at hChange
        next hKept =>
          rw [hChange, Option.any_some, decide_eq_true_eq] at hKept
          have hOutstanding := h.outstanding held.key change hChange
          exact ⟨hOutstanding.newest, hKept.symm, hOutstanding.commandId⟩
        · rw [Dictionary.get?_erase, if_pos rfl] at hChange
          cases hChange
      · intro change hChange
        obtain ⟨stored, hStored, hOlder⟩ := h.newest held.key change hChange
        rw [hRow] at hStored
        rw [← Option.some.inj hStored] at hOlder
        dsimp only [HeldCard.written]
        omega
      · apply forall_mem_set fun other hOther => hCommits.heldKept (.inl rfl) (h.held other hOther)
        refine ⟨held.written, hCommits.rows_self, le_refl _, fun _ => .inl rfl, ?_⟩
        intro change hChange _
        refine hHeld.carried change hChange ?_
        obtain ⟨stored, hStored, hOlder⟩ := h.newest held.key change hChange
        rw [hRow] at hStored
        rw [← Option.some.inj hStored] at hOlder
        omega

theorem kept_publish (key : CardKey) (h : world.Kept) : (world.publish key).Kept := by
  unfold publish
  cases hLocked : world.locked.get? key with
  | none => exact h
  | some publication =>
    have hKey := h.locked key publication hLocked
    refine ⟨h.keyed, ?_, ?_, ?_, h.newest, ?_⟩
    · intro other publishing hPublishing
      exact h.locked other publishing (Dictionary.get?_of_erase hPublishing).2
    · intro other
      have hBefore := h.settled other
      unfold settled at hBefore ⊢
      dsimp only
      rw [Dictionary.get?_erase, Publication.get?_publish, hKey]
      by_cases hOther : other = key
      · rw [if_pos hOther, if_pos hOther]
        rw [hOther, hLocked] at hBefore
        rw [hOther]
        exact hBefore
      · rw [if_neg hOther, if_neg hOther]
        exact hBefore
    · intro other change hChange
      have hKept := h.outstanding other change hChange
      exact ⟨hKept.newest, hKept.row, hKept.commandId⟩
    · intro held hHeld
      obtain ⟨row, hRow, hKept⟩ := h.held held hHeld
      exact ⟨row, hRow, hKept.version, hKept.current, hKept.carried⟩

theorem Kept.withHeld (h : world.Kept) {objects : List HeldCard}
    (hObjects : ∀ held ∈ objects, ∃ row, world.rows.get? held.key = some row ∧
      world.HeldKept held row) : ({ world with held := objects } : StopChangeWorld).Kept := by
  refine ⟨h.keyed, h.locked, h.settled, ?_, h.newest, ?_⟩
  · intro key change hChange
    have hKept := h.outstanding key change hChange
    exact ⟨hKept.newest, hKept.row, hKept.commandId⟩
  · intro held hHeld
    obtain ⟨row, hRow, hKept⟩ := hObjects held hHeld
    exact ⟨row, hRow, hKept.version, hKept.current, hKept.carried⟩

theorem kept_load (key : CardKey) (h : world.Kept) : (world.load key).Kept := by
  unfold load
  cases hRow : world.rows.get? key with
  | none => exact h
  | some row =>
    refine h.withHeld ?_
    refine forall_mem_concat h.held ?_
    have hKey : row.cardKey = key := h.keyed key row hRow
    refine ⟨row, ?_, le_refl _, fun _ => .inl rfl, ?_⟩
    · exact (congrArg world.rows.get? hKey).trans hRow
    · intro change hChange _
      have hNewest : world.newest.get? key = some change := by
        rw [← hKey]
        exact hChange
      unfold newestVersion
      rw [hNewest]
      rfl

theorem kept_edit (i : Nat) (after : TradeCardState) (h : world.Kept) :
    (world.edit i after).Kept := by
  unfold edit
  cases hFound : world.held[i]? with
  | none => exact h
  | some held =>
    dsimp only
    split
    next hKeeps =>
      obtain ⟨hKey, hVersion, hPending⟩ := hKeeps
      apply h.withHeld
      apply forall_mem_set h.held
      obtain ⟨row, hRow, hKept⟩ := h.held held (List.mem_of_getElem? hFound)
      refine ⟨row, (congrArg world.rows.get? hKey).trans hRow, ?_, ?_, ?_⟩
      · exact hVersion.le.trans hKept.version
      · intro hSame
        rcases hPending with hSamePending | hEmptied
        · dsimp only
          rw [hSamePending]
          exact hKept.current (hVersion.symm.trans hSame)
        · exact .inr hEmptied
      · intro change hChange hOlder
        have hNewest : world.newest.get? held.key = some change := by
          rw [← hChange]
          exact (congrArg world.newest.get? hKey).symm
        exact hKept.carried change hNewest (hOlder.trans hVersion.le)
    · exact h

end StopChangeWorld

/-! ## Overlays -/

/-- What an overlay must do to an object: it carries the outstanding request if it is in an open
position and has not carried it yet; it is left alone if it has carried it and no longer does, or
if none is outstanding; only the outstanding request is ever laid on it; and the coordinator
keeps that request. -/
structure OverlayRight (world : StopChangeWorld) (held : HeldCard) : Prop where
  carried : ∀ change, world.outstanding.get? held.key = some change →
    held.carried ≠ some change.requestCardVersion → inOpenPosition held.card = true →
      (world.overlaid held).2.pendingStop = change.pendingStop
  unchanged : (∀ change, world.outstanding.get? held.key = some change →
      held.carried = some change.requestCardVersion ∧
        held.card.pendingStop.commandId ≠ change.commandId) →
    (world.overlaid held).2 = held.card
  installed : (world.overlaid held).2 ≠ held.card →
    ∃ change, world.outstanding.get? held.key = some change ∧
      (world.overlaid held).2 = change.applyTo held.card
  kept : ∀ change, world.outstanding.get? held.key = some change →
    (world.overlaid held).1.get? held.key = some change

/-- The condition on an overlay.  An object in an open position that does not carry the outstanding
request has neither another pending stop nor the requested stop itself, if it has not carried the
request; if it has, its stop is the requested one or it has another pending stop. -/
def OverlayMeets (world : StopChangeWorld) (held : HeldCard) : Prop :=
  ∀ change, world.outstanding.get? held.key = some change → inOpenPosition held.card = true →
    held.card.pendingStop.commandId ≠ change.commandId →
      if held.carried = some change.requestCardVersion then
        change.matchesActive held.card = true ∨ held.card.pendingStop.commandId ≠ ""
      else change.matchesActive held.card = false ∧ held.card.pendingStop.commandId = ""

namespace StopChangeWorld

variable {world : StopChangeWorld} {held : HeldCard} {key : CardKey}
  {change : CoordinatedStopChange}

theorem overlaid_of_none (h : world.coordinator.get? held.key = none) :
    world.overlaid held = (world.coordinator, held.card) := by
  unfold overlaid StopChangeCoordinator.overlayCard
  rw [show world.coordinator.get? held.card.cardKey = none from h]

theorem overlaid_of_some (h : world.coordinator.get? held.key = some change) :
    world.overlaid held =
      if held.card.pendingStop.commandId = change.commandId then
        (world.coordinator, change.applyTo held.card)
      else if change.matchesActive held.card then (world.coordinator, held.card)
      else if !inOpenPosition held.card then (world.coordinator, held.card)
      else if change.supersededBy held.card then
        (world.coordinator.erase held.key, held.card)
      else if held.card.pendingStop.commandId ≠ "" then (world.coordinator, held.card)
      else (world.coordinator, change.applyTo held.card) := by
  have hEntry : world.coordinator.get? held.card.cardKey = some change := h
  unfold overlaid StopChangeCoordinator.overlayCard
  rw [hEntry]
  dsimp only
  split
  · rfl
  next hId =>
    split
    · rfl
    · split
      · rfl
      · split
        next hSuperseded =>
          unfold StopChangeCoordinator.reconcileDurable
          rw [hEntry]
          dsimp only
          rw [if_neg hId, if_pos (.inr hSuperseded)]
          rfl
        · rfl

theorem Kept.older (h : world.Kept) (hMem : held ∈ world.held)
    (hOutstanding : world.outstanding.get? held.key = some change)
    (hCarried : held.carried ≠ some change.requestCardVersion) :
    held.card.version < change.requestCardVersion := by
  obtain ⟨row, _, hKept⟩ := h.held held hMem
  by_contra hNewer
  have hNewest := (h.outstanding _ _ hOutstanding).newest
  exact hCarried (hKept.carried change hNewest (le_of_not_gt hNewer))

theorem not_superseded_of_older (h : held.card.version < change.requestCardVersion) :
    change.supersededBy held.card = false := by
  have hNewer : ¬ change.requestCardVersion < held.card.version := by omega
  simp [CoordinatedStopChange.supersededBy, hNewer]

section

variable (h : world.Kept) (hMem : held ∈ world.held) (hFree : held.key ∉ world.locked)
include h hMem hFree

/-- An overlay that meets the condition leaves the coordinator alone, and the object as well or
with the outstanding request. -/
theorem overlaid_of_meets (hMeets : OverlayMeets world held) :
    world.overlaid held = (world.coordinator, held.card) ∨
      ∃ change, world.outstanding.get? held.key = some change ∧
        world.overlaid held = (world.coordinator, change.applyTo held.card) := by
  have hEntry := h.coordinator_eq hFree
  cases hOutstanding : world.outstanding.get? held.key with
  | none =>
    rw [hOutstanding] at hEntry
    exact .inl (overlaid_of_none hEntry)
  | some change =>
    rw [hOutstanding] at hEntry
    rw [overlaid_of_some hEntry]
    split
    · exact .inr ⟨change, rfl, rfl⟩
    next hId =>
      split
      · exact .inl rfl
      next hMatches =>
        split
        · exact .inl rfl
        next hOpen =>
          have hOpen : inOpenPosition held.card = true := by simpa using hOpen
          have hCondition := hMeets change hOutstanding hOpen hId
          split
          next hSuperseded =>
            by_cases hCarried : held.carried = some change.requestCardVersion
            · rw [if_pos hCarried] at hCondition
              rcases hCondition with hActive | hPending
              · exact absurd hActive hMatches
              · simp [CoordinatedStopChange.supersededBy, hPending] at hSuperseded
            · rw [not_superseded_of_older (h.older hMem hOutstanding hCarried)] at hSuperseded
              cases hSuperseded
          · split
            · exact .inl rfl
            · exact .inr ⟨change, rfl, rfl⟩

theorem overlayRight_iff : OverlayRight world held ↔ OverlayMeets world held := by
  constructor
  · intro hRight change hOutstanding hOpen hId
    have hEntry := (h.coordinator_eq hFree).trans hOutstanding
    have hOverlaid := overlaid_of_some hEntry
    rw [if_neg hId] at hOverlaid
    split
    next hCarried =>
      by_contra hNeither
      obtain ⟨hMatches, hPending⟩ := not_or.mp hNeither
      rw [if_neg hMatches, hOpen] at hOverlaid
      simp only [Bool.not_true, Bool.false_eq_true, if_false] at hOverlaid
      split at hOverlaid
      · -- the overlay retires the request
        have hKept := hRight.kept change hOutstanding
        rw [hOverlaid, Dictionary.get?_erase, if_pos rfl] at hKept
        cases hKept
      · -- the overlay lays the request on the object again
        have hSame := hRight.unchanged (fun found hFound => by
          rw [hOutstanding] at hFound
          rw [← Option.some.inj hFound]
          exact ⟨hCarried, hId⟩)
        rw [hOverlaid] at hSame
        apply hId
        rw [← hSame]
        rfl
    next hCarried =>
      have hOlder := h.older hMem hOutstanding hCarried
      have hLaid := hRight.carried change hOutstanding hCarried hOpen
      have hChanged : (world.overlaid held).2 ≠ held.card := by
        intro hSame
        rw [hSame] at hLaid
        exact hId (congrArg PendingStop.commandId hLaid)
      by_cases hMatches : change.matchesActive held.card = true
      · rw [if_pos hMatches] at hOverlaid
        exact absurd (congrArg Prod.snd hOverlaid) hChanged
      · refine ⟨Bool.eq_false_of_not_eq_true hMatches, ?_⟩
        rw [if_neg hMatches, hOpen, not_superseded_of_older hOlder] at hOverlaid
        simp only [Bool.not_true, Bool.false_eq_true, if_false] at hOverlaid
        by_contra hPending
        rw [if_pos hPending] at hOverlaid
        exact hChanged (congrArg Prod.snd hOverlaid)
  · intro hMeets
    have hEntry := h.coordinator_eq hFree
    have hOverlaid := overlaid_of_meets h hMem hFree hMeets
    constructor
    · intro change hOutstanding hCarried hOpen
      rw [hOutstanding] at hEntry
      rw [overlaid_of_some hEntry]
      split
      · rfl
      next hId =>
        have hCondition := hMeets change hOutstanding hOpen hId
        rw [if_neg hCarried] at hCondition
        rw [hCondition.1, hOpen, not_superseded_of_older (h.older hMem hOutstanding hCarried)]
        simp [hCondition.2]
    · intro hReflects
      rcases hOverlaid with hSame | ⟨change, hOutstanding, hLaid⟩
      · rw [hSame]
      · obtain ⟨hCarried, hId⟩ := hReflects change hOutstanding
        rw [hOutstanding] at hEntry
        have hCases := overlaid_of_some hEntry
        rw [if_neg hId] at hCases
        split at hCases
        · rw [hCases]
        next hMatches =>
          split at hCases
          · rw [hCases]
          next hOpen =>
            have hCondition := hMeets change hOutstanding (by simpa using hOpen) hId
            rw [if_pos hCarried] at hCondition
            have hPending := hCondition.resolve_left hMatches
            split at hCases
            all_goals rw [hCases]
    · intro hChanged
      rcases hOverlaid with hSame | ⟨change, hOutstanding, hLaid⟩
      · rw [hSame] at hChanged
        exact absurd rfl hChanged
      · exact ⟨change, hOutstanding, congrArg Prod.snd hLaid⟩
    · intro change hOutstanding
      rw [hOutstanding] at hEntry
      rcases hOverlaid with hSame | ⟨_, _, hLaid⟩
      · rw [hSame]
        exact hEntry
      · rw [hLaid]
        exact hEntry

end

theorem kept_overlay (i : Nat) (h : world.Kept)
    (hMeets : ∀ held, world.held[i]? = some held → held.key ∉ world.locked →
      OverlayMeets world held) : (world.overlay i).Kept := by
  unfold overlay
  cases hFound : world.held[i]? with
  | none => exact h
  | some held =>
    have hMem : held ∈ world.held := List.mem_of_getElem? hFound
    dsimp only
    split
    · exact h
    next hFree =>
      have hEntry := h.coordinator_eq hFree
      obtain ⟨row, hRow, hKept⟩ := h.held held hMem
      have hSameCarried : ∀ found, world.newest.get? held.key = some found →
          found.requestCardVersion ≤ held.card.version →
            world.carriedAfter held = some found.requestCardVersion := by
        intro found hFound hOlder
        have hCarried := hKept.carried found hFound hOlder
        unfold carriedAfter
        cases hOutstanding : world.coordinator.get? held.key with
        | none => exact hCarried
        | some =>
          dsimp only
          split
          · rw [hEntry] at hOutstanding
            rw [(h.outstanding _ _ hOutstanding).newest] at hFound
            rw [Option.some.inj hFound]
          · exact hCarried
      rcases overlaid_of_meets h hMem hFree (hMeets held hFound hFree) with
        hSame | ⟨change, hOutstanding, hLaid⟩
      · rw [hSame]
        apply h.withHeld
        exact forall_mem_set h.held ⟨row, hRow, hKept.version, hKept.current, hSameCarried⟩
      · rw [hLaid]
        apply h.withHeld
        apply forall_mem_set h.held
        refine ⟨row, hRow, hKept.version, fun _ => .inl ?_, hSameCarried⟩
        exact (h.outstanding_row hOutstanding hRow).1.symm

/-! ## Runs -/

def StepRight (world : StopChangeWorld) : StopChangeStep → Prop
  | .overlay i => ∀ held, world.held[i]? = some held → held.key ∉ world.locked →
      OverlayRight world held
  | _ => True

def StepMeets (world : StopChangeWorld) : StopChangeStep → Prop
  | .overlay i => ∀ held, world.held[i]? = some held → held.key ∉ world.locked →
      OverlayMeets world held
  | _ => True

theorem Kept.stepRight_iff (h : world.Kept) (step : StopChangeStep) :
    world.StepRight step ↔ world.StepMeets step := by
  cases step with
  | overlay =>
    refine forall_congr' fun held => forall_congr' fun hFound => forall_congr' fun hFree => ?_
    exact overlayRight_iff h (List.mem_of_getElem? hFound) hFree
  | _ => exact Iff.rfl

theorem Kept.next (h : world.Kept) {step : StopChangeStep} (hMeets : world.StepMeets step) :
    (world.next step).Kept := by
  cases step with
  | request config key request => exact kept_commitRequest config key request h
  | write i => exact kept_commitWrite i h
  | publish key => exact kept_publish key h
  | load key => exact kept_load key h
  | edit i after => exact kept_edit i after h
  | overlay i => exact kept_overlay i h hMeets

end StopChangeWorld

/-- In a run of requests, writes and overlays of objects of any age, every overlay neither loses
the outstanding request nor brings back an acknowledged or retired one, if and only if every
overlay meets the condition. -/
theorem coordinated_stops_iff (cards : List TradeCardState) (steps : List StopChangeStep) :
    EachStep StopChangeWorld.next StopChangeWorld.StepRight (StopChangeWorld.start cards) steps ↔
      EachStep StopChangeWorld.next StopChangeWorld.StepMeets (StopChangeWorld.start cards)
        steps :=
  EachStep.iff_of_invariant (fun _ step h => h.stepRight_iff step) (fun _ _ h => h.next)
    (StopChangeWorld.kept_start cards)

/-! ### Two overlays that go wrong -/

/-- Ten shares with a stop at the ORB low, five of them being sold. -/
def sellingCard : TradeCardState :=
  { environment := "PROD"
    accountNo := "1"
    symbol := "AAPL"
    boardStatus := .partialSell
    positionRuntimeStatus := .partialExitPending
    brokerQuantity := 10
    orderableQuantity := 10
    averageEntryPrice := 100
    pendingPartialSellQuantity := 5
    entryOrbLow := some 95
    stopType := some .orbLow
    activeStopPrice := some 95
    stopQuantity := 10 }

def askStop (command : StopCommand) (commandId : String) : StopChangeStep :=
  .request {} sellingCard.cardKey { command := command, commandId := commandId, requestedAt := 0 }

/-- The card once the stop has been asked back to the ORB low. -/
def askedCard : TradeCardState :=
  { sellingCard with
    version := 2
    pendingStop :=
      { stopType := some .orbLow, price := some 95, quantity := 10, commandId := "s1"
        requestedAt := some 0 } }

/-- The object once it has acknowledged that stop and sold the five shares. -/
def soldObject : HeldCard :=
  { card := completePartialExit {} (acknowledgePendingStopChange askedCard) 5, carried := some 2 }

/-- A cycle of the worker acknowledges the request, then the sale completes and raises the stop to
breakeven; the second overlay of the cycle follows. -/
def sameCycle : List StopChangeStep :=
  [ askStop .setOrbStop "s1", .publish sellingCard.cardKey, .load sellingCard.cardKey,
    .edit 0 (acknowledgePendingStopChange askedCard),
    .edit 0 soldObject.card ]

/-- One object of the card acknowledges and stores the first request, another still carries it
when the second one is made. -/
def twoObjects : List StopChangeStep :=
  [ askStop .setOrbStop "s1", .publish sellingCard.cardKey, .load sellingCard.cardKey,
    .load sellingCard.cardKey, .edit 1 (acknowledgePendingStopChange askedCard), .write 1,
    .publish sellingCard.cardKey, askStop (.setManualStop 102) "s2",
    .publish sellingCard.cardKey ]

/-- The first run ends with the acknowledged request on the object again, below the stop it has
by then; the second with an older object in an open position that lacks the newest request. -/
theorem stop_request_resurrected :
    ¬ EachStep StopChangeWorld.next StopChangeWorld.StepRight (StopChangeWorld.start [sellingCard])
        (sameCycle ++ [.overlay 0]) ∧
      ¬ EachStep StopChangeWorld.next StopChangeWorld.StepRight
        (StopChangeWorld.start [sellingCard]) (twoObjects ++ [.overlay 0]) := by
  constructor
  · intro hRight
    have hOverlay := hRight sameCycle (.overlay 0) [] rfl soldObject
      (by decide +kernel) (by decide +kernel)
    have hOutstanding : (StopChangeWorld.outstanding (sameCycle.foldl StopChangeWorld.next
        (StopChangeWorld.start [sellingCard]))).get? soldObject.key =
        some ⟨sellingCard.cardKey, "s1", 2, some .orbLow, 95, 10, 0⟩ := by decide +kernel
    have hSame := hOverlay.unchanged (by
      intro change hChange
      obtain rfl := Option.some.inj (hOutstanding.symm.trans hChange)
      exact ⟨rfl, by decide +kernel⟩)
    exact absurd hSame (by decide +kernel)
  · intro hRight
    have hOverlay := hRight twoObjects (.overlay 0) [] rfl ⟨askedCard, some 2⟩
      (by decide +kernel) (by decide +kernel)
    have hLaid := hOverlay.carried ⟨sellingCard.cardKey, "s2", 4, some .manualPrice, 102, 10, 0⟩
      (by decide +kernel) (by decide +kernel) (by decide +kernel)
    exact absurd hLaid (by decide +kernel)

end QuantApp.Services
