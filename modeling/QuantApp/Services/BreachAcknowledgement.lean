import QuantApp.Services.RuntimeCycle
import QuantApp.Verified.LabelledRuns

/-!
# Breaches are acknowledged after their liquidation is stored

Runs of runtime cycles beside other writers of the card table.  A breach is acknowledged
for a card whose liquidation the cycle takes for stored: it wrote it, or the object said
so when the cycle began to work.  The object may be ahead of the table.  Where an
earlier cycle raised `exit_all_required` and could not write it, the cache serves the same
object again, and the next cycle acknowledges a breach that nothing has stored.

`raised` lists the cards whose liquidation was raised on the object after it was last read
or written, and `closed` the cards closed since their liquidation was stored.  In runs that
meet `StoresLiquidations` no breach is acknowledged too early.
-/

namespace QuantApp.Services

open Core Verified

/-- The position of the card is closed; a card that returns to the Buylist is too. -/
def closedPosition (card : TradeCardState) : Bool :=
  card.boardStatus = .closed || (card.boardStatus = .buylist && card.returnToBuylistAfterClose)

/-- The row has to be liquidated. -/
def liquidates (row : Option TradeCardRow) : Bool := row.any (fun row => row.card.exitAllRequired)

/-- The table, the worker, and what became of the liquidations. -/
structure RuntimeWorld where
  rows : TradeCardRows
  worker : CycleState
  closed : List CardKey := []
  raised : List CardKey := []

namespace RuntimeWorld

/-- The stored card still says that the position must be liquidated, or it was closed since. -/
def LiquidationStored (world : RuntimeWorld) (key : CardKey) : Prop :=
  liquidates (world.rows.get? key) = true ∨ key ∈ world.closed

instance (world : RuntimeWorld) (key : CardKey) : Decidable (world.LiquidationStored key) :=
  inferInstanceAs (Decidable (_ ∨ _))

/-- The closed cards after a commit. -/
def closedAfter (closed : List CardKey) (key : CardKey) (before after : Option TradeCardRow) :
    List CardKey :=
  if liquidates after then closed.filter (· ≠ key)
  else if liquidates before && after.any (fun row => closedPosition row.card) then
    closed.insert key
  else closed

/-- A commit of the row of a card, or of its removal. -/
def commitRow (world : RuntimeWorld) (key : CardKey) (row : Option TradeCardRow) : RuntimeWorld :=
  { world with
    rows :=
      match row with
      | none => world.rows.erase key
      | some row => world.rows.set key row
    closed := closedAfter world.closed key (world.rows.get? key) row }

/-- A load, if the cards can be read. -/
def load (world : RuntimeWorld) (force : Bool) (moment : LoadMoment) : RuntimeWorld :=
  let loaded := world.worker.cache.loadCardsIfChanged force moment world.rows
  { world with
    worker := { world.worker with cache := loaded.1 }
    raised := if loaded.2 then [] else world.raised }

/-- A stage changes a card whose object was `old`. -/
def change (world : RuntimeWorld) (old card : TradeCardState) (reported : Bool) : RuntimeWorld :=
  { world with
    worker := world.worker.change card reported
    raised :=
      if card.exitAllRequired && !old.exitAllRequired then world.raised.insert card.cardKey
      else world.raised }

/-- The write of the next changed card, whose object is `object`. -/
def persist (world : RuntimeWorld) (now : Instant) (key : CardKey) (rest : List CardKey)
    (object : TradeCardState) (outcome : PersistOutcome) : RuntimeWorld :=
  let result := persistCard now (world.rows.get? key) object outcome
  let worker := { world.worker with
    cache := world.worker.cache.setObject result.object
    toPersist := rest
    persisted := if result.reported then key :: world.worker.persisted else world.worker.persisted }
  match result.stored with
  | none => { world with worker := worker }
  | some row =>
    { world.commitRow key (some row) with
      worker := worker
      raised := world.raised.filter (· ≠ key) }

end RuntimeWorld

inductive CycleLabel where
  /-- Somebody else commits a row. -/
  | write (row : TradeCardRow)
  /-- Somebody else removes a row. -/
  | delete (key : CardKey)
  | begin (databaseWritable databaseProbeCompleted : Bool)
  | load (force : Bool) (moment : LoadMoment)
  | change (card : TradeCardState) (reported : Bool)
  | observe (sessionIsCurrent : TradeCardState → Bool)
  | collect (key : CardKey) (version : String)
  | latch (key : CardKey) (version : String)
  | finish
  | persist (now : Instant) (outcome : PersistOutcome)
  | settle
  | acknowledge
  /-- The cycle is through, or an exception ends it. -/
  | stop

namespace RuntimeWorld

/-- The next breach that is acknowledged. -/
def nextAcknowledged (world : RuntimeWorld) : Option BreachIdentity :=
  if world.worker.phase = .acknowledging then world.worker.toAcknowledge.head? else none

/-- One step, where it is enabled. -/
def next (world : RuntimeWorld) : CycleLabel → Option RuntimeWorld
  | .write row => some (world.commitRow row.card.cardKey (some row))
  | .delete key => some (world.commitRow key none)
  | .begin databaseWritable databaseProbeCompleted =>
    if world.worker.phase = .idle then
      some { world with worker := world.worker.begin databaseWritable databaseProbeCompleted }
    else none
  | .load force moment =>
    if world.worker.phase = .loading ∧ world.worker.canonicalAvailable then
      some (world.load force moment)
    else none
  | .change card reported =>
    if world.worker.phase = .loading ∨ world.worker.phase = .working then
      (world.worker.cache.object card.cardKey).map (fun old => world.change old card reported)
    else none
  | .observe sessionIsCurrent =>
    if world.worker.phase = .loading then
      some { world with worker := world.worker.observe sessionIsCurrent }
    else none
  | .collect key version =>
    if world.worker.phase = .working then
      some { world with worker := world.worker.collectMarketBreachAckCandidate key version }
    else none
  | .latch key version =>
    if world.worker.phase = .working then
      some { world with worker := world.worker.latchPendingStopBreach key version }
    else none
  | .finish =>
    if world.worker.phase = .working then some { world with worker := world.worker.finish }
    else none
  | .persist now outcome =>
    if world.worker.phase = .persisting then
      match world.worker.toPersist with
      | [] => none
      | key :: rest =>
        (world.worker.cache.object key).map (fun object =>
          world.persist now key rest object outcome)
    else none
  | .settle =>
    if world.worker.phase = .persisting ∧ world.worker.toPersist = [] then
      some { world with worker := world.worker.settle }
    else none
  | .acknowledge =>
    if world.worker.phase = .acknowledging then
      match world.worker.toAcknowledge with
      | [] => none
      | _ :: rest => some { world with worker := { world.worker with toAcknowledge := rest } }
    else none
  | .stop => some { world with worker := { cache := world.worker.cache } }

def Step (world : RuntimeWorld) (label : CycleLabel) (after : RuntimeWorld) : Prop :=
  world.next label = some after

/-- A commit that takes no stored liquidation back other than by closing the card. -/
def KeepsLiquidation (before after : Option TradeCardRow) : Prop :=
  liquidates before = true →
    liquidates after = true ∨ after.any (fun row => closedPosition row.card) = true

instance (before after : Option TradeCardRow) : Decidable (KeepsLiquidation before after) :=
  inferInstanceAs (Decidable (_ → _))

/-- What the next write of the cycle would commit. -/
def nextStored (world : RuntimeWorld) (now : Instant) (outcome : PersistOutcome) :
    Option (CardKey × TradeCardRow) :=
  world.worker.toPersist.head?.bind (fun key =>
    (world.worker.cache.object key).bind (fun object =>
      (persistCard now (world.rows.get? key) object outcome).stored.map (fun row => (key, row))))

/-- The cycle begins to work on no card whose liquidation was raised in memory only, and
nobody takes a stored liquidation back. -/
def StoresLiquidations (world : RuntimeWorld) : CycleLabel → Prop
  | .observe sessionIsCurrent =>
    ∀ card ∈ world.worker.cache.cachedCards,
      cardRequiresQuoteSubscription sessionIsCurrent card = true →
        card.exitAllRequired = true → card.cardKey ∉ world.raised
  | .write row => KeepsLiquidation (world.rows.get? row.card.cardKey) (some row)
  | .delete key => KeepsLiquidation (world.rows.get? key) none
  | .persist now outcome => ∀ stored ∈ world.nextStored now outcome,
      KeepsLiquidation (world.rows.get? stored.1) (some stored.2)
  | _ => True

instance (world : RuntimeWorld) (label : CycleLabel) :
    Decidable (world.StoresLiquidations label) := by
  cases label with
  | observe => exact inferInstanceAs (Decidable (∀ card ∈ _, _ → _ → _))
  | write | delete => exact inferInstanceAs (Decidable (KeepsLiquidation _ _))
  | persist => exact inferInstanceAs (Decidable (∀ stored ∈ Option.bind _ _, _))
  | _ => exact inferInstanceAs (Decidable True)

/-! ## Commits -/

variable {world after : RuntimeWorld} {key other : CardKey}

theorem get?_commitRow (row : Option TradeCardRow) :
    (world.commitRow key row).rows.get? other =
      if other = key then row else world.rows.get? other := by
  unfold commitRow
  cases row with
  | none => exact Dictionary.get?_erase
  | some => exact Dictionary.get?_set

/-- A commit that keeps the liquidation of its card keeps every one. -/
theorem LiquidationStored.commitRow {row : Option TradeCardRow} (h : world.LiquidationStored other)
    (hKeeps : KeepsLiquidation (world.rows.get? key) row) :
    (world.commitRow key row).LiquidationStored other := by
  unfold LiquidationStored
  rw [get?_commitRow]
  show _ ∨ other ∈ closedAfter world.closed key (world.rows.get? key) row
  unfold closedAfter
  by_cases hSame : other = key
  · subst hSame
    rw [if_pos rfl]
    cases hAfter : liquidates row with
    | true => exact Or.inl rfl
    | false =>
      right
      rw [if_neg Bool.false_ne_true]
      cases h with
      | inl hBefore =>
        have hClosed : row.any (fun row => closedPosition row.card) = true := by
          cases hKeeps hBefore with
          | inl hStill => exact absurd (hAfter.symm.trans hStill) Bool.false_ne_true
          | inr hClosed => exact hClosed
        rw [hBefore, hClosed]
        exact List.mem_insert_self
      | inr hClosed =>
        split
        · exact List.mem_insert_of_mem hClosed
        · exact hClosed
  · rw [if_neg hSame]
    apply h.imp_right
    intro hClosed
    split
    · exact List.mem_filter.mpr ⟨hClosed, decide_eq_true hSame⟩
    · split
      · exact List.mem_insert_of_mem hClosed
      · exact hClosed

/-! ## Runs -/

/-- A cached object that has to be liquidated is stored so, unless that was raised on it; and
what the cycle takes for stored is. -/
structure Kept (world : RuntimeWorld) : Prop where
  keyed : ∀ key row, world.rows.get? key = some row → row.card.cardKey = key
  cached : ∀ card ∈ world.worker.cache.cachedCards, card.exitAllRequired = true →
    card.cardKey ∉ world.raised → world.LiquidationStored card.cardKey
  durable : ∀ key ∈ world.worker.durablyLiquidating, world.LiquidationStored key
  unwritten : world.worker.phase = .loading ∨ world.worker.phase = .working →
    world.worker.persisted = []
  persisted : world.worker.phase = .persisting → ∀ key ∈ world.worker.persisted, key ∉ world.raised
  acknowledged : ∀ breach ∈ world.worker.toAcknowledge, world.LiquidationStored breach.cardKey

theorem Kept.commitRow {row : Option TradeCardRow} (h : world.Kept)
    (hKey : ∀ stored, row = some stored → stored.card.cardKey = key)
    (hKeeps : KeepsLiquidation (world.rows.get? key) row) : (world.commitRow key row).Kept where
  keyed other stored hStored := by
    rw [get?_commitRow] at hStored
    split at hStored
    next hSame => exact (hKey stored hStored).trans hSame.symm
    next => exact h.keyed other stored hStored
  cached card hCard hExit hRaised := (h.cached card hCard hExit hRaised).commitRow hKeeps
  durable other hOther := (h.durable other hOther).commitRow hKeeps
  unwritten := h.unwritten
  persisted := h.persisted
  acknowledged breach hBreach := (h.acknowledged breach hBreach).commitRow hKeeps

/-- A worker that holds nothing but its cache. -/
theorem kept_idle (hKeyed : ∀ key row, world.rows.get? key = some row → row.card.cardKey = key)
    (hCached : ∀ card ∈ world.worker.cache.cachedCards, card.exitAllRequired = true →
      card.cardKey ∉ world.raised → world.LiquidationStored card.cardKey)
    (hIdle : world.worker.durablyLiquidating = [] ∧ world.worker.persisted = [] ∧
      world.worker.toAcknowledge = []) : world.Kept where
  keyed := hKeyed
  cached := hCached
  durable := by simp [hIdle.1]
  unwritten := fun _ => hIdle.2.1
  persisted := by simp [hIdle.2.1]
  acknowledged := by simp [hIdle.2.2]

/-- Cards are served from the cache, or are the rows of the table. -/
theorem loadCardsIfChanged_cases (cache : CardCache) (force : Bool) (moment : LoadMoment)
    (rows : TradeCardRows) :
    ((cache.loadCardsIfChanged force moment rows).2 = false ∧
      (cache.loadCardsIfChanged force moment rows).1.cachedCards = cache.cachedCards) ∨
    ((cache.loadCardsIfChanged force moment rows).2 = true ∧
      (cache.loadCardsIfChanged force moment rows).1.cachedCards =
        rows.values.map TradeCardRow.card) := by
  unfold CardCache.loadCardsIfChanged
  split
  · exact Or.inl ⟨rfl, rfl⟩
  · dsimp only
    split
    · exact Or.inl ⟨rfl, rfl⟩
    · exact Or.inr ⟨rfl, rfl⟩

section

variable (h : world.Kept)
include h

theorem Kept.load (force : Bool) (moment : LoadMoment) : (world.load force moment).Kept := by
  unfold RuntimeWorld.load
  dsimp only
  constructor
  · exact h.keyed
  · intro card hCard hExit hRaised
    cases loadCardsIfChanged_cases world.worker.cache force moment world.rows with
    | inl hServed =>
      rw [hServed.2] at hCard
      rw [hServed.1, if_neg Bool.false_ne_true] at hRaised
      exact h.cached card hCard hExit hRaised
    | inr hRead =>
      rw [hRead.2] at hCard
      obtain ⟨row, hRow, rfl⟩ := List.mem_map.mp hCard
      obtain ⟨⟨key, stored⟩, hStored, rfl⟩ := List.mem_map.mp hRow
      have hFound := Dictionary.mem_rows.mp hStored
      left
      show liquidates (world.rows.get? stored.card.cardKey) = true
      rw [h.keyed key stored hFound, hFound]
      exact hExit
  · exact h.durable
  · exact h.unwritten
  · intro hPhase key hKey
    split
    · exact List.not_mem_nil
    · exact h.persisted hPhase key hKey
  · exact h.acknowledged

theorem Kept.change {old card : TradeCardState}
    (hPhase : world.worker.phase = .loading ∨ world.worker.phase = .working)
    (hOld : world.worker.cache.object card.cardKey = some old) (reported : Bool) :
    (world.change old card reported).Kept := by
  constructor
  · exact h.keyed
  · intro object hObject hExit hRaised
    cases mem_store hObject with
    | inl hSame =>
      subst hSame
      have hOldKey : old.cardKey = object.cardKey := lookup_key hOld
      have hOldExit : old.exitAllRequired = true := by
        by_contra hNot
        apply hRaised
        have hRaise : (object.exitAllRequired && !old.exitAllRequired) = true := by
          rw [hExit, Bool.eq_false_of_not_eq_true hNot]
          rfl
        show object.cardKey ∈ ite _ _ _
        rw [if_pos hRaise]
        exact List.mem_insert_self
      have hUnraised : (object.exitAllRequired && !old.exitAllRequired) = false := by
        rw [hOldExit, Bool.not_true, Bool.and_false]
      have hBefore : old.cardKey ∉ world.raised := by
        rw [hOldKey]
        intro hIn
        apply hRaised
        show object.cardKey ∈ ite _ _ _
        rw [hUnraised]
        exact hIn
      have hStored := h.cached old (lookup_mem hOld) hOldExit hBefore
      rw [hOldKey] at hStored
      exact hStored
    | inr hKept =>
      apply h.cached object hKept hExit
      intro hIn
      apply hRaised
      show object.cardKey ∈ ite _ _ _
      split
      · exact List.mem_insert_of_mem hIn
      · exact hIn
  · exact h.durable
  · exact h.unwritten
  · intro hPersisting
    cases hPhase with
    | inl hLoading => cases hLoading.symm.trans hPersisting
    | inr hWorking => cases hWorking.symm.trans hPersisting
  · exact h.acknowledged

theorem Kept.observe {sessionIsCurrent : TradeCardState → Bool}
    (hPhase : world.worker.phase = .loading)
    (hUnraised : ∀ card ∈ world.worker.cache.cachedCards,
      cardRequiresQuoteSubscription sessionIsCurrent card = true → card.exitAllRequired = true →
      card.cardKey ∉ world.raised) :
    Kept { world with worker := world.worker.observe sessionIsCurrent } := by
  constructor
  · exact h.keyed
  · exact h.cached
  · intro key hKey
    obtain ⟨card, hCard, rfl⟩ := List.mem_map.mp hKey
    obtain ⟨hObserved, hExit⟩ := List.mem_filter.mp hCard
    obtain ⟨hCached, hRequires⟩ := List.mem_filter.mp hObserved
    exact h.cached card hCached hExit (hUnraised card hCached hRequires hExit)
  · intro _
    exact h.unwritten (Or.inl hPhase)
  · intro hPersisting
    cases hPersisting
  · exact h.acknowledged

theorem Kept.addCandidate {version : String} {admitted : TradeCardState → Bool} :
    Kept { world with worker := world.worker.addCandidate key version admitted } := by
  unfold CycleState.addCandidate
  split
  · exact h
  · split
    · exact ⟨h.keyed, h.cached, h.durable, h.unwritten, h.persisted, h.acknowledged⟩
    · exact h

theorem Kept.finish (hPhase : world.worker.phase = .working) :
    Kept { world with worker := world.worker.finish } := by
  constructor
  · exact h.keyed
  · exact h.cached
  · exact h.durable
  · intro hEarlier
    cases hEarlier with
    | inl hLoading => cases hLoading
    | inr hWorking => cases hWorking
  · intro _ key hKey
    have hNone : world.worker.persisted = [] := h.unwritten (Or.inr hPhase)
    have hIn : key ∈ world.worker.persisted := hKey
    rw [hNone] at hIn
    cases hIn
  · exact h.acknowledged

theorem Kept.settle (hPhase : world.worker.phase = .persisting) :
    Kept { world with worker := world.worker.settle } := by
  constructor
  · exact h.keyed
  · exact h.cached
  · exact h.durable
  · intro hEarlier
    cases hEarlier with
    | inl hLoading => cases hLoading
    | inr hWorking => cases hWorking
  · intro hPersisting
    cases hPersisting
  · intro breach hBreach
    have hKey := of_decide_eq_true (List.mem_filter.mp hBreach).2
    cases List.mem_append.mp hKey with
    | inl hDurable => exact h.durable breach.cardKey hDurable
    | inr hPersisted =>
      obtain ⟨hIn, hExit⟩ := List.mem_filter.mp hPersisted
      obtain ⟨card, hObject, hRequired⟩ := (Option.any_eq_true _ _).mp hExit
      have hCardKey : card.cardKey = breach.cardKey := lookup_key hObject
      have hStored := h.cached card (lookup_mem hObject) hRequired
      rw [hCardKey] at hStored
      exact hStored (h.persisted hPhase breach.cardKey hIn)

end

/-- A write stores the object it was given, or stores nothing. -/
def StoresObject (object : TradeCardState) (write : PersistedCard) : Prop :=
  write.object.cardKey = object.cardKey ∧
    write.object.exitAllRequired = object.exitAllRequired ∧
    (∀ stored, write.stored = some stored → stored.card.cardKey = object.cardKey ∧
      stored.card.exitAllRequired = object.exitAllRequired) ∧
    (write.stored = none → write.reported = false)

/-- One write of `_persist_changed`. -/
theorem persistCard_cases (now : Instant) (row : Option TradeCardRow) (object : TradeCardState)
    (outcome : PersistOutcome) : StoresObject object (persistCard now row object outcome) := by
  have hWrite : ∀ version, StoresObject object (writeCard now version object outcome) := by
    intro version
    cases outcome with
    | committed | committedRaised =>
      refine ⟨rfl, rfl, ?_, fun hNone => absurd hNone (Option.some_ne_none _)⟩
      intro stored hStored
      rw [← Option.some.inj hStored]
      exact ⟨rfl, rfl⟩
    | notCommitted =>
      exact ⟨rfl, rfl, fun _ hStored => absurd hStored.symm (Option.some_ne_none _), fun _ => rfl⟩
  unfold persistCard
  split
  · exact hWrite 1
  · split
    · exact hWrite _
    · exact ⟨rfl, rfl, fun _ hStored => absurd hStored.symm (Option.some_ne_none _), fun _ => rfl⟩

theorem Kept.persist {now : Instant} {rest : List CardKey} {object : TradeCardState}
    {outcome : PersistOutcome} (h : world.Kept) (hPhase : world.worker.phase = .persisting)
    (hObject : world.worker.cache.object key = some object)
    (hKeeps : ∀ row, (persistCard now (world.rows.get? key) object outcome).stored = some row →
      KeepsLiquidation (world.rows.get? key) (some row)) :
    (world.persist now key rest object outcome).Kept := by
  have hCases := persistCard_cases now (world.rows.get? key) object outcome
  have hObjectKey : object.cardKey = key := lookup_key hObject
  unfold RuntimeWorld.persist
  dsimp only
  generalize persistCard now (world.rows.get? key) object outcome = result at hCases hKeeps ⊢
  obtain ⟨hKey, hExit, hStored, hReported⟩ := hCases
  rw [hObjectKey] at hKey
  split
  next hNone =>
    rw [hReported hNone, if_neg Bool.false_ne_true]
    constructor
    · exact h.keyed
    · refine forall_mem_store h.cached fun hRequired hRaised => ?_
      rw [hKey, ← hObjectKey] at hRaised ⊢
      rw [hExit] at hRequired
      exact h.cached object (lookup_mem hObject) hRequired hRaised
    · exact h.durable
    · exact h.unwritten
    · exact h.persisted
    · exact h.acknowledged
  next row hRow =>
    obtain ⟨hRowKey, hRowExit⟩ := hStored row hRow
    have hCommitted : (world.commitRow key (some row)).Kept := by
      apply h.commitRow _ (hKeeps row hRow)
      intro stored hSame
      cases hSame
      exact hRowKey.trans hObjectKey
    constructor
    · exact hCommitted.keyed
    · intro card hCard hRequired hRaised
      by_cases hSame : card = result.object
      · left
        show liquidates ((world.commitRow key (some row)).rows.get? card.cardKey) = true
        rw [hSame, hKey, get?_commitRow, if_pos rfl]
        show row.card.exitAllRequired = true
        rw [hRowExit, ← hExit, ← hSame]
        exact hRequired
      · have hOther := key_ne_of_mem_store hCard hSame
        rw [hKey] at hOther
        apply hCommitted.cached card ((mem_store hCard).resolve_left hSame) hRequired
        intro hIn
        exact hRaised (List.mem_filter.mpr ⟨hIn, decide_eq_true hOther⟩)
    · exact hCommitted.durable
    · exact fun hEarlier => by
        cases hEarlier with
        | inl hLoading => cases hLoading.symm.trans hPhase
        | inr hWorking => cases hWorking.symm.trans hPhase
    · intro _ other hOther hIn
      obtain ⟨hOld, hne⟩ := List.mem_filter.mp hIn
      have hWritten : other ∈ key :: world.worker.persisted := by
        have hOther' : other ∈ if result.reported = true then key :: world.worker.persisted
            else world.worker.persisted := hOther
        split at hOther'
        · exact hOther'
        · exact List.mem_cons_of_mem key hOther'
      cases List.mem_cons.mp hWritten with
      | inl hSame => exact of_decide_eq_true hne hSame
      | inr hBefore => exact h.persisted hPhase other hBefore hOld
    · exact hCommitted.acknowledged

theorem Kept.next {label : CycleLabel} (h : world.Kept) (hStores : StoresLiquidations world label)
    (hNext : world.next label = some after) : after.Kept := by
  cases label with
  | write =>
    cases hNext
    apply h.commitRow _ hStores
    intro stored hSame
    cases hSame
    rfl
  | delete =>
    cases hNext
    exact h.commitRow (fun stored hSame => absurd hSame.symm (Option.some_ne_none _)) hStores
  | begin databaseWritable databaseProbeCompleted =>
    obtain ⟨-, hSame⟩ := Option.ite_none_right_eq_some.mp hNext
    cases hSame
    exact kept_idle h.keyed h.cached ⟨rfl, rfl, rfl⟩
  | load force moment =>
    obtain ⟨-, hSame⟩ := Option.ite_none_right_eq_some.mp hNext
    cases hSame
    exact h.load force moment
  | change card reported =>
    obtain ⟨hPhase, hChange⟩ := Option.ite_none_right_eq_some.mp hNext
    obtain ⟨old, hOld, rfl⟩ := Option.map_eq_some_iff.mp hChange
    exact h.change hPhase hOld reported
  | observe =>
    obtain ⟨hPhase, hSame⟩ := Option.ite_none_right_eq_some.mp hNext
    cases hSame
    exact h.observe hPhase hStores
  | collect =>
    obtain ⟨-, hSame⟩ := Option.ite_none_right_eq_some.mp hNext
    cases hSame
    exact h.addCandidate
  | latch =>
    obtain ⟨-, hSame⟩ := Option.ite_none_right_eq_some.mp hNext
    cases hSame
    unfold CycleState.latchPendingStopBreach
    split
    · exact h
    · exact h.addCandidate
  | finish =>
    obtain ⟨hPhase, hSame⟩ := Option.ite_none_right_eq_some.mp hNext
    cases hSame
    exact h.finish hPhase
  | persist =>
    obtain ⟨hPhase, hWrite⟩ := Option.ite_none_right_eq_some.mp hNext
    cases hKeys : world.worker.toPersist with
    | nil =>
      rw [hKeys] at hWrite
      cases hWrite
    | cons key =>
      rw [hKeys] at hWrite
      obtain ⟨object, hObject, rfl⟩ := Option.map_eq_some_iff.mp hWrite
      apply h.persist hPhase hObject
      intro row hRow
      apply hStores (key, row)
      simp [nextStored, hKeys, hObject, hRow]
  | settle =>
    obtain ⟨hPhase, hSame⟩ := Option.ite_none_right_eq_some.mp hNext
    cases hSame
    exact h.settle hPhase.1
  | acknowledge =>
    obtain ⟨-, hPop⟩ := Option.ite_none_right_eq_some.mp hNext
    cases hBreaches : world.worker.toAcknowledge with
    | nil =>
      rw [hBreaches] at hPop
      cases hPop
    | cons breach =>
      rw [hBreaches] at hPop
      cases hPop
      refine ⟨h.keyed, h.cached, h.durable, h.unwritten, h.persisted, ?_⟩
      intro other hOther
      apply h.acknowledged other
      rw [hBreaches]
      exact List.mem_cons_of_mem breach hOther
  | stop =>
    cases hNext
    exact kept_idle h.keyed h.cached ⟨rfl, rfl, rfl⟩

/-- A worker that has just been started, beside any table. -/
def started (rows : TradeCardRows) (crossDeviceOperatorSync : Bool) : RuntimeWorld :=
  { rows := rows
    worker := { cache := { crossDeviceOperatorSync := crossDeviceOperatorSync } } }

theorem kept_started {rows : TradeCardRows} {crossDeviceOperatorSync : Bool}
    (hKeyed : ∀ key row, rows.get? key = some row → row.card.cardKey = key) :
    (started rows crossDeviceOperatorSync).Kept :=
  kept_idle hKeyed (fun _ hCard => absurd hCard List.not_mem_nil) ⟨rfl, rfl, rfl⟩

end RuntimeWorld

open RuntimeWorld

/-- In every run that meets `StoresLiquidations`, a breach is acknowledged only when the
stored card has to be liquidated or was closed since. -/
theorem breach_acknowledged_after_stored {rows : TradeCardRows} {crossDeviceOperatorSync : Bool}
    {world : RuntimeWorld} {breach : BreachIdentity}
    (hKeyed : ∀ key row, rows.get? key = some row → row.card.cardKey = key)
    (hRun : RunWith RuntimeWorld.Step StoresLiquidations
      (started rows crossDeviceOperatorSync) world)
    (hAcknowledged : world.nextAcknowledged = some breach) :
    world.LiquidationStored breach.cardKey := by
  have hKept : world.Kept := by
    apply RunWith.invariant (I := RuntimeWorld.Kept) hRun (kept_started hKeyed)
    intro before label after hBefore hStores hStep
    exact hBefore.next hStores hStep
  obtain ⟨-, hHead⟩ := Option.ite_none_right_eq_some.mp hAcknowledged
  exact hKept.acknowledged breach (List.mem_of_head? hHead)

def watchedCard : TradeCardState :=
  { environment := "PROD", accountNo := "1", symbol := "AAPL", boardStatus := .openPosition
    positionRuntimeStatus := .opened, brokerQuantity := 10, activeStopPrice := some 95 }

/-- What `evaluate_quote` makes of the card at its stop. -/
def breachedCard : TradeCardState :=
  { watchedCard with
    exitAllRequired := true, boardStatus := .sellAll, positionRuntimeStatus := .liquidating }

def watchedRows : TradeCardRows :=
  (∅ : TradeCardRows).set watchedCard.cardKey { card := watchedCard, updatedAt := 0 }

/-- A cycle up to its writes: the cards are loaded, and a quote breaches the stop. -/
def breachedCycle : List CycleLabel :=
  [.begin true true, .load false { now := 0 }, .observe (fun _ => true),
    .change breachedCard true, .collect watchedCard.cardKey "1", .finish]

theorem breach_acknowledged_after_stored_written :
    ∃ (world : RuntimeWorld) (breach : BreachIdentity), world.nextAcknowledged = some breach ∧
      world.LiquidationStored breach.cardKey := by
  have hKeyed : ∀ key row, watchedRows.get? key = some row → row.card.cardKey = key := by
    intro key row hRow
    obtain ⟨hKey, rfl⟩ : key = watchedCard.cardKey ∧ _ = row := by
      simpa [watchedRows, Dictionary.get?_set] using hRow
    exact hKey.symm
  have hRun : ∃ world, RunWith RuntimeWorld.Step StoresLiquidations (started watchedRows false)
      world ∧ (world.nextAcknowledged).isSome = true := by
    refine ⟨_, RunWith.of_labels (fun _ _ _ hNext => hNext)
      (fun _ _ hAdmitted => of_decide_eq_true hAdmitted)
      (show runLabels RuntimeWorld.next (fun world label => decide (StoresLiquidations world label))
        (breachedCycle ++ [.persist 1 .committed, .settle]) _ = some _ from rfl), ?_⟩
    decide
  obtain ⟨world, hWorld, hSome⟩ := hRun
  obtain ⟨breach, hBreach⟩ := Option.isSome_iff_exists.mp hSome
  exact ⟨world, breach, hBreach, breach_acknowledged_after_stored hKeyed hWorld hBreach⟩

/-- The write of the first cycle fails, the cache serves the card again, and the second cycle
acknowledges the breach of a card that no stored row says has to be liquidated. -/
theorem unstored_breach_acknowledged :
    ∃ (world : RuntimeWorld) (breach : BreachIdentity),
      RunWith RuntimeWorld.Step (fun _ _ => True) (started watchedRows false) world ∧
      world.nextAcknowledged = some breach ∧ ¬ world.LiquidationStored breach.cardKey := by
  refine ⟨_, { symbol := "AAPL", cardKey := watchedCard.cardKey, version := "1" },
    RunWith.of_labels (fun _ _ _ hNext => hNext) (fun _ _ _ => trivial)
      (show runLabels RuntimeWorld.next (fun _ _ => true)
        (breachedCycle ++ [.persist 1 (.notCommitted false), .settle, .stop,
          .begin true true, .load false { now := 1 }, .observe (fun _ => true),
          .collect watchedCard.cardKey "1", .finish, .settle]) _ = some _ from rfl), ?_, ?_⟩
  · decide
  · decide

end QuantApp.Services
