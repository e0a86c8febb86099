import Mathlib.Logic.Function.Basic
import QuantApp.Services.CardPersistence
import QuantApp.Verified.LabelledRuns

/-!
# The local snapshot of the cards

`create_trade_card`, `update_trade_card` and `sync_trade_card_local_snapshot` of
`services/trade_card_repository.py` on several threads. After its commit a call loads the snapshot
file, and later it replaces the file by what it loaded with its own card. A call that a version
conflict refuses leaves the rows and the file alone.
-/

namespace QuantApp.Services

open Core Function Verified

/-- The stored rows, the records of the file, the cards that calls have committed and not yet
saved, and what the calls have loaded. -/
structure SnapshotWorld where
  stored : CardKey → Option CompleteCard := fun _ => none
  file : List CardPayload := []
  busy : Nat → Option CompleteCard := fun _ => none
  loaded : Nat → Option (List CompleteCard) := fun _ => none

def saveLocalTradeCardsSnapshot (cards : List CompleteCard) : List CardPayload := cards.map toDict

def loadLocalTradeCardsSnapshot (clock : ConstructionClock) (file : List CardPayload) :
    List CompleteCard :=
  file.filterMap (fun raw => (fromDict clock raw).toOption)

/-- `_upsert_local_snapshot_card`, between its load and its save. -/
def upsertSnapshotCard (card : CompleteCard) (cards : List CompleteCard) : List CompleteCard :=
  cards.filter (·.cardKey ≠ card.cardKey) ++ [card]

/-- The card as a write of a version leaves it. -/
def CompleteCard.atVersion (card : CompleteCard) (version : Int) : CompleteCard :=
  card.withState { card.toTradeCardState with version := version }

/-- A commit of `create_trade_card` or `update_trade_card`, or of a transaction whose card is synced
later, and the two parts of the sync. -/
inductive SnapshotStep
  | create (call : Nat) (card : CompleteCard)
  | update (call : Nat) (card : CompleteCard) (expectedVersion : Int)
  | load (call : Nat) (clock : ConstructionClock)
  | save (call : Nat)

namespace SnapshotWorld

variable (world : SnapshotWorld)

def commit (call : Nat) (card : CompleteCard) : SnapshotWorld :=
  { world with
    stored := update world.stored card.cardKey (some card)
    busy := update world.busy call (some card) }

/-- A commit of a call that is not in progress, or the next part of one that is. -/
def next : SnapshotStep → Option SnapshotWorld
  | .create call card =>
    if world.busy call = none ∧ world.stored card.cardKey = none then
      some (world.commit call (card.atVersion 1))
    else none
  | .update call card expectedVersion =>
    if world.busy call = none ∧
        (world.stored card.cardKey).any (fun row => row.version = expectedVersion) then
      some (world.commit call (card.atVersion (expectedVersion + 1)))
    else none
  | .load call clock =>
    if world.busy call = none then none
    else
      some { world with
        loaded := update world.loaded call (some (loadLocalTradeCardsSnapshot clock world.file)) }
  | .save call =>
    match world.busy call, world.loaded call with
    | some card, some cards =>
      some { world with
        file := saveLocalTradeCardsSnapshot (upsertSnapshotCard card cards)
        busy := update world.busy call none
        loaded := update world.loaded call none }
    | _, _ => none

/-- The file has one record for every card with a row, the card as it was committed last. -/
def FollowsDatabase : Prop :=
  ∃ cards, world.file = saveLocalTradeCardsSnapshot cards ∧
    (cards.map (fun card => card.cardKey)).Nodup ∧
    ∀ card, card ∈ cards ↔ world.stored card.cardKey = some card

/-- The call is to save the card, and no later commit has replaced it. -/
def Holds (call : Nat) (card : CompleteCard) : Prop :=
  world.busy call = some card ∧ world.stored card.cardKey = some card

def Restorable (card : CompleteCard) : Prop :=
  Normalized card ∧ SurvivesRestart card.toTradeCardState

/-- A committed card survives a restart. A save is of the card as it was committed last, or a call
that holds it is in progress, and no call of another card has loaded the file. -/
def InTurn : SnapshotStep → Prop
  | .create _ card => Restorable (card.atVersion 1)
  | .update _ card expectedVersion => Restorable (card.atVersion (expectedVersion + 1))
  | .load _ _ => True
  | .save call => ∀ card, world.busy call = some card →
    (∃ other held, world.Holds other held ∧ held.cardKey = card.cardKey) ∧
    ∀ other waiting, world.busy other = some waiting → world.loaded other ≠ none →
      waiting.cardKey = card.cardKey

/-- The record of a card reads back as the card. -/
def ReadsBack (card : CompleteCard) : Prop := ∀ clock, fromDict clock (toDict card) = .ok card

/-- What the steps in turn keep: a card that no call holds is in the file as it was committed last,
and what a call has loaded differs from the file in its own card only. -/
structure Kept (cards : List CompleteCard) : Prop where
  file : world.file = saveLocalTradeCardsSnapshot cards
  keyed : (cards.map (fun card => card.cardKey)).Nodup
  reads : ∀ card ∈ cards, ReadsBack card
  current : ∀ card, (∀ other held, world.Holds other held → held.cardKey ≠ card.cardKey) →
    (card ∈ cards ↔ world.stored card.cardKey = some card)
  pending : ∀ other busy, world.busy other = some busy → ReadsBack busy
  loaded : ∀ other found, world.loaded other = some found → ∃ busy, world.busy other = some busy ∧
    found.filter (·.cardKey ≠ busy.cardKey) = cards.filter (·.cardKey ≠ busy.cardKey)

variable {world : SnapshotWorld} {cards : List CompleteCard} {card : CompleteCard} {call : Nat}

theorem Restorable.readsBack (h : Restorable card) : ReadsBack card :=
  fun clock => (fromDict_toDict_eq_self_iff clock h.1).mpr h.2

theorem load_save (h : ∀ card ∈ cards, ReadsBack card) (clock : ConstructionClock) :
    loadLocalTradeCardsSnapshot clock (saveLocalTradeCardsSnapshot cards) = cards := by
  induction cards with
  | nil => rfl
  | cons card rest ih =>
    have hRest := ih (fun other hOther => h other (List.mem_cons_of_mem _ hOther))
    unfold loadLocalTradeCardsSnapshot saveLocalTradeCardsSnapshot at *
    rw [List.map_cons, List.filterMap_cons, h card List.mem_cons_self clock]
    exact congrArg (card :: ·) hRest

theorem Kept.commit (h : world.Kept cards) (hReads : ReadsBack card)
    (hFree : world.busy call = none) : (world.commit call card).Kept cards where
  file := h.file
  keyed := h.keyed
  reads := h.reads
  current := by
    intro other hIdle
    have hNew : card.cardKey ≠ other.cardKey := hIdle call card ⟨update_self .., update_self ..⟩
    have hOld := h.current other (fun caller held hHeld => by
      by_cases hSame : held.cardKey = card.cardKey
      · rwa [hSame]
      · refine hIdle caller held ⟨(update_of_ne ?_ ..).trans hHeld.1,
          (update_of_ne hSame ..).trans hHeld.2⟩
        rintro rfl
        cases hFree.symm.trans hHeld.1)
    exact hOld.trans (by simp [SnapshotWorld.commit, update_of_ne hNew.symm])
  pending := by
    intro other busy hBusy
    by_cases hSame : other = call
    · subst hSame
      cases (update_self ..).symm.trans hBusy
      exact hReads
    · exact h.pending other busy ((update_of_ne hSame ..).symm.trans hBusy)
  loaded := by
    intro other found hFound
    obtain ⟨busy, hBusy, hRest⟩ := h.loaded other found hFound
    refine ⟨busy, (update_of_ne ?_ ..).trans hBusy, hRest⟩
    rintro rfl
    cases hFree.symm.trans hBusy

theorem Kept.load (h : world.Kept cards) (hBusy : world.busy call = some card)
    (clock : ConstructionClock) :
    Kept { world with
      loaded := update world.loaded call (some (loadLocalTradeCardsSnapshot clock world.file)) }
      cards where
  file := h.file
  keyed := h.keyed
  reads := h.reads
  current := h.current
  pending := h.pending
  loaded := by
    intro other found hFound
    by_cases hSame : other = call
    · subst hSame
      cases (update_self ..).symm.trans hFound
      rw [h.file, load_save h.reads clock]
      exact ⟨card, hBusy, rfl⟩
    · exact h.loaded other found ((update_of_ne hSame ..).symm.trans hFound)

theorem Kept.save (h : world.Kept cards) (hBusy : world.busy call = some card)
    (hTurn : world.InTurn (.save call)) :
    Kept { world with
      file := saveLocalTradeCardsSnapshot (upsertSnapshotCard card cards)
      busy := update world.busy call none
      loaded := update world.loaded call none } (upsertSnapshotCard card cards) where
  file := rfl
  keyed := by
    have hRest : ((cards.filter (·.cardKey ≠ card.cardKey)).map (fun card => card.cardKey)).Nodup :=
      h.keyed.sublist (List.filter_sublist.map _)
    unfold upsertSnapshotCard
    rw [List.map_append, List.map_singleton]
    refine hRest.append (List.nodup_singleton _) ?_
    simp [List.disjoint_singleton]
  reads := by
    exact forall_mem_concat (fun other hOld => h.reads other (List.mem_filter.mp hOld).1)
      (h.pending call _ hBusy)
  current := by
    intro other hIdle
    have hStill {caller : Nat} {held : CompleteCard} (hCaller : caller ≠ call)
        (hHeld : world.Holds caller held) : held.cardKey ≠ other.cardKey :=
      hIdle caller held ⟨(update_of_ne hCaller ..).trans hHeld.1, hHeld.2⟩
    by_cases hSame : other.cardKey = card.cardKey
    · obtain ⟨caller, held, hHeld, hKey⟩ := (hTurn card hBusy).1
      have hCaller : caller = call := by
        by_contra hOther
        exact hStill hOther hHeld (hKey.trans hSame.symm)
      subst hCaller
      cases hBusy.symm.trans hHeld.1
      simp [upsertSnapshotCard, hSame, hHeld.2, eq_comm]
    · have hOld := h.current other (fun caller held hHeld => by
        by_cases hCaller : caller = call
        · subst hCaller
          cases hBusy.symm.trans hHeld.1
          exact Ne.symm hSame
        · exact hStill hCaller hHeld)
      have hNot : other ≠ card := fun hEq => hSame (hEq ▸ rfl)
      simpa [upsertSnapshotCard, hSame, hNot] using hOld
  pending := by
    intro other busy hFound
    by_cases hCaller : other = call
    · subst hCaller
      cases (update_self ..).symm.trans hFound
    · exact h.pending other busy ((update_of_ne hCaller ..).symm.trans hFound)
  loaded := by
    intro other found hFound
    by_cases hCaller : other = call
    · subst hCaller
      cases (update_self ..).symm.trans hFound
    · have hOld := (update_of_ne hCaller ..).symm.trans hFound
      obtain ⟨busy, hOther, hRest⟩ := h.loaded other found hOld
      have hKey := (hTurn card hBusy).2 other busy hOther (by simp [hOld])
      refine ⟨busy, (update_of_ne hCaller ..).trans hOther, hRest.trans ?_⟩
      simp [upsertSnapshotCard, hKey]

theorem Kept.next {after : SnapshotWorld} (h : world.Kept cards) (step : SnapshotStep)
    (hTurn : world.InTurn step) (hNext : world.next step = some after) :
    ∃ cards, after.Kept cards := by
  cases step <;> dsimp only [SnapshotWorld.next] at hNext <;> split at hNext
  case create.isTrue call card hFree =>
    cases hNext
    exact ⟨cards, h.commit (Restorable.readsBack hTurn) hFree.1⟩
  case update.isTrue call card expectedVersion hFree =>
    cases hNext
    exact ⟨cards, h.commit (Restorable.readsBack hTurn) hFree.1⟩
  case load.isFalse call clock hBusy =>
    cases hNext
    obtain ⟨card, hCard⟩ := Option.ne_none_iff_exists'.mp hBusy
    exact ⟨cards, h.load hCard clock⟩
  case h_1 call _ _ card found hBusy hLoaded =>
    cases hNext
    obtain ⟨busy, hCaller, hRest⟩ := h.loaded call found hLoaded
    cases hBusy.symm.trans hCaller
    unfold upsertSnapshotCard
    rw [hRest]
    exact ⟨_, h.save hBusy hTurn⟩
  all_goals cases hNext

theorem kept_start : ({} : SnapshotWorld).Kept [] where
  file := rfl
  keyed := List.nodup_nil
  reads := fun _ hCard => absurd hCard List.not_mem_nil
  current := fun _ _ => iff_of_false List.not_mem_nil (Option.some_ne_none _).symm
  pending := fun _ _ hBusy => absurd hBusy.symm (Option.some_ne_none _)
  loaded := fun _ _ hFound => absurd hFound.symm (Option.some_ne_none _)

/-- A step of a call. -/
def Steps (before : SnapshotWorld) (step : SnapshotStep) (after : SnapshotWorld) : Prop :=
  before.next step = some after

/-- After every run whose steps are all taken in turn, and whose calls have returned, the snapshot
follows the database. -/
theorem snapshot_follows_database {world : SnapshotWorld} (hRun : RunWith Steps InTurn {} world)
    (hReturned : ∀ call, world.busy call = none) : world.FollowsDatabase := by
  have hKept : ∃ cards, world.Kept cards := by
    apply hRun.invariant ⟨[], kept_start⟩
    rintro before step after ⟨cards, hBefore⟩ hTurn hNext
    exact hBefore.next step hTurn hNext
  obtain ⟨cards, hKept⟩ := hKept
  refine ⟨cards, hKept.file, hKept.keyed, fun card => hKept.current card ?_⟩
  intro other held hHeld
  cases (hReturned other).symm.trans hHeld.1

def listedCard (symbol : String) : CompleteCard :=
  { environment := "PROD", accountNo := "1", symbol }

/-- One card is created, and its call returns. -/
theorem snapshot_follows_database_created :
    ∃ world : SnapshotWorld, world.file = [toDict (listedCard "AAPL")] ∧ world.FollowsDatabase := by
  have hCard : Restorable (listedCard "AAPL") :=
    ⟨@postInit_normalized _ {}
      { environment := some "PROD", accountNo := some "1", symbol := some "AAPL" }
      (by decide +kernel),
      fun _ h => absurd h.symm (Option.some_ne_none _),
      fun _ h => absurd h.symm (Option.some_ne_none _), fun _ => ⟨.inl rfl, rfl⟩⟩
  let created : SnapshotWorld := commit {} 0 (listedCard "AAPL")
  let read : SnapshotWorld := { created with loaded := update created.loaded 0 (some []) }
  let saved : SnapshotWorld :=
    { read with
      file := [toDict (listedCard "AAPL")]
      busy := update read.busy 0 none
      loaded := update read.loaded 0 none }
  have hCreate : Steps {} (.create 0 (listedCard "AAPL")) created := rfl
  have hLoad : Steps created (.load 0 {}) read := rfl
  have hSave : Steps read (.save 0) saved := rfl
  have hTurn : read.InTurn (.save 0) := by
    intro card hCard
    cases hCard
    refine ⟨⟨0, listedCard "AAPL", ⟨rfl, rfl⟩, rfl⟩, ?_⟩
    intro other waiting hWaiting _
    cases other <;> cases hWaiting
    rfl
  have hRun := (((RunWith.refl {}).step hCard hCreate).step trivial hLoad).step hTurn hSave
  refine ⟨saved, rfl, snapshot_follows_database hRun ?_⟩
  intro call
  cases call <;> rfl

/-- Two calls load the file before either saves it: the second save drops the first card. -/
def overlappingSteps : List SnapshotStep :=
  [.create 0 (listedCard "AAPL"), .create 1 (listedCard "MSFT"), .load 0 {}, .load 1 {},
    .save 0, .save 1]

theorem snapshot_drops_card : ¬ ∀ world, RunWith Steps (fun _ _ => True) {} world →
    (∀ call, world.busy call = none) → world.FollowsDatabase := by
  intro hAll
  have hEnd : ∃ world, runLabels next (fun _ _ => true) overlappingSteps {} = some world ∧
      world.file = [toDict (listedCard "MSFT")] ∧
      world.stored (listedCard "AAPL").cardKey = some (listedCard "AAPL") ∧
      world.stored (listedCard "MSFT").cardKey = some (listedCard "MSFT") ∧
      ∀ call, world.busy call = none := by
    refine ⟨_, rfl, rfl, rfl, rfl, ?_⟩
    intro call
    rcases call with _ | _ | call <;> rfl
  obtain ⟨world, hSteps, hFile, hApple, hMicrosoft, hReturned⟩ := hEnd
  obtain ⟨cards, hSaved, -, hCards⟩ := hAll world
    (RunWith.of_labels (fun _ _ _ hNext => hNext) (fun _ _ _ => trivial) hSteps) hReturned
  have hLength : cards.length = 1 := by
    rw [hFile] at hSaved
    simpa [saveLocalTradeCardsSnapshot] using congrArg List.length hSaved.symm
  obtain ⟨card, rfl⟩ := List.length_eq_one_iff.mp hLength
  have hFirst := List.mem_singleton.mp ((hCards _).mpr hApple)
  have hSecond := List.mem_singleton.mp ((hCards _).mpr hMicrosoft)
  exact absurd (congrArg (fun card => card.symbol) (hFirst.trans hSecond.symm)) (by decide)

end SnapshotWorld

end QuantApp.Services
