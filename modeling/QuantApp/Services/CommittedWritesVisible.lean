import QuantApp.Services.CachedAccountState
import QuantApp.Services.CachedCards
import QuantApp.Verified.LabelledRuns

/-!
# Committed writes are visible to the next cycle

What a call of either function returns are rows of a moment since the call started, in every
run in which no call ends in the silence of a writer: a transaction whose last mark is made
before the call reads its generation and whose commit takes effect only after the rows are
read.  The generation that such a call keeps is the one that the next calls find, so they are
given the old rows without a query.
-/

namespace QuantApp.Services

open Core Verified

section Runs

variable {Tx Reader : Type}

/-- A call returns rows that the table held at some moment since the call started. -/
def HeldSince {α : Type} (world : CacheWorld Tx Reader) (start : Nat)
    (read : CoordinationRows → α) (returned : α) : Prop :=
  ∃ n moment, start ≤ n ∧ world.moments[n]? = some moment ∧ returned = read moment.rows

variable (config : CacheConfig)

/-- Every call that has returned was given rows of a moment since it started, so they include
the writes of every transaction whose commit had taken effect by then. -/
structure CommitsVisible (world : CacheWorld Tx Reader) : Prop where
  cards : ∀ answer ∈ world.cards.answers, HeldSince world answer.1
    (fun rows => cardsOf (selectedCards config rows)) answer.2
  orders : ∀ answer ∈ world.states.answers, HeldSince world answer.start
    (listExecutionOrdersForAccount answer.key) answer.state.executionOrders
  reservations : ∀ answer ∈ world.states.answers, HeldSince world answer.start
    (listReservationsForAccount answer.key) answer.state.capitalReservations
  externals : ∀ answer ∈ world.states.answers, HeldSince world answer.start
    (listExternalOrdersForAccount answer.key) answer.state.externalOrders

/-- The condition on a step. -/
def ReadsHeard (world : CacheWorld Tx Reader) :
    CacheStep Tx Reader → Prop
  | .cards step => world.cards.Heard config (cardView config world) step
  | .states reader step => (world.states.calls reader).Heard world step
  | _ => True

/-- What every step keeps. -/
structure CacheWorld.Kept (config : CacheConfig) (world : CacheWorld Tx Reader) : Prop where
  keyed : Keyed TradeCardRow.key world.moment.rows.tradeCards
  grown : Grown (cardView config world)
  cards : world.cards.Kept config (cardView config world)
  states : world.states.Kept world

theorem heldSince_of_since {τ V : Type} {world : CacheWorld Tx Reader} {start : Nat}
    {token : CoordinationMoment → τ} {value : CoordinationRows → V}
    {done : TransactionStage → Prop} [PartialOrder τ] {returned : V}
    (h : (world.view token value done).Since start returned) :
    HeldSince world start value returned := by
  obtain ⟨n, hn, hValue⟩ := h
  obtain ⟨found, hFound, rfl⟩ := Option.map_eq_some_iff.mp hValue
  have hBound : n < (world.view token value done).log.length :=
    (List.getElem?_eq_some_iff.mp hFound).1
  have hLength : (world.view token value done).log.length = world.moments.length := by
    unfold CacheWorld.moments Published.log CacheWorld.view
    simp
  obtain ⟨moment, hMoment⟩ : ∃ moment, world.moments[n]? = some moment :=
    ⟨_, List.getElem?_eq_getElem (hLength ▸ hBound)⟩
  refine ⟨n, _, hn, hMoment, ?_⟩
  rw [view_moment hMoment] at hFound
  cases hFound
  rfl

theorem CacheWorld.Kept.visible {config : CacheConfig} {world : CacheWorld Tx Reader}
    (h : world.Kept config) : CommitsVisible config world where
  cards := by
    intro answer hMem
    obtain ⟨selected, hCards, hSince⟩ := h.cards.answers answer hMem
    obtain ⟨n, moment, hn, hMoment, hSelected⟩ := heldSince_of_since hSince
    exact ⟨n, moment, hn, hMoment, hCards.trans (congrArg cardsOf hSelected)⟩
  orders := fun answer hMem => heldSince_of_since (h.states.answers answer hMem).orders
  reservations := fun answer hMem =>
    heldSince_of_since (h.states.answers answer hMem).reservations
  externals := fun answer hMem => heldSince_of_since (h.states.answers answer hMem).externals

theorem CacheWorld.kept_start {moment : CoordinationMoment}
    (hKeyed : Keyed TradeCardRow.key moment.rows.tradeCards) :
    ({ moment := moment } : CacheWorld Tx Reader).Kept config where
  keyed := hKeyed
  grown := by
    intro n m a b _ ha hb
    obtain ⟨hn, rfl⟩ := List.getElem?_eq_some_iff.mp ha
    obtain ⟨hm, rfl⟩ := List.getElem?_eq_some_iff.mp hb
    have hFirst : n = 0 := Nat.lt_one_iff.mp hn
    have hSecond : m = 0 := Nat.lt_one_iff.mp hm
    subst hFirst hSecond
    exact StoredCardsGrow.refl _
  cards := ⟨fun _ hMem => absurd hMem List.not_mem_nil, (fun hNever => nomatch hNever), trivial,
    (fun _ _ _ _ hNever => nomatch hNever)⟩
  states := ⟨fun _ hMem => absurd hMem List.not_mem_nil, (fun _ _ hNever => nomatch hNever),
    fun _ => trivial⟩

variable [DecidableEq Tx] [DecidableEq Reader]

theorem CacheWorld.Kept.next {config : CacheConfig} {world after : CacheWorld Tx Reader}
    {step : CacheStep Tx Reader} (h : world.Kept config) (hHeard : ReadsHeard config world step)
    (hNext : world.next config step = some after) : after.Kept config := by
  have hCardStep : (cardView config world).Advances (cardView config after) :=
    (cards_discipline config).advances hNext
  have hStateStep : StateAdvances world after := stateAdvances hNext
  obtain ⟨hKeyed, hGrows⟩ : Keyed TradeCardRow.key after.moment.rows.tradeCards ∧
      StoredCardsGrow (selectedCards config world.moment.rows)
        (selectedCards config after.moment.rows) := next_grows h.keyed hNext
  -- The caches of the step are good before its moment is added, so they are after it.
  obtain ⟨hCards, hStates⟩ : after.cards.Kept config (cardView config world) ∧
      after.states.Kept world := by
    obtain ⟨acted, hAct, rfl⟩ := Option.map_eq_some_iff.mp hNext
    cases step with
    | transaction =>
      obtain ⟨moved, _, rfl⟩ := Option.map_eq_some_iff.mp hAct
      exact ⟨h.cards, h.states⟩
    | remote =>
      cases hAct
      exact ⟨h.cards, h.states⟩
    | cards =>
      obtain ⟨cards, hReader, rfl⟩ := Option.map_eq_some_iff.mp hAct
      have hLength : (cardView config world).past.length = world.past.length := List.length_map _
      rw [← hLength] at hReader
      exact ⟨h.cards.next h.grown rfl rfl hHeard hReader, h.states⟩
    | states =>
      obtain ⟨states, hReader, rfl⟩ := Option.map_eq_some_iff.mp hAct
      exact ⟨h.cards, h.states.next hHeard hReader⟩
  exact ⟨hKeyed, h.grown.advance hCardStep hGrows, hCards.advance hCardStep,
    hStates.advance hStateStep⟩

def CacheWorld.Steps (config : CacheConfig) (before : CacheWorld Tx Reader)
    (step : CacheStep Tx Reader) (after : CacheWorld Tx Reader) : Prop :=
  before.next config step = some after

/-- In every run whose calls meet the condition, every call returns rows of a moment since it
started. -/
theorem commits_visible {config : CacheConfig} {moment : CoordinationMoment}
    {world : CacheWorld Tx Reader} (hKeyed : Keyed TradeCardRow.key moment.rows.tradeCards)
    (hRun : RunWith (CacheWorld.Steps config) (ReadsHeard config) { moment := moment } world) :
    CommitsVisible config world := by
  have hKept : world.Kept config := hRun.invariant (CacheWorld.kept_start config hKeyed)
    (fun _ _ _ hBefore hHeard hStep => hBefore.next hHeard hStep)
  exact hKept.visible

end Runs

/-! ## Two runs of one device -/

/-- The worker of one device, whose fallback poll is switched off. -/
def sameDevice : CacheConfig :=
  { environment := "PROD"
    accountNo := "1"
    crossDevice := false
    interval := 5000000
    reconciliationCache := 30 }

def storedCard : TradeCardRow :=
  { card := { environment := "PROD", accountNo := "1", symbol := "AAPL" }, updatedAt := 0 }

def storedMoment : CoordinationMoment := { rows := { tradeCards := [storedCard] } }

theorem storedMoment_keyed : Keyed TradeCardRow.key storedMoment.rows.tradeCards :=
  List.nodup_singleton _

/-- A whole write transaction, and a call that queries the database. -/
def writeSteps : List (CacheStep Unit Unit) :=
  [.transaction () (.begin [.updateCard storedCard 1]), .transaction () .execute,
    .transaction () .mark, .transaction () .listen, .transaction () .takeEffect]

def loadSteps : List (CacheStep Unit Unit) :=
  [.cards (.begin 0 false), .cards .readLocal, .cards .readPulse, .cards .queryRevision,
    .cards .listCards]

/-- The card is loaded, changed and loaded again. -/
def loadedSteps : List (CacheStep Unit Unit) := loadSteps ++ writeSteps ++ loadSteps

/-- No transaction is under way at the queries of the worker, and none of them fails. -/
def queriesAlone (world : CacheWorld Unit Unit) : CacheStep Unit Unit → Bool
  | .cards .queryRevision | .cards .listCards =>
    match world.transactions () with
    | .outside => true
    | _ => false
  | .cards .listFails => false
  | .states _ _ => false
  | _ => true

theorem readsHeard_of_queriesAlone {world : CacheWorld Unit Unit} {step : CacheStep Unit Unit}
    (h : queriesAlone world step = true) : ReadsHeard sameDevice world step := by
  have hSilent : ∀ stage, world.transactions () = stage → stage = .outside →
      ¬ (cardView sameDevice world).silent := by
    rintro stage hStage rfl ⟨⟨⟩, hDone⟩
    rw [hStage] at hDone
    exact hDone
  cases step with
  | transaction | remote => trivial
  | cards step =>
    cases step with
    | queryRevision =>
      dsimp only [queriesAlone] at h
      split at h
      next hOutside => exact fun _ _ _ _ _ _ _ _ => hSilent _ hOutside rfl
      next => cases h
    | listCards =>
      dsimp only [queriesAlone] at h
      split at h
      next hOutside => exact fun _ _ _ _ _ _ => hSilent _ hOutside rfl
      next => cases h
    | listFails => cases h
    | _ => trivial
  | states => cases h

theorem commits_visible_loaded : ∃ world : CacheWorld Unit Unit,
    RunWith (CacheWorld.Steps sameDevice) (ReadsHeard sameDevice) { moment := storedMoment }
      world ∧
    world.cards.answers.map (fun answer => answer.2.map (fun card => card.version)) =
      [[1], [2]] ∧ CommitsVisible sameDevice world := by
  have hEnd : (runLabels (CacheWorld.next sameDevice) queriesAlone loadedSteps
      { moment := storedMoment }).map (fun world => world.cards.answers.map
        (fun answer => answer.2.map (fun card => card.version))) = some [[1], [2]] := by
    decide +kernel
  obtain ⟨world, hWorld, hAnswers⟩ := Option.map_eq_some_iff.mp hEnd
  have hRun : RunWith (CacheWorld.Steps sameDevice) (ReadsHeard sameDevice)
      { moment := storedMoment } world :=
    RunWith.of_labels (fun _ _ _ hNext => hNext) (fun _ _ => readsHeard_of_queriesAlone) hWorld
  exact ⟨world, hRun, hAnswers, commits_visible storedMoment_keyed hRun⟩

/-- The worker loads the cards between the mark of a card update and its commit, and once
more after the commit has taken effect. -/
def overtakenLoadSteps : List (CacheStep Unit Unit) :=
  writeSteps.take 3 ++ loadSteps ++ writeSteps.drop 3 ++ loadSteps.take 3

theorem committed_card_not_returned : ∃ world : CacheWorld Unit Unit,
    RunWith (CacheWorld.Steps sameDevice) (fun _ _ => True) { moment := storedMoment } world ∧
      ¬ CommitsVisible sameDevice world := by
  have hAnswers : (runLabels (CacheWorld.next sameDevice) (fun _ _ => true) overtakenLoadSteps
      { moment := storedMoment }).map (fun world => world.cards.answers.map
        (fun answer => (answer.1, answer.2.map (fun card => card.version)))) =
        some [(3, [1]), (10, [1])] := by
    decide +kernel
  have hMoments : (runLabels (CacheWorld.next sameDevice) (fun _ _ => true) overtakenLoadSteps
      { moment := storedMoment }).map (fun world => (world.moments.map (fun moment =>
        (cardsOf (selectedCards sameDevice moment.rows)).map
          (fun card => card.version))).drop 10) = some [[2], [2], [2], [2]] := by
    decide +kernel
  obtain ⟨world, hWorld, hReturned⟩ := Option.map_eq_some_iff.mp hAnswers
  rw [hWorld] at hMoments
  have hVersions : (world.moments.map (fun moment =>
      (cardsOf (selectedCards sameDevice moment.rows)).map
        (fun card => card.version))).drop 10 = [[2], [2], [2], [2]] := Option.some.inj hMoments
  refine ⟨world, RunWith.of_labels (fun _ _ _ hNext => hNext) (fun _ _ _ => trivial) hWorld, ?_⟩
  intro hVisible
  obtain ⟨answer, hAnswer, hEq⟩ := List.mem_map.mp
    (show (10, [(1 : Int)]) ∈ world.cards.answers.map
      (fun answer => (answer.1, answer.2.map (fun card => card.version))) by
        rw [hReturned]
        exact List.mem_cons_of_mem _ List.mem_cons_self)
  simp only [Prod.mk.injEq] at hEq
  obtain ⟨hStart, hOld⟩ := hEq
  obtain ⟨n, moment, hn, hMoment, hRead⟩ := hVisible.cards answer hAnswer
  -- From the tenth moment on, the stored card has version 2.
  have hListed : (cardsOf (selectedCards sameDevice moment.rows)).map
      (fun card => card.version) ∈ (world.moments.map (fun moment =>
        (cardsOf (selectedCards sameDevice moment.rows)).map (fun card => card.version))).drop
          10 := by
    refine List.mem_iff_getElem?.mpr ⟨n - 10, ?_⟩
    rw [List.getElem?_drop, List.getElem?_map, show 10 + (n - 10) = n from by omega, hMoment]
    rfl
  have hVersion : (cardsOf (selectedCards sameDevice moment.rows)).map
      (fun card => card.version) = [1] := by
    rw [← hOld, hRead]
  rw [hVersions, hVersion] at hListed
  revert hListed
  decide

end QuantApp.Services
