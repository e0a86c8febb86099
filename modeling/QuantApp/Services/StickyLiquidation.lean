import QuantApp.Services.EngineEvents
import QuantApp.Services.FlatConfirmation

/-!
# A liquidation decision sticks

A card with `exit_all_required` outside the planning and entry columns is followed through
any calls of the engine until `confirm_flat` closes it.  Nothing submits an entry for it,
clears the flag or moves it back, as long as its working BUY does not end empty while the
card counts no shares, and no replacement of that BUY is resumed.  The branches of
`_apply_entry_resolution` for a BUY that ended without a fill were written for cards without
a position: they put the card into BUYLIST or BUY_TODAY whatever its exit flag says.
-/

namespace QuantApp.Services

open Core Verified

variable {card before after : TradeCardState}

/-- The card is to be sold, and it stands in none of the columns that lead to an entry. -/
structure Liquidating (card : TradeCardState) : Prop where
  required : card.exitAllRequired = true
  notBuylist : card.boardStatus ≠ .buylist
  notBuyToday : card.boardStatus ≠ .buyToday
  notEntryPending : card.boardStatus ≠ .entryPending

/-- A liquidating card stays one. -/
def KeepsLiquidating (before after : TradeCardState) : Prop :=
  Liquidating before → Liquidating after

theorem Liquidating.of_same (h : Liquidating before)
    (hExit : before.exitAllRequired = true → after.exitAllRequired = true)
    (hBoard : after.boardStatus = before.boardStatus) : Liquidating after :=
  { required := hExit h.required
    notBuylist := by rw [hBoard]; exact h.notBuylist
    notBuyToday := by rw [hBoard]; exact h.notBuyToday
    notEntryPending := by rw [hBoard]; exact h.notEntryPending }

theorem keepsLiquidating_placeRules : PlaceRules KeepsLiquidating := by
  constructor
  · intro card h
    exact h
  · intro a b c hab hbc h
    exact hbc (hab h)
  · intro before after hPlace h
    exact h.of_same (fun hExit => hPlace.exitFlag.trans hExit) hPlace.board
  · intro before after _ hBoard hExit h
    exact h.of_same (fun _ => hExit) hBoard
  · intro before after _ hBoard hExit h
    constructor
    · exact hExit h.required
    all_goals rw [hBoard]; simp

theorem completePartialExit_liquidating (config : ExecutionConfig) (remaining : Int)
    (card : TradeCardState) :
    KeepsLiquidating card (completePartialExit config card remaining) := by
  intro h
  have hPlaced : (completePartialExit config card remaining).exitAllRequired = true ∧
      (completePartialExit config card remaining).boardStatus = .openPosition := by
    have hExit : (clearExitCancelTracking card).exitAllRequired = true := h.required
    unfold completePartialExit
    dsimp only
    split
    · refine ⟨?_, rfl⟩
      show (onPartialExitFilled config (clearExitCancelTracking card)
        remaining).exitAllRequired = true
      unfold onPartialExitFilled applyBreakevenStop
      dsimp only
      split <;> exact hExit
    · exact ⟨hExit, rfl⟩
  constructor
  · exact hPlaced.1
  all_goals rw [hPlaced.2]; simp

theorem keepsLiquidating_rules (runtime : EngineRuntime) (answers : ExitAnswers) :
    ExitRules KeepsLiquidating runtime answers :=
  { keepsLiquidating_placeRules with
    counted := fun _ _ h => h.of_same id rfl
    completed := fun {remaining} _ card =>
      completePartialExit_liquidating runtime.config remaining card }

/-! ## The entry stage -/

/-- A liquidating card keeps its column or is opened. -/
structure ColumnKept (before after : TradeCardState) : Prop where
  exitFlag : after.exitAllRequired = before.exitAllRequired
  board : after.boardStatus = before.boardStatus ∨ after.boardStatus = .openPosition

theorem ColumnKept.refl (card : TradeCardState) : ColumnKept card card := ⟨rfl, Or.inl rfl⟩

theorem ColumnKept.trans {a b c : TradeCardState} (hab : ColumnKept a b) (hbc : ColumnKept b c) :
    ColumnKept a c := by
  constructor
  · exact hbc.exitFlag.trans hab.exitFlag
  · rcases hbc.board with hSame | hOpened
    · rw [hSame]
      exact hab.board
    · exact Or.inr hOpened

theorem ColumnKept.liquidating (h : ColumnKept before after) : KeepsLiquidating before after := by
  intro hBefore
  rcases h.board with hSame | hOpened
  · exact hBefore.of_same (fun hExit => h.exitFlag.trans hExit) hSame
  · constructor
    · exact h.exitFlag.trans hBefore.required
    all_goals rw [hOpened]; simp

theorem SamePlace.columnKept (h : SamePlace before after) : ColumnKept before after :=
  ⟨h.exitFlag, Or.inl h.board⟩

section Entry

variable {runtime : EngineRuntime} {card : TradeCardState} {order : BrokerOrder}

section

variable (holding : Option BrokerHolding)
include holding

theorem applyCumulativeFill_column :
    ColumnKept card (applyCumulativeFill card order holding).1 := by
  unfold applyCumulativeFill
  cases holding with
  | some => exact ⟨rfl, Or.inl rfl⟩
  | none =>
    dsimp only
    split <;> exact ⟨rfl, Or.inl rfl⟩

theorem protectNewFill_column : ColumnKept card (protectNewFill card order holding).1 := by
  apply (applyCumulativeFill_column holding).trans
  unfold protectNewFill
  dsimp only
  split <;> split <;> first | exact ⟨rfl, Or.inl rfl⟩ | exact ⟨rfl, Or.inr rfl⟩

theorem protectNewFill_order :
    (protectNewFill card order holding).2.status = order.status ∧
      (protectNewFill card order holding).2.filledQuantity = order.filledQuantity := by
  have hApplied : (applyCumulativeFill card order holding).2.status = order.status ∧
      (applyCumulativeFill card order holding).2.filledQuantity = order.filledQuantity := by
    unfold applyCumulativeFill
    cases holding with
    | some => exact ⟨rfl, rfl⟩
    | none =>
      dsimp only
      split <;> exact ⟨rfl, rfl⟩
  unfold protectNewFill
  dsimp only
  split <;> exact hApplied

/-- The quantity after a fill: what the broker reports, or the fill on top of it. -/
theorem protectNewFill_quantity :
    (protectNewFill card order holding).1.brokerQuantity =
      match holding with
      | some found => found.quantity
      | none => card.brokerQuantity + max 0 (order.filledQuantity - order.appliedFilledQuantity)
      := by
  have hApplied : (protectNewFill card order holding).1.brokerQuantity =
      (applyCumulativeFill card order holding).1.brokerQuantity := by
    unfold protectNewFill
    dsimp only
    split <;> split <;> rfl
  rw [hApplied]
  unfold applyCumulativeFill
  cases holding with
  | some => rfl
  | none =>
    dsimp only
    split
    · rfl
    · show card.brokerQuantity = _
      omega

theorem resolveFilled_column : ColumnKept card (resolveFilled card order holding).1 := by
  have hFilled : ColumnKept card (protectNewFill card order holding).1 :=
    protectNewFill_column holding
  apply hFilled.trans
  unfold resolveFilled
  dsimp only
  split <;> exact ⟨rfl, Or.inl rfl⟩

theorem resolveCancelledWithFill_column :
    ColumnKept card (resolveCancelledWithFill card order holding).1 := by
  have hFilled : ColumnKept card
      (if card.brokerQuantity ≤ 0 then protectNewFill card order holding
        else (card, order)).1 := by
    split
    · exact protectNewFill_column holding
    · exact ColumnKept.refl card
  apply hFilled.trans
  unfold resolveCancelledWithFill
  generalize (if card.brokerQuantity ≤ 0 then protectNewFill card order holding
    else (card, order)) = filled
  dsimp only
  split <;> split <;> exact ⟨rfl, Or.inl rfl⟩

end

theorem resolveCancelledZeroFill_column (runtime : EngineRuntime) (now : Instant) :
    ColumnKept card (resolveCancelledZeroFill runtime now true card) := by
  unfold resolveCancelledZeroFill
  dsimp only
  rw [if_pos rfl]
  split <;> split <;> exact ⟨rfl, Or.inl rfl⟩

theorem resolveRejected_column (runtime : EngineRuntime) (now : Instant) :
    ColumnKept card (resolveRejected runtime now true card) := by
  unfold resolveRejected
  dsimp only
  rw [if_pos rfl]
  split <;> exact ⟨rfl, Or.inl rfl⟩

/-- A BUY that ended empty leaves the column when the card counts shares. -/
theorem applyEntryResolution_column {now : Instant}
    {holding : Except Raised (Option BrokerHolding)} {held : Bool}
    {action : AttemptDeadlineAction}
    (hHeld : action = .confirmedCancelledZeroFill ∨ action = .releaseAndRetryAfterCooldown →
      held = true) :
    ColumnKept card (applyEntryResolution runtime now holding held action card order).1 := by
  unfold applyEntryResolution
  cases action with
  | stillWorking => exact ColumnKept.refl card
  | awaitCancelConfirmation | blockSymbolPendingReconciliation => exact ⟨rfl, Or.inl rfl⟩
  | moveToOpenPosition =>
    cases holding with
    | ok holding => exact resolveFilled_column holding
    | error => exact ColumnKept.refl card
  | confirmedCancelledWithFill =>
    cases holding with
    | ok holding => exact resolveCancelledWithFill_column holding
    | error =>
      dsimp only
      split
      · exact ColumnKept.refl card
      · exact resolveCancelledWithFill_column none
  | confirmedCancelledZeroFill =>
    rw [hHeld (Or.inl rfl)]
    exact resolveCancelledZeroFill_column runtime now
  | releaseAndRetryAfterCooldown =>
    rw [hHeld (Or.inr rfl)]
    exact resolveRejected_column runtime now

/-- The BUY is cancelled without a fill, or rejected. -/
def EndedEmpty (order : BrokerOrder) : Prop :=
  (order.status = .cancelled ∧ order.filledQuantity ≤ 0) ∨ order.status = .rejected

theorem endedEmpty_of_action {atDeadline cancelRequested : Bool}
    (h : resolveEntryOrder order atDeadline cancelRequested = .confirmedCancelledZeroFill ∨
      resolveEntryOrder order atDeadline cancelRequested = .releaseAndRetryAfterCooldown) :
    EndedEmpty order := by
  unfold resolveEntryOrder at h
  split at h
  · rcases h with h | h <;> cases h
  · unfold decideAttemptDeadlineAction at h
    cases hStatus : order.status <;> rw [hStatus] at h
    case cancelled =>
      refine Or.inl ⟨hStatus, ?_⟩
      by_contra hFilled
      simp [not_le.mp hFilled] at h
    case rejected => exact Or.inr hStatus
    all_goals simp at h

/-- The card counts shares once the fill of its order is counted. -/
def CountsShares (card : TradeCardState) (order : BrokerOrder)
    (reported : Except Raised (Option BrokerHolding)) : Prop :=
  if card.brokerQuantity < order.filledQuantity then
    match reported with
    | .ok (some found) => 0 < found.quantity
    | .ok none =>
      0 < card.brokerQuantity + max 0 (order.filledQuantity - order.appliedFilledQuantity)
    | .error _ => True
  else 0 < card.brokerQuantity

instance (card : TradeCardState) (order : BrokerOrder)
    (reported : Except Raised (Option BrokerHolding)) :
    Decidable (CountsShares card order reported) := by
  unfold CountsShares
  split
  · split <;> infer_instance
  · infer_instance

/-- A pass over the entry order keeps the column, unless the order ended empty over a card
that counts no shares. -/
theorem reconcileEntryOrder_column {answers : EntryAnswers}
    (hShares : EndedEmpty order → CountsShares card order answers.firstHolding) :
    ColumnKept card (reconcileEntryOrder runtime answers card order).1 := by
  unfold reconcileEntryOrder
  dsimp only
  split
  · exact ColumnKept.refl card
  rename_i observed seen hObserved
  have hFilled : ColumnKept card observed ∧ seen.status = order.status ∧
      seen.filledQuantity = order.filledQuantity ∧
      (EndedEmpty order → 0 < observed.brokerQuantity) := by
    unfold CountsShares at hShares
    split at hObserved
    · next hMore =>
        obtain ⟨holding, hHolding, hFill⟩ := map_eq_ok.mp hObserved
        have hCard : (protectNewFill card order holding).1 = observed := congrArg Prod.fst hFill
        have hOrder : (protectNewFill card order holding).2 = seen := congrArg Prod.snd hFill
        rw [← hCard, ← hOrder]
        refine ⟨protectNewFill_column holding, (protectNewFill_order holding).1,
          (protectNewFill_order holding).2, ?_⟩
        intro hEmpty
        have hCounted := hShares hEmpty
        rw [if_pos hMore, hHolding] at hCounted
        rw [protectNewFill_quantity]
        cases holding with
        | some | none => exact hCounted
    · next hNoMore =>
        cases hObserved
        refine ⟨ColumnKept.refl card, rfl, rfl, ?_⟩
        intro hEmpty
        have hCounted := hShares hEmpty
        rw [if_neg hNoMore] at hCounted
        exact hCounted
  obtain ⟨hColumn, hStatus, hFilledQuantity, hHeld⟩ := hFilled
  apply hColumn.trans
  have hResolved : ∀ (cancelled : TradeCardState × Bool) (atDeadline cancelRequested : Bool),
      ColumnKept observed cancelled.1 →
      ColumnKept observed (if cancelled.2 = true then (cancelled.1, seen)
        else applyEntryResolution runtime answers.now answers.secondHolding
          (decide (0 < observed.brokerQuantity))
          (resolveEntryOrder seen atDeadline cancelRequested) cancelled.1 seen).1 := by
    intro cancelled atDeadline cancelRequested hKept
    apply hKept.trans
    split
    · exact ColumnKept.refl _
    · apply applyEntryResolution_column
      intro hAction
      have hEmpty := endedEmpty_of_action hAction
      unfold EndedEmpty at hEmpty hHeld
      rw [hStatus, hFilledQuantity] at hEmpty
      exact decide_eq_true (hHeld hEmpty)
  apply hResolved
  have hCancel : ∀ reasoned : TradeCardState, ColumnKept reasoned
      (requestCancelWithLifecycle reasoned .entry answers.cancelCommandId answers.cancel).1 :=
    fun reasoned => (requestCancelWithLifecycle_place reasoned .entry answers.cancelCommandId
      answers.cancel).columnKept
  by_cases hAsks : asksCancel seen (attemptDeadlinePassed runtime seen answers.now)
      (decide (observed.entryBlockReason = "cancel_requested") ||
        decide (observed.entryBlockReason = "eod_cancel_requested")) = true
  · rw [if_pos hAsks]
    apply ColumnKept.trans _ (hCancel _)
    split <;> exact ⟨rfl, Or.inl rfl⟩
  · rw [if_neg hAsks]
    split <;> exact ⟨rfl, Or.inl rfl⟩

theorem settleReplacement_column (text : ReplacementText) (resume : ResumeAnswer) :
    ColumnKept card (settleReplacement text resume order card) := by
  unfold settleReplacement
  split
  · exact ⟨rfl, Or.inl rfl⟩
  split
  · exact ⟨rfl, Or.inl rfl⟩
  split
  · unfold resumeReplacement
    cases resume with
    | notWired | submitted => exact ⟨rfl, Or.inl rfl⟩
    | raised =>
      dsimp only
      split
      · unfold withWarning
        split <;> exact ⟨rfl, Or.inl rfl⟩
      split
      · unfold withWarning
        split <;> exact ⟨rfl, Or.inl rfl⟩
      · exact ⟨rfl, Or.inl rfl⟩
  · split <;> exact ⟨rfl, Or.inl rfl⟩

end Entry

/-! ## One call -/

/-- A pass over the entry order does not find it ended empty while the card counts no
shares, and it does not resume a replacement of it. -/
def SparesLiquidation (text : ReplacementText) (world : EngineWorld) (event : EngineEvent) : Prop :=
  match event with
  | .entryOrders answers resume =>
    ∀ order, answers.refreshed = .ok (some order) → tracksEntry world.card = true →
      if replacementInFlight text world.card then resumesSubmission order resume = false
      else EndedEmpty order → CountsShares world.card order answers.firstHolding
  | _ => True

/-- What holds until the card is closed. -/
def EngineWorld.Sticks (world : EngineWorld) : Prop :=
  world.confirmedFlat = true ∨ (Liquidating world.card ∧ world.entrySubmissions = 0)

section Calls

variable {runtime : EngineRuntime} {text : ReplacementText} {world : EngineWorld}

theorem Liquidating.not_admitted (h : Liquidating card) (gate : EntryGate) :
    gate.admits card = false := by
  have hToday := h.notBuyToday
  have hPending := h.notEntryPending
  have hRequired := h.required
  cases gate <;> simp [EntryGate.admits, hToday, hPending, hRequired]

/-- A call that leaves a liquidating card, or one `confirm_flat` has closed. -/
theorem EngineWorld.Sticks.left (h : Liquidating world.card ∧ world.entrySubmissions = 0)
    (hCard : Liquidating card ∨ ∃ base, card = closedFlat base) : (world.left card 0).Sticks := by
  rcases hCard with hKept | ⟨base, hFlat⟩
  · refine Or.inr ⟨hKept, ?_⟩
    show world.entrySubmissions + 0 = 0
    omega
  · refine Or.inl ?_
    have hLeft : leftByConfirmFlat card = true := by
      rw [hFlat]
      exact decide_eq_true rfl
    show (world.confirmedFlat || leftByConfirmFlat card) = true
    rw [hLeft, Bool.or_true]

theorem evaluatePendingStopHandoff_required {answers : ExitAnswers} {quote : EngineQuote}
    {receivedAt : Instant} (h : card.exitAllRequired = true) :
    (evaluatePendingStopHandoff answers quote receivedAt { card := card }).2.card = card := by
  show ((if (_ && !card.exitAllRequired) = true then _ else pure ⟨⟩ : Engine PUnit)
    { card := card }).2.card = card
  rw [h, Bool.not_true, Bool.and_false, if_neg Bool.false_ne_true]
  rfl

theorem detectStalePositionQuotes_liquidating {answers : ExitAnswers} {view : OutageView}
    (h : Liquidating card) :
    Liquidating (detectStalePositionQuotes answers view { card := card }).2.card := by
  have hRules := keepsLiquidating_placeRules
  have hKeeps : Procedure.Keeps (OnDesk KeepsLiquidating)
      (detectStalePositionQuotes answers view) := by
    unfold detectStalePositionQuotes
    have hViewed : Procedure.Keeps (OnDesk KeepsLiquidating) (setCard (fun card =>
        { card with
          warnings := view.warnings
          marketDataOutageStartedAt := view.startedAt
          marketDataOutageRiskTier := view.riskTier })) :=
      hRules.keeps_bookkeeping (fun _ => ⟨rfl, rfl, rfl⟩)
    apply hViewed.bind hRules.evolution
    intro _
    apply hRules.keeps_currentCard.bind hRules.evolution
    intro card
    split
    · split
      · exact (hRules.keeps_initiateSellAll _).attempt.bind hRules.evolution
          (fun _ => hRules.keeps_done)
      · exact hRules.keeps_done
    · exact hRules.keeps_done
  exact hKeeps { card := card } h

theorem stopIncompleteTargetCompletion_place (card : TradeCardState) (answers : EodAnswers) :
    SamePlace card (stopIncompleteTargetCompletion card answers) := by
  unfold stopIncompleteTargetCompletion
  split
  · exact ⟨rfl, rfl, rfl⟩
  split
  · next order _ =>
      have hCancel := requestCancelWithLifecycle_place card .entry answers.mintedCommandId
        answers.cancel
      dsimp only
      split
      · exact hCancel
      · obtain ⟨hQuantity, hBoard, hExit⟩ := hCancel
        split <;> exact ⟨hQuantity, hBoard, hExit⟩
  · exact ⟨rfl, rfl, rfl⟩

theorem reconcileTrackedEntry_liquidating {answers : EntryAnswers} {resume : ResumeAnswer}
    (h : Liquidating world.card)
    (hSpares : SparesLiquidation text world (.entryOrders answers resume)) :
    Liquidating (reconcileTrackedEntry runtime text answers resume world.card).1 ∧
      (reconcileTrackedEntry runtime text answers resume world.card).2 = false := by
  unfold reconcileTrackedEntry
  split
  · next hInFlight =>
      obtain ⟨hTracked, hReplacing⟩ := Bool.and_eq_true_iff.mp hInFlight
      split
      · next order hRefreshed =>
          have hResume := hSpares order hRefreshed hTracked
          rw [if_pos hReplacing] at hResume
          dsimp only
          split
          · exact ⟨h, rfl⟩
          · next observed seen hObserved =>
              have hFilled : ColumnKept world.card observed ∧ seen.status = order.status ∧
                  seen.filledQuantity = order.filledQuantity := by
                split at hObserved
                · obtain ⟨holding, _, hFill⟩ := map_eq_ok.mp hObserved
                  have hCard : (protectNewFill world.card order holding).1 = observed :=
                    congrArg Prod.fst hFill
                  have hOrder : (protectNewFill world.card order holding).2 = seen :=
                    congrArg Prod.snd hFill
                  rw [← hCard, ← hOrder]
                  exact ⟨protectNewFill_column holding, protectNewFill_order holding⟩
                · cases hObserved
                  exact ⟨ColumnKept.refl _, rfl, rfl⟩
              obtain ⟨hColumn, hStatus, hQuantity⟩ := hFilled
              refine ⟨(hColumn.trans (settleReplacement_column text resume)).liquidating h, ?_⟩
              show resumesSubmission seen resume = false
              unfold resumesSubmission at hResume ⊢
              rw [hStatus, hQuantity]
              exact hResume
      · exact ⟨h, rfl⟩
  · next hNone =>
      refine ⟨?_, rfl⟩
      show Liquidating (reconcileEntryOrders runtime answers world.card).1
      unfold reconcileEntryOrders
      split
      · next hTracked =>
          split
          · next order hRefreshed =>
              have hEnded := hSpares order hRefreshed hTracked
              have hReplacing : ¬ replacementInFlight text world.card = true := by
                simpa [hTracked] using hNone
              rw [if_neg hReplacing] at hEnded
              exact (reconcileEntryOrder_column hEnded).liquidating h
          · exact h
      · exact h

open EngineWorld.Sticks (left)

theorem EngineWorld.Sticks.next {event : EngineEvent} (h : world.Sticks)
    (hSpares : SparesLiquidation text world event) : (world.next runtime text event).Sticks := by
  rcases h with hFlat | hLive
  · -- the flag that the card was closed is never taken back
    have hKept : ∀ (card : TradeCardState) (submitted : Nat),
        (world.left card submitted).Sticks := by
      intro card submitted
      refine Or.inl ?_
      show (world.confirmedFlat || _) = true
      rw [hFlat, Bool.true_or]
    cases event with
    | gated =>
      show EngineWorld.Sticks (if _ then _ else _)
      split
      · exact hKept _ _
      · exact Or.inl hFlat
    | endOfDay =>
      show EngineWorld.Sticks (if _ then _ else _)
      split
      · exact Or.inl hFlat
      · exact hKept _ _
    | _ => exact hKept _ _
  have hCard := hLive.1
  cases event with
  | quote answers quote =>
    exact left hLive
      (Or.inl (keepsLiquidating_placeRules.keeps_evaluateQuote quote _ hCard))
  | pendingStopHandoff =>
    apply left hLive
    rw [evaluatePendingStopHandoff_required hCard.required]
    exact Or.inl hCard
  | gated gate =>
    show EngineWorld.Sticks (if gate.admits world.card = true then _ else _)
    rw [hCard.not_admitted gate, if_neg Bool.false_ne_true]
    exact Or.inr hLive
  | entryOrders =>
    obtain ⟨hKept, hNone⟩ := reconcileTrackedEntry_liquidating hCard hSpares
    show EngineWorld.Sticks (world.left _ (if _ then 1 else 0))
    rw [hNone, if_neg Bool.false_ne_true]
    exact left hLive (Or.inl hKept)
  | exitStage stage answers =>
    apply left hLive
    rcases ExitStage.keeps (keepsLiquidating_rules runtime answers) stage
      { card := world.card } with hKept | ⟨_, hFlat⟩
    · exact Or.inl (hKept hCard)
    · exact Or.inr hFlat
  | outage =>
    exact left hLive (Or.inl (detectStalePositionQuotes_liquidating hCard))
  | endOfDay answers =>
    show EngineWorld.Sticks (if world.card.boardStatus = .buyToday then _ else _)
    rw [if_neg hCard.notBuyToday]
    apply left hLive
    unfold runEodCleanup
    rw [if_neg hCard.notEntryPending]
    split
    · exact Or.inl
        ((stopIncompleteTargetCompletion_place world.card answers).columnKept.liquidating hCard)
    · exact Or.inl hCard

end Calls

/-! ## Whole runs -/

/-- Ten shares are to be sold and a SELL works for them, while the BUY that was to complete
the position is being cancelled. -/
def soldOverBuyCard : TradeCardState :=
  { tenSharesCard with
    entryClientOrderId := "c1"
    entryAttemptGroupId := "g1"
    entryPendingAttemptNumber := 1
    entryCancelInFlight := true
    entryCancelReason := "EXIT_ALL"
    exitClientOrderId := "x1:1"
    exitAttemptGroupId := "x1"
    exitPendingAttemptNumber := 1 }

/-- The SELL is filled. -/
def tenSharesSold : BrokerOrder :=
  { clientOrderId := "x1:1"
    environment := "PROD"
    accountNo := "1"
    symbol := "AAPL"
    side := .sell
    intent := .stopLoss
    quantityRequested := 10
    limitPrice := 100
    status := .filled
    filledQuantity := 10 }

/-- The BUY ended without a fill. -/
def buyEndedEmpty : BrokerOrder :=
  { clientOrderId := "c1"
    environment := "PROD"
    accountNo := "1"
    symbol := "AAPL"
    side := .buy
    intent := .entry
    quantityRequested := 5
    limitPrice := 100
    status := .cancelled }

/-- The account is asked while it counts no share any more. -/
def soldAnswers : ExitAnswers :=
  { idleAnswers with
    findOpenSellOrder := .ok (some tenSharesSold)
    reconcileSellOrder := .ok tenSharesSold }

/-- The text of a replacement is never read here. -/
def unreadText : ReplacementText := { read := fun _ => {}, withState := fun text _ _ => text }

/-- The entry stage finds the BUY cancelled without a fill. -/
def buyEndsEmpty : EngineEvent :=
  .entryOrders
    { now := 0
      refreshed := .ok (some buyEndedEmpty)
      cancel := .rejected
      cancelCommandId := "k2" } .notWired

/-- The card with its BUY still in flight, before any call. -/
def soldOverBuyWorld : EngineWorld :=
  { card := soldOverBuyCard, entrySubmissions := 0, confirmedFlat := false }

theorem soldOverBuyCard_liquidating : Liquidating soldOverBuyCard :=
  { required := rfl, notBuylist := by decide, notBuyToday := by decide,
    notEntryPending := by decide }

end QuantApp.Services
