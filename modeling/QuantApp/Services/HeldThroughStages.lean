import QuantApp.Services.ExitRules

/-!
# A held card through the exit stages

A stage takes a position away only through the quantity the position query answers.
`ExitStage.asksPositions` says when a stage looks at that answer; a stage that does not
runs the same whatever the answer is, and one that is answered a positive quantity leaves
the card held.
-/

namespace QuantApp.Services

open Core Verified

variable {desk : Desk} {quantity : Except Raised Int} {runtime : EngineRuntime}
  {answers : ExitAnswers}

/-- A held card stays held and is not closed. -/
def StaysHeld (before after : TradeCardState) : Prop :=
  0 < before.brokerQuantity →
    0 < after.brokerQuantity ∧ (after.boardStatus = .closed → before.boardStatus = .closed)

theorem staysHeld_refl (card : TradeCardState) : StaysHeld card card := fun hHeld => ⟨hHeld, id⟩

theorem StaysHeld.trans {a b c : TradeCardState} (hab : StaysHeld a b) (hbc : StaysHeld b c) :
    StaysHeld a c := by
  intro hHeld
  obtain ⟨hBetween, hOpen⟩ := hab hHeld
  obtain ⟨hAfter, hLater⟩ := hbc hBetween
  exact ⟨hAfter, fun hClosed => hOpen (hLater hClosed)⟩

/-- A change that leaves the quantity alone and does not close the card. -/
theorem staysHeld_of_same {before after : TradeCardState}
    (hQuantity : after.brokerQuantity = before.brokerQuantity)
    (hBoard : after.boardStatus = before.boardStatus ∨ after.boardStatus ≠ .closed) :
    StaysHeld before after := by
  intro hHeld
  rw [hQuantity]
  refine ⟨hHeld, ?_⟩
  intro hClosed
  rcases hBoard with hSame | hOpen
  · rw [← hSame]
    exact hClosed
  · exact absurd hClosed hOpen

theorem staysHeld_placeRules : PlaceRules StaysHeld :=
  { refl := staysHeld_refl
    trans := StaysHeld.trans
    bookkeeping := fun hPlace => staysHeld_of_same hPlace.quantity (Or.inl hPlace.board)
    required := fun hQuantity hBoard _ => staysHeld_of_same hQuantity (Or.inl hBoard)
    selling := fun hQuantity hBoard _ =>
      staysHeld_of_same hQuantity (Or.inr (by rw [hBoard]; simp)) }

theorem completePartialExit_held (config : ExecutionConfig) (card : TradeCardState)
    {remaining : Int} (h : 0 < remaining) :
    StaysHeld card (completePartialExit config card remaining) := by
  intro _
  have hPlaced : 0 < (completePartialExit config card remaining).brokerQuantity ∧
      (completePartialExit config card remaining).boardStatus = .openPosition := by
    unfold completePartialExit
    dsimp only
    split
    · exact ⟨by
        show 0 < (onPartialExitFilled config (clearExitCancelTracking card)
          remaining).brokerQuantity
        unfold onPartialExitFilled applyBreakevenStop
        dsimp only
        split <;> exact h, rfl⟩
    · exact ⟨h, rfl⟩
  refine ⟨hPlaced.1, ?_⟩
  rw [hPlaced.2]
  intro hClosed
  cases hClosed

section

variable (hPositive : ∀ remaining, answers.refreshOrderableQuantity = .ok remaining → 0 < remaining)
include hPositive

theorem staysHeld_rules : ExitRules StaysHeld runtime answers :=
  { staysHeld_placeRules with
    counted := fun hAnswer _ _ => ⟨hPositive _ hAnswer, id⟩
    completed := fun hAnswer card =>
      completePartialExit_held runtime.config card (hPositive _ hAnswer) }

/-- A stage that is answered a positive quantity leaves the card held. -/
theorem ExitStage.run_answered (stage : ExitStage) (desk : Desk) :
    StaysHeld desk.card (stage.run runtime answers desk).2.card := by
  rcases ExitStage.keeps (staysHeld_rules hPositive) stage desk with hKept | hFlat
  · exact hKept
  · obtain ⟨⟨remaining, hAnswer, hEmpty⟩, _⟩ := hFlat
    have hRemaining := hPositive remaining hAnswer
    omega

end

section Silent

variable {runtime : EngineRuntime} {answers : ExitAnswers}

/-! ## The stages that do not ask -/

/-- A lookup that found no order. -/
def noneFound : Except Raised (Option BrokerOrder) → Bool
  | .ok none => true
  | _ => false

/-- The open sell order is found and has ended. -/
def ExitAnswers.sellOrderEnded (answers : ExitAnswers) : Bool :=
  match answers.findOpenSellOrder, answers.reconcileSellOrder with
  | .ok (some _), .ok refreshed => !isOpenStatus refreshed.status
  | _, _ => false

/-- The stage takes the answer of the position query for the position of the card. -/
def ExitStage.asksPositions (answers : ExitAnswers) (card : TradeCardState) :
    ExitStage → Bool
  | .processPartialSellRequests => false
  | .reconcilePartialSellFills =>
    card.boardStatus = .partialSell &&
      (answers.sellOrderEnded ||
        (noneFound answers.findOpenSellOrder &&
          decide (card.pendingPartialSellQuantity ≤ 0)))
  | .processQueuedMarketOpenSells => false
  | .reconcileSellAllOrders => card.boardStatus = .sellAll && answers.sellOrderEnded
  | .retryIncompleteSellAlls =>
    card.boardStatus = .sellAll && !waitsForExitRetry card answers.now &&
      !card.exitSubmissionUnresolved && noneFound answers.findOpenEntryOrder &&
      !(card.entryCancelInFlight || card.entrySubmissionUnresolved) &&
      noneFound answers.findOpenSellOrder && !answers.tradingHalted

/-- The same answers with another quantity. -/
def ExitAnswers.withQuantity (answers : ExitAnswers) (quantity : Except Raised Int) : ExitAnswers :=
  { answers with refreshOrderableQuantity := quantity }

/-- The gate of a liquidation opens for a card without a working BUY. -/
theorem entryConflictClear_true {next : Desk}
    (h : entryConflictClear answers desk = (.returned true, next)) :
    noneFound answers.findOpenEntryOrder = true ∧
      (desk.card.entryCancelInFlight || desk.card.entrySubmissionUnresolved) = false := by
  unfold entryConflictClear at h
  cases hFound : answers.findOpenEntryOrder with
  | error =>
    rw [hFound] at h
    cases h
  | ok found =>
    rw [hFound] at h
    cases found with
    | none =>
      have hValue := congrArg Prod.fst h
      have hClear : (!(desk.card.entryCancelInFlight ||
          desk.card.entrySubmissionUnresolved)) = true := by
        simpa [bind, Procedure.bind, setCard, Procedure.update, Procedure.ofExcept, pure,
          currentCard, Procedure.read] using hValue
      exact ⟨rfl, by simpa using hClear⟩
    | some =>
      exfalso
      by_cases hInFlight : desk.card.entryCancelInFlight = true
      · have hValue := congrArg Prod.fst h
        simp [bind, Procedure.bind, setCard, Procedure.update, Procedure.ofExcept, pure,
          currentCard, Procedure.read, hInFlight] at hValue
      · have hCancelled : entryConflictClear answers desk =
            (positionRequestCancel answers .entry >>= fun _ => (pure false : Engine Bool))
              { desk with card :=
                { desk.card with
                  entryRemainingTargetQuantity := 0
                  entryCancelInFlight := true
                  entryCancelReason := "EXIT_ALL" } } := by
          unfold entryConflictClear
          rw [hFound]
          show (if desk.card.entryCancelInFlight = true then _ else _ : Engine Bool) _ = _
          rw [if_neg hInFlight]
          rfl
        have hEnd : entryConflictClear answers desk = (.returned true, next) := by
          unfold entryConflictClear
          rw [hFound]
          exact h
        rw [hCancelled] at hEnd
        obtain ⟨_, _, _, hFalse⟩ := Procedure.bind_eq_returned.mp hEnd
        cases hFalse

/-- The found SELL is still open, so what its end would ask is not asked. -/
theorem reconciledSell_of_not_asking (hEnded : answers.sellOrderEnded = false)
    {found : BrokerOrder} (hFound : answers.findOpenSellOrder = .ok (some found))
    {onOpen ended ended' : BrokerOrder → Engine PUnit} :
    (Procedure.ofExcept answers.reconcileSellOrder >>= fun refreshed =>
      if isOpenStatus refreshed.status then onOpen refreshed else ended refreshed) desk =
    (Procedure.ofExcept answers.reconcileSellOrder >>= fun refreshed =>
      if isOpenStatus refreshed.status then onOpen refreshed else ended' refreshed) desk := by
  unfold ExitAnswers.sellOrderEnded at hEnded
  cases hRefreshed : answers.reconcileSellOrder with
  | error => rfl
  | ok refreshed =>
    rw [hFound, hRefreshed] at hEnded
    have hOpen : isOpenStatus refreshed.status = true := by simpa using hEnded
    show (if isOpenStatus refreshed.status = true then _ else _ : Engine PUnit) desk =
      (if isOpenStatus refreshed.status = true then _ else _ : Engine PUnit) desk
    rw [if_pos hOpen, if_pos hOpen]

theorem concludePartialSell_of_not_asking (hEnded : answers.sellOrderEnded = false)
    (hNone : noneFound answers.findOpenSellOrder = true →
      ¬ desk.card.pendingPartialSellQuantity ≤ 0) :
    concludePartialSell runtime answers desk =
      concludePartialSell runtime (answers.withQuantity quantity) desk := by
  unfold concludePartialSell
  show _ = (Procedure.ofExcept answers.findOpenSellOrder >>= _) desk
  cases hFound : answers.findOpenSellOrder with
  | error => rfl
  | ok found =>
    cases found with
    | none =>
      have hPending := hNone (by rw [hFound]; rfl)
      show (if desk.card.pendingPartialSellQuantity ≤ 0 then _ else _ : Engine PUnit) desk =
        (if desk.card.pendingPartialSellQuantity ≤ 0 then _ else _ : Engine PUnit) desk
      rw [if_neg hPending, if_neg hPending]
    | some => exact reconciledSell_of_not_asking hEnded hFound

theorem concludeSellAllOrder_of_not_asking (hEnded : answers.sellOrderEnded = false) :
    concludeSellAllOrder runtime answers desk =
      concludeSellAllOrder runtime (answers.withQuantity quantity) desk := by
  unfold concludeSellAllOrder
  show _ = (Procedure.ofExcept answers.findOpenSellOrder >>= _) desk
  cases hFound : answers.findOpenSellOrder with
  | error => rfl
  | ok found =>
    cases found with
    | none => rfl
    | some => exact reconciledSell_of_not_asking hEnded hFound

theorem sellUnlessHalted_of_halted (h : answers.tradingHalted = true) :
    sellUnlessHalted runtime answers =
      sellUnlessHalted runtime (answers.withQuantity quantity) := by
  simp only [sellUnlessHalted, ExitAnswers.withQuantity, h, if_true]

theorem submitSellAll_of_not_asking
    (hClear : noneFound answers.findOpenEntryOrder = true →
      (desk.card.entryCancelInFlight || desk.card.entrySubmissionUnresolved) = false →
      noneFound answers.findOpenSellOrder = true → answers.tradingHalted = true) :
    submitSellAll runtime answers desk =
      submitSellAll runtime (answers.withQuantity quantity) desk := by
  unfold submitSellAll
  show (entryConflictClear answers >>= _) desk = (entryConflictClear answers >>= _) desk
  apply Procedure.bind_congr
  intro clearToSell next hGate
  cases clearToSell with
  | false => rfl
  | true =>
    obtain ⟨hNoEntry, hQuiet⟩ := entryConflictClear_true hGate
    show (Procedure.ofExcept answers.findOpenSellOrder >>= _) next =
      (Procedure.ofExcept answers.findOpenSellOrder >>= _) next
    cases hFound : answers.findOpenSellOrder with
    | error => rfl
    | ok found =>
      cases found with
      | some => rfl
      | none =>
        have hHalted := hClear hNoEntry hQuiet (by rw [hFound]; rfl)
        have hSame : sellUnlessHalted runtime answers =
            sellUnlessHalted runtime (answers.withQuantity quantity) :=
          sellUnlessHalted_of_halted hHalted
        show (setCard retireTerminalExitAttempt >>= fun _ =>
            sellUnlessHalted runtime answers) next =
          (setCard retireTerminalExitAttempt >>= fun _ =>
            sellUnlessHalted runtime (answers.withQuantity quantity)) next
        rw [hSame]

/-- A stage that does not ask runs the same whatever the position query answers. -/
theorem ExitStage.run_of_not_asking {stage : ExitStage}
    (hStage : stage ≠ .processPartialSellRequests)
    (h : stage.asksPositions answers desk.card = false) :
    stage.run runtime answers desk = stage.run runtime (answers.withQuantity quantity) desk := by
  cases stage with
  | processPartialSellRequests => exact absurd rfl hStage
  | processQueuedMarketOpenSells => rfl
  | reconcilePartialSellFills =>
    show (if desk.card.boardStatus ≠ .partialSell then _ else _ : Engine PUnit) desk =
      (if desk.card.boardStatus ≠ .partialSell then _ else _ : Engine PUnit) desk
    by_cases hBoard : desk.card.boardStatus = .partialSell
    · rw [if_neg (not_not.mpr hBoard), if_neg (not_not.mpr hBoard)]
      simp only [ExitStage.asksPositions, hBoard, decide_true, Bool.true_and,
        Bool.or_eq_false_iff, Bool.and_eq_false_imp, decide_eq_false_iff_not] at h
      have hBody : concludePartialSell runtime answers desk =
          concludePartialSell runtime (answers.withQuantity quantity) desk :=
        concludePartialSell_of_not_asking h.1 h.2
      show (Procedure.attempt _ >>= _) desk = (Procedure.attempt _ >>= _) desk
      show Procedure.bind _ _ desk = Procedure.bind _ _ desk
      unfold Procedure.bind
      rw [Procedure.attempt_congr hBody]
    · rw [if_pos hBoard, if_pos hBoard]
  | reconcileSellAllOrders =>
    show (if desk.card.boardStatus ≠ .sellAll then _ else _ : Engine PUnit) desk =
      (if desk.card.boardStatus ≠ .sellAll then _ else _ : Engine PUnit) desk
    by_cases hBoard : desk.card.boardStatus = .sellAll
    · rw [if_neg (not_not.mpr hBoard), if_neg (not_not.mpr hBoard)]
      simp only [ExitStage.asksPositions, hBoard, decide_true, Bool.true_and] at h
      have hBody : concludeSellAllOrder runtime answers desk =
          concludeSellAllOrder runtime (answers.withQuantity quantity) desk :=
        concludeSellAllOrder_of_not_asking h
      show Procedure.bind _ _ desk = Procedure.bind _ _ desk
      unfold Procedure.bind
      rw [Procedure.attempt_congr hBody]
    · rw [if_pos hBoard, if_pos hBoard]
  | retryIncompleteSellAlls =>
    show (if desk.card.boardStatus ≠ .sellAll ∨ waitsForExitRetry desk.card answers.now ∨
        desk.card.exitSubmissionUnresolved then _ else _ : Engine PUnit) desk =
      (if desk.card.boardStatus ≠ .sellAll ∨ waitsForExitRetry desk.card answers.now ∨
        desk.card.exitSubmissionUnresolved then _ else _ : Engine PUnit) desk
    by_cases hLeft : desk.card.boardStatus ≠ .sellAll ∨
        waitsForExitRetry desk.card answers.now ∨ desk.card.exitSubmissionUnresolved
    · rw [if_pos hLeft, if_pos hLeft]
    · rw [if_neg hLeft, if_neg hLeft]
      obtain ⟨hBoard, hDue, hResolved⟩ : desk.card.boardStatus = .sellAll ∧
          waitsForExitRetry desk.card answers.now = false ∧
          desk.card.exitSubmissionUnresolved = false := by
        simpa [not_or] using hLeft
      have hBody : submitSellAll runtime answers desk =
          submitSellAll runtime (answers.withQuantity quantity) desk := by
        apply submitSellAll_of_not_asking
        intro hNoEntry hQuiet hNoSell
        simpa [ExitStage.asksPositions, hBoard, hDue, hResolved, hNoEntry, hQuiet, hNoSell]
          using h
      show Procedure.bind _ _ desk = Procedure.bind _ _ desk
      unfold Procedure.bind
      rw [Procedure.attempt_congr hBody]
      rfl

/-- A stage leaves a held card held, unless it asks and is answered no shares. -/
theorem ExitStage.run_held (stage : ExitStage) (desk : Desk)
    (h : stage.asksPositions answers desk.card = true →
      ∀ remaining, answers.refreshOrderableQuantity = .ok remaining → 0 < remaining) :
    StaysHeld desk.card (stage.run runtime answers desk).2.card := by
  by_cases hAsks : stage.asksPositions answers desk.card = true
  · exact ExitStage.run_answered (h hAsks) stage desk
  by_cases hStage : stage = .processPartialSellRequests
  · rw [hStage]
    exact staysHeld_placeRules.keeps_processPartialSellRequests desk
  let silence : Except Raised Int := .error answers.cancelError
  have hSame : stage.run runtime answers desk =
      stage.run runtime (answers.withQuantity silence) desk :=
    ExitStage.run_of_not_asking hStage (by simpa using hAsks)
  rw [hSame]
  have hNothing : ∀ remaining,
      (answers.withQuantity silence).refreshOrderableQuantity = .ok remaining → 0 < remaining := by
    intro remaining hAnswer
    cases hAnswer
  exact ExitStage.run_answered hNothing stage desk

end Silent

end QuantApp.Services
