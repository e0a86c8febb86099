import QuantApp.Services.ExitStages

/-!
# Rules for the exit stages

What the exit stages and the quotes do to a card is a handful of changes: bookkeeping beside
the position, a move to SELL_ALL, the sticky exit flag, a quantity the position query
answers, the end of a partial sell, and the closing of a flat card.  A relation that admits
each of them (`ExitRules`) relates the card before a stage to the card after it, unless the
stage has closed a card whose position was answered empty (`ExitStage.keeps`).
-/

namespace QuantApp.Services

open Core Verified
open Procedure (keeps_update keeps_pure raise keeps_raise keeps_ofExcept ofExcept outcomes attempt)

variable {change : TradeCardState → TradeCardState}

/-- The column, the quantity and the exit flag are the same. -/
structure SamePlace (before after : TradeCardState) : Prop where
  quantity : after.brokerQuantity = before.brokerQuantity
  board : after.boardStatus = before.boardStatus
  exitFlag : after.exitAllRequired = before.exitAllRequired

/-- The changes beside what the position query answers. -/
structure PlaceRules (R : TradeCardState → TradeCardState → Prop) : Prop where
  refl : ∀ card, R card card
  trans : ∀ {a b c}, R a b → R b c → R a c
  bookkeeping : ∀ {before after}, SamePlace before after → R before after
  required : ∀ {before after}, after.brokerQuantity = before.brokerQuantity →
    after.boardStatus = before.boardStatus → after.exitAllRequired = true → R before after
  selling : ∀ {before after}, after.brokerQuantity = before.brokerQuantity →
    after.boardStatus = .sellAll →
    (before.exitAllRequired = true → after.exitAllRequired = true) → R before after

/-- The changes an exit stage is made of. -/
structure ExitRules (R : TradeCardState → TradeCardState → Prop) (runtime : EngineRuntime)
    (answers : ExitAnswers) : Prop extends PlaceRules R where
  counted : ∀ {remaining}, answers.refreshOrderableQuantity = .ok remaining → ∀ card,
    R card { card with brokerQuantity := remaining, orderableQuantity := remaining }
  completed : ∀ {remaining}, answers.refreshOrderableQuantity = .ok remaining → ∀ card,
    R card (completePartialExit runtime.config card remaining)

/-- The card is related to the one before, or it is closed over an empty position. -/
def KeptOrFlat (R : TradeCardState → TradeCardState → Prop) (answers : ExitAnswers)
    (before after : TradeCardState) : Prop :=
  R before after ∨
    (∃ remaining, answers.refreshOrderableQuantity = .ok remaining ∧ remaining ≤ 0) ∧
      ∃ base, after = closedFlat base

/-- The relation of two desks by their cards. -/
def OnDesk (R : TradeCardState → TradeCardState → Prop) (before after : Desk) : Prop :=
  R before.card after.card

/-! ## The bookkeeping -/

theorem prepareExitIdentity_place (runtime : EngineRuntime) (intent : OrderIntent)
    (groupId : String) (card : TradeCardState) :
    SamePlace card (prepareExitIdentity runtime intent groupId card) := by
  unfold prepareExitIdentity
  split <;> exact ⟨rfl, rfl, rfl⟩

theorem retireTerminalExitAttempt_place (card : TradeCardState) :
    SamePlace card (retireTerminalExitAttempt card) := by
  unfold retireTerminalExitAttempt
  dsimp only
  split <;> exact ⟨rfl, rfl, rfl⟩

theorem handleSellAllError_place (runtime : EngineRuntime) (answers : ExitAnswers)
    (error : Raised) (card : TradeCardState) :
    SamePlace card (handleSellAllError runtime answers error card) := by
  unfold handleSellAllError
  split
  · exact ⟨rfl, rfl, rfl⟩
  split
  · exact ⟨rfl, rfl, rfl⟩
  split <;> exact ⟨rfl, rfl, rfl⟩

theorem requestCancelWithLifecycle_place (card : TradeCardState) (scope : CancelScope)
    (minted : String) (answer : CancelAnswer) :
    SamePlace card (requestCancelWithLifecycle card scope minted answer).1 := by
  have hStamped : SamePlace card (stampCancelCommand card scope minted) := by
    unfold stampCancelCommand
    cases scope <;> dsimp only <;> split <;> exact ⟨rfl, rfl, rfl⟩
  obtain ⟨hQuantity, hBoard, hExit⟩ := hStamped
  unfold requestCancelWithLifecycle
  cases scope <;> cases answer <;> dsimp only <;>
    first
      | exact ⟨hQuantity, hBoard, hExit⟩
      | (split <;> exact ⟨hQuantity, hBoard, hExit⟩)

/-- A quote leaves the column and the quantity, and it only ever raises the exit flag. -/
theorem judgeStop_place (quote : EngineQuote) (card : TradeCardState) :
    (judgeStop quote card).brokerQuantity = card.brokerQuantity ∧
      (judgeStop quote card).boardStatus = card.boardStatus ∧
      ((judgeStop quote card).exitAllRequired = true ∨
        (judgeStop quote card).exitAllRequired = card.exitAllRequired) := by
  unfold judgeStop
  dsimp only
  split
  all_goals
    split
    · exact ⟨rfl, rfl, Or.inl rfl⟩
    · exact ⟨rfl, rfl, Or.inr rfl⟩

/-! ## The parts of the stages -/

section Parts

variable {R : TradeCardState → TradeCardState → Prop} {runtime : EngineRuntime}
  {answers : ExitAnswers}

theorem PlaceRules.evolution (h : PlaceRules R) : Procedure.Evolution (OnDesk R) :=
  { refl := fun desk => h.refl desk.card
    trans := fun hab hbc => h.trans hab hbc }

theorem onDesk_setCard (hChange : ∀ card, R card (change card)) :
    Procedure.Keeps (OnDesk R) (setCard change) :=
  keeps_update (fun desk => hChange desk.card)

section

variable (h : PlaceRules R)
include h

theorem PlaceRules.keeps_bookkeeping (hChange : ∀ card, SamePlace card (change card)) :
    Procedure.Keeps (OnDesk R) (setCard change) :=
  onDesk_setCard (fun card => h.bookkeeping (hChange card))

theorem PlaceRules.keeps_currentCard : Procedure.Keeps (OnDesk R) currentCard :=
  Procedure.keeps_read h.evolution _

theorem PlaceRules.keeps_done : Procedure.Keeps (OnDesk R) (pure ⟨⟩ : Engine PUnit) :=
  keeps_pure h.evolution _

theorem PlaceRules.keeps_positionRequestCancel (scope : CancelScope) :
    Procedure.Keeps (OnDesk R) (positionRequestCancel answers scope) := by
  intro desk
  have hPlace : SamePlace desk.card (requestCancelWithLifecycle desk.card scope
      answers.cancelCommandId answers.cancel).1 :=
    requestCancelWithLifecycle_place desk.card scope answers.cancelCommandId answers.cancel
  have hRun : (positionRequestCancel answers scope desk).2.card =
      (requestCancelWithLifecycle desk.card scope answers.cancelCommandId answers.cancel).1 := by
    show ((if (requestCancelWithLifecycle desk.card scope answers.cancelCommandId
        answers.cancel).2 = true then raise answers.cancelFailure
      else pure ⟨⟩ : Engine PUnit) { desk with
        card := (requestCancelWithLifecycle desk.card scope answers.cancelCommandId
          answers.cancel).1 }).2.card = _
    split <;> rfl
  show R desk.card (positionRequestCancel answers scope desk).2.card
  rw [hRun]
  exact h.bookkeeping hPlace

theorem PlaceRules.keeps_submitSellOrder (quantity : Int) (intent : OrderIntent) :
    Procedure.Keeps (OnDesk R) (submitSellOrder runtime answers quantity intent) := by
  have hPrepared : Procedure.Keeps (OnDesk R)
      (setCard (prepareExitIdentity runtime intent answers.exitGroupId)) :=
    h.keeps_bookkeeping (prepareExitIdentity_place runtime intent answers.exitGroupId)
  have hHanded : Procedure.Keeps (OnDesk R) (handOver quantity intent) :=
    keeps_update (fun desk => h.refl desk.card)
  have hRaise : ∀ {α : Type} (error : Raised),
      Procedure.Keeps (OnDesk R) (raise error : Engine α) :=
    fun error => keeps_raise h.evolution error
  unfold submitSellOrder
  cases answers.submission with
  | unpriced => exact hRaise _
  | unprepared error => exact hRaise error
  | unstored error => exact hPrepared.bind h.evolution (fun _ => hRaise error)
  | failed error =>
    apply hPrepared.bind h.evolution
    intro _
    exact hHanded.bind h.evolution (fun _ => hRaise error)
  | rejected | accepted =>
    apply hPrepared.bind h.evolution
    intro _
    exact hHanded.bind h.evolution (fun _ => keeps_pure h.evolution _)

theorem PlaceRules.keeps_escalateExitCancelIfDue (order : BrokerOrder) (force : Bool) :
    Procedure.Keeps (OnDesk R) (escalateExitCancelIfDue runtime answers order force) := by
  unfold escalateExitCancelIfDue
  apply h.keeps_currentCard.bind h.evolution
  intro card
  split
  · split
    · exact h.keeps_done
    split
    · exact h.keeps_bookkeeping (fun _ => ⟨rfl, rfl, rfl⟩)
    · exact h.keeps_done
  split
  · apply (h.keeps_positionRequestCancel .exit).bind h.evolution
    intro _
    exact h.keeps_bookkeeping (fun _ => ⟨rfl, rfl, rfl⟩)
  · exact h.keeps_done

theorem PlaceRules.keeps_entryConflictClear :
    Procedure.Keeps (OnDesk R) (entryConflictClear answers) := by
  have hAnswer : ∀ clear : Bool, Procedure.Keeps (OnDesk R) (pure clear : Engine Bool) :=
    fun clear => keeps_pure h.evolution clear
  unfold entryConflictClear
  have hNoTarget : Procedure.Keeps (OnDesk R)
      (setCard (fun card => { card with entryRemainingTargetQuantity := 0 })) :=
    h.keeps_bookkeeping (fun _ => ⟨rfl, rfl, rfl⟩)
  apply hNoTarget.bind h.evolution
  intro _
  apply (keeps_ofExcept h.evolution _).bind h.evolution
  intro found
  cases found with
  | none =>
    apply h.keeps_currentCard.bind h.evolution
    intro card
    exact hAnswer _
  | some =>
    apply h.keeps_currentCard.bind h.evolution
    intro card
    split
    · exact hAnswer _
    · have hMarked : Procedure.Keeps (OnDesk R) (setCard (fun card =>
          { card with entryCancelInFlight := true, entryCancelReason := "EXIT_ALL" })) :=
        h.keeps_bookkeeping (fun _ => ⟨rfl, rfl, rfl⟩)
      apply hMarked.bind h.evolution
      intro _
      apply (h.keeps_positionRequestCancel .entry).bind h.evolution
      intro _
      exact hAnswer _

theorem PlaceRules.keeps_initiateSellAll (queueForMarketOpen : Bool) :
    Procedure.Keeps (OnDesk R) (initiateSellAll answers queueForMarketOpen) := by
  unfold initiateSellAll
  have hStarted : Procedure.Keeps (OnDesk R) (setCard startSellAll) :=
    onDesk_setCard (fun _ => h.selling rfl rfl (fun _ => rfl))
  have hQueued : Procedure.Keeps (OnDesk R) (setCard queueSellAllAtMarketOpen) :=
    onDesk_setCard (fun _ => h.selling rfl rfl (fun _ => rfl))
  have hRest : Procedure.Keeps (OnDesk R) (do
      let _ ← entryConflictClear answers
      pure ⟨⟩ : Engine PUnit) :=
    h.keeps_entryConflictClear.bind h.evolution (fun _ => h.keeps_done)
  apply hStarted.bind h.evolution
  intro _
  split
  · exact hQueued.bind h.evolution (fun _ => hRest)
  · exact hRest

end

/-! ## The stages -/

section

variable (h : PlaceRules R)
include h

theorem PlaceRules.keeps_submitPartialSell :
    Procedure.Keeps (OnDesk R) (submitPartialSell runtime answers) := by
  unfold submitPartialSell
  apply (keeps_ofExcept h.evolution _).bind h.evolution
  intro found
  cases found with
  | some => exact h.keeps_done
  | none =>
    apply (keeps_ofExcept h.evolution _).bind h.evolution
    intro remaining
    apply h.keeps_currentCard.bind h.evolution
    intro card
    dsimp only
    split
    · exact h.keeps_done
    apply (h.keeps_submitSellOrder _ _).bind h.evolution
    intro message
    cases message with
    | some | none => exact h.keeps_bookkeeping (fun _ => ⟨rfl, rfl, rfl⟩)

theorem PlaceRules.keeps_processPartialSellRequests :
    Procedure.Keeps (OnDesk R) (processPartialSellRequests runtime answers) := by
  unfold processPartialSellRequests
  apply h.keeps_currentCard.bind h.evolution
  intro card
  split
  · exact h.keeps_done
  apply h.keeps_submitPartialSell.attempt.bind h.evolution
  intro result
  cases result with
  | ok => exact h.keeps_done
  | error =>
    dsimp only
    split <;> exact h.keeps_bookkeeping (fun _ => ⟨rfl, rfl, rfl⟩)

theorem PlaceRules.keeps_processQueuedMarketOpenSells :
    Procedure.Keeps (OnDesk R) (processQueuedMarketOpenSells answers) := by
  unfold processQueuedMarketOpenSells
  apply h.keeps_currentCard.bind h.evolution
  intro card
  split
  · exact h.keeps_done
  have hBody : Procedure.Keeps (OnDesk R) (do
      initiateSellAll answers false
      setCard (fun card => { card with sellAllAtMarketOpen := false }) : Engine PUnit) := by
    apply (h.keeps_initiateSellAll false).bind h.evolution
    intro _
    exact h.keeps_bookkeeping (fun _ => ⟨rfl, rfl, rfl⟩)
  exact hBody.attempt.bind h.evolution (fun _ => h.keeps_done)

theorem PlaceRules.keeps_evaluateQuoteForCard (quote : EngineQuote) :
    Procedure.Keeps (OnDesk R) (evaluateQuoteForCard answers quote) := by
  unfold evaluateQuoteForCard
  have hJudged : Procedure.Keeps (OnDesk R) (setCard (judgeStop quote)) := by
    apply onDesk_setCard
    intro card
    obtain ⟨hQuantity, hBoard, hExit⟩ := judgeStop_place quote card
    rcases hExit with hRaised | hSame
    · exact h.required hQuantity hBoard hRaised
    · exact h.bookkeeping ⟨hQuantity, hBoard, hSame⟩
  apply hJudged.bind h.evolution
  intro _
  apply h.keeps_currentCard.bind h.evolution
  intro card
  split
  · split
    · apply (keeps_ofExcept h.evolution _).bind h.evolution
      intro working
      unfold handleStopTriggeredDuringPartialSell
      have hRequired : Procedure.Keeps (OnDesk R)
          (setCard (fun card => { card with exitAllRequired := true })) :=
        onDesk_setCard (fun _ => h.required rfl rfl rfl)
      have hMoved : Procedure.Keeps (OnDesk R) (setCard (fun card =>
          { card with
            pendingPartialSellQuantity := 0
            boardStatus := .sellAll
            positionRuntimeStatus := .liquidating })) :=
        onDesk_setCard (fun _ => h.selling rfl rfl id)
      apply hRequired.bind h.evolution
      intro _
      split
      · exact (h.keeps_positionRequestCancel .exit).bind h.evolution (fun _ => hMoved)
      · exact hMoved
    · exact h.keeps_initiateSellAll false
  · exact h.keeps_done

theorem PlaceRules.keeps_evaluateQuote (quote : EngineQuote) :
    Procedure.Keeps (OnDesk R) (evaluateQuote answers quote) := by
  unfold evaluateQuote
  apply h.keeps_currentCard.bind h.evolution
  intro card
  split
  · exact (h.keeps_evaluateQuoteForCard quote).attempt.bind h.evolution (fun _ => h.keeps_done)
  · exact h.keeps_done

end

theorem ExitRules.keeps_concludePartialSell (h : ExitRules R runtime answers) :
    Procedure.Keeps (OnDesk R) (concludePartialSell runtime answers) := by
  have hComplete : Procedure.Keeps (OnDesk R) (do
      let remaining ← ofExcept answers.refreshOrderableQuantity
      setCard (fun card => completePartialExit runtime.config card remaining) : Engine PUnit) :=
    Procedure.keeps_ofExcept_bind h.evolution (fun _ hAnswer =>
      onDesk_setCard (h.completed hAnswer))
  unfold concludePartialSell
  apply (keeps_ofExcept h.evolution _).bind h.evolution
  intro found
  cases found with
  | none =>
    apply h.keeps_currentCard.bind h.evolution
    intro card
    split
    · exact hComplete
    · exact h.keeps_bookkeeping (fun _ => ⟨rfl, rfl, rfl⟩)
  | some =>
    apply (keeps_ofExcept h.evolution _).bind h.evolution
    intro refreshed
    split
    · apply h.keeps_currentCard.bind h.evolution
      intro card
      exact h.keeps_escalateExitCancelIfDue refreshed _
    · exact hComplete

theorem ExitRules.keeps_concludeSellAllOrder (h : ExitRules R runtime answers) :
    Procedure.Keeps (OnDesk R) (concludeSellAllOrder runtime answers) := by
  unfold concludeSellAllOrder
  apply (keeps_ofExcept h.evolution _).bind h.evolution
  intro found
  cases found with
  | none => exact h.keeps_bookkeeping retireTerminalExitAttempt_place
  | some =>
    apply (keeps_ofExcept h.evolution _).bind h.evolution
    intro refreshed
    split
    · exact h.keeps_escalateExitCancelIfDue refreshed _
    apply Procedure.keeps_ofExcept_bind h.evolution
    intro remaining hAnswer
    apply onDesk_setCard
    intro card
    exact h.trans (h.counted hAnswer card)
      (h.bookkeeping (retireTerminalExitAttempt_place _))

/-! ## The retry of a liquidation

It alone closes a card, as the last thing it does. -/

/-- A part of the retry: closing the card ends it without an exception. -/
def EndsKeptOrFlat (R : TradeCardState → TradeCardState → Prop) (answers : ExitAnswers)
    (p : Engine PUnit) (desk : Desk) : Prop :=
  Procedure.Ensures p desk
    (outcomes (fun _ next => KeptOrFlat R answers desk.card next.card)
      (fun _ next => R desk.card next.card) (fun next => R desk.card next.card))

theorem EndsKeptOrFlat.of_keeps {p : Engine PUnit} (h : Procedure.Keeps (OnDesk R) p)
    (desk : Desk) : EndsKeptOrFlat R answers p desk := by
  have hKept : R desk.card (p desk).2.card := h desk
  unfold EndsKeptOrFlat Procedure.Ensures
  rcases hRun : p desk with ⟨_ | _ | _, next⟩ <;> rw [hRun] at hKept
  · exact Or.inl hKept
  all_goals exact hKept

variable (h : ExitRules R runtime answers)
include h

theorem ExitRules.endsKeptOrFlat_bind {α : Type} {p : Engine α} {f : α → Engine PUnit} {desk : Desk}
    (hp : Procedure.Keeps (OnDesk R) p) (hf : ∀ value next,
      EndsKeptOrFlat R answers (f value) next) :
    EndsKeptOrFlat R answers (p >>= f) desk := by
  have hFirst : R desk.card (p desk).2.card := hp desk
  unfold EndsKeptOrFlat Procedure.Ensures
  show outcomes _ _ _ (Procedure.bind p f desk).1 (Procedure.bind p f desk).2
  unfold Procedure.bind
  rcases hRun : p desk with ⟨value | error | _, next⟩ <;> rw [hRun] at hFirst
  · have hLast := hf value next
    unfold EndsKeptOrFlat Procedure.Ensures at hLast
    show outcomes _ _ _ (f value next).1 (f value next).2
    rcases hEnd : f value next with ⟨_ | _ | _, last⟩ <;> rw [hEnd] at hLast
    · rcases hLast with hKept | hFlat
      · exact Or.inl (h.trans hFirst hKept)
      · exact Or.inr hFlat
    all_goals exact h.trans hFirst hLast
  all_goals exact hFirst

open EndsKeptOrFlat (of_keeps)

theorem ExitRules.endsKeptOrFlat_liquidateRemaining {remaining : Int}
    (hAnswer : answers.refreshOrderableQuantity = .ok remaining) (desk : Desk) :
    EndsKeptOrFlat R answers (liquidateRemaining runtime answers remaining) desk := by
  unfold liquidateRemaining
  by_cases hEmpty : remaining ≤ 0
  · rw [if_pos hEmpty]
    let emptied : TradeCardState :=
      if desk.card.brokerQuantity ≠ 0 then
        { desk.card with brokerQuantity := 0, orderableQuantity := 0 }
      else desk.card
    have hFlat : confirmFlat emptied = .ok (closedFlat emptied) := by
      apply confirmFlat_of_empty
      by_cases hQuantity : desk.card.brokerQuantity ≠ 0
      · simp [emptied, hQuantity]
      · simp only [emptied, if_neg hQuantity]
        omega
    have hRun : (setCard (fun card =>
          if card.brokerQuantity ≠ 0 then
            { card with brokerQuantity := 0, orderableQuantity := 0 }
          else card) >>= fun _ => currentCard >>= fun card =>
        ofExcept (confirmFlat card) >>= fun flat =>
        setCard (fun _ => flat) : Engine PUnit) desk =
          (.returned ⟨⟩, { desk with card := closedFlat emptied }) := by
      show (ofExcept (confirmFlat emptied) >>= fun flat =>
        setCard (fun _ => flat) : Engine PUnit) { desk with card := emptied } = _
      rw [hFlat]
      rfl
    unfold EndsKeptOrFlat
    apply Procedure.Ensures.of_run_eq hRun
    exact Or.inr ⟨⟨remaining, hAnswer, hEmpty⟩, emptied, rfl⟩
  · rw [if_neg hEmpty]
    apply of_keeps
    apply h.keeps_currentCard.bind h.evolution
    intro card
    dsimp only
    split
    · exact h.keeps_done
    have hCounted : Procedure.Keeps (OnDesk R) (setCard (fun card =>
        { card with brokerQuantity := remaining, orderableQuantity := remaining })) :=
      onDesk_setCard (h.counted hAnswer)
    apply hCounted.bind h.evolution
    intro _
    apply (h.keeps_submitSellOrder _ _).bind h.evolution
    intro message
    cases message with
    | some => exact h.keeps_bookkeeping (fun _ => ⟨rfl, rfl, rfl⟩)
    | none =>
      apply h.keeps_bookkeeping
      intro card
      split <;> exact ⟨rfl, rfl, rfl⟩

theorem ExitRules.endsKeptOrFlat_sellUnlessHalted (desk : Desk) :
    EndsKeptOrFlat R answers (sellUnlessHalted runtime answers) desk := by
  unfold sellUnlessHalted
  apply h.endsKeptOrFlat_bind h.keeps_currentCard
  intro card next
  split
  · apply of_keeps
    split
    · exact h.keeps_done
    · exact h.keeps_bookkeeping (fun _ => ⟨rfl, rfl, rfl⟩)
  have hWarned : Procedure.Keeps (OnDesk R) (setCard (fun card =>
      { card with warnings := card.warnings.filter (· ≠ tradingHaltExitWarning) })) :=
    h.keeps_bookkeeping (fun _ => ⟨rfl, rfl, rfl⟩)
  apply h.endsKeptOrFlat_bind hWarned
  intro _ next
  cases hAnswer : answers.refreshOrderableQuantity with
  | ok => exact h.endsKeptOrFlat_liquidateRemaining hAnswer next
  | error error =>
    exact of_keeps (keeps_raise h.evolution error) next

theorem ExitRules.endsKeptOrFlat_submitSellAll (desk : Desk) :
    EndsKeptOrFlat R answers (submitSellAll runtime answers) desk := by
  unfold submitSellAll
  apply h.endsKeptOrFlat_bind h.keeps_entryConflictClear
  intro clearToSell next
  split
  · exact of_keeps h.keeps_done next
  apply h.endsKeptOrFlat_bind (keeps_ofExcept h.evolution _)
  intro found next
  cases found with
  | some => exact of_keeps h.keeps_done next
  | none =>
    apply h.endsKeptOrFlat_bind (h.keeps_bookkeeping retireTerminalExitAttempt_place)
    intro _ next
    exact h.endsKeptOrFlat_sellUnlessHalted next

theorem ExitStage.keeps (stage : ExitStage) (desk : Desk) :
    KeptOrFlat R answers desk.card (stage.run runtime answers desk).2.card := by
  cases stage with
  | processPartialSellRequests => exact Or.inl (h.keeps_processPartialSellRequests desk)
  | reconcilePartialSellFills =>
    have hKeeps : Procedure.Keeps (OnDesk R) (Services.reconcilePartialSellFills runtime
        answers) := by
      unfold Services.reconcilePartialSellFills
      apply h.keeps_currentCard.bind h.evolution
      intro card
      split
      · exact h.keeps_done
      · exact h.keeps_concludePartialSell.attempt.bind h.evolution (fun _ => h.keeps_done)
    exact Or.inl (hKeeps desk)
  | processQueuedMarketOpenSells => exact Or.inl (h.keeps_processQueuedMarketOpenSells desk)
  | reconcileSellAllOrders =>
    have hKeeps : Procedure.Keeps (OnDesk R) (Services.reconcileSellAllOrders runtime
        answers) := by
      unfold Services.reconcileSellAllOrders
      apply h.keeps_currentCard.bind h.evolution
      intro card
      split
      · exact h.keeps_done
      · exact h.keeps_concludeSellAllOrder.attempt.bind h.evolution (fun _ => h.keeps_done)
    exact Or.inl (hKeeps desk)
  | retryIncompleteSellAlls =>
    show KeptOrFlat R answers desk.card
      (Services.retryIncompleteSellAlls runtime answers desk).2.card
    have hBody := h.endsKeptOrFlat_submitSellAll desk
    by_cases hLeft : desk.card.boardStatus ≠ .sellAll ∨
        waitsForExitRetry desk.card answers.now ∨ desk.card.exitSubmissionUnresolved
    · have hRun : Services.retryIncompleteSellAlls runtime answers desk =
          (.returned ⟨⟩, desk) := by
        show (if desk.card.boardStatus ≠ .sellAll ∨ waitsForExitRetry desk.card answers.now ∨
          desk.card.exitSubmissionUnresolved then _ else _ : Engine PUnit) desk = _
        rw [if_pos hLeft]
        rfl
      rw [hRun]
      exact Or.inl (h.refl _)
    · show KeptOrFlat R answers desk.card
        ((if desk.card.boardStatus ≠ .sellAll ∨ waitsForExitRetry desk.card answers.now ∨
          desk.card.exitSubmissionUnresolved then _ else _ : Engine PUnit) desk).2.card
      rw [if_neg hLeft]
      unfold EndsKeptOrFlat Procedure.Ensures at hBody
      show KeptOrFlat R answers desk.card (Procedure.bind _ _ desk).2.card
      unfold Procedure.bind attempt
      rcases hEnd : submitSellAll runtime answers desk with ⟨_ | error | _, next⟩ <;>
        rw [hEnd] at hBody
      · exact hBody
      · exact Or.inl (h.trans hBody
          (h.bookkeeping (handleSellAllError_place runtime answers error next.card)))
      · exact Or.inl hBody

end Parts

end QuantApp.Services
