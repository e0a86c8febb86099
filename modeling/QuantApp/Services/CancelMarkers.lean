import QuantApp.Services.EntryReplacement
import QuantApp.Services.HeldThroughStages

/-!
# The markers of requested cancels

`_entry_conflict_clear_for_liquidation`, `_escalate_exit_cancel_if_due` and
`_reconcile_entry_orders` of `src/services/trading_engine.py` and the outcome of the cancel they
request.  The first marks the card before it asks, the other two after it; a cancel that was a
no-op (`_cancel_order` of `src/services/buyboard_runtime.py`) returns like an accepted one.
-/

namespace QuantApp.Services

open Core Verified

variable {card after before : TradeCardState} {order : BrokerOrder} {answers : ExitAnswers}
  {runtime : EngineRuntime} {now : Instant} {observed : TradeCardState × BrokerOrder}
  {text : ReplacementText} {force : Bool} {resume : ResumeAnswer}

/-- How the cancel callback ends.  `noOp` is the `ValueError` that `_cancel_order` logs and
returns nothing for. -/
inductive CancelOutcome
  | returned (status : OrderStatus) (protective : Bool)
  | noOp
  | ambiguous (observedAt : Instant)
  | rejected
  | raised
  deriving DecidableEq

namespace CancelOutcome

/-- What `request_cancel_with_lifecycle` sees of it: the status of nothing is none of those it
compares with. -/
def answer : CancelOutcome → CancelAnswer
  | .returned status protective => .answered status protective
  | .noOp => .answered .unknown false
  | .ambiguous observedAt => .ambiguous observedAt
  | .rejected => .rejected
  | .raised => .raised

/-- The cancel was accepted or its outcome is ambiguous. -/
def Stands : CancelOutcome → Prop
  | .returned _ _ | .ambiguous _ => True
  | .noOp | .rejected | .raised => False

/-- The lifecycle clears the marker of an entry: the cancel is refused, or the answer to a
protective one says that the order has ended. -/
def clearsEntry : CancelOutcome → Bool
  | .rejected => true
  | .returned status protective => protective && endedAtBroker status
  | _ => false

end CancelOutcome

/-! ## What the lifecycle leaves -/

/-- A cancel ends by raising or not, and hands nothing over. -/
theorem positionRequestCancel_run (scope : CancelScope) (desk : Desk) :
    positionRequestCancel answers scope desk =
      ((if (requestCancelWithLifecycle desk.card scope answers.cancelCommandId
          answers.cancel).2 then .raised answers.cancelFailure else .returned ⟨⟩),
        { desk with
          card := (requestCancelWithLifecycle desk.card scope answers.cancelCommandId
            answers.cancel).1 }) := by
  show (if (requestCancelWithLifecycle desk.card scope answers.cancelCommandId
      answers.cancel).2 = true then Procedure.raise answers.cancelFailure
    else pure ⟨⟩ : Engine PUnit) { desk with
      card := (requestCancelWithLifecycle desk.card scope answers.cancelCommandId
        answers.cancel).1 } = _
  split <;> rfl

/-- The fields that decide whether a card is worked again. -/
structure SameWork (before after : TradeCardState) : Prop where
  boardStatus : after.boardStatus = before.boardStatus
  nextExitRetryAt : after.nextExitRetryAt = before.nextExitRetryAt
  exitSubmissionUnresolved : after.exitSubmissionUnresolved = before.exitSubmissionUnresolved
  orbGeneration : after.orbGeneration = before.orbGeneration
  entryBlockReason : after.entryBlockReason = before.entryBlockReason

theorem SameWork.trans {first second third : TradeCardState} (h : SameWork first second)
    (h' : SameWork second third) : SameWork first third :=
  ⟨h'.boardStatus.trans h.boardStatus, h'.nextExitRetryAt.trans h.nextExitRetryAt,
    h'.exitSubmissionUnresolved.trans h.exitSubmissionUnresolved,
    h'.orbGeneration.trans h.orbGeneration, h'.entryBlockReason.trans h.entryBlockReason⟩

theorem stampCancelCommand_work (card : TradeCardState) (scope : CancelScope) (minted : String) :
    SameWork card (stampCancelCommand card scope minted) ∧
      (stampCancelCommand card scope minted).entryCancelInFlight = card.entryCancelInFlight ∧
      (stampCancelCommand card scope minted).exitCancelInFlight = card.exitCancelInFlight ∧
      (stampCancelCommand card scope minted).entryRemainingTargetQuantity =
        card.entryRemainingTargetQuantity := by
  unfold stampCancelCommand
  cases scope
  all_goals
    dsimp only
    split
    all_goals exact ⟨⟨rfl, rfl, rfl, rfl, rfl⟩, rfl, rfl, rfl⟩

open CancelOutcome (answer clearsEntry)

/-- What the lifecycle of an entry cancel leaves of the work and the marker, and whether it
raises. -/
theorem requestEntryCancel_spec (card : TradeCardState) (minted : String)
    (outcome : CancelOutcome) :
    let after := requestCancelWithLifecycle card .entry minted outcome.answer
    SameWork card after.1 ∧
      (after.2 = true ↔ outcome = .rejected ∨ outcome = .raised) ∧
      (after.1.entryCancelInFlight = true ↔
        (∃ observedAt, outcome = .ambiguous observedAt) ∨
          outcome.clearsEntry = false ∧ card.entryCancelInFlight = true) := by
  obtain ⟨hWork, hMarker, -, -⟩ := stampCancelCommand_work card .entry minted
  cases outcome with
  | noOp => exact ⟨hWork, by simp [requestCancelWithLifecycle, answer], by
      simp [requestCancelWithLifecycle, answer, clearsEntry, hMarker]⟩
  | ambiguous =>
    refine ⟨hWork.trans ⟨rfl, rfl, rfl, rfl, rfl⟩, ?_, ?_⟩
    all_goals simp [requestCancelWithLifecycle, answer]
  | rejected =>
    refine ⟨hWork.trans ⟨rfl, rfl, rfl, rfl, rfl⟩, ?_, ?_⟩
    · simp [requestCancelWithLifecycle, answer]
    · simp [requestCancelWithLifecycle, answer, clearsEntry]
  | raised =>
    refine ⟨hWork, ?_, ?_⟩
    · simp [requestCancelWithLifecycle, answer]
    · simp [requestCancelWithLifecycle, answer, clearsEntry, hMarker]
  | returned status protective =>
    by_cases hEnded : protective = true ∧ endedAtBroker status = true
    · have hAfter : (requestCancelWithLifecycle card .entry minted
          (CancelOutcome.returned status protective).answer) =
          ({ stampCancelCommand card .entry minted with
              entryCancelCommandId := ""
              entryCancelInFlight := false
              entryCancelReason := ""
              entryClientOrderId := ""
              entryPendingAttemptNumber := 0
              entrySubmissionUnresolved := false
              entryRemainingTargetQuantity := 0
              entryAttemptGroupId := ""
              entryAttemptCount := 0 }, false) := if_pos hEnded
      rw [hAfter]
      refine ⟨hWork.trans ⟨rfl, rfl, rfl, rfl, rfl⟩, ?_, ?_⟩
      · simp
      · simp [clearsEntry, hEnded.1, hEnded.2]
    · have hAfter : (requestCancelWithLifecycle card .entry minted
          (CancelOutcome.returned status protective).answer) =
          (stampCancelCommand card .entry minted, false) := if_neg hEnded
      rw [hAfter]
      refine ⟨hWork, by simp, ?_⟩
      have hClears : (CancelOutcome.returned status protective).clearsEntry = false := by
        simpa [clearsEntry] using hEnded
      simp [hClears, hMarker]

/-! ## A liquidation -/

def ExitAnswers.withOutcome (answers : ExitAnswers) (outcome : CancelOutcome) : ExitAnswers :=
  { answers with cancel := outcome.answer }

/-- A working BUY is found that no cancel is in flight for: `request_cancel` is called. -/
def liquidationAsks (answers : ExitAnswers) (card : TradeCardState) : Bool :=
  !card.entryCancelInFlight &&
    match answers.findOpenEntryOrder with
    | .ok (some _) => true
    | _ => false

/-- `_retry_incomplete_sell_alls` comes to the working BUY of the card, and asks. -/
def retryAsks (answers : ExitAnswers) (card : TradeCardState) : Bool :=
  card.boardStatus = .sellAll && !waitsForExitRetry card answers.now &&
    !card.exitSubmissionUnresolved && liquidationAsks answers card

/-- The card is liquidated, and its exit neither backs off nor is unresolved. -/
def IsLiquidated (card : TradeCardState) (now : Instant) : Prop :=
  card.boardStatus = .sellAll ∧ waitsForExitRetry card now = false ∧
    card.exitSubmissionUnresolved = false

/-- The card of `_entry_conflict_clear_for_liquidation` when it asks. -/
def markedForLiquidation (card : TradeCardState) : TradeCardState :=
  { card with
    entryRemainingTargetQuantity := 0
    entryCancelInFlight := true
    entryCancelReason := "EXIT_ALL" }

def liquidationLeaves (answers : ExitAnswers) (card : TradeCardState) : TradeCardState :=
  (entryConflictClear answers { card := card }).2.card

/-- After the outcome, a marker stands for a cancel, and a card without one asks again at the
next heartbeat that finds the BUY still working. -/
def LiquidationCancelHandled (answers : ExitAnswers) (outcome : CancelOutcome)
    (card : TradeCardState) : Prop :=
  let after := liquidationLeaves (answers.withOutcome outcome) card
  (after.entryCancelInFlight = true → outcome.Stands) ∧
    (after.entryCancelInFlight = false → ∀ next : ExitAnswers, answers.now ≤ next.now →
      (∃ order, next.findOpenEntryOrder = .ok (some order)) → retryAsks next after = true)

theorem liquidationLeaves_of_asks (h : liquidationAsks answers card = true) :
    liquidationLeaves answers card =
      (requestCancelWithLifecycle (markedForLiquidation card) .entry answers.cancelCommandId
        answers.cancel).1 := by
  unfold liquidationAsks at h
  rw [Bool.and_eq_true] at h
  have hInFlight : ¬ card.entryCancelInFlight = true := by simpa using h.1
  have hFound := h.2
  split at hFound
  next order hOrder =>
    have hRun : entryConflictClear answers { card := card } =
        (positionRequestCancel answers .entry >>= fun _ => (pure false : Engine Bool))
          { card := markedForLiquidation card } := by
      unfold entryConflictClear
      rw [hOrder]
      show (if card.entryCancelInFlight = true then _ else _ : Engine Bool) _ = _
      rw [if_neg hInFlight]
      rfl
    unfold liquidationLeaves
    rw [hRun]
    show (Procedure.bind (positionRequestCancel answers .entry) _ _).2.card = _
    unfold Procedure.bind
    rw [positionRequestCancel_run]
    split
    · next hReturned =>
        rw [← (Prod.mk.inj hReturned).2]
        rfl
    · next hRaised =>
        rw [← (Prod.mk.inj hRaised).2]
    · next hCrashed =>
        rw [← (Prod.mk.inj hCrashed).2]
  · cases hFound

theorem waitsForExitRetry_mono {later : Instant}
    (hSame : after.nextExitRetryAt = before.nextExitRetryAt) (hLater : now ≤ later)
    (h : waitsForExitRetry before now = false) : waitsForExitRetry after later = false := by
  unfold waitsForExitRetry at h ⊢
  rw [hSame]
  cases hRetry : before.nextExitRetryAt with
  | none => rfl
  | some =>
    rw [hRetry] at h
    simp only [Option.any_some, decide_eq_false_iff_not] at h ⊢
    exact fun hLate => h (lt_of_le_of_lt hLater hLate)

/-- A card without a marker asks at every next heartbeat that finds the BUY working, just when it
is liquidated. -/
theorem retryAsks_iff (hMarker : card.entryCancelInFlight = false)
    (hFound : ∃ order, answers.findOpenEntryOrder = .ok (some order)) :
    (∀ next : ExitAnswers, answers.now ≤ next.now →
      (∃ order, next.findOpenEntryOrder = .ok (some order)) → retryAsks next card = true) ↔
      IsLiquidated card answers.now := by
  constructor
  · intro hAsks
    have hNow := hAsks answers (le_refl _) hFound
    unfold retryAsks at hNow
    simp only [Bool.and_eq_true, decide_eq_true_eq, Bool.not_eq_true'] at hNow
    exact ⟨hNow.1.1.1, hNow.1.1.2, hNow.1.2⟩
  · rintro ⟨hBoard, hWaits, hResolved⟩ next hLater ⟨order, hOrder⟩
    unfold retryAsks liquidationAsks
    rw [hBoard, waitsForExitRetry_mono rfl hLater hWaits, hResolved, hMarker, hOrder]
    rfl

theorem IsLiquidated.of_work (h : SameWork before after) :
    IsLiquidated after now ↔ IsLiquidated before now := by
  unfold IsLiquidated waitsForExitRetry
  rw [h.boardStatus, h.nextExitRetryAt, h.exitSubmissionUnresolved]

variable (outcome : CancelOutcome)

/-- A liquidation handles the outcome of its cancel just when the cancel was made, and is asked
for again where the marker is cleared. -/
theorem liquidationCancelHandled_iff
    (hAsks : liquidationAsks answers card = true) :
    LiquidationCancelHandled answers outcome card ↔
      outcome ≠ .noOp ∧ outcome ≠ .raised ∧
        (outcome.clearsEntry = true → IsLiquidated card answers.now) := by
  have hFound : ∃ order, answers.findOpenEntryOrder = .ok (some order) := by
    unfold liquidationAsks at hAsks
    rw [Bool.and_eq_true] at hAsks
    have hSome := hAsks.2
    split at hSome
    next order hOrder => exact ⟨order, hOrder⟩
    · cases hSome
  have hLeaves : liquidationLeaves (answers.withOutcome outcome) card =
      (requestCancelWithLifecycle (markedForLiquidation card) .entry answers.cancelCommandId
        outcome.answer).1 := @liquidationLeaves_of_asks _ (answers.withOutcome outcome)
          hAsks
  obtain ⟨hWork, -, hMarker⟩ := requestEntryCancel_spec (markedForLiquidation card)
    answers.cancelCommandId outcome
  have hLiquidated := (@IsLiquidated.of_work _ _ answers.now
    ((SameWork.mk rfl rfl rfl rfl rfl : SameWork card (markedForLiquidation card)).trans hWork))
  unfold LiquidationCancelHandled
  dsimp only
  rw [hLeaves, hMarker]
  constructor
  · rintro ⟨hStands, hAgain⟩
    refine ⟨?_, ?_, ?_⟩
    · rintro rfl
      exact hStands (.inr ⟨rfl, rfl⟩)
    · rintro rfl
      exact hStands (.inr ⟨rfl, rfl⟩)
    · intro hClears
      have hCleared : (requestCancelWithLifecycle (markedForLiquidation card) .entry
          answers.cancelCommandId outcome.answer).1.entryCancelInFlight = false := by
        rw [Bool.eq_false_iff, Ne, hMarker]
        rintro (⟨observedAt, rfl⟩ | ⟨hKeeps, -⟩)
        · cases hClears
        · rw [hClears] at hKeeps
          cases hKeeps
      exact hLiquidated.mp ((retryAsks_iff hCleared hFound).mp (hAgain hCleared))
  · rintro ⟨hMade, hQuiet, hAgain⟩
    constructor
    · intro hInFlight
      cases outcome with
      | returned | ambiguous => trivial
      | noOp => exact absurd rfl hMade
      | rejected =>
        rcases hInFlight with ⟨_, hAmbiguous⟩ | ⟨hKeeps, _⟩
        · cases hAmbiguous
        · cases hKeeps
      | raised => exact absurd rfl hQuiet
    · intro hCleared
      have hClears : outcome.clearsEntry = true := by
        by_contra hKeeps
        have hInFlight := hMarker.mpr (.inr ⟨Bool.eq_false_of_not_eq_true hKeeps, rfl⟩)
        rw [hCleared] at hInFlight
        cases hInFlight
      exact (retryAsks_iff hCleared hFound).mpr (hLiquidated.mpr (hAgain hClears))

/-! ## The exit of a card -/

/-- `_escalate_exit_cancel_if_due` calls `request_cancel`. -/
def exitAsks (runtime : EngineRuntime) (answers : ExitAnswers) (order : BrokerOrder)
    (force : Bool) (card : TradeCardState) : Bool :=
  !card.exitCancelInFlight && (force || attemptDeadlinePassed runtime order answers.now)

def escalationLeaves (runtime : EngineRuntime) (answers : ExitAnswers) (order : BrokerOrder)
    (force : Bool) (card : TradeCardState) : TradeCardState :=
  (escalateExitCancelIfDue runtime answers order force { card := card }).2.card

/-- After the outcome, a marker stands for a cancel, and a card without one asks again at the
next heartbeat at which the cancel is due. -/
def ExitCancelHandled (runtime : EngineRuntime) (answers : ExitAnswers) (order : BrokerOrder)
    (force : Bool) (outcome : CancelOutcome) (card : TradeCardState) : Prop :=
  let after := escalationLeaves runtime (answers.withOutcome outcome) order force card
  (after.exitCancelInFlight = true → outcome.Stands) ∧
    (after.exitCancelInFlight = false → ∀ (next : ExitAnswers) (working : BrokerOrder)
      (forced : Bool), (forced || attemptDeadlinePassed runtime working next.now) = true →
        exitAsks runtime next working forced after = true)

theorem escalationLeaves_of_asks (h : exitAsks runtime answers order force card = true) :
    escalationLeaves runtime answers order force card =
      let cancelled := requestCancelWithLifecycle card .exit answers.cancelCommandId answers.cancel
      if cancelled.2 then cancelled.1
      else
        { cancelled.1 with
          exitCancelInFlight := true
          exitCancelRequestedAt := some answers.now } := by
  unfold exitAsks at h
  rw [Bool.and_eq_true] at h
  have hInFlight : ¬ card.exitCancelInFlight = true := by simpa using h.1
  have hRun : escalateExitCancelIfDue runtime answers order force { card := card } =
      (positionRequestCancel answers .exit >>= fun _ =>
        (setCard (fun card =>
          { card with
            exitCancelInFlight := true
            exitCancelRequestedAt := some answers.now }) : Engine PUnit)) { card := card } := by
    unfold escalateExitCancelIfDue
    show (if card.exitCancelInFlight = true then _ else _ : Engine PUnit) _ = _
    rw [if_neg hInFlight, if_pos h.2]
  unfold escalationLeaves
  rw [hRun]
  show (Procedure.bind (positionRequestCancel answers .exit) _ _).2.card = _
  unfold Procedure.bind
  rw [positionRequestCancel_run]
  by_cases hRaises : (requestCancelWithLifecycle card .exit answers.cancelCommandId
      answers.cancel).2 = true
  · simp only [hRaises, if_true]
  · simp only [Bool.eq_false_of_not_eq_true hRaises, Bool.false_eq_true, if_false]
    rfl

/-- An exit handles the outcome of its cancel just when the cancel was not a no-op. -/
theorem exitCancelHandled_iff
    (hAsks : exitAsks runtime answers order force card = true) :
    ExitCancelHandled runtime answers order force outcome card ↔ outcome ≠ .noOp := by
  have hLeaves : escalationLeaves runtime (answers.withOutcome outcome) order force card =
      _ := @escalationLeaves_of_asks _ _ (answers.withOutcome outcome) _ _ hAsks
  have hBefore : card.exitCancelInFlight = false := by
    unfold exitAsks at hAsks
    simpa using (Bool.and_eq_true_iff.mp hAsks).1
  have hAgain : ∀ after : TradeCardState, after.exitCancelInFlight = false →
      ∀ (next : ExitAnswers) (working : BrokerOrder) (forced : Bool),
        (forced || attemptDeadlinePassed runtime working next.now) = true →
          exitAsks runtime next working forced after = true := by
    intro after hMarker next working forced hDue
    unfold exitAsks
    rw [hMarker, hDue]
    rfl
  obtain ⟨-, -, hStamped, -⟩ := stampCancelCommand_work card .exit answers.cancelCommandId
  unfold ExitCancelHandled
  dsimp only
  rw [hLeaves]
  constructor
  · rintro ⟨hStands, -⟩ rfl
    exact hStands rfl
  · intro hMade
    refine ⟨?_, hAgain _⟩
    cases outcome with
    | returned | ambiguous => exact fun _ => trivial
    | noOp => exact absurd rfl hMade
    | rejected =>
      intro hInFlight
      cases hInFlight
    | raised =>
      intro hInFlight
      exact absurd (hStamped.symm.trans hInFlight) (by rw [hBefore]; exact Bool.false_ne_true)

/-! ## The entry of a card -/

def EntryAnswers.withOutcome (answers : EntryAnswers) (outcome : CancelOutcome) : EntryAnswers :=
  { answers with cancel := outcome.answer }

/-- The card and the order once an observed fill is protected. -/
def observedEntry (answers : EntryAnswers) (card : TradeCardState) (refreshed : BrokerOrder) :
    Except Raised (TradeCardState × BrokerOrder) :=
  if card.brokerQuantity < refreshed.filledQuantity then
    (fun holding => protectNewFill card refreshed holding) <$> answers.firstHolding
  else .ok (card, refreshed)

/-- The block reason of the card asks for a cancel. -/
def cancelWanted (card : TradeCardState) : Bool :=
  card.entryBlockReason = "cancel_requested" || card.entryBlockReason = "eod_cancel_requested"

/-- A cancel of the order is due or wanted. -/
def cancelDue (runtime : EngineRuntime) (now : Instant) (card : TradeCardState)
    (order : BrokerOrder) : Bool :=
  asksCancel order (attemptDeadlinePassed runtime order now) (cancelWanted card)

/-- `_reconcile_entry_orders` calls `request_cancel`. -/
def entryAsks (runtime : EngineRuntime) (text : ReplacementText) (answers : EntryAnswers)
    (card : TradeCardState) : Bool :=
  tracksEntry card && !replacementInFlight text card &&
    match answers.refreshed with
    | .ok (some order) =>
      match observedEntry answers card order with
      | .ok observed => cancelDue runtime answers.now observed.1 observed.2
      | .error _ => false
    | _ => false

/-- The card is tracked whether or not it has a marker. -/
def StillTracked (card : TradeCardState) : Prop :=
  card.boardStatus = .entryPending ∨
    card.boardStatus = .openPosition ∧ 0 < card.entryRemainingTargetQuantity

/-- A fill changes the column and the target of a card; its marker and what else decides
whether it is worked stay. -/
structure SameMarker (before after : TradeCardState) : Prop where
  entryCancelInFlight : after.entryCancelInFlight = before.entryCancelInFlight
  nextExitRetryAt : after.nextExitRetryAt = before.nextExitRetryAt
  exitSubmissionUnresolved : after.exitSubmissionUnresolved = before.exitSubmissionUnresolved
  orbGeneration : after.orbGeneration = before.orbGeneration
  entryBlockReason : after.entryBlockReason = before.entryBlockReason

theorem protectNewFill_marker (card : TradeCardState) (order : BrokerOrder)
    (holding : Option BrokerHolding) :
    SameMarker card (protectNewFill card order holding).1 ∧
      ∃ applied, (protectNewFill card order holding).2 =
        { order with appliedFilledQuantity := applied } := by
  have hApplied : SameMarker card (applyCumulativeFill card order holding).1 ∧
      ∃ applied, (applyCumulativeFill card order holding).2 =
        { order with appliedFilledQuantity := applied } := by
    unfold applyCumulativeFill
    cases holding with
    | some => exact ⟨⟨rfl, rfl, rfl, rfl, rfl⟩, _, rfl⟩
    | none =>
      dsimp only
      split
      · exact ⟨⟨rfl, rfl, rfl, rfl, rfl⟩, _, rfl⟩
      · exact ⟨⟨rfl, rfl, rfl, rfl, rfl⟩, order.appliedFilledQuantity, rfl⟩
  obtain ⟨⟨hMarker, hRetry, hUnresolved, hGeneration, hReason⟩, hOrder⟩ := hApplied
  unfold protectNewFill
  dsimp only
  split
  all_goals
    split
    all_goals exact ⟨⟨hMarker, hRetry, hUnresolved, hGeneration, hReason⟩, hOrder⟩

variable {answers : EntryAnswers}

theorem observedEntry_marker
    (h : observedEntry answers card order = .ok observed) :
    SameMarker card observed.1 ∧
      ∃ applied, observed.2 = { order with appliedFilledQuantity := applied } := by
  unfold observedEntry at h
  split at h
  · cases hHolding : answers.firstHolding with
    | error =>
      rw [hHolding] at h
      cases h
    | ok holding =>
      rw [hHolding] at h
      rw [← Except.ok.inj h]
      exact protectNewFill_marker card order holding
  · rw [← Except.ok.inj h]
    exact ⟨⟨rfl, rfl, rfl, rfl, rfl⟩, order.appliedFilledQuantity, rfl⟩

theorem cancelDue_applied (applied : Int)
    (hReason : after.entryBlockReason = card.entryBlockReason) :
    cancelDue runtime now after { order with appliedFilledQuantity := applied } =
      cancelDue runtime now card order := by
  unfold cancelDue cancelWanted
  rw [hReason]
  rfl

/-- The card with the reason of the cancel. -/
def reasonedEntry (runtime : EngineRuntime) (now : Instant) (card : TradeCardState)
    (order : BrokerOrder) : TradeCardState :=
  if card.entryCancelInFlight = false ∧
      (attemptDeadlinePassed runtime order now ∨ cancelWanted card) then
    { card with entryCancelReason := escalationReason card }
  else card

def entryPassLeaves (runtime : EngineRuntime) (text : ReplacementText) (answers : EntryAnswers)
    (resume : ResumeAnswer) (card : TradeCardState) : TradeCardState :=
  (reconcileTrackedEntry runtime text answers resume card).1

/-- A pass that asks leaves the card as the cancel leaves it, with a marker if it returns. -/
theorem entryPassLeaves_of_asks (hTracks : tracksEntry card = true)
    (hQuiet : replacementInFlight text card = false) (hOrder : answers.refreshed = .ok (some order))
    (hObserved : observedEntry answers card order = .ok observed)
    (hDue : cancelDue runtime answers.now observed.1 observed.2 = true) :
    entryPassLeaves runtime text answers resume card =
      let cancelled := requestCancelWithLifecycle
        (reasonedEntry runtime answers.now observed.1 observed.2) .entry answers.cancelCommandId
        answers.cancel
      if cancelled.2 then cancelled.1
      else { cancelled.1 with entryCancelInFlight := true } := by
  have hAction : resolveEntryOrder observed.2
      (attemptDeadlinePassed runtime observed.2 answers.now) (cancelWanted observed.1) =
        .awaitCancelConfirmation := if_pos hDue
  have hPass : reconcileEntryOrder runtime answers card order =
      (let cancelled :=
        if asksCancel observed.2 (attemptDeadlinePassed runtime observed.2 answers.now)
            (cancelWanted observed.1) then
          requestCancelWithLifecycle (reasonedEntry runtime answers.now observed.1 observed.2)
            .entry answers.cancelCommandId answers.cancel
        else (reasonedEntry runtime answers.now observed.1 observed.2, false)
      if cancelled.2 then (cancelled.1, observed.2)
      else
        applyEntryResolution runtime answers.now answers.secondHolding
          (decide (0 < observed.1.brokerQuantity))
          (resolveEntryOrder observed.2 (attemptDeadlinePassed runtime observed.2 answers.now)
            (cancelWanted observed.1)) cancelled.1 observed.2) := by
    unfold reconcileEntryOrder
    have hSame : (if card.brokerQuantity < order.filledQuantity then
        (fun holding => protectNewFill card order holding) <$> answers.firstHolding
        else .ok (card, order)) = .ok observed := hObserved
    rw [hSame]
    rfl
  unfold entryPassLeaves reconcileTrackedEntry
  rw [hTracks, hQuiet]
  simp only [Bool.and_false, Bool.false_eq_true, if_false]
  unfold reconcileEntryOrders
  rw [hTracks, hOrder]
  simp only [if_true]
  have hAsks : asksCancel observed.2 (attemptDeadlinePassed runtime observed.2 answers.now)
      (cancelWanted observed.1) = true := hDue
  rw [hPass, hAction, if_pos hAsks]
  dsimp only
  split
  · rfl
  · rfl

/-- After the outcome, a marker stands for a cancel, this one or an earlier one, and a card without
one asks again at the next heartbeat that finds the order working and its cancel still due: in
the entry pass or, where it is liquidated, in the retry of the liquidation. -/
def EntryCancelHandled (runtime : EngineRuntime) (text : ReplacementText) (answers : EntryAnswers)
    (resume : ResumeAnswer) (outcome : CancelOutcome) (card : TradeCardState) : Prop :=
  let after := entryPassLeaves runtime text (answers.withOutcome outcome) resume card
  (after.entryCancelInFlight = true → outcome.Stands ∨ card.entryCancelInFlight = true) ∧
    (after.entryCancelInFlight = false →
      ∀ (next : EntryAnswers) (nextExit : ExitAnswers) (working : BrokerOrder),
        answers.now ≤ nextExit.now → next.refreshed = .ok (some working) →
        (∃ holding, next.firstHolding = .ok holding) →
        nextExit.findOpenEntryOrder = .ok (some working) →
        cancelDue runtime next.now after working = true →
          entryAsks runtime text next after = true ∨ retryAsks nextExit after = true)

/-- The outcome clears the marker or leaves a card without one. -/
def CancelOutcome.LeavesUnmarked (outcome : CancelOutcome) (card : TradeCardState) : Prop :=
  outcome = .rejected ∨ outcome = .raised ∧ card.entryCancelInFlight = false

theorem requestEntryCancel_target {minted : String} {outcome : CancelOutcome}
    (h : outcome = .rejected ∨ outcome = .raised) :
    (requestCancelWithLifecycle card .entry minted outcome.answer).1.entryRemainingTargetQuantity =
      card.entryRemainingTargetQuantity := by
  obtain ⟨-, -, -, hTarget⟩ := stampCancelCommand_work card .entry minted
  rcases h with rfl | rfl
  all_goals exact hTarget

theorem reasonedEntry_same (runtime : EngineRuntime) (now : Instant) (card : TradeCardState)
    (order : BrokerOrder) :
    SameWork card (reasonedEntry runtime now card order) ∧
      (reasonedEntry runtime now card order).entryCancelInFlight = card.entryCancelInFlight ∧
      (reasonedEntry runtime now card order).entryRemainingTargetQuantity =
        card.entryRemainingTargetQuantity := by
  unfold reasonedEntry
  split
  all_goals exact ⟨⟨rfl, rfl, rfl, rfl, rfl⟩, rfl, rfl⟩

theorem tracksEntry_iff (hMarker : card.entryCancelInFlight = false) :
    tracksEntry card = true ↔ StillTracked card := by
  unfold tracksEntry StillTracked
  simp [hMarker]

/-- The liquidation of a card whose working BUY is found. -/
def liquidationAnswers (now : Instant) (working : BrokerOrder) : ExitAnswers :=
  { now := now
    later := now
    findOpenSellOrder := .ok none
    reconcileSellOrder := .ok working
    refreshOrderableQuantity := .ok 0
    findOpenEntryOrder := .ok (some working)
    cancel := .raised
    cancelError := { cls := .valueError, message := "" }
    cancelCommandId := ""
    tradingHalted := false
    marketIsOpen := false
    submission := .accepted
    exitGroupId := "" }

/-- A card without a marker asks at every next heartbeat at which its cancel is due, just when it
is tracked without the marker or liquidated. -/
theorem asksAgain_iff (hMarker : after.entryCancelInFlight = false)
    (hQuiet : replacementInFlight text after = false)
    (hDue : cancelDue runtime answers.now after order = true) :
    (∀ (next : EntryAnswers) (nextExit : ExitAnswers) (working : BrokerOrder),
        answers.now ≤ nextExit.now → next.refreshed = .ok (some working) →
        (∃ holding, next.firstHolding = .ok holding) →
        nextExit.findOpenEntryOrder = .ok (some working) →
        cancelDue runtime next.now after working = true →
          entryAsks runtime text next after = true ∨ retryAsks nextExit after = true) ↔
      StillTracked after ∨ IsLiquidated after answers.now := by
  constructor
  · intro hAgain
    have hNow := hAgain
      { answers with refreshed := .ok (some order), firstHolding := .ok none }
      (liquidationAnswers answers.now order) order (le_refl _) rfl ⟨none, rfl⟩ rfl hDue
    rcases hNow with hEntry | hRetry
    · unfold entryAsks at hEntry
      rw [Bool.and_eq_true, Bool.and_eq_true] at hEntry
      exact .inl ((tracksEntry_iff hMarker).mp hEntry.1.1)
    · unfold retryAsks at hRetry
      simp only [Bool.and_eq_true, decide_eq_true_eq, Bool.not_eq_true'] at hRetry
      exact .inr ⟨hRetry.1.1.1, hRetry.1.1.2, hRetry.1.2⟩
  · rintro hWorked next nextExit working hLater hRefreshed ⟨holding, hHolding⟩ hFound hStillDue
    rcases hWorked with hTracked | hLiquidated
    · left
      obtain ⟨observed, hObserved⟩ : ∃ observed, observedEntry next after working =
        .ok observed := by
        unfold observedEntry
        rw [hHolding]
        split
        all_goals exact ⟨_, rfl⟩
      obtain ⟨hSame, applied, hOrder⟩ := observedEntry_marker hObserved
      have hObservedDue : cancelDue runtime next.now observed.1 observed.2 = true := by
        rw [hOrder, cancelDue_applied applied hSame.entryBlockReason]
        exact hStillDue
      unfold entryAsks
      rw [(tracksEntry_iff hMarker).mpr hTracked, hQuiet, hRefreshed]
      dsimp only
      rw [hObserved]
      exact hObservedDue
    · right
      exact (@retryAsks_iff _ (liquidationAnswers answers.now working) hMarker
        ⟨working, rfl⟩).mpr hLiquidated nextExit hLater ⟨working, hFound⟩

/-- The condition on the entry pass: an unmarked card is not asked for in vain, and a cancel that
leaves the card unmarked leaves it tracked or liquidated. -/
def EntryCancelMeets (answers : EntryAnswers) (outcome : CancelOutcome)
    (card observed : TradeCardState) : Prop :=
  (outcome = .noOp → card.entryCancelInFlight = true) ∧
    (outcome.LeavesUnmarked card → StillTracked observed ∨ IsLiquidated observed answers.now)

theorem entryCancelHandled_iff
    (hTracks : tracksEntry card = true) (hQuiet : replacementInFlight text card = false)
    (hOrder : answers.refreshed = .ok (some order))
    (hObserved : observedEntry answers card order = .ok observed)
    (hDue : cancelDue runtime answers.now observed.1 observed.2 = true) :
    EntryCancelHandled runtime text answers resume outcome card ↔
      EntryCancelMeets answers outcome card observed.1 := by
  obtain ⟨hSame, -⟩ := observedEntry_marker hObserved
  obtain ⟨hReasoned, hReasonedMarker, hReasonedTarget⟩ :=
    reasonedEntry_same runtime answers.now observed.1 observed.2
  obtain ⟨hCancelled, hRaises, hMarker⟩ := requestEntryCancel_spec
    (reasonedEntry runtime answers.now observed.1 observed.2) answers.cancelCommandId outcome
  rw [hReasonedMarker, hSame.entryCancelInFlight] at hMarker
  have hWork := hReasoned.trans hCancelled
  have hLeaves : entryPassLeaves runtime text (answers.withOutcome outcome) resume card = _ :=
    @entryPassLeaves_of_asks _ _ _ _ _ resume (answers.withOutcome outcome) hTracks
      hQuiet hOrder hObserved hDue
  change entryPassLeaves runtime text (answers.withOutcome outcome) resume card =
    (if (requestCancelWithLifecycle (reasonedEntry runtime answers.now observed.1 observed.2)
        .entry answers.cancelCommandId outcome.answer).2 = true then
      (requestCancelWithLifecycle (reasonedEntry runtime answers.now observed.1 observed.2)
        .entry answers.cancelCommandId outcome.answer).1
    else { (requestCancelWithLifecycle (reasonedEntry runtime answers.now observed.1 observed.2)
        .entry answers.cancelCommandId outcome.answer).1 with
          entryCancelInFlight := true }) at hLeaves
  unfold EntryCancelHandled EntryCancelMeets
  dsimp only
  by_cases hFails : outcome = .rejected ∨ outcome = .raised
  · have hTarget := @requestEntryCancel_target
      (reasonedEntry runtime answers.now observed.1 observed.2) answers.cancelCommandId _ hFails
    rw [if_pos (hRaises.mpr hFails)] at hLeaves
    rw [hLeaves]
    generalize requestCancelWithLifecycle (reasonedEntry runtime answers.now observed.1 observed.2)
      .entry answers.cancelCommandId outcome.answer = cancelled at *
    have hUnmarked : cancelled.1.entryCancelInFlight = false ↔ outcome.LeavesUnmarked card := by
      rw [Bool.eq_false_iff, Ne, hMarker]
      unfold CancelOutcome.LeavesUnmarked
      rcases hFails with rfl | rfl
      all_goals simp [clearsEntry]
    have hWorked : (StillTracked cancelled.1 ∨ IsLiquidated cancelled.1 answers.now) ↔
        (StillTracked observed.1 ∨ IsLiquidated observed.1 answers.now) := by
      rw [IsLiquidated.of_work hWork]
      unfold StillTracked
      rw [hWork.boardStatus, hTarget, hReasonedTarget]
    have hStillQuiet : replacementInFlight text cancelled.1 = false := by
      unfold replacementInFlight at hQuiet ⊢
      rw [hWork.orbGeneration, hSame.orbGeneration]
      exact hQuiet
    have hStillDue : cancelDue runtime answers.now cancelled.1 observed.2 = true := by
      unfold cancelDue cancelWanted at hDue ⊢
      rw [hWork.entryBlockReason]
      exact hDue
    constructor
    · rintro ⟨-, hAgain⟩
      refine ⟨?_, ?_⟩
      · rintro rfl
        rcases hFails with hRejected | hRaised
        · cases hRejected
        · cases hRaised
      · intro hLeft
        have hCleared := hUnmarked.mpr hLeft
        exact hWorked.mp ((asksAgain_iff hCleared hStillQuiet hStillDue).mp (hAgain hCleared))
    · rintro ⟨-, hMeets⟩
      refine ⟨?_, ?_⟩
      · intro hInFlight
        rcases hMarker.mp hInFlight with ⟨observedAt, rfl⟩ | ⟨-, hBefore⟩
        · exact .inl trivial
        · exact .inr hBefore
      · intro hCleared
        exact (asksAgain_iff hCleared hStillQuiet hStillDue).mpr
          (hWorked.mpr (hMeets (hUnmarked.mp hCleared)))
  · rw [if_neg (fun hRaised => hFails (hRaises.mp hRaised))] at hLeaves
    rw [hLeaves]
    constructor
    · rintro ⟨hStands, -⟩
      refine ⟨?_, ?_⟩
      · rintro rfl
        exact (hStands rfl).resolve_left id
      · rintro (hRejected | ⟨hRaised, -⟩)
        · exact absurd (.inl hRejected) hFails
        · exact absurd (.inr hRaised) hFails
    · rintro ⟨hMade, -⟩
      refine ⟨fun _ => ?_, fun hCleared => by cases hCleared⟩
      cases outcome with
      | returned | ambiguous => exact .inl trivial
      | noOp => exact .inr (hMade rfl)
      | rejected => exact absurd (.inl rfl) hFails
      | raised => exact absurd (.inr rfl) hFails

/-! ## The three callers -/

/-- Where a liquidation asks for the cancel of a completion BUY, it handles the outcome. -/
def LiquidationCancelBacked (answers : ExitAnswers) (outcome : CancelOutcome)
    (card : TradeCardState) : Prop :=
  liquidationAsks answers card = true → LiquidationCancelHandled answers outcome card

/-- The cancel was made, and where its marker is cleared the card is liquidated. -/
def LiquidationCancelMeets (answers : ExitAnswers) (outcome : CancelOutcome)
    (card : TradeCardState) : Prop :=
  liquidationAsks answers card = true →
    outcome ≠ .noOp ∧ outcome ≠ .raised ∧
      (outcome.clearsEntry = true → IsLiquidated card answers.now)

def ExitCancelBacked (runtime : EngineRuntime) (answers : ExitAnswers) (order : BrokerOrder)
    (force : Bool) (outcome : CancelOutcome) (card : TradeCardState) : Prop :=
  exitAsks runtime answers order force card = true →
    ExitCancelHandled runtime answers order force outcome card

def ExitCancelMeets (runtime : EngineRuntime) (answers : ExitAnswers) (order : BrokerOrder)
    (force : Bool) (outcome : CancelOutcome) (card : TradeCardState) : Prop :=
  exitAsks runtime answers order force card = true → outcome ≠ .noOp

def EntryCancelBacked (runtime : EngineRuntime) (text : ReplacementText) (answers : EntryAnswers)
    (resume : ResumeAnswer) (outcome : CancelOutcome) (card : TradeCardState) : Prop :=
  entryAsks runtime text answers card = true →
    EntryCancelHandled runtime text answers resume outcome card

/-- `EntryCancelMeets` for the card of the pass once an observed fill is protected. -/
def EntryPassMeets (runtime : EngineRuntime) (text : ReplacementText) (answers : EntryAnswers)
    (outcome : CancelOutcome) (card : TradeCardState) : Prop :=
  entryAsks runtime text answers card = true → ∀ order observed,
    answers.refreshed = .ok (some order) → observedEntry answers card order = .ok observed →
      EntryCancelMeets answers outcome card observed.1

theorem entryCancelBacked_iff (runtime : EngineRuntime) (text : ReplacementText)
    (answers : EntryAnswers) (resume : ResumeAnswer) (outcome : CancelOutcome)
    (card : TradeCardState) :
    EntryCancelBacked runtime text answers resume outcome card ↔
      EntryPassMeets runtime text answers outcome card := by
  refine forall_congr' fun hAsks => ?_
  have hParts := hAsks
  unfold entryAsks at hParts
  rw [Bool.and_eq_true, Bool.and_eq_true, Bool.not_eq_true'] at hParts
  obtain ⟨⟨hTracks, hQuiet⟩, hAsked⟩ := hParts
  split at hAsked
  next order hOrder =>
    split at hAsked
    next observed hObserved =>
      rw [entryCancelHandled_iff outcome hTracks hQuiet hOrder hObserved hAsked]
      constructor
      · intro hMeets other seen hOther hSeen
        rw [hOrder] at hOther
        obtain rfl := Option.some.inj (Except.ok.inj hOther)
        rw [hObserved] at hSeen
        obtain rfl := Except.ok.inj hSeen
        exact hMeets
      · intro hMeets
        exact hMeets order observed hOrder hObserved
    · cases hAsked
  · cases hAsked

/-- After each of the three callers has handled the outcome of its cancel, a marker stands for a
cancel and a card without one asks again, if and only if the caller meets its condition. -/
theorem cancel_markers_backed_iff (runtime : EngineRuntime) (text : ReplacementText)
    (answers : ExitAnswers) (order : BrokerOrder) (force : Bool) (entryAnswers : EntryAnswers)
    (resume : ResumeAnswer) (outcome : CancelOutcome) (card : TradeCardState) :
    (LiquidationCancelBacked answers outcome card ↔
        LiquidationCancelMeets answers outcome card) ∧
      (ExitCancelBacked runtime answers order force outcome card ↔
        ExitCancelMeets runtime answers order force outcome card) ∧
      (EntryCancelBacked runtime text entryAnswers resume outcome card ↔
        EntryPassMeets runtime text entryAnswers outcome card) :=
  ⟨forall_congr' (liquidationCancelHandled_iff outcome),
    forall_congr' (exitCancelHandled_iff outcome),
    entryCancelBacked_iff runtime text entryAnswers resume outcome card⟩

/-! ### One outcome for each caller -/

def workingBuy : BrokerOrder :=
  { clientOrderId := "c1"
    environment := "PROD"
    accountNo := "1"
    symbol := "AAPL"
    side := .buy
    intent := .entry
    quantityRequested := 10
    limitPrice := 100
    status := .working
    filledQuantity := 5
    attemptDeadlineAt := some "deadline" }

/-- Every deadline has passed. -/
def pastDeadlines : EngineRuntime :=
  { deriveExecutionClientOrderId := fun _ _ _ _ => "", fromisoformat := fun _ => some 0 }

/-- Five shares of ten, the completion given up at the end of the day. -/
def givenUpCard : TradeCardState :=
  { environment := "PROD"
    accountNo := "1"
    symbol := "AAPL"
    boardStatus := .openPosition
    brokerQuantity := 5
    entryClientOrderId := "c1"
    entryCancelInFlight := true }

def noReplacements : ReplacementText := { read := fun _ => {}, withState := fun text _ _ => text }

def rejectedEntryAnswers : EntryAnswers :=
  { now := 1, refreshed := .ok (some workingBuy), cancel := .rejected, cancelCommandId := "k1" }

/-- A cancel that raises leaves a liquidation with a marker, a no-op leaves an exit with one, and a
refused cancel takes a completion that is tracked by its marker out of every pass. -/
theorem cancel_markers_not_backed :
    ¬ LiquidationCancelBacked (liquidationAnswers 0 workingBuy) .raised
        { givenUpCard with boardStatus := .sellAll, entryCancelInFlight := false } ∧
      ¬ ExitCancelBacked pastDeadlines (liquidationAnswers 1 workingBuy) workingBuy false .noOp
        { givenUpCard with boardStatus := .sellAll } ∧
      ¬ EntryCancelBacked pastDeadlines noReplacements rejectedEntryAnswers .notWired .rejected
        givenUpCard := by
  refine ⟨?_, ?_, ?_⟩
  · intro hBacked
    exact ((liquidationCancelHandled_iff .raised rfl).mp (hBacked rfl)).2.1 rfl
  · intro hBacked
    exact (exitCancelHandled_iff .noOp (by decide)).mp (hBacked (by decide)) rfl
  · intro hBacked
    have hMeets := (entryCancelBacked_iff _ _ _ _ _ _).mp hBacked (by decide) workingBuy
      (givenUpCard, workingBuy) rfl (by decide)
    rcases hMeets.2 (.inl rfl) with (hPending | ⟨-, hTarget⟩) | ⟨hBoard, -⟩
    · cases hPending
    · exact absurd hTarget (by decide)
    · cases hBoard

end QuantApp.Services
