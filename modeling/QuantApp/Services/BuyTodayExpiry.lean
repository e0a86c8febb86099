import QuantApp.Services.CardRestart
import QuantApp.Services.EodTradingService

/-!
# Entries at the end of the day

`run_eod_cleanup` and `expire_buy_today_cards` of `src/services/eod_trading_service.py` on a card
of any column, with the reset of a Buy Today card for which the lookup finds no order.  A pending
entry gives up the identity of its order only once that order has ended; the two branches that
find no order give it up whatever the card says of a submission.
-/

namespace QuantApp.Services

open Core

/-- What the two passes read besides the cards: the session they run in, the exchange calendar,
and the `:,.2f` text of a price. -/
structure EodSession where
  today : CalendarDate
  marketClosed : Bool
  sessionOf : Instant → CalendarDate
  isTradingDay : CalendarDate → Bool
  nextTradingDay : CalendarDate → CalendarDate
  priceText : ℚ → String

namespace EodSession

variable (session : EodSession)

/-- `card.session_date`, or the session the card was activated in. -/
def scheduled (card : TradeCardState) : CalendarDate :=
  card.sessionDate.getD (session.sessionOf card.boardStatusUpdatedAt)

/-- The session of the card is not a later one. -/
def due (card : TradeCardState) : Bool := session.scheduled card ≤ session.today

/-- `card.entry_trigger or card.breakout_price`, if it is a price. -/
def triggerOf (card : BreakoutCard) : Option ℚ :=
  ((card.entryTrigger.filter (· ≠ 0)).or card.breakoutPrice).filter (· ≠ 0)

/-- The note that explains the outcome of the session. -/
def finalNote (card : BreakoutCard) : String :=
  let reason := strip card.entryBlockReason
  let orElse (default : String) := if reason ≠ "" then reason else default
  match card.entryRuntimeStatus with
  | some .waitingBreakout =>
    match triggerOf card with
    | some trigger =>
      "Session ended before price cleared the entry trigger $" ++ session.priceText trigger ++ "."
    | none => "Session ended before the breakout trigger was reached."
  | some .orbForming => "Session ended before a valid ORB plan completed."
  | some .riskInvalid => orElse "Entry rejected because the risk plan was invalid."
  | some .dataUnavailable => orElse "Entry was blocked by a market-data or system issue."
  | some .waitingForCapital => orElse "Entry was blocked because capital was unavailable."
  | some .retryCooldown => orElse "Session ended while the entry was waiting to retry."
  | _ => orElse "Session ended without an entry."

/-- The card back on the buylist, without plan, identity and reservation. -/
def resetBuyToday (card : BreakoutCard) : BreakoutCard :=
  let noted :=
    { card with
      buyTodayNote := session.finalNote card
      lastBuyTodaySessionDate := some (session.scheduled card.toTradeCardState) }
  noted.withState
    { clearOrbGenerationMetadata noted.toTradeCardState with
      boardStatus := .buylist
      sessionDate := none
      entryRuntimeStatus := none
      buylistMember := true
      entryBlockReason := ""
      entryOrbHigh := none
      entryOrbLow := none
      entryOrbWindow := none
      entryTrigger := none
      entryAttemptGroupId := ""
      entryAttemptCount := 0
      entryClientOrderId := ""
      entryPendingAttemptNumber := 0
      entrySubmissionUnresolved := false
      entryCancelInFlight := false
      entryCancelReason := ""
      entryCancelCommandId := ""
      capitalReservationId := "" }

/-- The durable order takes the card to Entry Pending. -/
def trackFoundOrder (card : BreakoutCard) (order : BrokerOrder) : BreakoutCard :=
  card.withState
    { card.toTradeCardState with
      boardStatus := .entryPending
      entryRuntimeStatus := some .orderPending
      entryAttemptGroupId :=
        if order.attemptGroupId ≠ "" then order.attemptGroupId else card.entryAttemptGroupId
      entryAttemptCount :=
        if order.attemptNumber ≠ 0 then order.attemptNumber else card.entryAttemptCount }

/-- `_reset_buy_today_with_no_order`: the card, and the reservation that is released. -/
def resetBuyTodayWithNoOrder (card : BreakoutCard) (answers : EodAnswers)
    (allowNoOrderReset : Bool) : BreakoutCard × Option String :=
  match answers.openEntryOrder with
  | some order => (trackFoundOrder card order, none)
  | none =>
    if allowNoOrderReset then
      (session.resetBuyToday card,
        if card.capitalReservationId ≠ "" then some card.capitalReservationId else none)
    else (card, none)

/-- `run_eod_cleanup`, on one card. -/
def cleanup (card : BreakoutCard) (answers : EodAnswers) : BreakoutCard :=
  if card.boardStatus = .buyToday then
    (session.resetBuyTodayWithNoOrder card answers
      (session.marketClosed && session.due card.toTradeCardState)).1
  else card.withState (runEodCleanup card.toTradeCardState answers)

/-! ## Expiry -/

/-- A card marked complete for a session that is still to come forms its range again. -/
def rearmed (card : BreakoutCard) : BreakoutCard :=
  if card.entryRuntimeStatus = some .sessionComplete then
    card.withState
      { card.toTradeCardState with
        entryRuntimeStatus := some .orbForming
        entryBlockReason := "" }
  else card

/-- A session on a day without trading moves to the next trading day. -/
def retargeted (card : BreakoutCard) : BreakoutCard :=
  match card.sessionDate with
  | none => card
  | some date =>
    if session.isTradingDay date then card
    else
      rearmed (card.withState
        { card.toTradeCardState with sessionDate := some (session.nextTradingDay date) })

/-- The repairs of cards older builds have activated. -/
def repaired (card : BreakoutCard) : BreakoutCard :=
  let card := session.retargeted card
  if session.due card.toTradeCardState = false ∧ card.sessionDate ≠ none then rearmed card
  else card

/-- The session of the card is over. -/
def expires (card : TradeCardState) : Bool :=
  (session.marketClosed && session.due card) || session.scheduled card < session.today ||
    card.entryRuntimeStatus = some .sessionComplete

/-- `expire_buy_today_cards`, on one card. -/
def expire (card : BreakoutCard) (answers : EodAnswers) : BreakoutCard :=
  if card.boardStatus ≠ .buyToday then card
  else
    let card := session.repaired card
    if session.expires card.toTradeCardState then
      (session.resetBuyTodayWithNoOrder card answers true).1
    else card

end EodSession

/-! ## What is given up -/

/-- The card names an entry order, or a submission whose outcome is not known. -/
def CarriesEntry (card : TradeCardState) : Prop :=
  card.entryClientOrderId ≠ "" ∨ card.entrySubmissionUnresolved = true

/-- Neither the identity of the entry order nor its group nor the reservation is cleared. -/
structure KeepsEntry (before after : TradeCardState) : Prop where
  clientOrderId : after.entryClientOrderId = "" → before.entryClientOrderId = ""
  attemptGroupId : after.entryAttemptGroupId = "" → before.entryAttemptGroupId = ""
  capitalReservationId : after.capitalReservationId = "" → before.capitalReservationId = ""

/-- The order was found and has ended: its refreshed status says so, or the answer to its cancel
does. -/
def TerminalObserved (answers : EodAnswers) : Prop :=
  ∃ order, answers.openEntryOrder = some order ∧
    (endedAtBroker order.status = true ∨
      ∃ status, answers.cancel = .answered status true ∧ endedAtBroker status = true)

/-- No possibly live entry is dropped. -/
def DropsNoLiveEntry (before after : TradeCardState) (answers : EodAnswers) : Prop :=
  KeepsEntry before after ∨ TerminalObserved answers ∨ ¬ CarriesEntry before

theorem KeepsEntry.refl (card : TradeCardState) : KeepsEntry card card := ⟨id, id, id⟩

theorem KeepsEntry.of_eq {before after : TradeCardState}
    (hId : after.entryClientOrderId = before.entryClientOrderId)
    (hGroup : after.entryAttemptGroupId = before.entryAttemptGroupId)
    (hReservation : after.capitalReservationId = before.capitalReservationId) :
    KeepsEntry before after := by
  constructor
  · rw [hId]
    exact id
  · rw [hGroup]
    exact id
  · rw [hReservation]
    exact id

theorem KeepsEntry.trans {first second third : TradeCardState} (h : KeepsEntry first second)
    (h' : KeepsEntry second third) : KeepsEntry first third :=
  ⟨h.clientOrderId ∘ h'.clientOrderId, h.attemptGroupId ∘ h'.attemptGroupId,
    h.capitalReservationId ∘ h'.capitalReservationId⟩

open KeepsEntry (of_eq refl)

/-- A cancel clears an identity only where its answer says the order has ended. -/
theorem keepsEntry_requestCancel (card : TradeCardState) (minted : String) (answer : CancelAnswer) :
    KeepsEntry card (requestCancelWithLifecycle card .entry minted answer).1 ∨
      ∃ status, answer = .answered status true ∧ endedAtBroker status = true := by
  have hStamped : KeepsEntry card (stampCancelCommand card .entry minted) := by
    unfold stampCancelCommand
    dsimp only
    split
    · exact of_eq rfl rfl rfl
    · exact refl card
  cases answer with
  | ambiguous | rejected => exact .inl (hStamped.trans (of_eq rfl rfl rfl))
  | raised => exact .inl hStamped
  | answered status protective =>
    by_cases hEnded : protective = true ∧ endedAtBroker status = true
    · obtain ⟨rfl, hStatus⟩ := hEnded
      exact .inr ⟨status, rfl, hStatus⟩
    · have hAfter : (requestCancelWithLifecycle card .entry minted
          (.answered status protective)).1 = stampCancelCommand card .entry minted := by
        unfold requestCancelWithLifecycle
        dsimp only
        rw [if_neg hEnded]
      rw [hAfter]
      exact .inl hStamped

theorem ended_of_terminal {order : BrokerOrder}
    (h : (resolveEntryOrder order true true).isTerminal = true) :
    endedAtBroker order.status = true := by
  unfold resolveEntryOrder at h
  split at h
  · cases h
  · unfold decideAttemptDeadlineAction at h
    unfold endedAtBroker
    cases hStatus : order.status <;> simp_all [AttemptDeadlineAction.isTerminal]

theorem resolveEntryPendingAtEod_keeps (card : TradeCardState) (answers : EodAnswers) :
    KeepsEntry card (resolveEntryPendingAtEod card answers) ∨ TerminalObserved answers := by
  unfold resolveEntryPendingAtEod
  cases hOrder : answers.openEntryOrder with
  | none => exact .inl (of_eq rfl rfl rfl)
  | some order =>
    dsimp only
    split
    · exact .inl (of_eq rfl rfl rfl)
    · by_cases hTerminal : (resolveEntryOrder order true true).isTerminal = true
      · exact .inr ⟨order, hOrder, .inl (ended_of_terminal hTerminal)⟩
      · generalize hReasoned : (if card.entryCancelInFlight = true then card
          else { card with entryCancelReason := "EOD" }) = reasoned
        have hKept : KeepsEntry card reasoned := by
          rw [← hReasoned]
          split
          · exact refl card
          · exact of_eq rfl rfl rfl
        generalize hCancelled : (if asksCancel order true true = true then
          requestCancelWithLifecycle reasoned .entry answers.mintedCommandId answers.cancel
          else (reasoned, false)) = cancelled
        have hAsked : KeepsEntry reasoned cancelled.1 ∨ TerminalObserved answers := by
          rw [← hCancelled]
          split
          · rcases keepsEntry_requestCancel reasoned answers.mintedCommandId answers.cancel with
              hKeeps | hEnded
            · exact .inl hKeeps
            · exact .inr ⟨order, hOrder, .inr hEnded⟩
          · exact .inl (refl reasoned)
        rcases hAsked with hKeeps | hEnded
        · refine .inl (hKept.trans (hKeeps.trans ?_))
          rw [if_neg hTerminal]
          split
          · exact refl _
          · split
            all_goals exact of_eq rfl rfl rfl
        · exact .inr hEnded

/-- The completion of a target is given up with its identity where no order is found. -/
theorem stopIncompleteTargetCompletion_keeps (card : TradeCardState) (answers : EodAnswers) :
    (KeepsEntry card (stopIncompleteTargetCompletion card answers) ∨ TerminalObserved answers) ↔
      ¬ (answers.openEntryOrder = none ∧ 0 < card.entryRemainingTargetQuantity ∧
        (card.entryClientOrderId ≠ "" ∨ card.entryAttemptGroupId ≠ "")) := by
  unfold stopIncompleteTargetCompletion
  split
  next hDone =>
    exact ⟨fun _ hBad => absurd hBad.2.1 (by omega), fun _ => .inl (refl card)⟩
  next hRemaining =>
    cases hOrder : answers.openEntryOrder with
    | some order =>
      refine ⟨fun _ hBad => absurd hBad.1 (by simp), fun _ => ?_⟩
      dsimp only
      generalize hCancelled : requestCancelWithLifecycle card .entry answers.mintedCommandId
        answers.cancel = cancelled
      have hAsked := keepsEntry_requestCancel card answers.mintedCommandId answers.cancel
      rw [hCancelled] at hAsked
      rcases hAsked with hKeeps | hEnded
      · refine .inl (hKeeps.trans ?_)
        split
        · exact refl _
        · split
          all_goals exact of_eq rfl rfl rfl
      · exact .inr ⟨order, hOrder, .inr hEnded⟩
    | none =>
      constructor
      · rintro (hKeeps | ⟨order, hFound, _⟩) ⟨-, -, hId | hGroup⟩
        · exact hId (hKeeps.clientOrderId rfl)
        · exact hGroup (hKeeps.attemptGroupId rfl)
        all_goals
          rw [hOrder] at hFound
          cases hFound
      · intro hGood
        refine .inl ⟨fun _ => ?_, fun _ => ?_, id⟩
        · by_contra hId
          exact hGood ⟨rfl, by omega, .inl hId⟩
        · by_contra hGroup
          exact hGood ⟨rfl, by omega, .inr hGroup⟩

/-- There is something of an entry to clear. -/
def HasEntry (card : TradeCardState) : Prop :=
  card.entryClientOrderId ≠ "" ∨ card.entryAttemptGroupId ≠ "" ∨ card.capitalReservationId ≠ ""

theorem trackFoundOrder_keeps (card : BreakoutCard) (order : BrokerOrder) :
    KeepsEntry card.toTradeCardState (EodSession.trackFoundOrder card order).toTradeCardState := by
  refine ⟨id, ?_, id⟩
  intro hGroup
  by_cases hFound : order.attemptGroupId ≠ ""
  · exact absurd ((if_pos hFound).symm.trans hGroup) hFound
  · exact (if_neg hFound).symm.trans hGroup

/-- A Buy Today card that carries an entry loses it just when no order is found and the reset is
allowed. -/
theorem resetBuyTodayWithNoOrder_keeps_iff (session : EodSession) (card : BreakoutCard)
    (answers : EodAnswers) (allow : Bool) :
    DropsNoLiveEntry card.toTradeCardState
        (session.resetBuyTodayWithNoOrder card answers allow).1.toTradeCardState answers ↔
      ¬ (answers.openEntryOrder = none ∧ allow = true ∧ CarriesEntry card.toTradeCardState ∧
        HasEntry card.toTradeCardState) := by
  unfold EodSession.resetBuyTodayWithNoOrder
  cases hOrder : answers.openEntryOrder with
  | some order =>
    exact ⟨fun _ hBad => absurd hBad.1 (by simp), fun _ => .inl (trackFoundOrder_keeps card order)⟩
  | none =>
    cases allow with
    | false =>
      exact ⟨fun _ hBad => absurd hBad.2.1 Bool.false_ne_true, fun _ => .inl (refl _)⟩
    | true =>
      constructor
      · rintro (hKeeps | ⟨order, hFound, _⟩ | hNone) ⟨-, -, hCarries, hId | hGroup | hReserved⟩
        · exact hId (hKeeps.clientOrderId rfl)
        · exact hGroup (hKeeps.attemptGroupId rfl)
        · exact hReserved (hKeeps.capitalReservationId rfl)
        · rw [hOrder] at hFound
          cases hFound
        · rw [hOrder] at hFound
          cases hFound
        · rw [hOrder] at hFound
          cases hFound
        all_goals exact hNone hCarries
      · intro hGood
        by_cases hCarries : CarriesEntry card.toTradeCardState
        · refine .inl ⟨fun _ => ?_, fun _ => ?_, fun _ => ?_⟩
          · by_contra hId
            exact hGood ⟨rfl, rfl, hCarries, .inl hId⟩
          · by_contra hGroup
            exact hGood ⟨rfl, rfl, hCarries, .inr (.inl hGroup)⟩
          · by_contra hReserved
            exact hGood ⟨rfl, rfl, hCarries, .inr (.inr hReserved)⟩
        · exact .inr (.inr hCarries)

/-- What names the entry of a card. -/
def entryFields (card : TradeCardState) : String × String × String × Bool :=
  (card.entryClientOrderId, card.entryAttemptGroupId, card.capitalReservationId,
    card.entrySubmissionUnresolved)

theorem rearmed_entry (card : BreakoutCard) :
    entryFields (EodSession.rearmed card).toTradeCardState = entryFields card.toTradeCardState := by
  unfold EodSession.rearmed
  split
  all_goals rfl

section

variable (session : EodSession) (card : BreakoutCard)
include session card

theorem repaired_entry :
    entryFields (session.repaired card).toTradeCardState = entryFields card.toTradeCardState := by
  have hRetargeted : entryFields (session.retargeted card).toTradeCardState =
      entryFields card.toTradeCardState := by
    unfold EodSession.retargeted
    split
    · rfl
    · split
      · rfl
      · exact rearmed_entry _
  unfold EodSession.repaired
  dsimp only
  split
  · exact (rearmed_entry (session.retargeted card)).trans hRetargeted
  · exact hRetargeted

/-! ## The two passes -/

/-- The pass gives up an entry without having found its order. -/
def CleanupDrops (session : EodSession) (card : BreakoutCard) (answers : EodAnswers) : Prop :=
  answers.openEntryOrder = none ∧ CarriesEntry card.toTradeCardState ∧
    ((card.boardStatus = .buyToday ∧ session.marketClosed = true ∧
        session.due card.toTradeCardState = true ∧ HasEntry card.toTradeCardState) ∨
      (card.boardStatus = .openPosition ∧ 0 < card.entryRemainingTargetQuantity ∧
        (card.entryClientOrderId ≠ "" ∨ card.entryAttemptGroupId ≠ "")))

def ExpiryDrops (session : EodSession) (card : BreakoutCard) (answers : EodAnswers) : Prop :=
  answers.openEntryOrder = none ∧ CarriesEntry card.toTradeCardState ∧
    card.boardStatus = .buyToday ∧
    session.expires (session.repaired card).toTradeCardState = true ∧
    HasEntry card.toTradeCardState

theorem cleanup_drops_iff (answers : EodAnswers) :
    DropsNoLiveEntry card.toTradeCardState (session.cleanup card answers).toTradeCardState
        answers ↔ ¬ CleanupDrops session card answers := by
  unfold EodSession.cleanup CleanupDrops
  by_cases hBuyToday : card.boardStatus = .buyToday
  · rw [if_pos hBuyToday, resetBuyTodayWithNoOrder_keeps_iff, Bool.and_eq_true]
    refine not_congr ⟨?_, ?_⟩
    · rintro ⟨hNone, ⟨hClosed, hDue⟩, hCarries, hHas⟩
      exact ⟨hNone, hCarries, .inl ⟨hBuyToday, hClosed, hDue, hHas⟩⟩
    · rintro ⟨hNone, hCarries, ⟨-, hClosed, hDue, hHas⟩ | ⟨hOpen, -⟩⟩
      · exact ⟨hNone, ⟨hClosed, hDue⟩, hCarries, hHas⟩
      · rw [hBuyToday] at hOpen
        cases hOpen
  · rw [if_neg hBuyToday, BreakoutCard.withState_toTradeCardState]
    unfold runEodCleanup DropsNoLiveEntry
    by_cases hPending : card.boardStatus = .entryPending
    · rw [if_pos hPending, hPending]
      refine ⟨?_, fun _ => ?_⟩
      · rintro - ⟨-, -, hBad | hBad⟩
        all_goals cases hBad.1
      · rcases resolveEntryPendingAtEod_keeps card.toTradeCardState answers with hKeeps | hEnded
        · exact .inl hKeeps
        · exact .inr (.inl hEnded)
    · rw [if_neg hPending]
      by_cases hOpen : card.boardStatus = .openPosition
      · rw [if_pos hOpen]
        have hKeeps := stopIncompleteTargetCompletion_keeps card.toTradeCardState answers
        constructor
        · rintro hDrops ⟨hNone, hCarries, hBad | ⟨-, hRemaining, hHas⟩⟩
          · exact hBuyToday hBad.1
          · rcases hDrops with hKept | hEnded | hNoEntry
            · exact hKeeps.mp (.inl hKept) ⟨hNone, hRemaining, hHas⟩
            · exact hKeeps.mp (.inr hEnded) ⟨hNone, hRemaining, hHas⟩
            · exact hNoEntry hCarries
        · intro hGood
          by_cases hCarries : CarriesEntry card.toTradeCardState
          · have hKept := hKeeps.mpr (fun hBad =>
              hGood ⟨hBad.1, hCarries, .inr ⟨hOpen, hBad.2⟩⟩)
            rcases hKept with hKept | hEnded
            · exact .inl hKept
            · exact .inr (.inl hEnded)
          · exact .inr (.inr hCarries)
      · rw [if_neg hOpen]
        refine ⟨?_, fun _ => .inl (refl _)⟩
        rintro - ⟨-, -, hBad | hBad⟩
        · exact hBuyToday hBad.1
        · exact hOpen hBad.1

theorem expire_drops_iff (answers : EodAnswers) :
    DropsNoLiveEntry card.toTradeCardState (session.expire card answers).toTradeCardState
        answers ↔ ¬ ExpiryDrops session card answers := by
  have hFields := repaired_entry session card
  simp only [entryFields, Prod.mk.injEq] at hFields
  obtain ⟨hId, hGroup, hReservation, hUnresolved⟩ := hFields
  unfold EodSession.expire ExpiryDrops
  by_cases hBuyToday : card.boardStatus = .buyToday
  · rw [if_neg (not_not.mpr hBuyToday)]
    dsimp only
    by_cases hExpires : session.expires (session.repaired card).toTradeCardState = true
    · have hReset := resetBuyTodayWithNoOrder_keeps_iff session (session.repaired card) answers true
      have hSame : ∀ after, KeepsEntry (session.repaired card).toTradeCardState after ↔
          KeepsEntry card.toTradeCardState after := by
        intro after
        constructor
        · exact (of_eq hId hGroup hReservation).trans
        · exact (of_eq hId.symm hGroup.symm hReservation.symm).trans
      unfold DropsNoLiveEntry CarriesEntry HasEntry at hReset ⊢
      rw [hSame, hId, hGroup, hReservation, hUnresolved] at hReset
      rw [if_pos hExpires, hReset]
      refine not_congr ⟨?_, ?_⟩
      · rintro ⟨hNone, -, hCarries, hHas⟩
        exact ⟨hNone, hCarries, hBuyToday, hExpires, hHas⟩
      · rintro ⟨hNone, hCarries, -, -, hHas⟩
        exact ⟨hNone, rfl, hCarries, hHas⟩
    · rw [if_neg hExpires]
      refine ⟨fun _ hBad => hExpires hBad.2.2.2.1, fun _ => .inl ?_⟩
      exact of_eq hId hGroup hReservation
  · rw [if_pos hBuyToday]
    exact ⟨fun _ hBad => hBuyToday hBad.2.2.1, fun _ => .inl (refl _)⟩

end

/-- The two passes clear the identity, the group or the reservation of an entry only when its end
has been observed or the card names no entry, if and only if they do not give up an entry whose
order they have not found. -/
theorem eod_drops_no_live_entry_iff (session : EodSession) (card : BreakoutCard)
    (answers : EodAnswers) :
    (DropsNoLiveEntry card.toTradeCardState (session.cleanup card answers).toTradeCardState
        answers ∧
      DropsNoLiveEntry card.toTradeCardState (session.expire card answers).toTradeCardState
        answers) ↔
      ¬ CleanupDrops session card answers ∧ ¬ ExpiryDrops session card answers :=
  and_congr (cleanup_drops_iff session card answers) (expire_drops_iff session card answers)

/-! ### A submission that is not resolved -/

def closedSession : EodSession :=
  { today := 0
    marketClosed := true
    sessionOf := fun _ => 0
    isTradingDay := fun _ => true
    nextTradingDay := fun date => date
    priceText := fun _ => "" }

/-- The submission of the order was not answered, and its capital is reserved. -/
def unresolvedBuyToday : BreakoutCard :=
  { environment := "PROD"
    accountNo := "1"
    symbol := "AAPL"
    boardStatus := .buyToday
    sessionDate := some 0
    entryRuntimeStatus := some .dataUnavailable
    entryAttemptGroupId := "g1"
    entryAttemptCount := 1
    entryClientOrderId := "c1"
    entrySubmissionUnresolved := true
    capitalReservationId := "r1" }

def noOrderFound : EodAnswers :=
  { openEntryOrder := none, cancel := .raised, mintedCommandId := "" }

theorem unresolved_entry_dropped :
    ¬ DropsNoLiveEntry unresolvedBuyToday.toTradeCardState
        (closedSession.cleanup unresolvedBuyToday noOrderFound).toTradeCardState noOrderFound ∧
      ¬ DropsNoLiveEntry unresolvedBuyToday.toTradeCardState
        (closedSession.expire unresolvedBuyToday noOrderFound).toTradeCardState noOrderFound := by
  constructor
  all_goals
    rintro (hKeeps | ⟨order, hFound, _⟩ | hNone)
    · exact absurd (hKeeps.clientOrderId rfl) (by decide)
    · cases hFound
    · exact hNone (.inr rfl)

end QuantApp.Services
