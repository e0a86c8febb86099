import QuantApp.Services.FeedRuntime
import QuantApp.Verified.ExceptFold

/-!
# The failures a symbol shows

The health of a symbol and its last error are summaries of its two channels.  The health is
recomputed or set with that of a channel, and always agrees with the channels.  The last error
is also emptied in places: by an acknowledgement that finds no error on either channel, by a
configuration that takes the last error for one it has just resolved, by a new session and by
`clear_symbol_error`.  These are the steps after which a channel's error may go unseen.
-/

namespace QuantApp.Services

open Core Verified

variable {state : SymbolFeedState} {rules : EventRules} {channel : FeedChannel}
  {change : ChannelFeedState → ChannelFeedState} {name : String} {now : Instant}
  {sub : KisWsSubscription} {health : ClockHealth} {connected : Bool} {generation : Int}

/-- The summary agrees with the channels: the symbol is healthy when both are, and its last
error is not empty while a channel has an error. -/
structure SymbolFeedState.Shown (state : SymbolFeedState) : Prop where
  clock : state.clockHealth = .healthy ↔ ∀ channel, (state.channel channel).clockHealth = .healthy
  error : ∀ channel, (state.channel channel).error ≠ "" ∨
    (state.channel channel).configurationError ≠ "" → state.lastError ≠ ""

def FeedStates.Shown (states : FeedStates) : Prop := ∀ symbol, (states.stateOf symbol).Shown

/-! ## What leaves the errors alone -/

/-- The fields of a channel that a symbol summarizes. -/
def ChannelFeedState.errors (feed : ChannelFeedState) : String × String × ClockHealth :=
  (feed.error, feed.configurationError, feed.clockHealth)

/-- The fields of a symbol that `Shown` speaks of. -/
structure SameErrors (state after : SymbolFeedState) : Prop where
  channel : ∀ channel, (after.channel channel).errors = (state.channel channel).errors
  lastError : after.lastError = state.lastError
  clockHealth : after.clockHealth = state.clockHealth

namespace SameErrors

variable {state middle after : SymbolFeedState}

theorem refl (state : SymbolFeedState) : SameErrors state state := ⟨fun _ => rfl, rfl, rfl⟩

theorem trans (h : SameErrors state middle) (h' : SameErrors middle after) :
    SameErrors state after :=
  ⟨fun channel => (h'.channel channel).trans (h.channel channel), h'.lastError.trans h.lastError,
    h'.clockHealth.trans h.clockHealth⟩

theorem symm (h : SameErrors state after) : SameErrors after state :=
  ⟨fun channel => (h.channel channel).symm, h.lastError.symm, h.clockHealth.symm⟩

theorem shown (h : SameErrors state after) (hShown : state.Shown) : after.Shown := by
  constructor
  · rw [h.clockHealth, hShown.clock]
    refine forall_congr' fun channel => ?_
    have hChannel := congrArg (fun errors => errors.2.2) (h.channel channel)
    exact (congrArg (· = ClockHealth.healthy) hChannel).symm.to_iff
  · intro channel hError
    have hText := congrArg Prod.fst (h.channel channel)
    have hConfiguration := congrArg (fun errors => errors.2.1) (h.channel channel)
    change (after.channel channel).error = (state.channel channel).error at hText
    change (after.channel channel).configurationError =
      (state.channel channel).configurationError at hConfiguration
    rw [h.lastError]
    rw [hText, hConfiguration] at hError
    exact hShown.error channel hError

theorem update (state : SymbolFeedState) (channel : FeedChannel)
    (h : ∀ feed, (change feed).errors = feed.errors) :
    SameErrors state (state.update channel change) := by
  constructor
  · intro other
    by_cases hChannel : other = channel
    · rw [hChannel, SymbolFeedState.channel_update_self, h]
    · rw [SymbolFeedState.channel_update_of_ne _ _ hChannel]
  all_goals
    cases channel
    · rfl
    · rfl

end SameErrors

namespace FeedStates

variable {states middle after : FeedStates} {symbol : String}

theorem stateOf_set :
    stateOf (states.set name state) symbol =
      if symbol = name then state else states.stateOf symbol := by
  unfold stateOf
  rw [Dictionary.get?_set]
  split
  · rfl
  · rfl

theorem stateOf_setDefault :
    stateOf (states.setDefault name { symbol := name }) symbol = states.stateOf symbol := by
  unfold stateOf
  rw [Dictionary.get?_setDefault]
  split
  next h =>
    obtain ⟨rfl, hNone⟩ := h
    rw [Dictionary.get?_eq_none.mpr hNone]
    rfl
  · rfl

/-- The states of all symbols, changed by a function of the symbol. -/
theorem stateOf_mapValues {change : String → SymbolFeedState → SymbolFeedState} :
    stateOf (states.mapValues change) symbol = change symbol (states.stateOf symbol) ∨
      stateOf (states.mapValues change) symbol = { symbol := symbol } ∧
        states.stateOf symbol = { symbol := symbol } := by
  unfold stateOf
  rw [Dictionary.get?_mapValues]
  cases states.get? symbol with
  | none => exact .inr ⟨rfl, rfl⟩
  | some => exact .inl rfl

/-- No symbol's errors differ. -/
def Same (states after : FeedStates) : Prop :=
  ∀ symbol, SameErrors (states.stateOf symbol) (after.stateOf symbol)

theorem Same.refl (states : FeedStates) : Same states states := fun _ => SameErrors.refl _

theorem Same.trans (h : Same states middle) (h' : Same middle after) : Same states after :=
  fun symbol => (h symbol).trans (h' symbol)

theorem Same.shown_iff (h : Same states after) : after.Shown ↔ states.Shown :=
  ⟨fun hShown symbol => (h symbol).symm.shown (hShown symbol),
    fun hShown symbol => (h symbol).shown (hShown symbol)⟩

theorem same_updateChannel (sub : KisWsSubscription)
    (h : ∀ feed, (change feed).errors = feed.errors) :
    Same states (states.updateChannel sub change) := by
  unfold updateChannel
  split
  · exact Same.refl states
  · intro symbol
    dsimp only
    rw [stateOf_set]
    split
    next hSymbol =>
      rw [hSymbol]
      cases sub.feeds with
      | none => exact SameErrors.refl _
      | some channel => exact SameErrors.update _ channel h
    · exact SameErrors.refl _

theorem same_mapValues {change : String → SymbolFeedState → SymbolFeedState}
    (h : ∀ symbol state, SameErrors state (change symbol state)) :
    Same states (states.mapValues change) := by
  intro symbol
  rcases @stateOf_mapValues states symbol change with hChanged | ⟨hAfter, hBefore⟩
  · rw [hChanged]
    exact h symbol _
  · rw [hAfter, hBefore]
    exact SameErrors.refl _

end FeedStates

namespace FeedService

open FeedStates

variable {service : FeedService} {now : Instant}

theorem same_retire (row : SubscriptionKey × KisWsSubscription) :
    Same service.states (service.retire row).states := by
  have hCleared := @same_updateChannel
    (fun channel => { channel with acked := false, requestedAt := none })
    service.states row.2 (fun _ => rfl)
  unfold retire
  dsimp only
  split
  all_goals exact hCleared

theorem same_request (state : FeedService × Nat) (row : SubscriptionKey × KisWsSubscription) :
    Same state.1.states (request now state row).1.states := by
  obtain ⟨service, occupied⟩ := state
  unfold request
  dsimp only
  split
  · exact Same.refl _
  · split
    · exact Same.refl _
    · split
      · exact @same_updateChannel _ service.states row.2 (fun _ => rfl)
      · exact Same.refl _

theorem same_reconcile : Same service.states (service.reconcileSubscriptionTarget now).states := by
  have hRetired : Same service.states service.retireRemovals.states := by
    unfold retireRemovals
    dsimp only
    exact List.foldlRecOn (motive := fun after : FeedService => Same service.states after.states)
      _ _ (Same.refl _) (fun _ hSame row _ => hSame.trans (same_retire row))
  unfold reconcileSubscriptionTarget
  dsimp only
  exact List.foldlRecOn
    (motive := fun state : FeedService × Nat => Same service.states state.1.states)
    _ _ hRetired (fun state hSame row _ => hSame.trans (same_request state row))

theorem same_withCapacityRejection (channel : FeedChannel) (state : SymbolFeedState) :
    SameErrors state (service.withCapacityRejection channel state) := by
  unfold withCapacityRejection
  exact SameErrors.update state channel (fun _ => rfl)

theorem same_refresh : Same service.states service.refreshCapacityRejections.states :=
  same_mapValues fun _ state =>
    (same_withCapacityRejection .trade state).trans (same_withCapacityRejection .quote _)

end FeedService

/-! ## Events -/

theorem rejectionText_ne_empty (channel : FeedChannel) (health : ClockHealth) :
    EventIntake.rejectionText channel health ≠ "" := by
  cases channel <;> cases health <;> decide +kernel

theorem ackTimeoutText_ne_empty (channel : FeedChannel) : ackTimeoutText channel ≠ "" := by
  cases channel <;> decide +kernel

theorem rejection_ne_healthy {intake : EventIntake} {quote : QuoteSnapshot}
    (h : intake.rejection rules channel quote = some health) : health ≠ .healthy := by
  unfold EventIntake.rejection at h
  dsimp only at h
  repeat' split at h
  all_goals cases h
  all_goals decide

namespace SymbolFeedState

variable {state : SymbolFeedState}

theorem shown_of_channels
    (clock : state.clockHealth = .healthy ↔
      state.trade.clockHealth = .healthy ∧ state.quote.clockHealth = .healthy)
    (error : state.lastError = "" → (state.trade.error = "" ∧ state.trade.configurationError = "") ∧
      state.quote.error = "" ∧ state.quote.configurationError = "") : state.Shown := by
  constructor
  · rw [clock]
    constructor
    · rintro ⟨hTrade, hQuote⟩ channel
      cases channel
      · exact hTrade
      · exact hQuote
    · intro h
      exact ⟨h .trade, h .quote⟩
  · intro channel hError hLast
    obtain ⟨⟨hTrade, hTradeConfiguration⟩, hQuote, hQuoteConfiguration⟩ := error hLast
    cases channel
    · exact hError.elim (· hTrade) (· hTradeConfiguration)
    · exact hError.elim (· hQuote) (· hQuoteConfiguration)

theorem Shown.silent (h : state.Shown) (hLast : state.lastError = "") (channel : FeedChannel) :
    (state.channel channel).error = "" ∧ (state.channel channel).configurationError = "" := by
  by_contra hError
  rw [not_and_or] at hError
  exact h.error channel hError hLast

theorem Shown.clock_iff (h : state.Shown) : state.clockHealth = .healthy ↔
    state.trade.clockHealth = .healthy ∧ state.quote.clockHealth = .healthy :=
  h.clock.trans ⟨fun hBoth => ⟨hBoth .trade, hBoth .quote⟩, fun hBoth channel => by
    cases channel
    · exact hBoth.1
    · exact hBoth.2⟩

theorem shown_default (symbol : String) : ({ symbol := symbol } : SymbolFeedState).Shown :=
  shown_of_channels ⟨fun _ => ⟨rfl, rfl⟩, fun _ => rfl⟩
    (fun _ => ⟨⟨rfl, rfl⟩, rfl, rfl⟩)

theorem summaryHealth_eq_healthy {trade quote : ClockHealth} :
    summaryHealth trade quote = .healthy ↔ trade = .healthy ∧ quote = .healthy := by
  unfold summaryHealth
  split
  next h => simp [h]
  next h => simp [not_not.mp h]

theorem firstText_eq_empty {texts : List String} :
    firstText texts = "" ↔ ∀ text ∈ texts, text = "" := by
  unfold firstText
  constructor
  · intro h
    cases hFound : texts.find? (· ≠ "") with
    | none =>
      intro text hText
      simpa using List.find?_eq_none.mp hFound text hText
    | some =>
      rw [hFound] at h
      have hText := List.find?_some hFound
      simp only [Option.getD_some] at h
      simp [h] at hText
  · intro h
    have hNone : texts.find? (· ≠ "") = none := List.find?_eq_none.mpr (by simpa using h)
    rw [hNone]
    rfl

theorem shown_recordValidChannelEvent (channel : FeedChannel) :
    (state.recordValidChannelEvent channel).Shown := by
  unfold recordValidChannelEvent
  refine shown_of_channels summaryHealth_eq_healthy ?_
  intro hLast
  have hAll := firstText_eq_empty.mp hLast
  simp only [List.mem_cons, List.not_mem_nil, or_false, forall_eq_or_imp, forall_eq] at hAll
  exact ⟨⟨hAll.2.2.2, hAll.2.1⟩, hAll.2.2.1, hAll.1⟩

theorem shown_expireAckTimeout (h : state.Shown) :
    (state.expireAckTimeout rules now channel).Shown := by
  unfold expireAckTimeout
  dsimp only
  split
  · cases channel
    all_goals
      exact shown_of_channels h.clock_iff (fun hLast => absurd hLast (ackTimeoutText_ne_empty _))
  · exact h

theorem shown_rejected (hHealth : health ≠ .healthy) :
    SymbolFeedState.Shown
      { state.update channel (fun feed =>
          { feed with
            clockHealth := health
            error := EventIntake.rejectionText channel health }) with
        clockHealth := health
        lastError := EventIntake.rejectionText channel health } := by
  cases channel
  all_goals
    exact shown_of_channels (by simp [update, hHealth])
      (fun hLast => absurd hLast (rejectionText_ne_empty _ _))

end SymbolFeedState

namespace FeedStates

variable {states : FeedStates}

theorem shown_set_iff (h : states.Shown) : Shown (states.set name state) ↔ state.Shown := by
  constructor
  · intro hShown
    have hName := hShown name
    rwa [stateOf_set, if_pos rfl] at hName
  · intro hState symbol
    rw [stateOf_set]
    split
    · exact hState
    · exact h symbol

theorem shown_expireAckTimeouts (h : states.Shown) :
    (states.expireAckTimeouts rules now).Shown := by
  intro symbol
  rcases @stateOf_mapValues states symbol (fun _ state =>
    (state.expireAckTimeout rules now .trade).expireAckTimeout rules now .quote) with
    hChanged | ⟨hAfter, _⟩
  · unfold expireAckTimeouts
    rw [hChanged]
    exact SymbolFeedState.shown_expireAckTimeout (SymbolFeedState.shown_expireAckTimeout (h symbol))
  · unfold expireAckTimeouts
    rw [hAfter]
    exact SymbolFeedState.shown_default symbol

end FeedStates

theorem FeedRuntime.shown_ingest {runtime : FeedRuntime} (channel : FeedChannel)
    (quote : QuoteSnapshot) (h : runtime.service.states.Shown) :
    (runtime.ingest rules channel quote).service.states.Shown := by
  unfold FeedRuntime.ingest
  dsimp only
  cases hVerdict : (runtime.intake.acceptEvent rules channel quote).1 with
  | accepted =>
    exact (FeedStates.shown_set_iff h).mpr (SymbolFeedState.shown_recordValidChannelEvent channel)
  | rejected health =>
    have hHealth : health ≠ .healthy := by
      unfold EventIntake.acceptEvent at hVerdict
      split at hVerdict
      · cases hVerdict
      · cases hCheck : runtime.intake.rejection rules channel quote with
        | some =>
          rw [hCheck] at hVerdict
          cases hVerdict
          exact rejection_ne_healthy hCheck
        | none =>
          rw [hCheck] at hVerdict
          dsimp only at hVerdict
          split at hVerdict
          all_goals cases hVerdict
    exact (FeedStates.shown_set_iff h).mpr (SymbolFeedState.shown_rejected hHealth)
  | suppressed | duplicate => exact h

/-! ## Acknowledgements -/

/-- An acknowledgement of a subscription that finds no error left on the symbol empties its last
error; no configuration error may be behind it. -/
def FeedStates.AckMeets (states : FeedStates) (sub : KisWsSubscription) : Prop :=
  sub.symbol ≠ "" →
    (∀ channel, sub.feeds ≠ some channel →
      ((states.stateOf sub.symbol).channel channel).error = "") →
    ∀ channel, ((states.stateOf sub.symbol).channel channel).configurationError = ""

namespace SymbolFeedState

variable {state : SymbolFeedState}

/-- Change the channel a subscription feeds, if it feeds one. -/
def updateFed (state : SymbolFeedState) (fed : Option FeedChannel)
    (change : ChannelFeedState → ChannelFeedState) : SymbolFeedState :=
  match fed with
  | none => state
  | some channel => state.update channel change

/-- The state after an acknowledgement of the channel `fed`. -/
def acknowledged (state : SymbolFeedState) (fed : Option FeedChannel) : SymbolFeedState :=
  let state := state.updateFed fed
    (fun feed => { feed with acked := true, requestedAt := none, error := "" })
  if state.trade.error = "" ∧ state.quote.error = "" then { state with lastError := "" } else state

theorem shown_acknowledged_iff {fed : Option FeedChannel} (h : state.Shown) :
    (state.acknowledged fed).Shown ↔
      ((∀ channel, fed ≠ some channel → (state.channel channel).error = "") →
        ∀ channel, (state.channel channel).configurationError = "") := by
  have hClock : (state.acknowledged fed).clockHealth = .healthy ↔
      (state.acknowledged fed).trade.clockHealth = .healthy ∧
        (state.acknowledged fed).quote.clockHealth = .healthy := by
    have hBefore := h.clock_iff
    unfold acknowledged
    cases fed with
    | none =>
      dsimp only [updateFed]
      split
      all_goals exact hBefore
    | some channel =>
      cases channel
      all_goals
        dsimp only [updateFed, update]
        split
        all_goals exact hBefore
  -- Which errors are left depends on the channel that is acknowledged.
  have hLeft : ((state.acknowledged fed).trade.error = "" ∧
        (state.acknowledged fed).quote.error = "") ↔
      ∀ channel, fed ≠ some channel → (state.channel channel).error = "" := by
    unfold acknowledged
    constructor
    · intro hBoth channel hOther
      cases channel <;> rcases fed with _ | _ | _ <;> dsimp only [updateFed, update] at hBoth <;>
        split at hBoth <;> simp_all [SymbolFeedState.channel]
    · intro hOthers
      have hTrade := hOthers .trade
      have hQuote := hOthers .quote
      rcases fed with _ | _ | _ <;> dsimp only [updateFed, update] <;> split <;>
        simp_all [SymbolFeedState.channel]
  have hConfiguration : ∀ channel, ((state.acknowledged fed).channel channel).configurationError =
      (state.channel channel).configurationError := by
    intro channel
    unfold acknowledged
    cases channel <;> rcases fed with _ | _ | _ <;> dsimp only [updateFed, update] <;> split <;> rfl
  have hLast : (state.acknowledged fed).lastError =
      if (state.acknowledged fed).trade.error = "" ∧ (state.acknowledged fed).quote.error = "" then
        "" else state.lastError := by
    unfold acknowledged
    rcases fed with _ | _ | _ <;> dsimp only [updateFed, update] <;> split <;> simp_all
  constructor
  · intro hShown hOthers channel
    have hSilent := hShown.silent (by rw [hLast, if_pos (hLeft.mpr hOthers)]) channel
    rw [← hConfiguration]
    exact hSilent.2
  · intro hMeets
    refine shown_of_channels hClock ?_
    intro hEmpty
    by_cases hOthers : ∀ channel, fed ≠ some channel → (state.channel channel).error = ""
    · have hNone := hMeets hOthers
      have hErrors := hLeft.mpr hOthers
      have hTrade := hConfiguration .trade
      have hQuote := hConfiguration .quote
      rw [hNone] at hTrade hQuote
      exact ⟨⟨hErrors.1, hTrade⟩, hErrors.2, hQuote⟩
    · rw [hLast, if_neg (fun hBoth => hOthers (hLeft.mp hBoth))] at hEmpty
      exact absurd (fun channel _ => (h.silent hEmpty channel).1) hOthers

end SymbolFeedState

namespace FeedStates

variable {states : FeedStates} {symbol : String}

theorem stateOf_updateChannel (hSymbol : sub.symbol ≠ "") :
    (states.updateChannel sub change).stateOf symbol =
      if symbol = sub.symbol then (states.stateOf sub.symbol).updateFed sub.feeds change
      else states.stateOf symbol := by
  unfold updateChannel
  rw [if_neg hSymbol]
  exact stateOf_set

theorem shown_recordSubscriptionAck_iff (h : states.Shown) :
    (states.recordSubscriptionAck sub).Shown ↔ states.AckMeets sub := by
  unfold AckMeets
  by_cases hSymbol : sub.symbol = ""
  · have hSame : states.recordSubscriptionAck sub = states := by
      unfold recordSubscriptionAck updateChannel
      simp [hSymbol]
    rw [hSame]
    exact ⟨fun _ hNamed => absurd hSymbol hNamed, fun _ => h⟩
  · have hAfter : ∀ symbol, (states.recordSubscriptionAck sub).stateOf symbol =
        if symbol = sub.symbol then (states.stateOf sub.symbol).acknowledged sub.feeds
        else states.stateOf symbol := by
      intro symbol
      have hMarked := fun symbol => @stateOf_updateChannel
        (fun feed => { feed with acked := true, requestedAt := none, error := "" })
        sub states symbol hSymbol
      unfold recordSubscriptionAck SymbolFeedState.acknowledged
      dsimp only
      rw [hMarked sub.symbol, if_pos rfl]
      by_cases hBoth : ((states.stateOf sub.symbol).updateFed sub.feeds (fun feed =>
            { feed with acked := true, requestedAt := none, error := "" })).trade.error = "" ∧
          ((states.stateOf sub.symbol).updateFed sub.feeds (fun feed =>
            { feed with acked := true, requestedAt := none, error := "" })).quote.error = ""
      · rw [if_pos ⟨hSymbol, hBoth⟩, if_pos hBoth, stateOf_set, hMarked]
        split
        · rfl
        · rfl
      · rw [if_neg (fun hAll => hBoth hAll.2), if_neg hBoth, hMarked]
    have hThere : (states.recordSubscriptionAck sub).Shown ↔
        ((states.stateOf sub.symbol).acknowledged sub.feeds).Shown := by
      constructor
      · intro hShown
        have hState := hShown sub.symbol
        rwa [hAfter, if_pos rfl] at hState
      · intro hState symbol
        rw [hAfter]
        split
        · exact hState
        · exact h symbol
    rw [hThere, SymbolFeedState.shown_acknowledged_iff (h sub.symbol)]
    exact ⟨fun hMeets _ => hMeets, fun hMeets => hMeets hSymbol⟩

theorem shown_recordSubscriptionError {message : String} (h : states.Shown)
    (hMessage : message ≠ "") : (states.recordSubscriptionError sub message).Shown := by
  unfold recordSubscriptionError
  dsimp only
  split
  next hSymbol =>
    unfold updateChannel
    rw [if_pos hSymbol]
    exact h
  next hSymbol =>
    intro symbol
    rw [stateOf_set, stateOf_updateChannel hSymbol, stateOf_updateChannel hSymbol, if_pos rfl]
    by_cases hThis : symbol = sub.symbol
    · rw [if_pos hThis]
      have hClock := (h sub.symbol).clock_iff
      rcases sub.feeds with _ | _ | _
      all_goals exact SymbolFeedState.shown_of_channels hClock (fun hLast => absurd hLast hMessage)
    · rw [if_neg hThis, if_neg hThis]
      exact h symbol

end FeedStates

/-- The acknowledgement of a slot meets `AckMeets`. -/
def FeedService.AckMeets (service : FeedService) (frame : KisWsSystemFrame) : Prop :=
  frame.isUnsubscribe = false → frame.accepted = true →
    ∀ sub, service.sessionSubscriptions.get? frame.key = some sub →
      frame.key ∈ service.sessionStatus → service.states.AckMeets sub

namespace FeedService

open FeedStates

variable {service : FeedService} {now : Instant}

theorem rejectionMessage_ne_empty (frame : KisWsSystemFrame) {default : String}
    (h : default ≠ "") : rejectionMessage frame default ≠ "" := by
  unfold rejectionMessage
  split
  · exact h
  next hMessage => exact hMessage

theorem same_settled : Same service.states
    (service.reconcileSubscriptionTarget now).refreshCapacityRejections.states :=
  same_reconcile.trans same_refresh

theorem shown_settled_iff : ((service.reconcileSubscriptionTarget now).refreshCapacityRejections
    ).states.Shown ↔ service.states.Shown :=
  same_settled.shown_iff

theorem shown_onAck_iff {frame : KisWsSystemFrame} (h : service.states.Shown) :
    (service.onAck now frame).states.Shown ↔ service.AckMeets frame := by
  have hNoted : (service.noteSessionConflict now frame).states = service.states ∧
      (service.noteSessionConflict now frame).sessionSubscriptions = service.sessionSubscriptions ∧
      (service.noteSessionConflict now frame).sessionStatus = service.sessionStatus := by
    unfold noteSessionConflict
    split
    · exact ⟨rfl, rfl, rfl⟩
    · split
      all_goals exact ⟨rfl, rfl, rfl⟩
  unfold onAck FeedService.AckMeets
  dsimp only
  rw [hNoted.2.1, hNoted.2.2]
  have hStart : (service.noteSessionConflict now frame).states.Shown := hNoted.1 ▸ h
  have hRetained : ((service.noteSessionConflict now frame).retainEarlyAck frame).states.Shown := by
    unfold retainEarlyAck
    split
    all_goals exact hStart
  cases hSub : service.sessionSubscriptions.get? frame.key with
  | none => exact ⟨fun _ _ _ sub hSome => (by cases hSome), fun _ => hRetained⟩
  | some sub =>
    cases hStatus : service.sessionStatus.get? frame.key with
    | none =>
      refine ⟨fun _ _ _ _ _ hMem => ?_, fun _ => hRetained⟩
      exact absurd hMem (Dictionary.get?_eq_none.mp hStatus)
    | some =>
      dsimp only
      by_cases hUnsubscribe : frame.isUnsubscribe = true
      · rw [if_pos hUnsubscribe]
        refine ⟨fun _ hSubscribe => by simp [hUnsubscribe] at hSubscribe, fun _ => ?_⟩
        split
        · unfold releaseSlot
          have hCleared := @same_updateChannel
            (fun channel => { channel with acked := false, requestedAt := none })
            (service.noteSessionConflict now frame).states sub (fun _ => rfl)
          exact shown_settled_iff.mpr (hCleared.shown_iff.mpr hStart)
        · unfold keepSlot
          exact same_refresh.shown_iff.mpr (shown_recordSubscriptionError hStart
            (rejectionMessage_ne_empty frame (by decide +kernel)))
      · rw [if_neg hUnsubscribe]
        by_cases hAccepted : frame.accepted = true
        · rw [if_pos hAccepted]
          have hSlot : ((service.noteSessionConflict now frame).acknowledgeSlot frame.key
              sub).states.Shown ↔ service.states.AckMeets sub := by
            unfold acknowledgeSlot
            dsimp only
            rw [hNoted.1]
            exact shown_recordSubscriptionAck_iff h
          rw [hSlot]
          constructor
          · intro hMeets _ _ found hFound _
            cases hFound
            exact hMeets
          · intro hMeets
            exact hMeets (Bool.eq_false_of_not_eq_true hUnsubscribe) hAccepted sub rfl
              (Dictionary.mem_of_get? hStatus)
        · rw [if_neg hAccepted]
          refine ⟨fun _ _ hTrue => absurd hTrue hAccepted, fun _ => ?_⟩
          unfold rejectSlot
          have hCleared := @same_updateChannel
            (fun channel => { channel with acked := false, requestedAt := none })
            (service.noteSessionConflict now frame).states sub (fun _ => rfl)
          exact shown_settled_iff.mpr
            (shown_recordSubscriptionError (hCleared.shown_iff.mpr hStart)
              (rejectionMessage_ne_empty frame (by decide +kernel)))

end FeedService

/-! ## Configurations -/

/-- A symbol without configuration errors after a configuration has no error on a channel, if
its last error is one of the configuration errors before. -/
def FeedService.ConfigureMeets (service : FeedService) (resolver : SymbolKeyResolver) : Prop :=
  ∀ symbol, (∀ channel, service.resolutionError resolver channel symbol = "") →
    (∃ channel, (service.states.stateOf symbol).lastError =
      ((service.states.stateOf symbol).channel channel).configurationError) →
    ∀ channel, ((service.states.stateOf symbol).channel channel).error = ""

namespace FeedService

open FeedStates

variable {service : FeedService} {resolver : SymbolKeyResolver} {now : Instant}

theorem errors_configureChannel {desired : Bool} {error : String} {feed : ChannelFeedState} :
    (configureChannel desired error feed).errors = (feed.error, error, feed.clockHealth) := by
  unfold configureChannel
  dsimp only
  split
  · rfl
  · rfl

theorem shown_configureState_iff {symbol : String} (h : state.Shown) :
    (service.configureState resolver symbol state).Shown ↔
      ((∀ channel, service.resolutionError resolver channel symbol = "") →
        (∃ channel, state.lastError = (state.channel channel).configurationError) →
          ∀ channel, (state.channel channel).error = "") := by
  have hChannel : ∀ channel,
      ((service.configureState resolver symbol state).channel channel).errors =
        ((state.channel channel).error, service.resolutionError resolver channel symbol,
          (state.channel channel).clockHealth) := by
    intro channel
    cases channel
    all_goals exact errors_configureChannel
  have hError := fun channel => congrArg Prod.fst (hChannel channel)
  have hConfiguration := fun channel => congrArg (fun errors => errors.2.1) (hChannel channel)
  have hHealth := fun channel => congrArg (fun errors => errors.2.2) (hChannel channel)
  dsimp only [ChannelFeedState.errors] at hError hConfiguration hHealth
  have hClock : (service.configureState resolver symbol state).clockHealth = .healthy ↔
      ∀ channel, ((service.configureState resolver symbol state).channel channel).clockHealth =
        .healthy := by
    simp only [hHealth]
    exact h.clock
  by_cases hResolved : ∀ channel, service.resolutionError resolver channel symbol = ""
  · have hLast : (service.configureState resolver symbol state).lastError =
        if state.lastError = state.trade.configurationError ∨
          state.lastError = state.quote.configurationError then "" else state.lastError := by
      unfold configureState
      simp [hResolved]
    have hPrevious : (state.lastError = state.trade.configurationError ∨
        state.lastError = state.quote.configurationError) ↔
          ∃ channel, state.lastError = (state.channel channel).configurationError := by
      constructor
      · rintro (hTrade | hQuote)
        · exact ⟨.trade, hTrade⟩
        · exact ⟨.quote, hQuote⟩
      · rintro ⟨channel, hSame⟩
        cases channel
        · exact .inl hSame
        · exact .inr hSame
    constructor
    · intro hShown _ hReplaced channel
      rw [if_pos (hPrevious.mpr hReplaced)] at hLast
      have hSilent := (hShown.silent hLast channel).1
      rwa [hError] at hSilent
    · intro hMeets
      refine ⟨hClock, ?_⟩
      intro channel hSome
      rw [hError, hConfiguration, hResolved channel] at hSome
      have hText : (state.channel channel).error ≠ "" := hSome.resolve_right (by simp)
      rw [hLast]
      split
      next hReplaced =>
        exact absurd (hMeets hResolved (hPrevious.mp hReplaced) channel) hText
      next => exact h.error channel (.inl hText)
  · refine ⟨fun _ hAll => absurd hAll hResolved, fun _ => ⟨hClock, ?_⟩⟩
    intro channel _
    obtain ⟨failed, hFailed⟩ := not_forall.mp hResolved
    show (if (if service.resolutionError resolver .quote symbol ≠ "" then
          service.resolutionError resolver .quote symbol
        else service.resolutionError resolver .trade symbol) ≠ "" then _ else _) ≠ ""
    by_cases hQuote : service.resolutionError resolver .quote symbol = ""
    · have hTrade : service.resolutionError resolver .trade symbol ≠ "" := by
        cases failed
        · exact hFailed
        · exact absurd hQuote hFailed
      simp [hQuote, hTrade]
    · simp [hQuote]

theorem shown_configure_iff {configuration : FeedConfiguration} (h : service.states.Shown) :
    (service.configure configuration resolver now).states.Shown ↔
      (configuration.apply service).ConfigureMeets resolver := by
  have hApplied : (configuration.apply service).states = service.states := by
    cases configuration
    all_goals rfl
  unfold configure rebalanceSubscriptions FeedService.ConfigureMeets
  rw [shown_settled_iff]
  generalize hService : configuration.apply service = applied at hApplied ⊢
  have hShown : applied.states.Shown := hApplied ▸ h
  have hAdded : ∀ symbol, stateOf ((applied.tradePriorities.keys ++
      applied.quotePriorities.keys).foldl
          (fun states symbol => states.setDefault symbol { symbol := symbol }) applied.states)
        symbol =
        applied.states.stateOf symbol := by
    intro symbol
    exact foldl_frame (fun states : FeedStates => states.stateOf symbol)
      (fun _ _ _ => stateOf_setDefault)
  have hEach := fun symbol => @stateOf_mapValues
    ((applied.tradePriorities.keys ++ applied.quotePriorities.keys).foldl
      (fun states symbol => states.setDefault symbol { symbol := symbol }) applied.states)
    symbol (applied.configureState resolver)
  unfold retarget
  dsimp only
  constructor
  · intro hAfter symbol
    have hState := hAfter symbol
    rcases hEach symbol with hChanged | ⟨_, hBefore⟩
    · rw [hChanged, hAdded] at hState
      exact (shown_configureState_iff (hShown symbol)).mp hState
    · rw [hAdded] at hBefore
      intro _ _ channel
      rw [hBefore]
      cases channel
      · rfl
      · rfl
  · intro hMeets symbol
    rcases hEach symbol with hChanged | ⟨hAfter, _⟩
    · rw [hChanged, hAdded]
      exact (shown_configureState_iff (hShown symbol)).mpr (hMeets symbol)
    · rw [hAfter]
      exact SymbolFeedState.shown_default symbol

end FeedService

/-! ## New sessions and cleared symbols -/

/-- No symbol has a configuration error. -/
def FeedStates.Configured (states : FeedStates) : Prop :=
  ∀ symbol channel, ((states.stateOf symbol).channel channel).configurationError = ""

namespace SymbolFeedState

variable {state : SymbolFeedState}

/-- A state without errors and a last error shows all its failures if none is one of its
configuration. -/
theorem shown_clearError_iff :
    state.clearError.Shown ↔ ∀ channel, (state.channel channel).configurationError = "" := by
  constructor
  · intro hShown channel
    have hSilent := (hShown.silent rfl channel).2
    cases channel
    all_goals exact hSilent
  · intro hNone
    exact shown_of_channels ⟨fun _ => ⟨rfl, rfl⟩, fun _ => rfl⟩
      (fun _ => ⟨⟨rfl, hNone .trade⟩, rfl, hNone .quote⟩)

theorem shown_connectionState_iff (h : state.Shown) :
    (FeedService.connectionState connected generation state).Shown ↔
      (connected = true → generation ≠ 0 →
        ∀ channel, (state.channel channel).configurationError = "") := by
  unfold FeedService.connectionState
  dsimp only
  cases connected with
  | false =>
    have hSame : (FeedService.connectionState false generation state).Shown :=
      shown_of_channels h.clock_iff fun hLast => ⟨h.silent hLast .trade, h.silent hLast .quote⟩
    exact ⟨fun _ hTrue => (by cases hTrue), fun _ => hSame⟩
  | true =>
    by_cases hGeneration : generation = 0
    · have hSame : (FeedService.connectionState true generation state).Shown := by
        unfold FeedService.connectionState
        rw [if_neg (by decide), if_neg (not_not.mpr hGeneration)]
        exact shown_of_channels h.clock_iff
          fun hLast => ⟨h.silent hLast .trade, h.silent hLast .quote⟩
      exact ⟨fun _ _ hNew => absurd hGeneration hNew, fun _ => hSame⟩
    · rw [if_neg (by decide), if_pos hGeneration]
      constructor
      · intro hShown _ _ channel
        have hSilent := (hShown.silent rfl channel).2
        cases channel
        all_goals exact hSilent
      · intro hMeets
        have hNone := hMeets rfl hGeneration
        exact shown_of_channels ⟨fun _ => ⟨rfl, rfl⟩, fun _ => rfl⟩
          (fun _ => ⟨⟨rfl, hNone .trade⟩, rfl, hNone .quote⟩)

end SymbolFeedState

namespace FeedService

open FeedStates

variable {service : FeedService} {now : Instant}

theorem shown_openSession_iff (h : service.states.Shown) :
    (service.openSession connected generation now).states.Shown ↔
      (connected = true → generation ≠ 0 → service.states.Configured) := by
  have hOpened : Same
      (service.states.mapValues (fun _ => connectionState connected generation))
      (service.openSession connected generation now).states := by
    unfold openSession
    dsimp only
    split
    · refine Same.trans ?_ same_settled
      exact List.foldlRecOn (motive := fun after : FeedStates => Same _ after) _ _ (Same.refl _)
        (fun _ hSame sub _ => hSame.trans (same_updateChannel sub (fun _ => rfl)))
    · refine Same.trans ?_ same_refresh
      exact Same.refl _
  rw [hOpened.shown_iff]
  constructor
  · intro hAfter hConnected hGeneration symbol
    rcases @stateOf_mapValues service.states symbol
      (fun _ => connectionState connected generation) with hChanged | ⟨_, hBefore⟩
    · have hState := hAfter symbol
      rw [hChanged] at hState
      exact (SymbolFeedState.shown_connectionState_iff (h symbol)).mp hState hConnected hGeneration
    · rw [hBefore]
      intro channel
      cases channel
      · rfl
      · rfl
  · intro hMeets symbol
    rcases @stateOf_mapValues service.states symbol
      (fun _ => connectionState connected generation) with hChanged | ⟨hAfter, _⟩
    · rw [hChanged]
      exact (SymbolFeedState.shown_connectionState_iff (h symbol)).mpr
        (fun hConnected hGeneration => hMeets hConnected hGeneration symbol)
    · rw [hAfter]
      exact SymbolFeedState.shown_default symbol

end FeedService

/-! ## Runs -/

/-- What a step must meet so that the failures stay shown: an acknowledgement that empties the
last error leaves no configuration error behind, a configuration does not take the error of a
channel for one it has resolved, and a new session or a cleared symbol starts without
configuration errors. -/
def FeedRuntime.Meets (runtime : FeedRuntime) : RuntimeStep → Prop
  | .ingest _ _ => True
  | .ack _ frame => runtime.service.AckMeets frame
  | .configure configuration resolver _ =>
    (configuration.apply runtime.service).ConfigureMeets resolver
  | .opened connected generation _ =>
    connected = true → generation ≠ 0 → runtime.service.states.Configured
  | .clearSymbolError symbol => ∀ channel,
      ((runtime.service.states.stateOf (upper symbol)).channel channel).configurationError = ""
  | .expireAckTimeouts _ => True

/-- A channel has nothing outstanding: neither an error nor a configuration error, and its clock
is healthy. -/
structure ChannelFeedState.Clear (feed : ChannelFeedState) : Prop where
  error : feed.error = ""
  configurationError : feed.configurationError = ""
  clockHealth : feed.clockHealth = .healthy

/-- Every symbol shows the failures of its channels, so a symbol that is ready has none. -/
structure FeedRuntime.FailuresShown (rules : EventRules) (runtime : FeedRuntime) : Prop where
  shown : runtime.service.states.Shown
  ready : ∀ inputs symbol requireTrade requireQuote now,
    runtime.isSymbolExecutionReady rules inputs symbol requireTrade requireQuote now = true →
      ∀ channel, ((runtime.service.states.stateOf (upper symbol)).channel channel).Clear

namespace FeedRuntime

variable {rules : EventRules} {runtime : FeedRuntime}

theorem shown_next_iff {step : RuntimeStep} (h : runtime.service.states.Shown) :
    (runtime.next rules step).service.states.Shown ↔ runtime.Meets step := by
  cases step with
  | ingest channel quote => exact ⟨fun _ => trivial, fun _ => shown_ingest channel quote h⟩
  | ack => exact FeedService.shown_onAck_iff h
  | configure => exact FeedService.shown_configure_iff h
  | opened => exact FeedService.shown_openSession_iff h
  | clearSymbolError =>
    exact (FeedStates.shown_set_iff h).trans SymbolFeedState.shown_clearError_iff
  | expireAckTimeouts =>
    exact ⟨fun _ => trivial, fun _ => FeedStates.shown_expireAckTimeouts h⟩

theorem clear_of_expireAckTimeout {fed : FeedChannel}
    (h : ((state.expireAckTimeout rules now fed).channel channel).Clear) :
    (state.channel channel).Clear := by
  unfold SymbolFeedState.expireAckTimeout at h
  dsimp only at h
  split at h
  · cases fed <;> cases channel
    · exact absurd h.error (ackTimeoutText_ne_empty _)
    · exact ⟨h.error, h.configurationError, h.clockHealth⟩
    · exact ⟨h.error, h.configurationError, h.clockHealth⟩
    · exact absurd h.error (ackTimeoutText_ne_empty _)
  · exact h

/-- Where the failures are shown, readiness excludes them. -/
theorem failuresShown_of_shown (h : runtime.service.states.Shown) :
    runtime.FailuresShown rules := by
  refine ⟨h, ?_⟩
  intro inputs symbol requireTrade requireQuote now hReady channel
  unfold isSymbolExecutionReady at hReady
  simp only [Bool.and_eq_true, decide_eq_true_eq] at hReady
  obtain ⟨⟨⟨⟨⟨⟨_, _⟩, hLast⟩, hHealth⟩, _⟩, _⟩, _⟩ := hReady
  have hExpired := @FeedStates.shown_expireAckTimeouts rules now _ h (upper symbol)
  have hClear : ((FeedStates.stateOf (runtime.service.states.expireAckTimeouts rules now)
      (upper symbol)).channel channel).Clear :=
    ⟨(hExpired.silent hLast channel).1, (hExpired.silent hLast channel).2,
      hExpired.clock.mp hHealth channel⟩
  rcases @FeedStates.stateOf_mapValues runtime.service.states (upper symbol)
    (fun _ state =>
      (state.expireAckTimeout rules now .trade).expireAckTimeout rules now .quote) with
    hChanged | ⟨_, hBefore⟩
  · unfold FeedStates.expireAckTimeouts at hClear
    rw [hChanged] at hClear
    exact clear_of_expireAckTimeout (clear_of_expireAckTimeout hClear)
  · rw [hBefore]
    cases channel
    all_goals exact ⟨rfl, rfl, rfl⟩

/-- A run shows its failures in every state just when each of its steps meets the condition. -/
theorem run_shown_iff (steps : List RuntimeStep) (h : runtime.service.states.Shown) :
    (∀ before, before <+: steps → (runtime.run rules before).service.states.Shown) ↔
      ∀ before step after, steps = before ++ step :: after →
        (runtime.run rules before).Meets step := by
  constructor
  · rintro hShown before step after rfl
    have hBefore := hShown before (List.prefix_append _ _)
    have hNext := hShown (before ++ [step])
      ⟨after, by rw [List.append_assoc, List.singleton_append]⟩
    unfold run at hNext
    rw [List.foldl_append] at hNext
    exact (shown_next_iff hBefore).mp hNext
  · intro hMeets before
    induction before using List.reverseRecOn with
    | nil => exact fun _ => h
    | append_singleton before step ih =>
      rintro ⟨after, rfl⟩
      have hBefore := ih ⟨step :: after, by simp⟩
      have hStep := hMeets before step after (by simp)
      unfold run
      rw [List.foldl_append]
      exact (shown_next_iff hBefore).mpr hStep

end FeedRuntime

/-- Rejections and errors of one channel are never hidden by the other, in every state of a run
of the feed, if and only if every step of the run meets the condition. -/
theorem channel_failures_shown_iff {trade quote : Int} {total : Option Int}
    {notice : Option KisWsSubscription} {resolver : SymbolKeyResolver} {now : Instant}
    {service : FeedService} (rules : EventRules) (steps : List RuntimeStep)
    (h : FeedService.create trade quote total notice resolver now = .ok service) :
    (∀ before, before <+: steps →
        (FeedRuntime.run rules { service := service } before).FailuresShown rules) ↔
      ∀ before step after, steps = before ++ step :: after →
        (FeedRuntime.run rules { service := service } before).Meets step := by
  have hStart : service.states.Shown := by
    unfold FeedService.create at h
    dsimp only at h
    split at h
    · cases h
    · rw [← Except.ok.inj h]
      have hInitial : (FeedService.initial (max 0 trade).toNat (max 0 quote).toNat
          (FeedService.aggregateCapacity (max 0 trade).toNat (max 0 quote).toNat notice total)
          notice).states.Shown := SymbolFeedState.shown_default
      have hConfigured := @FeedService.shown_configure_iff _ resolver now (.subscribe [])
        hInitial
      refine hConfigured.mpr ?_
      intro symbol _ _ channel
      cases channel
      · rfl
      · rfl
  rw [← @FeedRuntime.run_shown_iff rules { service := service } steps hStart]
  constructor
  · intro hShown before hPrefix
    exact (hShown before hPrefix).shown
  · intro hShown before hPrefix
    exact FeedRuntime.failuresShown_of_shown (hShown before hPrefix)

/-! ### A feed without a quote key -/

/-- The trades of a symbol have a key, its quotes do not. -/
def tradesOnly : SymbolKeyResolver := fun symbol channel =>
  match channel with
  | .trade => .ok ("DNAS" ++ symbol)
  | .quote => .error "no key"

def twoSlots : FeedService := (FeedService.initial 1 1 2 none).rebalanceSubscriptions tradesOnly 0

/-- Both channels of a symbol are wanted over a session, and the trades are acknowledged. -/
def tradesAcked : List RuntimeStep :=
  [ .opened true 1 0,
    .configure (.configureDesiredChannels ((∅ : Priorities).set "AAPL" 1)
      ((∅ : Priorities).set "AAPL" 1)) tradesOnly 0,
    .ack 0 { trId := tradeTrId, trKey := "DNASAAPL", accepted := true } ]

theorem channel_failures_shown_connected :
    FeedService.create 1 1 (some 2) none tradesOnly 0 = .ok twoSlots ∧
      ∀ before, before <+: [RuntimeStep.opened true 1 0] →
        (FeedRuntime.run {} { service := twoSlots } before).FailuresShown {} := by
  have hCreate : FeedService.create 1 1 (some 2) none tradesOnly 0 = .ok twoSlots := rfl
  refine ⟨hCreate, (channel_failures_shown_iff {} _ hCreate).mpr ?_⟩
  intro before step after hSteps
  cases before with
  | nil =>
    obtain rfl := (List.cons.inj hSteps).1
    intro _ _ symbol channel
    cases channel
    · rfl
    · rfl
  | cons => exact absurd (List.cons.inj hSteps).2 (by simp)

/-- The acknowledgement of the trades empties the last error of the symbol, whose quotes still
have no key. -/
theorem configuration_error_hidden :
    FeedService.create 1 1 (some 2) none tradesOnly 0 = .ok twoSlots ∧
      ((FeedRuntime.run {} { service := twoSlots } tradesAcked).service.states.stateOf
        "AAPL").quote.configurationError ≠ "" ∧
      ((FeedRuntime.run {} { service := twoSlots } tradesAcked).service.states.stateOf
        "AAPL").lastError = "" ∧
      ¬ (FeedRuntime.run {} { service := twoSlots } tradesAcked).FailuresShown {} := by
  have hQuote : ((FeedRuntime.run {} { service := twoSlots } tradesAcked).service.states.stateOf
      "AAPL").quote.configurationError ≠ "" := by decide +kernel
  have hLast : ((FeedRuntime.run {} { service := twoSlots } tradesAcked).service.states.stateOf
      "AAPL").lastError = "" := by decide +kernel
  refine ⟨rfl, hQuote, hLast, ?_⟩
  intro hShown
  exact (hShown.shown "AAPL").error .quote (.inr hQuote) hLast

end QuantApp.Services
