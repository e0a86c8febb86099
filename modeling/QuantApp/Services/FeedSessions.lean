import QuantApp.Services.FeedSubscriptions

/-!
# Sessions of the realtime feed

What the tables of the feed keep whatever is configured, connected or acknowledged:
every occupied slot has its subscription, none is occupied without a connection, and a
channel counts as acknowledged only while a slot for it is (`SlotsSound`).
-/

namespace QuantApp.Services

open Core Verified

variable {frame : KisWsSystemFrame} {key : SubscriptionKey} {sub : KisWsSubscription}
  {name : String} {d : Dictionary SubscriptionKey KisWsSubscription} {channel : FeedChannel}

/-! ## Acknowledged channels -/

/-- The symbol's `trade_acked` or `quote_acked`. -/
def Acked (states : FeedStates) (symbol : String) (channel : FeedChannel) : Prop :=
  ∃ state, states.get? symbol = some state ∧ (state.channel channel).acked = true

/-- The subscription is for the channel of the symbol. -/
def KisWsSubscription.IsFor (sub : KisWsSubscription) (symbol : String) (channel : FeedChannel) :
    Prop :=
  sub.symbol = symbol ∧ symbol ≠ "" ∧ sub.feeds = some channel

section States

variable {states : FeedStates} {sub : KisWsSubscription} {symbol : String}
  {channel : FeedChannel}

/-- The state `setdefault` finds or makes counts as acknowledged only if it was. -/
theorem acked_stateOf (h : ((states.stateOf symbol).channel channel).acked = true) :
    Acked states symbol channel := by
  cases hState : states.get? symbol with
  | none =>
    rw [FeedStates.stateOf, hState] at h
    cases channel
    · cases h
    · cases h
  | some state =>
    rw [FeedStates.stateOf, hState] at h
    exact ⟨state, hState, h⟩

/-- A changed channel is acknowledged if the change made it so; any other one if it was. -/
theorem acked_updateChannel {change : ChannelFeedState → ChannelFeedState}
    (h : Acked (states.updateChannel sub change) symbol channel) :
    (Acked states symbol channel ∧ ¬ sub.IsFor symbol channel) ∨
      (sub.IsFor symbol channel ∧
        (change ((states.stateOf symbol).channel channel)).acked = true) := by
  obtain ⟨state, hState, hAcked⟩ := h
  unfold FeedStates.updateChannel at hState
  split at hState
  next hEmpty =>
    refine Or.inl ⟨⟨state, hState, hAcked⟩, ?_⟩
    intro hFor
    exact hFor.2.1 (hFor.1.symm.trans hEmpty)
  next hSymbol =>
    rw [Dictionary.get?_set] at hState
    split at hState
    next hSame =>
      subst hSame
      cases hFeeds : sub.feeds with
      | none =>
        rw [hFeeds] at hState
        cases hState
        refine Or.inl ⟨acked_stateOf hAcked, ?_⟩
        intro hFor
        have hSome := hFeeds.symm.trans hFor.2.2
        cases hSome
      | some fed =>
        rw [hFeeds] at hState
        cases hState
        by_cases hChannel : channel = fed
        · subst hChannel
          rw [SymbolFeedState.channel_update_self] at hAcked
          exact Or.inr ⟨⟨rfl, hSymbol, hFeeds⟩, hAcked⟩
        · rw [SymbolFeedState.channel_update_of_ne _ _ hChannel] at hAcked
          refine Or.inl ⟨acked_stateOf hAcked, ?_⟩
          intro hFor
          exact hChannel (Option.some.inj (hFor.2.2.symm.trans hFeeds))
    next hOther =>
      refine Or.inl ⟨⟨state, hState, hAcked⟩, ?_⟩
      intro hFor
      exact hOther hFor.1.symm

theorem acked_clearChannelAck (h : Acked (states.clearChannelAck sub) symbol channel) :
    Acked states symbol channel ∧ ¬ sub.IsFor symbol channel := by
  cases acked_updateChannel h with
  | inl hKept => exact hKept
  | inr hChanged => cases hChanged.2

theorem acked_markChannelRequested {now : Instant}
    (h : Acked (states.markChannelRequested now sub) symbol channel) :
    Acked states symbol channel ∧ ¬ sub.IsFor symbol channel := by
  cases acked_updateChannel h with
  | inl hKept => exact hKept
  | inr hChanged => cases hChanged.2

/-- Another `last_error` acknowledges nothing. -/
theorem acked_setLastError {text : String}
    (h : Acked (states.set name { states.stateOf name with lastError := text }) symbol channel) :
    Acked states symbol channel := by
  obtain ⟨state, hState, hAcked⟩ := h
  rw [Dictionary.get?_set] at hState
  split at hState
  next hSame =>
    subst hSame
    cases hState
    apply acked_stateOf
    cases channel
    all_goals exact hAcked
  next hOther => exact ⟨state, hState, hAcked⟩

theorem acked_recordSubscriptionAck
    (h : Acked (states.recordSubscriptionAck sub) symbol channel) :
    Acked states symbol channel ∨ sub.IsFor symbol channel := by
  have hUpdated : Acked (states.updateChannel sub (fun channel =>
      { channel with acked := true, requestedAt := none, error := "" })) symbol channel := by
    unfold FeedStates.recordSubscriptionAck at h
    dsimp only at h
    split at h
    · exact acked_setLastError h
    · exact h
  cases acked_updateChannel hUpdated with
  | inl hKept => exact Or.inl hKept.1
  | inr hChanged => exact Or.inr hChanged.1

theorem acked_recordSubscriptionError {message : String}
    (h : Acked (states.recordSubscriptionError sub message) symbol channel) :
    Acked states symbol channel := by
  have hUpdated : Acked (states.updateChannel sub (fun channel =>
      { channel with error := message, requestedAt := none })) symbol channel := by
    unfold FeedStates.recordSubscriptionError at h
    dsimp only at h
    split at h
    · exact h
    · exact acked_setLastError h
  cases acked_updateChannel hUpdated with
  | inl hKept => exact hKept.1
  | inr hChanged => exact acked_stateOf hChanged.2

theorem acked_mapValues {change : String → SymbolFeedState → SymbolFeedState}
    (hChange : ∀ name state, ((change name state).channel channel).acked = true →
      (state.channel channel).acked = true)
    (h : Acked (states.mapValues change) symbol channel) : Acked states symbol channel := by
  obtain ⟨state, hState, hAcked⟩ := h
  rw [Dictionary.get?_mapValues] at hState
  obtain ⟨old, hOld, rfl⟩ := Option.map_eq_some_iff.mp hState
  exact ⟨old, hOld, hChange symbol old hAcked⟩

theorem acked_setDefault (h : Acked (states.setDefault name { symbol := name }) symbol channel) :
    Acked states symbol channel := by
  obtain ⟨state, hState, hAcked⟩ := h
  rw [Dictionary.get?_setDefault] at hState
  split at hState
  · cases hState
    cases channel
    all_goals cases hAcked
  · exact ⟨state, hState, hAcked⟩

end States

/-! ## What every step keeps -/

/-- Some slot of the symbol's channel is acknowledged in the present session. -/
def AckedSlot (session : Dictionary SubscriptionKey KisWsSubscription)
    (status : Dictionary SubscriptionKey SubscriptionSessionStatus) (symbol : String)
    (channel : FeedChannel) : Prop :=
  ∃ key sub, session.get? key = some sub ∧ sub.IsFor symbol channel ∧ status.get? key = some .active

/-- Where both have a subscription under a key, it is the same one. -/
def Agree (replayed session : Dictionary SubscriptionKey KisWsSubscription) : Prop :=
  ∀ key sub sub', replayed.get? key = some sub → session.get? key = some sub' → sub = sub'

/-- The tables of a session fit together. -/
structure SlotsSound (connected : Bool)
    (replayed session : Dictionary SubscriptionKey KisWsSubscription)
    (status : Dictionary SubscriptionKey SubscriptionSessionStatus) (states : FeedStates) :
    Prop where
  recorded : ∀ key, key ∈ status ↔ key ∈ session
  offline : connected = false → ∀ key, key ∉ status
  agree : Agree replayed session
  acked : ∀ symbol channel, Acked states symbol channel → AckedSlot session status symbol channel

def FeedService.Sound (service : FeedService) : Prop :=
  SlotsSound service.connected service.activeSubscriptions service.sessionSubscriptions
    service.sessionStatus service.states

section Slots

variable {connected : Bool}
  {replayed replayed' session session' : Dictionary SubscriptionKey KisWsSubscription}
  {status status' : Dictionary SubscriptionKey SubscriptionSessionStatus}
  {states states' : FeedStates} {key : SubscriptionKey} {sub : KisWsSubscription}
  {symbol : String} {channel : FeedChannel} {mark : SubscriptionSessionStatus}

theorem AckedSlot.of_ne (h : AckedSlot session status symbol channel)
    (hNot : ∀ sub, session.get? key = some sub → ¬ sub.IsFor symbol channel)
    (hSession : ∀ other, other ≠ key → session'.get? other = session.get? other)
    (hStatus : ∀ other, other ≠ key → status'.get? other = status.get? other) :
    AckedSlot session' status' symbol channel := by
  obtain ⟨other, sub, hSub, hFor, hActive⟩ := h
  have hne : other ≠ key := by
    intro hSame
    rw [hSame] at hSub
    exact hNot sub hSub hFor
  exact ⟨other, sub, (hSession other hne).trans hSub, hFor, (hStatus other hne).trans hActive⟩

section

variable (h : Agree replayed session)
include h

theorem Agree.erase : Agree (replayed.erase key) session := by
  intro other first second hFirst hSecond
  exact h other first second (Dictionary.get?_of_erase hFirst).2 hSecond

theorem Agree.erase_right : Agree replayed (session.erase key) := by
  intro other first second hFirst hSecond
  exact h other first second hFirst (Dictionary.get?_of_erase hSecond).2

theorem Agree.set_right (hReplayed : ∀ other, replayed.get? key = some other → other = sub) :
    Agree replayed (session.set key sub) := by
  intro other first second hFirst hSecond
  rw [Dictionary.get?_set] at hSecond
  split at hSecond
  next hSame =>
    rw [hSame] at hFirst
    cases hSecond
    exact hReplayed first hFirst
  next => exact h other first second hFirst hSecond

end

variable (h : SlotsSound connected replayed session status states)
include h

theorem SlotsSound.withStates
    (hAcked : ∀ symbol channel, Acked states' symbol channel → Acked states symbol channel) :
    SlotsSound connected replayed session status states' :=
  { h with acked := fun symbol channel hNew => h.acked symbol channel (hAcked symbol channel hNew) }

/-- A slot is freed, and its channel no longer counts as acknowledged. -/
theorem SlotsSound.free (hAgree : Agree replayed' session)
    (hAcked : ∀ symbol channel, Acked states' symbol channel → Acked states symbol channel ∧ ∀ sub,
      session.get? key = some sub → ¬ sub.IsFor symbol channel) :
    SlotsSound connected replayed' (session.erase key) (status.erase key) states' := by
  constructor
  · intro other
    rw [Dictionary.mem_erase, Dictionary.mem_erase, h.recorded]
  · intro hOffline other hOther
    exact h.offline hOffline other (Dictionary.mem_erase.mp hOther).2
  · exact hAgree.erase_right
  · intro symbol channel hNew
    obtain ⟨hOld, hNot⟩ := hAcked symbol channel hNew
    apply (h.acked symbol channel hOld).of_ne hNot
    all_goals
      intro other hne
      rw [Dictionary.get?_erase, if_neg hne]

/-- A slot is occupied, or waits for its release, under a connection. -/
theorem SlotsSound.occupy (hConnected : connected = true)
    (hAgree : Agree replayed' (session.set key sub))
    (hAcked : ∀ symbol channel, Acked states' symbol channel → Acked states symbol channel ∧ ∀ sub,
      session.get? key = some sub → ¬ sub.IsFor symbol channel) :
    SlotsSound connected replayed' (session.set key sub) (status.set key mark) states' := by
  constructor
  · intro other
    rw [Dictionary.mem_set, Dictionary.mem_set, h.recorded]
  · intro hOffline
    rw [hConnected] at hOffline
    cases hOffline
  · exact hAgree
  · intro symbol channel hNew
    obtain ⟨hOld, hNot⟩ := hAcked symbol channel hNew
    apply (h.acked symbol channel hOld).of_ne hNot
    all_goals
      intro other hne
      exact Dictionary.get?_set_of_ne hne

theorem SlotsSound.activate (hSub : session.get? key = some sub)
    (hAcked : ∀ symbol channel, Acked states' symbol channel → Acked states symbol channel ∨
      sub.IsFor symbol channel) :
    SlotsSound connected replayed session (status.set key .active) states' := by
  have hKey : key ∈ status := (h.recorded key).mpr (Dictionary.mem_of_get? hSub)
  constructor
  · intro other
    rw [Dictionary.mem_set, ← h.recorded]
    constructor
    · rintro (rfl | hOther)
      · exact hKey
      · exact hOther
    · exact Or.inr
  · intro hOffline
    exact absurd hKey (h.offline hOffline key)
  · exact h.agree
  · intro symbol channel hNew
    cases hAcked symbol channel hNew with
    | inl hOld =>
      obtain ⟨other, held, hHeld, hFor, hActive⟩ := h.acked symbol channel hOld
      refine ⟨other, held, hHeld, hFor, ?_⟩
      rw [Dictionary.get?_set, hActive, ite_self]
    | inr hFor => exact ⟨key, sub, hSub, hFor, Dictionary.get?_set_self⟩

end Slots

namespace FeedService

variable {service : FeedService} {now : Instant} {row : SubscriptionKey × KisWsSubscription}

/-! ### Reconciliation -/

open SlotsSound (activate free occupy withStates)

theorem Sound.retire (h : service.Sound)
    (hRow : ∀ sub, service.sessionSubscriptions.get? row.1 = some sub → row.2 = sub) :
    (service.retire row).Sound := by
  have hAcked : ∀ symbol channel, Acked (service.states.clearChannelAck row.2) symbol channel →
      Acked service.states symbol channel ∧ ∀ sub,
        service.sessionSubscriptions.get? row.1 = some sub → ¬ sub.IsFor symbol channel := by
    intro symbol channel hNew
    obtain ⟨hOld, hNot⟩ := acked_clearChannelAck hNew
    refine ⟨hOld, ?_⟩
    intro sub hSub
    rw [← hRow sub hSub]
    exact hNot
  unfold FeedService.retire
  dsimp only
  split
  next hHeld =>
    apply occupy h hHeld.1 _ hAcked
    apply h.agree.erase.set_right
    intro other hOther
    exact absurd rfl (Dictionary.get?_of_erase hOther).1
  next => exact free h h.agree.erase hAcked

/-- What a session records after a removal it recorded before, or is what was removed. -/
theorem agree_retire (h : Agree d service.sessionSubscriptions) (hRow : row ∈ d.rows) :
    Agree d (service.retire row).sessionSubscriptions := by
  have hFound : d.get? row.1 = some row.2 := Dictionary.mem_rows.mp hRow
  unfold FeedService.retire
  dsimp only
  split
  · apply h.set_right
    intro other hOther
    exact Option.some.inj (hOther.symm.trans hFound)
  · exact h.erase_right

section

variable (h : service.Sound)
include h

theorem Sound.retires {rows : List (SubscriptionKey × KisWsSubscription)}
    (hAgree : Agree d service.sessionSubscriptions) (hRows : ∀ row ∈ rows, row ∈ d.rows) :
    (rows.foldl FeedService.retire service).Sound := by
  induction rows generalizing service with
  | nil => exact h
  | cons row rows ih =>
    have hRow : row ∈ d.rows := hRows row List.mem_cons_self
    apply ih
    · apply h.retire
      intro sub hSub
      exact hAgree row.1 row.2 sub (Dictionary.mem_rows.mp hRow) hSub
    · exact agree_retire hAgree hRow
    · intro other hOther
      exact hRows other (List.mem_cons_of_mem row hOther)

theorem Sound.request {occupied : Nat} :
    (FeedService.request now (service, occupied) row).1.Sound := by
  unfold FeedService.request
  dsimp only
  split
  · exact h
  next hAbsent =>
    split
    · exact h
    next =>
      obtain ⟨hReplayed, hSlot⟩ := not_or.mp hAbsent
      have hNone : service.sessionSubscriptions.get? row.1 = none := by
        rw [Dictionary.get?_eq_none, ← h.recorded]
        exact hSlot
      split
      next hConnected =>
        apply occupy h hConnected
        · intro other first second hFirst hSecond
          rw [Dictionary.get?_set] at hFirst hSecond
          split at hFirst
          next hSame =>
            rw [if_pos hSame] at hSecond
            exact Option.some.inj (hFirst.symm.trans hSecond)
          next hne =>
            rw [if_neg hne] at hSecond
            exact h.agree other first second hFirst hSecond
        · intro symbol channel hNew
          refine ⟨(acked_markChannelRequested hNew).1, ?_⟩
          intro sub hSub
          rw [hNone] at hSub
          cases hSub
      next hOffline =>
        refine { h with agree := ?_ }
        intro other first second _ hSecond
        have hOther : other ∈ service.sessionSubscriptions := Dictionary.mem_of_get? hSecond
        exact absurd ((h.recorded other).mpr hOther)
          (h.offline (Bool.eq_false_of_not_eq_true hOffline) other)

theorem Sound.retireRemovals : service.retireRemovals.Sound := by
  have hStart : Sound { service with
      sessionNacked := service.sessionNacked.filter (· ∈ service.targetSubscriptions) } := h
  apply hStart.retires h.agree
  intro row hRow
  exact List.mem_of_mem_filter hRow

theorem Sound.reconcile : (service.reconcileSubscriptionTarget now).Sound := by
  have hStart : (service.retireRemovals, service.retireRemovals.occupied).1.Sound :=
    h.retireRemovals
  exact List.foldlRecOn (motive := fun state : FeedService × Nat => state.1.Sound) _ _ hStart
    (fun _ hState _ _ => Sound.request hState)

end

theorem acked_withCapacityRejection {fed : FeedChannel} {state : SymbolFeedState}
    (h : ((service.withCapacityRejection fed state).channel channel).acked = true) :
    (state.channel channel).acked = true := by
  by_cases hChannel : channel = fed
  · subst hChannel
    rw [withCapacityRejection, SymbolFeedState.channel_update_self] at h
    dsimp only at h
    split at h
    · cases h
    · exact h
  · rwa [withCapacityRejection, SymbolFeedState.channel_update_of_ne _ _ hChannel] at h

theorem Sound.refresh (h : service.Sound) : service.refreshCapacityRejections.Sound := by
  apply withStates h
  intro symbol channel hNew
  apply acked_mapValues _ hNew
  intro name state hAcked
  exact acked_withCapacityRejection (acked_withCapacityRejection hAcked)

theorem acked_configureChannel {desired : Bool} {error : String} {feed : ChannelFeedState}
    (h : (configureChannel desired error feed).acked = true) : feed.acked = true := by
  unfold configureChannel at h
  dsimp only at h
  split at h
  · exact h
  · cases h

theorem Sound.rebalance {resolver : SymbolKeyResolver} (h : service.Sound) :
    (service.rebalanceSubscriptions resolver now).Sound := by
  apply Sound.refresh
  apply Sound.reconcile
  apply withStates h
  intro symbol channel hNew
  have hDefaults : Acked ((service.tradePriorities.keys ++ service.quotePriorities.keys).foldl
      (fun states symbol => states.setDefault symbol { symbol := symbol }) service.states)
      symbol channel := by
    apply acked_mapValues _ hNew
    intro name state hAcked
    cases channel
    all_goals exact acked_configureChannel hAcked
  exact List.foldlRecOn (motive := fun states : FeedStates =>
    Acked states symbol channel → Acked service.states symbol channel) _ _ id
    (fun _ hStates _ _ hAcked => hStates (acked_setDefault hAcked)) hDefaults

/-! ### Acknowledgements and connections -/

section

variable (h : service.Sound)
include h

theorem Sound.noteSessionConflict : (service.noteSessionConflict now frame).Sound := by
  unfold FeedService.noteSessionConflict
  split
  · exact h
  · split
    · exact h
    · exact h

section

variable (hSub : service.sessionSubscriptions.get? key = some sub)
include hSub

theorem Sound.releaseSlot : (service.releaseSlot now key sub).Sound := by
  apply Sound.refresh
  apply Sound.reconcile
  apply free h h.agree
  intro symbol channel hNew
  obtain ⟨hOld, hNot⟩ := acked_clearChannelAck hNew
  refine ⟨hOld, ?_⟩
  intro other hOther
  rw [← Option.some.inj (hSub.symm.trans hOther)]
  exact hNot

theorem Sound.keepSlot : (service.keepSlot key sub frame).Sound := by
  apply Sound.refresh
  apply activate h hSub
  intro symbol channel hNew
  exact Or.inl (acked_recordSubscriptionError hNew)

theorem Sound.acknowledgeSlot : (service.acknowledgeSlot key sub).Sound :=
  activate h hSub (fun _ _ hNew => acked_recordSubscriptionAck hNew)

theorem Sound.rejectSlot : (service.rejectSlot now key sub frame).Sound := by
  apply Sound.refresh
  apply Sound.reconcile
  apply free h h.agree.erase
  intro symbol channel hNew
  obtain ⟨hOld, hNot⟩ := acked_clearChannelAck (acked_recordSubscriptionError hNew)
  refine ⟨hOld, ?_⟩
  intro other hOther
  rw [← Option.some.inj (hSub.symm.trans hOther)]
  exact hNot

end

theorem Sound.retainEarlyAck : (service.retainEarlyAck frame).Sound := by
  unfold FeedService.retainEarlyAck
  split
  · exact h
  · exact h

theorem Sound.onAck : (service.onAck now frame).Sound := by
  have hNoted : (service.noteSessionConflict now frame).Sound := h.noteSessionConflict
  unfold FeedService.onAck
  dsimp only
  split
  next hSub _ =>
    split
    · split
      · exact hNoted.releaseSlot hSub
      · exact hNoted.keepSlot hSub
    · split
      · exact hNoted.acknowledgeSlot hSub
      · exact hNoted.rejectSlot hSub
  next => exact hNoted.retainEarlyAck

end

/-- After the states of a connection nothing counts as acknowledged. -/
theorem not_acked_connectionState {states : FeedStates} {connected : Bool} {generation : Int}
    {symbol : String} :
    ¬ Acked (states.mapValues (fun _ => connectionState connected generation)) symbol
      channel := by
  rintro ⟨state, hState, hAcked⟩
  rw [Dictionary.get?_mapValues] at hState
  obtain ⟨old, -, rfl⟩ := Option.map_eq_some_iff.mp hState
  unfold connectionState at hAcked
  dsimp only at hAcked
  split at hAcked
  · cases channel
    all_goals cases hAcked
  · split at hAcked
    all_goals
      cases channel
      all_goals cases hAcked

theorem sound_openSession (connected : Bool) (generation : Int) :
    (service.openSession connected generation now).Sound := by
  unfold openSession
  dsimp only
  split
  next hConnected =>
    apply Sound.refresh
    apply Sound.reconcile
    constructor
    · intro key
      exact Dictionary.mem_mapValues
    · intro hOffline
      have hBoth : true = false := hConnected.symm.trans hOffline
      cases hBoth
    · intro key first second hFirst hSecond
      exact Option.some.inj (hFirst.symm.trans hSecond)
    · intro symbol channel hNew
      have hUnmarked : Acked (service.states.mapValues
          (fun _ => connectionState connected generation)) symbol channel :=
        List.foldlRecOn (motive := fun states : FeedStates => Acked states symbol channel →
          Acked (service.states.mapValues (fun _ => connectionState connected generation))
            symbol channel) _ _ id
          (fun _ hStates _ _ hAcked => hStates (acked_markChannelRequested hAcked).1) hNew
      exact absurd hUnmarked not_acked_connectionState
  next =>
    apply Sound.refresh
    constructor
    · intro key
      exact Iff.rfl
    · intro _ key
      exact Dictionary.not_mem_empty
    · intro key first second _ hSecond
      cases hSecond
    · intro symbol channel hNew
      exact absurd hNew not_acked_connectionState

end FeedService

end QuantApp.Services
