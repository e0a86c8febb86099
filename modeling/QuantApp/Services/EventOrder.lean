import QuantApp.Services.FeedEvents
import QuantApp.Verified.ExceptFold

/-!
# The order of accepted events

What holds of the accepted events of a feed after any sequence of trades, quotes, connections
and suppressions: the events of one channel come in the order of their broker times, their
confirmed sequence numbers grow within a session, and none repeats one of the last 4096.

The time cursor of a channel is at least every accepted time, and the sequence cursor at least
every number that has not been forgotten: that carries the induction.
-/

namespace QuantApp.Services

open Core Verified

variable {channel : FeedChannel} {quote : QuoteSnapshot}

/-- An accepted event, with the number of the session it came in. -/
structure AcceptedEvent where
  channel : FeedChannel
  quote : QuoteSnapshot
  session : Nat

def AcceptedEvent.key (event : AcceptedEvent) : FeedKey := event.quote.feedKey event.channel

def AcceptedEvent.identity (event : AcceptedEvent) : EventIdentity := event.quote.identity

/-- The sequence numbers of the two events are of one count: their channel is confirmed, and it
counts on over sessions or they came in one session. -/
structure CountedTogether (rules : EventRules) (earlier later : AcceptedEvent) : Prop where
  key : earlier.key = later.key
  confirmed : rules.confirms earlier.quote = true
  confirmedLater : rules.confirms later.quote = true
  session : earlier.session = later.session ∨ later.channel ∉ rules.resetChannels

inductive FeedArrival where
  | trade (quote : QuoteSnapshot)
  | quote (quote : QuoteSnapshot)
  | connection (connected : Bool)
  | suppress (symbol : String) (channel : FeedChannel) (suppressed : Bool)

/-- The intake, and what it has accepted. -/
structure EventHistory where
  intake : EventIntake := {}
  accepted : List AcceptedEvent := []
  session : Nat := 0

namespace EventHistory

/-- `ingest_trade` and `ingest_quote`, as far as they accept. -/
def receive (rules : EventRules) (history : EventHistory) (channel : FeedChannel)
    (quote : QuoteSnapshot) : EventHistory :=
  let answer := history.intake.acceptEvent rules channel quote
  { history with
    intake := answer.2
    accepted :=
      if answer.1 = .accepted then history.accepted ++ [⟨channel, quote, history.session⟩]
      else history.accepted }

def next (rules : EventRules) (history : EventHistory) : FeedArrival → EventHistory
  | .trade quote => history.receive rules .trade quote
  | .quote quote => history.receive rules .quote quote
  | .connection connected =>
    { history with
      intake := history.intake.onConnection rules connected
      session := if connected then history.session + 1 else history.session }
  | .suppress symbol channel suppressed =>
    { history with intake := history.intake.setSuppressed symbol channel suppressed }

def run (rules : EventRules) (events : List FeedArrival) : EventHistory :=
  events.foldl (next rules) {}

end EventHistory

/-! ## The verdict on one event -/

namespace EventIntake

variable {rules : EventRules} {intake : EventIntake} {channel : FeedChannel}
  {quote : QuoteSnapshot}

/-- An accepted event has failed no check and is no repetition. -/
theorem acceptEvent_accepted (h : (intake.acceptEvent rules channel quote).1 = .accepted) :
    intake.rejection rules channel quote = none ∧ quote.identity ∉ intake.recent.seen ∧
      (intake.acceptEvent rules channel quote).2 = intake.record rules channel quote := by
  unfold acceptEvent at h ⊢
  split at h
  · cases h
  next hAdmitted =>
    rw [if_neg hAdmitted]
    cases hCheck : intake.rejection rules channel quote with
    | some =>
      rw [hCheck] at h
      cases h
    | none =>
      rw [hCheck] at h
      dsimp only at h ⊢
      split at h
      · cases h
      next hNew =>
        rw [if_neg hNew]
        exact ⟨rfl, hNew, rfl⟩

/-- The cursors and the window of recent identities are the same. -/
structure SameCursors (before after : EventIntake) : Prop where
  lastTimestamp : after.lastTimestamp = before.lastTimestamp
  lastSequence : after.lastSequence = before.lastSequence
  recent : after.recent = before.recent

/-- An event that is not accepted leaves the cursors and the window alone. -/
theorem acceptEvent_unaccepted
    (h : (intake.acceptEvent rules channel quote).1 ≠ .accepted) :
    SameCursors intake (intake.acceptEvent rules channel quote).2 := by
  unfold acceptEvent at h ⊢
  split
  · exact ⟨rfl, rfl, rfl⟩
  next hAdmitted =>
    rw [if_neg hAdmitted] at h
    cases hCheck : intake.rejection rules channel quote with
    | some => exact ⟨rfl, rfl, rfl⟩
    | none =>
      rw [hCheck] at h
      dsimp only at h ⊢
      split
      · exact ⟨rfl, rfl, rfl⟩
      next hNew =>
        rw [if_neg hNew] at h
        exact absurd rfl h

theorem rejection_eq_none (h : intake.rejection rules channel quote = none) :
    (∀ time, intake.lastTimestamp.get? (quote.feedKey channel) = some time →
        time ≤ quote.brokerEventAt) ∧
      (rules.confirms quote = true → ∃ sequence, quote.sequence = some sequence ∧
        ∀ last, intake.lastSequence.get? (quote.feedKey channel) = some last →
          last < sequence) := by
  unfold rejection at h
  dsimp only at h
  split at h
  · cases h
  next hPresent =>
    split at h
    · cases h
    · split at h
      · cases h
      · split at h
        · cases h
        next hTime =>
          split at h
          · cases h
          next hSequence =>
            constructor
            · intro time hLast
              rw [hLast] at hTime
              simpa using hTime
            · intro hConfirmed
              cases hNumber : quote.sequence with
              | none => exact absurd ⟨hConfirmed, hNumber⟩ hPresent
              | some sequence =>
                refine ⟨sequence, rfl, ?_⟩
                intro last hLast
                rw [hNumber, hLast] at hSequence
                simpa [hConfirmed] using hSequence

end EventIntake

/-! ## What carries the induction -/

open AcceptedEvent (identity)

/-- The accepted events are in order and the cursors bound them. -/
structure EventHistory.Kept (rules : EventRules) (history : EventHistory) : Prop where
  times : history.accepted.Pairwise (fun earlier later => earlier.key = later.key →
    earlier.quote.brokerEventAt ≤ later.quote.brokerEventAt)
  sequences : history.accepted.Pairwise (fun earlier later => CountedTogether rules earlier later →
    ∃ m n, earlier.quote.sequence = some m ∧ later.quote.sequence = some n ∧ m < n)
  fresh : ∀ before event after, history.accepted = before ++ event :: after →
    event.identity ∉ (before.map AcceptedEvent.identity).rtake dedupWindow
  recorded : history.intake.recent.Records dedupWindow
    (history.accepted.map AcceptedEvent.identity)
  lastTime : ∀ event ∈ history.accepted, ∃ time,
    history.intake.lastTimestamp.get? event.key = some time ∧ event.quote.brokerEventAt ≤ time
  lastSequence : ∀ event ∈ history.accepted, rules.confirms event.quote = true →
    (event.session = history.session ∨ event.channel ∉ rules.resetChannels) →
      ∃ m n, event.quote.sequence = some m ∧
        history.intake.lastSequence.get? event.key = some n ∧ m ≤ n
  sessions : ∀ event ∈ history.accepted, event.session ≤ history.session

namespace EventHistory

variable {rules : EventRules} {history : EventHistory}

theorem Kept.withIntake (h : history.Kept rules) {intake : EventIntake}
    (hSame : EventIntake.SameCursors history.intake intake) :
    Kept rules { history with intake := intake } where
  times := h.times
  sequences := h.sequences
  fresh := h.fresh
  recorded := by
    show intake.recent.Records _ _
    rw [hSame.recent]
    exact h.recorded
  lastTime := by
    show ∀ event ∈ history.accepted, ∃ time, intake.lastTimestamp.get? event.key = some time ∧ _
    rw [hSame.lastTimestamp]
    exact h.lastTime
  lastSequence := by
    show ∀ event ∈ history.accepted, _ → _ → ∃ m n, _ ∧
      intake.lastSequence.get? event.key = some n ∧ _
    rw [hSame.lastSequence]
    exact h.lastSequence
  sessions := h.sessions

/-! ## An accepted event -/

/-- The event that is accepted next. -/
def nextEvent (history : EventHistory) (channel : FeedChannel) (quote : QuoteSnapshot) :
    AcceptedEvent :=
  ⟨channel, quote, history.session⟩

section

variable (h : history.Kept rules) (hCheck : history.intake.rejection rules channel quote = none)
include h hCheck

theorem Kept.times_append :
    (history.accepted ++ [history.nextEvent channel quote]).Pairwise
      (fun earlier later => earlier.key = later.key →
        earlier.quote.brokerEventAt ≤ later.quote.brokerEventAt) := by
  refine List.pairwise_append.mpr ⟨h.times, List.pairwise_singleton _ _, ?_⟩
  intro earlier hEarlier later hLater hKey
  rw [List.mem_singleton.mp hLater] at hKey ⊢
  obtain ⟨time, hTime, hLe⟩ := h.lastTime earlier hEarlier
  rw [hKey] at hTime
  exact hLe.trans ((EventIntake.rejection_eq_none hCheck).1 time hTime)

theorem Kept.sequences_append :
    (history.accepted ++ [history.nextEvent channel quote]).Pairwise
      (fun earlier later => CountedTogether rules earlier later →
        ∃ m n, earlier.quote.sequence = some m ∧ later.quote.sequence = some n ∧ m < n) := by
  refine List.pairwise_append.mpr ⟨h.sequences, List.pairwise_singleton _ _, ?_⟩
  intro earlier hEarlier later hLater hTogether
  rw [List.mem_singleton.mp hLater] at hTogether ⊢
  have hChannel : earlier.channel = channel := congrArg Prod.snd hTogether.key
  have hCounted : earlier.session = history.session ∨ earlier.channel ∉ rules.resetChannels := by
    rw [hChannel]
    exact hTogether.session
  obtain ⟨m, last, hNumber, hLast, hLe⟩ :=
    h.lastSequence earlier hEarlier hTogether.confirmed hCounted
  rw [hTogether.key] at hLast
  obtain ⟨sequence, hSequence, hAbove⟩ :=
    (EventIntake.rejection_eq_none hCheck).2 hTogether.confirmedLater
  exact ⟨m, sequence, hNumber, hSequence, lt_of_le_of_lt hLe (hAbove last hLast)⟩

end

theorem eq_append_singleton {α : Type} {xs before after : List α} {x y : α}
    (h : xs ++ [x] = before ++ y :: after) :
    (before = xs ∧ y = x) ∨ ∃ rest, xs = before ++ y :: rest := by
  rcases List.eq_nil_or_concat after with rfl | ⟨rest, last, rfl⟩
  · obtain ⟨hBefore, hLast⟩ := List.append_inj' h rfl
    exact .inl ⟨hBefore.symm, (List.cons.inj hLast).1.symm⟩
  · right
    refine ⟨rest, ?_⟩
    rw [List.concat_eq_append, ← List.cons_append, ← List.append_assoc] at h
    exact (List.append_inj' h rfl).1

section

variable (h : history.Kept rules)
include h

theorem Kept.fresh_append (hNew : quote.identity ∉ history.intake.recent.seen) :
    ∀ before event after,
      history.accepted ++ [history.nextEvent channel quote] = before ++ event :: after →
        event.identity ∉ (before.map identity).rtake dedupWindow := by
  intro before event after hSplit
  rcases eq_append_singleton hSplit with ⟨rfl, rfl⟩ | ⟨rest, hRest⟩
  · exact h.recorded.fresh hNew
  · exact h.fresh before event rest hRest

section

variable (hCheck : history.intake.rejection rules channel quote = none)
include hCheck

theorem Kept.lastTime_append :
    ∀ event ∈ history.accepted ++ [history.nextEvent channel quote], ∃ time,
      (history.intake.record rules channel quote).lastTimestamp.get? event.key = some time ∧
        event.quote.brokerEventAt ≤ time := by
  intro event hEvent
  show ∃ time, (history.intake.lastTimestamp.set (quote.feedKey channel)
    quote.brokerEventAt).get? event.key = some time ∧ _
  rw [Dictionary.get?_set]
  rcases List.mem_append.mp hEvent with hOld | hLast
  · obtain ⟨time, hTime, hLe⟩ := h.lastTime event hOld
    by_cases hKey : event.key = quote.feedKey channel
    · rw [if_pos hKey]
      rw [hKey] at hTime
      exact ⟨_, rfl, hLe.trans ((EventIntake.rejection_eq_none hCheck).1 time hTime)⟩
    · rw [if_neg hKey]
      exact ⟨time, hTime, hLe⟩
  · rw [List.mem_singleton.mp hLast]
    rw [if_pos (by rfl)]
    exact ⟨_, rfl, le_refl _⟩

theorem Kept.lastSequence_append :
    ∀ event ∈ history.accepted ++ [history.nextEvent channel quote],
      rules.confirms event.quote = true →
        (event.session = history.session ∨ event.channel ∉ rules.resetChannels) →
          ∃ m n, event.quote.sequence = some m ∧
            (history.intake.record rules channel quote).lastSequence.get? event.key = some n ∧
              m ≤ n := by
  intro event hEvent hConfirmed hCounted
  obtain ⟨_, hSequences⟩ := EventIntake.rejection_eq_none hCheck
  unfold EventIntake.record
  dsimp only
  rcases List.mem_append.mp hEvent with hOld | hLast
  · obtain ⟨m, last, hNumber, hLast, hLe⟩ := h.lastSequence event hOld hConfirmed hCounted
    refine ⟨m, ?_⟩
    cases hSequence : quote.sequence with
    | none => exact ⟨last, hNumber, hLast, hLe⟩
    | some sequence =>
      dsimp only
      by_cases hThis : rules.confirms quote = true
      · rw [if_pos hThis, Dictionary.get?_set]
        by_cases hKey : event.key = quote.feedKey channel
        · rw [if_pos hKey]
          rw [hKey] at hLast
          obtain ⟨number, hSame, hAbove⟩ := hSequences hThis
          rw [hSequence] at hSame
          cases hSame
          exact ⟨sequence, hNumber, rfl, hLe.trans (hAbove last hLast).le⟩
        · rw [if_neg hKey]
          exact ⟨last, hNumber, hLast, hLe⟩
      · rw [if_neg hThis]
        exact ⟨last, hNumber, hLast, hLe⟩
  · rw [List.mem_singleton.mp hLast] at hConfirmed ⊢
    obtain ⟨sequence, hSequence, _⟩ := hSequences hConfirmed
    have hThis : rules.confirms quote = true := hConfirmed
    refine ⟨sequence, sequence, hSequence, ?_, le_refl _⟩
    rw [hSequence]
    dsimp only
    rw [if_pos hThis]
    exact Dictionary.get?_set_self

end

theorem Kept.receive (channel : FeedChannel) (quote : QuoteSnapshot) :
    (history.receive rules channel quote).Kept rules := by
  unfold EventHistory.receive
  dsimp only
  by_cases hAccepted : (history.intake.acceptEvent rules channel quote).1 = .accepted
  · obtain ⟨hCheck, hNew, hIntake⟩ := EventIntake.acceptEvent_accepted hAccepted
    rw [if_pos hAccepted, hIntake]
    exact
      { times := h.times_append hCheck
        sequences := h.sequences_append hCheck
        fresh := h.fresh_append hNew
        recorded := by
          show (history.intake.recent.push dedupWindow quote.identity).Records dedupWindow
            ((history.accepted ++ [history.nextEvent channel quote]).map identity)
          rw [List.map_append]
          exact h.recorded.push (by decide) hNew
        lastTime := h.lastTime_append hCheck
        lastSequence := h.lastSequence_append hCheck
        sessions := by
          exact forall_mem_concat h.sessions (le_refl _) }
  · rw [if_neg hAccepted]
    exact h.withIntake (EventIntake.acceptEvent_unaccepted hAccepted)

/-- A connection keeps the order: a new session has no events yet, and only the numbers that
start again are forgotten. -/
theorem Kept.connect (connected : Bool) :
    (history.next rules (.connection connected)).Kept rules := by
  unfold EventHistory.next EventIntake.onConnection
  cases connected with
  | false => exact h.withIntake ⟨rfl, rfl, rfl⟩
  | true =>
    exact
      { h with
        lastSequence := by
          intro event hEvent hConfirmed hCounted
          have hOld := h.sessions event hEvent
          have hKeeps : event.channel ∉ rules.resetChannels := by
            rcases hCounted with hSession | hKeeps
            · have hNew : event.session = history.session + 1 := hSession
              omega
            · exact hKeeps
          obtain ⟨m, n, hNumber, hLast, hLe⟩ := h.lastSequence event hEvent hConfirmed (.inr hKeeps)
          refine ⟨m, n, hNumber, ?_, hLe⟩
          show (history.intake.lastSequence.filterKeys
            (fun key => !rules.resetChannels.contains key.2)).get? event.key = some n
          rw [Dictionary.get?_filterKeys, if_pos]
          · exact hLast
          · simpa [AcceptedEvent.key, QuoteSnapshot.feedKey] using hKeeps
        sessions := fun event hEvent => (h.sessions event hEvent).trans (Nat.le_succ _) }

theorem Kept.next (event : FeedArrival) : (history.next rules event).Kept rules := by
  cases event with
  | trade quote => exact h.receive .trade quote
  | quote quote => exact h.receive .quote quote
  | connection connected => exact h.connect connected
  | suppress => exact h.withIntake ⟨rfl, rfl, rfl⟩

end

theorem kept_run (rules : EventRules) (events : List FeedArrival) :
    (run rules events).Kept rules := by
  have hStart : ({} : EventHistory).Kept rules :=
    { times := .nil
      sequences := .nil
      fresh := by simp
      recorded := RecentWindow.records_nil
      lastTime := by simp
      lastSequence := by simp
      sessions := by simp }
  exact foldl_invariant (Kept rules) hStart (fun history event _ h => h.next event)

end EventHistory

/-! ## The order of a run -/

/-- The accepted events of a channel are in the order of their broker times, confirmed sequence
numbers grow within a session (and over sessions where no rule resets them), no identity of the
last 4096 is accepted again, the set of identities is that of the window, and an event that is
not accepted changes no cursor and no window. -/
structure AcceptedInOrder (rules : EventRules) (history : EventHistory) : Prop where
  times : history.accepted.Pairwise (fun earlier later => earlier.key = later.key →
    earlier.quote.brokerEventAt ≤ later.quote.brokerEventAt)
  sequences : history.accepted.Pairwise (fun earlier later => CountedTogether rules earlier later →
    ∃ m n, earlier.quote.sequence = some m ∧ later.quote.sequence = some n ∧ m < n)
  notRepeated : ∀ before event after, history.accepted = before ++ event :: after →
    event.identity ∉ (before.map AcceptedEvent.identity).rtake dedupWindow
  window : history.intake.recent.order =
    (history.accepted.map AcceptedEvent.identity).rtake dedupWindow
  seen : history.intake.recent.seen = history.intake.recent.order.toFinset
  unaccepted : ∀ channel quote,
    (history.intake.acceptEvent rules channel quote).1 ≠ .accepted →
      EventIntake.SameCursors history.intake (history.intake.acceptEvent rules channel quote).2

/-- Feed events are accepted in order and without duplicates, after every sequence of events. -/
theorem feed_events_accepted_in_order (rules : EventRules) (events : List FeedArrival) :
    AcceptedInOrder rules (EventHistory.run rules events) := by
  have hKept := EventHistory.kept_run rules events
  exact
    { times := hKept.times
      sequences := hKept.sequences
      notRepeated := hKept.fresh
      window := hKept.recorded.order
      seen := hKept.recorded.seen
      unaccepted := fun _ _ h => EventIntake.acceptEvent_unaccepted h }

end QuantApp.Services
