import QuantApp.Services.FeedSessions
import QuantApp.Verified.LabelledRuns

/-!
# The capacity of the realtime feed

Runs of configurations, connections and acknowledgements.  The slots stay within the
capacity, and a key rejected in a session out of it, as long as every step meets
`MeetsSession`: an accepted unsubscribe is for a subscription that is no longer
replayed, and no target names again a rejected key that an earlier one left out.  The
service checks neither.  An accepted unsubscribe frees the slot of a subscription that
stays in the replayed set, whose place another one takes; and a target without the
rejected key makes the service forget the rejection.
-/

namespace QuantApp.Services

open Core Verified

variable {resolver : SymbolKeyResolver} {frame : KisWsSystemFrame} {now : Instant}
  {rejected nacked : List SubscriptionKey} {connected : Bool}
  {target : Dictionary SubscriptionKey KisWsSubscription}
  {status : Dictionary SubscriptionKey SubscriptionSessionStatus} {key : SubscriptionKey}
  {state : FeedService × Nat} {call : FeedCall}

/-! ## What the capacity needs -/

/-- Neither the slots nor what would be replayed into a new session exceed the capacity. -/
structure WithinCapacity (total : Nat) (connected : Bool)
    (replayed : Dictionary SubscriptionKey KisWsSubscription)
    (status : Dictionary SubscriptionKey SubscriptionSessionStatus) : Prop where
  slots : status.size ≤ total
  replay : replayed.size ≤ total
  covered : connected = true → ∀ key, key ∈ replayed → key ∈ status

structure FeedService.Within (total : Nat) (service : FeedService) : Prop where
  capacity : service.totalCapacity = total
  tables : WithinCapacity total service.connected service.activeSubscriptions
    service.sessionStatus

section Capacity

variable {total : Nat} {connected : Bool}
  {replayed : Dictionary SubscriptionKey KisWsSubscription}
  {status : Dictionary SubscriptionKey SubscriptionSessionStatus} {key : SubscriptionKey}
  {sub : KisWsSubscription} {mark : SubscriptionSessionStatus}

section

variable (h : WithinCapacity total connected replayed status)
include h

theorem WithinCapacity.free :
    WithinCapacity total connected (replayed.erase key) (status.erase key) := by
  constructor
  · exact Nat.le_trans Dictionary.size_erase_le h.slots
  · exact Nat.le_trans Dictionary.size_erase_le h.replay
  · intro hConnected other hOther
    obtain ⟨hne, hReplayed⟩ := Dictionary.mem_erase.mp hOther
    exact Dictionary.mem_erase.mpr ⟨hne, h.covered hConnected other hReplayed⟩

/-- The slot of a subscription that is not replayed is freed. -/
theorem WithinCapacity.release (hReplayed : key ∉ replayed) :
    WithinCapacity total connected replayed (status.erase key) := by
  constructor
  · exact Nat.le_trans Dictionary.size_erase_le h.slots
  · exact h.replay
  · intro hConnected other hOther
    refine Dictionary.mem_erase.mpr ⟨?_, h.covered hConnected other hOther⟩
    intro hSame
    rw [hSame] at hOther
    exact hReplayed hOther

theorem WithinCapacity.remark (hKey : key ∈ status) :
    WithinCapacity total connected replayed (status.set key mark) := by
  constructor
  · rw [Dictionary.size_set_of_mem hKey]
    exact h.slots
  · exact h.replay
  · intro hConnected other hOther
    exact Dictionary.mem_set.mpr (Or.inr (h.covered hConnected other hOther))

theorem WithinCapacity.forget : WithinCapacity total connected (replayed.erase key) status := by
  constructor
  · exact h.slots
  · exact Nat.le_trans Dictionary.size_erase_le h.replay
  · intro hConnected other hOther
    exact h.covered hConnected other (Dictionary.mem_erase.mp hOther).2

end

theorem WithinCapacity.take (h : WithinCapacity total true replayed status)
    (hKey : key ∉ status) (hFree : status.size < total) :
    WithinCapacity total true (replayed.set key sub) (status.set key mark) := by
  have hSlots : (status.set key mark).size ≤ total := by
    rw [Dictionary.size_set_of_not_mem hKey]
    exact hFree
  have hCovered : ∀ other, other ∈ replayed.set key sub → other ∈ status.set key mark := by
    intro other hOther
    cases Dictionary.mem_set.mp hOther with
    | inl hSame => exact Dictionary.mem_set.mpr (Or.inl hSame)
    | inr hOld => exact Dictionary.mem_set.mpr (Or.inr (h.covered rfl other hOld))
  constructor
  · exact hSlots
  · exact Nat.le_trans (Dictionary.size_le_of_subset hCovered) hSlots
  · intro _
    exact hCovered

/-- Without a connection a subscription is only noted for the next one. -/
theorem WithinCapacity.note (h : WithinCapacity total false replayed status)
    (hKey : key ∉ replayed) (hFree : replayed.size < total) :
    WithinCapacity total false (replayed.set key sub) status := by
  constructor
  · exact h.slots
  · rw [Dictionary.size_set_of_not_mem hKey]
    exact hFree
  · intro hConnected
    cases hConnected

end Capacity

namespace FeedService

variable {total : Nat} {service : FeedService} {now : Instant}
  {row : SubscriptionKey × KisWsSubscription}

variable (h : service.Within total)
include h

theorem Within.retire : (service.retire row).Within total := by
  unfold FeedService.retire
  dsimp only
  split
  next hHeld => exact ⟨h.capacity, h.tables.forget.remark hHeld.2⟩
  next => exact ⟨h.capacity, h.tables.free⟩

/-- The counter of the second loop counts what it is named for. -/
theorem Within.request :
    (FeedService.request now (service, service.occupied) row).1.Within total ∧
      (FeedService.request now (service, service.occupied) row).2 =
        (FeedService.request now (service, service.occupied) row).1.occupied := by
  unfold FeedService.request
  dsimp only
  split
  · exact ⟨h, rfl⟩
  next hAbsent =>
    obtain ⟨hReplayed, hSlot⟩ := not_or.mp hAbsent
    split
    · exact ⟨h, rfl⟩
    next hRefused =>
      have hFree : service.occupied < total := by
        rw [← h.capacity]
        exact Nat.lt_of_not_le (not_or.mp hRefused).2
      have hTables := h.tables
      unfold occupied at hFree ⊢
      cases hConnected : service.connected with
      | true =>
        rw [hConnected] at hFree hTables
        refine ⟨⟨h.capacity, ?_⟩, ?_⟩
        · simpa [hConnected] using hTables.take hSlot hFree
        · simp [Dictionary.size_set_of_not_mem hSlot]
      | false =>
        rw [hConnected] at hFree hTables
        refine ⟨⟨h.capacity, ?_⟩, ?_⟩
        · simpa [hConnected] using hTables.note hReplayed hFree
        · simp [Dictionary.size_set_of_not_mem hReplayed]

theorem Within.retireRemovals : service.retireRemovals.Within total := by
  have hStart : Within total { service with
      sessionNacked := service.sessionNacked.filter (· ∈ service.targetSubscriptions) } :=
    ⟨h.capacity, h.tables⟩
  exact List.foldlRecOn _ _ hStart (fun _ hState _ _ => Within.retire hState)

theorem Within.reconcile : (service.reconcileSubscriptionTarget now).Within total := by
  have hEnd := List.foldlRecOn (motive := fun state : FeedService × Nat =>
    state.1.Within total ∧ state.2 = state.1.occupied)
    service.retireRemovals.targetSubscriptions.rows (FeedService.request now)
    (b := (service.retireRemovals, service.retireRemovals.occupied)) ⟨h.retireRemovals, rfl⟩
    (fun state hState _ _ => by
      have hPair : state = (state.1, state.1.occupied) := by
        rw [← hState.2]
      rw [hPair]
      exact hState.1.request)
  exact ⟨hEnd.1.capacity, hEnd.1.tables⟩

theorem Within.refresh : service.refreshCapacityRejections.Within total := ⟨h.capacity, h.tables⟩

theorem Within.rebalance : (service.rebalanceSubscriptions resolver now).Within total := by
  apply Within.refresh
  apply Within.reconcile
  exact ⟨h.capacity, h.tables⟩

/-- An acknowledgement that does not free the slot of a replayed subscription. -/
theorem Within.onAck
    (hReplayed : frame.isUnsubscribe = true → frame.accepted = true →
      frame.key ∈ service.sessionStatus → frame.key ∉ service.activeSubscriptions) :
    (service.onAck now frame).Within total := by
  have hNoted : (service.noteSessionConflict now frame).Within total := by
    unfold FeedService.noteSessionConflict
    split
    · exact ⟨h.capacity, h.tables⟩
    · split
      · exact ⟨h.capacity, h.tables⟩
      · exact h
  have hTables : (service.noteSessionConflict now frame).activeSubscriptions =
      service.activeSubscriptions ∧ (service.noteSessionConflict now frame).sessionStatus =
        service.sessionStatus := by
    unfold FeedService.noteSessionConflict
    split
    · exact ⟨rfl, rfl⟩
    · split
      all_goals exact ⟨rfl, rfl⟩
  rw [← hTables.1, ← hTables.2] at hReplayed
  unfold FeedService.onAck
  dsimp only
  split
  next hStatus =>
    have hKey := Dictionary.mem_of_get? hStatus
    split
    next hUnsubscribe =>
      split
      next hAccepted =>
        apply Within.refresh
        apply Within.reconcile
        exact ⟨hNoted.capacity, hNoted.tables.release (hReplayed hUnsubscribe hAccepted hKey)⟩
      next =>
        apply Within.refresh
        exact ⟨hNoted.capacity, hNoted.tables.remark hKey⟩
    next =>
      split
      next => exact ⟨hNoted.capacity, hNoted.tables.remark hKey⟩
      next =>
        apply Within.refresh
        apply Within.reconcile
        exact ⟨hNoted.capacity, hNoted.tables.free⟩
  next =>
    unfold FeedService.retainEarlyAck
    split
    · exact ⟨hNoted.capacity, hNoted.tables⟩
    · exact hNoted

theorem Within.openSession (connected : Bool) (generation : Int) :
    (service.openSession connected generation now).Within total := by
  unfold FeedService.openSession
  dsimp only
  split
  next =>
    apply Within.refresh
    apply Within.reconcile
    refine ⟨h.capacity, ?_, h.tables.replay, ?_⟩
    · show (Dictionary.mapValues _ service.activeSubscriptions).size ≤ total
      rw [Dictionary.size_mapValues]
      exact h.tables.replay
    · intro _ key hKey
      exact Dictionary.mem_mapValues.mpr hKey
  next hOffline =>
    apply Within.refresh
    refine ⟨h.capacity, Nat.zero_le total, h.tables.replay, ?_⟩
    intro hConnected
    exact absurd hConnected hOffline

end FeedService

/-! ## What the ban on rejected keys needs -/

/-- No rejected key has a slot, and a connected service that wants one knows of its
rejection. -/
def Banned (rejected : List SubscriptionKey) (connected : Bool)
    (target : Dictionary SubscriptionKey KisWsSubscription) (nacked : List SubscriptionKey)
    (status : Dictionary SubscriptionKey SubscriptionSessionStatus) : Prop :=
  ∀ key ∈ rejected, key ∉ status ∧ (connected = true → key ∈ target → key ∈ nacked)

theorem Banned.remark {mark : SubscriptionSessionStatus}
    (h : Banned rejected connected target nacked status) (hKey : key ∈ status) :
    Banned rejected connected target nacked (status.set key mark) := by
  intro other hOther
  obtain ⟨hSlot, hKnown⟩ := h other hOther
  refine ⟨?_, hKnown⟩
  intro hNew
  cases Dictionary.mem_set.mp hNew with
  | inl hSame =>
    rw [hSame] at hSlot
    exact hSlot hKey
  | inr hOld => exact hSlot hOld

theorem Banned.free (h : Banned rejected connected target nacked status) :
    Banned rejected connected target nacked (status.erase key) := by
  intro other hOther
  obtain ⟨hSlot, hKnown⟩ := h other hOther
  exact ⟨fun hNew => hSlot (Dictionary.mem_erase.mp hNew).2, hKnown⟩

def FeedService.NotRetried (rejected : List SubscriptionKey) (service : FeedService) : Prop :=
  Banned rejected service.connected service.targetSubscriptions service.sessionNacked
    service.sessionStatus

namespace FeedService

variable {rejected : List SubscriptionKey} {service : FeedService} {now : Instant}
  {row : SubscriptionKey × KisWsSubscription}

theorem NotRetried.retire (h : service.NotRetried rejected) :
    (service.retire row).NotRetried rejected := by
  unfold FeedService.retire
  dsimp only
  split
  next hHeld => exact Banned.remark h hHeld.2
  next => exact Banned.free h

theorem targetSubscriptions_request :
    (FeedService.request now state row).1.targetSubscriptions =
      state.1.targetSubscriptions := by
  unfold FeedService.request
  dsimp only
  split
  · rfl
  · split
    · rfl
    · split
      · rfl
      · rfl

theorem NotRetried.request (h : state.1.NotRetried rejected)
    (hRow : row ∈ state.1.targetSubscriptions.rows) :
    (FeedService.request now state row).1.NotRetried rejected := by
  have hTarget : row.1 ∈ state.1.targetSubscriptions := List.mem_map_of_mem hRow
  intro key hKey
  obtain ⟨hSlot, hKnown⟩ := h key hKey
  unfold FeedService.request
  dsimp only
  split
  · exact ⟨hSlot, hKnown⟩
  next =>
    split
    · exact ⟨hSlot, hKnown⟩
    next hRefused =>
      split
      next hConnected =>
        refine ⟨?_, hKnown⟩
        intro hNew
        cases Dictionary.mem_set.mp hNew with
        | inl hSame =>
          rw [hSame] at hKnown
          exact (not_or.mp hRefused).1 (hKnown hConnected hTarget)
        | inr hOld => exact hSlot hOld
      next => exact ⟨hSlot, hKnown⟩

section

variable (h : service.NotRetried rejected)
include h

theorem NotRetried.reconcile : (service.reconcileSubscriptionTarget now).NotRetried rejected := by
  have hFiltered : NotRetried rejected { service with
      sessionNacked := service.sessionNacked.filter (· ∈ service.targetSubscriptions) } := by
    intro key hKey
    obtain ⟨hSlot, hKnown⟩ := h key hKey
    refine ⟨hSlot, ?_⟩
    intro hConnected hTarget
    exact List.mem_filter.mpr ⟨hKnown hConnected hTarget, decide_eq_true hTarget⟩
  have hRetired : service.retireRemovals.NotRetried rejected :=
    List.foldlRecOn _ _ hFiltered (fun _ hState _ _ => NotRetried.retire hState)
  have hEnd := List.foldlRecOn (motive := fun state : FeedService × Nat =>
    state.1.NotRetried rejected ∧
      state.1.targetSubscriptions = service.retireRemovals.targetSubscriptions)
    service.retireRemovals.targetSubscriptions.rows (FeedService.request now)
    (b := (service.retireRemovals, service.retireRemovals.occupied)) ⟨hRetired, rfl⟩
    (fun state hState row hRow => by
      rw [← hState.2] at hRow
      exact ⟨hState.1.request hRow, targetSubscriptions_request.trans hState.2⟩)
  exact hEnd.1

theorem NotRetried.refresh :
    service.refreshCapacityRejections.NotRetried rejected := h

theorem NotRetried.rebalance
    (hTarget : service.connected = true → ∀ key ∈ rejected, key ∈ service.resolvedTarget resolver →
      key ∈ service.sessionNacked) :
    (service.rebalanceSubscriptions resolver now).NotRetried rejected := by
  have hStart : (service.retarget resolver).NotRetried rejected := by
    intro key hKey
    exact ⟨(h key hKey).1, fun hConnected hNew => hTarget hConnected key hKey hNew⟩
  exact hStart.reconcile.refresh

end

/-- The acknowledgement rejects a subscription that has a slot. -/
def rejects (service : FeedService) (frame : KisWsSystemFrame) : Prop :=
  frame.isUnsubscribe = false ∧ frame.accepted = false ∧ frame.key ∈ service.sessionStatus

instance (service : FeedService) (frame : KisWsSystemFrame) : Decidable (service.rejects frame) :=
  inferInstanceAs (Decidable (_ ∧ _ ∧ _))

/-- The keys rejected in the session after an acknowledgement. -/
def rejectedAfter (rejected : List SubscriptionKey) (service : FeedService)
    (frame : KisWsSystemFrame) : List SubscriptionKey :=
  if service.rejects frame then frame.key :: rejected else rejected

theorem NotRetried.onAck (h : service.NotRetried rejected) (hSound : service.Sound) :
    (service.onAck now frame).NotRetried (rejectedAfter rejected service frame) := by
  have hNoted : (service.noteSessionConflict now frame).NotRetried rejected := by
    unfold FeedService.noteSessionConflict
    split
    · exact h
    · split
      all_goals exact h
  have hRejected : rejectedAfter rejected service frame =
      rejectedAfter rejected (service.noteSessionConflict now frame) frame := by
    unfold FeedService.noteSessionConflict
    split
    · rfl
    · split
      · rfl
      · rfl
  have hNotedSound : (service.noteSessionConflict now frame).Sound := hSound.noteSessionConflict
  rw [hRejected]
  unfold FeedService.onAck
  dsimp only
  generalize service.noteSessionConflict now frame = noted at hNoted hNotedSound ⊢
  split
  next hStatus =>
    have hKey := Dictionary.mem_of_get? hStatus
    split
    next hUnsubscribe =>
      have hNone : ¬ noted.rejects frame :=
        fun hRejects => Bool.false_ne_true (hRejects.1.symm.trans hUnsubscribe)
      rw [rejectedAfter, if_neg hNone]
      split
      next =>
        apply NotRetried.refresh
        apply NotRetried.reconcile
        exact Banned.free hNoted
      next =>
        apply NotRetried.refresh
        exact Banned.remark hNoted hKey
    next hSubscribe =>
      split
      next hAccepted =>
        have hNone : ¬ noted.rejects frame :=
          fun hRejects => Bool.false_ne_true (hRejects.2.1.symm.trans hAccepted)
        rw [rejectedAfter, if_neg hNone]
        exact Banned.remark hNoted hKey
      next hRefused =>
        rw [rejectedAfter, if_pos ⟨Bool.eq_false_of_not_eq_true hSubscribe,
          Bool.eq_false_of_not_eq_true hRefused, hKey⟩]
        apply NotRetried.refresh
        apply NotRetried.reconcile
        intro key hRejected
        cases List.mem_cons.mp hRejected with
        | inl hSame =>
          refine ⟨fun hNew => (Dictionary.mem_erase.mp hNew).1 hSame, ?_⟩
          intro _ _
          rw [hSame]
          exact List.mem_insert_self
        | inr hOld =>
          obtain ⟨hSlot, hKnown⟩ := hNoted key hOld
          refine ⟨fun hNew => hSlot (Dictionary.mem_erase.mp hNew).2, ?_⟩
          intro hConnected hTarget
          exact List.mem_insert_of_mem (hKnown hConnected hTarget)
  next hNoSlot =>
    have hNone : ¬ noted.rejects frame := by
      intro hRejects
      obtain ⟨status, hStatus⟩ := Dictionary.exists_get? hRejects.2.2
      obtain ⟨sub, hSub⟩ :=
        Dictionary.exists_get? ((hNotedSound.recorded frame.key).mp hRejects.2.2)
      exact hNoSlot sub status hSub hStatus
    rw [rejectedAfter, if_neg hNone]
    unfold FeedService.retainEarlyAck
    split
    all_goals exact hNoted

end FeedService

/-! ## Runs -/

/-- The feed, and the keys whose subscription was rejected since the last connection. -/
structure FeedWorld where
  service : FeedService
  rejected : List SubscriptionKey

inductive FeedCall where
  | configure (configuration : FeedConfiguration) (resolver : SymbolKeyResolver) (now : Instant)
  | connection (connected : Bool) (generation : Int) (now : Instant)
  | ack (now : Instant) (frame : KisWsSystemFrame)

/-- What a call does to the service. -/
def FeedCall.run (service : FeedService) : FeedCall → FeedService
  | .configure configuration resolver now => service.configure configuration resolver now
  | .connection connected generation now => service.onConnection connected generation now
  | .ack now frame => service.onAck now frame

namespace FeedWorld

variable {total : Nat} {world : FeedWorld}

def receive (now : Instant) (world : FeedWorld) (frame : KisWsSystemFrame) : FeedWorld where
  service := world.service.onAck now frame
  rejected := world.service.rejectedAfter world.rejected frame

/-- A connection before its early acknowledgements.  A new session owes nothing to the
rejections of the old one. -/
def opened (connected : Bool) (generation : Int) (now : Instant) (world : FeedWorld) :
    FeedWorld where
  service := world.service.openSession connected generation now
  rejected := if connected then [] else world.rejected

def next (world : FeedWorld) : FeedCall → FeedWorld
  | .configure configuration resolver now =>
    { world with service := world.service.configure configuration resolver now }
  | .connection connected generation now =>
    (world.service.earlyAcks connected).foldl (receive now)
      (world.opened connected generation now)
  | .ack now frame => world.receive now frame

theorem next_service (call : FeedCall) : (world.next call).service = call.run world.service := by
  have hReceive : ∀ (now : Instant) (frames : List KisWsSystemFrame) (world : FeedWorld),
      (frames.foldl (receive now) world).service =
        frames.foldl (FeedService.onAck now) world.service := by
    intro now frames
    induction frames with
    | nil =>
      intro world
      rfl
    | cons frame frames ih =>
      intro world
      exact ih (world.receive now frame)
  cases call with
  | configure | ack => rfl
  | connection connected generation now => exact hReceive now _ _

/-- What holds of the world in a run that respects the session. -/
structure Kept (total : Nat) (world : FeedWorld) : Prop where
  sound : world.service.Sound
  within : world.service.Within total
  notRetried : world.service.NotRetried world.rejected

theorem Kept.receive (h : world.Kept total)
    (hReplayed : frame.isUnsubscribe = true → frame.accepted = true →
      frame.key ∈ world.service.sessionStatus → frame.key ∉ world.service.activeSubscriptions) :
    (world.receive now frame).Kept total where
  sound := h.sound.onAck
  within := h.within.onAck hReplayed
  notRetried := h.notRetried.onAck h.sound

theorem Kept.opened (h : world.Kept total) (connected : Bool) (generation : Int) :
    (world.opened connected generation now).Kept total where
  sound := FeedService.sound_openSession connected generation
  within := h.within.openSession connected generation
  notRetried := by
    cases connected with
    | true =>
      intro key hKey
      cases hKey
    | false =>
      intro key _
      exact ⟨Dictionary.not_mem_empty, fun hConnected => absurd hConnected Bool.false_ne_true⟩

end FeedWorld

/-- An accepted unsubscribe frees no slot of a subscription the service still replays, and no
target of a connected service names a rejected key it has forgotten. -/
def MeetsSession (world : FeedWorld) : FeedCall → Prop
  | .configure configuration resolver _ =>
    let configured := configuration.apply world.service
    configured.connected = true → ∀ key ∈ world.rejected,
      key ∈ configured.resolvedTarget resolver → key ∈ configured.sessionNacked
  | .connection _ _ _ => True
  | .ack _ frame =>
    frame.isUnsubscribe = true → frame.accepted = true →
      frame.key ∈ world.service.sessionStatus → frame.key ∉ world.service.activeSubscriptions

/-- One call, as a step. -/
def FeedCallStep (world : FeedWorld) (call : FeedCall) (after : FeedWorld) : Prop :=
  after = world.next call

/-- The subscriptions respect the session and its capacity. -/
structure RespectsSession (total : Nat) (world : FeedWorld) : Prop where
  slots : world.service.sessionStatus.size ≤ total
  recorded : ∀ key, key ∈ world.service.sessionStatus → key ∈ world.service.sessionSubscriptions
  notRetried : ∀ key ∈ world.rejected, key ∉ world.service.sessionStatus
  acked : ∀ symbol channel, Acked world.service.states symbol channel →
    world.service.connected = true ∧
      AckedSlot world.service.sessionSubscriptions world.service.sessionStatus symbol channel

namespace FeedWorld

variable {total : Nat} {world : FeedWorld}

theorem Kept.respects (h : world.Kept total) : RespectsSession total world where
  slots := h.within.tables.slots
  recorded key hKey := (h.sound.recorded key).mp hKey
  notRetried key hKey := (h.notRetried key hKey).1
  acked symbol channel hAcked := by
    have hSlot := h.sound.acked symbol channel hAcked
    obtain ⟨key, sub, hSub, hRest⟩ := hSlot
    have hKey := (h.sound.recorded key).mpr (Dictionary.mem_of_get? hSub)
    refine ⟨?_, key, sub, hSub, hRest⟩
    by_contra hOffline
    exact h.sound.offline (Bool.eq_false_of_not_eq_true hOffline) key hKey

theorem sound_next (h : world.service.Sound) : (world.next call).service.Sound := by
  rw [next_service]
  cases call with
  | configure configuration =>
    apply FeedService.Sound.rebalance
    cases configuration
    all_goals exact h
  | connection connected generation =>
    exact List.foldlRecOn _ _ (FeedService.sound_openSession connected generation)
      (fun _ hBetween _ _ => FeedService.Sound.onAck hBetween)
  | ack => exact h.onAck

theorem Kept.next (h : world.Kept total) (hMeets : MeetsSession world call) :
    (world.next call).Kept total := by
  cases call with
  | configure configuration =>
    have hApplied : (configuration.apply world.service).Within total ∧
        (configuration.apply world.service).NotRetried world.rejected := by
      cases configuration
      all_goals exact ⟨⟨h.within.capacity, h.within.tables⟩, h.notRetried⟩
    exact
      { sound := sound_next h.sound
        within := hApplied.1.rebalance
        notRetried := hApplied.2.rebalance hMeets }
  | connection connected generation =>
    apply List.foldlRecOn (motive := Kept total) _ _ (h.opened connected generation)
    intro between hBetween frame hFrame
    apply hBetween.receive
    intro hUnsubscribe
    -- an early acknowledgement is not one of an unsubscribe
    unfold FeedService.earlyAcks at hFrame
    split at hFrame
    · obtain ⟨early, -, rfl⟩ := List.mem_map.mp hFrame
      exact absurd (early.2.symm.trans hUnsubscribe) Bool.false_ne_true
    · cases hFrame
  | ack => exact h.receive hMeets

end FeedWorld

theorem kept_create {trade quote : Int} {total : Option Int} {notice : Option KisWsSubscription}
    {start : FeedService}
    (h : FeedService.create trade quote total notice resolver now = .ok start) :
    FeedWorld.Kept start.totalCapacity ⟨start, []⟩ := by
  unfold FeedService.create at h
  dsimp only at h
  split at h
  · cases h
  · generalize FeedService.aggregateCapacity _ _ _ _ = capacity at h
    have hSound : (FeedService.initial (max 0 trade).toNat (max 0 quote).toNat capacity
        notice).Sound := by
      constructor
      · intro key
        exact Iff.rfl
      · intro _ key
        exact Dictionary.not_mem_empty
      · intro key first second hFirst
        cases hFirst
      · rintro symbol channel ⟨state, hState, -⟩
        cases hState
    have hWithin : (FeedService.initial (max 0 trade).toNat (max 0 quote).toNat capacity
        notice).Within capacity :=
      ⟨rfl, Nat.zero_le capacity, Nat.zero_le capacity, nofun⟩
    have hStart : start.Within capacity := by
      cases h
      exact hWithin.rebalance
    rw [hStart.capacity]
    constructor
    · cases h
      exact hSound.rebalance
    · exact hStart
    · intro key hKey
      cases hKey

/-- Over every run of configurations, connections and acknowledgements that meets
`MeetsSession`, the feed respects the session and its capacity. -/
theorem feed_subscriptions_respect_session {trade quote : Int} {total : Option Int}
    {notice : Option KisWsSubscription} {resolver : SymbolKeyResolver} {now : Instant}
    {start : FeedService} {world : FeedWorld}
    (hCreate : FeedService.create trade quote total notice resolver now = .ok start)
    (hRun : RunWith FeedCallStep MeetsSession ⟨start, []⟩ world) :
    RespectsSession start.totalCapacity world := by
  apply FeedWorld.Kept.respects
  apply RunWith.invariant (I := FeedWorld.Kept start.totalCapacity) hRun (kept_create hCreate)
  intro before call after hBefore hMeets hStep
  rw [hStep]
  exact hBefore.next hMeets

/-! ### A feed of one slot -/

def spyKeys : SymbolKeyResolver := fun symbol _ => .ok ("DAMS" ++ symbol)

def orderNotice : KisWsSubscription := { trId := "H0GSCNI0", trKey := "hts" }

def spyTrade : KisWsSubscription :=
  { trId := tradeTrId, trKey := "DAMSSPY", symbol := "SPY", channel := "TRADE" }

/-- A new feed whose session has one slot, for the trades of one symbol at most. -/
def singleSlot (notice : Option KisWsSubscription) : FeedService :=
  (FeedService.initial 1 0 1 notice).rebalanceSubscriptions spyKeys 0

def wantSpy : FeedCall :=
  .configure (.configureDesiredChannels ((∅ : Priorities).set "SPY" 1) ∅) spyKeys 0

def wantNothing : FeedCall := .configure (.configureDesiredChannels ∅ ∅) spyKeys 0

def ackOf (sub : KisWsSubscription) (accepted isUnsubscribe : Bool) : FeedCall :=
  .ack 0 { trId := sub.trId, trKey := sub.trKey, accepted := accepted
           isUnsubscribe := isUnsubscribe }

theorem feed_subscriptions_respect_session_acked :
    RespectsSession 1
        (((FeedWorld.mk (singleSlot none) []).next wantSpy).next (.connection true 1 0) |>.next
          (ackOf spyTrade true false)) ∧
      (((FeedWorld.mk (singleSlot none) []).next wantSpy).next (.connection true 1 0) |>.next
        (ackOf spyTrade true false)).service.sessionStatus.get? spyTrade.key = some .active := by
  have hCreate : FeedService.create 1 0 (some 1) none spyKeys 0 = .ok (singleSlot none) := rfl
  constructor
  · apply feed_subscriptions_respect_session hCreate
    have hWanted : MeetsSession ⟨singleSlot none, []⟩ wantSpy :=
      fun _ key hKey => absurd hKey List.not_mem_nil
    have hAck : ∀ world, MeetsSession world (ackOf spyTrade true false) :=
      fun _ hUnsubscribe => absurd hUnsubscribe Bool.false_ne_true
    have hFirst : RunWith FeedCallStep MeetsSession ⟨singleSlot none, []⟩ _ :=
      (RunWith.refl _).step hWanted rfl
    have hSecond := hFirst.step (show MeetsSession _ (.connection true 1 0) from trivial) rfl
    exact hSecond.step (hAck _) rfl
  · decide

/-- In the first run the one slot goes to a key that was rejected in the session and left out
of a target since; in the second, an unsubscribe that was never asked for is accepted, and
the next session opens with two slots. -/
theorem session_not_respected :
    (∃ world, FeedService.create 1 0 (some 1) none spyKeys 0 = .ok (singleSlot none) ∧
      RunWith FeedCallStep (fun _ _ => True) ⟨singleSlot none, []⟩ world ∧
      spyTrade.key ∈ world.rejected ∧ spyTrade.key ∈ world.service.sessionStatus) ∧
    (∃ world, FeedService.create 1 0 (some 1) (some orderNotice) spyKeys 0 =
        .ok (singleSlot (some orderNotice)) ∧
      RunWith FeedCallStep (fun _ _ => True) ⟨singleSlot (some orderNotice), []⟩ world ∧
      world.service.sessionStatus.size = 2) := by
  have hRuns : ∀ (calls : List FeedCall) (start world : FeedWorld),
      runLabels (fun world call => some (world.next call)) (fun _ _ => true) calls start =
        some world → RunWith FeedCallStep (fun _ _ => True) start world := by
    intro calls start world h
    apply RunWith.of_labels _ _ h
    · intro before call after hNext
      exact (Option.some.inj hNext).symm
    · intro _ _ _
      trivial
  constructor
  · refine ⟨_, rfl, hRuns [wantSpy, .connection true 1 0, ackOf spyTrade false false,
      wantNothing, wantSpy] _ _ rfl, ?_, ?_⟩
    · decide
    · decide
  · refine ⟨_, rfl, hRuns [wantSpy, .connection true 1 0, ackOf orderNotice true true,
      .connection true 2 0] _ _ rfl, ?_⟩
    decide

end QuantApp.Services
