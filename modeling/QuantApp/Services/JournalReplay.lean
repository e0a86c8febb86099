import QuantApp.Services.JournalFold
import QuantApp.Services.PositionManager
import QuantApp.Services.SubmittedOnce

/-!
# Reconciling the emergency journal again

`reconcile_into_canonical` over a journal that the gateway has written and a database in
any state, such as the one a crash between the commits and the RECONCILED lines leaves, or
one in which the orders and the cards have moved on since.  The pending requests are folded
one transaction after the other, and the promise that none is applied twice holds exactly
in the runs whose every transaction meets a safe state (`reconcile_appliedOnce_iff`).
-/

namespace QuantApp.Services

open Core Verified Verified.Procedure

variable {entries : List JournalEntry} {world : GatewayWorld} {lines : List JournalLine}
  {database : CanonicalDatabase} {event : JournalEvent}

/-! ## Appending to a readable journal -/

/-- The sequence the next entry has to exceed. -/
def sequenceAfter (prior : Int) : List JournalEntry → Int
  | [] => prior
  | entry :: entries => sequenceAfter entry.sequence entries

theorem lastSequence_eq (entries : List JournalEntry) :
    lastSequence entries = sequenceAfter 0 entries := by
  have hGeneral : ∀ (prior : Int) (entries : List JournalEntry), entries ≠ [] →
      lastSequence entries = sequenceAfter prior entries := by
    intro prior entries
    induction entries generalizing prior with
    | nil => intro h; exact absurd rfl h
    | cons entry entries ih =>
      intro _
      cases entries with
      | nil => rfl
      | cons next rest =>
        show lastSequence (entry :: next :: rest) = sequenceAfter entry.sequence (next :: rest)
        rw [← ih entry.sequence (by simp)]
        simp [lastSequence]
  cases entries with
  | nil => rfl
  | cons => exact hGeneral 0 _ (by simp)

theorem readJournalFrom_append {prior : Int} {entry : JournalEntry}
    (h : readJournalFrom prior lines = .ok entries)
    (hSequence : sequenceAfter prior entries < entry.sequence) :
    readJournalFrom prior (lines ++ [.entry entry]) = .ok (entries ++ [entry]) := by
  induction lines generalizing prior entries with
  | nil =>
    cases h
    show (if entry.sequence ≤ prior then _ else _) = _
    have hLater : ¬ entry.sequence ≤ prior := Int.not_le.mpr hSequence
    rw [if_neg hLater]
    rfl
  | cons line lines ih =>
    cases line with
    | unreadable => cases h
    | entry =>
      rw [List.cons_append]
      unfold readJournalFrom at h ⊢
      split at h
      · cases h
      · rename_i hFirst
        obtain ⟨rest, hRest, h⟩ := bind_eq_ok.mp h
        cases h
        rw [if_neg hFirst, ih hRest hSequence]
        rfl

/-- The entry an append writes. -/
def nextEntry (entries : List JournalEntry) (event : JournalEvent) : JournalEntry :=
  { sequence := lastSequence entries + 1, event := event }

theorem readJournal_append (event : JournalEvent) (h : readJournal lines = .ok entries) :
    readJournal (lines ++ [.entry (nextEntry entries event)]) =
      .ok (entries ++ [nextEntry entries event]) := by
  apply readJournalFrom_append h
  rw [← lastSequence_eq]
  exact Int.lt_succ _

theorem appendEvent_appended (event : JournalEvent) (h : readJournal world.journal = .ok entries) :
    appendEvent .appended event world =
      (.returned (nextEntry entries event),
        { world with journal := world.journal ++ [.entry (nextEntry entries event)] }) := by
  unfold appendEvent
  rw [bind_returned (readJournal_run h)]
  rfl

/-- The RECONCILED lines of a list of requests. -/
def markAll (requests : List PendingRequest) : Gateway PUnit :=
  requests.forM (fun pending => do
    let _ ← appendReconciled .appended pending.sequence)

theorem markAll_run (requests : List PendingRequest) (h : readJournal world.journal = .ok entries) :
    ∃ (journal : List JournalLine) (added : List JournalEntry),
      markAll requests world = (.returned ⟨⟩, { world with journal := journal }) ∧
      readJournal journal = .ok (entries ++ added) ∧
      added.map JournalEntry.event =
        requests.map (fun pending => JournalEvent.reconciled pending.sequence) := by
  induction requests generalizing world entries with
  | nil => exact ⟨world.journal, [], rfl, by rwa [List.append_nil], rfl⟩
  | cons pending requests ih =>
    have hAppend := appendEvent_appended (.reconciled pending.sequence) h
    let next : GatewayWorld := { world with
      journal := world.journal ++ [.entry (nextEntry entries (.reconciled pending.sequence))] }
    have hNext : readJournal next.journal =
        .ok (entries ++ [nextEntry entries (.reconciled pending.sequence)]) :=
      readJournal_append (.reconciled pending.sequence) h
    obtain ⟨journal, added, hRun, hJournal, hEvents⟩ := ih hNext
    refine ⟨journal, nextEntry entries (.reconciled pending.sequence) :: added, ?_,
      by rw [List.append_cons]; exact hJournal, ?_⟩
    · have hFirst : (do let _ ← appendReconciled .appended pending.sequence : Gateway PUnit)
          world = (.returned ⟨⟩, _) := bind_returned hAppend
      show ((do let _ ← appendReconciled .appended pending.sequence : Gateway PUnit) >>=
        fun _ => markAll requests) world = _
      rw [bind_returned hFirst]
      exact hRun
    · rw [List.map_cons, List.map_cons, hEvents]
      rfl

/-- No request is pending once every pending one has its RECONCILED line. -/
theorem pendingRequests_marked {added : List JournalEntry} (h : added.map JournalEntry.event =
      (pendingOf entries).map (fun pending => JournalEvent.reconciled pending.sequence)) :
    pendingRequests (entries ++ added) = [] := by
  have hAdded : ∀ entry ∈ added, ∃ sequence, entry.event = .reconciled sequence := by
    intro entry hEntry
    have hEvent : entry.event ∈ added.map JournalEntry.event := List.mem_map_of_mem hEntry
    rw [h] at hEvent
    obtain ⟨pending, _, hEq⟩ := List.mem_map.mp hEvent
    exact ⟨_, hEq.symm⟩
  have hRequested : requestedEntries (entries ++ added) = requestedEntries entries := by
    unfold requestedEntries
    rw [List.filterMap_append]
    refine (List.append_right_eq_self.mpr ?_)
    apply List.filterMap_eq_nil_iff.mpr
    intro entry hEntry
    obtain ⟨sequence, hEvent⟩ := hAdded entry hEntry
    rw [hEvent]
  have hSequences : ∀ sequence, sequence ∈ reconciledSequences entries ∨
      sequence ∈ (pendingRequests entries).map (·.1) →
        sequence ∈ reconciledSequences (entries ++ added) := by
    intro sequence hSequence
    unfold reconciledSequences
    rw [List.filterMap_append, List.mem_append]
    refine hSequence.imp id (fun hPending => ?_)
    have hEvent : JournalEvent.reconciled sequence ∈ added.map JournalEntry.event := by
      rw [h]
      unfold pendingOf
      rw [List.map_map]
      obtain ⟨request, hRequest, rfl⟩ := List.mem_map.mp hPending
      exact List.mem_map.mpr ⟨request, hRequest, rfl⟩
    obtain ⟨entry, hEntry, hEq⟩ := List.mem_map.mp hEvent
    refine List.mem_filterMap.mpr ⟨entry, hEntry, ?_⟩
    rw [hEq]
  unfold pendingRequests
  rw [hRequested, List.filter_eq_nil_iff]
  intro request hRequest hPending
  rw [decide_eq_true_eq] at hPending
  apply hPending
  apply hSequences
  by_cases hDone : request.1 ∈ reconciledSequences entries
  · exact .inl hDone
  · refine .inr (List.mem_map_of_mem (List.mem_filter.mpr ⟨hRequest, ?_⟩))
    simpa using hDone

/-! ## Folding every pending request -/

/-- The transactions of the pending requests, when each commits. -/
def foldAll (now : IsoText) (clock : Instant) (requests : List PendingRequest) : Gateway PUnit :=
  requests.forM (fun pending => transaction .committed (foldRequest now clock pending))

/-- The database after the transactions. -/
def foldRequests (now : IsoText) (clock : Instant) (requests : List PendingRequest)
    (database : CanonicalDatabase) : Except Raised CanonicalDatabase :=
  requests.foldlM (foldInto now clock) database

section Run

variable {now : IsoText} {clock : Instant}

theorem foldAll_run (requests : List PendingRequest) (world : GatewayWorld) :
    (∀ database, foldRequests now clock requests world.database = .ok database →
      foldAll now clock requests world = (.returned ⟨⟩, { world with database := database })) ∧
    (∀ error, foldRequests now clock requests world.database = .error error →
      ∃ database, foldAll now clock requests world =
        (.raised error, { world with database := database })) := by
  induction requests generalizing world with
  | nil =>
    refine ⟨?_, fun error h => nomatch h⟩
    rintro database ⟨⟩
    rfl
  | cons pending requests ih =>
    have hCons : foldAll now clock (pending :: requests) =
        (transaction .committed (foldRequest now clock pending) >>= fun _ =>
          foldAll now clock requests) := rfl
    rw [hCons]
    unfold foldRequests
    rw [List.foldlM_cons]
    unfold foldInto
    cases hFold : foldRequest now clock pending world.database with
    | error found =>
      have hRun : transaction .committed (foldRequest now clock pending) world =
          (.raised found, world) := by
        unfold transaction
        rw [hFold]
      rw [bind_raised hRun]
      refine ⟨fun database h => (nomatch h), ?_⟩
      rintro error ⟨⟩
      exact ⟨world.database, rfl⟩
    | ok result =>
      have hRun : transaction .committed (foldRequest now clock pending) world =
          (.returned (), { world with database := result.2 }) := by
        unfold transaction
        rw [hFold]
      rw [bind_returned hRun]
      exact ih { world with database := result.2 }

/-- Every transaction of the run meets a safe state. -/
def FoldsSafely (now : IsoText) (clock : Instant) :
    List PendingRequest → CanonicalDatabase → Prop
  | [], _ => True
  | pending :: later, database =>
    FoldSafe database pending ∧
      ∀ folded, foldInto now clock database pending = .ok folded →
        FoldsSafely now clock later folded

/-- Every transaction of the run that starts with its marker leaves the orders and the cards
alone. -/
def MarkedLeftAlone (now : IsoText) (clock : Instant) :
    List PendingRequest → CanonicalDatabase → Prop
  | [], _ => True
  | pending :: later, database =>
    ∀ folded, foldInto now clock database pending = .ok folded →
      (isMarked database pending.sequence = true → LeftAlone database folded) ∧
        MarkedLeftAlone now clock later folded

/-- The run meets safe states only, exactly when it succeeds and leaves what is marked alone. -/
theorem foldsSafely_iff {requests : List PendingRequest}
    (hRequests : ∀ pending ∈ requests, IsGatewayRequest pending.request)
    (hSound : SoundOrders database.executionOrders) :
    FoldsSafely now clock requests database ↔
      (∃ folded, foldRequests now clock requests database = .ok folded) ∧
        MarkedLeftAlone now clock requests database := by
  induction requests generalizing database with
  | nil => exact iff_of_true trivial ⟨⟨database, rfl⟩, trivial⟩
  | cons pending later ih =>
    have hLater : ∀ pending ∈ later, IsGatewayRequest pending.request :=
      fun pending hPending => hRequests pending (List.mem_cons_of_mem _ hPending)
    have hStep : FoldSafe database pending ↔ ∃ folded,
        foldInto now clock database pending = .ok folded ∧ _ :=
      foldSafe_iff (hRequests pending List.mem_cons_self) hSound
    unfold FoldsSafely MarkedLeftAlone foldRequests
    constructor
    · rintro ⟨hSafe, hRest⟩
      obtain ⟨folded, hFold, hAlone⟩ := hStep.mp hSafe
      obtain ⟨⟨final, hFinal⟩, hMarked⟩ := (ih hLater (hSound.foldInto hFold)).mp
        (hRest folded hFold)
      refine ⟨⟨final, foldlM_cons_ok.mpr ⟨folded, hFold, hFinal⟩⟩, ?_⟩
      intro other hOther
      rw [hFold] at hOther
      cases hOther
      exact ⟨hAlone, hMarked⟩
    · rintro ⟨⟨final, hFinal⟩, hMarked⟩
      obtain ⟨folded, hFold, hFinal⟩ := foldlM_cons_ok.mp hFinal
      refine ⟨hStep.mpr ⟨folded, hFold, (hMarked folded hFold).1⟩, ?_⟩
      intro other hOther
      rw [hFold] at hOther
      cases hOther
      exact (ih hLater (hSound.foldInto hFold)).mpr ⟨⟨final, hFinal⟩, (hMarked folded hFold).2⟩

end Run

/-- The reconciliation returns, leaves no pending request, and no transaction changes an
order or a card for a request that is marked. -/
structure AppliedOnce (now : IsoText) (clock : Instant) (world : GatewayWorld) : Prop where
  returns : ∃ completed, (reconcileIntoCanonical { now := now, clock := clock } world).1 =
    .returned completed
  nothingPending : ∃ entries, readJournal (reconcileIntoCanonical
    { now := now, clock := clock } world).2.journal = .ok entries ∧ pendingRequests entries = []
  markedLeftAlone : ∀ entries, readJournal world.journal = .ok entries →
    MarkedLeftAlone now clock (pendingOf entries) world.database

/-- A REQUESTED line of the journal is one the gateway writes. -/
def WrittenByGateway (journal : List JournalLine) : Prop :=
  ∀ entry request, .entry entry ∈ journal → entry.event = .requested request →
    IsGatewayRequest request

theorem WrittenByGateway.pending {journal : List JournalLine} (h : WrittenByGateway journal)
    (hRead : readJournal journal = .ok entries) :
    ∀ pending ∈ pendingOf entries, IsGatewayRequest pending.request := by
  intro pending hPending
  obtain ⟨request, hRequest, rfl⟩ := List.mem_map.mp hPending
  obtain ⟨entry, hEntry, hEvent⟩ := List.mem_filterMap.mp (List.mem_filter.mp hRequest).1
  have hLine : JournalLine.entry entry ∈ journal := by
    rw [readJournalFrom_ok hRead]
    exact List.mem_map_of_mem hEntry
  split at hEvent
  · rename_i journaled hJournaled
    cases hEvent
    exact h entry _ hLine hJournaled
  · cases hEvent

section Reconcile

variable {now : IsoText} {clock : Instant} {world : GatewayWorld} {entries : List JournalEntry}

section

variable (h : readJournal world.journal = .ok entries)
include h

/-- A reconciliation whose transactions all succeed leaves no request pending. -/
theorem reconcile_returned
    (hFold : foldRequests now clock (pendingOf entries) world.database = .ok database) :
    (reconcileIntoCanonical { now := now, clock := clock } world).1 =
        .returned (pendingOf entries).length ∧
      ∃ remaining, readJournal (reconcileIntoCanonical
        { now := now, clock := clock } world).2.journal = .ok remaining ∧
          pendingRequests remaining = [] := by
  let folded : GatewayWorld := { world with database := database }
  have hFolded : readJournal folded.journal = .ok entries := h
  have hFirst : foldAll now clock (pendingOf entries) world = (.returned ⟨⟩, folded) :=
    (foldAll_run (pendingOf entries) world).1 database hFold
  obtain ⟨journal, added, hMark, hJournal, hEvents⟩ := markAll_run (pendingOf entries) hFolded
  have hRun : reconcileIntoCanonical { now := now, clock := clock } world =
      (.returned (pendingOf entries).length, { folded with journal := journal }) := by
    unfold reconcileIntoCanonical
    rw [bind_returned (readJournal_run h)]
    show (foldAll now clock (pendingOf entries) >>= fun _ =>
      markAll (pendingOf entries) >>= fun _ => pure (pendingOf entries).length) world = _
    rw [bind_returned hFirst, bind_returned hMark]
    rfl
  rw [hRun]
  exact ⟨rfl, entries ++ added, hJournal, pendingRequests_marked hEvents⟩

/-- A reconciliation that returns has folded every request. -/
theorem foldRequests_of_returned {completed : Nat}
    (hReturned : (reconcileIntoCanonical { now := now, clock := clock } world).1 =
      .returned completed) :
    ∃ database, foldRequests now clock (pendingOf entries) world.database = .ok database := by
  cases hFold : foldRequests now clock (pendingOf entries) world.database with
  | ok database => exact ⟨database, rfl⟩
  | error error =>
    obtain ⟨database, hRun⟩ := (foldAll_run (pendingOf entries) world).2 error hFold
    unfold reconcileIntoCanonical at hReturned
    rw [bind_returned (readJournal_run h)] at hReturned
    change ((foldAll now clock (pendingOf entries) >>= fun _ => _) world).1 = _ at hReturned
    rw [bind_raised hRun] at hReturned
    cases hReturned

end

theorem appliedOnce_iff (hWritten : WrittenByGateway world.journal)
    (hSound : SoundOrders world.database.executionOrders) :
    AppliedOnce now clock world ↔
      ∃ entries, readJournal world.journal = .ok entries ∧
        FoldsSafely now clock (pendingOf entries) world.database := by
  constructor
  · intro h
    obtain ⟨completed, hReturned⟩ := h.returns
    cases hRead : readJournal world.journal with
    | error =>
      unfold reconcileIntoCanonical at hReturned
      rw [bind_raised (readJournal_run hRead)] at hReturned
      cases hReturned
    | ok entries =>
      refine ⟨entries, rfl, (foldsSafely_iff (hWritten.pending hRead) hSound).mpr ⟨?_, ?_⟩⟩
      · exact foldRequests_of_returned hRead hReturned
      · exact h.markedLeftAlone entries hRead
  · rintro ⟨entries, hRead, hSafe⟩
    obtain ⟨⟨database, hFold⟩, hMarked⟩ :=
      (foldsSafely_iff (hWritten.pending hRead) hSound).mp hSafe
    obtain ⟨hReturned, hPending⟩ := reconcile_returned hRead hFold
    refine ⟨⟨_, hReturned⟩, hPending, ?_⟩
    intro other hOther
    rw [hRead] at hOther
    cases hOther
    exact hMarked

end Reconcile

/-! ## What the calls write -/

/-- The journal still holds nothing but gateway requests. -/
def StaysGateway (before after : GatewayWorld) : Prop :=
  WrittenByGateway before.journal → WrittenByGateway after.journal

theorem staysGateway_evolution : Evolution StaysGateway where
  refl := fun _ h => h
  trans := fun hFirst hSecond h => hSecond (hFirst h)

theorem staysGateway_of_same {before after : GatewayWorld} (h : after.journal = before.journal) :
    StaysGateway before after := by
  unfold StaysGateway
  rw [h]
  exact id

/-- An event that requests nothing but what the gateway requests. -/
def GatewayEventOnly (event : JournalEvent) : Prop :=
  ∀ request, event = .requested request → IsGatewayRequest request

variable (outcome : AppendOutcome)

theorem staysGateway_appendUnlocked (existing : List JournalEntry)
    (hEvent : GatewayEventOnly event) :
    Keeps StaysGateway (appendUnlocked outcome existing event) := by
  intro world
  have hAppended : ∀ line : JournalLine,
      (∀ entry, line = .entry entry → entry.event = event) →
        StaysGateway world { world with journal := world.journal ++ [line] } := by
    intro line hLine hWritten entry request hEntry hRequest
    rcases List.mem_append.mp hEntry with hOld | hNew
    · exact hWritten entry request hOld hRequest
    · rw [hLine entry (List.mem_singleton.mp hNew).symm] at hRequest
      exact hEvent request hRequest
  have hWritten := hAppended (.entry { sequence := lastSequence existing + 1, event := event })
    (by rintro _ ⟨⟩; rfl)
  have hTorn := hAppended .unreadable (fun _ h => nomatch h)
  cases outcome with
  | appended | syncFailed | crashedAfter => exact hWritten
  | lockTimeout | crashedBefore => exact staysGateway_evolution.refl world
  | shortWrite | crashedTorn => exact hTorn

theorem staysGateway_appendEvent (hEvent : GatewayEventOnly event) :
    Keeps StaysGateway (appendEvent outcome event) := by
  unfold appendEvent
  exact (keeps_readJournal staysGateway_evolution).bind staysGateway_evolution fun existing =>
    staysGateway_appendUnlocked outcome existing hEvent

theorem staysGateway_journalRequested {request : JournalRequest}
    (hRequest : IsGatewayRequest request) :
    Keeps StaysGateway (journalRequested outcome request) := by
  have hEvent : GatewayEventOnly (.requested request) := by
    rintro _ ⟨⟩
    exact hRequest
  have hAppend : Keeps StaysGateway (appendRequested outcome request) := by
    unfold appendRequested
    split
    · exact keeps_raise staysGateway_evolution _
    · apply (keeps_readJournal staysGateway_evolution).bind staysGateway_evolution
      intro existing
      split
      · exact keeps_raise staysGateway_evolution _
      · exact staysGateway_appendUnlocked outcome existing hEvent
  unfold journalRequested
  apply hAppend.attempt.bind staysGateway_evolution
  intro result
  cases result with
  | ok => exact keeps_pure staysGateway_evolution _
  | error => exact keeps_raise staysGateway_evolution _

theorem staysGateway_appendEmergencyOutcome (requested : JournalEntry)
    (status : CommandStatus) (response : JournalResponse) :
    Keeps StaysGateway (appendEmergencyOutcome outcome requested status response) :=
  keeps_appendEmergencyOutcome staysGateway_evolution
    (staysGateway_appendEvent outcome (fun _ h => nomatch h))

theorem staysGateway_execute {α : Type} (answer : MutationAnswer α)
    (event : CanonicalDatabase → GatewayEvent) :
    Keeps StaysGateway (executeScheduledMutation answer event) := by
  intro world
  apply staysGateway_of_same
  cases answer <;> rfl

theorem staysGateway_gate {α : Type} (answer : GateAnswer α) : Keeps StaysGateway (gate answer) :=
  keeps_ofExcept staysGateway_evolution _

theorem staysGateway_journalEmergencySubmission (request : SubmitExecutionRequest)
    (answers : EmergencySubmitAnswers) {journaled : JournalRequest} (limitPrice : ℚ)
    (hRequest : IsGatewayRequest journaled) :
    Keeps StaysGateway (journalEmergencySubmission request answers journaled limitPrice) := by
  unfold journalEmergencySubmission dispatchEmergencySubmission
  apply (staysGateway_journalRequested _ hRequest).bind staysGateway_evolution
  intro requested
  apply (staysGateway_execute _ _).bind staysGateway_evolution
  intro answer
  cases answer with
  | error =>
    exact (staysGateway_appendEmergencyOutcome _ _ _ _).bind staysGateway_evolution fun _ =>
      keeps_raise staysGateway_evolution _
  | ok =>
    exact (staysGateway_appendEmergencyOutcome _ _ _ _).bind staysGateway_evolution fun _ =>
      keeps_ofExcept staysGateway_evolution _

theorem staysGateway_doEmergencySubmit (request : SubmitExecutionRequest)
    {answers : EmergencySubmitAnswers} (hNow : answers.now.reading ≠ none) :
    Keeps StaysGateway (doEmergencySubmit request answers) := by
  unfold doEmergencySubmit
  split
  · exact keeps_raise staysGateway_evolution _
  rename_i hSell
  apply (keeps_requireEmergencyAllowance staysGateway_evolution _ _).bind staysGateway_evolution
  intro lease
  apply (staysGateway_gate _).bind staysGateway_evolution
  intro _
  apply (staysGateway_gate _).bind staysGateway_evolution
  intro _
  cases hPrice : requireEmergencyPrice request with
  | error error => exact keeps_raise staysGateway_evolution error
  | ok limitPrice =>
    have hQuantity : 0 < request.quantity := by
      unfold requireEmergencyPrice at hPrice
      split at hPrice
      · split at hPrice
        · rename_i hPositive
          exact hPositive.1
        · cases hPrice
      · cases hPrice
    have hRequest : IsGatewayRequest
        (submitJournalRequest request lease answers.now limitPrice) :=
      .submit (by simpa using hSell) hQuantity hNow
    intro world
    have hRun : (Procedure.ofExcept (requireEmergencyPrice request) : Gateway ℚ) world =
        (.returned limitPrice, world) := by
      rw [hPrice]
      rfl
    rw [← hPrice, bind_returned hRun]
    exact staysGateway_journalEmergencySubmission request answers limitPrice hRequest world

theorem staysGateway_doEmergencyCancel (request : CancelExecutionRequest)
    {answers : EmergencyCancelAnswers} (hNow : answers.now.reading ≠ none) :
    Keeps StaysGateway (doEmergencyCancel request answers) := by
  refine keeps_doEmergencyCancel staysGateway_evolution (fun hExact lease => ?_)
    (staysGateway_execute _ _) fun _ _ _ => staysGateway_appendEvent _ (fun _ h => nomatch h)
  have hRequest : IsGatewayRequest (cancelJournalRequest request lease answers.now) :=
    .cancel hExact hNow
  exact staysGateway_journalRequested _ hRequest

theorem staysGateway_reconcile (answers : ReconcileAnswers) :
    Keeps StaysGateway (reconcileIntoCanonical answers) := by
  unfold reconcileIntoCanonical
  apply (keeps_readJournal staysGateway_evolution).bind staysGateway_evolution
  intro entries
  apply Keeps.bind staysGateway_evolution
  · apply keeps_forM staysGateway_evolution
    intro pending _
    exact keeps_transaction staysGateway_evolution fun _ _ _ _ => staysGateway_of_same rfl
  intro _
  apply Keeps.bind staysGateway_evolution
  · apply keeps_forM staysGateway_evolution
    intro pending _
    apply Keeps.bind staysGateway_evolution
    · exact staysGateway_appendEvent _ (fun _ h => nomatch h)
    · exact fun _ => keeps_pure staysGateway_evolution _
  · exact fun _ => keeps_pure staysGateway_evolution _

/-- The clock of an emergency call gives a timestamp. -/
def GatewayCall.ClockReads : GatewayCall → Prop
  | .submitInOutage _ _ answers => answers.now.reading ≠ none
  | .cancelInOutage _ answers => answers.now.reading ≠ none
  | .submit _ _ _ | .cancel _ _ _ _ | .replace _ _ | .resume _ _ | .reconcile _ => True

theorem staysGateway_perform {call : GatewayCall} (h : call.ClockReads) (world : GatewayWorld) :
    StaysGateway world (call.perform world) := by
  cases call with
  | submit request liveEntry answers =>
    have hStep : CanonicalStep request.clientOrderId world
        (submitGuarded request liveEntry answers world).2 :=
      (calm_gate liveEntry).before (canonicalStep_absorbs _)
        (fun _ => doSubmit_step request answers) world
    exact staysGateway_of_same hStep.journal
  | submitInOutage request liveEntry =>
    exact (staysGateway_gate liveEntry).bind staysGateway_evolution
      (fun _ => staysGateway_doEmergencySubmit request h) world
  | cancel request liveMutation recordRead answers =>
    exact staysGateway_of_same
      (calm_cancelGuarded request liveMutation recordRead answers world).journal
  | cancelInOutage request => exact staysGateway_doEmergencyCancel request h world
  | replace request answers =>
    exact staysGateway_of_same (replaceGuarded_step request answers world).journal
  | resume request answers =>
    exact staysGateway_of_same (resumeReplaceGuarded_step request answers world).journal
  | reconcile answers => exact staysGateway_reconcile answers world

theorem writtenByGateway_run {calls : List GatewayCall} (hCalls : ∀ call ∈ calls, call.ClockReads)
    (hWorld : WrittenByGateway world.journal) :
    WrittenByGateway (runCalls calls world).journal := by
  induction calls generalizing world with
  | nil => exact hWorld
  | cons call calls ih =>
    apply ih (fun later hLater => hCalls later (List.mem_cons_of_mem _ hLater))
    exact staysGateway_perform (hCalls call List.mem_cons_self) world hWorld

/-! ## The promise -/

/-- A journal that calls of the gateway have written is reconciled into any database whose
orders are sound without raising, completely, and without touching the orders and the cards
of a marked request again, exactly when it can be read and every transaction of the run
meets a safe state. -/
theorem reconcile_appliedOnce_iff (calls : List GatewayCall)
    (hCalls : ∀ call ∈ calls, call.ClockReads) (database : CanonicalDatabase)
    (hSound : SoundOrders database.executionOrders) (now : IsoText) (clock : Instant) :
    AppliedOnce now clock { runCalls calls {} with database := database } ↔
      ∃ entries, readJournal (runCalls calls {}).journal = .ok entries ∧
        FoldsSafely now clock (pendingOf entries) database := by
  have hWritten : WrittenByGateway (runCalls calls {}).journal :=
    writtenByGateway_run hCalls (fun _ _ hEntry => absurd hEntry List.not_mem_nil)
  let world : GatewayWorld := { runCalls calls {} with database := database }
  have hWorld : WrittenByGateway world.journal := hWritten
  have hOrders : SoundOrders world.database.executionOrders := hSound
  exact appliedOnce_iff hWorld hOrders

/-- The REQUESTED line of the SELL `c1`. -/
def requestedSell : JournalRequest :=
  submitJournalRequest (protectiveSell "c1") { deviceId := "d1", leaseToken := "t1" }
    (isoformat 0) 5

def journaledSell : List JournalEntry :=
  [{ sequence := 1, event := .requested requestedSell },
    { sequence := 2, event := .outcome 1 .acknowledged (.submitted "B1") }]

def pendingSell : PendingRequest :=
  { sequence := 1, request := requestedSell
    outcome := some (.acknowledged, .submitted "B1") }

/-- A protective SELL the broker accepted during the outage. -/
def sellInOutage : GatewayCall :=
  .submitInOutage (protectiveSell "c1") (.ok ()) (acceptedInOutage "B1")

/-- The SELL is reconciled into a database that has no card for its symbol. -/
theorem reconcile_appliedOnce_sample :
    AppliedOnce (isoformat 0) 0 { runCalls [sellInOutage] {} with database := {} } := by
  have hClock : ∀ call ∈ [sellInOutage], call.ClockReads := by
    intro call hCall
    rw [List.mem_singleton.mp hCall]
    exact fun h => nomatch h
  have hSound : SoundOrders ({} : CanonicalDatabase).executionOrders :=
    soundOrders_of_length (by decide) (by decide)
  refine (reconcile_appliedOnce_iff [sellInOutage] hClock {} hSound (isoformat 0) 0).mpr
    ⟨journaledSell, by decide +kernel, ?_⟩
  have hPending : pendingOf journaledSell = [pendingSell] := by decide +kernel
  rw [hPending]
  refine ⟨.inr ?_, fun _ _ => trivial⟩
  exact ⟨by decide, by decide, fun _ => by decide +kernel, fun _ _ hRow => nomatch hRow⟩

/-- The process dies after the commit and before the RECONCILED line; the SELL fills, and
`confirm_flat` closes the card. -/
def closedSinceCommit : CanonicalDatabase :=
  { (runCalls [sellInOutage, .reconcile
      { now := isoformat 0, clock := 0, commit := fun _ => .crashedAfter }] {}).database with
    tradeCards := [closedFlat { environment := "PROD", accountNo := "1", symbol := "AAPL" }] }

/-- The closed card is put back under liquidation. -/
theorem closed_card_liquidated_again :
    ¬ ∀ (calls : List GatewayCall) (database : CanonicalDatabase) (now : IsoText)
      (clock : Instant), (∀ call ∈ calls, call.ClockReads) →
      SoundOrders database.executionOrders →
      AppliedOnce now clock { runCalls calls {} with database := database } := by
  intro hOnce
  have hClock : ∀ call ∈ [sellInOutage], call.ClockReads := by
    intro call hCall
    rw [List.mem_singleton.mp hCall]
    exact fun h => nomatch h
  have hSound : SoundOrders closedSinceCommit.executionOrders :=
    soundOrders_of_length (by decide +kernel) (by decide +kernel)
  have hAlone := (hOnce [sellInOutage] closedSinceCommit (isoformat 0) 0 hClock hSound).3
    journaledSell (by decide +kernel)
  have hPending : pendingOf journaledSell = [pendingSell] := by decide +kernel
  rw [hPending] at hAlone
  have hFold : foldInto (isoformat 0) 0 closedSinceCommit pendingSell =
      .ok (okOr (foldInto (isoformat 0) 0 closedSinceCommit pendingSell) {}) :=
    eq_okOr (by decide +kernel)
  have hCards := ((hAlone _ hFold).1 (by decide +kernel)).2
  revert hCards
  decide +kernel

end QuantApp.Services
