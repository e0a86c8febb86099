import QuantApp.Services.EmergencySteps

/-!
# One broker submission for each client order

Runs of gateway calls, in canonical mode and in outage mode, with reconciliations in
between; a call may fail or die at any durable step and the next one starts from what
is stored.  Two records keep a client order from being submitted twice: the unique key
of `execution_commands`, and the REQUESTED lines of the emergency journal.  Neither
path asks the other record, so the promise holds as long as no call uses an identity
that only the other one knows.
-/

namespace QuantApp.Services

open Core Verified Verified.Procedure

/-! ## Reconciliation -/

/-- Commands may have been folded in, and lines appended that request nothing. -/
structure Folding (before after : GatewayWorld) : Prop where
  submitted : submittedIds after.history = submittedIds before.history
  stored : ∀ key, IsStored before key → IsStored after key
  journaled : journaledKeys after.journal = journaledKeys before.journal

theorem folding_evolution : Evolution Folding where
  refl := fun _ => ⟨rfl, fun _ h => h, rfl⟩
  trans := fun hFirst hSecond =>
    { submitted := hSecond.submitted.trans hFirst.submitted
      stored := fun key h => hSecond.stored key (hFirst.stored key h)
      journaled := hSecond.journaled.trans hFirst.journaled }

theorem foldCommand_kept {commands written : List ExecutionCommand} {pending : PendingRequest}
    (h : foldCommand commands pending = .ok written) :
    commandKeys commands ⊆ commandKeys written := by
  unfold foldCommand at h
  obtain ⟨⟨recorded, command⟩, hRecord, h⟩ := bind_eq_ok.mp h
  have hRecorded : commandKeys commands ⊆ commandKeys recorded := by
    unfold recordCommand at hRecord
    split at hRecord
    · cases hRecord
      exact List.Subset.refl _
    · obtain ⟨inserted, hInsert, hRecord⟩ := bind_eq_ok.mp hRecord
      cases hRecord
      rw [(insertCommand_ok hInsert).2]
      unfold commandKeys
      rw [List.map_append]
      exact List.subset_append_left _ _
  dsimp only at h
  split at h
  · split at h
    · obtain ⟨⟨updatedRows, updated⟩, hUpdate, h⟩ := bind_eq_ok.mp h
      cases h
      rwa [commandKeys_updateCommandResponse hUpdate]
    · cases h
      exact hRecorded
  · cases h
    exact hRecorded

theorem folding_appendEvent (outcome : AppendOutcome) {event : JournalEvent}
    (h : ∀ sequence, journaledKeys [.entry { sequence := sequence, event := event }] = []) :
    Keeps Folding (appendEvent outcome event) := by
  unfold appendEvent
  apply (keeps_readJournal folding_evolution).bind folding_evolution
  · intro existing world
    have hAppended : ∀ line : JournalLine, journaledKeys [line] = [] →
        Folding world { world with journal := world.journal ++ [line] } := by
      intro line hLine
      refine ⟨rfl, fun _ hStored => hStored, ?_⟩
      show journaledKeys (world.journal ++ [line]) = _
      rw [journaledKeys_append, hLine, List.append_nil]
    cases outcome with
    | appended | syncFailed | crashedAfter => exact hAppended _ (h _)
    | lockTimeout | crashedBefore => exact folding_evolution.refl world
    | shortWrite | crashedTorn => exact hAppended _ rfl

theorem folding_foldRequest (outcome : CommitOutcome) (now : IsoText) (clock : Instant)
    (pending : PendingRequest) :
    Keeps Folding (transaction outcome (foldRequest now clock pending)) := by
  apply keeps_transaction folding_evolution
  intro world done database hBody
  unfold foldRequest at hBody
  obtain ⟨commands, hCommands, hBody⟩ := bind_eq_ok.mp hBody
  obtain ⟨_, _, hBody⟩ := bind_eq_ok.mp hBody
  cases hBody
  exact ⟨rfl, fun key hStored => foldCommand_kept hCommands hStored, rfl⟩

theorem folding_reconcile (answers : ReconcileAnswers) :
    Keeps Folding (reconcileIntoCanonical answers) := by
  unfold reconcileIntoCanonical
  apply (keeps_readJournal folding_evolution).bind folding_evolution
  intro entries
  apply Keeps.bind folding_evolution
  · exact keeps_forM folding_evolution fun pending _ => folding_foldRequest _ _ _ pending
  intro _
  apply Keeps.bind folding_evolution
  · apply keeps_forM folding_evolution
    intro pending _
    exact (folding_appendEvent _ fun _ => rfl).bind folding_evolution fun _ =>
      keeps_pure folding_evolution _
  · exact fun _ => keeps_pure folding_evolution _

/-! ## Runs -/

/-- A call of the gateway with everything it is answered. -/
inductive GatewayCall
  | submit (request : SubmitExecutionRequest) (liveEntry : GateAnswer Unit)
      (answers : SubmitAnswers)
  | submitInOutage (request : SubmitExecutionRequest) (liveEntry : GateAnswer Unit)
      (answers : EmergencySubmitAnswers)
  | cancel (request : CancelExecutionRequest) (liveMutation : GateAnswer Unit)
      (recordRead : ReadOutcome) (answers : CancelAnswers)
  | cancelInOutage (request : CancelExecutionRequest) (answers : EmergencyCancelAnswers)
  | replace (request : ReplaceExecutionRequest) (answers : ReplaceAnswers)
  | resume (request : ReplaceExecutionRequest) (answers : ResumeAnswers)
  | reconcile (answers : ReconcileAnswers)

/-- The durable state a call leaves, however it ends. -/
def GatewayCall.perform : GatewayCall → GatewayWorld → GatewayWorld
  | .submit request liveEntry answers, world => (submitGuarded request liveEntry answers world).2
  | .submitInOutage request liveEntry answers, world =>
    (submitGuardedInOutage request liveEntry answers world).2
  | .cancel request liveMutation recordRead answers, world =>
    (cancelGuarded request liveMutation recordRead answers world).2
  | .cancelInOutage request answers, world => (doEmergencyCancel request answers world).2
  | .replace request answers, world => (replaceGuarded request answers world).2
  | .resume request answers, world => (resumeReplaceGuarded request answers world).2
  | .reconcile answers, world => (reconcileIntoCanonical answers world).2

def runCalls (calls : List GatewayCall) (world : GatewayWorld) : GatewayWorld :=
  calls.foldl (fun world call => call.perform world) world

/-- The record the call asks knows the identity it submits, if the other record does. -/
def GatewayCall.KnownToOwnRecord (world : GatewayWorld) : GatewayCall → Prop
  | .submit request _ _ =>
    IsJournaled world (submitKey request.clientOrderId) →
      IsStored world (submitKey request.clientOrderId)
  | .submitInOutage request _ _ =>
    IsStored world (submitKey request.clientOrderId) →
      IsJournaled world (submitKey request.clientOrderId)
  | .replace request _ =>
    IsJournaled world (submitKey request.newClientOrderId) →
      IsStored world (submitKey request.newClientOrderId)
  | .resume request _ =>
    IsJournaled world (submitKey request.newClientOrderId) →
      IsStored world (submitKey request.newClientOrderId)
  | .cancel _ _ _ _ | .cancelInOutage _ _ | .reconcile _ => True

/-- Every call of the run, in the state it starts from. -/
def EachKnown : List GatewayCall → GatewayWorld → Prop
  | [], _ => True
  | call :: calls, world => call.KnownToOwnRecord world ∧ EachKnown calls (call.perform world)

/-- No client order was submitted twice, and what was submitted is on one of the records. -/
structure SubmittedOnce (world : GatewayWorld) : Prop where
  once : ∀ id, (submittedIds world.history).count id ≤ 1
  recorded : ∀ id ∈ submittedIds world.history,
    IsStored world (submitKey id) ∨ IsJournaled world (submitKey id)

/-- What was submitted is on one of the records. -/
def OnRecord (world : GatewayWorld) : Prop :=
  ∀ id ∈ submittedIds world.history,
    IsStored world (submitKey id) ∨ IsJournaled world (submitKey id)

section Steps

variable {before after : GatewayWorld} {id : String} {known : Prop}

/-- What a call does to the records and to the submissions; it submits under an identity that
neither record knew if the one it asks is `known` to have what the other one has. -/
structure Performed (known : Prop) (before after : GatewayWorld) : Prop where
  stored : ∀ key, IsStored before key → IsStored after key
  journaled : ∀ key, IsJournaled before key → IsJournaled after key
  submitted : submittedIds after.history = submittedIds before.history ∨
    ∃ id, submittedIds after.history = submittedIds before.history ++ [id] ∧
      (known → ¬ IsStored before (submitKey id) ∧ ¬ IsJournaled before (submitKey id)) ∧
      (IsStored after (submitKey id) ∨ IsJournaled after (submitKey id))

theorem Performed.recorded (hStep : Performed known before after) (h : OnRecord before) :
    OnRecord after := by
  have hOld : ∀ id ∈ submittedIds before.history,
      IsStored after (submitKey id) ∨ IsJournaled after (submitKey id) :=
    fun id hId => (h id hId).imp (hStep.stored _) (hStep.journaled _)
  unfold OnRecord
  rcases hStep.submitted with hSame | ⟨id, hNew, _, hTaken⟩
  · rw [hSame]
    exact hOld
  · rw [hNew]
    exact forall_mem_concat hOld hTaken

theorem SubmittedOnce.performed (h : SubmittedOnce before) (hStep : Performed known before after)
    (hKnown : known) : SubmittedOnce after := by
  refine ⟨?_, hStep.recorded h.recorded⟩
  rcases hStep.submitted with hSame | ⟨id, hNew, hFree, _⟩
  · rw [hSame]
    exact h.once
  · have hFresh : id ∉ submittedIds before.history := by
      intro hId
      exact (h.recorded id hId).elim (hFree hKnown).1 (hFree hKnown).2
    intro other
    have hCount := h.once other
    rw [hNew, List.count_append]
    by_cases hSame : other = id
    · rw [hSame, List.count_eq_zero_of_not_mem hFresh]
      simp
    · simp [Ne.symm hSame, hCount]

theorem isJournaled_of_journal (hJournal : after.journal = before.journal) (key : String)
    (hKey : IsJournaled before key) : IsJournaled after key := by
  unfold IsJournaled
  rwa [hJournal]

theorem isStored_of_database (hDatabase : after.database = before.database) (key : String)
    (hKey : IsStored before key) : IsStored after key := by
  unfold IsStored
  rwa [hDatabase]

theorem performed_canonical (hStep : CanonicalStep id before after) :
    Performed (IsJournaled before (submitKey id) → IsStored before (submitKey id))
      before after := by
  refine ⟨hStep.stored, isJournaled_of_journal hStep.journal, ?_⟩
  rcases hStep.submitted with hSame | ⟨hNew, hFree, hTaken⟩
  · exact .inl hSame
  · exact .inr ⟨id, hNew, fun hKnown => ⟨hFree, fun hJournal => hFree (hKnown hJournal)⟩,
      .inl hTaken⟩

theorem performed_emergency (hStep : EmergencyStep id before after) :
    Performed (IsStored before (submitKey id) → IsJournaled before (submitKey id))
      before after := by
  refine ⟨isStored_of_database hStep.database, hStep.journaled, ?_⟩
  rcases hStep.submitted with hSame | ⟨hNew, hFree, hTaken⟩
  · exact .inl hSame
  · exact .inr ⟨id, hNew, fun hKnown => ⟨fun hStore => hFree (hKnown hStore), hFree⟩,
      .inr hTaken⟩

theorem GatewayCall.performed (call : GatewayCall) (before : GatewayWorld) :
    Performed (call.KnownToOwnRecord before) before (call.perform before) := by
  cases call with
  | submit request liveEntry answers =>
    exact performed_canonical ((calm_gate liveEntry).before (canonicalStep_absorbs _)
      (fun _ => doSubmit_step request answers) before)
  | submitInOutage request liveEntry answers =>
    exact performed_emergency ((journaling_gate liveEntry).before (emergencyStep_absorbs _)
      (fun _ => doEmergencySubmit_step request answers) before)
  | cancel request liveMutation recordRead answers =>
    have hStep := calm_cancelGuarded request liveMutation recordRead answers before
    exact ⟨hStep.stored, isJournaled_of_journal hStep.journal, .inl hStep.submitted⟩
  | cancelInOutage request answers =>
    have hStep := journaling_doEmergencyCancel request answers before
    exact ⟨isStored_of_database hStep.database, hStep.journaled, .inl hStep.submitted⟩
  | replace request answers =>
    exact performed_canonical (replaceGuarded_step request answers before)
  | resume request answers =>
    exact performed_canonical (resumeReplaceGuarded_step request answers before)
  | reconcile answers =>
    have hStep := folding_reconcile answers before
    refine ⟨hStep.stored, fun key hKey => ?_, .inl hStep.submitted⟩
    show key ∈ journaledKeys (reconcileIntoCanonical answers before).2.journal
    rwa [hStep.journaled]

end Steps

theorem OnRecord.run {world : GatewayWorld} (h : OnRecord world) (calls : List GatewayCall) :
    OnRecord (runCalls calls world) := by
  induction calls generalizing world with
  | nil => exact h
  | cons call calls ih => exact ih ((call.performed world).recorded h)

/-- Whatever the calls do and wherever they die, the broker's `submit_order` is entered for no
client order that neither record holds. -/
theorem submissions_on_record (database : CanonicalDatabase) (journal : List JournalLine)
    (calls : List GatewayCall) :
    OnRecord (runCalls calls { database := database, journal := journal }) :=
  OnRecord.run (fun _ hId => absurd hId List.not_mem_nil) calls

theorem SubmittedOnce.run {calls : List GatewayCall} {world : GatewayWorld}
    (h : SubmittedOnce world) (hKnown : EachKnown calls world) :
    SubmittedOnce (runCalls calls world) := by
  induction calls generalizing world with
  | nil => exact h
  | cons call calls ih => exact ih (h.performed (call.performed world) hKnown.1) hKnown.2

/-- In a run whose calls only use identities that their own record knows if the other one
does, the broker's `submit_order` is entered at most once for each client order. -/
theorem submitted_at_most_once (start : GatewayWorld) (hStart : start.history = [])
    (calls : List GatewayCall) (hKnown : EachKnown calls start) (clientOrderId : String) :
    (submittedIds (runCalls calls start).history).count clientOrderId ≤ 1 := by
  have hOnce : SubmittedOnce start := by
    constructor
    · intro id
      rw [hStart]
      exact Nat.zero_le 1
    · intro id hId
      rw [hStart] at hId
      exact absurd hId List.not_mem_nil
  exact (hOnce.run hKnown).once clientOrderId

/-- A protective SELL. -/
def protectiveSell (clientOrderId : String) (hStripped : strip clientOrderId = clientOrderId := by
      first
        | with_reducible exact strip_c1
        | decide +kernel) :
    SubmitExecutionRequest :=
  { clientOrderId := clientOrderId, environment := "PROD", accountNo := "1", symbol := "AAPL"
    side := .sell, intent := .stopLoss, quantity := 10, limitPrice := some 5
    lease := some { deviceId := "d1", leaseToken := "t1" }, emergency := true
    clientOrderIdStripped := hStripped }

/-- The broker accepts the SELL while the canonical database is writable. -/
def acceptedSell (brokerOrderId : String) : SubmitAnswers :=
  { now := isoformat 0, clock := 0, reservationId := "r1"
    broker := .returned { brokerOrderId := brokerOrderId } }

/-- The broker accepts the SELL during an outage. -/
def acceptedInOutage (brokerOrderId : String) : EmergencySubmitAnswers :=
  { now := isoformat 0, broker := .returned { brokerOrderId := brokerOrderId } }

/-- A SELL in canonical mode, another one in the outage, which is tried again after the
reconciliation. -/
theorem submitted_at_most_once_sample :
    (submittedIds (runCalls
      [.submit (protectiveSell "c1") (.ok ()) (acceptedSell "B1"),
        .submitInOutage (protectiveSell "c2") (.ok ()) (acceptedInOutage "B2"),
        .reconcile { now := isoformat 0, clock := 0 },
        .submit (protectiveSell "c2") (.ok ()) (acceptedSell "B3")] {}).history).count "c2" ≤
          1 := by
  apply submitted_at_most_once {} rfl
  have hKnown : ∀ world key, ¬ (IsJournaled world key ∧ ¬ IsStored world key) →
      IsJournaled world key → IsStored world key := by
    intro world key hNot hJournaled
    exact not_not.mp fun hStored => hNot ⟨hJournaled, hStored⟩
  refine ⟨hKnown _ _ (by decide +kernel), ?_, trivial, hKnown _ _ (by decide +kernel), trivial⟩
  intro hStored
  exact absurd hStored (by decide +kernel)

/-- The SELL the canonical database has acknowledged is submitted again in the outage. -/
theorem sell_submitted_twice :
    ¬ ∀ (start : GatewayWorld) (calls : List GatewayCall) (clientOrderId : String),
      start.history = [] →
      (submittedIds (runCalls calls start).history).count clientOrderId ≤ 1 := by
  intro hOnce
  have hTwice := hOnce {}
    [.submit (protectiveSell "c1") (.ok ()) (acceptedSell "B1"),
      .submitInOutage (protectiveSell "c1") (.ok ()) (acceptedInOutage "B2")] "c1" rfl
  revert hTwice
  decide +kernel

end QuantApp.Services
