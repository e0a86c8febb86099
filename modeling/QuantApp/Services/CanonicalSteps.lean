import QuantApp.Services.ReplaceGuarded
import QuantApp.Services.SubmissionBoundary

/-!
# What a canonical call submits

`submit_guarded`, `replace_guarded` and `resume_replace_guarded` on the canonical
database: everything around the submit leg submits nothing and loses no command
(`Calm`), and the submit leg takes a free command key before it submits
(`CanonicalStep`).
-/

namespace QuantApp.Services

open Core Verified Verified.Procedure

variable {done : Unit} {status : CommandStatus} {request : SubmitExecutionRequest}
  {before after : GatewayWorld}

/-! ## What is recorded -/

/-- The client orders `submit_order` was entered for, in order. -/
def submittedIds (history : List GatewayEvent) : List String :=
  history.filterMap (fun event =>
    match event with
    | .submitEntered request _ => some request.clientOrderId
    | _ => none)

/-- The keys of the REQUESTED lines. -/
def journaledKeys (journal : List JournalLine) : List String :=
  journal.filterMap (fun line =>
    match line with
    | .entry { event := .requested request, .. } => some request.idempotencyKey
    | _ => none)

/-- A command with this key is stored. -/
def IsStored (world : GatewayWorld) (key : String) : Prop :=
  key ∈ commandKeys world.database.executionCommands

/-- A REQUESTED line with this key is in the journal. -/
def IsJournaled (world : GatewayWorld) (key : String) : Prop := key ∈ journaledKeys world.journal

instance (world : GatewayWorld) (key : String) : Decidable (IsStored world key) :=
  inferInstanceAs (Decidable (key ∈ commandKeys world.database.executionCommands))

instance (world : GatewayWorld) (key : String) : Decidable (IsJournaled world key) :=
  inferInstanceAs (Decidable (key ∈ journaledKeys world.journal))

/-! ## Steps that submit nothing -/

/-- Nothing is submitted or journaled, and no stored command is lost. -/
structure Calm (before after : GatewayWorld) : Prop where
  submitted : submittedIds after.history = submittedIds before.history
  journal : after.journal = before.journal
  stored : ∀ key, IsStored before key → IsStored after key

theorem calm_evolution : Evolution Calm where
  refl := fun _ => ⟨rfl, rfl, fun _ h => h⟩
  trans := fun hFirst hSecond =>
    { submitted := hSecond.submitted.trans hFirst.submitted
      journal := hSecond.journal.trans hFirst.journal
      stored := fun key h => hSecond.stored key (hFirst.stored key h) }

section

variable {α β : Type} {first : Gateway α} {rest : α → Gateway β}

theorem calm_pure (value : α) : Keeps Calm (pure value : Gateway α) :=
  keeps_pure calm_evolution value

theorem calm_raise (error : Raised) : Keeps Calm (Procedure.raise error : Gateway α) :=
  keeps_raise calm_evolution error

theorem calm_bind (h : Keeps Calm first) (hRest : ∀ value, Keeps Calm (rest value)) :
    Keeps Calm (first >>= rest) :=
  h.bind calm_evolution hRest

end

/-- The commands a body writes include the stored ones. -/
def CommandsKept (before after : CanonicalDatabase) : Prop :=
  commandKeys before.executionCommands ⊆ commandKeys after.executionCommands

theorem calm_transaction {α : Type} {outcome : CommitOutcome}
    {body : CanonicalDatabase → Except Raised (α × CanonicalDatabase)}
    (h : ∀ before value after, body before = .ok (value, after) → CommandsKept before after) :
    Keeps Calm (transaction outcome body) :=
  keeps_transaction calm_evolution fun _ value database hBody =>
    ⟨rfl, rfl, fun _ hStored => h _ value database hBody hStored⟩

theorem calm_gate {α : Type} (answer : GateAnswer α) : Keeps Calm (gate answer) :=
  keeps_ofExcept calm_evolution _

theorem calm_requireVerifiedLease (lease : Option ExecutionLease) (answer : GateAnswer Unit) :
    Keeps Calm (requireVerifiedLease lease answer) := by
  unfold requireVerifiedLease
  cases lease with
  | none => exact calm_raise _
  | some => exact calm_gate answer

section Bodies

variable {before after : CanonicalDatabase}

theorem commandsKept_insert {commands : List ExecutionCommand} {command : ExecutionCommand}
    (h : insertCommand before.executionCommands command = .ok commands) :
    commandKeys before.executionCommands ⊆ commandKeys commands := by
  rw [(insertCommand_ok h).2]
  unfold commandKeys
  rw [List.map_append]
  exact List.subset_append_left _ _

theorem commandsKept_writeOrder {record written : ExecutionOrderRecord}
    (h : writeOrder record before = .ok (written, after)) :
    after.executionCommands = before.executionCommands := by
  unfold writeOrder at h
  obtain ⟨_, _, h⟩ := bind_eq_ok.mp h
  cases h
  rfl

theorem commandsKept_writeReservation {reservation : CapitalReservation}
    (h : writeReservation reservation before = .ok (done, after)) :
    after.executionCommands = before.executionCommands := by
  unfold writeReservation at h
  obtain ⟨_, _, h⟩ := bind_eq_ok.mp h
  cases h
  rfl

theorem commandsKept_writeResponse {key : String} {version : Option Int}
    (h : writeResponse key status version before = .ok (done, after)) :
    CommandsKept before after := by
  unfold writeResponse at h
  obtain ⟨⟨commands, updated⟩, hUpdate, h⟩ := bind_eq_ok.mp h
  cases h
  unfold CommandsKept
  rw [commandKeys_updateCommandResponse hUpdate]
  exact List.Subset.refl _

end Bodies

/-! ### Cancelling -/

variable (outcome : CommitOutcome)

theorem calm_writeReservation (reservation : CapitalReservation) :
    Keeps Calm (transaction outcome (writeReservation reservation)) :=
  calm_transaction fun _ _ _ hBody => by
    unfold CommandsKept
    rw [commandsKept_writeReservation hBody]
    exact List.Subset.refl _

theorem calm_writeOrder (record : ExecutionOrderRecord) :
    Keeps Calm (transaction outcome (writeOrder record)) :=
  calm_transaction fun _ _ _ hBody => by
    unfold CommandsKept
    rw [commandsKept_writeOrder hBody]
    exact List.Subset.refl _

theorem calm_writeResponse (key : String) (status : CommandStatus) (version : Option Int) :
    Keeps Calm (transaction outcome (writeResponse key status version)) :=
  calm_transaction fun _ _ _ hBody => commandsKept_writeResponse hBody

theorem calm_prepareCancel (request : CancelExecutionRequest) (answers : CancelAnswers)
    (record : ExecutionOrderRecord) :
    Keeps Calm (transaction answers.prepare (prepareCancel request answers record)) := by
  refine calm_transaction fun before cancelling after hBody => ?_
  unfold prepareCancel at hBody
  obtain ⟨_, _, hBody⟩ := bind_eq_ok.mp hBody
  obtain ⟨commands, hInsert, hBody⟩ := bind_eq_ok.mp hBody
  obtain ⟨_, _, hBody⟩ := bind_eq_ok.mp hBody
  unfold CommandsKept
  rw [commandsKept_writeOrder hBody]
  exact commandsKept_insert hInsert

theorem calm_abortCancellation (request : CancelExecutionRequest) (record : ExecutionOrderRecord) :
    Keeps Calm (transaction outcome (abortCancellation request record)) := by
  refine calm_transaction fun before done after hBody => ?_
  unfold abortCancellation at hBody
  obtain ⟨⟨_, withOrder⟩, hOrder, hBody⟩ := bind_eq_ok.mp hBody
  have hKept := commandsKept_writeResponse hBody
  unfold CommandsKept at hKept ⊢
  rwa [commandsKept_writeOrder hOrder] at hKept

theorem calm_recordCancelFailure (request : CancelExecutionRequest)
    (answers : CancelAnswers) (ambiguous : Bool) (record : ExecutionOrderRecord) :
    Keeps Calm (transaction outcome (recordCancelFailure request answers ambiguous record)) := by
  refine calm_transaction fun before done after hBody => ?_
  unfold recordCancelFailure at hBody
  obtain ⟨⟨_, withResponse⟩, hResponse, hBody⟩ := bind_eq_ok.mp hBody
  obtain ⟨_, _, hBody⟩ := bind_eq_ok.mp hBody
  obtain ⟨⟨_, withOrder⟩, hOrder, hBody⟩ := bind_eq_ok.mp hBody
  cases hBody
  have hKept := commandsKept_writeResponse hResponse
  unfold CommandsKept at hKept ⊢
  rwa [commandsKept_writeOrder hOrder]

theorem calm_recordCancelSuccess (request : CancelExecutionRequest)
    (answers : CancelAnswers) (release : Bool) (record : ExecutionOrderRecord) :
    Keeps Calm (transaction outcome (recordCancelSuccess request answers release record)) := by
  refine calm_transaction fun before written after hBody => ?_
  unfold recordCancelSuccess at hBody
  obtain ⟨⟨_, withOrder⟩, hOrder, hBody⟩ := bind_eq_ok.mp hBody
  obtain ⟨⟨_, withResponse⟩, hResponse, hBody⟩ := bind_eq_ok.mp hBody
  have hKept := commandsKept_writeResponse hResponse
  unfold CommandsKept at hKept ⊢
  rw [commandsKept_writeOrder hOrder] at hKept
  dsimp only at hBody
  split at hBody
  · split at hBody
    · split at hBody
      · split at hBody
        · obtain ⟨⟨_, withReservation⟩, hReservation, hBody⟩ := bind_eq_ok.mp hBody
          cases hBody
          rwa [commandsKept_writeReservation hReservation]
        · cases hBody
          exact hKept
      · cases hBody
        exact hKept
    · cases hBody
  · cases hBody
    exact hKept

theorem calm_executeCancel {answer : MutationAnswer BrokerOrderStatusSnapshot}
    {event : CanonicalDatabase → GatewayEvent}
    (h : ∀ database, submittedIds [event database] = []) :
    Keeps Calm (executeScheduledMutation answer event) := by
  intro world
  have hEntered : Calm world { world with history := world.history ++ [event world.database] } := by
    refine ⟨?_, rfl, fun _ hStored => hStored⟩
    have hNone := h world.database
    unfold submittedIds at hNone ⊢
    rw [List.filterMap_append, hNone, List.append_nil]
  cases answer with
  | notEntered | crashedBefore => exact calm_evolution.refl world
  | raised | returned | observerRaised | crashedInside => exact hEntered

theorem calm_finalCancelGates (request : CancelExecutionRequest) (answers : CancelAnswers) :
    Keeps Calm (finalCancelGates request answers) := by
  unfold finalCancelGates
  refine calm_bind (calm_gate _) fun _ => ?_
  refine calm_bind (calm_requireVerifiedLease _ _) fun _ => ?_
  exact calm_bind (calm_gate _) fun _ => calm_gate _

theorem calm_doCancel (request : CancelExecutionRequest) (answers : CancelAnswers)
    (permissionCheck : ExecutionOrderRecord → Bool) (release : Bool)
    (record : ExecutionOrderRecord) :
    Keeps Calm (doCancel request answers permissionCheck release record) := by
  unfold doCancel
  split
  · exact calm_raise _
  refine calm_bind (calm_gate _) fun _ => ?_
  refine calm_bind (calm_requireVerifiedLease _ _) fun _ => ?_
  refine calm_bind (calm_gate _) fun _ => ?_
  split
  · exact calm_raise _
  refine calm_bind (calm_prepareCancel request answers record) fun cancelling => ?_
  refine calm_bind (calm_finalCancelGates request answers).attempt fun gates => ?_
  cases gates with
  | error =>
    dsimp only
    split
    · refine calm_bind (keeps_ofExcept calm_evolution _) fun restored => ?_
      refine calm_bind (calm_abortCancellation _ request restored) fun _ => ?_
      exact calm_raise _
    · exact calm_raise _
  | ok =>
    refine calm_bind (calm_executeCancel (fun _ => rfl)) fun answer => ?_
    cases answer with
    | error =>
      refine calm_bind (keeps_persistOrRaiseAmbiguous calm_evolution _
        (calm_recordCancelFailure _ request answers _ cancelling))
          fun _ => ?_
      exact calm_raise _
    | ok =>
      refine calm_bind (keeps_ofExcept calm_evolution _) fun answered => ?_
      exact keeps_persistOrRaiseAmbiguous calm_evolution _
        (calm_recordCancelSuccess _ request answers release answered)

/-! ### Around a replacement -/

theorem calm_readDatabase {α : Type} (outcome : ReadOutcome) (query : CanonicalDatabase → α) :
    Keeps Calm (readDatabase outcome query) :=
  keeps_readDatabase calm_evolution outcome query

theorem calm_releaseCurrentHold (answers : ReleaseAnswers) (reservationId : String) :
    Keeps Calm (releaseCurrentHold answers reservationId) := by
  unfold releaseCurrentHold
  refine calm_bind (calm_readDatabase _ _) fun current => ?_
  cases current with
  | none => exact calm_pure _
  | some =>
    dsimp only
    split
    · exact calm_writeReservation _ _
    · exact calm_pure _

theorem calm_releasePreparedHold (answers : ReleaseAnswers)
    (prepared : Option CapitalReservation) : Keeps Calm (releasePreparedHold answers prepared) := by
  unfold releasePreparedHold
  cases prepared with
  | none => exact calm_pure _
  | some => exact calm_releaseCurrentHold answers _

theorem calm_releaseFilledHold (release : ReleaseAnswers) (prepared : Option PreparedHold)
    (record : ExecutionOrderRecord) : Keeps Calm (releaseFilledHold release prepared record) := by
  unfold releaseFilledHold
  cases prepared with
  | none => exact calm_pure _
  | some =>
    dsimp only
    split
    · exact calm_writeReservation _ _
    · exact calm_pure _

theorem calm_validateEntryReplacement (answers : ReplaceAnswers)
    (original : ExecutionOrderRecord) (limitPrice : ℚ) :
    Keeps Calm (validateEntryReplacement answers original limitPrice) := by
  unfold validateEntryReplacement
  refine calm_bind (calm_gate _) fun _ => ?_
  refine calm_bind (calm_gate _) fun spec => ?_
  refine calm_bind (calm_gate _) fun _ => ?_
  cases spec with
  | none => exact calm_pure _
  | some =>
    dsimp only
    split
    · exact calm_raise _
    refine calm_bind (calm_readDatabase _ _) fun reservation => ?_
    split
    · exact calm_bind (calm_gate _) fun _ => calm_pure _
    · exact calm_raise _

theorem calm_validateReplacement (request : ReplaceExecutionRequest) (answers : ReplaceAnswers)
    (original : ExecutionOrderRecord) :
    Keeps Calm (validateReplacement request answers original) := by
  unfold validateReplacement
  split
  · exact calm_raise _
  split
  · exact calm_raise _
  refine calm_bind (keeps_ofExcept calm_evolution _) fun limitPrice => ?_
  split
  · exact calm_raise _
  refine calm_bind (calm_readDatabase _ _) fun existing => ?_
  split
  · exact calm_raise _
  split
  · exact calm_validateEntryReplacement answers original limitPrice
  · exact calm_pure _

theorem calm_replacementGates (request : ReplaceExecutionRequest) (answers : ReplaceAnswers)
    (original : ExecutionOrderRecord) :
    Keeps Calm (replacementGates request answers original) := by
  unfold replacementGates
  refine calm_bind (calm_gate _) fun _ => ?_
  split
  · exact calm_raise _
  · exact calm_bind (calm_requireVerifiedLease _ _) fun _ => calm_gate _

theorem calm_prepareReplacement (request : ReplaceExecutionRequest) (answers : ReplaceAnswers)
    (original : ExecutionOrderRecord) (plan : ReplacementPlan) :
    Keeps Calm (transaction answers.prepare
      (prepareReplacement request answers original plan)) := by
  refine calm_transaction fun before prepared after hBody => ?_
  unfold prepareReplacement at hBody
  obtain ⟨_, _, hBody⟩ := bind_eq_ok.mp hBody
  obtain ⟨_, _, hBody⟩ := bind_eq_ok.mp hBody
  obtain ⟨commands, hInsert, hBody⟩ := bind_eq_ok.mp hBody
  cases hBody
  exact commandsKept_insert hInsert

theorem calm_restoreHold (outcome : CommitOutcome) (hold : PreparedHold) :
    Keeps Calm (transaction outcome (restoreHold hold)) := by
  refine calm_transaction fun before done after hBody => ?_
  unfold restoreHold at hBody
  obtain ⟨_, _, hBody⟩ := bind_eq_ok.mp hBody
  cases hBody
  exact List.Subset.refl _

theorem calm_cancelOriginal (request : ReplaceExecutionRequest) (answers : ReplaceAnswers)
    (prepared : Option PreparedHold) (original : ExecutionOrderRecord) :
    Keeps Calm (cancelOriginal request answers prepared original) := by
  unfold cancelOriginal
  refine calm_bind (calm_doCancel _ _ _ _ _).attempt fun result => ?_
  cases result with
  | ok => exact calm_pure _
  | error =>
    dsimp only
    split
    · exact calm_raise _
    cases prepared with
    | none => exact calm_raise _
    | some hold =>
      exact calm_bind (calm_restoreHold _ hold) fun _ => calm_raise _

theorem calm_holdForDiscovery (commit : CommitOutcome) (cancelled : ExecutionOrderRecord) :
    Keeps Calm (holdForDiscovery commit cancelled) := by
  unfold holdForDiscovery
  split
  · refine calm_bind (keeps_ofExcept calm_evolution _) fun discovering => ?_
    exact calm_writeOrder _ discovering
  · exact calm_pure _

theorem calm_applyAuthoritativeCancelSnapshot (now : IsoText) (write : CommitOutcome)
    (record : ExecutionOrderRecord) (snapshot : BrokerOrderStatusSnapshot) :
    Keeps Calm (applyAuthoritativeCancelSnapshot now write record snapshot) := by
  unfold applyAuthoritativeCancelSnapshot
  split
  · exact calm_pure _
  dsimp only
  split
  · exact calm_pure _
  refine calm_bind (keeps_ofExcept calm_evolution _) fun settled => ?_
  exact calm_bind (calm_writeOrder _ settled) fun _ => calm_pure _

theorem calm_noteInquiry (clientOrderId : String) (row : BrokerOrderStatusSnapshot) :
    Keeps Calm (noteInquiry clientOrderId row) := by
  refine keeps_update fun world => ?_
  refine ⟨?_, rfl, fun _ hStored => hStored⟩
  unfold submittedIds
  rw [List.filterMap_append]
  exact List.append_nil _

theorem calm_waitForAuthoritativeCancelTerminal (inquiries : List Inquiry)
    (record : ExecutionOrderRecord) :
    Keeps Calm (waitForAuthoritativeCancelTerminal inquiries record) := by
  induction inquiries generalizing record with
  | nil => exact calm_pure _
  | cons inquiry later ih =>
    unfold waitForAuthoritativeCancelTerminal
    split
    · exact keeps_crash calm_evolution
    split
    · exact ih record
    refine calm_bind (calm_noteInquiry _ _) fun _ => ?_
    refine calm_bind (calm_applyAuthoritativeCancelSnapshot _ _ _ _) fun result => ?_
    dsimp only
    split
    · exact calm_pure _
    · exact ih _

theorem calm_confirmCancelled (request : ReplaceExecutionRequest) (answers : ReplaceAnswers) :
    Keeps Calm (confirmCancelled request answers) := by
  unfold confirmCancelled
  refine calm_bind (calm_readDatabase _ _) fun stored => ?_
  cases stored with
  | none => exact calm_pure _
  | some cancelled =>
    refine calm_bind (calm_holdForDiscovery _ cancelled) fun held => ?_
    split
    · exact calm_bind (calm_waitForAuthoritativeCancelTerminal _ held) fun _ =>
        calm_pure _
    · exact calm_pure _

theorem calm_requireSafeReplacement (request : ReplaceExecutionRequest)
    (answers : ReplaceAnswers) (prepared : Option PreparedHold) (filled : Int)
    (cancelled : Option ExecutionOrderRecord) :
    Keeps Calm (requireSafeReplacement request answers prepared filled cancelled) := by
  unfold requireSafeReplacement
  cases cancelled with
  | none => exact calm_raise _
  | some =>
    dsimp only
    split
    · exact calm_bind (calm_releasePreparedHold _ _) fun _ =>
        calm_raise _
    split
    · exact calm_bind (calm_releaseFilledHold _ _ _) fun _ =>
        calm_raise _
    · exact calm_pure _

theorem calm_revalidateAfterCancel (answer : GateAnswer Unit) {release : Gateway Unit}
    (h : Keeps Calm release) : Keeps Calm (revalidateAfterCancel answer release) := by
  unfold revalidateAfterCancel
  cases answer with
  | ok => exact calm_pure _
  | error => exact calm_bind h fun _ => calm_raise _

theorem calm_releaseUncoveredHold (newOrderRead : ReadOutcome) (release : ReleaseAnswers)
    (newClientOrderId reservationId : String) :
    Keeps Calm (releaseUncoveredHold newOrderRead release newClientOrderId reservationId) := by
  unfold releaseUncoveredHold
  refine calm_bind (calm_readDatabase _ _) fun stored => ?_
  split
  · exact calm_releaseCurrentHold _ _
  · exact calm_pure _

theorem calm_cancelGuarded (request : CancelExecutionRequest) (liveMutation : GateAnswer Unit)
    (recordRead : ReadOutcome) (answers : CancelAnswers) :
    Keeps Calm (cancelGuarded request liveMutation recordRead answers) := by
  unfold cancelGuarded
  apply calm_bind (calm_gate _)
  intro _
  apply calm_bind (calm_readDatabase _ _)
  intro stored
  cases stored with
  | none => exact calm_raise _
  | some => exact calm_doCancel _ _ _ _ _

/-! ## Canonical submissions -/

/-- At most `id` is submitted, under a command key that was free and is taken. -/
structure CanonicalStep (id : String) (before after : GatewayWorld) : Prop where
  journal : after.journal = before.journal
  stored : ∀ key, IsStored before key → IsStored after key
  submitted : submittedIds after.history = submittedIds before.history ∨
    submittedIds after.history = submittedIds before.history ++ [id] ∧
      ¬ IsStored before (submitKey id) ∧ IsStored after (submitKey id)

theorem canonicalStep_absorbs (id : String) : Absorbs Calm (CanonicalStep id) where
  weak := fun h => ⟨h.journal, h.stored, .inl h.submitted⟩
  left := by
    intro a b c hCalm hStep
    refine ⟨hStep.journal.trans hCalm.journal,
      fun key h => hStep.stored key (hCalm.stored key h), ?_⟩
    rcases hStep.submitted with hSame | ⟨hNew, hFree, hTaken⟩
    · exact .inl (hSame.trans hCalm.submitted)
    · exact .inr ⟨by rw [hNew, hCalm.submitted], fun h => hFree (hCalm.stored _ h), hTaken⟩
  right := by
    intro a b c hStep hCalm
    refine ⟨hCalm.journal.trans hStep.journal,
      fun key h => hCalm.stored key (hStep.stored key h), ?_⟩
    rcases hStep.submitted with hSame | ⟨hNew, hFree, hTaken⟩
    · exact .inl (hCalm.submitted.trans hSame)
    · exact .inr ⟨hCalm.submitted.trans hNew, hFree, hCalm.stored _ hTaken⟩

theorem SubmissionRows.stored {order : ExecutionOrderRecord} {hold : CapitalReservation}
    (h : SubmissionRows request before.database order status hold after.database) :
    ¬ IsStored before (submitKey request.clientOrderId) ∧
      IsStored after (submitKey request.clientOrderId) ∧
      ∀ key, IsStored before key → IsStored after key := by
  obtain ⟨command, hKey, _, hRows⟩ := h.commands
  refine ⟨h.freshCommand, ?_, fun key hKept => ?_⟩
  · unfold IsStored commandKeys
    rw [hRows, List.map_append, ← hKey]
    exact List.mem_append_right _ List.mem_cons_self
  · unfold IsStored commandKeys at hKept ⊢
    rw [hRows, List.map_append]
    exact List.mem_append_left _ hKept

theorem Opened.calm (h : Opened request before after) : Calm before after := by
  refine ⟨by rw [h.history], h.journal, ?_⟩
  rcases h.rows with hSame | ⟨order, status, hold, hRows⟩
  · intro key hKept
    unfold IsStored at hKept ⊢
    rwa [hSame]
  · exact hRows.stored.2.2

theorem doSubmit_step (request : SubmitExecutionRequest) (answers : SubmitAnswers) :
    Keeps (CanonicalStep request.clientOrderId) (doSubmit request answers) := by
  intro before
  have hEnd := doSubmit_ensures request answers before
  unfold Ensures at hEnd
  cases hEnd with
  | stopped _ _ hOpened => exact (canonicalStep_absorbs _).weak hOpened.calm
  | retired _ hRetired =>
    obtain ⟨order, hold, hRows, _⟩ := hRetired.rows
    exact ⟨hRetired.journal, hRows.stored.2.2, .inl (by rw [hRetired.history])⟩
  | entered _ _ hEntered =>
    obtain ⟨order, status, hold, hRows, _⟩ := hEntered.rows
    obtain ⟨record, _, hHistory⟩ := hEntered.history
    obtain ⟨hFree, hTaken, hKept⟩ := hRows.stored
    refine ⟨hEntered.journal, hKept, .inr ⟨?_, hFree, hTaken⟩⟩
    rw [hHistory]
    unfold submittedIds
    rw [List.filterMap_append]
    rfl

theorem submitReplacement_step {submission : SubmitExecutionRequest} {id : String}
    (hId : submission.clientOrderId = id) (answers : SubmitAnswers)
    (newOrderRead : ReadOutcome) (release : ReleaseAnswers) (hold : Option String) :
    Keeps (CanonicalStep id) (submitReplacement submission answers newOrderRead release hold) := by
  subst hId
  unfold submitReplacement
  refine (doSubmit_step submission answers).attempt.after (canonicalStep_absorbs _) fun result => ?_
  cases result with
  | ok => exact calm_pure _
  | error =>
    dsimp only
    split
    · exact calm_raise _
    cases hold with
    | none => exact calm_raise _
    | some =>
      exact calm_bind (calm_releaseUncoveredHold _ _ _ _) fun _ =>
        calm_raise _

theorem replaceGuarded_step (request : ReplaceExecutionRequest) (answers : ReplaceAnswers) :
    Keeps (CanonicalStep request.newClientOrderId) (replaceGuarded request answers) := by
  have hAbsorbs := canonicalStep_absorbs request.newClientOrderId
  unfold replaceGuarded
  refine (calm_gate _).before hAbsorbs fun _ => ?_
  refine (calm_readDatabase _ _).before hAbsorbs fun stored => ?_
  cases stored with
  | none => exact (calm_raise _).mono fun _ _ => hAbsorbs.weak
  | some =>
    refine (calm_validateReplacement _ _ _).before hAbsorbs fun plan => ?_
    refine (calm_replacementGates _ _ _).before hAbsorbs fun _ => ?_
    refine (calm_prepareReplacement _ _ _ _).before hAbsorbs fun prepared => ?_
    refine (calm_cancelOriginal _ _ _ _).before hAbsorbs fun _ => ?_
    refine (calm_confirmCancelled _ _).before hAbsorbs fun confirmed => ?_
    refine (calm_requireSafeReplacement _ _ _ _ _).before hAbsorbs fun cancelled => ?_
    refine (calm_revalidateAfterCancel _ (calm_releasePreparedHold _ _)).before hAbsorbs
      fun _ => ?_
    refine Keeps.after hAbsorbs (submitReplacement_step ?_ _ _ _ _) fun result => ?_
    · rfl
    exact calm_bind (calm_writeResponse _ _ _ _) fun _ => calm_pure _

theorem refused_step (clientOrderId : String) (error : Raised) :
    Keeps (CanonicalStep clientOrderId) (Procedure.raise error : Gateway ExecutionOrderRecord) :=
  (calm_raise error).mono fun _ _ => (canonicalStep_absorbs clientOrderId).weak

theorem resumeSubmission_step (request : ReplaceExecutionRequest) (answers : ResumeAnswers)
    (original : ExecutionOrderRecord) :
    Keeps (CanonicalStep request.newClientOrderId) (resumeSubmission request answers original) := by
  have hAbsorbs := canonicalStep_absorbs request.newClientOrderId
  unfold resumeSubmission
  refine (calm_readDatabase _ _).before hAbsorbs fun stored => ?_
  cases stored with
  | none => exact refused_step _ _
  | some =>
    dsimp only
    split
    · refine (calm_revalidateAfterCancel _ (calm_writeReservation _ _)).before hAbsorbs
        fun _ => ?_
      refine submitReplacement_step ?_ _ _ _ _
      rfl
    · exact refused_step _ _

theorem resumedReplacement_step (request : ReplaceExecutionRequest) (answers : ResumeAnswers)
    (original : ExecutionOrderRecord) (parent : ExecutionCommand)
    (existing : Option ExecutionOrderRecord) :
    Keeps (CanonicalStep request.newClientOrderId)
      (resumedReplacement request answers original parent existing) := by
  have hAbsorbs := canonicalStep_absorbs request.newClientOrderId
  unfold resumedReplacement
  cases existing with
  | some => exact (keeps_ofExcept calm_evolution _).mono fun _ _ => hAbsorbs.weak
  | none =>
    dsimp only
    split
    · exact refused_step _ _
    · exact resumeSubmission_step request answers original

theorem resumeReplaceGuarded_step (request : ReplaceExecutionRequest) (answers : ResumeAnswers) :
    Keeps (CanonicalStep request.newClientOrderId) (resumeReplaceGuarded request answers) := by
  have hAbsorbs := canonicalStep_absorbs request.newClientOrderId
  unfold resumeReplaceGuarded
  refine (calm_readDatabase _ _).before hAbsorbs fun stored => ?_
  cases stored with
  | none => exact refused_step _ _
  | some =>
    refine (keeps_ofExcept calm_evolution _).before hAbsorbs fun _ => ?_
    refine (calm_readDatabase _ _).before hAbsorbs fun parent => ?_
    cases parent with
    | none => exact refused_step _ _
    | some =>
      dsimp only
      split
      · exact refused_step _ _
      refine (calm_gate _).before hAbsorbs fun _ => ?_
      refine (calm_requireVerifiedLease _ _).before hAbsorbs fun _ => ?_
      refine (calm_readDatabase _ _).before hAbsorbs fun existing => ?_
      refine (resumedReplacement_step _ _ _ _ _).after hAbsorbs fun result => ?_
      split
      · exact calm_bind (calm_writeResponse _ _ _ _) fun _ =>
          calm_pure _
      · exact calm_pure _

end QuantApp.Services
