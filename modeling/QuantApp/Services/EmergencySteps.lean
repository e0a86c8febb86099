import QuantApp.Services.CanonicalSteps
import QuantApp.Services.EmergencyGateway

/-!
# What an emergency call submits

`submit_guarded` and `cancel_guarded` during an outage: an emergency submission takes a
free journal key before it submits (`EmergencyStep`), and a cancellation submits nothing.
-/

namespace QuantApp.Services

open Core Verified Verified.Procedure

variable {lines : List JournalLine} {entries : List JournalEntry}

/-! ## The parts of an emergency call -/

section Parts

variable {R : GatewayWorld → GatewayWorld → Prop} (hR : Evolution R) {outcome : AppendOutcome}
include hR

theorem keeps_readJournal : Keeps R (Procedure.ofExcept =<< Procedure.read
    (fun world : GatewayWorld => readJournal world.journal)) :=
  (keeps_read hR _).bind hR fun _ => keeps_ofExcept hR _

theorem keeps_requireEmergencyAllowance (lease : Option ExecutionLease) (answer : GateAnswer Unit) :
    Keeps R (requireEmergencyAllowance lease answer) := by
  unfold requireEmergencyAllowance
  cases lease with
  | none => exact keeps_raise hR _
  | some => exact (keeps_ofExcept hR _).bind hR fun _ => keeps_pure hR _

theorem keeps_appendEmergencyOutcome {requested : JournalEntry} {status : CommandStatus}
    {response : JournalResponse}
    (hAppend : Keeps R (appendEvent outcome (.outcome requested.sequence status response))) :
    Keeps R (appendEmergencyOutcome outcome requested status response) := by
  unfold appendEmergencyOutcome
  refine hAppend.attempt.bind hR fun result => ?_
  cases result with
  | ok => exact keeps_pure hR _
  | error => exact keeps_raise hR _

theorem keeps_doEmergencyCancel {request : CancelExecutionRequest}
    {answers : EmergencyCancelAnswers}
    (hRequested : isEmergencyCancel request = true → ∀ lease, Keeps R
      (journalRequested answers.requested (cancelJournalRequest request lease answers.now)))
    (hExecute : Keeps R (executeScheduledMutation answers.broker
      (fun _ => .emergencyCancelEntered request)))
    (hAppend : ∀ sequence status response,
      Keeps R (appendEvent answers.outcome (.outcome sequence status response))) :
    Keeps R (doEmergencyCancel request answers) := by
  unfold doEmergencyCancel
  split
  · exact keeps_raise hR _
  rename_i hExact
  refine (keeps_requireEmergencyAllowance hR _ _).bind hR fun lease => ?_
  refine (keeps_ofExcept hR _).bind hR fun _ => ?_
  refine (keeps_ofExcept hR _).bind hR fun _ => ?_
  refine (hRequested (by simpa using hExact) lease).bind hR fun requested => ?_
  unfold dispatchEmergencyCancel
  refine hExecute.bind hR fun answer => ?_
  cases answer with
  | error =>
    exact (keeps_appendEmergencyOutcome hR (hAppend _ _ _)).bind hR fun _ => keeps_raise hR _
  | ok => exact keeps_appendEmergencyOutcome hR (hAppend _ _ _)

end Parts

/-! ## Emergency submissions -/

/-- The journal may have grown; nothing else has changed. -/
structure Journaling (before after : GatewayWorld) : Prop where
  submitted : submittedIds after.history = submittedIds before.history
  database : after.database = before.database
  journaled : ∀ key, IsJournaled before key → IsJournaled after key

theorem journaling_evolution : Evolution Journaling where
  refl := fun _ => ⟨rfl, rfl, fun _ h => h⟩
  trans := fun hFirst hSecond =>
    { submitted := hSecond.submitted.trans hFirst.submitted
      database := hSecond.database.trans hFirst.database
      journaled := fun key h => hSecond.journaled key (hFirst.journaled key h) }

/-- At most `id` is submitted, under a journal key that was free and is taken. -/
structure EmergencyStep (id : String) (before after : GatewayWorld) : Prop where
  database : after.database = before.database
  journaled : ∀ key, IsJournaled before key → IsJournaled after key
  submitted : submittedIds after.history = submittedIds before.history ∨
    submittedIds after.history = submittedIds before.history ++ [id] ∧
      ¬ IsJournaled before (submitKey id) ∧ IsJournaled after (submitKey id)

theorem emergencyStep_absorbs (id : String) : Absorbs Journaling (EmergencyStep id) where
  weak := fun h => ⟨h.database, h.journaled, .inl h.submitted⟩
  left := by
    intro a b c hCalm hStep
    refine ⟨hStep.database.trans hCalm.database,
      fun key h => hStep.journaled key (hCalm.journaled key h), ?_⟩
    rcases hStep.submitted with hSame | ⟨hNew, hFree, hTaken⟩
    · exact .inl (hSame.trans hCalm.submitted)
    · exact .inr ⟨by rw [hNew, hCalm.submitted], fun h => hFree (hCalm.journaled _ h), hTaken⟩
  right := by
    intro a b c hStep hCalm
    refine ⟨hCalm.database.trans hStep.database,
      fun key h => hCalm.journaled key (hStep.journaled key h), ?_⟩
    rcases hStep.submitted with hSame | ⟨hNew, hFree, hTaken⟩
    · exact .inl (hCalm.submitted.trans hSame)
    · exact .inr ⟨hCalm.submitted.trans hNew, hFree, hCalm.journaled _ hTaken⟩

theorem journaledKeys_append (journal lines : List JournalLine) :
    journaledKeys (journal ++ lines) = journaledKeys journal ++ journaledKeys lines :=
  List.filterMap_append

theorem readJournalFrom_ok {prior : Int} (h : readJournalFrom prior lines = .ok entries) :
    lines = entries.map JournalLine.entry := by
  induction lines generalizing prior entries with
  | nil =>
    cases h
    rfl
  | cons line lines ih =>
    cases line with
    | unreadable => cases h
    | entry =>
      unfold readJournalFrom at h
      split at h
      · cases h
      · obtain ⟨rest, hRest, h⟩ := bind_eq_ok.mp h
        cases h
        rw [List.map_cons, ← ih hRest]

theorem requestedKeys_of_read (h : readJournal lines = .ok entries) :
    requestedKeys entries = journaledKeys lines := by
  rw [readJournalFrom_ok h]
  unfold requestedKeys requestedEntries journaledKeys
  rw [List.filterMap_map, List.map_filterMap]
  refine congrArg (fun f => entries.filterMap f) (funext fun entry => ?_)
  obtain ⟨sequence, event⟩ := entry
  cases event <;> rfl

variable (outcome : AppendOutcome)

theorem journaling_appendUnlocked (existing : List JournalEntry)
    (event : JournalEvent) : Keeps Journaling (appendUnlocked outcome existing event) := by
  intro world
  have hAppended : ∀ line : JournalLine,
      Journaling world { world with journal := world.journal ++ [line] } := by
    refine fun line => ⟨rfl, rfl, fun key hKey => ?_⟩
    unfold IsJournaled at hKey ⊢
    rw [journaledKeys_append]
    exact List.mem_append_left _ hKey
  cases outcome with
  | appended | shortWrite | syncFailed | crashedTorn | crashedAfter => exact hAppended _
  | lockTimeout | crashedBefore => exact journaling_evolution.refl world

theorem journaling_appendEvent (event : JournalEvent) :
    Keeps Journaling (appendEvent outcome event) := by
  unfold appendEvent
  exact (keeps_readJournal journaling_evolution).bind journaling_evolution fun existing =>
    journaling_appendUnlocked outcome existing event

/-- The REQUESTED line is in the journal, under a key that was free. -/
structure Requested (key : String) (before after : GatewayWorld) : Prop where
  journaling : Journaling before after
  free : ¬ IsJournaled before key
  taken : IsJournaled after key

theorem journalRequested_ensures (request : JournalRequest) (before : GatewayWorld) :
    Ensures (journalRequested outcome request) before
      (outcomes (fun _ => Requested request.idempotencyKey before)
        (fun _ => Journaling before) (Journaling before)) := by
  have hRefl := journaling_evolution.refl before
  have hAppend : Ensures (appendRequested outcome request) before
      (outcomes (fun _ => Requested request.idempotencyKey before)
        (fun _ => Journaling before) (Journaling before)) := by
    unfold appendRequested
    split
    · exact hRefl
    cases hRead : readJournal before.journal with
    | error error =>
      refine Ensures.of_run_eq (bind_raised (readJournal_run hRead)) ?_
      exact hRefl
    | ok existing =>
      refine Ensures.of_run_eq (bind_returned (readJournal_run hRead)) ?_
      split
      · exact hRefl
      rename_i hFree
      rw [requestedKeys_of_read hRead] at hFree
      have hJournaling := journaling_appendUnlocked outcome existing (.requested request) before
      cases outcome with
      | appended =>
        refine ⟨hJournaling, hFree, ?_⟩
        show request.idempotencyKey ∈ journaledKeys (before.journal ++ _)
        rw [journaledKeys_append]
        exact List.mem_append_right _ List.mem_cons_self
      | _ => exact hJournaling
  unfold journalRequested
  refine Ensures.seq (?_ : Ensures _ _ (outcomes (afterAttempt
    (fun _ => Requested request.idempotencyKey before) (fun _ => Journaling before)) _ _)) ?_
  · exact Ensures.attempted hAppend
  intro result after hResult
  cases result with
  | ok => exact Ensures.pure hResult
  | error => exact Ensures.raise hResult

theorem journaling_gate {α : Type} (answer : GateAnswer α) : Keeps Journaling (gate answer) :=
  keeps_ofExcept journaling_evolution _

theorem journaling_appendEmergencyOutcome (outcome : AppendOutcome) (requested : JournalEntry)
    (status : CommandStatus) (response : JournalResponse) :
    Keeps Journaling (appendEmergencyOutcome outcome requested status response) :=
  keeps_appendEmergencyOutcome journaling_evolution (journaling_appendEvent _ _)

/-- The broker call of an emergency submission submits at most its own order. -/
structure EmergencyCall (id : String) (before after : GatewayWorld) : Prop where
  database : after.database = before.database
  journaled : ∀ key, IsJournaled before key → IsJournaled after key
  submitted : submittedIds after.history = submittedIds before.history ∨
    submittedIds after.history = submittedIds before.history ++ [id]

theorem emergencyCall_absorbs (id : String) : Absorbs Journaling (EmergencyCall id) where
  weak := fun h => ⟨h.database, h.journaled, .inl h.submitted⟩
  left := fun hCalm hStep =>
    { database := hStep.database.trans hCalm.database
      journaled := fun key h => hStep.journaled key (hCalm.journaled key h)
      submitted := by rw [← hCalm.submitted]; exact hStep.submitted }
  right := fun hStep hCalm =>
    { database := hCalm.database.trans hStep.database
      journaled := fun key h => hCalm.journaled key (hStep.journaled key h)
      submitted := by rw [hCalm.submitted]; exact hStep.submitted }

variable (request : SubmitExecutionRequest)

theorem emergencyCall_execute
    (answer : MutationAnswer BrokerSubmissionResult) :
    Keeps (EmergencyCall request.clientOrderId) (executeScheduledMutation answer
      (fun database => .submitEntered request database.executionOrders)) := by
  intro world
  have hSame : EmergencyCall request.clientOrderId world world := ⟨rfl, fun _ h => h, .inl rfl⟩
  have hEntered : EmergencyCall request.clientOrderId world (entering request world) := by
    refine ⟨rfl, fun _ h => h, .inr ?_⟩
    show submittedIds (world.history ++ _) = _
    unfold submittedIds
    rw [List.filterMap_append]
    rfl
  cases answer with
  | notEntered | crashedBefore => exact hSame
  | raised | returned | observerRaised | crashedInside => exact hEntered

theorem emergencyCall_dispatch
    (answers : EmergencySubmitAnswers) (journaled : JournalRequest) (limitPrice : ℚ)
    (requested : JournalEntry) :
    Keeps (EmergencyCall request.clientOrderId)
      (dispatchEmergencySubmission request answers journaled limitPrice requested) := by
  unfold dispatchEmergencySubmission
  refine (emergencyCall_execute request _).after (emergencyCall_absorbs _) fun answer => ?_
  cases answer with
  | error =>
    exact (journaling_appendEmergencyOutcome _ _ _ _).bind journaling_evolution fun _ =>
      keeps_raise journaling_evolution _
  | ok =>
    exact (journaling_appendEmergencyOutcome _ _ _ _).bind journaling_evolution fun _ =>
      keeps_ofExcept journaling_evolution _

theorem strip_submitKey_of_stripped {id : String} (hId : strip id = id) :
    strip (submitKey id) = submitKey id := by
  by_cases hNamed : id = ""
  · rw [hNamed]
    decide +kernel
  · exact strip_submitKey hId hNamed

/-- From the REQUESTED line on, an emergency submission takes its journal key before it
submits. -/
theorem journalEmergencySubmission_step {request : SubmitExecutionRequest}
    {journaled : JournalRequest} (hKey : journaled.idempotencyKey = submitKey request.clientOrderId)
    (answers : EmergencySubmitAnswers) (limitPrice : ℚ) :
    Keeps (EmergencyStep request.clientOrderId)
      (journalEmergencySubmission request answers journaled limitPrice) := by
  intro before
  have hRequested := journalRequested_ensures answers.requested journaled before
  rw [hKey] at hRequested
  have hWeak : ∀ {after : GatewayWorld}, Journaling before after →
      EmergencyStep request.clientOrderId before after :=
    (emergencyStep_absorbs request.clientOrderId).weak
  refine ensures_left.mp ?_
  refine (hRequested.weaken (fun _ _ h => h) (fun _ _ h => hWeak h) (fun _ h => hWeak h)).seq
    fun requested middle hTaken => ensures_left.mpr ?_
  have hCall := emergencyCall_dispatch request answers journaled limitPrice requested middle
  refine ⟨hCall.database.trans hTaken.journaling.database, fun key h =>
    hCall.journaled key (hTaken.journaling.journaled key h), ?_⟩
  rcases hCall.submitted with hSame | hNew
  · exact .inl (hSame.trans hTaken.journaling.submitted)
  · exact .inr ⟨by rw [hNew, hTaken.journaling.submitted], hTaken.free,
      hCall.journaled _ hTaken.taken⟩

theorem submitJournalRequest_key (lease : ExecutionLease)
    (now : IsoText) (limitPrice : ℚ) :
    (submitJournalRequest request lease now limitPrice).idempotencyKey =
      submitKey request.clientOrderId := by
  show strip (submitKey request.clientOrderId) = submitKey request.clientOrderId
  exact strip_submitKey_of_stripped request.clientOrderIdStripped

theorem doEmergencySubmit_step
    (answers : EmergencySubmitAnswers) :
    Keeps (EmergencyStep request.clientOrderId) (doEmergencySubmit request answers) := by
  have hAbsorbs := emergencyStep_absorbs request.clientOrderId
  unfold doEmergencySubmit
  split
  · exact (keeps_raise journaling_evolution _).mono fun _ _ => hAbsorbs.weak
  refine (keeps_requireEmergencyAllowance journaling_evolution _ _).before hAbsorbs fun lease => ?_
  refine (journaling_gate _).before hAbsorbs fun _ => ?_
  refine (journaling_gate _).before hAbsorbs fun _ => ?_
  refine (keeps_ofExcept journaling_evolution _).before hAbsorbs fun limitPrice => ?_
  exact journalEmergencySubmission_step (submitJournalRequest_key _ _ _ _) answers limitPrice

theorem journaling_journalRequested (outcome : AppendOutcome) (request : JournalRequest) :
    Keeps Journaling (journalRequested outcome request) := by
  intro before
  exact ensures_left.mp ((journalRequested_ensures outcome request before).weaken
    (fun _ _ h => h.journaling) (fun _ _ h => h) (fun _ h => h))

theorem journaling_executeCancel (request : CancelExecutionRequest)
    (answer : MutationAnswer BrokerOrderStatusSnapshot) :
    Keeps Journaling (executeScheduledMutation answer
      (fun _ => .emergencyCancelEntered request)) := by
  intro world
  have hEntered : Journaling world
      { world with history := world.history ++ [.emergencyCancelEntered request] } := by
    refine ⟨?_, rfl, fun _ h => h⟩
    unfold submittedIds
    rw [List.filterMap_append]
    exact List.append_nil _
  cases answer with
  | notEntered | crashedBefore => exact journaling_evolution.refl world
  | raised | returned | observerRaised | crashedInside => exact hEntered

theorem journaling_doEmergencyCancel (request : CancelExecutionRequest)
    (answers : EmergencyCancelAnswers) : Keeps Journaling (doEmergencyCancel request answers) :=
  keeps_doEmergencyCancel journaling_evolution (fun _ _ => journaling_journalRequested _ _)
    (journaling_executeCancel request _) fun _ _ _ => journaling_appendEvent _ _

end QuantApp.Services
