import QuantApp.Services.EntryAttempts

/-!
# The capital of an entry attempt

An attempt that is neither submitted nor unresolved gives its reservation back, except where the
submission finds too little capital or the reservation was committed and then failed.
-/

namespace QuantApp.Services

open Core Verified

section Endings

variable {context : AttemptContext} {trigger : EntryTrigger} {state : SymbolAttemptState}
  {store after : ReservationStore} {reservation : CapitalReservation} {result : AttemptResult}
  {ending : AttemptEnding}

/-- The outcomes that keep their reservation. -/
def AttemptOutcome.KeepsCapital (outcome : AttemptOutcome) : Prop :=
  outcome = .submitted ∨ outcome = .unresolved

/-- The submission finds too little capital. -/
def SubmitOutcome.FindsTooLittle (outcome : SubmitOutcome) : Prop :=
  ∃ message, outcome = .error { cls := .insufficientAvailableCapital, message := message }

/-- Every ending keeps its reservation just where its outcome says so, except where the submission
finds too little capital. -/
theorem attemptEnding_cases (context : AttemptContext) (state : SymbolAttemptState) (number : Int)
    (reservationId : String) (outcome : SubmitOutcome) :
    outcome.FindsTooLittle ∧
        (attemptEnding context state number reservationId outcome).releases = false ∧
        ¬ (attemptEnding context state number reservationId outcome).outcome.KeepsCapital ∨
      ¬ outcome.FindsTooLittle ∧
        ((attemptEnding context state number reservationId outcome).releases = false ↔
          (attemptEnding context state number reservationId outcome).outcome.KeepsCapital) := by
  cases outcome with
  | ok =>
    refine Or.inr ⟨(fun ⟨_, hError⟩ => nomatch hError), ?_⟩
    unfold attemptEnding AttemptOutcome.KeepsCapital
    dsimp only
    split <;> simp
  | error raised =>
    obtain ⟨cls, message⟩ := raised
    cases cls with
    | insufficientAvailableCapital =>
      refine Or.inl ⟨⟨message, rfl⟩, rfl, ?_⟩
      unfold attemptEnding AttemptOutcome.KeepsCapital
      simp
    | guardedSubmissionRejected =>
      refine Or.inr ⟨(fun ⟨_, hError⟩ => nomatch hError), ?_⟩
      unfold attemptEnding AttemptOutcome.KeepsCapital
      dsimp only
      split <;> simp
    | guardedSubmissionAmbiguous | ambiguousPostBrokerPersistence | duplicateCommand
    | duplicateOpenOrder | guardedSubmissionPreBrokerAborted | other =>
      refine Or.inr ⟨(fun ⟨_, hError⟩ => nomatch hError), ?_⟩
      unfold attemptEnding AttemptOutcome.KeepsCapital
      simp

/-- An attempt that returns has given its reservation back, or left the store as it was. -/
theorem conclude_ok (hKeyed : store.WellKeyed)
    (h : ending.conclude context trigger (some reservation) store = (.ok result, state, after)) :
    result.outcome = ending.outcome ∧
      (ending.releases = true → ¬ after.OpenIn reservation.reservationId) ∧
      (ending.releases = false → after = store) := by
  unfold AttemptEnding.conclude at h
  dsimp only at h
  split at h
  · cases h
  next released after' hReleased =>
    cases h
    refine ⟨rfl, fun hReleases => ?_, fun hKeeps => ?_⟩
    · rw [if_pos hReleases] at hReleased
      exact ReservationStore.not_openIn_of_released hKeyed hReleased
    · rw [hKeeps] at hReleased
      cases hReleased
      rfl

end Endings

/-! ## Leaks -/

/-- The attempt gets as far as its reservation. -/
structure Reaches (manager : EntryAttemptManager) (context : AttemptContext)
    (trigger : EntryTrigger) (state : SymbolAttemptState) : Prop where
  unlocked : symbolKey trigger.environment trigger.accountNo trigger.symbol ∉ manager.locked
  ready : context.cooling state = none
  unlimited : context.rateLimited state = false

/-- What an attempt asks to reserve. -/
def attemptRequest (context : AttemptContext) (trigger : EntryTrigger)
    (state : SymbolAttemptState) : ReserveRequest :=
  reserveRequest context trigger (attemptState context trigger state).attemptGroupId

/-- The reservation is committed and then reported as failed, or it is made and the submission
finds too little capital. -/
def Leaks (context : AttemptContext) (trigger : EntryTrigger) (state : SymbolAttemptState)
    (store : ReservationStore) : Prop :=
  store.CommitsUnreported context.reserveFailure context.buyingPower
      (attemptRequest context trigger state) ∨
    (∃ reservation, (store.reserveCapitalForEntry context.reserveFailure context.buyingPower
        (attemptRequest context trigger state)).1 = .ok (some reservation)) ∧
      SubmitOutcome.FindsTooLittle (context.submitOrder (submitArguments trigger
        (attemptState context trigger state) context.reservationUuid))

/-- The state of the symbol of a trigger. -/
def EntryAttemptManager.stateOf (manager : EntryAttemptManager) (trigger : EntryTrigger) :
    SymbolAttemptState :=
  (manager.states.get? (symbolKey trigger.environment trigger.accountNo trigger.symbol)).getD {}

section Attempts

variable {context : AttemptContext} {trigger : EntryTrigger} {state : SymbolAttemptState}
  {store after : ReservationStore} {result : AttemptResult}

theorem openIn_unreported {request : ReserveRequest} {failure : Option StoreFailure}
    {buyingPower : ℚ} (h : store.CommitsUnreported failure buyingPower request) :
    ReservationStore.OpenIn ⟨store.ledger, store.database.map (· ++ [request.reservation])⟩
      request.reservationId := by
  obtain ⟨rows, hRows⟩ := Option.isSome_iff_exists.mp h.1
  refine Or.inr ⟨rows ++ [request.reservation], ?_, request.reservation, ?_, rfl, rfl⟩
  · rw [hRows]
    rfl
  · exact List.mem_append_right _ List.mem_cons_self

theorem attemptEntryLocked_capital {state' : SymbolAttemptState} (hKeyed : store.WellKeyed)
    (hFresh : store.Fresh context.reservationUuid) (hReady : context.cooling state = none)
    (hUnlimited : context.rateLimited state = false)
    (h : attemptEntryLocked false context trigger state store = (.ok result, state', after)) :
    (after.OpenIn context.reservationUuid ↔ result.outcome.KeepsCapital) ↔
      ¬ Leaks context trigger state store := by
  unfold attemptEntryLocked at h
  rw [hReady] at h
  dsimp only at h
  rw [hUnlimited] at h
  simp only [Bool.false_eq_true, if_false] at h
  have hCases := ReservationStore.reserveCapitalForEntry_cases
    (attemptRequest context trigger state) hFresh context.reserveFailure context.buyingPower
  unfold Leaks
  unfold attemptRequest at hCases ⊢
  have hRejected : ¬ AttemptOutcome.KeepsCapital .rejected := by
    unfold AttemptOutcome.KeepsCapital
    simp
  have hWaiting : ¬ AttemptOutcome.KeepsCapital .waitingForCapital := by
    unfold AttemptOutcome.KeepsCapital
    simp
  rcases hCases with ⟨hReported, ⟨raised, hReserve⟩ | hReserve | hReserve⟩ |
    ⟨hUnreported, raised, hReserve⟩
  · rw [hReserve] at h ⊢
    cases h
    refine iff_of_true (iff_of_false hFresh.not_openIn hRejected) ?_
    rintro (hUnreported | ⟨⟨_, hOk⟩, -⟩)
    · exact hReported hUnreported
    · cases hOk
  · rw [hReserve] at h ⊢
    cases h
    refine iff_of_true (iff_of_false hFresh.not_openIn hWaiting) ?_
    rintro (hUnreported | ⟨⟨_, hOk⟩, -⟩)
    · exact hReported hUnreported
    · cases hOk
  · rw [hReserve] at h ⊢
    dsimp only at h
    unfold submitAttempt at h
    have hOpen := ReservationStore.openIn_added store (reserveRequest context trigger
      (attemptState context trigger state).attemptGroupId).reservation rfl
    have hAddedKeyed := hKeyed.added (reserveRequest context trigger
      (attemptState context trigger state).attemptGroupId).reservation hFresh
    obtain ⟨hOutcome, hReleased, hKept⟩ := conclude_ok hAddedKeyed h
    rw [hOutcome]
    rcases attemptEnding_cases context (attemptState context trigger state)
        (attemptNumber trigger (attemptState context trigger state)) context.reservationUuid
        (context.submitOrder (submitArguments trigger (attemptState context trigger state)
          context.reservationUuid)) with ⟨hTooLittle, hReleases, hLost⟩ | ⟨hEnough, hReleases⟩
    · have hAfter := hKept hReleases
      rw [hAfter]
      refine iff_of_false (fun hIff => hLost (hIff.mp hOpen)) (not_not.mpr ?_)
      exact Or.inr ⟨⟨_, rfl⟩, hTooLittle⟩
    · refine iff_of_true ?_ ?_
      · by_cases hKeeps : (attemptEnding context (attemptState context trigger state)
            (attemptNumber trigger (attemptState context trigger state)) context.reservationUuid
            (context.submitOrder (submitArguments trigger (attemptState context trigger state)
              context.reservationUuid))).outcome.KeepsCapital
        · have hAfter := hKept (hReleases.mpr hKeeps)
          rw [hAfter]
          exact iff_of_true hOpen hKeeps
        · refine iff_of_false (hReleased ?_) hKeeps
          rw [← Bool.not_eq_false]
          exact fun hFalse => hKeeps (hReleases.mp hFalse)
      · rintro (hUnreported | ⟨-, hTooLittle⟩)
        · exact hReported hUnreported
        · exact hEnough hTooLittle
  · rw [hReserve] at h
    cases h
    refine iff_of_false (fun hIff => ?_) (not_not.mpr (Or.inl hUnreported))
    exact hRejected (hIff.mp (openIn_unreported hUnreported))

variable {manager manager' : EntryAttemptManager}

/-- After an attempt its reservation is open just where it is submitted or unresolved, exactly
when the attempt does not leak it. -/
theorem attempt_keeps_capital_iff (hGateway : manager.gatewayOwnsCapitalReservation = false)
    (hKeyed : store.WellKeyed) (hFresh : store.Fresh context.reservationUuid)
    (hReturns : manager.attemptEntry context trigger store = (.ok result, manager', after)) :
    (after.OpenIn context.reservationUuid ↔ result.outcome.KeepsCapital) ↔
      ¬ (Reaches manager context trigger (manager.stateOf trigger) ∧
        Leaks context trigger (manager.stateOf trigger) store) := by
  -- an attempt that ends before its reservation leaves the store alone
  have hEarly : ∀ {outcome : AttemptOutcome}, ¬ outcome.KeepsCapital →
      ¬ Reaches manager context trigger (manager.stateOf trigger) →
      ((store.OpenIn context.reservationUuid ↔ outcome.KeepsCapital) ↔
        ¬ (Reaches manager context trigger (manager.stateOf trigger) ∧
          Leaks context trigger (manager.stateOf trigger) store)) := by
    intro outcome hOutcome hNot
    exact iff_of_true (iff_of_false hFresh.not_openIn hOutcome) (fun hLeaks => hNot hLeaks.1)
  unfold EntryAttemptManager.attemptEntry at hReturns
  dsimp only at hReturns
  split at hReturns
  next hLocked =>
    cases hReturns
    refine hEarly ?_ (fun hReaches => hReaches.unlocked hLocked)
    unfold AttemptOutcome.KeepsCapital
    simp
  next hUnlocked =>
    rw [hGateway] at hReturns
    obtain ⟨hResult, -, hAfter⟩ : _ ∧ _ ∧ _ := by
      simpa only [Prod.mk.injEq] using hReturns
    have hLocked : attemptEntryLocked false context trigger (manager.stateOf trigger) store =
        (.ok result, (attemptEntryLocked false context trigger (manager.stateOf trigger)
          store).2.1, after) :=
      Prod.ext hResult (Prod.ext rfl hAfter)
    cases hCooling : context.cooling (manager.stateOf trigger) with
    | some =>
      unfold attemptEntryLocked at hLocked
      rw [hCooling] at hLocked
      cases hLocked
      refine hEarly ?_ (fun hReaches => ?_)
      · unfold AttemptOutcome.KeepsCapital
        simp
      · rw [hReaches.ready] at hCooling
        cases hCooling
    | none =>
      cases hLimited : context.rateLimited (manager.stateOf trigger) with
      | true =>
        unfold attemptEntryLocked at hLocked
        rw [hCooling] at hLocked
        dsimp only at hLocked
        rw [hLimited] at hLocked
        cases hLocked
        refine hEarly ?_ (fun hReaches => ?_)
        · unfold AttemptOutcome.KeepsCapital
          simp
        · rw [hReaches.unlimited] at hLimited
          cases hLimited
      | false =>
        rw [attemptEntryLocked_capital hKeyed hFresh hCooling hLimited hLocked]
        have hReaches : Reaches manager context trigger (manager.stateOf trigger) :=
          ⟨hUnlocked, hCooling, hLimited⟩
        simp [hReaches]

end Attempts

/-! ## Two submissions -/

/-- An entry for a hundred dollars. -/
def hundredDollars : EntryTrigger :=
  { environment := "PROD"
    accountNo := "1"
    symbol := "AAPL"
    quantity := 1
    limitPrice := 100
    notional := 100 }

/-- A thousand dollars of buying power, and an answer to the submission. -/
def submitting (outcome : SubmitOutcome) : AttemptContext :=
  { now := 0
    groupUuid := "g1"
    reservationUuid := "r1"
    buyingPower := 1000
    submitOrder := fun _ => outcome }

def noReservations : ReservationStore := ⟨[], none⟩

/-- The attempt of the trigger. -/
def hundredAttempt (outcome : SubmitOutcome) :
    Except Raised AttemptResult × EntryAttemptManager × ReservationStore :=
  EntryAttemptManager.attemptEntry {} (submitting outcome) hundredDollars noReservations

def acceptedSubmission : ExecutionSubmissionResult :=
  { clientOrderId := "c1", status := .acknowledged }

/-- An order that is accepted keeps its reservation. -/
theorem attempt_keeps_capital_accepted : ∃ result,
    (hundredAttempt (.ok acceptedSubmission)).1 = .ok result ∧
    (((hundredAttempt (.ok acceptedSubmission)).2.2.OpenIn "r1" ↔ result.outcome.KeepsCapital) ↔
      ¬ (Reaches {} (submitting (.ok acceptedSubmission)) hundredDollars
          (EntryAttemptManager.stateOf {} hundredDollars) ∧
        Leaks (submitting (.ok acceptedSubmission)) hundredDollars
          (EntryAttemptManager.stateOf {} hundredDollars) noReservations)) := by
  have hResult : (hundredAttempt (.ok acceptedSubmission)).1 =
      .ok
        { trigger := hundredDollars
          outcome := .submitted
          submission := some acceptedSubmission
          reservationId := "r1"
          attemptGroupId := "g1"
          attemptCount := 1 } := by
    decide +kernel
  have hReturns : hundredAttempt (.ok acceptedSubmission) = (.ok _,
      (hundredAttempt (.ok acceptedSubmission)).2.1,
      (hundredAttempt (.ok acceptedSubmission)).2.2) :=
    Prod.ext hResult rfl
  refine ⟨_, hResult, attempt_keeps_capital_iff rfl ?_ ?_ hReturns⟩
  · exact ⟨List.nodup_nil, fun rows hRows => nomatch hRows⟩
  · exact ⟨List.not_mem_nil, fun rows hRows => nomatch hRows⟩

def tooLittleCapital : SubmitOutcome :=
  .error { cls := .insufficientAvailableCapital, message := "" }

/-- The gateway finds too little capital: the entry waits for capital, and its reservation stays
open. -/
theorem waiting_entry_holds_capital : ∃ result,
    (hundredAttempt tooLittleCapital).1 = .ok result ∧
    ¬ ((hundredAttempt tooLittleCapital).2.2.OpenIn "r1" ↔ result.outcome.KeepsCapital) := by
  have hResult : (hundredAttempt tooLittleCapital).1 =
      .ok
        { trigger := hundredDollars
          outcome := .waitingForCapital
          attemptGroupId := "g1" } := by
    decide +kernel
  have hOpen : (hundredAttempt tooLittleCapital).2.2.OpenIn "r1" := Or.inl (by decide +kernel)
  refine ⟨_, hResult, fun hIff => ?_⟩
  have hKeeps := hIff.mp hOpen
  unfold AttemptOutcome.KeepsCapital at hKeeps
  simp at hKeeps

end QuantApp.Services
