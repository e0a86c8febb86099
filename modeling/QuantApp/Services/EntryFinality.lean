import QuantApp.Services.EntryAttempts
import QuantApp.Services.EntryOrderResolution

/-!
# The finality of an entry order

`resolve_entry_order` of `src/services/entry_attempt_manager.py` over any sequence of heartbeats:
the order is cancelled only while it is open, its capital is settled once it is closed, and not
before.
-/

namespace QuantApp.Services

open Core Verified

/-! ## One heartbeat -/

/-- What one call takes from its caller: the order as the broker reports it, the flags, the clock,
and what fails. -/
structure HeartbeatCall where
  order : BrokerOrder
  atDeadline : Bool
  cancelRequested : Bool
  now : Instant
  entryRetryCooldownSeconds : Int := 3
  cancelFailure : Option Raised := none
  consumeFailure : Option StoreFailure := none
  releaseFailure : Option StoreFailure := none

/-- What one call returns or raises, whether it has called `cancel_order`, and what it leaves. -/
structure HeartbeatResult where
  action : Except Raised AttemptDeadlineAction
  cancelled : Bool := false
  manager : EntryAttemptManager
  store : ReservationStore

def settleReservationForOrder (call : HeartbeatCall) (store : ReservationStore) :
    Except Raised Unit × ReservationStore :=
  let order := call.order
  if order.capitalReservationId = "" then (.ok (), store)
  else
    let filledNotional := order.filledQuantity * order.avgFillPrice
    let consumed :=
      if 0 < filledNotional then
        store.consumeReservation call.consumeFailure order.capitalReservationId filledNotional
      else (.ok none, store)
    match consumed with
    | (.error raised, store) => (.error raised, store)
    | (.ok _, store) =>
      let (released, store) := store.releaseReservation call.releaseFailure
        order.capitalReservationId call.now
      (released.map (fun _ => ()), store)

def EntryAttemptManager.resolveEntryOrder (manager : EntryAttemptManager) (call : HeartbeatCall)
    (store : ReservationStore) : HeartbeatResult :=
  let order := call.order
  let action := decideAttemptDeadlineAction order
  let key := symbolKey order.environment order.accountNo order.symbol
  let manager := { manager with states := manager.states.setDefault key {} }
  if action = .stillWorking then
    if call.atDeadline || call.cancelRequested then
      { action :=
          match call.cancelFailure with
          | some raised => .error raised
          | none => .ok .awaitCancelConfirmation
        cancelled := true
        manager := manager
        store := store }
    else { action := .ok action, manager := manager, store := store }
  else if action = .awaitCancelConfirmation ∨ action = .blockSymbolPendingReconciliation then
    { action := .ok action, manager := manager, store := store }
  else
    match settleReservationForOrder call store with
    | (.error raised, store) => { action := .error raised, manager := manager, store := store }
    | (.ok _, store) =>
      let state := (manager.states.get? key).getD {}
      let manager :=
        if action = .confirmedCancelledZeroFill ∨ action = .releaseAndRetryAfterCooldown then
          { manager with
            states := manager.states.set key
              { state with
                cooldownUntil :=
                  some (call.now + secondsToMicros call.entryRetryCooldownSeconds) } }
        else manager
      { action := .ok action, manager := manager, store := store }

section Heartbeats

variable {call : HeartbeatCall} {store after : ReservationStore} {id : String}

/-- What the broker's finality asks of a call: it cancels an open order only, settles a closed one
and leaves the capital of an open one alone. -/
structure DrivenByFinality (id : String) (before : ReservationStore) (call : HeartbeatCall)
    (result : HeartbeatResult) : Prop where
  cancels_open : result.cancelled = true → isClosedStatus call.order.status = false
  settles_closed : isClosedStatus call.order.status = true → ¬ result.store.OpenIn id
  leaves_open : isClosedStatus call.order.status = false → result.store = before

theorem isClosedStatus_iff (order : BrokerOrder) (hExpired : order.status ≠ .expired) :
    isClosedStatus order.status = (decideAttemptDeadlineAction order).isTerminal := by
  unfold decideAttemptDeadlineAction
  cases hStatus : order.status with
  | expired => exact absurd hStatus hExpired
  | cancelled =>
    dsimp only
    split <;> rfl
  | created | submitting | accepted | rejected | working | unknownSubmissionState
  | partiallyFilled | filled | cancelRequested | unknown => rfl

/-- The settlement of a reservation that is in step closes it. -/
theorem settle_closes (hInStep : store.InStep id) (hOrder : call.order.capitalReservationId = id)
    (hNamed : id ≠ "") (hConsume : call.consumeFailure = none)
    (hRelease : call.releaseFailure = none) :
    ∃ after, settleReservationForOrder call store = (.ok (), after) ∧ after.InStep id ∧
      ¬ after.OpenIn id := by
  have hReleased : ∀ {store : ReservationStore}, store.InStep id → ∃ result after,
      store.releaseReservation none id call.now = (.ok result, after) ∧ after.InStep id :=
    fun hStep => ReservationStore.mutateReservation_returns hStep (fun _ => rfl) (fun _ => rfl)
  have hConsumed : ∀ notional, ∃ result after,
      store.consumeReservation none id notional = (.ok result, after) ∧ after.InStep id := by
    intro notional
    refine ReservationStore.mutateReservation_returns hInStep (fun reservation => ?_)
      (fun reservation => ?_)
    all_goals
      unfold CapitalReservation.consume
      dsimp only
      split <;> rfl
  unfold settleReservationForOrder
  dsimp only
  rw [hOrder, hConsume, hRelease, if_neg hNamed]
  by_cases hFilled : 0 < (call.order.filledQuantity : ℚ) * call.order.avgFillPrice
  · obtain ⟨consumed, between, hBetween, hStep⟩ := hConsumed
      ((call.order.filledQuantity : ℚ) * call.order.avgFillPrice)
    obtain ⟨released, after, hAfter, hAfterStep⟩ := hReleased hStep
    rw [if_pos hFilled, hBetween]
    dsimp only
    rw [hAfter]
    exact ⟨after, rfl, hAfterStep, ReservationStore.not_openIn_of_released hStep.toWellKeyed hAfter⟩
  · obtain ⟨released, after, hAfter, hAfterStep⟩ := hReleased hInStep
    rw [if_neg hFilled]
    dsimp only
    rw [hAfter]
    exact ⟨after, rfl, hAfterStep,
      ReservationStore.not_openIn_of_released hInStep.toWellKeyed hAfter⟩

/-- The order is not expired, and nothing fails that settles its capital. -/
structure Concluded (call : HeartbeatCall) : Prop where
  notExpired : call.order.status ≠ .expired
  consumes : isClosedStatus call.order.status = true → call.consumeFailure = none
  releases : isClosedStatus call.order.status = true → call.releaseFailure = none

/-- One call that meets the condition is driven by the broker's finality. -/
theorem resolveEntryOrder_driven (manager : EntryAttemptManager) (hInStep : store.InStep id)
    (hOrder : call.order.capitalReservationId = id) (hNamed : id ≠ "") (hCall : Concluded call) :
    DrivenByFinality id store call (manager.resolveEntryOrder call store) ∧
      (manager.resolveEntryOrder call store).store.InStep id := by
  have hClosed := isClosedStatus_iff call.order hCall.notExpired
  unfold EntryAttemptManager.resolveEntryOrder
  dsimp only
  cases hAction : decideAttemptDeadlineAction call.order with
  | stillWorking =>
    rw [hAction] at hClosed
    rw [if_pos rfl]
    split
    all_goals
      exact ⟨⟨fun _ => hClosed, fun hNot => absurd (hClosed.symm.trans hNot) (by decide),
        fun _ => rfl⟩, hInStep⟩
  | awaitCancelConfirmation | blockSymbolPendingReconciliation =>
    rw [hAction] at hClosed
    rw [if_neg (by decide), if_pos (by decide)]
    exact ⟨⟨fun _ => hClosed, fun hNot => absurd (hClosed.symm.trans hNot) (by decide),
      fun _ => rfl⟩, hInStep⟩
  | moveToOpenPosition | confirmedCancelledWithFill | confirmedCancelledZeroFill
  | releaseAndRetryAfterCooldown =>
    rw [hAction] at hClosed
    obtain ⟨after, hSettled, hStep, hNotOpen⟩ := settle_closes hInStep hOrder hNamed
      (hCall.consumes hClosed) (hCall.releases hClosed)
    rw [if_neg (by decide), if_neg (by decide), hSettled]
    exact ⟨⟨(fun hCancelled => nomatch hCancelled), fun _ => hNotOpen,
      fun hOpen => absurd (hClosed.symm.trans hOpen) (by decide)⟩, hStep⟩

end Heartbeats

/-! ## Any sequence of heartbeats -/

/-- Every call of a run is driven by the broker's finality. -/
def RunDriven (id : String) :
    EntryAttemptManager → ReservationStore → List HeartbeatCall → Prop
  | _, _, [] => True
  | manager, store, call :: rest =>
    DrivenByFinality id store call (manager.resolveEntryOrder call store) ∧
      RunDriven id (manager.resolveEntryOrder call store).manager
        (manager.resolveEntryOrder call store).store rest

/-- In every run of calls on an order with a reservation that meet the condition, the order is
cancelled while it is open only, and its capital is settled by the first call that sees it closed
and by no call that does not. -/
theorem entry_resolution_driven {id : String} (hNamed : id ≠ "") {store : ReservationStore}
    (hInStep : store.InStep id) (manager : EntryAttemptManager) {calls : List HeartbeatCall}
    (hOrder : ∀ call ∈ calls, call.order.capitalReservationId = id)
    (hCalls : ∀ call ∈ calls, Concluded call) : RunDriven id manager store calls := by
  induction calls generalizing manager store with
  | nil => trivial
  | cons call rest ih =>
    obtain ⟨hDriven, hStep⟩ := resolveEntryOrder_driven manager hInStep
      (hOrder call List.mem_cons_self) hNamed (hCalls call List.mem_cons_self)
    exact ⟨hDriven, ih hStep _ (fun later hLater => hOrder later (List.mem_cons_of_mem _ hLater))
      (fun later hLater => hCalls later (List.mem_cons_of_mem _ hLater))⟩

/-! ## An expired order -/

/-- An entry order of one share with a reservation. -/
def reservedOrder (status : OrderStatus) : BrokerOrder :=
  { clientOrderId := "c1"
    environment := "PROD"
    accountNo := "1"
    symbol := "AAPL"
    side := .buy
    intent := .entry
    quantityRequested := 1
    limitPrice := 100
    status := status
    capitalReservationId := "r1" }

def heartbeat (status : OrderStatus) : HeartbeatCall :=
  { order := reservedOrder status, atDeadline := true, cancelRequested := false, now := 0 }

def oneReservation : ReservationStore :=
  ⟨[CapitalReservation.create "r1" "PROD" "1" "AAPL" "g1" 100 0], none⟩

/-- A working order is cancelled at its deadline, and its cancellation settles the reservation. -/
theorem entry_resolution_driven_cancelled : RunDriven "r1" {} oneReservation
    [heartbeat .working, heartbeat .cancelRequested, heartbeat .cancelled] := by
  have hInStep : oneReservation.InStep "r1" := by
    refine ⟨⟨by decide, fun rows hRows => ?_⟩, fun rows _ _ hRows => ?_⟩
    all_goals cases hRows
  refine entry_resolution_driven (by decide) hInStep {} (by decide) (fun call hCall => ?_)
  rcases List.mem_cons.mp hCall with rfl | hCall
  · exact ⟨by decide, fun _ => rfl, fun _ => rfl⟩
  rcases List.mem_cons.mp hCall with rfl | hCall
  · exact ⟨by decide, fun _ => rfl, fun _ => rfl⟩
  rcases List.mem_cons.mp hCall with rfl | hCall
  · exact ⟨by decide, fun _ => rfl, fun _ => rfl⟩
  · cases hCall

/-- An expired order is cancelled at its deadline, and its reservation stays open. -/
theorem expired_order_is_cancelled :
    (EntryAttemptManager.resolveEntryOrder {} (heartbeat .expired) oneReservation).cancelled =
        true ∧
      (EntryAttemptManager.resolveEntryOrder {} (heartbeat .expired) oneReservation).store.OpenIn
        "r1" ∧
      ¬ RunDriven "r1" {} oneReservation [heartbeat .expired] := by
  refine ⟨rfl, Or.inl ⟨_, List.mem_cons_self, rfl, rfl⟩, fun hDriven => ?_⟩
  exact absurd (hDriven.1.cancels_open rfl) (by decide)

end QuantApp.Services
