import QuantApp.Core.OrderLifecycle
import QuantApp.Services.CapitalLedger
import QuantApp.Services.WriteErrors

/-!
# One submission, step by step

What each part of `_do_submit` does to the durable state.  The gates and the
choice of the reservation write nothing; the prepare transaction adds the command,
the reservation and the order together; everything after it rewrites those rows.
-/

namespace QuantApp.Services

open Core Verified Verified.Procedure
open Ensures (ofExcept pure raise seq)
open CapitalReservation (reservationId)

variable {request : SubmitExecutionRequest} {record : ExecutionOrderRecord}
  {before after : GatewayWorld} {buyingPower notional openRisk limitPrice : ℚ}
  {spec : Option PortfolioRiskReservationSpec} {reservation held : CapitalReservation} {done : Unit}
  {answers : SubmitAnswers}

/-! ## The gates -/

/-- The price a submission is journaled with. -/
def submittedPrice (request : SubmitExecutionRequest) : ℚ :=
  if request.executionPolicy = reservedMooExecution then 0 else request.limitPrice.getD 0

/-- Raised before the broker could have been entered, by a call that has written
nothing. -/
def RefusedAt (world : GatewayWorld) (error : Raised) (next : GatewayWorld) : Prop :=
  next = world ∧ NotAborted error

variable {α : Type}

/-- A part of the call that writes nothing. -/
def Quiet (p : Gateway α) : Prop :=
  ∀ world, Ensures p world
    (outcomes (fun _ next => next = world) (RefusedAt world) (fun next => next = world))

/-- After a quiet part, the rest starts from the same state. -/
theorem Quiet.then {α β : Type} {p : Gateway α} {f : α → Gateway β} {world : GatewayWorld}
    {returned : β → GatewayWorld → Prop} {raised : Raised → GatewayWorld → Prop}
    {crashed : GatewayWorld → Prop} (hp : Quiet p)
    (hRaised : ∀ error, RefusedAt world error world → raised error world)
    (hCrashed : crashed world)
    (hf : ∀ value, Ensures (f value) world (outcomes returned raised crashed)) :
    Ensures (p >>= f) world (outcomes returned raised crashed) := by
  have hFirst : Ensures p world (outcomes (fun _ next => next = world) raised crashed) := by
    refine (hp world).weaken (fun _ _ hNext => hNext) ?_ ?_
    · rintro error next ⟨rfl, hError⟩
      exact hRaised error ⟨rfl, hError⟩
    · rintro next rfl
      exact hCrashed
  refine hFirst.seq ?_
  rintro value next rfl
  exact hf value

theorem Quiet.bind {α β : Type} {p : Gateway α} {f : α → Gateway β} (hp : Quiet p)
    (hf : ∀ value, Quiet (f value)) : Quiet (p >>= f) :=
  fun world => hp.then (fun _ hError => hError) rfl (fun value => hf value world)

theorem quiet_pure (value : α) : Quiet (pure value : Gateway α) := fun _ => rfl

theorem quiet_ofExcept {result : Except Raised α} (h : Errors NotAborted result) :
    Quiet (Procedure.ofExcept result : Gateway α) := by
  intro world
  exact ofExcept (fun _ _ => rfl) (fun error hError => ⟨rfl, h error hError⟩)

theorem quiet_gate (answer : GateAnswer α) : Quiet (gate answer) :=
  quiet_ofExcept (errors_gateAnswer answer)

theorem quiet_requireVerifiedLease (lease : Option ExecutionLease) (answer : GateAnswer Unit) :
    Quiet (requireVerifiedLease lease answer) := by
  unfold requireVerifiedLease
  cases lease with
  | none => exact fun _ => ⟨rfl, by simp [NotAborted]⟩
  | some => exact quiet_gate answer

/-- The price that is accepted is the one the order is journaled with. -/
theorem requireLimitPrice_ok {label : String} {price : ℚ}
    (h : requireLimitPrice label request.executionPolicy request.limitPrice = .ok price) :
    price = submittedPrice request := by
  unfold requireLimitPrice at h
  unfold submittedPrice
  split at h
  · rename_i hMoo
    rw [if_pos hMoo]
    exact (Except.ok.inj h).symm
  · rename_i hRegular
    rw [if_neg hRegular]
    cases hLimit : request.limitPrice with
    | none =>
      rw [hLimit] at h
      cases h
    | some =>
      rw [hLimit] at h
      dsimp only at h
      split at h
      · exact (Except.ok.inj h).symm
      · cases h

theorem quiet_requireEntriesReady (request : SubmitExecutionRequest) (answer : GateAnswer Unit) :
    Quiet (requireEntriesReady request answer) := by
  unfold requireEntriesReady
  split
  · exact quiet_gate _
  · exact quiet_pure _

theorem quiet_requireBuyingPower (notional : ℚ) (answer : GateAnswer ℚ) :
    Quiet (requireBuyingPower notional answer) := by
  unfold requireBuyingPower
  split
  · exact quiet_gate _
  · exact quiet_pure _

/-- What the first gates let pass. -/
structure Passed (request : SubmitExecutionRequest) (limitPrice : ℚ) : Prop where
  quantity : 0 < request.quantity
  named : request.clientOrderId ≠ ""
  price : limitPrice = submittedPrice request

theorem submitGates_ensures (request : SubmitExecutionRequest) (answers : SubmitAnswers)
    (world : GatewayWorld) :
    Ensures (submitGates request answers) world
      (outcomes (fun result next => next = world ∧ Passed request result.1) (RefusedAt world)
        (fun next => next = world)) := by
  have hRefused : ∀ error, RefusedAt world error world → RefusedAt world error world :=
    fun _ hError => hError
  unfold submitGates
  refine (quiet_gate _).then hRefused rfl fun _ => ?_
  refine (quiet_gate _).then hRefused rfl fun _ => ?_
  refine (quiet_requireVerifiedLease _ _).then hRefused rfl fun _ => ?_
  refine (quiet_requireEntriesReady _ _).then hRefused rfl fun _ => ?_
  refine (quiet_gate _).then hRefused rfl fun _ => ?_
  split
  · exact raise ⟨rfl, by simp [NotAborted, valueError]⟩
  rename_i hQuantity
  refine Ensures.seq (?_ : Ensures _ _ (outcomes
      (fun price next => next = world ∧ price = submittedPrice request) _ _)) ?_
  · refine ofExcept (fun price hPrice => ⟨rfl, requireLimitPrice_ok hPrice⟩) ?_
    exact fun error hError => ⟨rfl, errors_requireLimitPrice _ _ _ error hError⟩
  rintro limitPrice next ⟨rfl, hPrice⟩
  refine (quiet_gate _).then hRefused rfl fun spec => ?_
  split
  · exact raise ⟨rfl, by simp [NotAborted, valueError]⟩
  rename_i hNamed
  refine (quiet_requireBuyingPower _ _).then hRefused rfl fun buyingPower => ?_
  exact pure ⟨rfl, not_le.mp hQuantity, hNamed, hPrice⟩

/-! ## The rows of a submission -/

/-- The ids of the stored orders. -/
def orderIds (rows : List ExecutionOrderRecord) : List String :=
  rows.map ExecutionOrderRecord.clientOrderId

/-- The ids of the stored reservations. -/
def reservationIds (rows : List CapitalReservation) : List String :=
  rows.map CapitalReservation.reservationId

/-- `after` is `before` with the three rows of the submission: its order, its command
in `status`, and its reservation, new unless it was prepared. -/
structure SubmissionRows (request : SubmitExecutionRequest) (before : CanonicalDatabase)
    (order : ExecutionOrderRecord) (status : CommandStatus) (hold : CapitalReservation)
    (after : CanonicalDatabase) : Prop where
  named : order.clientOrderId = request.clientOrderId
  freshOrder : request.clientOrderId ∉ orderIds before.executionOrders
  orders : after.executionOrders = before.executionOrders ++ [order]
  freshCommand : submitKey request.clientOrderId ∉ commandKeys before.executionCommands
  commands : ∃ command, command.idempotencyKey = submitKey request.clientOrderId ∧
    command.status = status ∧ after.executionCommands = before.executionCommands ++ [command]
  reservations : reservationIds after.capitalReservations =
    reservationIds before.capitalReservations ++
      (if request.preparedCapitalReservationId = "" then [order.capitalReservationId] else [])
  hold : lookup CapitalReservation.reservationId order.capitalReservationId
    after.capitalReservations = some hold
  cards : after.tradeCards = before.tradeCards
  reconciliations : after.journalReconciliations = before.journalReconciliations

section Rows

variable {request : SubmitExecutionRequest} {before after written : CanonicalDatabase}
  {order record : ExecutionOrderRecord} {status : CommandStatus}
  {hold reservation : CapitalReservation}

theorem lookup_append_fresh {α : Type} {key : α → String} {rows : List α} {row : α}
    (hFresh : key row ∉ rows.map key) : lookup key (key row) (rows ++ [row]) = some row := by
  rw [lookup_append, lookup_eq_none_iff.mpr hFresh, Option.none_or]
  simp [lookup]

theorem store_append_fresh {α : Type} {key : α → String} {rows : List α} {row old : α}
    (hKey : key row = key old) (hFresh : key old ∉ rows.map key) :
    store key row (rows ++ [old]) = rows ++ [row] := by
  unfold store
  rw [List.map_append, List.map_singleton, if_pos hKey.symm]
  have hRest : rows.map (fun kept => if key kept = key row then row else kept) = rows := by
    refine (List.map_congr_left ?_).trans (List.map_id rows)
    intro kept hKept
    refine if_neg ?_
    intro hSame
    rw [hKey] at hSame
    exact hFresh (hSame ▸ List.mem_map_of_mem hKept)
  rw [hRest]

variable (h : SubmissionRows request before order status hold after)
include h

theorem SubmissionRows.order_stored :
    getExecutionOrder after.executionOrders request.clientOrderId = some order := by
  have hFresh := h.freshOrder
  rw [← h.named] at hFresh ⊢
  rw [h.orders]
  exact lookup_append_fresh hFresh

theorem SubmissionRows.writeOrder_ok {updated : ExecutionOrderRecord}
    (hNamed : record.clientOrderId = request.clientOrderId)
    (hReservation : record.capitalReservationId = order.capitalReservationId)
    (hWrite : writeOrder record after = .ok (updated, written)) :
    updated = { record with version := record.version + 1 } ∧
      SubmissionRows request before updated status hold written := by
  unfold writeOrder at hWrite
  obtain ⟨⟨orders, stored⟩, hUpdate, hWrite⟩ := bind_eq_ok.mp hWrite
  cases hWrite
  obtain ⟨_, _, hStored, hOrders⟩ := updateExecutionOrder_ok hUpdate
  have hFresh := h.freshOrder
  rw [← h.named] at hFresh
  refine ⟨hStored, ?_⟩
  exact
    { h with
      named := by rw [hStored]; exact hNamed
      orders := by
        show orders = _
        rw [hOrders, h.orders]
        refine store_append_fresh ?_ hFresh
        rw [hStored]
        exact hNamed.trans h.named.symm
      reservations := by rw [hStored]; exact hReservation ▸ h.reservations
      hold := by rw [hStored]; exact hReservation ▸ h.hold }

theorem SubmissionRows.writeResponse_ok {answer : CommandStatus}
    (hWrite : writeResponse (submitKey request.clientOrderId) answer none after = .ok (done,
      written)) :
    SubmissionRows request before order answer hold written := by
  unfold writeResponse at hWrite
  obtain ⟨⟨commands, stored⟩, hUpdate, hWrite⟩ := bind_eq_ok.mp hWrite
  cases hWrite
  obtain ⟨current, hCurrent, _, hStored, hCommands⟩ := updateCommandResponse_ok hUpdate
  obtain ⟨command, hKey, _, hRows⟩ := h.commands
  have hFresh := h.freshCommand
  rw [← hKey] at hFresh hCurrent
  rw [hRows] at hCurrent hCommands
  unfold getCommand at hCurrent
  rw [lookup_append_fresh hFresh] at hCurrent
  cases hCurrent
  refine { h with commands := ⟨stored, ?_, ?_, ?_⟩ }
  · rw [hStored]
    exact hKey
  · rw [hStored]
  · show commands = _
    rw [hCommands]
    exact store_append_fresh (by rw [hStored]) hFresh

theorem SubmissionRows.writeReservation_ok
    (hReservation : reservation.reservationId = order.capitalReservationId)
    (hWrite : writeReservation reservation after = .ok (done, written)) :
    SubmissionRows request before order status
      (writtenRow hold reservation (reservation.version + 1)) written := by
  unfold writeReservation at hWrite
  obtain ⟨⟨reservations, updated⟩, hUpdate, hWrite⟩ := bind_eq_ok.mp hWrite
  cases hWrite
  obtain ⟨stored, hStored, _, hRows, _⟩ := updateReservation_ok hUpdate
  rw [hReservation, h.hold] at hStored
  cases hStored
  have hHold : hold.reservationId = order.capitalReservationId := lookup_key h.hold
  have hKey : (writtenRow hold reservation (reservation.version + 1)).reservationId =
      order.capitalReservationId := hHold
  refine { h with reservations := ?_, hold := ?_ }
  · show reservationIds reservations = _
    rw [hRows]
    exact map_key_store.trans h.reservations
  · show lookup reservationId order.capitalReservationId reservations = _
    rw [hRows]
    have hOld := h.hold
    rw [← hKey] at hOld ⊢
    exact lookup_store_self hOld

end Rows

/-! ## Up to the broker -/

/-- The reservation a submission goes on with: the prepared one, or a new one for the
whole notional. -/
structure Chosen (request : SubmitExecutionRequest) (notional : ℚ)
    (reservation : CapitalReservation) : Prop where
  prepared : request.preparedCapitalReservationId ≠ "" →
    reservation.reservationId = request.preparedCapitalReservationId
  created : request.preparedCapitalReservationId = "" →
    reservation.isOpen = true ∧ reservation.requestedNotional = notional ∧
      reservation.remainingReservedNotional = notional

theorem submissionReservation_ensures (request : SubmitExecutionRequest)
    (answers : SubmitAnswers) (notional openRisk : ℚ) (world : GatewayWorld) :
    Ensures (submissionReservation request answers notional openRisk) world
      (outcomes (fun reservation next => next = world ∧ Chosen request notional reservation)
        (RefusedAt world) (fun next => next = world)) := by
  have hRefused : ∀ error, RefusedAt world error world → RefusedAt world error world :=
    fun _ hError => hError
  unfold submissionReservation
  split
  · rename_i hPrepared
    split
    · exact raise ⟨rfl, by simp [NotAborted]⟩
    refine Quiet.then
      (fun _ => readDatabase_ensures rfl ⟨rfl,
        notAborted_databaseError⟩ rfl) hRefused rfl fun replaced => ?_
    split
    · refine seq (readDatabase_ensures ⟨rfl, rfl⟩ ⟨rfl, notAborted_databaseError⟩ rfl
        : Ensures _ world (outcomes (fun found next => next = world ∧
            found = lookup reservationId request.preparedCapitalReservationId
              world.database.capitalReservations) (RefusedAt world) (fun next => next = world))) ?_
      rintro found next ⟨rfl, hFound⟩
      cases found with
      | none => exact raise ⟨rfl, by simp [NotAborted]⟩
      | some =>
        dsimp only
        split
        · exact pure ⟨rfl, fun _ => lookup_key hFound.symm,
            fun hNone => absurd hNone hPrepared⟩
        · exact raise ⟨rfl, by simp [NotAborted]⟩
    · exact raise ⟨rfl, by simp [NotAborted]⟩
  · rename_i hNone
    exact pure ⟨rfl, fun hPrepared => absurd hPrepared hNone, fun _ => ⟨rfl, rfl, rfl⟩⟩

/-- A reservation row holds all of `notional`. -/
structure HoldsAll (notional : ℚ) (row : CapitalReservation) : Prop where
  isOpen : row.isOpen = true
  requested : row.requestedNotional = notional
  remaining : row.remainingReservedNotional = notional

/-- What the prepare transaction does to the reservations. -/
structure Held (request : SubmitExecutionRequest) (notional : ℚ)
    (rows : List CapitalReservation) (held : CapitalReservation)
    (written : List CapitalReservation) : Prop where
  ids : reservationIds written = reservationIds rows ++
    (if request.preparedCapitalReservationId = "" then [held.reservationId] else [])
  stored : ∃ row, lookup CapitalReservation.reservationId held.reservationId written =
    some row ∧ HoldsAll notional row ∧ row.version = held.version

theorem holdReservation_ok {rows written : List CapitalReservation}
    (hChosen : Chosen request notional reservation)
    (h : holdReservation request notional openRisk buyingPower spec reservation rows =
      .ok (written, held)) :
    held.reservationId = reservation.reservationId ∧ Held request notional rows held written := by
  unfold holdReservation at h
  split at h
  · rename_i hPrepared
    obtain ⟨stored, hStored, _, _, _, _, hUpdate⟩ := activatePreparedReplacementReservation_ok h
    obtain ⟨row, hRow, _, hWritten, hHeld⟩ := updateReservation_ok hUpdate
    have hId : stored.reservationId = request.preparedCapitalReservationId := lookup_key hStored
    have hSame : row = stored := by
      have hAgain : lookup reservationId stored.reservationId rows =
          some row := hRow
      rw [hId, hStored] at hAgain
      exact (Option.some.inj hAgain).symm
    subst hSame
    have hHeldId : held.reservationId = row.reservationId := by rw [hHeld]; rfl
    refine ⟨hHeldId.trans (hId.trans (hChosen.prepared hPrepared).symm), ?_⟩
    refine
      { ids := by
          rw [if_neg hPrepared, List.append_nil, hWritten]
          exact map_key_store
        stored := ?_ }
    have hOld : ∀ version, lookup reservationId
        (writtenRow row (activatedHold row
          { environment := request.environment, accountNo := request.accountNo
            symbol := request.symbol, notional := notional, openRisk := openRisk })
          version).reservationId rows = some row := fun _ => hRow
    rw [hWritten, hHeldId]
    exact ⟨_, lookup_store_self (hOld _), ⟨rfl, rfl, rfl⟩, by rw [hHeld]; rfl⟩
  · rename_i hNone
    obtain ⟨inserted, hInsert, h⟩ := bind_eq_ok.mp h
    cases h
    obtain ⟨hFresh, hWritten, _⟩ := insertReservationIfAvailable_ok hInsert
    refine ⟨rfl, ?_⟩
    obtain ⟨hOpen, hRequested, hRemaining⟩ := hChosen.created (not_not.mp hNone)
    exact
      { ids := by
          rw [if_pos (not_not.mp hNone), hWritten]
          simp [reservationIds]
        stored := ⟨reservation, by rw [hWritten]; exact lookup_append_fresh hFresh,
          ⟨hOpen, hRequested, hRemaining⟩, rfl⟩ }

theorem prepareSubmission_ok {before after : CanonicalDatabase}
    (hChosen : Chosen request notional reservation)
    (hNamed : record.clientOrderId = request.clientOrderId)
    (hReservation : record.capitalReservationId = reservation.reservationId)
    (h : prepareSubmission request answers notional openRisk buyingPower spec reservation record
      before = .ok (held, after)) :
    record.Consistent ∧ held.reservationId = reservation.reservationId ∧
      ∃ row, SubmissionRows request before record .requested row after ∧
        HoldsAll notional row ∧ row.version = held.version := by
  unfold prepareSubmission at h
  obtain ⟨_, _, h⟩ := bind_eq_ok.mp h
  obtain ⟨commands, hCommand, h⟩ := bind_eq_ok.mp h
  obtain ⟨⟨reservations, found⟩, hHold, h⟩ := bind_eq_ok.mp h
  obtain ⟨orders, hOrder, h⟩ := bind_eq_ok.mp h
  cases h
  obtain ⟨hFreshCommand, hCommands⟩ := insertCommand_ok hCommand
  obtain ⟨hHeldId, hHeld⟩ := holdReservation_ok hChosen hHold
  obtain ⟨hConsistent, hFreshOrder, hOrders⟩ := insertExecutionOrder_ok hOrder
  obtain ⟨row, hRow, hAll, hVersion⟩ := hHeld.stored
  have hKey : (submitCommand request answers.now).idempotencyKey =
      submitKey request.clientOrderId :=
    strip_submitKey request.clientOrderIdStripped (hNamed ▸ record.clientOrderIdNamed)
  have hHeldOrder : held.reservationId = record.capitalReservationId :=
    hHeldId.trans hReservation.symm
  refine ⟨hConsistent, hHeldId, row, ?_, hAll, hVersion⟩
  exact
    { named := hNamed
      freshOrder := by
        rw [← hNamed]
        exact lookup_eq_none_iff.mp hFreshOrder
      orders := hOrders
      freshCommand := hKey ▸ hFreshCommand
      commands := ⟨_, hKey, rfl, hCommands⟩
      reservations := hHeldOrder ▸ hHeld.ids
      hold := hHeldOrder ▸ hRow
      cards := rfl
      reconciliations := rfl }

/-- The order is on its way: SUBMITTING, not identified, as the gateway wrote it. -/
structure InFlight (request : SubmitExecutionRequest) (record : ExecutionOrderRecord) : Prop where
  named : record.clientOrderId = request.clientOrderId
  status : record.status = .submitting
  identity : record.brokerIdentityStatus = .ambiguous
  unidentified : record.brokerOrderId = ""
  notAdopted : record.adoptedFromExternalOrderId = ""
  replaces : record.replacesExecutionOrderId = request.replacesExecutionOrderId
  scope : orderScope record = (request.environment, request.accountNo, request.symbol,
    request.side, request.intent)
  consistent : record.Consistent

/-- The submission has been journaled: the order is on its way and its reservation,
`held`, is stored with all of the notional. -/
structure Journaled (request : SubmitExecutionRequest) (before : GatewayWorld)
    (held : CapitalReservation) (record : ExecutionOrderRecord) (after : GatewayWorld) : Prop where
  history : after.history = before.history
  journal : after.journal = before.journal
  inFlight : InFlight request record
  heldId : held.reservationId = record.capitalReservationId
  rows : ∃ row, SubmissionRows request before.database record .requested row after.database ∧
    HoldsAll (requestedNotional request (submittedPrice request)) row ∧
    row.version = held.version

/-- Nothing has been written, or the rows of the submission have. -/
structure Opened (request : SubmitExecutionRequest) (before after : GatewayWorld) : Prop where
  history : after.history = before.history
  journal : after.journal = before.journal
  rows : after.database = before.database ∨
    ∃ order status hold, SubmissionRows request before.database order status hold after.database

/-- The failure of a call that has not come to its broker call. -/
def OpenedAt (request : SubmitExecutionRequest) (before : GatewayWorld) (error : Raised)
    (after : GatewayWorld) : Prop :=
  Opened request before after ∧ NotAborted error

theorem Opened.refl : Opened request before before := ⟨rfl, rfl, .inl rfl⟩

/-- The prepare transaction has committed `record`. -/
structure Prepared (request : SubmitExecutionRequest) (before : GatewayWorld)
    (record : ExecutionOrderRecord) (held : CapitalReservation) (after : GatewayWorld) : Prop where
  history : after.history = before.history
  journal : after.journal = before.journal
  heldId : held.reservationId = record.capitalReservationId
  rows : ∃ row, SubmissionRows request before.database record .requested row after.database ∧
    HoldsAll (requestedNotional request (submittedPrice request)) row ∧
    row.version = held.version

theorem Prepared.opened (h : Prepared request before record held after) :
    Opened request before after := by
  obtain ⟨row, hRows, _⟩ := h.rows
  exact ⟨h.history, h.journal, .inr ⟨record, .requested, row, hRows⟩⟩

theorem inFlight_of_submitting {now : IsoText} {reservationId : String}
    {hNamed : request.clientOrderId ≠ ""} {submitting : ExecutionOrderRecord}
    (h : applyStatusTransition (preparedRecord request now limitPrice reservationId hNamed)
      .submitting none now = .ok submitting) :
    InFlight request submitting ∧ submitting.capitalReservationId = reservationId := by
  obtain ⟨_, hConsistent, hUpdated⟩ := applyStatusTransition_none_ok h
  rw [hUpdated] at hConsistent ⊢
  refine ⟨?_, rfl⟩
  exact
    { named := rfl
      status := rfl
      identity := rfl
      unidentified := rfl
      notAdopted := rfl
      replaces := rfl
      scope := rfl
      consistent := hConsistent }

theorem InFlight.versioned (h : InFlight request record) (version : Int) :
    InFlight request { record with version := version } :=
  { h with
    consistent := h.consistent.versioned version }

theorem Journaled.opened (h : Journaled request before held record after) :
    Opened request before after := by
  obtain ⟨row, hRows, _⟩ := h.rows
  exact ⟨h.history, h.journal, .inr ⟨record, .requested, row, hRows⟩⟩

theorem journalSubmission_ensures {hNamed : request.clientOrderId ≠ ""}
    (hPrice : limitPrice = submittedPrice request)
    (hChosen : Chosen request (requestedNotional request limitPrice) reservation) :
    Ensures (journalSubmission request answers limitPrice buyingPower spec reservation hNamed)
      before
      (outcomes (fun result after => Journaled request before result.1 result.2 after)
        (OpenedAt request before) (Opened request before)) := by
  subst hPrice
  unfold journalSubmission
  -- the prepare transaction writes all three rows or none
  refine Ensures.seq (?_ : Ensures _ _ (outcomes (Prepared request before (preparedRecord
      request answers.now (submittedPrice request) reservation.reservationId hNamed)) _ _)) ?_
  · refine transaction_ensures ?_ ⟨Opened.refl, notAborted_databaseError⟩ Opened.refl ?_
    · intro error hError
      exact ⟨Opened.refl, errors_prepareSubmission _ _ _ _ _ _ _ _ _ error hError⟩
    · intro held database hBody
      obtain ⟨_, hHeldId, row, hRows, hAll, hVersion⟩ := prepareSubmission_ok hChosen rfl rfl hBody
      have hPrepared : Prepared request before (preparedRecord request answers.now
          (submittedPrice request) reservation.reservationId hNamed) held
          { before with database := database } :=
        ⟨rfl, rfl, hHeldId, row, hRows, hAll, hVersion⟩
      exact ⟨hPrepared, ⟨hPrepared.opened, notAborted_databaseError⟩, hPrepared.opened⟩
  intro held middle hPrepared
  refine Ensures.seq (?_ : Ensures _ _ (outcomes (fun submitting next => next = middle ∧
      InFlight request submitting ∧
      submitting.capitalReservationId = reservation.reservationId) _ _)) ?_
  · refine ofExcept (fun submitting hOk => ⟨rfl, inFlight_of_submitting hOk⟩) ?_
    exact fun error hError =>
      ⟨hPrepared.opened, errors_applyStatusTransition _ _ _ _ error hError⟩
  rintro submitting next ⟨rfl, hFlight, hReservation⟩
  obtain ⟨row, hRows, hAll, hVersion⟩ := hPrepared.rows
  refine Ensures.seq (?_ : Ensures _ _ (outcomes
      (fun record after => Journaled request before held record after) _ _)) ?_
  · refine transaction_ensures ?_ ⟨hPrepared.opened, notAborted_databaseError⟩
      hPrepared.opened ?_
    · exact fun error hError => ⟨hPrepared.opened, errors_writeOrder _ _ error hError⟩
    · intro record database hBody
      obtain ⟨hRecord, hWritten⟩ := hRows.writeOrder_ok hFlight.named hReservation hBody
      have hInFlight : InFlight request record := by
        rw [hRecord]
        exact hFlight.versioned _
      have hJournaled : Journaled request before held record { next with database := database } :=
        { history := hPrepared.history
          journal := hPrepared.journal
          inFlight := hInFlight
          heldId := by
            rw [hRecord]
            exact hPrepared.heldId.trans hReservation.symm
          rows := ⟨row, hWritten, hAll, hVersion⟩ }
      exact ⟨hJournaled, ⟨hJournaled.opened, notAborted_databaseError⟩, hJournaled.opened⟩
  intro record after hJournaled
  exact pure hJournaled

/-- What refuses leaves the rows as they are. -/
theorem opened_of_refused {α : Type} {p : Gateway α}
    {Q : α → GatewayWorld → Prop}
    (h : Ensures p before (outcomes Q (RefusedAt before) (fun next => next = before))) :
    Ensures p before (outcomes Q (OpenedAt request before) (Opened request before)) :=
  h.weaken (fun _ _ hNext => hNext) (fun _ _ hError => ⟨hError.1 ▸ Opened.refl, hError.2⟩)
    fun _ hNext => hNext ▸ Opened.refl

/-- Up to the broker, a submission has journaled its rows, or has failed or died with all
of them or none. -/
theorem openSubmission_ensures (request : SubmitExecutionRequest) (answers : SubmitAnswers)
    (before : GatewayWorld) :
    Ensures (openSubmission request answers) before
      (outcomes (fun result after => Journaled request before result.1 result.2 after)
        (OpenedAt request before) (Opened request before)) := by
  unfold openSubmission
  refine (opened_of_refused (submitGates_ensures request answers before)).seq ?_
  rintro ⟨limitPrice, spec, buyingPower⟩ next ⟨rfl, hPassed⟩
  dsimp only
  rw [dif_neg hPassed.named]
  refine (opened_of_refused (submissionReservation_ensures request answers
    (requestedNotional request limitPrice) (proposedOpenRisk spec) next)).seq ?_
  rintro reservation after ⟨rfl, hChosen⟩
  exact journalSubmission_ensures hPassed.price hChosen

end QuantApp.Services
