import QuantApp.Core.BrokerOrder
import QuantApp.Services.ReservationStore
import QuantApp.Verified.Dictionary

/-!
# Entry attempts

`attempt_entry` of `src/services/entry_attempt_manager.py`: the retry bookkeeping of a symbol, the
reservation of capital, the submission, and what each of its outcomes does with both.
-/

namespace QuantApp.Services

open Core Verified

inductive UnifiedExecutionStatus
  | prepared
  | submitting
  | acknowledged
  | working
  | partiallyFilled
  | filled
  | cancelPending
  | cancelled
  | rejected
  | expired
  | unknown
  deriving DecidableEq

structure ExecutionSubmissionResult where
  clientOrderId : String
  status : UnifiedExecutionStatus
  brokerOrderId : String := ""
  submittedQuantity : Int := 0
  filledQuantity : Int := 0
  remainingQuantity : Int := 0
  capitalReservationId : String := ""
  ambiguous : Bool := false
  errorMessage : String := ""
  deriving DecidableEq

/-- `EntryTrigger`; its time and its priority only order the triggers of a pass. -/
structure EntryTrigger where
  environment : String
  accountNo : String
  symbol : String
  quantity : Int
  limitPrice : ℚ
  notional : ℚ
  exchange : String := "NASD"
  attemptGroupId : String := ""
  attemptNumber : Int := 0
  clientOrderId : String := ""
  deriving DecidableEq

inductive AttemptOutcome
  | submitted
  | waitingForCapital
  | symbolLocked
  | duplicateOrder
  | cooldown
  | rateLimited
  | rejected
  | brokerRejected
  | brokerRoutingRejected
  | unresolved
  deriving DecidableEq

structure AttemptResult where
  trigger : EntryTrigger
  outcome : AttemptOutcome
  submission : Option ExecutionSubmissionResult := none
  reservationId : String := ""
  attemptGroupId : String := ""
  attemptCount : Int := 0
  retryAt : Option Instant := none
  detail : String := ""
  deriving DecidableEq

structure SymbolAttemptState where
  attemptGroupId : String := ""
  attemptCount : Int := 0
  cooldownUntil : Option Instant := none
  attemptTimestamps : List Instant := []

/-! ## Submissions -/

/-- The arguments of `submit_order`; the caller's other keywords are its own. -/
structure SubmitArguments where
  environment : String
  accountNo : String
  symbol : String
  side : OrderSide := .buy
  intent : OrderIntent := .entry
  quantity : Int
  limitPrice : ℚ
  exchange : String
  attemptGroupId : String
  attemptNumber : Int
  attemptDeadlineAt : Option String := none
  capitalReservationId : String
  clientOrderId : Option String

/-- The exceptions that are told apart; `GuardedSubmissionPreBrokerAbortedError` is looked for
before `GuardedSubmissionRejectedError`, of which it is a kind. -/
inductive SubmitErrorClass
  | insufficientAvailableCapital
  | guardedSubmissionAmbiguous
  | ambiguousPostBrokerPersistence
  | duplicateCommand
  | duplicateOpenOrder
  | guardedSubmissionPreBrokerAborted
  | guardedSubmissionRejected (brokerCode : String)
  | other

structure SubmitError where
  cls : SubmitErrorClass
  message : String

abbrev SubmitOutcome := Except SubmitError ExecutionSubmissionResult

/-- A text holds another. -/
def containsText (text part : String) : Bool := decide (part.toList <:+: text.toList)

/-- A rejection that is about the exchange the order was sent to. -/
def isRoutingRejection (brokerCode detail : String) : Bool :=
  let code := upper (strip brokerCode)
  code = "APBK0656" || (code = "" && containsText (upper detail) "APBK0656")

/-! ## One attempt -/

/-- What an attempt takes from its process: the limits, the clock, the fresh ids, the answers of
the account and the broker, and what fails. -/
structure AttemptContext where
  entryRetryCooldownSeconds : Int := 3
  maxEntryAttemptsPerSymbolPerMinute : Nat := 4
  now : Instant
  groupUuid : String
  reservationUuid : String
  buyingPower : ℚ
  reserveFailure : Option StoreFailure := none
  releaseFailure : Option StoreFailure := none
  submitOrder : SubmitArguments → SubmitOutcome

namespace AttemptContext

variable (context : AttemptContext)

def retryAt : Instant := context.now + secondsToMicros context.entryRetryCooldownSeconds

variable (state : SymbolAttemptState)

/-- The time stamps of the last minute. -/
def recent : List Instant :=
  state.attemptTimestamps.filter (fun stamp => context.now - secondsToMicros 60 ≤ stamp)

/-- The symbol cools down until a time that has not come. -/
def cooling : Option Instant := state.cooldownUntil.filter (fun until_ => context.now < until_)

/-- The symbol has made all its attempts of this minute. -/
def rateLimited : Bool := context.maxEntryAttemptsPerSymbolPerMinute ≤ (context.recent state).length

end AttemptContext

/-- How an attempt ends once the broker or the gateway has answered: whether its reservation is
given back, what becomes of the state of the symbol (before and after it is given back), and the
fields of the result. -/
structure AttemptEnding where
  releases : Bool
  stateBefore : SymbolAttemptState
  state : SymbolAttemptState
  outcome : AttemptOutcome
  submission : Option ExecutionSubmissionResult := none
  reservationId : String := ""
  retryAt : Option Instant := none
  detail : String

/-- The branches behind `submit_order`. -/
def attemptEnding (context : AttemptContext) (state : SymbolAttemptState) (attemptNumber : Int)
    (reservationId : String) : SubmitOutcome → AttemptEnding
  | .error { cls, message } =>
    let consumed := max state.attemptCount attemptNumber
    let stamped := state.attemptTimestamps ++ [context.now]
    match cls with
    | .insufficientAvailableCapital =>
      { releases := false
        stateBefore := state
        state := state
        outcome := .waitingForCapital
        detail := message }
    | .guardedSubmissionAmbiguous | .ambiguousPostBrokerPersistence | .duplicateCommand =>
      { releases := false
        stateBefore := state
        state := { state with attemptCount := consumed, attemptTimestamps := stamped }
        outcome := .unresolved
        detail := message }
    | .duplicateOpenOrder =>
      { releases := true
        stateBefore := state
        state := state
        outcome := .duplicateOrder
        reservationId := reservationId
        detail := message }
    | .guardedSubmissionPreBrokerAborted =>
      { releases := true
        stateBefore := state
        state := { state with attemptCount := consumed, cooldownUntil := some context.retryAt }
        outcome := .rejected
        reservationId := reservationId
        retryAt := some context.retryAt
        detail := message }
    | .guardedSubmissionRejected brokerCode =>
      if isRoutingRejection brokerCode message then
        { releases := true
          stateBefore := state
          state :=
            { state with
              attemptCount := consumed
              attemptTimestamps := stamped
              cooldownUntil := some context.retryAt }
          outcome := .brokerRoutingRejected
          reservationId := reservationId
          retryAt := some context.retryAt
          detail := message }
      else
        { releases := true
          stateBefore := state
          state := { state with attemptCount := consumed, attemptTimestamps := stamped }
          outcome := .brokerRejected
          reservationId := reservationId
          detail := message }
    | .other =>
      { releases := true
        stateBefore := state
        state := { state with cooldownUntil := some context.retryAt }
        outcome := .rejected
        reservationId := reservationId
        retryAt := some context.retryAt
        detail := message }
  | .ok submission =>
    let counted :=
      { state with
        attemptCount := attemptNumber
        attemptTimestamps := state.attemptTimestamps ++ [context.now] }
    let used :=
      if submission.capitalReservationId ≠ "" then submission.capitalReservationId
      else reservationId
    if submission.status = .rejected then
      { releases := true
        stateBefore := counted
        state := { counted with cooldownUntil := some context.retryAt }
        outcome := .rejected
        submission := some submission
        reservationId := used
        retryAt := some context.retryAt
        detail := submission.errorMessage }
    else
      { releases := false
        stateBefore := counted
        state := counted
        outcome := .submitted
        submission := some submission
        reservationId := used
        detail := "" }

/-- The end of an attempt: a reservation that is given back may fail to be. -/
def AttemptEnding.conclude (ending : AttemptEnding) (context : AttemptContext)
    (trigger : EntryTrigger) (reservation : Option CapitalReservation) (store : ReservationStore) :
    Except Raised AttemptResult × SymbolAttemptState × ReservationStore :=
  let released :=
    match reservation with
    | some reservation =>
      if ending.releases then
        store.releaseReservation context.releaseFailure reservation.reservationId context.now
      else (.ok none, store)
    | none => (.ok none, store)
  match released with
  | (.error raised, store) => (.error raised, ending.stateBefore, store)
  | (.ok _, store) =>
    (.ok
      { trigger := trigger
        outcome := ending.outcome
        submission := ending.submission
        reservationId := ending.reservationId
        attemptGroupId := ending.state.attemptGroupId
        attemptCount := ending.state.attemptCount
        retryAt := ending.retryAt
        detail := ending.detail },
      ending.state, store)

/-- The number of an attempt. -/
def attemptNumber (trigger : EntryTrigger) (state : SymbolAttemptState) : Int :=
  if trigger.attemptNumber ≠ 0 then trigger.attemptNumber else state.attemptCount + 1

/-- What an attempt submits. -/
def submitArguments (trigger : EntryTrigger) (state : SymbolAttemptState) (reservationId : String) :
    SubmitArguments :=
  { environment := trigger.environment
    accountNo := trigger.accountNo
    symbol := trigger.symbol
    quantity := trigger.quantity
    limitPrice := trigger.limitPrice
    exchange := trigger.exchange
    attemptGroupId := state.attemptGroupId
    attemptNumber := attemptNumber trigger state
    capitalReservationId := reservationId
    clientOrderId := if trigger.clientOrderId ≠ "" then some trigger.clientOrderId else none }

variable (context : AttemptContext)

/-- The submission of an attempt. -/
def submitAttempt (trigger : EntryTrigger) (state : SymbolAttemptState)
    (reservation : Option CapitalReservation) (store : ReservationStore) :
    Except Raised AttemptResult × SymbolAttemptState × ReservationStore :=
  let reservationId := (reservation.map CapitalReservation.reservationId).getD ""
  (attemptEnding context state (attemptNumber trigger state) reservationId
    (context.submitOrder (submitArguments trigger state reservationId))).conclude context trigger
    reservation store

/-- The reservation that an attempt asks for. -/
def reserveRequest (trigger : EntryTrigger) (attemptGroupId : String) : ReserveRequest :=
  { reservationId := context.reservationUuid
    environment := trigger.environment
    accountNo := trigger.accountNo
    symbol := trigger.symbol
    attemptGroupId := attemptGroupId
    requestedNotional := trigger.notional }

/-- The state of a symbol when its attempt begins: the group is the trigger's, the one at hand or
a fresh one. -/
def attemptState (trigger : EntryTrigger) (state : SymbolAttemptState) : SymbolAttemptState :=
  { state with
    attemptTimestamps := context.recent state
    attemptGroupId :=
      if trigger.attemptGroupId ≠ "" then trigger.attemptGroupId
      else if state.attemptGroupId ≠ "" then state.attemptGroupId
      else context.groupUuid }

def attemptEntryLocked (gatewayOwnsCapitalReservation : Bool) (context : AttemptContext)
    (trigger : EntryTrigger) (state : SymbolAttemptState) (store : ReservationStore) :
    Except Raised AttemptResult × SymbolAttemptState × ReservationStore :=
  match context.cooling state with
  | some cooldownUntil =>
    (.ok
      { trigger := trigger
        outcome := .cooldown
        attemptGroupId := state.attemptGroupId
        attemptCount := state.attemptCount
        retryAt := some cooldownUntil
        detail := "Cooling down until " ++ (isoformat cooldownUntil).text },
      state, store)
  | none =>
    if context.rateLimited state then
      (.ok
        { trigger := trigger
          outcome := .rateLimited
          attemptGroupId := state.attemptGroupId
          attemptCount := state.attemptCount
          retryAt := (context.recent state).min?.map (· + secondsToMicros 60)
          detail := "Max entry attempts per symbol per minute reached" },
        { state with attemptTimestamps := context.recent state }, store)
    else
      let state := attemptState context trigger state
      if gatewayOwnsCapitalReservation then submitAttempt context trigger state none store
      else
        match store.reserveCapitalForEntry context.reserveFailure context.buyingPower
            (reserveRequest context trigger state.attemptGroupId) with
        | (.error raised, store) =>
          (.ok
            { trigger := trigger
              outcome := .rejected
              attemptGroupId := state.attemptGroupId
              attemptCount := state.attemptCount
              retryAt := some context.retryAt
              detail := "Capital reservation check failed: " ++ raised.message },
            { state with cooldownUntil := some context.retryAt }, store)
        | (.ok none, store) =>
          (.ok
            { trigger := trigger
              outcome := .waitingForCapital
              attemptGroupId := state.attemptGroupId
              attemptCount := state.attemptCount
              detail := "Capital not currently available" },
            state, store)
        | (.ok (some reservation), store) =>
          submitAttempt context trigger state (some reservation) store

/-! ## The manager -/

abbrev SymbolKey := String × String × String

def symbolKey (environment accountNo symbol : String) : SymbolKey :=
  (upper environment, accountNo, upper symbol)

/-- `EntryAttemptManager`: the symbols whose lock is held, and their states. -/
structure EntryAttemptManager where
  gatewayOwnsCapitalReservation : Bool := false
  locked : List SymbolKey := []
  states : Dictionary SymbolKey SymbolAttemptState := ∅

def EntryAttemptManager.attemptEntry (manager : EntryAttemptManager) (context : AttemptContext)
    (trigger : EntryTrigger) (store : ReservationStore) :
    Except Raised AttemptResult × EntryAttemptManager × ReservationStore :=
  let key := symbolKey trigger.environment trigger.accountNo trigger.symbol
  if key ∈ manager.locked then
    (.ok
      { trigger := trigger
        outcome := .symbolLocked
        detail := "Another attempt for this symbol is already in progress" },
      manager, store)
  else
    let (result, state, store) := attemptEntryLocked manager.gatewayOwnsCapitalReservation context
      trigger ((manager.states.get? key).getD {}) store
    (result, { manager with states := manager.states.set key state }, store)

end QuantApp.Services
