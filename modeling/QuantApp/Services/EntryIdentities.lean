import QuantApp.Services.EmergencySteps
import QuantApp.Services.EntryAttempts

/-!
# The identities of entries

`derive_execution_client_order_id` of `src/core/execution_request.py`, `prepare_entry_identity` and
the guarded `submit_order` of `src/services/buyboard_runtime.py`, and the attempts of one symbol
with restarts, resets and changes of its attempt group in between.  A card may hand over an
identity a second time; the command that the gateway has stored under it keeps the broker from
being entered again.
-/

namespace QuantApp.Services

open Core Verified Verified.Procedure

variable {submitOrder : SubmitArguments → SubmitOutcome} {arguments : SubmitArguments}
  {a b : AttemptIdentity}

/-! ## The derivation -/

/-- What an identity is derived from; the intent is the text of its value. -/
structure AttemptIdentity where
  attemptGroupId : String
  attemptNumber : Int
  environment : String
  accountNo : String
  symbol : String
  intent : String

namespace AttemptIdentity

/-- The fields behind the number, as they are joined. -/
def owner (identity : AttemptIdentity) : String :=
  "|" ++ upper (strip identity.environment) ++ "|" ++ strip identity.accountNo ++ "|" ++
    upper (strip identity.symbol) ++ "|" ++ upper (strip identity.intent)

/-- The text that is hashed. -/
def canonical (identity : AttemptIdentity) : String :=
  strip identity.attemptGroupId ++ "|" ++ toString identity.attemptNumber ++ identity.owner

end AttemptIdentity

def isIdentityChar (c : Char) : Bool := c.isUpper || c.isDigit || c = '_' || c = '-'

/-- `re.sub(r"[^A-Z0-9_-]+", "-", …)`; the flag says that the run before has been replaced. -/
def dashed : Bool → List Char → List Char
  | _, [] => []
  | replaced, c :: rest =>
    if isIdentityChar c then c :: dashed false rest
    else if replaced then dashed true rest
    else '-' :: dashed true rest

/-- The readable part of an identity. -/
def identityPrefix (canonical : String) : String :=
  let chars := (dashed false (upper canonical).toList).dropWhile (· = '-')
  String.ofList ((chars.reverse.dropWhile (· = '-')).reverse.take 100)

/-- `derive_execution_client_order_id`; `digest` is `hexdigest()[:20].upper()` of the hash. -/
def deriveExecutionClientOrderId (digest : String → String) (identity : AttemptIdentity) : String :=
  identityPrefix identity.canonical ++ "-" ++ digest identity.canonical

/-! ## The card -/

/-- What `prepare_entry_identity` returns, the card it leaves and what it derived from. -/
structure PreparedIdentity where
  clientOrderId : String
  attemptGroupId : String
  attemptNumber : Int
  card : TradeCardState
  derived : Option AttemptIdentity := none

/-- `prepare_entry_identity`; `uuid` is the fresh group of a card that has none. -/
def EntryRun.prepareEntryIdentity (digest : String → String) (uuid : String)
    (card : TradeCardState) (attemptGroupId : String) (attemptNumber : Int) : PreparedIdentity :=
  if card.entryClientOrderId ≠ "" then
    { clientOrderId := card.entryClientOrderId
      attemptGroupId :=
        if card.entryAttemptGroupId ≠ "" then card.entryAttemptGroupId else attemptGroupId
      attemptNumber :=
        if card.entryPendingAttemptNumber ≠ 0 then card.entryPendingAttemptNumber
        else attemptNumber
      card := card }
  else
    let groupId :=
      if card.entryAttemptGroupId ≠ "" then card.entryAttemptGroupId
      else if attemptGroupId ≠ "" then attemptGroupId
      else uuid
    let number := max 1 (if attemptNumber ≠ 0 then attemptNumber else card.entryAttemptCount + 1)
    let identity : AttemptIdentity :=
      { attemptGroupId := groupId
        attemptNumber := number
        environment := card.environment
        accountNo := card.accountNo
        symbol := card.symbol
        intent := "ENTRY" }
    let clientOrderId := deriveExecutionClientOrderId digest identity
    { clientOrderId := clientOrderId
      attemptGroupId := groupId
      attemptNumber := number
      card :=
        { card with
          entryAttemptGroupId := groupId
          entryPendingAttemptNumber := number
          entryClientOrderId := clientOrderId
          entrySubmissionUnresolved := false }
      derived := some identity }

def prepareEntryAttempt (digest : String → String) (uuid : String) (card : TradeCardState) :
    PreparedIdentity :=
  EntryRun.prepareEntryIdentity digest uuid card card.entryAttemptGroupId
    (if card.entryPendingAttemptNumber ≠ 0 then card.entryPendingAttemptNumber
      else card.entryAttemptCount + 1)

/-- The manager of a process that has just started, after `restore_symbol_state`. -/
def restoredManager (card : TradeCardState) : EntryAttemptManager :=
  { gatewayOwnsCapitalReservation := true
    states :=
      if card.nextRetryAt = none ∧ card.entryAttemptGroupId = "" ∧ card.entryAttemptCount = 0 then ∅
      else
        (∅ : Dictionary SymbolKey SymbolAttemptState).set
          (symbolKey card.environment card.accountNo card.symbol)
          { attemptGroupId := card.entryAttemptGroupId
            attemptCount := card.entryAttemptCount
            cooldownUntil := card.nextRetryAt } }

/-! ## Runs -/

/-- How far a submission comes: it is refused on the way, or the gateway is called with the
canonical database at hand or without. -/
inductive GatewayTurn
  | refused
  | canonical (liveEntry : GateAnswer Unit) (answers : SubmitAnswers)
  | outage (liveEntry : GateAnswer Unit) (answers : EmergencySubmitAnswers)

/-- An attempt with all that it takes from outside.  The quantity and the exchange are those that
`submit_order` settles on; what it returns or raises is in the context. -/
structure EntryAttempt where
  trigger : EntryTrigger
  context : AttemptContext
  cardUuid : String := ""
  quantity : Int
  exchange : String := "NASD"
  lease : Option ExecutionLease := none
  strategyInstanceId : String := ""
  turn : GatewayTurn

inductive EntryMove
  | prepare (uuid : String)
  | processTriggers (ordered : List EntryAttempt)
  | restart
  | rewrite (attemptGroupId : String) (attemptCount : Int) (clientOrderId : String)
      (pendingAttemptNumber : Int)

/-- The card of the symbol, the memory of the process, what is stored, and the identities that
were derived. -/
structure EntryRun where
  card : TradeCardState
  manager : EntryAttemptManager := { gatewayOwnsCapitalReservation := true }
  world : GatewayWorld := {}
  used : List AttemptIdentity := []

/-- What an attempt hands to `submit_order`, if it comes so far: the gateway reserves the
capital. -/
def EntryAttemptManager.submission (manager : EntryAttemptManager) (context : AttemptContext)
    (trigger : EntryTrigger) : Option SubmitArguments :=
  let key := symbolKey trigger.environment trigger.accountNo trigger.symbol
  let state := (manager.states.get? key).getD {}
  if key ∈ manager.locked ∨ (context.cooling state).isSome ∨ context.rateLimited state then none
  else some (submitArguments trigger (attemptState context trigger state) "")

/-- The request of an entry. -/
def entryRequest (attempt : EntryAttempt) (arguments : SubmitArguments) (clientOrderId : String) :
    SubmitExecutionRequest :=
  { clientOrderId := strip clientOrderId
    environment := upper arguments.environment
    accountNo := arguments.accountNo
    symbol := upper arguments.symbol
    side := arguments.side
    intent := arguments.intent
    quantity := attempt.quantity
    limitPrice := some arguments.limitPrice
    exchange := attempt.exchange
    attemptGroupId := arguments.attemptGroupId
    attemptNumber := arguments.attemptNumber
    attemptDeadlineAt := arguments.attemptDeadlineAt
    lease := attempt.lease
    source := .kanbanBoard
    strategyInstanceId := attempt.strategyInstanceId
    clientOrderIdStripped := strip_strip clientOrderId }

/-- What the gateway leaves. -/
def GatewayTurn.perform (request : SubmitExecutionRequest) (world : GatewayWorld) :
    GatewayTurn → GatewayWorld
  | .refused => world
  | .canonical liveEntry answers => (submitGuarded request liveEntry answers world).2
  | .outage liveEntry answers => (submitGuardedInOutage request liveEntry answers world).2

namespace EntryRun

/-- An identity is prepared on the card. -/
def keep (run : EntryRun) (prepared : PreparedIdentity) : EntryRun :=
  { run with card := prepared.card, used := run.used ++ prepared.derived.toList }

def enter (run : EntryRun) (attempt : EntryAttempt) (arguments : SubmitArguments)
    (clientOrderId : String) : EntryRun :=
  { run with
    world := attempt.turn.perform (entryRequest attempt arguments clientOrderId) run.world }

/-- `submit_order` of the guarded runtime. -/
def submit (digest : String → String) (run : EntryRun) (attempt : EntryAttempt)
    (arguments : SubmitArguments) : EntryRun :=
  match arguments.clientOrderId with
  | some clientOrderId => run.enter attempt arguments clientOrderId
  | none =>
    let prepared := prepareEntryIdentity digest attempt.cardUuid run.card
      arguments.attemptGroupId arguments.attemptNumber
    (run.keep prepared).enter attempt
      { arguments with
        attemptGroupId := prepared.attemptGroupId
        attemptNumber := prepared.attemptNumber }
      prepared.clientOrderId

/-- `attempt_entry`, with what its `submit_order` does. -/
def attempt (digest : String → String) (run : EntryRun) (attempt : EntryAttempt) : EntryRun :=
  let manager := (run.manager.attemptEntry attempt.context attempt.trigger
    { ledger := [], database := none }).2.1
  match run.manager.submission attempt.context attempt.trigger with
  | none => { run with manager := manager }
  | some arguments => { run.submit digest attempt arguments with manager := manager }

def next (digest : String → String) (run : EntryRun) : EntryMove → EntryRun
  | .prepare uuid => run.keep (prepareEntryAttempt digest uuid run.card)
  | .processTriggers ordered => ordered.foldl (attempt digest) run
  | .restart => { run with manager := restoredManager run.card }
  | .rewrite attemptGroupId attemptCount clientOrderId pendingAttemptNumber =>
    { run with
      card :=
        { run.card with
          entryAttemptGroupId := attemptGroupId
          entryAttemptCount := attemptCount
          entryClientOrderId := clientOrderId
          entryPendingAttemptNumber := pendingAttemptNumber } }

def after (digest : String → String) (run : EntryRun) (moves : List EntryMove) : EntryRun :=
  moves.foldl (next digest) run

end EntryRun

/-! ## What an attempt does to the memory -/

section Attempts

variable {manager : EntryAttemptManager} {context : AttemptContext} {trigger : EntryTrigger}
  {state : SymbolAttemptState} {store : ReservationStore}

/-- `str.strip()` leaves the text alone, as it does that of a `uuid4().hex`. -/
def IsStripped (text : String) : Prop := strip text = text

theorem isStripped_blank : IsStripped "" := rfl

theorem attemptEnding_group (number : Int) (reservationId : String) (outcome : SubmitOutcome) :
    (attemptEnding context state number reservationId outcome).state.attemptGroupId =
      state.attemptGroupId := by
  cases outcome with
  | error error =>
    obtain ⟨cls, message⟩ := error
    cases cls with
    | guardedSubmissionRejected =>
      unfold attemptEnding
      dsimp only
      split <;> rfl
    | _ => rfl
  | ok =>
    unfold attemptEnding
    dsimp only
    split <;> rfl

/-- The groups at hand are stripped: those of the memory, of the trigger and a fresh one. -/
theorem isStripped_attemptState (hState : IsStripped state.attemptGroupId)
    (hTrigger : IsStripped trigger.attemptGroupId) (hFresh : IsStripped context.groupUuid) :
    IsStripped (attemptState context trigger state).attemptGroupId := by
  unfold attemptState
  dsimp only
  split
  · exact hTrigger
  split
  · exact hState
  · exact hFresh

/-- The manager of the guarded runtime, which remembers stripped groups only. -/
structure EntryAttemptManager.Stripped (manager : EntryAttemptManager) : Prop where
  guarded : manager.gatewayOwnsCapitalReservation = true
  groups : ∀ key state, manager.states.get? key = some state → IsStripped state.attemptGroupId

theorem EntryAttemptManager.Stripped.found (h : manager.Stripped) (key : SymbolKey) :
    IsStripped ((manager.states.get? key).getD {}).attemptGroupId := by
  cases hFound : manager.states.get? key with
  | none => exact isStripped_blank
  | some state => exact h.groups key state hFound

theorem isStripped_attemptEntryLocked (hState : IsStripped state.attemptGroupId)
    (hTrigger : IsStripped trigger.attemptGroupId) (hFresh : IsStripped context.groupUuid) :
    IsStripped (attemptEntryLocked true context trigger state store).2.1.attemptGroupId := by
  unfold attemptEntryLocked
  split
  · exact hState
  split
  · exact hState
  · dsimp only
    rw [if_pos rfl]
    show IsStripped (attemptEnding context _ _ _ _).state.attemptGroupId
    rw [attemptEnding_group]
    exact isStripped_attemptState hState hTrigger hFresh

variable (h : manager.Stripped) (hTrigger : IsStripped trigger.attemptGroupId)
  (hFresh : IsStripped context.groupUuid)
include h hTrigger hFresh

theorem EntryAttemptManager.Stripped.attemptEntry (store : ReservationStore) :
    (manager.attemptEntry context trigger store).2.1.Stripped := by
  unfold EntryAttemptManager.attemptEntry
  dsimp only
  split
  · exact h
  refine ⟨h.guarded, fun key state hFound => ?_⟩
  dsimp only at hFound
  rw [Dictionary.get?_set] at hFound
  split at hFound
  · cases hFound
    rw [h.guarded]
    exact isStripped_attemptEntryLocked (h.found _) hTrigger hFresh
  · exact h.groups key state hFound

theorem EntryAttemptManager.Stripped.submission
    (hAsked : manager.submission context trigger = some arguments) :
    IsStripped arguments.attemptGroupId := by
  unfold EntryAttemptManager.submission at hAsked
  dsimp only at hAsked
  split at hAsked
  · cases hAsked
  · cases hAsked
    exact isStripped_attemptState (h.found _) hTrigger hFresh

end Attempts

/-! ## The texts -/

/-- A text with a last separator is split there in one way. -/
theorem append_cons_inj {α : Type} {separator : α} {a b x y : List α} (hx : separator ∉ x)
    (hy : separator ∉ y) (h : a ++ separator :: x = b ++ separator :: y) : a = b ∧ x = y := by
  rcases List.append_eq_append_iff.mp h with ⟨between, hb, hxs⟩ | ⟨between, ha, hys⟩
  · cases between with
    | nil => exact ⟨by simpa using hb.symm, List.tail_eq_of_cons_eq hxs⟩
    | cons c between =>
      have hTail := List.tail_eq_of_cons_eq hxs
      exact absurd (hTail ▸ List.mem_append_right between List.mem_cons_self) hx
  · cases between with
    | nil => exact ⟨by simpa using ha, (List.tail_eq_of_cons_eq hys).symm⟩
    | cons c between =>
      have hTail := List.tail_eq_of_cons_eq hys
      exact absurd (hTail ▸ List.mem_append_right between List.mem_cons_self) hy

theorem toList_toString_pos {number : Int} (h : 1 ≤ number) :
    (toString number).toList = Nat.toDigits 10 number.toNat := by
  obtain ⟨n, rfl⟩ := Int.eq_ofNat_of_zero_le (by omega : 0 ≤ number)
  exact Nat.toList_repr

/-- An identity of the card with this key, as a run derives it. -/
structure AttemptIdentity.Of (key : CardKey) (identity : AttemptIdentity) : Prop where
  group : IsStripped identity.attemptGroupId
  number : 1 ≤ identity.attemptNumber
  owner : (identity.environment, identity.accountNo, identity.symbol) = key
  intent : identity.intent = "ENTRY"

/-- The joined texts of one card tell its identities apart. -/
theorem AttemptIdentity.Of.eq_of_canonical {key : CardKey} (ha : a.Of key) (hb : b.Of key)
    (h : a.canonical = b.canonical) : a = b := by
  obtain ⟨group, number, environment, accountNo, symbol, intent⟩ := a
  obtain ⟨group', number', environment', accountNo', symbol', intent'⟩ := b
  obtain ⟨hGroup, hNumber, rfl, rfl⟩ := ha
  obtain ⟨hGroup', hNumber', hOwner, rfl⟩ := hb
  cases hOwner
  have hLists := congrArg String.toList h
  have hStrip : strip group = group := hGroup
  have hStrip' : strip group' = group' := hGroup'
  simp only [canonical, String.toList_append, toList_toString_pos hNumber,
    toList_toString_pos hNumber', hStrip, hStrip'] at hLists
  have hFront := List.append_cancel_right hLists
  have hBar : "|".toList = ['|'] := rfl
  simp only [hBar, List.append_assoc, List.singleton_append] at hFront
  have hDigits : ∀ n : Nat, '|' ∉ Nat.toDigits 10 n := by
    intro n hMem
    have hDigit := Nat.isDigit_of_mem_toDigits (by decide) (by decide) hMem
    revert hDigit
    decide
  obtain ⟨hGroups, hNumbers⟩ := append_cons_inj (hDigits _) (hDigits _) hFront
  have hNat := congrArg (Nat.ofDigitChars 10 · 0) hNumbers
  simp only [Nat.ofDigitChars_toDigits (by decide : 1 < 10) (by decide : 10 ≤ 10)] at hNat
  have hSame : number = number' := by
    have hLow : 1 ≤ number := hNumber
    have hLow' : 1 ≤ number' := hNumber'
    omega
  rw [hSame, String.ext hGroups]

/-- The hash tells the texts apart that it was asked for. -/
def CollisionFree (digest : String → String) (texts : List String) : Prop :=
  ∀ a ∈ texts, ∀ b ∈ texts, digest a = digest b → a = b

theorem digest_eq_of_derive {digest : String → String} (hDigest : ∀ text, (digest text).length = 20)
    (h : deriveExecutionClientOrderId digest a = deriveExecutionClientOrderId digest b) :
    digest a.canonical = digest b.canonical := by
  have hLists := congrArg String.toList h
  unfold deriveExecutionClientOrderId at hLists
  simp only [String.toList_append] at hLists
  apply String.ext
  apply List.append_inj_right' hLists
  rw [String.length_toList, String.length_toList, hDigest, hDigest]

/-! ## What a run keeps -/

/-- The broker was entered once under an identity, and its command is stored. -/
structure EnteredOnce (world : GatewayWorld) : Prop where
  once : (submittedIds world.history).Nodup
  stored : ∀ id ∈ submittedIds world.history, IsStored world (submitKey id)

theorem EnteredOnce.canonical {before after : GatewayWorld} {id : String} (h : EnteredOnce before)
    (hStep : CanonicalStep id before after) : EnteredOnce after := by
  rcases hStep.submitted with hSame | ⟨hNew, hFree, hTaken⟩
  · constructor
    · rw [hSame]
      exact h.once
    · rw [hSame]
      exact fun id hId => hStep.stored _ (h.stored id hId)
  · constructor
    · rw [hNew]
      refine List.nodup_append.mpr ⟨h.once, List.nodup_singleton id, ?_⟩
      rintro old hOld new hMem rfl
      rw [List.mem_singleton.mp hMem] at hOld
      exact hFree (h.stored id hOld)
    · rw [hNew]
      exact forall_mem_concat (fun other hOld => hStep.stored _ (h.stored other hOld)) hTaken

theorem EnteredOnce.perform {world : GatewayWorld} {request : SubmitExecutionRequest}
    (h : EnteredOnce world) (hEntry : isEmergencySell request = false) (turn : GatewayTurn) :
    EnteredOnce (turn.perform request world) := by
  cases turn with
  | refused => exact h
  | canonical liveEntry answers =>
    have hStep : Keeps (CanonicalStep request.clientOrderId)
        (submitGuarded request liveEntry answers) :=
      (calm_gate liveEntry).before (canonicalStep_absorbs _)
        fun _ => doSubmit_step request answers
    exact h.canonical (hStep world)
  | outage liveEntry answers =>
    have hSame : (submitGuardedInOutage request liveEntry answers world).2 = world := by
      unfold submitGuardedInOutage doEmergencySubmit
      rw [if_pos hEntry]
      cases liveEntry <;> rfl
    show EnteredOnce (submitGuardedInOutage request liveEntry answers world).2
    rw [hSame]
    exact h

/-- What holds of every run of the card with this key. -/
structure EntryRun.Kept (key : CardKey) (run : EntryRun) : Prop where
  cardKey : run.card.cardKey = key
  group : IsStripped run.card.entryAttemptGroupId
  memory : run.manager.Stripped
  entered : EnteredOnce run.world
  used : ∀ identity ∈ run.used, identity.Of key

/-- The groups that a move brings along are stripped. -/
def EntryMove.Stripped : EntryMove → Prop
  | .prepare uuid => IsStripped uuid
  | .processTriggers ordered => ∀ attempt ∈ ordered,
      IsStripped attempt.trigger.attemptGroupId ∧ IsStripped attempt.context.groupUuid ∧
        IsStripped attempt.cardUuid
  | .restart => True
  | .rewrite attemptGroupId _ _ _ => IsStripped attemptGroupId

section Steps

variable {digest : String → String} {run : EntryRun} {key : CardKey}

theorem EntryRun.Kept.keep (h : run.Kept key) {uuid attemptGroupId : String} {attemptNumber : Int}
    (hUuid : IsStripped uuid) (hGroup : IsStripped attemptGroupId) :
    (run.keep
      (EntryRun.prepareEntryIdentity digest uuid run.card attemptGroupId attemptNumber)).Kept
      key := by
  unfold EntryRun.prepareEntryIdentity
  split
  · refine { h with used := ?_ }
    simpa [EntryRun.keep] using h.used
  have hChosen : IsStripped (if run.card.entryAttemptGroupId ≠ "" then run.card.entryAttemptGroupId
      else if attemptGroupId ≠ "" then attemptGroupId else uuid) := by
    split
    · exact h.group
    split
    · exact hGroup
    · exact hUuid
  refine
    { h with
      group := hChosen
      used := ?_ }
  refine forall_mem_concat h.used ?_
  exact { group := hChosen, number := le_max_left _ _, owner := h.cardKey, intent := rfl }

theorem EntryRun.Kept.submit (h : run.Kept key) {attempt : EntryAttempt}
    (hGroup : IsStripped arguments.attemptGroupId) (hUuid : IsStripped attempt.cardUuid) :
    (run.submit digest attempt arguments).Kept key := by
  have hEnter : ∀ {run : EntryRun} (arguments : SubmitArguments) (clientOrderId : String),
      run.Kept key → (run.enter attempt arguments clientOrderId).Kept key :=
    fun arguments clientOrderId h => { h with entered := h.entered.perform rfl attempt.turn }
  unfold EntryRun.submit
  cases arguments.clientOrderId with
  | some clientOrderId => exact hEnter arguments clientOrderId h
  | none => exact hEnter _ _ (h.keep hUuid hGroup)

theorem EntryRun.Kept.attempt (h : run.Kept key) {attempt : EntryAttempt}
    (hTrigger : IsStripped attempt.trigger.attemptGroupId)
    (hFresh : IsStripped attempt.context.groupUuid) (hUuid : IsStripped attempt.cardUuid) :
    (run.attempt digest attempt).Kept key := by
  have hMemory := h.memory.attemptEntry hTrigger hFresh { ledger := [], database := none }
  unfold EntryRun.attempt
  cases hAsked : run.manager.submission attempt.context attempt.trigger with
  | none => exact { h with memory := hMemory }
  | some =>
    exact { h.submit (h.memory.submission hTrigger hFresh hAsked) hUuid with memory := hMemory }

theorem stripped_restoredManager {card : TradeCardState}
    (h : IsStripped card.entryAttemptGroupId) : (restoredManager card).Stripped := by
  refine ⟨rfl, fun symbol state hFound => ?_⟩
  unfold restoredManager at hFound
  dsimp only at hFound
  split at hFound
  · cases hFound
  rw [Dictionary.get?_set] at hFound
  split at hFound
  · cases hFound
    exact h
  · cases hFound

theorem EntryRun.Kept.next (h : run.Kept key) {move : EntryMove} (hMove : move.Stripped) :
    (run.next digest move).Kept key := by
  cases move with
  | prepare => exact h.keep hMove h.group
  | processTriggers ordered =>
    show (ordered.foldl (EntryRun.attempt digest) run).Kept key
    induction ordered generalizing run with
    | nil => exact h
    | cons attempt ordered ih =>
      obtain ⟨hTrigger, hFresh, hUuid⟩ := hMove attempt List.mem_cons_self
      exact ih (h.attempt hTrigger hFresh hUuid)
        fun other hOther => hMove other (List.mem_cons_of_mem _ hOther)
  | restart => exact { h with memory := stripped_restoredManager h.group }
  | rewrite =>
    exact { h with group := hMove }

theorem EntryRun.Kept.after (h : run.Kept key) {moves : List EntryMove}
    (hMoves : ∀ move ∈ moves, move.Stripped) : (run.after digest moves).Kept key := by
  induction moves generalizing run with
  | nil => exact h
  | cons move moves ih =>
    exact ih (h.next (hMoves move List.mem_cons_self))
      fun other hOther => hMoves other (List.mem_cons_of_mem _ hOther)

end Steps

/-- Any card whose group is stripped, any database and journal; nothing has been submitted. -/
structure EntryRun.Starts (run : EntryRun) : Prop where
  group : IsStripped run.card.entryAttemptGroupId
  memory : run.manager.Stripped
  history : run.world.history = []
  used : run.used = []

/-- In every run the broker's `submit_order` is entered at most once under each identity, and the
identities of different attempts differ if the hash tells them apart. -/
theorem entry_identity_never_reused {digest : String → String}
    (hDigest : ∀ text, (digest text).length = 20) {run : EntryRun} (hStart : run.Starts)
    {moves : List EntryMove} (hMoves : ∀ move ∈ moves, move.Stripped)
    (hFree : CollisionFree digest ((run.after digest moves).used.map AttemptIdentity.canonical)) :
    (∀ clientOrderId,
      (submittedIds (run.after digest moves).world.history).count clientOrderId ≤ 1) ∧
    ∀ a ∈ (run.after digest moves).used, ∀ b ∈ (run.after digest moves).used,
      deriveExecutionClientOrderId digest a = deriveExecutionClientOrderId digest b → a = b := by
  have hKept : run.Kept run.card.cardKey :=
    { cardKey := rfl
      group := hStart.group
      memory := hStart.memory
      entered := by constructor <;> simp [hStart.history, submittedIds]
      used := by simp [hStart.used] }
  have hAfter : (run.after digest moves).Kept run.card.cardKey := hKept.after hMoves
  refine ⟨List.nodup_iff_count_le_one.mp hAfter.entered.once, fun a ha b hb hSame => ?_⟩
  apply (hAfter.used a ha).eq_of_canonical (hAfter.used b hb)
  exact hFree _ (List.mem_map_of_mem ha) _ (List.mem_map_of_mem hb)
    (digest_eq_of_derive hDigest hSame)

/-- The hash of the first two attempts of a group. -/
def sampleDigest (text : String) : String :=
  if text = "g1|1|PROD|1|AAPL|ENTRY" then "EFEA53C030AACA52EC2B"
  else if text = "g1|2|PROD|1|AAPL|ENTRY" then "9B22FEF67D5C0ADF8565"
  else "00000000000000000000"

def sampleAttempt (number : Int) (digest : String) (now : Instant) : EntryAttempt :=
  { trigger :=
      { environment := "PROD", accountNo := "1", symbol := "AAPL", quantity := 1, limitPrice := 10
        notional := 10, attemptGroupId := "g1", attemptNumber := number
        clientOrderId := "G1-" ++ toString number ++ "-PROD-1-AAPL-ENTRY-" ++ digest }
    context :=
      { now := now, groupUuid := "", reservationUuid := "", buyingPower := 0
        submitOrder := fun arguments =>
          .ok { clientOrderId := arguments.clientOrderId.getD "", status := .working } }
    quantity := 1
    lease := some { deviceId := "d1", leaseToken := "t1" }
    turn := .canonical (.ok ())
      { now := isoformat now, clock := now, reservationId := "r" ++ toString number
        buyingPower := .ok 1000, broker := .returned { brokerOrderId := "B" ++ toString number } } }

/-- The first entry is cancelled without a fill, the process starts again, and the second entry
takes the next number of the group. -/
theorem entry_identity_never_reused_sample :
    (submittedIds (EntryRun.after sampleDigest
      { card := { environment := "PROD", accountNo := "1", symbol := "AAPL" } }
      [.prepare "g1", .processTriggers [sampleAttempt 1 "EFEA53C030AACA52EC2B" 0],
        .rewrite "g1" 1 "" 0, .restart, .prepare "",
        .processTriggers [sampleAttempt 2 "9B22FEF67D5C0ADF8565" 5000000]]).world.history).count
      "G1-2-PROD-1-AAPL-ENTRY-9B22FEF67D5C0ADF8565" ≤ 1 := by
  have hStripped : strip "g1" = "g1" := by decide +kernel
  refine (entry_identity_never_reused ?_ ?_ ?_ ?_).1 _
  · intro text
    unfold sampleDigest
    split
    · decide
    split <;> decide
  · refine ⟨isStripped_blank, ⟨rfl, fun _ _ hFound => ?_⟩, rfl, rfl⟩
    cases hFound
  · simp [EntryMove.Stripped, IsStripped, sampleAttempt, hStripped, show strip "" = "" from rfl]
  · unfold CollisionFree
    decide +kernel

end QuantApp.Services
