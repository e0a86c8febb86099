import QuantApp.Services.ExitStages
import QuantApp.Services.PlanningCommands
import QuantApp.Verified.LabelledRuns

/-!
# Board commands beside the engine

The stored card of a symbol, the card object the engine works on, the order rows, and the
board commands in flight.  The engine puts an entry identity on its object, stores the card
by compare-and-set, and submits.  A command reads the card, judges it by order rows read
outside its transaction, and commits only over the version it has read.

A command that commits over a card with an entry identity changes nothing that names the
order (`accepted_on_identity`), so no live order is hidden as long as every submission is
made from a stored identity.  `prepare_entry_identity` does not see to that: when its write
is refused, the identity stays on the object, the next call returns it as it stands, and the
order goes out under a name the stored card does not carry.
-/

namespace QuantApp.Services

open Core Verified

variable {orders : List ExecutionOrderRecord} {context : PlanningContext}

/-! ## The engine -/

/-- `prepare_entry_identity` up to its write, as `prepare_entry_attempt` calls it. -/
def prepareEntryIdentity (engine : EngineRuntime) (uuid : String) (card : PlannedCard) :
    PlannedCard :=
  let groupId := if card.entryAttemptGroupId ≠ "" then card.entryAttemptGroupId else uuid
  let number :=
    max 1 (if card.entryPendingAttemptNumber ≠ 0 then card.entryPendingAttemptNumber
      else card.entryAttemptCount + 1)
  { card with
    entryAttemptGroupId := groupId
    entryPendingAttemptNumber := number
    entryClientOrderId := engine.deriveExecutionClientOrderId groupId number card.cardKey .entry
    entrySubmissionUnresolved := false }

/-- The columns from which the engine submits entries and completions. -/
def SubmitsEntries (status : BoardStatus) : Prop := status = .buyToday ∨ status = .openPosition

instance (status : BoardStatus) : Decidable (SubmitsEntries status) := by
  unfold SubmitsEntries
  infer_instance

/-- An entry order that has not ended. -/
def LiveEntry (order : ExecutionOrderRecord) : Prop :=
  order.intent = .entry ∧ order.status.isTerminal = false

instance (order : ExecutionOrderRecord) : Decidable (LiveEntry order) := by
  unfold LiveEntry
  infer_instance

/-- The card names the order or its attempt group. -/
def NamesEntry (card : PlannedCard) (order : ExecutionOrderRecord) : Prop :=
  order.clientOrderId = card.entryClientOrderId ∨
    (order.attemptGroupId ≠ "" ∧ order.attemptGroupId = card.entryAttemptGroupId)

instance (card : PlannedCard) (order : ExecutionOrderRecord) :
    Decidable (NamesEntry card order) := by
  unfold NamesEntry
  infer_instance

/-- The card carries an entry identity, names the order and stands in a column of the
execution board. -/
def TracksEntry (card : PlannedCard) (order : ExecutionOrderRecord) : Prop :=
  card.entryClientOrderId ≠ "" ∧ NamesEntry card order ∧ InExecutionColumn card.boardStatus

instance (card : PlannedCard) (order : ExecutionOrderRecord) :
    Decidable (TracksEntry card order) := by
  unfold TracksEntry
  infer_instance

/-- The card tracks every live entry order of a list. -/
def TracksEntries (card : PlannedCard) (orders : List ExecutionOrderRecord) : Prop :=
  ∀ order ∈ orders, LiveEntry order → TracksEntry card order

instance (card : PlannedCard) (orders : List ExecutionOrderRecord) :
    Decidable (TracksEntries card orders) := by
  unfold TracksEntries
  infer_instance

/-- The rows move on: what is live was live before, under the same names.  That an ended
order stays ended is the transition table of the order record. -/
def OrdersSettle (orders later : List ExecutionOrderRecord) : Prop :=
  ∀ order ∈ later, LiveEntry order → ∃ before ∈ orders, LiveEntry before ∧
    before.clientOrderId = order.clientOrderId ∧ before.attemptGroupId = order.attemptGroupId

instance (orders later : List ExecutionOrderRecord) : Decidable (OrdersSettle orders later) := by
  unfold OrdersSettle
  infer_instance

/-! ## The world -/

/-- A board command between its first read and its commit: the card it has read, and
whether the conflict guard has accepted it. -/
structure PendingAction where
  commandId : String
  command : PlanningCommand
  card : PlannedCard
  checked : Bool := false

structure BoardWorld where
  stored : PlannedCard
  orders : List ExecutionOrderRecord
  engineCard : PlannedCard
  /-- A write of the engine's card did not take place, and what it was to store is still
  on the object. -/
  unsavedIdentity : Bool
  pending : List PendingAction

inductive BoardLabel
  /-- The engine reads the stored card. -/
  | load
  | prepare (uuid : String) (lands : Bool)
  | submit (order : ExecutionOrderRecord)
  | settle (orders : List ExecutionOrderRecord)
  /-- Any other write of the engine, after its card has become `card`. -/
  | write (card : PlannedCard) (lands : Bool)
  | request (commandId : String) (command : PlanningCommand) (expectedCardVersion : Int)
      (context : PlanningContext)
  | check (commandId : String) (externalOrders : List DiscoveredExternalOrder)
  | commit (commandId : String) (context : PlanningContext)
  /-- The command is refused, by a fence, by the ownership check or by its version. -/
  | drop (commandId : String)

/-- `update_trade_card` of the engine's object: nothing is stored when the write fails or
when the stored version is another one. -/
def BoardWorld.storeEngineCard (world : BoardWorld) (card : PlannedCard) (lands : Bool) :
    Option BoardWorld :=
  if lands = true ∧ card.version = world.stored.version then
    let saved : PlannedCard := { card with version := card.version + 1 }
    some { world with stored := saved, engineCard := saved, unsavedIdentity := false }
  else none

/-- The object agrees with another in what names its order and in its column. -/
def SameIdentity (before after : PlannedCard) : Prop :=
  after.entryClientOrderId = before.entryClientOrderId ∧
    after.entryAttemptGroupId = before.entryAttemptGroupId ∧
    after.boardStatus = before.boardStatus

instance (before after : PlannedCard) : Decidable (SameIdentity before after) := by
  unfold SameIdentity
  infer_instance

/-- `prepare_entry_attempt`. -/
def BoardWorld.prepare (engine : EngineRuntime) (world : BoardWorld) (uuid : String)
    (lands : Bool) : BoardWorld :=
  if world.engineCard.entryClientOrderId ≠ "" then world
  else
    let named := prepareEntryIdentity engine uuid world.engineCard
    (world.storeEngineCard named lands).getD
      { world with engineCard := named, unsavedIdentity := true }

/-- The rest of the engine writes its card. -/
def BoardWorld.write (world : BoardWorld) (card : PlannedCard) (lands : Bool) : BoardWorld :=
  (world.storeEngineCard card lands).getD
    { world with
      engineCard := card
      unsavedIdentity := world.unsavedIdentity || !(decide (SameIdentity world.engineCard card)) }

/-- `request_board_action` up to its first version check. -/
def BoardWorld.request (world : BoardWorld) (commandId : String) (command : PlanningCommand)
    (expectedCardVersion : Int) (context : PlanningContext) : Option BoardWorld :=
  match requireBreakoutPlanMutationPolicy command world.stored.toTradeCardState context with
  | .error _ => none
  | .ok () =>
    if world.stored.version = expectedCardVersion ∧
        commandId ∉ world.pending.map PendingAction.commandId then
      some { world with
        pending := world.pending ++
          [{ commandId := commandId, command := command, card := world.stored }] }
    else none

/-- The conflict guard, over the order rows as they are now. -/
def BoardWorld.check (world : BoardWorld) (commandId : String)
    (externalOrders : List DiscoveredExternalOrder) : Option BoardWorld :=
  match lookup PendingAction.commandId commandId world.pending with
  | none => none
  | some action =>
    match requirePlanningNotConflicted action.command action.card
        { ownedOrders := world.orders, externalOrders := externalOrders } with
    | .error _ => none
    | .ok () =>
      some { world with
        pending := store PendingAction.commandId { action with checked := true } world.pending }

def BoardWorld.withoutAction (world : BoardWorld) (commandId : String) : List PendingAction :=
  world.pending.filter (fun action => action.commandId ≠ commandId)

/-- The transaction: the stored card has the version the command has read, the policy
holds of it, and the mutation replaces it. -/
def BoardWorld.commit (world : BoardWorld) (commandId : String) (context : PlanningContext) :
    Option BoardWorld :=
  match lookup PendingAction.commandId commandId world.pending with
  | none => none
  | some action =>
    if action.checked = true ∧ world.stored.version = action.card.version then
      match requireBreakoutPlanMutationPolicy action.command world.stored.toTradeCardState
          context with
      | .error _ => none
      | .ok () =>
        match applyPlanning action.command world.stored context with
        | .error _ => none
        | .ok after =>
          some { world with
            stored := { after with version := world.stored.version + 1 }
            pending := world.withoutAction commandId }
    else none

/-- One step, none where it is not enabled. -/
def BoardWorld.next (engine : EngineRuntime) (world : BoardWorld) :
    BoardLabel → Option BoardWorld
  | .load => some { world with engineCard := world.stored, unsavedIdentity := false }
  | .prepare uuid lands =>
    if SubmitsEntries world.engineCard.boardStatus then some (world.prepare engine uuid lands)
    else none
  | .submit order =>
    if SubmitsEntries world.engineCard.boardStatus ∧
        world.engineCard.entryClientOrderId ≠ "" ∧
        order.clientOrderId = world.engineCard.entryClientOrderId ∧
        order.attemptGroupId = world.engineCard.entryAttemptGroupId ∧
        LiveEntry order ∧
        order.clientOrderId ∉ world.orders.map ExecutionOrderRecord.clientOrderId then
      some { world with orders := world.orders ++ [order] }
    else none
  | .settle orders =>
    if OrdersSettle world.orders orders then some { world with orders := orders } else none
  | .write card lands =>
    if card.version = world.engineCard.version ∧ TracksEntries card world.orders then
      some (world.write card lands)
    else none
  | .request commandId command expectedCardVersion context =>
    world.request commandId command expectedCardVersion context
  | .check commandId externalOrders => world.check commandId externalOrders
  | .commit commandId context => world.commit commandId context
  | .drop commandId => some { world with pending := world.withoutAction commandId }

def BoardStep (engine : EngineRuntime) (before : BoardWorld) (label : BoardLabel)
    (after : BoardWorld) : Prop :=
  before.next engine label = some after

/-! ## What every step keeps -/

/-- A command in flight holds a card of an earlier version or the stored one, and the guard
has accepted what it is checked for. -/
structure PendingAction.Sound (stored : PlannedCard) (action : PendingAction) : Prop where
  earlier : action.card.version ≤ stored.version
  current : action.card.version = stored.version → action.card = stored
  accepted : action.checked = true →
    ∃ evidence, requirePlanningNotConflicted action.command action.card evidence = .ok ()

/-- The stored card carries the identity of the engine's object. -/
def SavedIdentity (stored object : PlannedCard) : Prop :=
  object.entryClientOrderId ≠ "" → InExecutionColumn object.boardStatus →
    stored.entryClientOrderId = object.entryClientOrderId ∧
      stored.entryAttemptGroupId = object.entryAttemptGroupId ∧
      InExecutionColumn stored.boardStatus

structure BoardWorld.Guarded (world : BoardWorld) : Prop where
  tracked : TracksEntries world.stored world.orders
  pending : ∀ action ∈ world.pending, action.Sound world.stored
  saved : world.unsavedIdentity = false → SavedIdentity world.stored world.engineCard
  nameless : world.engineCard.entryClientOrderId = "" → ∀ order ∈ world.orders, ¬ LiveEntry order

/-- Every submission is made from an object whose last write took place. -/
def SubmitsSaved (world : BoardWorld) (label : BoardLabel) : Prop :=
  ∀ order, label = .submit order → world.unsavedIdentity = false

section Steps

variable {engine : EngineRuntime} {world after : BoardWorld} {card stored : PlannedCard}
  {action : PendingAction} {commandId : String}

theorem SubmitsEntries.column {status : BoardStatus} (h : SubmitsEntries status) :
    InExecutionColumn status := by
  rcases h with h | h <;> simp [InExecutionColumn, h]

theorem PendingAction.Sound.newer (h : action.Sound stored)
    (hNewer : stored.version < card.version) : action.Sound card := by
  have hEarlier := h.earlier
  refine { earlier := by omega, current := ?_, accepted := h.accepted }
  intro hSame
  omega

/-- A card with the same names in the same column tracks the same orders. -/
theorem TracksEntries.of_same (h : TracksEntries stored orders) (hSame : SameIdentity stored card) :
    TracksEntries card orders := by
  obtain ⟨hId, hGroup, hStatus⟩ := hSame
  intro order hOrder hLive
  obtain ⟨hNamed, hNames, hColumn⟩ := h order hOrder hLive
  refine ⟨by rw [hId]; exact hNamed, ?_, by rw [hStatus]; exact hColumn⟩
  unfold NamesEntry
  rw [hId, hGroup]
  exact hNames

theorem TracksEntries.none_live (h : TracksEntries stored orders)
    (hBare : ¬ (stored.entryClientOrderId ≠ "" ∧ InExecutionColumn stored.boardStatus)) :
    ∀ order ∈ orders, ¬ LiveEntry order := by
  intro order hOrder hLive
  obtain ⟨hNamed, _, hColumn⟩ := h order hOrder hLive
  exact hBare ⟨hNamed, hColumn⟩

variable (h : world.Guarded)
include h

theorem BoardWorld.Guarded.storeEngineCard {lands : Bool}
    (hTracks : TracksEntries card world.orders)
    (hStored : world.storeEngineCard card lands = some after) : after.Guarded := by
  unfold BoardWorld.storeEngineCard at hStored
  obtain ⟨⟨_, hVersion⟩, hSame⟩ := Option.ite_none_right_eq_some.mp hStored
  cases hSame
  refine { tracked := hTracks, pending := ?_, saved := ?_, nameless := ?_ }
  · intro action hAction
    refine (h.pending action hAction).newer ?_
    show world.stored.version < card.version + 1
    omega
  · intro _ _ hColumn
    exact ⟨rfl, rfl, hColumn⟩
  · intro hBlank
    refine TracksEntries.none_live hTracks ?_
    intro hNamed
    exact hNamed.1 hBlank

theorem BoardWorld.Guarded.load :
    ({ world with engineCard := world.stored, unsavedIdentity := false } : BoardWorld).Guarded := by
  refine { tracked := h.tracked, pending := h.pending, saved := ?_, nameless := ?_ }
  · intro _ _ hColumn
    exact ⟨rfl, rfl, hColumn⟩
  · intro hBlank
    refine h.tracked.none_live ?_
    intro hNamed
    exact hNamed.1 hBlank

theorem BoardWorld.Guarded.prepare (uuid : String) (lands : Bool) :
    (world.prepare engine uuid lands).Guarded := by
  unfold BoardWorld.prepare
  by_cases hId : world.engineCard.entryClientOrderId ≠ ""
  · rw [if_pos hId]
    exact h
  · rw [if_neg hId]
    -- no entry order is live while the object has no identity
    have hNone := h.nameless (not_not.mp hId)
    show BoardWorld.Guarded
      ((world.storeEngineCard (prepareEntryIdentity engine uuid world.engineCard) lands).getD _)
    cases hStored : world.storeEngineCard
        (prepareEntryIdentity engine uuid world.engineCard) lands with
    | some after =>
      refine h.storeEngineCard ?_ hStored
      intro order hOrder hLive
      exact absurd hLive (hNone order hOrder)
    | none =>
      refine { tracked := h.tracked, pending := h.pending, saved := ?_, nameless := ?_ }
      · intro hSaved
        cases hSaved
      · intro _
        exact hNone

theorem BoardWorld.Guarded.write (lands : Bool) (hTracks : TracksEntries card world.orders) :
    (world.write card lands).Guarded := by
  unfold BoardWorld.write
  cases hStored : world.storeEngineCard card lands with
  | some => exact h.storeEngineCard hTracks hStored
  | none =>
    refine { tracked := h.tracked, pending := h.pending, saved := ?_, nameless := ?_ }
    · intro hSaved hId hColumn
      obtain ⟨hBefore, hSame⟩ := Bool.or_eq_false_iff.mp hSaved
      obtain ⟨hSameId, hSameGroup, hSameStatus⟩ : SameIdentity world.engineCard card := by
        simpa using hSame
      change card.entryClientOrderId ≠ "" at hId
      change InExecutionColumn card.boardStatus at hColumn
      rw [hSameId] at hId
      rw [hSameStatus] at hColumn
      show world.stored.entryClientOrderId = card.entryClientOrderId ∧
        world.stored.entryAttemptGroupId = card.entryAttemptGroupId ∧ _
      rw [hSameId, hSameGroup]
      exact h.saved hBefore hId hColumn
    · intro hBlank
      refine hTracks.none_live ?_
      intro hNamed
      exact hNamed.1 hBlank

theorem BoardWorld.Guarded.submit {order : ExecutionOrderRecord}
    (hSaved : world.unsavedIdentity = false)
    (hStep : world.next engine (.submit order) = some after) : after.Guarded := by
  obtain ⟨⟨hColumn, hId, hOrderId, _, _, _⟩, hSame⟩ := Option.ite_none_right_eq_some.mp hStep
  cases hSame
  obtain ⟨hStoredId, _, hStoredColumn⟩ := h.saved hSaved hId hColumn.column
  refine { tracked := ?_, pending := h.pending, saved := h.saved, nameless := ?_ }
  · intro other hOther hLive
    rcases List.mem_append.mp hOther with hOld | hNew
    · exact h.tracked other hOld hLive
    · rw [List.mem_singleton.mp hNew]
      have hNamed : world.stored.entryClientOrderId ≠ "" := by
        rw [hStoredId]
        exact hId
      exact ⟨hNamed, Or.inl (hOrderId.trans hStoredId.symm), hStoredColumn⟩
  · intro hBlank
    exact absurd hBlank hId

theorem BoardWorld.Guarded.settle {later : List ExecutionOrderRecord}
    (hSettle : OrdersSettle world.orders later) :
    ({ world with orders := later } : BoardWorld).Guarded := by
  refine { tracked := ?_, pending := h.pending, saved := h.saved, nameless := ?_ }
  · intro order hOrder hLive
    obtain ⟨before, hBefore, hWasLive, hId, hGroup⟩ := hSettle order hOrder hLive
    obtain ⟨hNamed, hNames, hColumn⟩ := h.tracked before hBefore hWasLive
    refine ⟨hNamed, ?_, hColumn⟩
    unfold NamesEntry at hNames
    rw [hId, hGroup] at hNames
    exact hNames
  · intro hBlank order hOrder hLive
    obtain ⟨before, hBefore, hWasLive, _⟩ := hSettle order hOrder hLive
    exact h.nameless hBlank before hBefore hWasLive

theorem BoardWorld.Guarded.pending_of {pending : List PendingAction}
    (hPending : ∀ action ∈ pending, action.Sound world.stored) :
    ({ world with pending := pending } : BoardWorld).Guarded :=
  { tracked := h.tracked, pending := hPending, saved := h.saved, nameless := h.nameless }

theorem BoardWorld.Guarded.request {command : PlanningCommand} {expectedCardVersion : Int}
    (hStep : world.request commandId command expectedCardVersion context = some after) :
    after.Guarded := by
  unfold BoardWorld.request at hStep
  split at hStep
  · cases hStep
  · obtain ⟨_, hSame⟩ := Option.ite_none_right_eq_some.mp hStep
    cases hSame
    refine h.pending_of ?_
    refine forall_mem_concat h.pending ?_
    exact { earlier := Int.le_refl _, current := fun _ => rfl, accepted := nofun }

theorem BoardWorld.Guarded.check {externalOrders : List DiscoveredExternalOrder}
    (hStep : world.check commandId externalOrders = some after) : after.Guarded := by
  unfold BoardWorld.check at hStep
  split at hStep
  · cases hStep
  · next action hFound =>
      split at hStep
      · cases hStep
      · next hGuard =>
          cases hStep
          have hSound := h.pending action (lookup_mem hFound)
          exact h.pending_of (forall_mem_store h.pending
            { earlier := hSound.earlier
              current := hSound.current
              accepted := fun _ => ⟨_, hGuard⟩ })

theorem BoardWorld.Guarded.without (commandId : String) :
    ({ world with pending := world.withoutAction commandId } : BoardWorld).Guarded := by
  refine h.pending_of ?_
  intro action hAction
  exact h.pending action (List.mem_of_mem_filter hAction)

/-- What a commit stores, in the two cases the guard leaves. -/
theorem BoardWorld.Guarded.commit (hStep : world.commit commandId context = some after) :
    after.Guarded := by
  unfold BoardWorld.commit at hStep
  split at hStep
  · cases hStep
  next action hFound =>
  obtain ⟨⟨hChecked, hVersion⟩, hStep⟩ := Option.ite_none_right_eq_some.mp hStep
  split at hStep
  · cases hStep
  split at hStep
  · cases hStep
  next mutated hApplied =>
  cases hStep
  have hSound := h.pending action (lookup_mem hFound)
  have hCard : action.card = world.stored := hSound.current hVersion.symm
  obtain ⟨evidence, hGuard⟩ := hSound.accepted hChecked
  rw [hCard] at hGuard
  have hPending : ∀ other ∈ world.withoutAction commandId,
      other.Sound { mutated with version := world.stored.version + 1 } := by
    intro other hOther
    refine (h.pending other (List.mem_of_mem_filter hOther)).newer ?_
    show world.stored.version < world.stored.version + 1
    omega
  by_cases hNamed : world.stored.entryClientOrderId ≠ "" ∧
      InExecutionColumn world.stored.boardStatus
  · have hKept := accepted_on_identity hGuard hApplied hNamed.1 hNamed.2
    have hSame : SameIdentity world.stored
        { mutated with version := world.stored.version + 1 } := by
      rw [hKept]
      exact ⟨rfl, rfl, rfl⟩
    refine { tracked := h.tracked.of_same hSame, pending := hPending, saved := ?_,
             nameless := h.nameless }
    intro hSaved hId hColumn
    obtain ⟨hSameId, hSameGroup, hSameStatus⟩ := hSame
    show TradeCardState.entryClientOrderId _ = _ ∧ TradeCardState.entryAttemptGroupId _ = _ ∧
      InExecutionColumn (TradeCardState.boardStatus _)
    rw [hSameId, hSameGroup, hSameStatus]
    exact h.saved hSaved hId hColumn
  · have hNone := h.tracked.none_live hNamed
    refine { tracked := ?_, pending := hPending, saved := ?_, nameless := h.nameless }
    · intro order hOrder hLive
      exact absurd hLive (hNone order hOrder)
    · intro hSaved hId hColumn
      obtain ⟨hStoredId, _, hStoredColumn⟩ := h.saved hSaved hId hColumn
      refine absurd ⟨?_, hStoredColumn⟩ hNamed
      rw [hStoredId]
      exact hId

theorem BoardWorld.Guarded.next {label : BoardLabel} (hSaved : SubmitsSaved world label)
    (hStep : BoardStep engine world label after) :
    after.Guarded := by
  cases label with
  | load =>
    cases hStep
    exact h.load
  | prepare uuid lands =>
    obtain ⟨_, hSame⟩ := Option.ite_none_right_eq_some.mp hStep
    cases hSame
    exact h.prepare uuid lands
  | submit order => exact h.submit (hSaved order rfl) hStep
  | settle =>
    obtain ⟨hSettle, hSame⟩ := Option.ite_none_right_eq_some.mp hStep
    cases hSame
    exact h.settle hSettle
  | write card lands =>
    obtain ⟨⟨_, hTracks⟩, hSame⟩ := Option.ite_none_right_eq_some.mp hStep
    cases hSame
    exact h.write lands hTracks
  | request => exact h.request hStep
  | check => exact h.check hStep
  | commit => exact h.commit hStep
  | drop commandId =>
    cases hStep
    exact h.without commandId

end Steps

/-! ## Whole runs -/

/-- Every live entry order is named by the stored card, in a column of the execution
board. -/
def BoardWorld.LiveEntriesShown (world : BoardWorld) : Prop :=
  ∀ order ∈ world.orders, LiveEntry order →
    NamesEntry world.stored order ∧ InExecutionColumn world.stored.boardStatus

instance (world : BoardWorld) : Decidable world.LiveEntriesShown := by
  unfold BoardWorld.LiveEntriesShown
  infer_instance

/-- The engine has just read a card that tracks its orders, and no command is in flight. -/
structure BoardWorld.Starts (world : BoardWorld) : Prop where
  tracked : TracksEntries world.stored world.orders
  loaded : world.engineCard = world.stored
  idle : world.pending = []

theorem BoardWorld.Starts.guarded {world : BoardWorld} (h : world.Starts) : world.Guarded := by
  have hLoaded := h.loaded
  refine { tracked := h.tracked, pending := ?_, saved := ?_, nameless := ?_ }
  · intro action hAction
    rw [h.idle] at hAction
    cases hAction
  · intro _ _ hColumn
    rw [hLoaded] at hColumn ⊢
    exact ⟨rfl, rfl, hColumn⟩
  · intro hBlank
    rw [hLoaded] at hBlank
    refine h.tracked.none_live ?_
    intro hNamed
    exact hNamed.1 hBlank

/-- Whatever commands are interleaved with the engine, no live entry order is hidden as long
as every submission is made from an object whose last write took place. -/
theorem board_command_hides_no_live_entry (engine : EngineRuntime) {start reached : BoardWorld}
    (hStart : start.Starts)
    (hRun : RunWith (BoardStep engine) SubmitsSaved start reached) :
    reached.LiveEntriesShown := by
  have hGuarded : reached.Guarded := by
    apply hRun.invariant hStart.guarded
    intro before label after hBefore hSaved hStep
    exact hBefore.next hSaved hStep
  intro order hOrder hLive
  obtain ⟨_, hNames, hColumn⟩ := hGuarded.tracked order hOrder hLive
  exact ⟨hNames, hColumn⟩

/-! ### One card -/

/-- An engine whose client ids spell out their attempt group. -/
def groupEngine : EngineRuntime :=
  { deriveExecutionClientOrderId := fun groupId _ _ _ => groupId ++ "-entry"
    fromisoformat := fun _ => none }

/-- A card that waits for its breakout, with no attempt on it. -/
def waitingCard : PlannedCard :=
  { environment := "PROD"
    accountNo := "1"
    symbol := "SPY"
    version := 4
    boardStatus := .buyToday
    breakoutPrice := some 500 }

/-- The order of the attempt group `g`. -/
def groupOrder : ExecutionOrderRecord :=
  { environment := "PROD"
    accountNo := "1"
    symbol := "SPY"
    side := .buy
    intent := .entry
    clientOrderId := "g-entry"
    attemptGroupId := "g"
    submittedQuantity := 10
    preparedAt := isoformat 0 }

def waitingWorld : BoardWorld :=
  { stored := waitingCard
    orders := []
    engineCard := waitingCard
    unsavedIdentity := false
    pending := [] }

theorem waitingWorld_starts : waitingWorld.Starts := by
  refine { tracked := ?_, loaded := rfl, idle := rfl }
  intro order hOrder
  exact absurd hOrder List.not_mem_nil

/-- The labels with a submission from an unsaved identity left out. -/
def submitsSaved (world : BoardWorld) : BoardLabel → Bool
  | .submit _ => !world.unsavedIdentity
  | _ => true

/-- The move to the buylist is judged before the identity is stored, and refused for its
version after it; the cancellation then waits for the engine. -/
def fencedMove : List BoardLabel :=
  [.request "move" .moveToBuylist 4 {}, .check "move" [], .prepare "g" true,
    .submit groupOrder, .drop "move", .request "cancel" .cancelEntry 5 {}, .check "cancel" [],
    .commit "cancel" {}]

theorem board_command_hides_no_live_entry_fenced :
    ∃ reached : BoardWorld, RunWith (BoardStep groupEngine) SubmitsSaved waitingWorld reached ∧
      reached.orders = [groupOrder] ∧ reached.stored.entryBlockReason = "cancel_requested" ∧
      reached.LiveEntriesShown := by
  have hLabels : ∃ reached : BoardWorld,
      runLabels (BoardWorld.next groupEngine) submitsSaved fencedMove waitingWorld =
        some reached ∧ reached.orders = [groupOrder] ∧
      reached.stored.entryBlockReason = "cancel_requested" := ⟨_, rfl, rfl, rfl⟩
  obtain ⟨reached, hLabels, hOrders, hReason⟩ := hLabels
  have hRun : RunWith (BoardStep groupEngine) SubmitsSaved waitingWorld reached := by
    apply RunWith.of_labels _ _ hLabels
    · intro _ _ _ hNext
      exact hNext
    · intro world label hAdmitted order hLabel
      rw [hLabel] at hAdmitted
      simpa [submitsSaved] using hAdmitted
  exact ⟨reached, hRun, hOrders, hReason,
    board_command_hides_no_live_entry groupEngine waitingWorld_starts hRun⟩

/-- The move to the buylist commits first, the write of the prepared identity is refused for
its version, and the order is submitted under the identity left on the object. -/
def unsavedSubmission : List BoardLabel :=
  [.request "move" .moveToBuylist 4 {}, .check "move" [], .commit "move" {},
    .prepare "g" true, .prepare "h" true, .submit groupOrder]

theorem live_entry_hidden_by_move :
    ¬ ∀ (engine : EngineRuntime) (start reached : BoardWorld), start.Starts →
      RunWith (BoardStep engine) (fun _ _ => True) start reached → reached.LiveEntriesShown := by
  intro hShown
  have hLabels : ∃ reached : BoardWorld,
      runLabels (BoardWorld.next groupEngine) (fun _ _ => true) unsavedSubmission waitingWorld =
        some reached ∧ reached.orders = [groupOrder] ∧
      reached.stored.boardStatus = .buylist := ⟨_, rfl, rfl, rfl⟩
  obtain ⟨reached, hRun, hOrders, hStatus⟩ := hLabels
  have hReached : RunWith (BoardStep groupEngine) (fun _ _ => True) waitingWorld reached := by
    apply RunWith.of_labels _ _ hRun
    · intro _ _ _ hNext
      exact hNext
    · intro _ _ _
      trivial
  have hLive := hShown groupEngine waitingWorld reached waitingWorld_starts hReached groupOrder
    (by rw [hOrders]; exact List.mem_cons_self) ⟨rfl, rfl⟩
  have hColumn := hLive.2
  rw [hStatus] at hColumn
  revert hColumn
  decide

end QuantApp.Services
