import QuantApp.Services.AdoptionInvariant

/-!
# What the statements and the commits keep

`AdoptionWorld.Kept` is the invariant of the tables, of the locks and of every transaction.  A
statement changes no committed row (`Moves`); a commit puts rows over those its transaction
has locked (`RowCommit`) or adds one order under keys that it holds.
-/

namespace QuantApp.Services

open Core Verified

/-! ## The invariant -/

/-- The two tables agree on what was adopted. -/
structure StoredSoundly (externals : List DiscoveredExternalOrder)
    (orders : List ExecutionOrderRecord) : Prop where
  externalsKeyed : Keyed DiscoveredExternalOrder.externalOrderId externals
  ordersKeyed : Keyed ExecutionOrderRecord.clientOrderId orders
  readable : ∀ external ∈ externals, DiscoveredExternalOrder.Readable external
  linked : ∀ external ∈ externals, external.disposition = .userAdopted →
    ∃ order ∈ orders, order.origin = .userAdopted ∧
      order.adoptedFromExternalOrderId = external.externalOrderId
  sources : ∀ order ∈ orders, order.adoptedFromExternalOrderId ≠ "" →
    order.origin = .userAdopted ∧ ∃ external ∈ externals,
      external.externalOrderId = order.adoptedFromExternalOrderId ∧
        external.disposition = .userAdopted
  named : ∀ order ∈ orders, order.origin = .userAdopted → order.adoptedFromExternalOrderId ≠ ""
  once : ClaimedOnce adoptionSourceOrNone orders
  exclusive : ∀ first ∈ orders, ∀ second ∈ orders, ∀ scope, ActiveAdopted scope first →
    ActiveAdopted scope second → first.clientOrderId = second.clientOrderId

section Steps

variable {Tx : Type} {tx : Tx} {world before after : AdoptionWorld Tx}

/-- The fence would have let the submission through at its commit. -/
def PreparedSubmission.Clear (submission : PreparedSubmission) : Prop :=
  ¬ FenceRejects submission.externals submission.orders submission.record.environment
    submission.record.accountNo submission.record.symbol

structure AdoptionWorld.Kept (world : AdoptionWorld Tx) : Prop where
  tables : StoredSoundly world.externals world.orders
  held : ∀ tx, ∀ key ∈ (world.stage tx).keys, world.holder key = some tx
  stages : ∀ tx, StageKept world tx (world.stage tx)
  nodup : world.adoptions.Nodup
  adopted : ∀ externalOrderId ∈ world.adoptions, ∃ external ∈ world.externals,
    external.externalOrderId = externalOrderId ∧ external.disposition = .userAdopted
  clear : ∀ submission ∈ world.prepares, submission.Clear
  refusals : ∀ refusal ∈ world.refusals, strip refusal.1.adoptedBy ≠ "" →
    refusal.2.disposition ≠ .discoveredUnowned

theorem AdoptionWorld.Kept.stageAt {world : AdoptionWorld Tx} {tx : Tx} {stage : StoreStage}
    (h : world.Kept) (hStage : world.stage tx = stage) : StageKept world tx stage := by
  rw [← hStage]
  exact h.stages tx

/-! ## Steps that commit nothing -/

/-- The rows and the history stand, and so do the stages and the keys of the others. -/
structure Moves (tx : Tx) (before after : AdoptionWorld Tx) : Prop where
  externals : after.externals = before.externals
  orders : after.orders = before.orders
  adoptions : after.adoptions = before.adoptions
  prepares : after.prepares = before.prepares
  stage : ∀ other, other ≠ tx → after.stage other = before.stage other
  holder : ∀ other, other ≠ tx → ∀ key, before.holder key = some other →
    after.holder key = some other

theorem leaves_of_tables (hExternals : after.externals = before.externals)
    (hOrders : after.orders = before.orders) (hStage : after.stage tx = before.stage tx)
    (hHolder : ∀ key, before.holder key = some tx → after.holder key = some tx) :
    Leaves tx before after where
  stage := hStage
  holder := hHolder
  locked := fun external hMem _ => hExternals ▸ hMem
  unowned := fun external hMem _ => Or.inl (hExternals ▸ hMem)
  versions := fun external hMem => ⟨external, hExternals ▸ hMem, rfl, Or.inl rfl⟩
  absent := fun externalOrderId _ hAbsent => by rwa [hExternals]
  adopted := fun scope hNone => Or.inl (hOrders ▸ hNone)
  unused := fun clientOrderId _ hAbsent => by rwa [hOrders]

theorem Moves.leaves (h : Moves tx before after) {other : Tx} (hOther : other ≠ tx) :
    Leaves other before after :=
  leaves_of_tables h.externals h.orders (h.stage other hOther) (h.holder other hOther)

/-- A step that commits nothing keeps the invariant if it does so at its own transaction. -/
theorem AdoptionWorld.Kept.moved (h : before.Kept) (hMoves : Moves tx before after)
    (hRefusals : ∀ refusal ∈ after.refusals, strip refusal.1.adoptedBy ≠ "" →
      refusal.2.disposition ≠ .discoveredUnowned)
    (hHeld : ∀ key ∈ (after.stage tx).keys, after.holder key = some tx)
    (hStage : StageKept after tx (after.stage tx)) : after.Kept where
  tables := by
    rw [hMoves.externals, hMoves.orders]
    exact h.tables
  held := by
    intro other key hKey
    by_cases hSelf : other = tx
    · subst hSelf
      exact hHeld key hKey
    · rw [hMoves.stage other hSelf] at hKey
      exact hMoves.holder other hSelf key (h.held other key hKey)
  stages := by
    intro other
    by_cases hSelf : other = tx
    · subst hSelf
      exact hStage
    · exact (h.stages other).left (h.held other) (hMoves.leaves hSelf)
  nodup := by
    rw [hMoves.adoptions]
    exact h.nodup
  adopted := by
    rw [hMoves.adoptions, hMoves.externals]
    exact h.adopted
  clear := by
    rw [hMoves.prepares]
    exact h.clear
  refusals := hRefusals

/-- What a transaction has once it got the keys it waited for. -/
structure Taken (tx : Tx) (keys : List StoreKey) (before after : AdoptionWorld Tx) : Prop where
  moves : Moves tx before after
  stage : after.stage = before.stage
  refusals : after.refusals = before.refusals
  taken : ∀ key ∈ keys, after.holder key = some tx
  own : ∀ key, before.holder key = some tx → after.holder key = some tx

/-- More keys change nothing that was held. -/
theorem AdoptionWorld.Kept.taken {keys : List StoreKey} (h : world.Kept)
    (hTaken : Taken tx keys world after) : after.Kept := by
  refine h.moved hTaken.moves ?_ ?_ ?_
  · rw [hTaken.refusals]
    exact h.refusals
  · rw [hTaken.stage]
    exact fun key hKey => hTaken.own key (h.held tx key hKey)
  · exact (h.stages tx).left (h.held tx) (leaves_of_tables hTaken.moves.externals
      hTaken.moves.orders (congrFun hTaken.stage tx) hTaken.own)

variable [DecidableEq Tx]

theorem moves_moveTo (world : AdoptionWorld Tx) (tx : Tx) (stage : StoreStage) :
    Moves tx world (world.moveTo tx stage) where
  externals := rfl
  orders := rfl
  adoptions := rfl
  prepares := rfl
  stage := fun _ hOther => Function.update_of_ne hOther _ _
  holder := fun _ _ _ hKey => hKey

theorem moves_leave (world : AdoptionWorld Tx) (tx : Tx) : Moves tx world (world.leave tx) where
  externals := rfl
  orders := rfl
  adoptions := rfl
  prepares := rfl
  stage := fun _ hOther => Function.update_of_ne hOther _ _
  holder := by
    intro other hOther key hKey
    show (if world.holder key = some tx then none else world.holder key) = some other
    rw [hKey, if_neg (fun hSelf => hOther (Option.some.inj hSelf))]

@[simp] theorem moveTo_stage (world : AdoptionWorld Tx) (tx : Tx) (stage : StoreStage) :
    (world.moveTo tx stage).stage tx = stage := Function.update_self _ _ _

@[simp] theorem leave_stage (world : AdoptionWorld Tx) (tx : Tx) :
    (world.leave tx).stage tx = .outside := Function.update_self _ _ _

theorem taken_of_take {keys : List StoreKey} (h : world.take tx keys = some after) :
    Taken tx keys world after := by
  unfold AdoptionWorld.take at h
  split at h
  next hFree =>
    cases h
    refine ⟨⟨rfl, rfl, rfl, rfl, fun _ _ => rfl, ?_⟩, rfl, rfl, ?_, ?_⟩
    · intro other hOther key hKey
      dsimp only
      split
      next hTaken =>
        rcases hFree key hTaken with hNone | hOwn
        · rw [hNone] at hKey
          cases hKey
        · rw [hOwn] at hKey
          exact absurd (Option.some.inj hKey).symm hOther
      next => exact hKey
    · intro key hKey
      exact if_pos hKey
    · intro key hKey
      dsimp only
      split
      · rfl
      · exact hKey
  next => cases h

theorem AdoptionWorld.Kept.left (h : world.Kept) (tx : Tx) : (world.leave tx).Kept := by
  refine h.moved (moves_leave world tx) h.refusals ?_ ?_
  · rw [leave_stage]
    exact fun key hKey => absurd hKey List.not_mem_nil
  · rw [leave_stage]
    trivial

theorem AdoptionWorld.Kept.movedTo (h : world.Kept) {stage : StoreStage}
    (hHeld : ∀ key ∈ stage.keys, world.holder key = some tx)
    (hStage : StageKept (world.moveTo tx stage) tx stage) : (world.moveTo tx stage).Kept := by
  refine h.moved (moves_moveTo world tx stage) h.refusals ?_ ?_
  · rw [moveTo_stage]
    exact hHeld
  · rw [moveTo_stage]
    exact hStage

/-- An adoption that raises after its scope check. -/
theorem AdoptionWorld.Kept.refused (h : world.Kept) {adoption : Adoption}
    {external : DiscoveredExternalOrder}
    (hOwned : strip adoption.adoptedBy ≠ "" → external.disposition ≠ .discoveredUnowned) :
    (world.refuse tx adoption external).Kept := by
  have hMoves : Moves tx world (world.refuse tx adoption external) := { moves_leave world tx with }
  refine h.moved hMoves ?_ ?_ ?_
  · exact forall_mem_concat h.refusals hOwned
  · show ∀ key ∈ ((world.leave tx).stage tx).keys, _
    rw [leave_stage]
    exact fun key hKey => absurd hKey List.not_mem_nil
  · show StageKept _ tx ((world.leave tx).stage tx)
    rw [leave_stage]
    trivial

end Steps

end QuantApp.Services
