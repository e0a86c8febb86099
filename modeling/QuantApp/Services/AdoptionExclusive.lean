import QuantApp.Services.AdoptionCommits

/-!
# Adoption is atomic, one-time and exclusive

In every run in which no two adoptions of active orders of one symbol overlap, no active
unowned order is committed between the fence of a submission and its commit, and every adopted
order can be inserted, an external order is adopted at most once and with both of its rows, no
two active adopted orders share a symbol, and no submission is prepared beside an active
unowned or adopted order.
-/

namespace QuantApp.Services

open Core Verified

variable {externals : List DiscoveredExternalOrder} {current : ExecutionOrderRecord}

section Runs

variable {Tx : Type}

/-- Each external order is adopted at most once, and its adoption wrote both rows; active
adopted orders are alone in their symbol; submissions were prepared without any; and no
attributed adoption of an unowned order raised after its scope check. -/
structure AdoptionExclusive (world : AdoptionWorld Tx) : Prop where
  once : world.adoptions.Nodup
  oneOrder : ∀ first ∈ world.orders, ∀ second ∈ world.orders, first.origin = .userAdopted →
    first.adoptedFromExternalOrderId = second.adoptedFromExternalOrderId → first = second
  bothRows : ∀ external ∈ world.externals, external.disposition = .userAdopted ↔
    ∃ order ∈ world.orders, order.origin = .userAdopted ∧
      order.adoptedFromExternalOrderId = external.externalOrderId
  exclusive : ∀ first ∈ world.orders, ∀ second ∈ world.orders, ∀ scope,
    ActiveAdopted scope first → ActiveAdopted scope second → first = second
  clear : ∀ submission ∈ world.prepares, submission.Clear
  adopts : ∀ refusal ∈ world.refusals, strip refusal.1.adoptedBy ≠ "" →
    refusal.2.disposition ≠ .discoveredUnowned

theorem AdoptionWorld.Kept.exclusive {world : AdoptionWorld Tx} (h : world.Kept) :
    AdoptionExclusive world where
  once := h.nodup
  oneOrder := by
    intro first hFirst second hSecond hOrigin hSource
    have hNamed := h.tables.named first hFirst hOrigin
    refine h.tables.ordersKeyed.eq_of_mem hFirst hSecond ?_
    refine (h.tables.once first hFirst second hSecond first.adoptedFromExternalOrderId ?_ ?_).symm
    · exact if_neg hNamed
    · unfold adoptionSourceOrNone
      rw [if_neg (hSource ▸ hNamed), hSource]
  bothRows := by
    intro external hMem
    refine ⟨h.tables.linked external hMem, ?_⟩
    rintro ⟨order, hOrder, hOrigin, hSource⟩
    obtain ⟨_, found, hFound, hId, hAdopted⟩ :=
      h.tables.sources order hOrder (h.tables.named order hOrder hOrigin)
    rw [← h.tables.externalsKeyed.eq_of_mem hFound hMem (hId.trans hSource)]
    exact hAdopted
  exclusive := by
    intro first hFirst second hSecond scope hActive hOther
    exact h.tables.ordersKeyed.eq_of_mem hFirst hSecond
      (h.tables.exclusive first hFirst second hSecond scope hActive hOther)
  clear := h.clear
  adopts := h.refusals

theorem AdoptionWorld.kept_start {orders : List ExecutionOrderRecord}
    (h : StoredSoundly externals orders) :
    ({ externals := externals, orders := orders } : AdoptionWorld Tx).Kept where
  tables := h
  held := fun _ _ hKey => absurd hKey List.not_mem_nil
  stages := fun _ => trivial
  nodup := List.nodup_nil
  adopted := fun _ hMem => absurd hMem List.not_mem_nil
  clear := fun _ hMem => absurd hMem List.not_mem_nil
  refusals := fun _ hMem => absurd hMem List.not_mem_nil

/-! ## Orders that go on -/

section Progress

variable {externals : List DiscoveredExternalOrder} {orders written : List ExecutionOrderRecord}
  {record updated : ExecutionOrderRecord} {expectedVersion : Int}

/-- The stored order of an update, and what the update leaves of it. -/
structure ProgressOf (orders : List ExecutionOrderRecord) (current updated : ExecutionOrderRecord) :
    Prop where
  stored : current ∈ orders
  clientOrderId : current.clientOrderId = updated.clientOrderId
  origin : updated.origin = current.origin
  source : updated.adoptedFromExternalOrderId = current.adoptedFromExternalOrderId
  scope : recordScope updated = recordScope current
  ended : current.status.isTerminal = true → updated.status.isTerminal = true

theorem progressOf_updated (hKeeps : KeepsOrigin orders record)
    (h : updateExecutionOrder orders record expectedVersion = .ok (written, updated)) :
    written = store ExecutionOrderRecord.clientOrderId updated orders ∧
      Unclaimed adoptionSourceOrNone orders updated ∧
        ∃ current, ProgressOf orders current updated := by
  obtain ⟨hCan, rfl, rfl⟩ := updateExecutionOrder_eq_ok_iff.mp h
  obtain ⟨current, hFound, hEnvironment, hAccount, hSymbol, _⟩ := hCan.stored
  have hMem : current ∈ orders := lookup_mem hFound
  have hId : current.clientOrderId = record.clientOrderId := lookup_key hFound
  obtain ⟨hOrigin, hSource, hEnded⟩ := hKeeps current hMem hId
  refine ⟨rfl, hCan.adoption, current, hMem, hId, hOrigin, hSource, ?_, hEnded⟩
  unfold recordScope
  rw [hEnvironment, hAccount, hSymbol]

theorem ProgressOf.active (h : ProgressOf orders current updated) {scope : SymbolScope}
    (hActive : ActiveAdopted scope updated) : ActiveAdopted scope current where
  origin := h.origin.symm.trans hActive.origin
  scope := h.scope.symm.trans hActive.scope
  active := by
    by_contra hEnded
    rw [Bool.not_eq_false] at hEnded
    have hStill := hActive.active
    rw [h.ended hEnded] at hStill
    cases hStill

theorem StoredSoundly.progress (h : StoredSoundly externals orders)
    (hProgress : ProgressOf orders current updated)
    (hSource : Unclaimed adoptionSourceOrNone orders updated) :
    StoredSoundly externals (store ExecutionOrderRecord.clientOrderId updated orders) where
  externalsKeyed := h.externalsKeyed
  ordersKeyed := h.ordersKeyed.store
  readable := h.readable
  linked := by
    intro external hMem hAdopted
    obtain ⟨order, hOrder, hOrigin, hFrom⟩ := h.linked external hMem hAdopted
    by_cases hSame : order.clientOrderId = updated.clientOrderId
    · have hCurrent : order = current := h.ordersKeyed.eq_of_mem hOrder hProgress.stored
        (hSame.trans hProgress.clientOrderId.symm)
      subst hCurrent
      exact ⟨updated, mem_store_self hOrder hSame, hProgress.origin.trans hOrigin,
        hProgress.source.trans hFrom⟩
    · exact ⟨order, mem_store_of_ne hOrder hSame, hOrigin, hFrom⟩
  sources := by
    refine forall_mem_store h.sources fun hNamed => ?_
    rw [hProgress.origin, hProgress.source] at *
    exact h.sources current hProgress.stored hNamed
  named := by
    refine forall_mem_store h.named fun hOrigin => ?_
    rw [hProgress.origin, hProgress.source] at *
    exact h.named current hProgress.stored hOrigin
  once := h.once.store hSource
  exclusive := by
    -- An active adopted row of the new table is one of the old table under the same id.
    have hBefore : ∀ order ∈ store ExecutionOrderRecord.clientOrderId updated orders, ∀ scope,
        ActiveAdopted scope order → ∃ old ∈ orders, old.clientOrderId = order.clientOrderId ∧
          ActiveAdopted scope old := by
      intro order hOrder scope hActive
      rcases mem_store hOrder with rfl | hOld
      · exact ⟨current, hProgress.stored, hProgress.clientOrderId, hProgress.active hActive⟩
      · exact ⟨order, hOld, rfl, hActive⟩
    intro first hFirst second hSecond scope hActive hOther
    obtain ⟨oldFirst, hOldFirst, hFirstId, hFirstActive⟩ := hBefore first hFirst scope hActive
    obtain ⟨oldSecond, hOldSecond, hSecondId, hSecondActive⟩ := hBefore second hSecond scope hOther
    rw [← hFirstId, ← hSecondId]
    exact h.exclusive oldFirst hOldFirst oldSecond hOldSecond scope hFirstActive hSecondActive

theorem AdoptionWorld.Kept.progress [DecidableEq Tx] {world after : AdoptionWorld Tx}
    (h : world.Kept) (hNext : world.progress record expectedVersion = some after) :
    after.Kept := by
  unfold AdoptionWorld.progress at hNext
  split at hNext
  next hGuard =>
    cases hUpdate : updateExecutionOrder world.orders record expectedVersion with
    | error =>
      rw [hUpdate] at hNext
      cases hNext
      exact h
    | ok result =>
      obtain ⟨written, updated⟩ := result
      rw [hUpdate] at hNext
      cases hNext
      obtain ⟨rfl, hSource, current, hProgress⟩ := progressOf_updated hGuard.1 hUpdate
      refine
        { h with
          tables := h.tables.progress hProgress hSource
          stages := fun tx => (h.stages tx).left (h.held tx) ?_ }
      exact
        { stage := rfl
          holder := fun _ hKey => hKey
          locked := fun external hMem _ => hMem
          unowned := fun external hMem _ => Or.inl hMem
          versions := fun external hMem => ⟨external, hMem, rfl, Or.inl rfl⟩
          absent := fun _ _ hAbsent => hAbsent
          adopted := by
            refine fun scope hNone => Or.inl (forall_mem_store hNone fun hActive => ?_)
            exact hNone current hProgress.stored (hProgress.active hActive)
          unused := by
            intro clientOrderId _ hAbsent
            rwa [map_key_store] }
  next => cases hNext

end Progress

/-! ## Runs -/

variable [DecidableEq Tx]

theorem AdoptionWorld.Kept.begin {world after : AdoptionWorld Tx} (h : world.Kept) {tx : Tx}
    {call : StoreCall} (hNext : world.next (.begin tx call) = some after) : after.Kept := by
  dsimp only [AdoptionWorld.next] at hNext
  split at hNext
  next =>
    split at hNext
    next hRead =>
      cases hNext
      cases call with
      | adopt =>
        exact h.movedTo (fun _ hKey => absurd hKey List.not_mem_nil) trivial
      | prepare =>
        exact h.movedTo (fun _ hKey => absurd hKey List.not_mem_nil) ⟨rfl, rfl⟩
      | reconcile =>
        refine h.movedTo (fun _ hKey => absurd hKey List.not_mem_nil)
          ⟨List.nodup_nil, fun _ hMem => absurd hMem List.not_mem_nil, fun write hWrite => ?_⟩
        cases write with
        | create => trivial
        | update read =>
          have hStored : read ∈ world.externals := hRead _ hWrite
          exact ⟨h.tables.readable read hStored, read, hStored, rfl, le_rfl, fun _ => rfl⟩
    next => cases hNext
  next => cases hNext

/-- A step that meets the condition. -/
theorem AdoptionWorld.Kept.next {world after : AdoptionWorld Tx} {step : AdoptionStep Tx}
    (h : world.Kept) (hUnraced : Unraced world step) (hNext : world.next step = some after) :
    after.Kept := by
  cases step with
  | begin => exact h.begin hNext
  | statement => exact h.statement hUnraced hNext
  | abort tx =>
    cases hNext
    exact h.left tx
  | progress => exact h.progress hNext
  | commit tx =>
    have hCommit : world.commit tx = some after := hNext
    dsimp only [Unraced] at hUnraced
    cases hStage : world.stage tx with
    | adoptionUpdated =>
      rw [hStage] at hUnraced
      exact h.commitAdoption hStage hUnraced hCommit
    | submissionInserted => exact h.commitSubmission hStage hCommit
    | reconciling plan =>
      cases plan with
      | nil =>
        rw [hStage] at hUnraced
        exact h.commitReconciliation hStage hUnraced hCommit
      | cons =>
        unfold AdoptionWorld.commit at hCommit
        rw [hStage] at hCommit
        cases hCommit
    | _ =>
      unfold AdoptionWorld.commit at hCommit
      rw [hStage] at hCommit
      cases hCommit

def AdoptionWorld.Steps (before : AdoptionWorld Tx) (step : AdoptionStep Tx)
    (after : AdoptionWorld Tx) : Prop :=
  before.next step = some after

/-- In every run whose steps meet the condition, adoption is atomic, one-time and exclusive. -/
theorem adoption_exclusive {externals : List DiscoveredExternalOrder}
    {orders : List ExecutionOrderRecord} {world : AdoptionWorld Tx}
    (hStored : StoredSoundly externals orders)
    (hRun : RunWith AdoptionWorld.Steps Unraced { externals := externals, orders := orders }
      world) : AdoptionExclusive world := by
  have hKept : world.Kept := hRun.invariant (AdoptionWorld.kept_start hStored)
    (fun _ _ _ hBefore hUnraced hStep => hBefore.next hUnraced hStep)
  exact hKept.exclusive

end Runs

/-! ## Runs of one symbol -/

/-- A broker order of AAPL that nothing claims. -/
def discoveredOrder (brokerOrderId externalOrderId : String) : DiscoveredExternalOrder :=
  { environment := "PROD"
    accountNo := "1"
    symbol := "AAPL"
    side := .buy
    brokerOrderId := brokerOrderId
    quantityRequested := 10
    externalOrderId := externalOrderId
    discoveredAt := sampleTime }

def adoptionBy (clientOrderId : String) (hNamed : clientOrderId ≠ "") : Adoption :=
  { adoptedBy := "operator"
    clientOrderId := clientOrderId
    preparedAt := sampleTime
    adoptedAt := sampleTime
    clientOrderIdNamed := hNamed }

def firstAdoption : Adoption := adoptionBy "a1" (by decide +kernel)

def secondAdoption : Adoption := adoptionBy "a2" (by decide +kernel)

def aaplRequest : SubmitExecutionRequest :=
  { clientOrderId := "s1"
    environment := "PROD"
    accountNo := "1"
    symbol := "AAPL"
    side := .buy
    intent := .entry
    quantity := 10
    limitPrice := some 100 }

def prepareAapl : StoreCall := .prepare aaplRequest sampleTime 100 "r1" (by decide +kernel)

/-- The reducer finds the working order B1. -/
def aaplDiscovery : Discovery :=
  { runtime := sampleRuntime
    snapshot := sampleSnapshot
    row := sampleRow
    named := by decide +kernel }

/-- The adopted order once it is filled. -/
def filledAdoption : ExecutionOrderRecord :=
  { adoptedRecord (discoveredOrder "B1" "e1") firstAdoption with
    status := .filled
    filledQuantity := 10 }

def statements {Tx : Type} (tx : Tx) (count : Nat) : List (AdoptionStep Tx) :=
  List.replicate count (.statement tx)

/-- An order is adopted and filled, then a second one is adopted, and a submission beside it is
refused. -/
def adoptedInTurnSteps : List (AdoptionStep Unit) :=
  [.begin () (.adopt "e1" firstAdoption)] ++ statements () 4 ++
    [.commit (), .progress filledAdoption 1, .begin () (.adopt "e2" secondAdoption)] ++
    statements () 4 ++ [.commit (), .begin () prepareAapl] ++ statements () 2

/-- Decided before the insert of an adoption. -/
def insertsAdopted (world : AdoptionWorld Unit) : AdoptionStep Unit → Bool
  | .statement () =>
    match world.stage () with
    | .adoptionChecked adoption external =>
      decide external.Adoptable &&
        (getExecutionOrder world.orders adoption.clientOrderId).isNone &&
        (identityHolder world.orders (adoptedRecord external adoption)).isNone
    | _ => true
  | _ => true

theorem unraced_of_insertsAdopted {world : AdoptionWorld Unit} {step : AdoptionStep Unit}
    (h : insertsAdopted world step = true) : Unraced world step := by
  cases step with
  | begin | abort | progress => trivial
  | statement =>
    dsimp only [Unraced]
    split
    next adoption external hStage =>
      intro _ _
      dsimp only [insertsAdopted] at h
      rw [hStage] at h
      simp only [Bool.and_eq_true, decide_eq_true_eq, Option.isNone_iff_eq_none] at h
      refine ⟨h.1.1, h.1.2, checkBrokerIdentityConflict_eq_ok_iff.mp ?_⟩
      unfold checkBrokerIdentityConflict
      rw [h.2]
    next => trivial
  | commit tx =>
    dsimp only [Unraced]
    split
    next => exact fun _ other hOther => absurd (Subsingleton.elim other tx) hOther
    next => exact fun _ _ _ _ other hOther => absurd (Subsingleton.elim other tx) hOther
    next => trivial

def twoDiscovered : List DiscoveredExternalOrder :=
  [discoveredOrder "B1" "e1", discoveredOrder "B2" "e2"]

/-- Tables without orders, and with unowned external orders only. -/
theorem storedSoundly_unowned (hKeyed : Keyed DiscoveredExternalOrder.externalOrderId externals)
    (hReadable : ∀ external ∈ externals, DiscoveredExternalOrder.Readable external)
    (hUnowned : ∀ external ∈ externals, external.disposition = .discoveredUnowned) :
    StoredSoundly externals [] where
  externalsKeyed := hKeyed
  ordersKeyed := List.nodup_nil
  readable := hReadable
  linked := by
    intro external hMem hAdopted
    rw [hUnowned external hMem] at hAdopted
    cases hAdopted
  sources := fun _ hMem => absurd hMem List.not_mem_nil
  named := fun _ hMem => absurd hMem List.not_mem_nil
  once := fun _ hMem => absurd hMem List.not_mem_nil
  exclusive := fun _ hMem => absurd hMem List.not_mem_nil

theorem twoDiscovered_sound : StoredSoundly twoDiscovered [] := by
  refine storedSoundly_unowned (by decide +kernel) ?_ (by decide +kernel)
  intro external hMem
  rcases List.mem_pair.mp hMem with rfl | rfl
  all_goals exact ⟨by decide +kernel, by decide⟩

theorem adoption_exclusive_in_turn : ∃ world : AdoptionWorld Unit,
    RunWith AdoptionWorld.Steps Unraced { externals := twoDiscovered, orders := [] } world ∧
      world.adoptions = ["e1", "e2"] ∧ AdoptionExclusive world := by
  have hEnd : (runLabels AdoptionWorld.next insertsAdopted adoptedInTurnSteps
      { externals := twoDiscovered, orders := [] }).map (fun world => world.adoptions) =
        some ["e1", "e2"] := by
    decide +kernel
  obtain ⟨world, hWorld, hAdoptions⟩ := Option.map_eq_some_iff.mp hEnd
  have hRun : RunWith AdoptionWorld.Steps Unraced
      { externals := twoDiscovered, orders := [] } world :=
    RunWith.of_labels (fun _ _ _ hNext => hNext) (fun _ _ => unraced_of_insertsAdopted) hWorld
  exact ⟨world, hRun, hAdoptions, adoption_exclusive twoDiscovered_sound hRun⟩

/-- Two adoptions of one symbol that both check its scope before either commits. -/
def overlappingSteps : List (AdoptionStep Bool) :=
  [.begin false (.adopt "e1" firstAdoption), .begin true (.adopt "e2" secondAdoption)] ++
    statements false 2 ++ statements true 2 ++ statements false 2 ++ [.commit false] ++
    statements true 2 ++ [.commit true]

/-- A discovery that commits between the fence of a submission and its commit. -/
def overtakenFenceSteps : List (AdoptionStep Bool) :=
  [.begin false prepareAapl] ++ statements false 2 ++
    [.begin true (.reconcile [.create aaplDiscovery]), .statement true, .commit true,
      .statement false, .commit false]

/-- An order whose status the broker has not told. -/
def unknownOrder : DiscoveredExternalOrder :=
  { discoveredOrder "B1" "e1" with brokerStatus := .unknownSubmissionState }

theorem adoption_not_exclusive :
    (∃ world : AdoptionWorld Bool, RunWith AdoptionWorld.Steps (fun _ _ => True)
        { externals := twoDiscovered, orders := [] } world ∧
      ∃ first ∈ world.orders, ∃ second ∈ world.orders, first ≠ second ∧
        ActiveAdopted ("PROD", "1", "AAPL") first ∧ ActiveAdopted ("PROD", "1", "AAPL") second) ∧
    (∃ world : AdoptionWorld Bool, RunWith AdoptionWorld.Steps (fun _ _ => True) {} world ∧
      ∃ submission ∈ world.prepares, ¬ submission.Clear) ∧
    ∃ world : AdoptionWorld Bool, RunWith AdoptionWorld.Steps (fun _ _ => True)
        { externals := [unknownOrder], orders := [] } world ∧
      (firstAdoption, unknownOrder) ∈ world.refusals := by
  have hAny : ∀ {start world : AdoptionWorld Bool} {steps : List (AdoptionStep Bool)},
      runLabels AdoptionWorld.next (fun _ _ => true) steps start = some world →
      RunWith AdoptionWorld.Steps (fun _ _ => True) start world := fun hWorld =>
    RunWith.of_labels (fun _ _ _ hNext => hNext) (fun _ _ _ => trivial) hWorld
  refine ⟨?_, ?_, ?_⟩
  · have hEnd : (runLabels AdoptionWorld.next (fun _ _ => true) overlappingSteps
        { externals := twoDiscovered, orders := [] }).map (fun world => world.orders) =
          some [adoptedRecord (discoveredOrder "B1" "e1") firstAdoption,
            adoptedRecord (discoveredOrder "B2" "e2") secondAdoption] := by
      decide +kernel
    obtain ⟨world, hWorld, hOrders⟩ := Option.map_eq_some_iff.mp hEnd
    refine ⟨world, hAny hWorld, adoptedRecord (discoveredOrder "B1" "e1") firstAdoption, ?_,
      adoptedRecord (discoveredOrder "B2" "e2") secondAdoption, ?_, ?_, ⟨rfl, rfl, rfl⟩,
      ⟨rfl, rfl, rfl⟩⟩
    · rw [hOrders]
      exact List.mem_cons_self
    · rw [hOrders]
      exact List.mem_cons_of_mem _ List.mem_cons_self
    · decide +kernel
  · have hEnd : (runLabels AdoptionWorld.next (fun _ _ => true) overtakenFenceSteps {}).map
        (fun world => world.prepares.map (fun submission => submission.externals.any
          (isActiveUnowned submission.record.environment submission.record.accountNo
            submission.record.symbol))) = some [true] := by
      decide +kernel
    obtain ⟨world, hWorld, hPrepares⟩ := Option.map_eq_some_iff.mp hEnd
    obtain ⟨submission, hSubmission, hActive⟩ := List.mem_map.mp
      (hPrepares ▸ List.mem_cons_self : true ∈ world.prepares.map (fun submission =>
        submission.externals.any (isActiveUnowned submission.record.environment
          submission.record.accountNo submission.record.symbol)))
    obtain ⟨external, hExternal, hUnowned⟩ := List.any_eq_true.mp hActive
    exact ⟨world, hAny hWorld, submission, hSubmission,
      fun hClear => hClear (fenceRejects_iff.mpr (Or.inl ⟨external, hExternal, hUnowned⟩))⟩
  · have hEnd : (runLabels AdoptionWorld.next (fun _ _ => true)
        ([.begin false (.adopt "e1" firstAdoption)] ++ statements false 3)
        { externals := [unknownOrder], orders := [] }).map (fun world => world.refusals) =
          some [(firstAdoption, unknownOrder)] := by
      decide +kernel
    obtain ⟨world, hWorld, hRefusals⟩ := Option.map_eq_some_iff.mp hEnd
    refine ⟨world, hAny hWorld, ?_⟩
    rw [hRefusals]
    exact List.mem_cons_self

end QuantApp.Services
