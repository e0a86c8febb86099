import QuantApp.Verified.IndependentSteps
import QuantApp.Services.ClaimedRows

/-!
# Which broker rows are independent

Rows are folded one by one onto shared orders and cards.  Two rows depend on
each other when they carry one broker id, when EXACT orders of one card claim
them, or when no EXACT order claims either and they are of one symbol and side.
Independent rows commute in the exact loop (`exactRows_commuting`) and in the
heuristic loop (`retainRows_commuting`), up to the order of what they append.
-/

namespace QuantApp.Services

open Core Verified
open ExecutionOrderRecord (clientOrderId)

variable {state s t c : ReduceState} {a b row : BrokerOrderStatusSnapshot}
  {config : ExecutionConfig} {orders xs ys : List ExecutionOrderRecord}
  {y exact x candidate : ExecutionOrderRecord} {rows : List BrokerOrderStatusSnapshot}
  {categories : List (String × ReconciliationCategory)} {cardFor : CardKey → Option TradeCardState}
  {outcome : RowOutcome}

/-- Two rows meet in the claims of the EXACT orders that carry their ids. -/
def ClaimsMeet (a b : BrokerOrderStatusSnapshot) :
    Option ExecutionOrderRecord → Option ExecutionOrderRecord → Prop
  | some x, some y => orderKey x = orderKey y
  | none, none => a.symbol = b.symbol ∧ a.side = b.side
  | some _, none => False
  | none, some _ => False

instance (a b : BrokerOrderStatusSnapshot) (x y : Option ExecutionOrderRecord) :
    Decidable (ClaimsMeet a b x y) :=
  match x, y with
  | some x, some y => inferInstanceAs (Decidable (orderKey x = orderKey y))
  | none, none => inferInstanceAs (Decidable (a.symbol = b.symbol ∧ a.side = b.side))
  | some _, none => inferInstanceAs (Decidable False)
  | none, some _ => inferInstanceAs (Decidable False)

/-- The order of the two rows can matter. -/
def DependentRows (orders : List ExecutionOrderRecord) (a b : BrokerOrderStatusSnapshot) : Prop :=
  a.brokerOrderId = b.brokerOrderId ∨
    ClaimsMeet a b (exactOrderFor orders a.brokerOrderId)
      (exactOrderFor orders b.brokerOrderId)

instance (orders : List ExecutionOrderRecord) (a b : BrokerOrderStatusSnapshot) :
    Decidable (DependentRows orders a b) :=
  inferInstanceAs (Decidable (_ ∨ _))

theorem DependentRows.refl (orders : List ExecutionOrderRecord)
    (a : BrokerOrderStatusSnapshot) : DependentRows orders a a :=
  Or.inl rfl

theorem ClaimsMeet.symm {x y : Option ExecutionOrderRecord} (h : ClaimsMeet a b x y) :
    ClaimsMeet b a y x := by
  cases x with
  | none =>
    cases y with
    | none => exact ⟨Eq.symm h.1, Eq.symm h.2⟩
    | some => exact h
  | some =>
    cases y with
    | none => exact h
    | some => exact Eq.symm h

theorem DependentRows.symm (a b : BrokerOrderStatusSnapshot) (h : DependentRows orders a b) :
    DependentRows orders b a := by
  rcases h with hId | hMeet
  · exact Or.inl hId.symm
  · exact Or.inr hMeet.symm

/-! ## States that differ by what rows append -/

/-- The tables and categories are equal, and the same ids are consumed. -/
structure Alike (a b : ReduceState) : Prop where
  cards : a.cards = b.cards
  orders : a.orders = b.orders
  reservations : a.reservations = b.reservations
  categories : a.categories = b.categories
  consumed : ∀ id, id ∈ a.consumedBrokerIds ↔ id ∈ b.consumedBrokerIds
  candidates : ∀ id, id ∈ a.candidateIds ↔ id ∈ b.candidateIds

namespace Alike

@[refl] theorem refl (a : ReduceState) : Alike a a :=
  ⟨rfl, rfl, rfl, rfl, fun _ => Iff.rfl, fun _ => Iff.rfl⟩

theorem symm {a b : ReduceState} (h : Alike a b) : Alike b a :=
  ⟨h.cards.symm, h.orders.symm, h.reservations.symm, h.categories.symm,
    fun id => (h.consumed id).symm, fun id => (h.candidates id).symm⟩

theorem trans {a b : ReduceState} (hab : Alike a b) (hbc : Alike b c) : Alike a c :=
  ⟨hab.cards.trans hbc.cards, hab.orders.trans hbc.orders,
    hab.reservations.trans hbc.reservations, hab.categories.trans hbc.categories,
    fun id => (hab.consumed id).trans (hbc.consumed id),
    fun id => (hab.candidates id).trans (hbc.candidates id)⟩

end Alike

/-! ## The exact loop -/

/-- What one row makes of its order and of the order's card. -/
structure RowOutcome where
  applied : ExecutionOrderRecord
  projected : Option TradeCardState
  alerts : List ReconciliationAlert

/-- The outcome of one row of the exact loop, from the order and the cards alone. -/
def rowOutcome (runtime : Runtime) (snapshot : AccountBrokerSnapshot)
    (categories : List (String × ReconciliationCategory))
    (cardFor : CardKey → Option TradeCardState) (row : BrokerOrderStatusSnapshot)
    (exact : ExecutionOrderRecord) : Except Raised RowOutcome := do
  let (applied, contradiction) ← applyExactOrderSnapshot runtime exact row
  let alerts := contradictionAlerts applied contradiction
  match cardFor (orderKey applied) with
  | none => pure { applied := applied, projected := none, alerts := alerts }
  | some card =>
    if cardTracksOrder card applied then
      let (projected, more) ← projectExactOrderToCard runtime.config applied row snapshot
        (categoryOf categories applied.clientOrderId) card
      pure { applied := applied, projected := some projected, alerts := alerts ++ more }
    else pure { applied := applied, projected := none, alerts := alerts }

/-- The state once the outcome of a row is written. -/
def writeOutcome (state : ReduceState) (row : BrokerOrderStatusSnapshot)
    (outcome : RowOutcome) : ReduceState :=
  { state with
    orders := store clientOrderId outcome.applied state.orders
    cards :=
      match outcome.projected with
      | none => state.cards
      | some card => store TradeCardState.cardKey card state.cards
    consumedBrokerIds := state.consumedBrokerIds ++ [row.brokerOrderId]
    alerts := state.alerts ++ outcome.alerts }

theorem reconcileExactOrder_eq (runtime : Runtime) (snapshot : AccountBrokerSnapshot)
    (state : ReduceState) (row : BrokerOrderStatusSnapshot) (exact : ExecutionOrderRecord) :
    reconcileExactOrder runtime snapshot state row exact =
      writeOutcome state row <$>
        rowOutcome runtime snapshot state.categories (cardIn state) row exact := by
  unfold reconcileExactOrder rowOutcome cardIn
  cases applyExactOrderSnapshot runtime exact row with
  | error => rfl
  | ok result =>
    obtain ⟨applied, contradiction⟩ := result
    simp only [bind, Except.bind]
    cases hCard : lookup TradeCardState.cardKey (orderKey applied) state.cards with
    | none => rfl
    | some card =>
      dsimp only
      by_cases hTracks : cardTracksOrder card applied = true
      · rw [if_pos hTracks, if_pos hTracks]
        cases projectExactOrderToCard runtime.config applied row snapshot
            (categoryOf state.categories applied.clientOrderId) card with
        | error raised => rfl
        | ok projection =>
          simp only [Functor.map, Except.map, pure, Except.pure, writeOutcome, List.append_assoc]
      · rw [if_neg hTracks, if_neg hTracks]
        rfl

theorem rowOutcome_keys {runtime : Runtime} {snapshot : AccountBrokerSnapshot}
    (hIdentity : exact.brokerIdentityStatus = .exact_)
    (hCards : ∀ key card, cardFor key = some card → card.cardKey = key)
    (h : rowOutcome runtime snapshot categories cardFor row exact = .ok outcome) :
    SameOrder exact outcome.applied ∧
      ∀ card, outcome.projected = some card → card.cardKey = orderKey exact := by
  obtain ⟨⟨applied, contradiction⟩, hApplied, h⟩ := bind_eq_ok.mp h
  have hSame := (applyExactOrderSnapshot_effect hIdentity hApplied).same
  dsimp only at h
  cases hCard : cardFor (orderKey applied) with
  | none =>
    simp only [hCard] at h
    cases h
    exact ⟨hSame, fun card hNone => by cases hNone⟩
  | some card =>
    simp only [hCard] at h
    split at h
    · obtain ⟨⟨projected, more⟩, hProjected, h⟩ := bind_eq_ok.mp h
      cases h
      refine ⟨hSame, fun next hNext => ?_⟩
      cases hNext
      rw [projectExactOrderToCard_cardKey hProjected, hCards _ _ hCard, hSame.orderKey]
    · cases h
      exact ⟨hSame, fun card hNone => by cases hNone⟩

theorem rowOutcome_congr {runtime : Runtime} {snapshot : AccountBrokerSnapshot}
    {cardFor' : CardKey → Option TradeCardState} (hIdentity : exact.brokerIdentityStatus = .exact_)
    (hCard : cardFor (orderKey exact) = cardFor' (orderKey exact)) :
    rowOutcome runtime snapshot categories cardFor row exact =
      rowOutcome runtime snapshot categories cardFor' row exact := by
  unfold rowOutcome
  cases hApplied : applyExactOrderSnapshot runtime exact row with
  | error => rfl
  | ok result =>
    obtain ⟨applied, contradiction⟩ := result
    have hSame := (applyExactOrderSnapshot_effect hIdentity hApplied).same
    simp only [bind, Except.bind]
    rw [hSame.orderKey, hCard]

theorem exactOrderFor_of_same (hKeyed : OrdersKeyed xs) (h : List.Forall₂ SameOrder xs ys)
    {brokerOrderId : String} (hFound : exactOrderFor ys brokerOrderId = some y) :
    ∃ x, exactOrderFor xs brokerOrderId = some x ∧ SameOrder x y := by
  obtain ⟨hMem, hExact, hId⟩ := exactOrderFor_some hFound
  obtain ⟨x, hx, hSame⟩ := forall₂_mem_right h hMem
  have hExactBefore : hasExactId x = true := by
    rw [← hSame.hasExactId]
    exact hExact
  refine ⟨x, ?_, hSame⟩
  rw [← hId, hSame.brokerOrderId]
  exact exactOrderFor_of_mem hKeyed hx hExactBefore

theorem exactOrderFor_none_of_same (h : List.Forall₂ SameOrder xs ys) (brokerOrderId : String) :
    exactOrderFor ys brokerOrderId = none ↔ exactOrderFor xs brokerOrderId = none := by
  rw [← Option.isNone_iff_eq_none, ← Option.isNone_iff_eq_none, ← Option.not_isSome,
    ← Option.not_isSome, exactOrderFor_isSome_of_same h]

/-- Alike states of the exact loop over `orders`. -/
structure ExactAlike (orders : List ExecutionOrderRecord) (a b : ReduceState) : Prop where
  alike : Alike a b
  same : List.Forall₂ SameOrder orders a.orders

section ExactLoop

variable {runtime : Runtime} {snapshot : AccountBrokerSnapshot}
  {orders : List ExecutionOrderRecord}

section

variable (hKeyed : OrdersKeyed orders) (hSame : List.Forall₂ SameOrder orders state.orders)
include hKeyed hSame

theorem same_reconcileExactRow {next : ReduceState}
    (h : reconcileExactRow runtime snapshot state row = .ok next) :
    List.Forall₂ SameOrder orders next.orders := by
  have hEffects := reconcileExactRow_orders (hKeyed.of_same hSame) h
  exact sameOrders_trans hSame (hEffects.imp (fun _ _ hEffect => hEffect.same))

/-- A row that another order's card and record were written for finds its own
order and card as they were. -/
theorem reconcileExactRow_writeOutcome (hx : exactOrderFor state.orders a.brokerOrderId = some x)
    (hy : exactOrderFor state.orders b.brokerOrderId = some y) (hne : orderKey x ≠ orderKey y)
    (hOutcome : rowOutcome runtime snapshot state.categories (cardIn state) a x = .ok outcome) :
    reconcileExactRow runtime snapshot (writeOutcome state a outcome) b =
      writeOutcome (writeOutcome state a outcome) b <$>
        rowOutcome runtime snapshot state.categories (cardIn state) b y := by
  have hStateKeyed := hKeyed.of_same hSame
  obtain ⟨hxMem, hxExact, _⟩ := exactOrderFor_some hx
  obtain ⟨hyMem, hyExact, hyId⟩ := exactOrderFor_some hy
  obtain ⟨hApplied, hProjected⟩ := rowOutcome_keys (hasExactId_identity hxExact) cardIn_key hOutcome
  have hStep : reconcileExactRow runtime snapshot state a =
      .ok (writeOutcome state a outcome) := by
    unfold reconcileExactRow
    simp only [hx]
    rw [reconcileExactOrder_eq, hOutcome]
    rfl
  have hClient : y.clientOrderId ≠ outcome.applied.clientOrderId := by
    rw [hApplied.clientOrderId]
    intro hEq
    have hEqual := hStateKeyed.client.eq_of_mem hyMem hxMem hEq
    exact hne (congrArg orderKey hEqual).symm
  have hKept : y ∈ (writeOutcome state a outcome).orders :=
    List.mem_map.mpr ⟨y, hyMem, if_neg hClient⟩
  have hFound : exactOrderFor (writeOutcome state a outcome).orders b.brokerOrderId =
      some y := by
    rw [← hyId]
    exact exactOrderFor_of_mem (hKeyed.of_same (same_reconcileExactRow hKeyed hSame hStep))
      hKept hyExact
  have hCard : cardIn (writeOutcome state a outcome) (orderKey y) =
      cardIn state (orderKey y) := by
    unfold cardIn writeOutcome
    dsimp only
    cases hNew : outcome.projected with
    | none => rfl
    | some card =>
      refine lookup_store_of_ne ?_
      rw [hProjected card hNew]
      exact hne.symm
  unfold reconcileExactRow
  simp only [hFound]
  rw [reconcileExactOrder_eq]
  congr 1
  exact rowOutcome_congr (hasExactId_identity hyExact) hCard

end

/-- Outcomes of different orders and cards are written in either order. -/
theorem alike_writeOutcome {p q : RowOutcome}
    (hClient : p.applied.clientOrderId ≠ q.applied.clientOrderId)
    (hCards : ∀ c d, p.projected = some c → q.projected = some d → c.cardKey ≠ d.cardKey) :
    Alike (writeOutcome (writeOutcome state a p) b q)
      (writeOutcome (writeOutcome state b q) a p) := by
  refine
    { cards := ?_
      orders := (store_comm hClient).symm
      reservations := rfl
      categories := rfl
      consumed := ?_
      candidates := fun _ => Iff.rfl }
  · unfold writeOutcome
    dsimp only
    cases hp : p.projected with
    | none => rfl
    | some c =>
      cases hq : q.projected with
      | none => rfl
      | some d => exact (store_comm (hCards c d hp hq)).symm
  · intro id
    simp only [writeOutcome, List.mem_append, List.mem_singleton]
    constructor
    · rintro ((hOld | ha) | hb)
      · exact Or.inl (Or.inl hOld)
      · exact Or.inr ha
      · exact Or.inl (Or.inr hb)
    · rintro ((hOld | hb) | ha)
      · exact Or.inl (Or.inl hOld)
      · exact Or.inr hb
      · exact Or.inl (Or.inr ha)

theorem Alike.writeOutcome (h : Alike s t) (row : BrokerOrderStatusSnapshot)
    (outcome : RowOutcome) :
    Alike (writeOutcome s row outcome) (writeOutcome t row outcome) := by
  refine
    { h with
      cards := ?_
      orders := congrArg (store clientOrderId outcome.applied) h.orders
      consumed := ?_ }
  · unfold Services.writeOutcome
    dsimp only
    rw [h.cards]
  · intro id
    simp only [Services.writeOutcome, List.mem_append, h.consumed id]

theorem reconcileExactRow_respects (h : Alike s t) (row : BrokerOrderStatusSnapshot) :
    Agree Alike (reconcileExactRow runtime snapshot s row)
      (reconcileExactRow runtime snapshot t row) := by
  unfold reconcileExactRow
  rw [h.orders]
  cases exactOrderFor t.orders row.brokerOrderId with
  | none => exact .ok h
  | some exact =>
    dsimp only
    have hCardIn : cardIn s = cardIn t := by
      unfold cardIn
      rw [h.cards]
    rw [reconcileExactOrder_eq, reconcileExactOrder_eq, hCardIn, h.categories]
    cases rowOutcome runtime snapshot t.categories (cardIn t) row exact with
    | error raised => exact .error raised raised
    | ok outcome => exact .ok (h.writeOutcome row outcome)

theorem reconcileExactRow_swap_unclaimed (hKeyed : OrdersKeyed orders)
    (hSame : List.Forall₂ SameOrder orders state.orders)
    (hNone : exactOrderFor state.orders a.brokerOrderId = none) :
    (reconcileExactRow runtime snapshot state b >>=
        (reconcileExactRow runtime snapshot · a)) =
      (reconcileExactRow runtime snapshot state a >>=
        (reconcileExactRow runtime snapshot · b)) := by
  have hIdle : reconcileExactRow runtime snapshot state a = .ok state := by
    unfold reconcileExactRow
    rw [hNone]
  rw [hIdle]
  simp only [bind, Except.bind]
  cases hStep : reconcileExactRow runtime snapshot state b with
  | error => rfl
  | ok next =>
    have hNext := same_reconcileExactRow hKeyed hSame hStep
    have hNoneNext : exactOrderFor next.orders a.brokerOrderId = none := by
      rw [exactOrderFor_none_of_same hNext, ← exactOrderFor_none_of_same hSame]
      exact hNone
    dsimp only
    unfold reconcileExactRow
    rw [hNoneNext]

theorem agree_exactAlike {x y : Except Raised ReduceState} (h : Agree Alike x y)
    (hSame : ∀ state, x = .ok state → List.Forall₂ SameOrder orders state.orders) :
    Agree (ExactAlike orders) x y := by
  cases h with
  | ok hAlike => exact .ok { alike := hAlike, same := hSame _ rfl }
  | error e e' => exact .error e e'

theorem same_twoRows (hKeyed : OrdersKeyed orders) {final : ReduceState}
    (hSame : List.Forall₂ SameOrder orders state.orders)
    (h : (reconcileExactRow runtime snapshot state a >>=
      (reconcileExactRow runtime snapshot · b)) = .ok final) :
    List.Forall₂ SameOrder orders final.orders := by
  obtain ⟨next, hFirst, hSecond⟩ := bind_eq_ok.mp h
  exact same_reconcileExactRow hKeyed (same_reconcileExactRow hKeyed hSame hFirst) hSecond

theorem reconcileExactRow_swap (hKeyed : OrdersKeyed orders)
    (hSame : List.Forall₂ SameOrder orders state.orders)
    (hx : exactOrderFor state.orders a.brokerOrderId = some x)
    (hy : exactOrderFor state.orders b.brokerOrderId = some y) (hne : orderKey x ≠ orderKey y) :
    Agree Alike
      (reconcileExactRow runtime snapshot state a >>= (reconcileExactRow runtime snapshot · b))
      (reconcileExactRow runtime snapshot state b >>=
        (reconcileExactRow runtime snapshot · a)) := by
  obtain ⟨hxMem, hxExact, _⟩ := exactOrderFor_some hx
  obtain ⟨hyMem, hyExact, _⟩ := exactOrderFor_some hy
  have hFirst : reconcileExactRow runtime snapshot state a = writeOutcome state a <$>
      rowOutcome runtime snapshot state.categories (cardIn state) a x := by
    unfold reconcileExactRow
    simp only [hx]
    exact reconcileExactOrder_eq runtime snapshot state a x
  have hSecond : reconcileExactRow runtime snapshot state b = writeOutcome state b <$>
      rowOutcome runtime snapshot state.categories (cardIn state) b y := by
    unfold reconcileExactRow
    simp only [hy]
    exact reconcileExactOrder_eq runtime snapshot state b y
  rw [hFirst, hSecond]
  cases hp : rowOutcome runtime snapshot state.categories (cardIn state) a x with
  | error raised =>
    cases hq : rowOutcome runtime snapshot state.categories (cardIn state) b y with
    | error raised' => exact .error raised raised'
    | ok =>
      have hAfter := reconcileExactRow_writeOutcome hKeyed hSame hy hx hne.symm hq
      simp only [Functor.map, Except.map, bind, Except.bind] at hAfter ⊢
      rw [hAfter, hp]
      exact .error raised raised
  | ok =>
    have hAfter := reconcileExactRow_writeOutcome hKeyed hSame hx hy hne hp
    cases hq : rowOutcome runtime snapshot state.categories (cardIn state) b y with
    | error raised =>
      simp only [Functor.map, Except.map, bind, Except.bind] at hAfter ⊢
      rw [hAfter, hq]
      exact .error raised raised
    | ok =>
      have hBefore := reconcileExactRow_writeOutcome hKeyed hSame hy hx hne.symm hq
      simp only [Functor.map, Except.map, bind, Except.bind] at hAfter hBefore ⊢
      rw [hAfter, hBefore, hp, hq]
      obtain ⟨hApplied, hProjected⟩ := rowOutcome_keys (hasExactId_identity hxExact) cardIn_key hp
      obtain ⟨hApplied', hProjected'⟩ := rowOutcome_keys (hasExactId_identity hyExact) cardIn_key hq
      refine .ok (alike_writeOutcome ?_ ?_)
      · rw [hApplied.clientOrderId, hApplied'.clientOrderId]
        intro hEq
        have hEqual := (hKeyed.of_same hSame).client.eq_of_mem hxMem hyMem hEq
        exact hne (congrArg orderKey hEqual)
      · intro c d hc hd
        rw [hProjected c hc, hProjected' d hd]
        exact hne

theorem exactRows_commuting (runtime : Runtime) (snapshot : AccountBrokerSnapshot)
    (hKeyed : OrdersKeyed orders) :
    CommutingSteps (DependentRows orders) (fun _ => True) (ExactAlike orders)
      (reconcileExactRow runtime snapshot) where
  right := fun s t h => { alike := Alike.refl t, same := h.alike.orders ▸ h.same }
  trans := fun s t r hst htr => { alike := hst.alike.trans htr.alike, same := hst.same }
  respects := by
    intro s t row _ h
    exact agree_exactAlike (reconcileExactRow_respects h.alike row)
      (fun next hNext => same_reconcileExactRow hKeyed h.same hNext)
  swap := by
    intro s a b _ _ h hIndependent
    refine agree_exactAlike ?_ (fun final hFinal => same_twoRows hKeyed h.same hFinal)
    unfold DependentRows at hIndependent
    rw [not_or] at hIndependent
    cases hx : exactOrderFor s.orders a.brokerOrderId with
    | none =>
      rw [reconcileExactRow_swap_unclaimed hKeyed h.same hx]
      exact Agree.refl Alike.refl _
    | some =>
      cases hy : exactOrderFor s.orders b.brokerOrderId with
      | none =>
        rw [reconcileExactRow_swap_unclaimed hKeyed h.same hy]
        exact Agree.refl Alike.refl _
      | some =>
        obtain ⟨x', hx', hSameX⟩ := exactOrderFor_of_same hKeyed h.same hx
        obtain ⟨y', hy', hSameY⟩ := exactOrderFor_of_same hKeyed h.same hy
        have hKeys := hIndependent.2
        rw [hx', hy'] at hKeys
        refine reconcileExactRow_swap hKeyed h.same hx hy ?_
        rw [hSameX.orderKey, hSameY.orderKey]
        exact hKeys

end ExactLoop

/-! ## The heuristic loop -/

/-- The candidate a row is retained for, if any. -/
def pickCandidate (config : ExecutionConfig) (state : ReduceState)
    (row : BrokerOrderStatusSnapshot) : Option ExecutionOrderRecord :=
  if row.brokerOrderId ∈ state.consumedBrokerIds then none
  else ((candidatesFor config state row).insertionSort candidateBefore).head?

/-- The state once the picked candidate is retained. -/
def retainPicked (state : ReduceState) (row : BrokerOrderStatusSnapshot) :
    Option ExecutionOrderRecord → ReduceState
  | none => state
  | some candidate =>
    { state with
      orders := store clientOrderId
        (retainedCandidate candidate row.brokerOrderId) state.orders
      candidateIds := state.candidateIds ++ [candidate.clientOrderId]
      consumedBrokerIds := state.consumedBrokerIds ++ [row.brokerOrderId] }

/-- Up to alerts, a row of the heuristic loop retains the picked candidate. -/
theorem retainCandidateRow_alike (config : ExecutionConfig) (state : ReduceState)
    (row : BrokerOrderStatusSnapshot) :
    Alike (retainCandidateRow config state row)
      (retainPicked state row (pickCandidate config state row)) := by
  unfold retainCandidateRow pickCandidate
  split
  · exact Alike.refl state
  · cases (candidatesFor config state row).insertionSort candidateBefore with
    | nil => exact Alike.refl state
    | cons =>
      exact ⟨rfl, rfl, rfl, rfl, fun _ => Iff.rfl, fun _ => Iff.rfl⟩

theorem pickCandidate_mem (h : pickCandidate config state row = some candidate) :
    row.brokerOrderId ∉ state.consumedBrokerIds ∧ candidate ∈ state.orders ∧
      heuristicCandidate config row candidate = true := by
  unfold pickCandidate at h
  split at h
  · cases h
  · rename_i hConsumed
    have hMem : candidate ∈ candidatesFor config state row := by
      rw [← List.mem_insertionSort candidateBefore]
      exact List.mem_of_mem_head? h
    obtain ⟨hOrder, hMatch⟩ := List.mem_filter.mp hMem
    simp only [Bool.and_eq_true] at hMatch
    exact ⟨hConsumed, hOrder, hMatch.2⟩

theorem heuristicCandidate_kind {order : ExecutionOrderRecord}
    (h : heuristicCandidate config row order = true) :
    row.symbol = order.symbol ∧ row.side = order.side := by
  unfold heuristicCandidate at h
  split at h
  · cases h
  split at h
  · cases h
  · rename_i hKind
    simp only [not_or, not_not] at hKind
    exact hKind

theorem Alike.candidatesFor (h : Alike s t) (config : ExecutionConfig)
    (row : BrokerOrderStatusSnapshot) :
    candidatesFor config s row = candidatesFor config t row := by
  unfold Services.candidatesFor
  rw [h.orders]
  apply List.filter_congr
  intro order _
  have hContains : s.candidateIds.contains order.clientOrderId =
      t.candidateIds.contains order.clientOrderId := by
    rw [Bool.eq_iff_iff, List.contains_iff_mem, List.contains_iff_mem]
    exact h.candidates order.clientOrderId
  rw [hContains]

theorem Alike.pickCandidate (h : Alike s t) (config : ExecutionConfig)
    (row : BrokerOrderStatusSnapshot) :
    pickCandidate config s row = pickCandidate config t row := by
  unfold Services.pickCandidate
  rw [h.candidatesFor config row]
  by_cases hConsumed : row.brokerOrderId ∈ s.consumedBrokerIds
  · rw [if_pos hConsumed, if_pos ((h.consumed _).mp hConsumed)]
  · rw [if_neg hConsumed, if_neg (fun hMem => hConsumed ((h.consumed _).mpr hMem))]

theorem Alike.retainPicked (h : Alike s t) (row : BrokerOrderStatusSnapshot)
    (picked : Option ExecutionOrderRecord) :
    Alike (retainPicked s row picked) (retainPicked t row picked) := by
  cases picked with
  | none => exact h
  | some =>
    refine
      { h with
        orders := congrArg (store clientOrderId _) h.orders
        consumed := ?_
        candidates := ?_ }
    · intro id
      simp only [Services.retainPicked, List.mem_append, h.consumed id]
    · intro id
      simp only [Services.retainPicked, List.mem_append, h.candidates id]

theorem Alike.retainCandidateRow (h : Alike s t) (config : ExecutionConfig)
    (row : BrokerOrderStatusSnapshot) :
    Alike (retainCandidateRow config s row) (retainCandidateRow config t row) := by
  refine (retainCandidateRow_alike config s row).trans ?_
  rw [h.pickCandidate config row]
  exact (h.retainPicked row _).trans (retainCandidateRow_alike config t row).symm

section

variable (hKeyed : OrdersKeyed state.orders)
include hKeyed

/-- Retaining a candidate of another symbol or side leaves a row's candidates. -/
theorem candidatesFor_retainPicked (hPicked : pickCandidate config state a = some candidate)
    (hKind : ¬ (a.symbol = b.symbol ∧ a.side = b.side)) :
    candidatesFor config (retainPicked state a (some candidate)) b =
      candidatesFor config state b := by
  obtain ⟨_, hCandidate, hMatch⟩ := pickCandidate_mem hPicked
  have hOther : ∀ order : ExecutionOrderRecord, order.symbol = candidate.symbol →
      order.side = candidate.side → heuristicCandidate config b order = false := by
    intro order hSymbol hSide
    by_contra hTrue
    rw [Bool.not_eq_false] at hTrue
    obtain ⟨hbSymbol, hbSide⟩ := heuristicCandidate_kind hTrue
    obtain ⟨haSymbol, haSide⟩ := heuristicCandidate_kind hMatch
    refine hKind ⟨?_, ?_⟩
    · rw [haSymbol, hbSymbol, hSymbol]
    · rw [haSide, hbSide, hSide]
  have hQuiet := (recoveryUpdate_retainedCandidate candidate a.brokerOrderId).quiet
  have hClient : (retainedCandidate candidate a.brokerOrderId).clientOrderId =
      candidate.clientOrderId := hQuiet.same.clientOrderId
  have hRetained :
      heuristicCandidate config b (retainedCandidate candidate a.brokerOrderId) = false :=
    hOther _ (congrArg ExecutionOrderRecord.symbol hQuiet.same).symm
      (congrArg ExecutionOrderRecord.side hQuiet.same).symm
  unfold candidatesFor retainPicked
  dsimp only
  unfold store
  rw [List.filter_map]
  refine (congrArg (List.map _) (List.filter_congr (?_ : ∀ order ∈ state.orders, _ =
      (isAmbiguousSubmission order && !(state.candidateIds.contains order.clientOrderId) &&
        heuristicCandidate config b order)))).trans ?_
  · intro order hOrder
    rw [Function.comp_apply]
    by_cases hSame : order.clientOrderId = candidate.clientOrderId
    · have hEq : order = candidate := hKeyed.client.eq_of_mem hOrder hCandidate hSame
      rw [if_pos (hSame.trans hClient.symm), hRetained, hEq, hOther candidate rfl rfl]
      simp
    · rw [if_neg (fun hEq => hSame (hEq.trans hClient))]
      simp [hSame]
  refine (List.map_congr_left ?_).trans (List.map_id _)
  intro order hOrder
  obtain ⟨hMem, hMatchOrder⟩ := List.mem_filter.mp hOrder
  simp only [Bool.and_eq_true] at hMatchOrder
  refine if_neg ?_
  intro hSame
  have hEq : order = candidate := hKeyed.client.eq_of_mem hMem hCandidate (hSame.trans hClient)
  rw [hEq, hOther candidate rfl rfl] at hMatchOrder
  exact absurd hMatchOrder.2 (by simp)

theorem pickCandidate_retainPicked (hId : a.brokerOrderId ≠ b.brokerOrderId)
    (hKind : ¬ (a.symbol = b.symbol ∧ a.side = b.side)) :
    pickCandidate config (retainPicked state a (pickCandidate config state a)) b =
      pickCandidate config state b := by
  cases hPicked : pickCandidate config state a with
  | none => rfl
  | some candidate =>
    unfold pickCandidate
    rw [candidatesFor_retainPicked hKeyed hPicked hKind]
    have hConsumed : b.brokerOrderId ∈ (retainPicked state a (some candidate)).consumedBrokerIds
        ↔ b.brokerOrderId ∈ state.consumedBrokerIds := by
      simp [retainPicked, hId.symm]
    by_cases hb : b.brokerOrderId ∈ state.consumedBrokerIds
    · rw [if_pos hb, if_pos (hConsumed.mpr hb)]
    · rw [if_neg hb, if_neg (fun h => hb (hConsumed.mp h))]

/-- Candidates of different kinds are retained in either order. -/
theorem alike_retainPicked (hKind : ¬ (a.symbol = b.symbol ∧ a.side = b.side)) :
    Alike
      (retainPicked (retainPicked state a (pickCandidate config state a)) b
        (pickCandidate config state b))
      (retainPicked (retainPicked state b (pickCandidate config state b)) a
        (pickCandidate config state a)) := by
  cases ha : pickCandidate config state a with
  | none => exact Alike.refl _
  | some x =>
    cases hb : pickCandidate config state b with
    | none => exact Alike.refl _
    | some y =>
      obtain ⟨_, hx, hMatchX⟩ := pickCandidate_mem ha
      obtain ⟨_, hy, hMatchY⟩ := pickCandidate_mem hb
      obtain ⟨hSymbolX, hSideX⟩ := heuristicCandidate_kind hMatchX
      obtain ⟨hSymbolY, hSideY⟩ := heuristicCandidate_kind hMatchY
      have hClientX := (recoveryUpdate_retainedCandidate x a.brokerOrderId).quiet.same.clientOrderId
      have hClientY := (recoveryUpdate_retainedCandidate y b.brokerOrderId).quiet.same.clientOrderId
      have hne : (retainedCandidate y b.brokerOrderId).clientOrderId ≠
          (retainedCandidate x a.brokerOrderId).clientOrderId := by
        rw [hClientX, hClientY]
        intro hEq
        have hEqual : y = x := hKeyed.client.eq_of_mem hy hx hEq
        refine hKind ⟨?_, ?_⟩
        · rw [hSymbolX, hSymbolY, hEqual]
        · rw [hSideX, hSideY, hEqual]
      refine
        { cards := rfl
          orders := store_comm hne
          reservations := rfl
          categories := rfl
          consumed := ?_
          candidates := ?_ }
      all_goals
        intro id
        simp only [retainPicked, List.mem_append, List.mem_singleton]
        tauto

end

/-- Alike states of the heuristic loop: every row an EXACT order of `orders`
claims is consumed. -/
structure RetainAlike (orders : List ExecutionOrderRecord)
    (rows : List BrokerOrderStatusSnapshot) (a b : ReduceState) : Prop where
  alike : Alike a b
  keyed : OrdersKeyed a.orders
  claimed : ∀ row ∈ rows, exactOrderFor orders row.brokerOrderId ≠ none →
    row.brokerOrderId ∈ a.consumedBrokerIds

theorem RetainAlike.retain {a b : ReduceState} (h : RetainAlike orders rows a b)
    (config : ExecutionConfig) (row : BrokerOrderStatusSnapshot)
    (hAlike : Alike (retainCandidateRow config a row) c) :
    RetainAlike orders rows (retainCandidateRow config a row) c :=
  { alike := hAlike
    keyed := h.keyed.of_same ((retainCandidateRow_orders config h.keyed row).imp
      (fun _ _ hUpdate => hUpdate.quiet.same))
    claimed := fun other hOther hClaimed =>
      subset_foldl_retain config [row] a (h.claimed other hOther hClaimed) }

theorem retainCandidateRow_consumed (h : row.brokerOrderId ∈ state.consumedBrokerIds) :
    retainCandidateRow config state row = state := by
  unfold retainCandidateRow
  rw [if_pos h]

theorem retainCandidateRow_swap (ha : a ∈ rows) (hb : b ∈ rows)
    (h : RetainAlike orders rows state state) (hIndependent : ¬ DependentRows orders a b) :
    Alike (retainCandidateRow config (retainCandidateRow config state a) b)
      (retainCandidateRow config (retainCandidateRow config state b) a) := by
  by_cases haConsumed : a.brokerOrderId ∈ state.consumedBrokerIds
  · have hLater : a.brokerOrderId ∈ (retainCandidateRow config state b).consumedBrokerIds :=
      subset_foldl_retain config [b] state haConsumed
    rw [retainCandidateRow_consumed haConsumed, retainCandidateRow_consumed hLater]
  by_cases hbConsumed : b.brokerOrderId ∈ state.consumedBrokerIds
  · have hLater : b.brokerOrderId ∈ (retainCandidateRow config state a).consumedBrokerIds :=
      subset_foldl_retain config [a] state hbConsumed
    rw [retainCandidateRow_consumed hbConsumed, retainCandidateRow_consumed hLater]
  have hNoneA : exactOrderFor orders a.brokerOrderId = none := by
    by_contra hClaimed
    exact haConsumed (h.claimed a ha hClaimed)
  have hNoneB : exactOrderFor orders b.brokerOrderId = none := by
    by_contra hClaimed
    exact hbConsumed (h.claimed b hb hClaimed)
  unfold DependentRows at hIndependent
  rw [hNoneA, hNoneB, not_or] at hIndependent
  have hId : a.brokerOrderId ≠ b.brokerOrderId := hIndependent.1
  have hKind : ¬ (a.symbol = b.symbol ∧ a.side = b.side) := hIndependent.2
  have hKind' : ¬ (b.symbol = a.symbol ∧ b.side = a.side) :=
    fun hEq => hKind ⟨hEq.1.symm, hEq.2.symm⟩
  have hAB : Alike (retainCandidateRow config (retainCandidateRow config state a) b)
      (retainPicked (retainPicked state a (pickCandidate config state a)) b
        (pickCandidate config state b)) := by
    refine ((retainCandidateRow_alike config state a).retainCandidateRow config b).trans ?_
    have hStep := retainCandidateRow_alike config
      (retainPicked state a (pickCandidate config state a)) b
    rwa [pickCandidate_retainPicked h.keyed hId hKind] at hStep
  have hBA : Alike (retainCandidateRow config (retainCandidateRow config state b) a)
      (retainPicked (retainPicked state b (pickCandidate config state b)) a
        (pickCandidate config state a)) := by
    refine ((retainCandidateRow_alike config state b).retainCandidateRow config a).trans ?_
    have hStep := retainCandidateRow_alike config
      (retainPicked state b (pickCandidate config state b)) a
    rwa [pickCandidate_retainPicked h.keyed (Ne.symm hId) hKind'] at hStep
  exact hAB.trans ((alike_retainPicked h.keyed hKind).trans hBA.symm)

theorem retainRows_commuting (config : ExecutionConfig) (orders : List ExecutionOrderRecord)
    (rows : List BrokerOrderStatusSnapshot) :
    CommutingSteps (ε := Raised) (DependentRows orders) (· ∈ rows) (RetainAlike orders rows)
      (fun state row => pure (retainCandidateRow config state row)) where
  right := fun s t h =>
    { alike := Alike.refl t
      keyed := h.alike.orders ▸ h.keyed
      claimed := fun row hRow hClaimed =>
        (h.alike.consumed row.brokerOrderId).mp (h.claimed row hRow hClaimed) }
  trans := fun s t r hst htr =>
    { alike := hst.alike.trans htr.alike, keyed := hst.keyed, claimed := hst.claimed }
  respects := fun s t row _ h =>
    .ok (h.retain config row (h.alike.retainCandidateRow config row))
  swap := by
    intro s a b ha hb h hIndependent
    have hFirst := h.retain config a (Alike.refl _)
    exact .ok (hFirst.retain config b (retainCandidateRow_swap ha hb h hIndependent))

/-- The heuristic loop leaves alike states for rows of the same trace. -/
theorem retainRows_alike (config : ExecutionConfig) {rows' : List BrokerOrderStatusSnapshot}
    (hExchanged : Exchanged (DependentRows orders) rows rows') (h : RetainAlike orders rows s t) :
    Alike (rows.foldl (retainCandidateRow config) s)
      (rows'.foldl (retainCandidateRow config) t) := by
  have hAgree := (retainRows_commuting config orders rows).foldlM (fun _ hRow => hRow)
    hExchanged h
  rw [List.foldlM_pure, List.foldlM_pure] at hAgree
  cases hAgree with
  | ok hRetained => exact hRetained.alike

end QuantApp.Services
