import Mathlib.Algebra.Order.BigOperators.Group.List
import QuantApp.Services.CapitalLedger
import QuantApp.Services.PortfolioExposures
import QuantApp.Verified.LabelledRuns

/-!
# Portfolio limits at the reservation

An entry is evaluated against a snapshot of its account, and its reservation is checked
later, under the account's lock, against the frozen baseline and the reservations of that
moment.  A fill that reaches a card in between is in neither.  As long as none raises a
position, what passes the check respects the limits.
-/

namespace QuantApp.Services

open Core Risk Verified

variable {trusted : TradeCardState → Option ℚ} {held before : List RiskItem}
  {reservation : CapitalReservation} {spec : PortfolioRiskReservationSpec}
  {active : List CapitalReservation} {other : RiskItem} {position : PortfolioPositionRisk}
  {card : TradeCardState}

/-! ## The account -/

/-- The cards of an account and its reservations. -/
structure RiskBooks where
  cards : List TradeCardState
  ledger : CapitalLedger

/-- What changes them: a reservation transaction, or a card written by a fill, an exit or
a reconciliation. -/
inductive RiskEvent
  | capital (transaction : CapitalTransaction)
  | project (card : TradeCardState)

/-- One change. -/
def RiskStep (buyingPower : String → String → ℚ) (before : RiskBooks) (event : RiskEvent)
    (after : RiskBooks) : Prop :=
  match event with
  | .capital transaction =>
    ∃ ledger, transact buyingPower before.ledger transaction = .ok ledger ∧
      after = { before with ledger := ledger }
  | .project card =>
    after = { before with cards := store TradeCardState.cardKey card before.cards }

/-- The cards of one account. -/
def accountCards (environment accountNo : String) (cards : List TradeCardState) :
    List TradeCardState :=
  cards.filter (fun card => card.environment = environment && card.accountNo = accountNo)

/-- An entry under evaluation, and what is read beside the books. -/
structure EntryEvaluation where
  limits : PortfolioRiskLimits
  proposal : ProposedPortfolioEntry
  account : PortfolioRiskSnapshot
  executionOrders : List ExecutionOrderRecord
  externalOrders : List DiscoveredExternalOrder

/-- The snapshot an entry is evaluated against. -/
def EntryEvaluation.snapshot (evaluation : EntryEvaluation)
    (trusted : TradeCardState → Option ℚ) (books : RiskBooks) :
    Except Raised PortfolioRiskSnapshot := do
  let positions ← portfolioPositions trusted
    (accountCards evaluation.proposal.environment evaluation.proposal.accountNo books.cards)
  let exposures ← portfolioProjectedExposures books.cards evaluation.executionOrders
    (activeReservations books.ledger.rows evaluation.proposal.environment
      evaluation.proposal.accountNo) evaluation.externalOrders
  pure { evaluation.account with
    positions := positions
    projectedExposures := exposures }

/-! ## The limits -/

/-- A fraction of the equity stays within a limit that zero disables. -/
def Within (value equity limit : ℚ) : Prop := 0 < limit → value / equity ≤ limit

/-- Held positions, active reservations and the new entry respect the limits of the
specification. -/
structure WithinLimits (spec : PortfolioRiskReservationSpec) (held : List RiskItem)
    (active : List CapitalReservation) : Prop where
  positions : 0 < spec.maxSimultaneousPositions →
    symbolCount (held.map (·.symbol) ++ active.map (·.symbol) ++ [spec.symbol]) ≤
      spec.maxSimultaneousPositions
  openRisk : Within
    (totalOpenRisk held + (active.map activeOpenRisk).sum + spec.proposedOpenRiskUsd)
    spec.accountEquityUsd spec.maxTotalOpenRiskFraction
  gross : Within (totalNotional held + reservedNotional active + spec.proposedNotionalUsd)
    spec.accountEquityUsd spec.maxGrossNotionalFraction
  single : Within
    (symbolNotional spec.symbol held +
      reservedNotional (active.filter (fun row => row.symbol = spec.symbol)) +
      spec.proposedNotionalUsd)
    spec.accountEquityUsd spec.maxSinglePositionNotionalFraction

/-- The baseline of the specification holds at least what `held` holds. -/
structure BaselineHolds (spec : PortfolioRiskReservationSpec) (held : List RiskItem) : Prop where
  symbols : ∀ item ∈ held,
    item.symbol ∈ spec.baselinePositionSymbols.filter (fun symbol => strip symbol ≠ "")
  openRisk : totalOpenRisk held ≤ spec.baselineOpenRiskUsd
  gross : totalNotional held ≤ spec.baselineGrossNotionalUsd
  single : symbolNotional spec.symbol held ≤ spec.baselineSymbolNotionalUsd

/-! ## The check -/

theorem nodup_eraseDups (xs : List String) : xs.eraseDups.Nodup := by
  induction hLength : xs.length using Nat.strong_induction_on generalizing xs with
  | _ length ih =>
    cases xs with
    | nil => simp
    | cons x rest =>
      have hShorter : (rest.filter (fun y => !y == x)).length < length := by
        have hFilter := List.length_filter_le (fun y => !y == x) rest
        simp only [List.length_cons] at hLength
        omega
      rw [List.eraseDups_cons, List.nodup_cons]
      constructor
      · simp [List.mem_eraseDups]
      · exact ih _ hShorter _ rfl

theorem symbolCount_le {xs ys : List String} (h : ∀ x ∈ xs, x ∈ ys) :
    symbolCount xs ≤ symbolCount ys := by
  have hSubset : xs.eraseDups ⊆ ys.eraseDups := by
    intro x hx
    rw [List.mem_eraseDups] at hx ⊢
    exact h x hx
  have hLength := ((nodup_eraseDups xs).subperm hSubset).length_le
  unfold symbolCount
  omega

theorem within_of_fractionReason {label : String} {value equity limit smaller : ℚ}
    (h : fractionReason label value equity limit = []) (hEquity : 0 < equity)
    (hLe : smaller ≤ value) : Within smaller equity limit := by
  intro hLimit
  unfold fractionReason at h
  by_cases hExceeds : 0 < limit ∧ limit < value / equity
  · rw [if_pos hExceeds] at h
    cases h
  · have hValue : value / equity ≤ limit := by
      by_contra hNot
      exact hExceeds ⟨hLimit, lt_of_not_ge hNot⟩
    calc
      smaller / equity ≤ value / equity := by gcongr
      _ ≤ limit := hValue

section

variable (h : requireProjectedPortfolioCapacity reservation active spec = .ok ())
include h

theorem requireProjectedPortfolioCapacity_scope :
    spec.environment = reservation.environment ∧ spec.accountNo = reservation.accountNo := by
  unfold requireProjectedPortfolioCapacity at h
  split at h
  · cases h
  · rename_i hMatches
    simp only [not_or, ne_eq, not_not, Prod.mk.injEq] at hMatches
    exact ⟨hMatches.1.1, hMatches.1.2.1⟩

/-- What passes the check respects the limits, for any positions the baseline holds. -/
theorem withinLimits_of_capacity (hBaseline : BaselineHolds spec held) :
    WithinLimits spec held active := by
  unfold requireProjectedPortfolioCapacity at h
  split at h
  · cases h
  rename_i hMatches
  split at h
  · cases h
  rename_i hFinite
  simp only [not_or, not_le, not_lt, ne_eq, not_not, Prod.mk.injEq] at hMatches hFinite
  have hEquity := hFinite.1
  have hSymbol : spec.symbol = reservation.symbol := hMatches.1.2.2
  have hReasons : portfolioReasons reservation active spec = [] := by
    split at h
    · assumption
    · cases h
  simp only [portfolioReasons, List.append_eq_nil_iff] at hReasons
  obtain ⟨⟨⟨hCount, hRisk⟩, hGross⟩, hSingle⟩ := hReasons
  refine
    { positions := ?_
      openRisk := ?_
      gross := ?_
      single := ?_ }
  · intro hLimit
    have hAll : symbolCount (spec.baselinePositionSymbols.filter
        (fun symbol => strip symbol ≠ "") ++ active.map (·.symbol) ++ [reservation.symbol]) ≤
          spec.maxSimultaneousPositions := by
      by_contra hNot
      rw [if_pos ⟨hLimit, lt_of_not_ge hNot⟩] at hCount
      cases hCount
    apply le_trans (symbolCount_le _) hAll
    intro symbol hMem
    simp only [List.mem_append, List.mem_singleton] at hMem ⊢
    rcases hMem with (hHeld | hActive) | hNew
    · obtain ⟨item, hItem, rfl⟩ := List.mem_map.mp hHeld
      exact Or.inl (Or.inl (hBaseline.symbols item hItem))
    · exact Or.inl (Or.inr hActive)
    · exact Or.inr (hNew.trans hSymbol)
  · apply within_of_fractionReason hRisk hEquity
    have hLe := hBaseline.openRisk
    linarith
  · apply within_of_fractionReason hGross hEquity
    have hLe := hBaseline.gross
    linarith
  · apply within_of_fractionReason hSingle hEquity
    have hLe := hBaseline.single
    rw [hSymbol] at hLe ⊢
    linarith

end

theorem insertReservationIfAvailable_checked {rows written : List CapitalReservation}
    {buyingPower : ℚ} (hRequested : 0 < reservation.requestedNotional)
    (h : insertReservationIfAvailable rows reservation buyingPower (some spec) = .ok written) :
    requireProjectedPortfolioCapacity reservation
      (activeReservations rows reservation.environment reservation.accountNo) spec = .ok () := by
  unfold insertReservationIfAvailable at h
  simp only [hRequested, if_true] at h
  split at h
  · cases h
  · obtain ⟨_, hChecked, _⟩ := bind_eq_ok.mp h
    exact hChecked

/-! ## Positions that are not raised -/

/-- The position of the later card is not above the one of the earlier card. -/
structure NotRaised (trusted : TradeCardState → Option ℚ) (earlier later : TradeCardState) :
    Prop where
  key : later.cardKey = earlier.cardKey
  position : ∀ position, portfolioPositionFromCard trusted later = .ok (some position) →
    ∃ before, portfolioPositionFromCard trusted earlier = .ok (some before) ∧
      position.notional ≤ before.notional ∧ position.openRisk ≤ before.openRisk

theorem NotRaised.refl (trusted : TradeCardState → Option ℚ) (card : TradeCardState) :
    NotRaised trusted card card where
  key := rfl
  position := fun position hPosition => ⟨position, hPosition, le_refl _, le_refl _⟩

theorem NotRaised.trans {first second third : TradeCardState} (h : NotRaised trusted first second)
    (h' : NotRaised trusted second third) : NotRaised trusted first third where
  key := h'.key.trans h.key
  position := by
    intro position hPosition
    obtain ⟨middle, hMiddle, hNotional, hRisk⟩ := h'.position position hPosition
    obtain ⟨before, hBefore, hNotional', hRisk'⟩ := h.position middle hMiddle
    exact ⟨before, hBefore, hNotional.trans hNotional', hRisk.trans hRisk'⟩

/-- No fill raises the position of a card. -/
def RaisesNone (trusted : TradeCardState → Option ℚ) (books : RiskBooks) :
    RiskEvent → Prop
  | .capital _ => True
  | .project card => ∀ old ∈ books.cards, old.cardKey = card.cardKey → NotRaised trusted old card

/-- The cards after a run stand where they stood, none with a raised position. -/
theorem run_notRaised {buyingPower : String → String → ℚ} {start finish : RiskBooks}
    (hRun : RunWith (RiskStep buyingPower) (RaisesNone trusted) start finish) :
    List.Forall₂ (NotRaised trusted) start.cards finish.cards := by
  apply RunWith.invariant hRun
  · exact List.forall₂_same.mpr (fun card _ => NotRaised.refl trusted card)
  · intro before event after hBefore hRaises hStep
    cases event with
    | capital =>
      obtain ⟨ledger, _, rfl⟩ := hStep
      exact hBefore
    | project card =>
      have hAfter : after =
          { before with cards := store TradeCardState.cardKey card before.cards } := hStep
      rw [hAfter]
      have hEach : List.Forall₂ (NotRaised trusted) before.cards
          (store TradeCardState.cardKey card before.cards) := by
        apply List.forall₂_map_right_iff.mpr
        apply List.forall₂_same.mpr
        intro old hOld
        by_cases hKey : old.cardKey = card.cardKey
        · rw [if_pos hKey]
          exact hRaises old hOld hKey
        · rw [if_neg hKey]
          exact NotRaised.refl trusted old
      exact forall₂_trans (R := NotRaised trusted) (fun h h' => NotRaised.trans h h') hBefore hEach

/-! ## What the positions add up to -/

/-- Every position of `held` is one of `before`, not raised, and the totals are bounded. -/
structure HeldBy (before held : List RiskItem) : Prop where
  each : ∀ item ∈ held, ∃ other ∈ before, other.symbol = item.symbol ∧
    item.notional ≤ other.notional ∧ item.openRisk ≤ other.openRisk
  notional : totalNotional held ≤ totalNotional before
  openRisk : totalOpenRisk held ≤ totalOpenRisk before
  single : ∀ symbol, symbolNotional symbol held ≤ symbolNotional symbol before

theorem position_item_nonneg (position : PortfolioPositionRisk) :
    0 ≤ position.item.notional ∧ 0 ≤ position.item.openRisk := by
  have hQuantity : (0 : ℚ) ≤ position.quantity := by
    exact_mod_cast position.quantityPositive.le
  constructor
  · exact mul_nonneg hQuantity position.markPricePositive.le
  · exact mul_nonneg hQuantity (le_max_left _ _)

theorem symbolNotional_cons (symbol : String) (item : RiskItem) (items : List RiskItem) :
    symbolNotional symbol (item :: items) =
      (if item.symbol = symbol then item.notional else 0) + symbolNotional symbol items := by
  by_cases hSymbol : item.symbol = symbol
  all_goals simp [symbolNotional, totalNotional, hSymbol]

theorem HeldBy.cons {item : RiskItem} (h : HeldBy before held)
    (hSymbol : other.symbol = item.symbol) (hNotional : item.notional ≤ other.notional)
    (hRisk : item.openRisk ≤ other.openRisk) : HeldBy (other :: before) (item :: held) where
  each := by
    intro found hFound
    rcases List.mem_cons.mp hFound with rfl | hRest
    · exact ⟨other, by simp, hSymbol, hNotional, hRisk⟩
    · obtain ⟨match_, hMatch, hFacts⟩ := h.each found hRest
      exact ⟨match_, List.mem_cons_of_mem _ hMatch, hFacts⟩
  notional := add_le_add hNotional h.notional
  openRisk := add_le_add hRisk h.openRisk
  single := by
    intro symbol
    have hLe := h.single symbol
    rw [symbolNotional_cons, symbolNotional_cons, hSymbol]
    split <;> linarith

theorem HeldBy.cons_left (h : HeldBy before held) (hNotional : 0 ≤ other.notional)
    (hRisk : 0 ≤ other.openRisk) : HeldBy (other :: before) held where
  each := by
    intro item hItem
    obtain ⟨match_, hMatch, hFacts⟩ := h.each item hItem
    exact ⟨match_, List.mem_cons_of_mem _ hMatch, hFacts⟩
  notional := h.notional.trans (le_add_of_nonneg_left hNotional)
  openRisk := h.openRisk.trans (le_add_of_nonneg_left hRisk)
  single := by
    intro symbol
    have hLe := h.single symbol
    rw [symbolNotional_cons]
    split <;> linarith

theorem HeldBy.append_left (h : HeldBy before held) {more : List RiskItem}
    (hMore : ∀ item ∈ more, 0 ≤ item.notional ∧ 0 ≤ item.openRisk) :
    HeldBy (before ++ more) held := by
  have hTotal : 0 ≤ totalNotional more ∧ 0 ≤ totalOpenRisk more ∧
      ∀ symbol, 0 ≤ symbolNotional symbol more := by
    refine ⟨List.sum_nonneg ?_, List.sum_nonneg ?_, fun symbol => List.sum_nonneg ?_⟩
    · intro value hValue
      obtain ⟨item, hItem, rfl⟩ := List.mem_map.mp hValue
      exact (hMore item hItem).1
    · intro value hValue
      obtain ⟨item, hItem, rfl⟩ := List.mem_map.mp hValue
      exact (hMore item hItem).2
    · intro value hValue
      obtain ⟨item, hItem, rfl⟩ := List.mem_map.mp hValue
      exact (hMore item (List.mem_filter.mp hItem).1).1
  refine
    { each := ?_
      notional := ?_
      openRisk := ?_
      single := ?_ }
  · intro item hItem
    obtain ⟨match_, hMatch, hFacts⟩ := h.each item hItem
    exact ⟨match_, List.mem_append_left _ hMatch, hFacts⟩
  · have hLe := h.notional
    have hNonneg := hTotal.1
    simp only [totalNotional, List.map_append, List.sum_append] at hLe hNonneg ⊢
    linarith
  · have hLe := h.openRisk
    have hNonneg := hTotal.2.1
    simp only [totalOpenRisk, List.map_append, List.sum_append] at hLe hNonneg ⊢
    linarith
  · intro symbol
    have hLe := h.single symbol
    have hNonneg := hTotal.2.2 symbol
    simp only [symbolNotional, totalNotional, List.filter_append, List.map_append,
      List.sum_append] at hLe hNonneg ⊢
    linarith

theorem makePosition_symbol {symbol : String} {quantity : Int} {markPrice stopPrice : ℚ}
    {groups : RiskGroups}
    (h : makePosition symbol quantity markPrice stopPrice groups = .ok position) :
    position.symbol = symbol := by
  unfold makePosition at h
  repeat' split at h
  all_goals cases h
  rfl

theorem portfolioPositionFromCard_symbol
    (h : portfolioPositionFromCard trusted card = .ok (some position)) :
    position.symbol = card.symbol := by
  unfold portfolioPositionFromCard at h
  split at h
  · cases h
  split at h
  · cases h
  split at h
  · cases h
  · obtain ⟨made, hMade, hSome⟩ := map_eq_ok.mp h
    cases hSome
    exact makePosition_symbol hMade

theorem portfolioPositions_cons {cards : List TradeCardState}
    {positions : List PortfolioPositionRisk}
    (h : portfolioPositions trusted (card :: cards) = .ok positions) :
    ∃ position rest, portfolioPositionFromCard trusted card = .ok position ∧
      portfolioPositions trusted cards = .ok rest ∧ positions = position.toList ++ rest := by
  obtain ⟨all, hAll, rfl⟩ := map_eq_ok.mp h
  obtain ⟨position, rest, hPosition, hRest, rfl⟩ := mapM_cons_ok.mp hAll
  refine ⟨position, rest.filterMap id, hPosition, map_eq_ok.mpr ⟨rest, hRest, rfl⟩, ?_⟩
  cases position <;> rfl

/-- Cards that are not raised have positions that the earlier ones hold. -/
theorem heldBy_of_notRaised {earlier later : List TradeCardState}
    {before held : List PortfolioPositionRisk} (h : List.Forall₂ (NotRaised trusted) earlier later)
    (hBefore : portfolioPositions trusted earlier = .ok before)
    (hHeld : portfolioPositions trusted later = .ok held) :
    HeldBy (before.map (·.item)) (held.map (·.item)) := by
  induction h generalizing before held with
  | nil =>
    cases hBefore
    cases hHeld
    exact
      { each := by simp
        notional := le_refl _
        openRisk := le_refl _
        single := fun _ => le_refl _ }
  | cons hHead _ ih =>
    obtain ⟨first, restBefore, hFirst, hRestBefore, rfl⟩ := portfolioPositions_cons hBefore
    obtain ⟨second, restHeld, hSecond, hRestHeld, rfl⟩ := portfolioPositions_cons hHeld
    have hRest := ih hRestBefore hRestHeld
    cases second with
    | none =>
      cases first with
      | none => exact hRest
      | some position =>
        obtain ⟨hNotional, hRisk⟩ := position_item_nonneg position
        exact hRest.cons_left hNotional hRisk
    | some position =>
      obtain ⟨other, hOther, hNotional, hRisk⟩ := hHead.position position hSecond
      rw [hFirst] at hOther
      cases hOther
      apply hRest.cons _ hNotional hRisk
      have hSymbol := congrArg (fun key : CardKey => key.2.2) hHead.key
      show other.symbol = position.symbol
      rw [portfolioPositionFromCard_symbol hFirst, portfolioPositionFromCard_symbol hSecond]
      exact hSymbol.symm

end QuantApp.Services
