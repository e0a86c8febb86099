import QuantApp.Services.MissingEvidence
import QuantApp.Services.PersistableOrders
import QuantApp.Verified.LabelledRuns

/-!
# Reconciliation passes one after another

A pass leaves the tables of its plan to the next one; in between the reservations and the
external orders may change in any way.
-/

namespace QuantApp.Services

open Core Verified
open TradeCardState (cardKey)

/-- A pass over a snapshot, and its plan applied. -/
def Reconciles (before : AccountLocalState) (pass : Runtime × AccountBrokerSnapshot)
    (after : AccountLocalState) : Prop :=
  ∃ plan, reduceAccountReconciliation pass.1 pass.2 before = .ok plan ∧
    after.cards = plan.reducedCards before ∧ after.executionOrders = plan.reducedOrders before

/-- What broker evidence may do to an order: it fills, and its status moves along the table. -/
structure OrderAdvances (before after : ExecutionOrderRecord) : Prop where
  same : SameOrder before after
  filled : before.filledQuantity ≤ after.filledQuantity
  status : StatusReachable before.status after.status

variable {before after start finish : AccountLocalState} {pass : Runtime × AccountBrokerSnapshot}

theorem Reconciles.tables (h : Reconciles before pass after) :
    ∃ final, reduceLocalState pass.1 pass.2 before = .ok final ∧
      after.cards = final.cards ∧ after.executionOrders = final.orders := by
  obtain ⟨plan, hPlan, hCards, hOrders⟩ := h
  obtain ⟨final, hFinal, rfl⟩ := reduceAccountReconciliation_ok.mp hPlan
  exact ⟨final, hFinal, hCards.trans (reducedCards_planOf hFinal),
    hOrders.trans (reducedOrders_planOf hFinal)⟩

/-- The plan of every pass can be applied: the tables it leaves have unique keys again. -/
theorem plan_applies {plan : ReconciliationPlan}
    (h : reduceAccountReconciliation pass.1 pass.2 before = .ok plan) :
    ∃ after, Reconciles before pass after := by
  obtain ⟨final, hFinal, rfl⟩ := reduceAccountReconciliation_ok.mp h
  obtain ⟨run⟩ := nonempty_reducerRun hFinal
  have hSame : List.Forall₂ SameOrder before.executionOrders final.orders :=
    (orders_evolve hFinal).imp fun _ _ hFate => hFate.same
  have hKeyed := before.ordersKeyed'.of_same hSame
  refine ⟨{ before with
    cards := final.cards
    executionOrders := final.orders
    cardsKeyed := run.final_grows.1
    ordersKeyed := hKeyed.client
    exactIdsKeyed := hKeyed.exactIds
    reservationLinksStripped := ?_ }, _, h, (reducedCards_planOf hFinal).symm,
    (reducedOrders_planOf hFinal).symm⟩
  intro new hNew
  obtain ⟨old, hOld, hNewSame⟩ := forall₂_mem_right hSame hNew
  rw [hNewSame.capitalReservationId]
  exact before.reservationLinksStripped old hOld

def orderedState : AccountLocalState :=
  { cards := [sampleCard], executionOrders := [sampleOrder]
    reservationLinksStripped := sampleOrder_linksStripped }

/-- A partial fill seen without holdings. -/
def partialPass : Runtime × AccountBrokerSnapshot :=
  (sampleRuntime, { sampleSnapshot with
    completeness := { completeAnswer with holdingsComplete := false }
    orders := [{ sampleRow with
      status := .partiallyFilled, filledQuantity := 4, remainingQuantity := 6 }] })

theorem partialPass_applies : ∃ after, Reconciles orderedState partialPass after :=
  plan_applies (eq_returnedPlan (by decide +kernel))

/-- However many passes run, every order keeps its identity and its place in the table, no fill
falls, and no status moves but along the table. -/
theorem orders_only_advance (hRun : RunWith Reconciles (fun _ _ => True) start finish) :
    List.Forall₂ OrderAdvances start.executionOrders finish.executionOrders := by
  apply hRun.invariant
  · exact List.forall₂_same.mpr fun order _ => ⟨.refl order, le_refl _, .refl⟩
  · intro before pass after hBefore _ hStep
    obtain ⟨final, hFinal, -, hOrders⟩ := hStep.tables
    rw [hOrders]
    refine forall₂_comp ?_ hBefore (orders_evolve hFinal)
    intro old middle new h hFate
    exact ⟨h.same.trans hFate.same, h.filled.trans hFate.filled_le, h.status.trans hFate.reachable⟩

theorem orders_only_advance_partial : ∃ after, Reconciles orderedState partialPass after ∧
    List.Forall₂ OrderAdvances orderedState.executionOrders after.executionOrders :=
  partialPass_applies.imp fun _ h => ⟨h, orders_only_advance (.step (.refl _) trivial h)⟩

/-- However many passes run, no card leaves the table or changes its key. -/
theorem cards_only_grow (hRun : RunWith Reconciles (fun _ _ => True) start finish) :
    start.cards.map cardKey <+: finish.cards.map cardKey := by
  apply hRun.invariant (List.prefix_refl _)
  intro before pass after hBefore _ hStep
  obtain ⟨final, hFinal, hCards, -⟩ := hStep.tables
  obtain ⟨run⟩ := nonempty_reducerRun hFinal
  obtain ⟨-, fresh, hKeys⟩ := run.final_grows
  rw [hCards, hKeys]
  exact hBefore.trans (List.prefix_append _ _)

theorem cards_only_grow_partial : ∃ after, Reconciles orderedState partialPass after ∧
    orderedState.cards.map cardKey <+: after.cards.map cardKey :=
  partialPass_applies.imp fun _ h => ⟨h, cards_only_grow (.step (.refl _) trivial h)⟩

/-- As long as no snapshot has complete holdings, no card's quantity falls and no card closes. -/
theorem positions_kept_without_holdings (hRun : RunWith Reconciles
      (fun _ pass => pass.2.completeness.holdingsComplete = false) start finish) :
    List.Forall₂ KeepsPosition start.cards finish.cards := by
  apply hRun.invariant (List.forall₂_same.mpr fun card _ => .refl card)
  intro before pass after hBefore hIncomplete hStep
  obtain ⟨final, hFinal, hCards, -⟩ := hStep.tables
  rw [hCards]
  exact forall₂_comp (fun _ _ _ => .trans) hBefore (cards_keepPosition hIncomplete hFinal)

theorem positions_kept_without_holdings_partial : ∃ after,
    Reconciles orderedState partialPass after ∧
      List.Forall₂ KeepsPosition orderedState.cards after.cards :=
  partialPass_applies.imp fun _ h =>
    ⟨h, positions_kept_without_holdings (.step (.refl _) rfl h)⟩

end QuantApp.Services
