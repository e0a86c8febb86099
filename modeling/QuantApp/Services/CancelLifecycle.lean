import QuantApp.Core.OrderState
import QuantApp.Core.TradeCardState

/-!
# Requesting a cancel

`request_cancel_with_lifecycle` of `src/services/position_manager.py` with the
command identity the runtime's `cancel_intent_factory` mints.
-/

namespace QuantApp.Services

open Core

inductive CancelScope
  | entry
  | exit
  deriving Repr

/-- How the gateway answers one cancel: it returns the order's status, it raises one of
the two cancellation errors the caller handles, or it raises anything else.
`protective` is set on the emergency cancel of a completion BUY. -/
inductive CancelAnswer
  | answered (status : OrderStatus) (protective : Bool)
  | ambiguous (observedAt : Instant)
  | rejected
  | raised
  deriving DecidableEq

variable (card : TradeCardState)

variable (scope : CancelScope)

/-- The command identity of the scope is kept, or `minted` becomes it. -/
def stampCancelCommand (minted : String) : TradeCardState :=
  match scope with
  | .entry =>
    if card.entryCancelCommandId = "" then { card with entryCancelCommandId := minted }
    else card
  | .exit =>
    if card.exitCancelCommandId = "" then { card with exitCancelCommandId := minted }
    else card

/-- The order ended at the broker: the four texts the protective branch compares with. -/
def endedAtBroker (status : OrderStatus) : Bool :=
  status = .filled || status = .cancelled || status = .rejected || status = .expired

/-- `request_cancel_with_lifecycle`: the card it leaves, and whether it raises. -/
def requestCancelWithLifecycle (minted : String) (answer : CancelAnswer) : TradeCardState × Bool :=
  let stamped := stampCancelCommand card scope minted
  match answer, scope with
  | .ambiguous _, .entry => ({ stamped with entryCancelInFlight := true }, false)
  | .ambiguous observedAt, .exit =>
    ({ stamped with
        exitCancelInFlight := true
        exitCancelRequestedAt := some (stamped.exitCancelRequestedAt.getD observedAt) },
      false)
  | .rejected, .entry =>
    ({ stamped with
        entryCancelCommandId := ""
        entryCancelInFlight := false
        entryCancelReason := "" }, true)
  | .rejected, .exit =>
    ({ stamped with
        exitCancelCommandId := ""
        exitCancelInFlight := false
        exitCancelRequestedAt := none }, true)
  | .raised, _ => (stamped, true)
  | .answered status protective, .entry =>
    if protective ∧ endedAtBroker status then
      ({ stamped with
          entryCancelCommandId := ""
          entryCancelInFlight := false
          entryCancelReason := ""
          entryClientOrderId := ""
          entryPendingAttemptNumber := 0
          entrySubmissionUnresolved := false
          entryRemainingTargetQuantity := 0
          entryAttemptGroupId := ""
          entryAttemptCount := 0 }, false)
    else (stamped, false)
  | .answered _ _, .exit => (stamped, false)

/-- A cancel touches order correlations only: the position and its stop stay. -/
theorem requestCancelWithLifecycle_position (minted : String) (answer : CancelAnswer) :
    let after := (requestCancelWithLifecycle card scope minted answer).1
    after.activeStopPrice = card.activeStopPrice ∧
      after.brokerQuantity = card.brokerQuantity ∧ after.boardStatus = card.boardStatus := by
  have hStamped : (stampCancelCommand card scope minted).activeStopPrice =
        card.activeStopPrice ∧
      (stampCancelCommand card scope minted).brokerQuantity = card.brokerQuantity ∧
      (stampCancelCommand card scope minted).boardStatus = card.boardStatus := by
    unfold stampCancelCommand
    cases scope <;> dsimp only <;> split <;> exact ⟨rfl, rfl, rfl⟩
  unfold requestCancelWithLifecycle
  cases scope <;> cases answer <;> dsimp only <;> try exact hStamped
  split <;> exact hStamped

end QuantApp.Services
