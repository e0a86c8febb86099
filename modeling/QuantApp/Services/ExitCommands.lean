import QuantApp.Services.StopRequests

/-!
# What every command of the board meets

The conflict guard and the moves of `src/services/execution_workflow_service.py` that the exit
commands share with the planning commands.
-/

namespace QuantApp.Services

open Core

inductive ExitCommand
  | requestPartialSell (quantity : Int)
  | requestSellAll
  | cancelPartialSell
  | cancelQueuedSellAll

/-- An exit command with the orders of the card, the unowned broker orders of the account
and what the context says of the session. -/
structure ExitRequest where
  command : ExitCommand
  ownedOrders : List ExecutionOrderRecord := []
  externalOrders : List DiscoveredExternalOrder := []
  regularSessionOpen : Option Bool := none

/-- The orders of the card that have not ended. -/
def ExitRequest.activeOrders (request : ExitRequest) : List ExecutionOrderRecord :=
  request.ownedOrders.filter (fun order => !order.status.isTerminal)

/-- The part of `_require_board_action_not_conflicted` every exit command meets. -/
def requireNoConflict (card : TradeCardState) (request : ExitRequest) : Except Raised Unit :=
  if card.entrySubmissionUnresolved ∨ card.exitSubmissionUnresolved then
    .error (boardCommandRejected
      "An ambiguous order is awaiting reconciliation; no new board action is allowed")
  else if card.entryCancelInFlight ∨ card.exitCancelInFlight then
    .error (boardCommandRejected
      "A cancellation is already unresolved; wait for broker reconciliation")
  else if request.externalOrders.any (isActiveExternalOrder card) then
    .error (boardCommandRejected
      ("An unowned external broker order is active for this symbol; it must remain separate " ++
        "and be resolved or explicitly adopted"))
  else if request.activeOrders.any (fun order =>
      order.status = .unknownSubmissionState || order.brokerIdentityStatus = .ambiguous) then
    .error (boardCommandRejected
      ("An owned order has ambiguous broker identity; reconcile it before another UI " ++ "action"))
  else if request.activeOrders.any (fun order => !boardTracksOrder card order) then
    .error (boardCommandRejected
      ("An active unlinked owned broker order fences execution; explicitly link or resolve it " ++
        "before another execution action"))
  else .ok ()

/-! ## The board -/

/-- The text of a column. -/
def boardStatusText : BoardStatus → String
  | .watchlist => "WATCHLIST"
  | .buylist => "BUYLIST"
  | .buyToday => "BUY_TODAY"
  | .entryPending => "ENTRY_PENDING"
  | .openPosition => "OPEN_POSITION"
  | .partialSell => "PARTIAL_SELL"
  | .sellAll => "SELL_ALL"
  | .closed => "CLOSED"

/-- `ALLOWED_BOARD_TRANSITIONS` of `src/core/kanban_transitions.py`. -/
def allowedBoardTransitions : BoardStatus → List BoardStatus
  | .watchlist => [.buylist]
  | .buylist => [.watchlist, .buyToday]
  | .buyToday => [.buylist, .entryPending]
  | .entryPending => [.openPosition]
  | .openPosition => [.partialSell, .sellAll]
  | .partialSell => [.openPosition, .sellAll]
  | .sellAll => [.partialSell, .closed, .openPosition]
  | .closed => []

def moveBoardCard (card : TradeCardState) (target : BoardStatus) : Except Raised TradeCardState :=
  if card.boardStatus = target ∨ target ∈ allowedBoardTransitions card.boardStatus then
    .ok { card with previousBoardStatus := some card.boardStatus, boardStatus := target }
  else
    .error (boardCommandRejected
      ("Cannot move a card from " ++ boardStatusText card.boardStatus ++ " to " ++
        boardStatusText target))

end QuantApp.Services
