import QuantApp.Api.KisOrderRows

/-!
# The answer to a cancel request

`cancel_overseas_order` of `src/api/kis_order.py`.  The first row of the answer is filled up
with what was asked for and with the `msg1` of the answer, and then classified like a row of
the order history.  The free text is searched before the source of the row is looked at, so
an acknowledgement that names the cancellation is read as its completion.
-/

namespace QuantApp.Api

open Core Services Verified

structure CancelOrderRequest where
  environment : String
  accountNo : String
  symbol : String
  brokerOrderId : String
  quantity : Option Int := none
  side : Option String := none

/-- The request is sent: it names an order and a quantity. -/
structure CancelOrderRequest.Sent (request : CancelOrderRequest) : Prop where
  named : strip request.brokerOrderId ≠ ""
  counted : 0 < request.quantity.getD 0

/-- The first row of the answer. -/
def outputRow (result : Row) : Row := (outputRows result).headD []

/-- The row that is classified. -/
def cancelRow (kis : KisText) (request : CancelOrderRequest) (result : Row) : Row :=
  let named := setDefault (outputRow result) "PDNO"
    (.text (kis.upper (strip request.symbol)))
  let original := setDefault named "ORGN_ODNO" (.text (strip request.brokerOrderId))
  let counted := setDefault original "ORD_QTY" (.text (toString (request.quantity.getD 0)))
  let sided :=
    match request.side with
    | some side => if side ≠ "" then setDefault counted "side" (.text (kis.upper side)) else counted
    | none => counted
  setDefault sided "msg1" ((result.lookup "msg1").getD (.text ""))

/-- `cancel_overseas_order`, given how the request ends. -/
def cancelOverseasOrder (kis : KisText) (request : CancelOrderRequest) (now : IsoText)
    (posted : Except Raised Row) : Except Raised OrderSnapshot :=
  if strip request.brokerOrderId = "" then
    .error
      { cls := .valueError
        message := "broker_order_id is required for KIS overseas cancel" }
  else if request.quantity.getD 0 ≤ 0 then
    .error
      { cls := .valueError
        message := "quantity is required for KIS overseas cancel because order-rvsecncl " ++
          "requires ORD_QTY" }
  else do
    let result ← posted
    let row := cancelRow kis request result
    let query : OrderQuery :=
      { environment := request.environment, accountNo := request.accountNo, now := now }
    let snapshot ← parseBrokerOrderStatusSnapshot kis query row .cancelResponse
    let status ← statusFromOrderRow kis row .cancelResponse
    pure { snapshot with
      brokerOrderId := strip request.brokerOrderId
      status := status
      rawResponse := result }

/-! ## Plain answers -/

/-- A row without revision code 02, without `cncl_yn` Y, without a rejection text and
without fill quantities. -/
structure PlainRow (kis : KisText) (row : Row) : Prop where
  notRevision : revisionCancelCode kis row ≠ "02"
  notCancelled : kis.upper (strip (textOr kis (rowValue row ["cncl_yn"]))) ≠ "Y"
  notRejected : strip (textOr kis (rowValue row ["nprc_rson_text"])) = ""
  noFill : toInt kis (rowValue row filledQuantityKeys) = .ok 0
  noRemaining : toInt kis (rowValue row remainingQuantityKeys) = .ok 0

/-- No text of the row names a rejection, an expiry or a cancellation. -/
def NoVerdict (kis : KisText) (row : Row) : Prop :=
  mentions (statusText kis row) rejectTokens = false ∧
    mentions (statusText kis row) expireTokens = false ∧
    mentions (statusText kis row) cancelTokens = false

section Plain

variable {kis : KisText} {request : CancelOrderRequest} {result row : Row} {now : IsoText}

/-- The keys that are filled up are none of the keys that a plain row is read under. -/
theorem rowValue_cancelRow {keys : List String} (hSymbol : "PDNO" ∉ spellings keys)
    (hOriginal : "ORGN_ODNO" ∉ spellings keys) (hQuantity : "ORD_QTY" ∉ spellings keys)
    (hSide : "side" ∉ spellings keys) (hMessage : "msg1" ∉ spellings keys) :
    rowValue (cancelRow kis request result) keys = rowValue (outputRow result) keys := by
  unfold cancelRow
  dsimp only
  rw [rowValue_setDefault hMessage]
  split
  · split
    · rw [rowValue_setDefault hSide, rowValue_setDefault hQuantity,
        rowValue_setDefault hOriginal, rowValue_setDefault hSymbol]
    · rw [rowValue_setDefault hQuantity, rowValue_setDefault hOriginal, rowValue_setDefault hSymbol]
  · rw [rowValue_setDefault hQuantity, rowValue_setDefault hOriginal, rowValue_setDefault hSymbol]

theorem PlainRow.filledUp (h : PlainRow kis (outputRow result)) :
    PlainRow kis (cancelRow kis request result) := by
  constructor
  · unfold revisionCancelCode
    rw [rowValue_cancelRow (by decide) (by decide) (by decide) (by decide) (by decide)]
    exact h.notRevision
  · rw [rowValue_cancelRow (by decide) (by decide) (by decide) (by decide) (by decide)]
    exact h.notCancelled
  · rw [rowValue_cancelRow (by decide) (by decide) (by decide) (by decide) (by decide)]
    exact h.notRejected
  · rw [rowValue_cancelRow (by decide) (by decide) (by decide) (by decide) (by decide)]
    exact h.noFill
  · rw [rowValue_cancelRow (by decide) (by decide) (by decide) (by decide) (by decide)]
    exact h.noRemaining

/-- The status of a plain row: what its texts name, or a cancel that is requested. -/
def plainStatus (text : String) : OrderStatus :=
  if mentions text rejectTokens then .rejected
  else if mentions text expireTokens then .expired
  else if mentions text cancelTokens then .cancelled
  else .cancelRequested

theorem plainStatus_eq_cancelRequested_iff :
    plainStatus (statusText kis row) = .cancelRequested ↔ NoVerdict kis row := by
  unfold plainStatus NoVerdict
  generalize mentions (statusText kis row) rejectTokens = rejects
  generalize mentions (statusText kis row) expireTokens = expires
  generalize mentions (statusText kis row) cancelTokens = cancels
  cases rejects <;> cases expires <;> cases cancels <;> simp

theorem statusFromOrderRow_plain (h : PlainRow kis row) :
    statusFromOrderRow kis row .cancelResponse =
      (fun _ => plainStatus (statusText kis row)) <$>
        toInt kis (rowValue row requestedQuantityKeys) := by
  unfold statusFromOrderRow
  rw [h.noFill, h.noRemaining]
  cases toInt kis (rowValue row requestedQuantityKeys) with
  | error => rfl
  | ok =>
    simp only [bind, Except.bind, pure, Except.pure, Functor.map, Except.map]
    rw [if_neg h.notRevision, if_neg h.notCancelled, if_neg (not_not.mpr h.notRejected)]
    unfold plainStatus statusFromCounts
    rw [if_pos rfl]
    generalize mentions (statusText kis row) rejectTokens = rejects
    generalize mentions (statusText kis row) expireTokens = expires
    generalize mentions (statusText kis row) cancelTokens = cancels
    cases rejects <;> cases expires <;> cases cancels <;> rfl

/-- The answer to a cancel request whose row is plain: its count is read, there are no
fills, and the status is what its texts tell. -/
theorem cancelOverseasOrder_plain (hSent : request.Sent)
    (hPlain : PlainRow kis (outputRow result)) {outcome : Except Raised OrderSnapshot}
    (h : cancelOverseasOrder kis request now (.ok result) = outcome) :
    match toInt kis (rowValue (cancelRow kis request result) requestedQuantityKeys) with
    | .error error => outcome = .error error
    | .ok _ => ∃ snapshot, outcome = .ok snapshot ∧ snapshot.filledQuantity = 0 ∧
        snapshot.remainingQuantity = 0 ∧
        snapshot.status = plainStatus (statusText kis (cancelRow kis request result)) := by
  have hRow : PlainRow kis (cancelRow kis request result) := hPlain.filledUp
  rw [← h]
  unfold cancelOverseasOrder
  rw [if_neg hSent.named, if_neg (not_le.mpr hSent.counted)]
  dsimp only [bind, Except.bind]
  unfold parseBrokerOrderStatusSnapshot
  rw [statusFromOrderRow_plain hRow, hRow.noFill, hRow.noRemaining]
  cases toInt kis (rowValue (cancelRow kis request result) requestedQuantityKeys) with
  | error => rfl
  | ok =>
    refine ⟨_, rfl, rfl, ?_, rfl⟩
    show (if (0 : Int) ≤ 0 ∧ _ ∧ (0 : Int) < 0 then _ else (0 : Int)) = 0
    exact if_neg (fun hCounts => absurd hCounts.2.2 (by decide))

variable (now) in
theorem cancelOverseasOrder_cancelRequested_iff (hSent : request.Sent)
    (hPlain : PlainRow kis (outputRow result)) :
    (∃ snapshot, cancelOverseasOrder kis request now (.ok result) = .ok snapshot ∧
        snapshot.status = .cancelRequested) ↔
      (∃ requested, toInt kis (rowValue (cancelRow kis request result) requestedQuantityKeys) =
        .ok requested) ∧ NoVerdict kis (cancelRow kis request result) := by
  have hAnswer := cancelOverseasOrder_plain hSent hPlain
    (rfl : cancelOverseasOrder kis request now (.ok result) = _)
  cases hCount : toInt kis (rowValue (cancelRow kis request result) requestedQuantityKeys) with
  | error =>
    rw [hCount] at hAnswer
    rw [hAnswer]
    constructor
    · rintro ⟨_, hReturned, _⟩
      cases hReturned
    · rintro ⟨⟨_, hRead⟩, _⟩
      cases hRead
  | ok requested =>
    rw [hCount] at hAnswer
    obtain ⟨snapshot, hReturned, _, _, hStatus⟩ := hAnswer
    rw [hReturned, ← plainStatus_eq_cancelRequested_iff, ← hStatus]
    constructor
    · rintro ⟨_, hSame, hRequested⟩
      cases hSame
      exact ⟨⟨requested, rfl⟩, hRequested⟩
    · rintro ⟨_, hRequested⟩
      exact ⟨snapshot, rfl, hRequested⟩

end Plain

end QuantApp.Api
