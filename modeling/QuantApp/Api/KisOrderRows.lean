import QuantApp.Services.PositionSnapshots

/-!
# Order rows of the KIS broker

The readers of `src/api/kis_order.py` that turn one row of an answer into a
`BrokerOrderStatusSnapshot`.  One classifier, `_status_from_order_row`, serves the rows of
the open-order list, of the order history, of the reservation ledger and of the answer to a
cancel request.
-/

namespace QuantApp.Api

open Core Services Verified

/-- An object of an answer, as its fields. -/
abbrev Row := List (String × JsonValue)

/-- The conversions of texts, with `str.upper()` of any text and `str.isdigit()` of a
character. -/
structure KisText extends PythonText where
  upper : String → String
  isDigit : Char → Bool

/-- `str.lower()` of a key. -/
def lowerKey (key : String) : String := String.ofList (key.toList.map Char.toLower)

/-- A value other than `None` and the empty text. -/
def isGiven : JsonValue → Bool
  | .null => false
  | .text value => value ≠ ""
  | _ => true

/-- The keys in the three spellings they are looked up in. -/
def spellings (keys : List String) : List String :=
  keys.flatMap (fun key => [key, lowerKey key, upper key])

/-- `_row_value`: the first value given under one of the keys. -/
def rowValue (row : Row) (keys : List String) : JsonValue :=
  ((spellings keys).findSome? (fun key => (row.lookup key).filter isGiven)).getD .null

/-- `str(value or "")`. -/
def textOr (kis : KisText) (value : JsonValue) : String :=
  match value.orElse (.text "") with
  | .text value => value
  | other => kis.str other

/-- `row.setdefault(key, value)`. -/
def setDefault (row : Row) (key : String) (value : JsonValue) : Row :=
  if (row.lookup key).isSome then row else row ++ [(key, value)]

/-- `_as_list`: the objects of a list, or one object. -/
def asList : JsonValue → List Row
  | .list items =>
    items.filterMap (fun item =>
      match item with
      | .object fields => some fields
      | _ => none)
  | .object fields => [fields]
  | _ => []

def outputRows (data : Row) : List Row :=
  ["output", "output1", "output2"].flatMap (fun key => asList (fieldOf data key))

/-! ## Numbers -/

/-- `float(str(value or "0").replace(",", "").strip() or 0)`; `none` for a `ValueError`. -/
def floatOf (kis : KisText) (value : JsonValue) : Option PythonFloat :=
  if value.truthy then
    let shown :=
      match value with
      | .text value => value
      | other => kis.str other
    let digits := strip (String.ofList (shown.toList.filter (· ≠ ',')))
    if digits = "" then some (.finite 0) else kis.floatOfText digits
  else some (.finite 0)

/-- `_to_int`: the cast of an infinite float is raised. -/
def toInt (kis : KisText) (value : JsonValue) : Except Raised Int :=
  match floatOf kis value with
  | some (.finite value) => .ok (value.num.tdiv value.den)
  | some .infinite =>
    .error { cls := .overflowError, message := "cannot convert float infinity to integer" }
  | some .nan | none => .ok 0

/-- `_to_float` of a price that is finite. -/
def toFloat (kis : KisText) (value : JsonValue) : ℚ :=
  match floatOf kis value with
  | some (.finite value) => value
  | _ => 0

/-! ## Identity and side -/

def normalizeSide (kis : KisText) (value : JsonValue) : OrderSide :=
  let text := kis.upper (strip (textOr kis value))
  if text ∈ ["01", "SELL", "SLL", "S"] || decide ("SELL".toList <:+: text.toList) ||
      decide ("매도".toList <:+: text.toList) then .sell
  else .buy

/-- `_normalize_kis_order_number` of a text: digits are padded to ten, zeros alone are no
number. -/
def normalizeKisOrderNumber (kis : KisText) (value : String) : String :=
  let text := strip value
  if text = "" || !text.toList.all kis.isDigit || text.toList.all (· = '0') then
    if text ≠ "" && text.toList.all (· = '0') then "" else text
  else String.ofList (List.replicate (10 - text.length) '0') ++ text

/-- The code of a revision or cancellation. -/
def revisionCancelCode (kis : KisText) (row : Row) : String :=
  strip (textOr kis (rowValue row ["rvse_cncl_dvsn", "rvse_cncl_dvsn_cd", "RVSE_CNCL_DVSN_CD"]))

/-- `_broker_order_id_from_row`: a cancellation row is about the order it cancels. -/
def brokerOrderIdFromRow (kis : KisText) (row : Row) : String :=
  let reserved := strip (textOr kis (rowValue row ["ovrs_rsvn_odno", "OVRS_RSVN_ODNO"]))
  if reserved ≠ "" then reserved
  else
    let current := rowValue row ["odno", "ODNO", "order_no", "ord_no", "KIS_ORDER_NO"]
    let original := rowValue row ["orgn_odno", "ORGN_ODNO"]
    normalizeKisOrderNumber kis (textOr kis
      (if revisionCancelCode kis row = "02" ∧
          normalizeKisOrderNumber kis (textOr kis original) ≠ "" then original
      else current))

/-! ## Status -/

/-- What a row was read from. -/
inductive RowSource
  | query
  | openOrders
  | history
  | reservation
  | cancelResponse
  deriving DecidableEq

/-- The keys whose texts are searched for a verdict. -/
def statusKeys : List String :=
  ["prcs_stat_name", "prcs_stat_cd", "rjct_rson", "rjct_rson_name", "rvse_cncl_dvsn",
    "rvse_cncl_dvsn_name", "rvse_cncl_dvsn_cd", "status", "ord_stat", "ord_stat_name",
    "ovrs_rsvn_ord_stat_cd", "ovrs_rsvn_ord_stat_cd_name", "cncl_yn", "nprc_rson_text", "msg1"]

/-- The text that is searched. -/
def statusText (kis : KisText) (row : Row) : String :=
  kis.upper (" ".intercalate (statusKeys.map (fun key => textOr kis (rowValue row [key]))))

/-- `any(token in text for token in tokens)`. -/
def mentions (text : String) (tokens : List String) : Bool :=
  tokens.any (fun token => decide (token.toList <:+: text.toList))

def rejectTokens : List String := ["REJECT", "REJECTED", "RJECT", "RJCT", "거부", "거절"]
def expireTokens : List String := ["EXPIRE", "EXPIRED", "만료"]
def cancelTokens : List String := ["CANCELLED", "CANCELED", "CANCEL", "취소"]
def acceptTokens : List String := ["ACCEPT", "RECEIVED", "접수", "처리"]
def fillTokens : List String := ["FILLED", "체결", "완료"]

def requestedQuantityKeys : List String := ["ft_ord_qty", "ORD_QTY", "ord_qty", "qty", "quantity"]
def filledQuantityKeys : List String := ["ft_ccld_qty", "CCLD_QTY", "filled_quantity", "filled_qty"]
def remainingQuantityKeys : List String :=
  ["nccs_qty", "NCCS_QTY", "remaining_quantity", "remaining_qty"]

/-- The status that the counts of a row and its source tell. -/
def statusFromCounts (row : Row) (text : String) (source : RowSource)
    (requested filled remaining : Int) : OrderStatus :=
  if source = .cancelResponse then .cancelRequested
  else if 0 < requested ∧ requested ≤ filled ∧ remaining ≤ 0 then .filled
  else if 0 < filled ∧ (0 < remaining ∨ requested ≤ 0 ∨ filled < requested) then
    .partiallyFilled
  else if 0 < remaining then .working
  else if source = .openOrders then .working
  else if source = .reservation then
    if (rowValue row ["ord_fwdg_tmd", "odno", "ODNO"]).truthy then .working else .accepted
  else if mentions text acceptTokens then .accepted
  else if mentions text fillTokens then
    if requested ≤ 0 ∨ requested ≤ filled then .filled else .partiallyFilled
  else .unknown

def statusFromOrderRow (kis : KisText) (row : Row) (source : RowSource) :
    Except Raised OrderStatus := do
  let requested ← toInt kis (rowValue row requestedQuantityKeys)
  let filled ← toInt kis (rowValue row filledQuantityKeys)
  let remaining ← toInt kis (rowValue row remainingQuantityKeys)
  let text := statusText kis row
  if revisionCancelCode kis row = "02" then pure .cancelled
  else if kis.upper (strip (textOr kis (rowValue row ["cncl_yn"]))) = "Y" then pure .cancelled
  else if strip (textOr kis (rowValue row ["nprc_rson_text"])) ≠ "" then pure .rejected
  else if mentions text rejectTokens then pure .rejected
  else if mentions text expireTokens then pure .expired
  else if mentions text cancelTokens then pure .cancelled
  else pure (statusFromCounts row text source requested filled remaining)

/-! ## Snapshots -/

/-- A `BrokerOrderStatusSnapshot` with the fields that say where it comes from. -/
structure OrderSnapshot extends BrokerOrderStatusSnapshot where
  environment : String
  accountNo : String
  clientOrderId : String := ""
  rawResponse : Row := []

/-- What a query is made for. -/
structure OrderQuery where
  environment : String
  accountNo : String
  clientOrderId : String := ""
  now : IsoText

def parseBrokerOrderStatusSnapshot (kis : KisText) (query : OrderQuery) (row : Row)
    (source : RowSource) : Except Raised OrderSnapshot := do
  let requested ← toInt kis (rowValue row requestedQuantityKeys)
  let filled ← toInt kis (rowValue row filledQuantityKeys)
  let remaining ← toInt kis (rowValue row remainingQuantityKeys)
  let requested := if requested ≤ 0 ∧ 0 < filled + remaining then filled + remaining else requested
  let remaining :=
    if remaining ≤ 0 ∧ 0 < requested ∧ 0 < filled then max 0 (requested - filled) else remaining
  let status ← statusFromOrderRow kis row source
  pure
    { environment := kis.upper query.environment
      accountNo := query.accountNo
      clientOrderId := query.clientOrderId
      symbol := kis.upper (kis.upper (textOr kis (rowValue row
        ["pdno", "PDNO", "symbol", "ovrs_pdno"])))
      brokerOrderId := brokerOrderIdFromRow kis row
      side := normalizeSide kis (rowValue row ["sll_buy_dvsn_cd", "sll_buy_dvsn_cd_name", "side"])
      status := status
      quantityRequested := requested
      filledQuantity := filled
      remainingQuantity := remaining
      avgFillPrice := toFloat kis (rowValue row ["ft_ccld_unpr3", "avg_fill_price", "avg_price"])
      limitPrice := toFloat kis (rowValue row
        ["ft_ord_unpr3", "OVRS_ORD_UNPR", "limit_price", "ord_unpr"])
      checkedAt := query.now
      rawResponse := row }

/-! ## Rows that are filled up -/

section Rows

variable {kis : KisText} {row : Row} {keys : List String}

theorem lookup_setDefault_of_ne {key other : String} (h : other ≠ key) (value : JsonValue) :
    (setDefault row key value).lookup other = row.lookup other := by
  unfold setDefault
  split
  · rfl
  · have hLast : List.lookup other [(key, value)] = none := by
      simp [List.lookup_cons, beq_eq_false_iff_ne.mpr h]
    rw [List.lookup_append, hLast, Option.or_none]

theorem rowValue_setDefault {key : String} (h : key ∉ spellings keys) (value : JsonValue) :
    rowValue (setDefault row key value) keys = rowValue row keys := by
  have hSame : ∀ names : List String, key ∉ names →
      names.findSome? (fun name => ((setDefault row key value).lookup name).filter isGiven) =
        names.findSome? (fun name => (row.lookup name).filter isGiven) := by
    intro names hNames
    induction names with
    | nil => rfl
    | cons name rest ih =>
      have hName : name ≠ key := fun hEq => hNames (by rw [hEq]; exact List.mem_cons_self)
      rw [List.findSome?_cons, List.findSome?_cons, lookup_setDefault_of_ne hName,
        ih (fun hMem => hNames (List.mem_cons_of_mem _ hMem))]
  unfold rowValue
  rw [hSame _ h]

end Rows

end QuantApp.Api
