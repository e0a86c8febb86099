import QuantApp.Api.KisOrderRows
import QuantApp.Verified.Dictionary

/-!
# Order queries of the KIS broker

`_query_pages`, `query_overseas_order` and `query_overseas_reserved_order` of
`src/api/kis_order.py`.  The broker is given by its answer to every request of a query: the
page or the exception at each position.  The parts of `raw_response` that nothing reads are
left out of the sentinel for an empty answer.
-/

namespace QuantApp.Api

open Core Services Verified

/-! ## Pages -/

/-- A page and the headers it comes with. -/
structure PageResponse where
  body : Row
  headers : List (String × String) := []

/-- What the broker answers to the requests of one query. -/
abbrev Served := Nat → Except Raised PageResponse

/-- A header, whose name is compared in lower case. -/
def headerOf (headers : List (String × String)) (name : String) : String :=
  ((headers.find? (fun header => lowerKey header.1 = name)).map Prod.snd).getD ""

/-- The continuation header. -/
def PageResponse.trCont (response : PageResponse) : String :=
  let value := headerOf response.headers "tr_cont"
  strip (if value ≠ "" then value else headerOf response.headers "tr-cont")

/-- The page is followed by another one: `header_tr_cont in {"F", "M"}`. -/
def PageResponse.Continues (response : PageResponse) : Prop := response.trCont ∈ ["F", "M"]

instance (response : PageResponse) : Decidable response.Continues :=
  inferInstanceAs (Decidable (response.trCont ∈ ["F", "M"]))

/-- `str(data.get(lower) or data.get(upper) or "")`. -/
def cursorOf (kis : KisText) (body : Row) (lowerName upperName : String) : String :=
  textOr kis ((fieldOf body lowerName).orElse (fieldOf body upperName))

def HasCursor (kis : KisText) (body : Row) : Prop :=
  cursorOf kis body "ctx_area_fk200" "CTX_AREA_FK200" ≠ "" ∨
    cursorOf kis body "ctx_area_nk200" "CTX_AREA_NK200" ≠ ""

instance (kis : KisText) (body : Row) : Decidable (HasCursor kis body) :=
  inferInstanceAs (Decidable (_ ∨ _))

def paginationError (endpoint reason : String) : Raised :=
  { cls := .runtimeError
    message := "KIS pagination was incomplete for " ++ endpoint ++ ": " ++ reason }

def maxPages : Nat := 10

/-- The pages from one position on, `remaining` of which may still be asked for. -/
def queryPagesFrom (kis : KisText) (endpoint : String) (served : Served) :
    Nat → Nat → Except Raised (List Row)
  | 0, _ => .ok []
  | remaining + 1, page => do
    let response ← served page
    if ¬ response.Continues then pure [response.body]
    else if ¬ HasCursor kis response.body then
      throw (paginationError endpoint "continuation was requested without a cursor")
    else if remaining = 0 then
      throw (paginationError endpoint ("more than " ++ toString maxPages ++ " pages were reported"))
    else do
      let rest ← queryPagesFrom kis endpoint served remaining (page + 1)
      pure (response.body :: rest)

def queryPages (kis : KisText) (endpoint : String) (served : Served) : Except Raised (List Row) :=
  queryPagesFrom kis endpoint served maxPages 0

/-! ## Queries -/

def openOrderInquiryEndpoint : String := "/uapi/overseas-stock/v1/trading/inquire-nccs"
def orderInquiryEndpoint : String := "/uapi/overseas-stock/v1/trading/inquire-ccnl"
def reservedOrderInquiryEndpoint : String := "/uapi/overseas-stock/v1/trading/order-resv-list"

/-- What is asked for. -/
structure OrderInquiry extends OrderQuery where
  symbol : String := ""
  brokerOrderId : String := ""
  side : String := ""

/-- The ledgers of one exchange: whether the client can be set up for a query, and the pages
that are served. -/
structure ExchangeLedgers where
  prepared : Except Raised Unit := .ok ()
  openOrders : Served
  history : Served
  reservedPrepared : Except Raised Unit := .ok ()
  reservations : Served

def matchesOrderFilter (kis : KisText) (snapshot : OrderSnapshot) (inquiry : OrderInquiry) : Bool :=
  if inquiry.brokerOrderId ≠ "" ∧ normalizeKisOrderNumber kis snapshot.brokerOrderId ≠
      normalizeKisOrderNumber kis inquiry.brokerOrderId then false
  else if inquiry.symbol ≠ "" ∧ snapshot.symbol ≠ "" ∧
      snapshot.symbol ≠ kis.upper inquiry.symbol then false
  else inquiry.side = "" || snapshot.side = normalizeSide kis (.text inquiry.side)

/-- `_unknown_snapshot` of an empty answer. -/
def unknownSnapshot (kis : KisText) (inquiry : OrderInquiry) : OrderSnapshot :=
  { environment := kis.upper inquiry.environment
    accountNo := inquiry.accountNo
    clientOrderId := inquiry.clientOrderId
    symbol := kis.upper inquiry.symbol
    brokerOrderId := inquiry.brokerOrderId
    side := normalizeSide kis (.text inquiry.side)
    status := .unknown
    checkedAt := inquiry.now
    rawResponse := [("not_found", .boolean true)] }

/-- The snapshots of the rows on some pages that pass the filter. -/
def ledgerSnapshots (kis : KisText) (inquiry : OrderInquiry) (source : RowSource)
    (pages : List Row) : Except Raised (List OrderSnapshot) := do
  let snapshots ← (pages.flatMap outputRows).mapM
    (fun row => parseBrokerOrderStatusSnapshot kis inquiry.toOrderQuery row source)
  pure (snapshots.filter (matchesOrderFilter kis · inquiry))

/-- The key under which the snapshots of a query are filed. -/
def queryKey (snapshot : OrderSnapshot) : String × OrderStatus × Int × Int :=
  (if snapshot.brokerOrderId ≠ "" then snapshot.brokerOrderId
    else if snapshot.clientOrderId ≠ "" then snapshot.clientOrderId
    else snapshot.symbol,
    snapshot.status, snapshot.filledQuantity, snapshot.remainingQuantity)

/-- A failed query of the open orders is raised again. -/
def openOrderPages (kis : KisText) (served : Served) : Except Raised (List Row) :=
  match queryPages kis openOrderInquiryEndpoint served with
  | .ok pages => .ok pages
  | .error error =>
    .error
      { cls := .runtimeError
        message := "KIS open-order discovery failed: " ++ error.message }

/-- The inquiry with its texts cleaned. -/
def OrderInquiry.cleaned (kis : KisText) (inquiry : OrderInquiry) : OrderInquiry :=
  { inquiry with
    environment := kis.upper (strip inquiry.environment)
    symbol := kis.upper (strip inquiry.symbol)
    brokerOrderId := strip inquiry.brokerOrderId }

def queryOverseasOrder (kis : KisText) (inquiry : OrderInquiry) (ledgers : ExchangeLedgers) :
    Except Raised (List OrderSnapshot) := do
  let inquiry := inquiry.cleaned kis
  ledgers.prepared
  let openPages ← openOrderPages kis ledgers.openOrders
  let openSnapshots ← ledgerSnapshots kis inquiry .openOrders openPages
  let historyPages ← queryPages kis orderInquiryEndpoint ledgers.history
  let historySnapshots ← ledgerSnapshots kis inquiry .history historyPages
  let snapshots := (Dictionary.fileUnder queryKey (openSnapshots ++ historySnapshots)).values
  pure (if snapshots = [] then [unknownSnapshot kis inquiry] else snapshots)

/-- `query_overseas_reserved_order`; no snapshots are merged. -/
def queryOverseasReservedOrder (kis : KisText) (inquiry : OrderInquiry)
    (ledgers : ExchangeLedgers) : Except Raised (List OrderSnapshot) := do
  let inquiry := inquiry.cleaned kis
  ledgers.reservedPrepared
  let pages ← queryPages kis reservedOrderInquiryEndpoint ledgers.reservations
  let snapshots ← ledgerSnapshots kis inquiry .reservation pages
  pure (if snapshots = [] then [unknownSnapshot kis inquiry] else snapshots)

/-! ## What a query has read -/

section Read

variable {kis : KisText} {endpoint : String} {served : Served} {pages : List Row}

/-- The answers of a query that returned: every page but the last one is continued. -/
structure Answers (served : Served) (page : Nat) (responses : List PageResponse)
    (last : PageResponse) : Prop where
  answered : ∀ i (h : i < responses.length), served (page + i) = .ok responses[i]
  lastAnswered : served (page + responses.length) = .ok last
  continued : ∀ response ∈ responses, response.Continues
  ended : ¬ last.Continues

theorem Answers.last {page : Nat} {last : PageResponse} (hServed : served page = .ok last)
    (hEnded : ¬ last.Continues) : Answers served page [] last :=
  ⟨fun _ hi => absurd hi (Nat.not_lt_zero _), hServed, List.forall_mem_nil _, hEnded⟩

theorem Answers.cons {page : Nat} {responses : List PageResponse} {first last : PageResponse}
    (h : Answers served (page + 1) responses last) (hFirst : served page = .ok first)
    (hContinues : first.Continues) : Answers served page (first :: responses) last where
  answered := by
    intro i hi
    cases i with
    | zero => exact hFirst
    | succ i =>
      have hRest := h.answered i (Nat.lt_of_succ_lt_succ hi)
      rw [show page + (i + 1) = page + 1 + i from by omega]
      exact hRest
  lastAnswered := by
    have hLast := h.lastAnswered
    rw [show page + (first :: responses).length = page + 1 + responses.length from by
      rw [List.length_cons]
      omega]
    exact hLast
  continued := by
    exact List.forall_mem_cons.mpr ⟨hContinues, h.continued⟩
  ended := h.ended

theorem queryPagesFrom_ok {remaining page : Nat}
    (h : queryPagesFrom kis endpoint served remaining.succ page = .ok pages) :
    ∃ responses last, Answers served page responses last ∧
      pages = (responses ++ [last]).map PageResponse.body := by
  induction remaining generalizing page pages with
  | zero =>
    obtain ⟨response, hServed, hRest⟩ := bind_eq_ok.mp h
    split at hRest
    next hEnded =>
      cases hRest
      exact ⟨[], response, .last hServed hEnded, rfl⟩
    · split at hRest
      all_goals cases hRest
  | succ remaining ih =>
    obtain ⟨response, hServed, hRest⟩ := bind_eq_ok.mp h
    split at hRest
    next hEnded =>
      cases hRest
      exact ⟨[], response, .last hServed hEnded, rfl⟩
    next hContinues =>
      split at hRest
      · cases hRest
      · rw [if_neg (Nat.succ_ne_zero remaining)] at hRest
        obtain ⟨rest, hMore, hPages⟩ := bind_eq_ok.mp hRest
        cases hPages
        obtain ⟨responses, last, hAnswers, rfl⟩ := ih hMore
        exact ⟨response :: responses, last, hAnswers.cons hServed (not_not.mp hContinues), rfl⟩

theorem queryPages_ok (h : queryPages kis endpoint served = .ok pages) :
    ∃ responses last, Answers served 0 responses last ∧
      pages = (responses ++ [last]).map PageResponse.body :=
  queryPagesFrom_ok h

end Read

end QuantApp.Api
