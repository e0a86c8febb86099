import QuantApp.Api.KisOrderQuery

/-!
# Order discovery

`KisBroker.discover_orders` of `src/services/broker.py`: the regular orders and the
reservations of every configured exchange, filed once more under account, symbol, order id,
status and quantities.  Neither of the two keys holds the side, the key of a query holds the
symbol only where the order id is blank, and the reservations are asked for with the default
side SELL.
-/

namespace QuantApp.Services

open Api Core Verified

variable {order a b : OrderSnapshot} {source : RowSource} {served : Served} {row : Row}
  {endpoint exchange : String} {snapshots : List OrderSnapshot} {page : Nat}
  {responses : List PageResponse} {last : PageResponse} {inquiry : OrderInquiry} {pages : List Row}

/-! ## `discover_orders` -/

structure BrokerOrderDiscoveryResult where
  snapshots : List OrderSnapshot := []
  openOrdersComplete : Bool := false
  historyComplete : Bool := false
  reservedOrdersComplete : Bool := false
  errors : List String := []

def BrokerOrderDiscoveryResult.AllComplete (result : BrokerOrderDiscoveryResult) : Prop :=
  result.openOrdersComplete = true ∧ result.historyComplete = true ∧
    result.reservedOrdersComplete = true

/-- The sentinel for an empty answer. -/
def IsSentinel (snapshot : OrderSnapshot) : Prop :=
  snapshot.status = .unknown ∧ (fieldOf snapshot.rawResponse "not_found").truthy = true

instance (snapshot : OrderSnapshot) : Decidable (IsSentinel snapshot) :=
  inferInstanceAs (Decidable (_ ∧ _))

def authoritativeSnapshots (snapshots : List OrderSnapshot) : List OrderSnapshot :=
  snapshots.filter (fun snapshot => ¬ IsSentinel snapshot)

/-- What the loop over the exchanges has collected. -/
structure Discovered where
  snapshots : List OrderSnapshot := []
  regularComplete : Bool := true
  reservedComplete : Bool := true
  errors : List String := []

def Discovered.withRegular (discovered : Discovered) (exchange : String) :
    Except Raised (List OrderSnapshot) → Discovered
  | .ok regular =>
    { discovered with snapshots := discovered.snapshots ++ authoritativeSnapshots regular }
  | .error error =>
    { discovered with
      regularComplete := false
      errors := discovered.errors ++
        ["Regular order discovery failed for " ++ exchange ++ ": " ++ error.message] }

def Discovered.withReserved (discovered : Discovered) (exchange : String) :
    Except Raised (List OrderSnapshot) → Discovered
  | .ok reserved =>
    { discovered with snapshots := discovered.snapshots ++ authoritativeSnapshots reserved }
  | .error error =>
    { discovered with
      reservedComplete := false
      errors := discovered.errors ++
        ["Reserved order discovery failed for " ++ exchange ++ ": " ++ error.message] }

/-- What is asked of every exchange; a query of the reservations has the default side. -/
def regularInquiry (query : OrderQuery) : OrderInquiry :=
  { environment := query.environment, accountNo := query.accountNo, now := query.now }

def reservedInquiry (query : OrderQuery) : OrderInquiry :=
  { regularInquiry query with side := "SELL" }

def discoverExchange (kis : KisText) (query : OrderQuery) (ledgers : String → ExchangeLedgers)
    (discovered : Discovered) (exchange : String) : Discovered :=
  (discovered.withRegular exchange
    (queryOverseasOrder kis (regularInquiry query) (ledgers exchange))).withReserved exchange
    (queryOverseasReservedOrder kis (reservedInquiry query) (ledgers exchange))

/-- The key under which all snapshots are filed. -/
def discoveryKey (snapshot : OrderSnapshot) : String × String × String × OrderStatus × Int × Int :=
  (snapshot.accountNo, snapshot.symbol, snapshot.brokerOrderId, snapshot.status,
    snapshot.filledQuantity, snapshot.remainingQuantity)

def discoverOrders (kis : KisText) (query : OrderQuery) (exchanges : List String)
    (ledgers : String → ExchangeLedgers) : BrokerOrderDiscoveryResult :=
  let discovered := exchanges.foldl (discoverExchange kis query ledgers) {}
  { snapshots := (Dictionary.fileUnder discoveryKey discovered.snapshots).values
    openOrdersComplete := discovered.regularComplete
    historyComplete := discovered.regularComplete
    reservedOrdersComplete := discovered.reservedComplete
    errors := discovered.errors }

/-! ## What the broker lists -/

/-- The page is followed by another one, in either letter case. -/
def ContinuesInAnyCase (response : PageResponse) : Prop := response.trCont ∈ ["F", "M", "f", "m"]

instance (response : PageResponse) : Decidable (ContinuesInAnyCase response) :=
  inferInstanceAs (Decidable (response.trCont ∈ ["F", "M", "f", "m"]))

/-- A page up to the first response without a continuation header. -/
def PageListed (served : Served) (page : Nat) : Prop :=
  ∀ i < page, ∃ response, served i = .ok response ∧ ContinuesInAnyCase response

/-- A page that its query returned. -/
def PageRead (kis : KisText) (endpoint : String) (served : Served) (page : Nat) : Prop :=
  ∃ pages response, queryPages kis endpoint served = .ok pages ∧ served page = .ok response ∧
    pages[page]? = some response.body

def ListedRow (served : Served) (row : Row) : Prop :=
  ∃ page response, PageListed served page ∧ served page = .ok response ∧
    row ∈ outputRows response.body

/-- What two snapshots of one order agree on. -/
structure SameOrderData (a b : OrderSnapshot) : Prop where
  brokerOrderId : a.brokerOrderId = b.brokerOrderId
  symbol : a.symbol = b.symbol
  side : a.side = b.side
  status : a.status = b.status
  filledQuantity : a.filledQuantity = b.filledQuantity
  remainingQuantity : a.remainingQuantity = b.remainingQuantity

/-- The query that the rows are read with. -/
def rowQuery (kis : KisText) (query : OrderQuery) : OrderQuery :=
  ((regularInquiry query).cleaned kis).toOrderQuery

/-- The row is represented in the snapshots. -/
def Represented (kis : KisText) (query : OrderQuery) (snapshots : List OrderSnapshot)
    (source : RowSource) (row : Row) : Prop :=
  ∃ order, parseBrokerOrderStatusSnapshot kis (rowQuery kis query) row source = .ok order ∧
    ∃ snapshot ∈ snapshots, SameOrderData snapshot order

/-- A ledger of an exchange: its pages, its endpoint and how its rows are read. -/
inductive LedgerOf (ledgers : ExchangeLedgers) : Served → String → RowSource → Prop
  | openOrders : LedgerOf ledgers ledgers.openOrders openOrderInquiryEndpoint .openOrders
  | history : LedgerOf ledgers ledgers.history orderInquiryEndpoint .history
  | reservations :
      LedgerOf ledgers ledgers.reservations reservedOrderInquiryEndpoint .reservation

/-- Every listed page was read and every listed row is represented. -/
def DiscoveryComplete (kis : KisText) (query : OrderQuery) (exchanges : List String)
    (ledgers : String → ExchangeLedgers) : Prop :=
  ∀ exchange ∈ exchanges, ∀ served endpoint source,
    LedgerOf (ledgers exchange) served endpoint source →
      (∀ page, PageListed served page → PageRead kis endpoint served page) ∧
      ∀ row, ListedRow served row →
        Represented kis query (discoverOrders kis query exchanges ledgers).snapshots source row

/-! ## When discovery is complete -/

/-- What `str.upper()` makes of the two texts that the queries are made with. -/
structure UpperKeeps (kis : KisText) : Prop where
  empty : kis.upper "" = ""
  sell : kis.upper "SELL" = "SELL"

/-- The listed pages from one position on, at most `remaining`. -/
def listedPages (served : Served) : Nat → Nat → List Row
  | 0, _ => []
  | remaining + 1, page =>
    match served page with
    | .error _ => []
    | .ok response =>
      if ContinuesInAnyCase response then
        response.body :: listedPages served remaining (page + 1)
      else [response.body]

/-- The orders on the listed pages of a ledger. -/
def listedOrders (kis : KisText) (query : OrderQuery) (source : RowSource) (served : Served) :
    List OrderSnapshot :=
  ((listedPages served maxPages 0).flatMap outputRows).filterMap
    (fun row => (parseBrokerOrderStatusSnapshot kis (rowQuery kis query) row source).toOption)

/-- No continuation is written in lower case. -/
def UpperCaseContinuations (served : Served) : Prop :=
  ∀ page response, PageListed served page → served page = .ok response →
    ContinuesInAnyCase response → response.Continues

/-- No ledger of an exchange is continued in lower case. -/
def AllUpperCase (exchanges : List String) (ledgers : String → ExchangeLedgers) : Prop :=
  ∀ exchange ∈ exchanges, ∀ served endpoint source,
    LedgerOf (ledgers exchange) served endpoint source → UpperCaseContinuations served

/-- The order is the last regular order of its query key, or a reservation to sell, and not
taken for the sentinel. -/
structure Survives (kis : KisText) (query : OrderQuery) (ledgers : ExchangeLedgers)
    (order : OrderSnapshot) : Prop where
  notSentinel : ¬ IsSentinel order
  kept : (listedOrders kis query .openOrders ledgers.openOrders ++
        listedOrders kis query .history ledgers.history).reverse.find?
          (fun other => queryKey other = queryKey order) = some order ∨
      order ∈ listedOrders kis query .reservation ledgers.reservations ∧ order.side = .sell

/-- The condition under which a discovery that says so is complete. -/
structure Discoverable (kis : KisText) (query : OrderQuery) (exchanges : List String)
    (ledgers : String → ExchangeLedgers) : Prop where
  upperCase : AllUpperCase exchanges ledgers
  merged : ∀ exchange ∈ exchanges, ∀ served endpoint source,
    LedgerOf (ledgers exchange) served endpoint source →
      ∀ order ∈ listedOrders kis query source served,
        ∃ other ∈ exchanges, ∃ kept, Survives kis query (ledgers other) kept ∧
          SameOrderData kept order
  sided : ∀ left ∈ exchanges, ∀ right ∈ exchanges, ∀ a b,
    Survives kis query (ledgers left) a → Survives kis query (ledgers right) b →
      discoveryKey a = discoveryKey b → a.side = b.side

/-! ## Pages -/

section Pages

variable {kis : KisText} {query : OrderQuery} {endpoint : String} {served : Served}
  {pages : List Row}

theorem continuesInAnyCase_of_continues {response : PageResponse} (h : response.Continues) :
    ContinuesInAnyCase response :=
  List.mem_append_left ["f", "m"] h

theorem PageListed.mono {later : Nat} (h : PageListed served later) (hLe : page ≤ later) :
    PageListed served page :=
  fun i hi => h i (lt_of_lt_of_le hi hLe)

theorem PageListed.succ {page : Nat} (h : PageListed served page)
    (hPage : ∃ response, served page = .ok response ∧ ContinuesInAnyCase response) :
    PageListed served (page + 1) := by
  intro i hi
  rcases Nat.lt_succ_iff_lt_or_eq.mp hi with hLt | rfl
  · exact h i hLt
  · exact hPage

section

variable (h : Answers served 0 responses last)
include h

theorem answers_listed : PageListed served responses.length := by
  intro i hi
  have hAnswered := h.answered i hi
  rw [Nat.zero_add] at hAnswered
  exact ⟨_, hAnswered, continuesInAnyCase_of_continues (h.continued _ (List.getElem_mem hi))⟩

theorem answers_last : served responses.length = .ok last := by
  have hLast := h.lastAnswered
  rwa [Nat.zero_add] at hLast

theorem answers_page {response : PageResponse} (hServed : served page = .ok response)
    (hPage : page ≤ responses.length) :
    ((responses ++ [last]).map PageResponse.body)[page]? = some response.body := by
  rcases Nat.lt_or_eq_of_le hPage with hLt | rfl
  · have hAnswered := h.answered page hLt
    rw [Nat.zero_add, hServed] at hAnswered
    cases hAnswered
    rw [List.getElem?_map, List.getElem?_append_left hLt, List.getElem?_eq_getElem hLt]
    rfl
  · have hLast := answers_last h
    rw [hServed] at hLast
    cases hLast
    rw [List.getElem?_map, List.getElem?_concat_length]
    rfl

end

section

variable (hReturned : queryPages kis endpoint served = .ok pages)
include hReturned

/-- All listed pages are read exactly when no continuation is written in lower case. -/
theorem pages_read_iff :
    (∀ page, PageListed served page → PageRead kis endpoint served page) ↔
      UpperCaseContinuations served := by
  obtain ⟨responses, last, hAnswers, hPages⟩ := queryPages_ok hReturned
  constructor
  · intro hRead page response hListed hServed hAnyCase
    obtain ⟨found, next, hFound, _, hBody⟩ :=
      hRead (page + 1) (hListed.succ ⟨response, hServed, hAnyCase⟩)
    have hBound : page + 1 < found.length := (List.getElem?_eq_some_iff.mp hBody).1
    rw [hReturned] at hFound
    cases hFound
    rw [hPages, List.length_map, List.length_append, List.length_singleton] at hBound
    have hLt : page < responses.length := by omega
    have hAnswered := hAnswers.answered page hLt
    rw [Nat.zero_add, hServed] at hAnswered
    cases hAnswered
    exact hAnswers.continued _ (List.getElem_mem hLt)
  · intro hUpper page hListed
    have hPage : page ≤ responses.length := by
      by_contra hBeyond
      obtain ⟨response, hServed, hAnyCase⟩ := hListed responses.length (by omega)
      rw [answers_last hAnswers] at hServed
      cases hServed
      exact hAnswers.ended
        (hUpper _ last (answers_listed hAnswers) (answers_last hAnswers) hAnyCase)
    obtain ⟨response, hServed⟩ : ∃ response, served page = .ok response := by
      rcases Nat.lt_or_eq_of_le hPage with hLt | rfl
      · have hAnswered := hAnswers.answered page hLt
        rw [Nat.zero_add] at hAnswered
        exact ⟨_, hAnswered⟩
      · exact ⟨last, answers_last hAnswers⟩
    refine ⟨pages, response, hReturned, hServed, ?_⟩
    rw [hPages]
    exact answers_page hAnswers hServed hPage

theorem mem_pages_of_listedRow (hUpper : UpperCaseContinuations served)
    (hRow : ListedRow served row) :
    row ∈ pages.flatMap outputRows := by
  obtain ⟨page, response, hListed, hServed, hMem⟩ := hRow
  obtain ⟨found, other, hFound, hOther, hBody⟩ := (pages_read_iff hReturned).mpr hUpper page hListed
  rw [hReturned] at hFound
  cases hFound
  rw [hServed] at hOther
  cases hOther
  exact List.mem_flatMap.mpr ⟨response.body, List.mem_of_getElem? hBody, hMem⟩

theorem listedRow_of_mem_pages (hRow : row ∈ pages.flatMap outputRows) : ListedRow served row := by
  obtain ⟨responses, last, hAnswers, rfl⟩ := queryPages_ok hReturned
  obtain ⟨body, hBody, hMem⟩ := List.mem_flatMap.mp hRow
  obtain ⟨response, hResponse, rfl⟩ := List.mem_map.mp hBody
  rcases List.mem_append.mp hResponse with hBefore | hLast
  · obtain ⟨i, hi, rfl⟩ := List.mem_iff_getElem.mp hBefore
    have hAnswered := hAnswers.answered i hi
    rw [Nat.zero_add] at hAnswered
    exact ⟨i, _, (answers_listed hAnswers).mono (le_of_lt hi), hAnswered, hMem⟩
  · cases List.mem_singleton.mp hLast
    exact ⟨_, _, answers_listed hAnswers, answers_last hAnswers, hMem⟩

end

theorem listedPages_eq (hUpper : UpperCaseContinuations served) {remaining : Nat}
    (hListed : PageListed served page)
    (h : queryPagesFrom kis endpoint served remaining page = .ok pages) :
    listedPages served remaining page = pages := by
  induction remaining generalizing page pages with
  | zero =>
    cases h
    rfl
  | succ remaining ih =>
    obtain ⟨response, hServed, hRest⟩ := bind_eq_ok.mp h
    have hAnyCase : ContinuesInAnyCase response ↔ response.Continues :=
      ⟨hUpper page response hListed hServed, continuesInAnyCase_of_continues⟩
    have hUnfold : listedPages served (remaining + 1) page =
        if ContinuesInAnyCase response then
          response.body :: listedPages served remaining (page + 1)
        else [response.body] := by
      rw [listedPages, hServed]
    split at hRest
    next hEnded =>
      cases hRest
      rw [hUnfold, if_neg (fun hMore => hEnded (hAnyCase.mp hMore))]
    next hContinues =>
      have hMore := hAnyCase.mpr (not_not.mp hContinues)
      split at hRest
      · cases hRest
      · split at hRest
        · cases hRest
        · obtain ⟨rest, hTail, hPages⟩ := bind_eq_ok.mp hRest
          cases hPages
          rw [hUnfold, if_pos hMore, ih (hListed.succ ⟨response, hServed, hMore⟩) hTail]

end Pages

/-! ## Queries that returned -/

section Queries

variable {kis : KisText} {query : OrderQuery} {ledgers : ExchangeLedgers}

section

variable (hQuery : inquiry.toOrderQuery = rowQuery kis query)
  (hUpper : UpperCaseContinuations served) (hPages : queryPages kis endpoint served = .ok pages)
  (h : ledgerSnapshots kis inquiry source pages = .ok snapshots)
include hQuery hUpper hPages h

/-- What the snapshots of a ledger are, with the filter that is left. -/
theorem ledgerSnapshots_eq :
    snapshots = (listedOrders kis query source served).filter
      (matchesOrderFilter kis · inquiry) := by
  obtain ⟨parsed, hParsed, hFiltered⟩ := bind_eq_ok.mp h
  cases hFiltered
  have hListed : listedPages served maxPages 0 = pages :=
    listedPages_eq hUpper (fun _ hi => absurd hi (Nat.not_lt_zero _)) hPages
  unfold listedOrders
  rw [hListed, ← mapM_eq_filterMap hParsed, hQuery]

/-- Every row of a ledger that was read is one of the listed orders. -/
theorem row_parsed (hRow : ListedRow served row) :
    ∃ order ∈ listedOrders kis query source served,
      parseBrokerOrderStatusSnapshot kis (rowQuery kis query) row source = .ok order := by
  obtain ⟨parsed, hParsed, _⟩ := bind_eq_ok.mp h
  have hMem := mem_pages_of_listedRow hPages hUpper hRow
  obtain ⟨order, hOrder⟩ := mapM_succeeds_iff.mp ⟨parsed, hParsed⟩ row hMem
  rw [hQuery] at hOrder
  have hListed : listedPages served maxPages 0 = pages :=
    listedPages_eq hUpper (fun _ hi => absurd hi (Nat.not_lt_zero _)) hPages
  refine ⟨order, ?_, hOrder⟩
  unfold listedOrders
  rw [hListed]
  exact List.mem_filterMap.mpr ⟨row, hMem, by rw [hOrder]; rfl⟩

end

theorem row_of_listedOrder (hUpper : UpperCaseContinuations served)
    (hPages : queryPages kis endpoint served = .ok pages)
    (h : order ∈ listedOrders kis query source served) :
    ∃ row, ListedRow served row ∧
      parseBrokerOrderStatusSnapshot kis (rowQuery kis query) row source = .ok order := by
  have hListed : listedPages served maxPages 0 = pages :=
    listedPages_eq hUpper (fun _ hi => absurd hi (Nat.not_lt_zero _)) hPages
  unfold listedOrders at h
  rw [hListed] at h
  obtain ⟨row, hRow, hOrder⟩ := List.mem_filterMap.mp h
  refine ⟨row, listedRow_of_mem_pages hPages hRow, ?_⟩
  cases hParsed : parseBrokerOrderStatusSnapshot kis (rowQuery kis query) row source with
  | error =>
    rw [hParsed] at hOrder
    cases hOrder
  | ok =>
    rw [hParsed] at hOrder
    cases hOrder
    rfl

theorem inquiry_cleaned (hUpper : UpperKeeps kis) (inquiry : OrderInquiry)
    (hSymbol : inquiry.symbol = "") (hId : inquiry.brokerOrderId = "") :
    (inquiry.cleaned kis).symbol = "" ∧ (inquiry.cleaned kis).brokerOrderId = "" := by
  have hStrip : strip "" = "" := by decide +kernel
  constructor
  · show kis.upper (strip inquiry.symbol) = ""
    rw [hSymbol, hStrip, hUpper.empty]
  · show strip inquiry.brokerOrderId = ""
    rw [hId, hStrip]

theorem normalizeSide_sell (hUpper : UpperKeeps kis) :
    normalizeSide kis (.text "SELL") = .sell := by
  have hText : kis.upper (strip (textOr kis (.text "SELL"))) = "SELL" := by
    have hShown : textOr kis (.text "SELL") = "SELL" := by
      unfold textOr JsonValue.orElse
      rw [if_pos (by decide +kernel)]
    have hStrip : strip "SELL" = "SELL" := by decide +kernel
    rw [hShown, hStrip, hUpper.sell]
  unfold normalizeSide
  rw [hText]
  decide +kernel

/-- An inquiry without symbol and order id lets every order of its side pass. -/
theorem matchesOrderFilter_eq (hUpper : UpperKeeps kis) (inquiry : OrderInquiry)
    (hSymbol : inquiry.symbol = "") (hId : inquiry.brokerOrderId = "")
    (snapshot : OrderSnapshot) :
    matchesOrderFilter kis snapshot (inquiry.cleaned kis) =
      (inquiry.side = "" || snapshot.side = normalizeSide kis (.text inquiry.side)) := by
  obtain ⟨hNoSymbol, hNoId⟩ := inquiry_cleaned hUpper inquiry hSymbol hId
  unfold matchesOrderFilter
  rw [if_neg (fun h => h.1 hNoId), if_neg (fun h => h.1 hNoSymbol)]
  rfl

theorem unknownSnapshot_sentinel (inquiry : OrderInquiry) :
    IsSentinel (unknownSnapshot kis inquiry) := by
  refine ⟨rfl, ?_⟩
  show (fieldOf [("not_found", .boolean true)] "not_found").truthy = true
  decide +kernel

theorem mem_authoritativeSnapshots :
    order ∈ authoritativeSnapshots snapshots ↔ order ∈ snapshots ∧ ¬ IsSentinel order := by
  simp [authoritativeSnapshots]

theorem mem_authoritative_orSentinel :
    order ∈ authoritativeSnapshots
        (if snapshots = [] then [unknownSnapshot kis inquiry] else snapshots) ↔
      order ∈ snapshots ∧ ¬ IsSentinel order := by
  rw [mem_authoritativeSnapshots]
  split
  next hEmpty =>
    rw [hEmpty]
    constructor
    · rintro ⟨hMem, hReal⟩
      rw [List.mem_singleton.mp hMem] at hReal
      exact absurd (unknownSnapshot_sentinel inquiry) hReal
    · rintro ⟨hMem, _⟩
      cases hMem
  · exact Iff.rfl

/-- The pages of a ledger were all returned, and its rows parsed. -/
def LedgerRead (kis : KisText) (query : OrderQuery) (endpoint : String) (source : RowSource)
    (served : Served) : Prop :=
  ∃ inquiry pages snapshots, OrderInquiry.toOrderQuery inquiry = rowQuery kis query ∧
    queryPages kis endpoint served = .ok pages ∧
    ledgerSnapshots kis inquiry source pages = .ok snapshots

/-- What the regular query of an exchange has read and what it returns. -/
theorem queryOverseasOrder_ok (hUpper : UpperKeeps kis) {regular : List OrderSnapshot}
    (h : queryOverseasOrder kis (regularInquiry query) ledgers = .ok regular) :
    LedgerRead kis query openOrderInquiryEndpoint .openOrders ledgers.openOrders ∧
      LedgerRead kis query orderInquiryEndpoint .history ledgers.history ∧
      (UpperCaseContinuations ledgers.openOrders → UpperCaseContinuations ledgers.history →
        ∀ order, order ∈ authoritativeSnapshots regular ↔ ¬ IsSentinel order ∧
          (listedOrders kis query .openOrders ledgers.openOrders ++
            listedOrders kis query .history ledgers.history).reverse.find?
              (fun other => queryKey other = queryKey order) = some order) := by
  obtain ⟨_, _, h⟩ := bind_eq_ok.mp h
  obtain ⟨openPages, hOpenPages, h⟩ := bind_eq_ok.mp h
  obtain ⟨openSnapshots, hOpen, h⟩ := bind_eq_ok.mp h
  obtain ⟨historyPages, hHistoryPages, h⟩ := bind_eq_ok.mp h
  obtain ⟨historySnapshots, hHistory, h⟩ := bind_eq_ok.mp h
  have hOpenRead : queryPages kis openOrderInquiryEndpoint ledgers.openOrders =
      .ok openPages := by
    unfold openOrderPages at hOpenPages
    split at hOpenPages
    next pages hPages =>
      rw [hPages]
      exact hOpenPages
    · cases hOpenPages
  have hFilter : ∀ orders : List OrderSnapshot,
      orders.filter (matchesOrderFilter kis · ((regularInquiry query).cleaned kis)) = orders := by
    intro orders
    apply List.filter_eq_self.mpr
    intro order _
    rw [matchesOrderFilter_eq hUpper _ rfl rfl]
    rfl
  cases h
  refine ⟨⟨_, _, _, rfl, hOpenRead, hOpen⟩, ⟨_, _, _, rfl, hHistoryPages, hHistory⟩, ?_⟩
  intro hOpenUpper hHistoryUpper order
  have hOpenOrders := ledgerSnapshots_eq rfl hOpenUpper hOpenRead hOpen
  have hHistoryOrders := ledgerSnapshots_eq rfl hHistoryUpper hHistoryPages hHistory
  rw [hFilter] at hOpenOrders hHistoryOrders
  rw [mem_authoritative_orSentinel, Dictionary.mem_values_fileUnder, hOpenOrders,
    hHistoryOrders, and_comm]

/-- What the query of the reservations has read and what it returns. -/
theorem queryOverseasReservedOrder_ok (hUpper : UpperKeeps kis) {reserved : List OrderSnapshot}
    (h : queryOverseasReservedOrder kis (reservedInquiry query) ledgers = .ok reserved) :
    LedgerRead kis query reservedOrderInquiryEndpoint .reservation ledgers.reservations ∧
      (UpperCaseContinuations ledgers.reservations →
        ∀ order, order ∈ authoritativeSnapshots reserved ↔ ¬ IsSentinel order ∧
          order ∈ listedOrders kis query .reservation ledgers.reservations ∧
          order.side = .sell) := by
  obtain ⟨_, _, h⟩ := bind_eq_ok.mp h
  obtain ⟨pages, hPages, h⟩ := bind_eq_ok.mp h
  obtain ⟨snapshots, hSnapshots, h⟩ := bind_eq_ok.mp h
  cases h
  refine ⟨⟨(reservedInquiry query).cleaned kis, pages, snapshots, rfl, hPages, hSnapshots⟩, ?_⟩
  intro hReservationsUpper order
  have hQuery : ((reservedInquiry query).cleaned kis).toOrderQuery = rowQuery kis query := rfl
  have hOrders := ledgerSnapshots_eq hQuery hReservationsUpper hPages hSnapshots
  have hSell : matchesOrderFilter kis order ((reservedInquiry query).cleaned kis) =
      decide (order.side = .sell) := by
    rw [matchesOrderFilter_eq hUpper _ rfl rfl]
    show ("SELL" = "" || decide (order.side = normalizeSide kis (.text "SELL"))) = _
    rw [normalizeSide_sell hUpper]
    rfl
  rw [mem_authoritative_orSentinel, hOrders, List.mem_filter, hSell, decide_eq_true_eq, and_comm]

end Queries

/-! ## The loop over the exchanges -/

section Exchanges

variable {kis : KisText} {query : OrderQuery} {ledgers : String → ExchangeLedgers}

/-- What one exchange contributes. -/
def exchangeSnapshots (kis : KisText) (query : OrderQuery) (ledgers : ExchangeLedgers) :
    List OrderSnapshot :=
  authoritativeSnapshots (okOr (queryOverseasOrder kis (regularInquiry query) ledgers) []) ++
    authoritativeSnapshots
      (okOr (queryOverseasReservedOrder kis (reservedInquiry query) ledgers) [])

section

variable (discovered : Discovered) (exchange)
include discovered

open Discovered (withRegular withReserved)

theorem discoverExchange_snapshots :
    (discoverExchange kis query ledgers discovered exchange).snapshots =
      discovered.snapshots ++ exchangeSnapshots kis query (ledgers exchange) := by
  unfold discoverExchange exchangeSnapshots
  cases queryOverseasOrder kis (regularInquiry query) (ledgers exchange) with
  | error =>
    cases queryOverseasReservedOrder kis (reservedInquiry query) (ledgers exchange) with
    | error | ok => simp [withRegular, withReserved, okOr,
        authoritativeSnapshots]
  | ok =>
    cases queryOverseasReservedOrder kis (reservedInquiry query) (ledgers exchange) with
    | error => simp [withRegular, withReserved, okOr, authoritativeSnapshots]
    | ok => simp [withRegular, withReserved, okOr]

theorem discoverExchange_complete :
    (discoverExchange kis query ledgers discovered exchange).regularComplete =
      (discovered.regularComplete &&
        (queryOverseasOrder kis (regularInquiry query) (ledgers exchange)).isOk) ∧
    (discoverExchange kis query ledgers discovered exchange).reservedComplete =
      (discovered.reservedComplete &&
        (queryOverseasReservedOrder kis (reservedInquiry query) (ledgers exchange)).isOk) := by
  unfold discoverExchange
  cases queryOverseasOrder kis (regularInquiry query) (ledgers exchange) <;>
    cases queryOverseasReservedOrder kis (reservedInquiry query) (ledgers exchange) <;>
    simp [withRegular, withReserved, Except.isOk, Except.toBool]

end

variable (kis query ledgers) in
/-- What the loop collects: the contributions of the exchanges, and whether all queries
returned. -/
theorem foldl_discoverExchange (exchanges : List String) (discovered : Discovered) :
    (exchanges.foldl (discoverExchange kis query ledgers) discovered).snapshots =
        discovered.snapshots ++
          exchanges.flatMap (fun exchange => exchangeSnapshots kis query (ledgers exchange)) ∧
      (exchanges.foldl (discoverExchange kis query ledgers) discovered).regularComplete =
        (discovered.regularComplete && exchanges.all (fun exchange =>
          (queryOverseasOrder kis (regularInquiry query) (ledgers exchange)).isOk)) ∧
      (exchanges.foldl (discoverExchange kis query ledgers) discovered).reservedComplete =
        (discovered.reservedComplete && exchanges.all (fun exchange =>
          (queryOverseasReservedOrder kis (reservedInquiry query) (ledgers exchange)).isOk)) := by
  induction exchanges generalizing discovered with
  | nil => simp
  | cons exchange rest ih =>
    obtain ⟨hSnapshots, hRegular, hReserved⟩ := ih (discoverExchange kis query ledgers
      discovered exchange)
    rw [List.foldl_cons, hSnapshots, hRegular, hReserved, discoverExchange_snapshots,
      (discoverExchange_complete _ _).1, (discoverExchange_complete _ _).2,
      List.flatMap_cons, List.all_cons, List.all_cons]
    simp only [List.append_assoc, Bool.and_assoc, and_self]

variable {exchanges : List String}

/-- With all flags set, both queries of every exchange returned. -/
theorem queries_returned (hComplete : (discoverOrders kis query exchanges ledgers).AllComplete)
    (hExchange : exchange ∈ exchanges) :
    (∃ regular, queryOverseasOrder kis (regularInquiry query) (ledgers exchange) =
        .ok regular) ∧
      ∃ reserved, queryOverseasReservedOrder kis (reservedInquiry query) (ledgers exchange) =
        .ok reserved := by
  obtain ⟨hRegular, _, hReserved⟩ := hComplete
  obtain ⟨_, hRegularAll, hReservedAll⟩ := foldl_discoverExchange kis query ledgers exchanges {}
  rw [show (discoverOrders kis query exchanges ledgers).openOrdersComplete = _ from hRegularAll,
    Bool.true_and] at hRegular
  rw [show (discoverOrders kis query exchanges ledgers).reservedOrdersComplete = _ from
    hReservedAll, Bool.true_and] at hReserved
  exact ⟨⟨okOr _ [], eq_okOr (List.all_eq_true.mp hRegular exchange hExchange)⟩,
    ⟨okOr _ [], eq_okOr (List.all_eq_true.mp hReserved exchange hExchange)⟩⟩

section

variable (hUpper : UpperKeeps kis)
  (hComplete : (discoverOrders kis query exchanges ledgers).AllComplete)
include hUpper hComplete

/-- With all flags set, every ledger of every exchange was read. -/
theorem ledger_read (hExchange : exchange ∈ exchanges)
    (hLedger : LedgerOf (ledgers exchange) served endpoint source) :
    LedgerRead kis query endpoint source served := by
  obtain ⟨⟨_, hRegular⟩, ⟨_, hReserved⟩⟩ := queries_returned hComplete hExchange
  obtain ⟨hOpen, hHistory, _⟩ := queryOverseasOrder_ok hUpper hRegular
  obtain ⟨hReservations, _⟩ := queryOverseasReservedOrder_ok hUpper hReserved
  cases hLedger with
  | openOrders => exact hOpen
  | history => exact hHistory
  | reservations => exact hReservations

/-- What an exchange contributes are the orders that survive its queries. -/
theorem mem_exchangeSnapshots (hCase : AllUpperCase exchanges ledgers)
    (hExchange : exchange ∈ exchanges) :
    order ∈ exchangeSnapshots kis query (ledgers exchange) ↔
      Survives kis query (ledgers exchange) order := by
  obtain ⟨⟨regular, hRegular⟩, ⟨reserved, hReserved⟩⟩ := queries_returned hComplete hExchange
  obtain ⟨_, _, hRegularMem⟩ := queryOverseasOrder_ok hUpper hRegular
  obtain ⟨_, hReservedMem⟩ := queryOverseasReservedOrder_ok hUpper hReserved
  have hRegularOrders := hRegularMem (hCase exchange hExchange _ _ _ .openOrders)
    (hCase exchange hExchange _ _ _ .history) order
  have hReservedOrders := hReservedMem (hCase exchange hExchange _ _ _ .reservations) order
  unfold exchangeSnapshots
  rw [hRegular, hReserved, List.mem_append]
  constructor
  · rintro (hMem | hMem)
    · obtain ⟨hReal, hLast⟩ := hRegularOrders.mp hMem
      exact ⟨hReal, Or.inl hLast⟩
    · obtain ⟨hReal, hKept⟩ := hReservedOrders.mp hMem
      exact ⟨hReal, Or.inr hKept⟩
  · intro h
    rcases h.kept with hLast | hKept
    · exact Or.inl (hRegularOrders.mpr ⟨h.notSentinel, hLast⟩)
    · exact Or.inr (hReservedOrders.mpr ⟨h.notSentinel, hKept⟩)

end

theorem discoverOrders_snapshots :
    (discoverOrders kis query exchanges ledgers).snapshots =
      (Dictionary.fileUnder discoveryKey (exchanges.flatMap
        (fun exchange => exchangeSnapshots kis query (ledgers exchange)))).values := by
  obtain ⟨hSnapshots, _, _⟩ := foldl_discoverExchange kis query ledgers exchanges {}
  unfold discoverOrders
  dsimp only
  rw [hSnapshots, List.nil_append]

theorem snapshot_eq_of_key (ha : a ∈ (discoverOrders kis query exchanges ledgers).snapshots)
    (hb : b ∈ (discoverOrders kis query exchanges ledgers).snapshots)
    (hKey : discoveryKey a = discoveryKey b) : a = b := by
  rw [discoverOrders_snapshots] at ha hb
  exact Dictionary.eq_of_mem_fileUnder ha hb hKey

section

variable (hUpper : UpperKeeps kis)
  (hComplete : (discoverOrders kis query exchanges ledgers).AllComplete)
  (hCase : AllUpperCase exchanges ledgers)
include hUpper hComplete hCase

theorem survives_of_snapshot (h : order ∈ (discoverOrders kis query exchanges ledgers).snapshots) :
    ∃ exchange ∈ exchanges, Survives kis query (ledgers exchange) order := by
  rw [discoverOrders_snapshots] at h
  obtain ⟨exchange, hExchange, hMem⟩ := List.mem_flatMap.mp (Dictionary.mem_of_mem_fileUnder h)
  exact ⟨exchange, hExchange, (mem_exchangeSnapshots hUpper hComplete hCase hExchange).mp hMem⟩

theorem exists_snapshot_of_survives (hExchange : exchange ∈ exchanges)
    (h : Survives kis query (ledgers exchange) order) :
    ∃ snapshot ∈ (discoverOrders kis query exchanges ledgers).snapshots,
      discoveryKey snapshot = discoveryKey order := by
  rw [discoverOrders_snapshots]
  exact Dictionary.exists_mem_fileUnder (List.mem_flatMap.mpr ⟨exchange, hExchange,
    (mem_exchangeSnapshots hUpper hComplete hCase hExchange).mpr h⟩)

end

theorem Survives.listed {exchange : ExchangeLedgers} (h : Survives kis query exchange order) :
    ∃ served endpoint source, LedgerOf exchange served endpoint source ∧
      order ∈ listedOrders kis query source served := by
  rcases h.kept with hLast | ⟨hMem, _⟩
  · have hMem := List.mem_reverse.mp (List.mem_of_find?_eq_some hLast)
    rcases List.mem_append.mp hMem with hOpen | hHistory
    · exact ⟨_, _, _, .openOrders, hOpen⟩
    · exact ⟨_, _, _, .history, hHistory⟩
  · exact ⟨_, _, _, .reservations, hMem⟩

theorem SameOrderData.trans {c : OrderSnapshot} (hab : SameOrderData a b)
    (hbc : SameOrderData b c) :
    SameOrderData a c :=
  ⟨hab.brokerOrderId.trans hbc.brokerOrderId, hab.symbol.trans hbc.symbol,
    hab.side.trans hbc.side, hab.status.trans hbc.status,
    hab.filledQuantity.trans hbc.filledQuantity,
    hab.remainingQuantity.trans hbc.remainingQuantity⟩

theorem sameOrder_of_key (hKey : discoveryKey a = discoveryKey b) (hSide : a.side = b.side) :
    SameOrderData a b := by
  unfold discoveryKey at hKey
  simp only [Prod.mk.injEq] at hKey
  obtain ⟨_, hSymbol, hId, hStatus, hFilled, hRemaining⟩ := hKey
  exact ⟨hId, hSymbol, hSide, hStatus, hFilled, hRemaining⟩

/-- Every listed order belongs to the account that is asked for. -/
theorem parsed_accountNo
    (h : parseBrokerOrderStatusSnapshot kis (rowQuery kis query) row source = .ok order) :
    order.accountNo = query.accountNo := by
  obtain ⟨_, _, h⟩ := bind_eq_ok.mp h
  obtain ⟨_, _, h⟩ := bind_eq_ok.mp h
  obtain ⟨_, _, h⟩ := bind_eq_ok.mp h
  obtain ⟨_, _, h⟩ := bind_eq_ok.mp h
  cases h
  rfl

theorem listedOrder_accountNo (h : order ∈ listedOrders kis query source served) :
    order.accountNo = query.accountNo := by
  obtain ⟨row, _, hParsed⟩ := List.mem_filterMap.mp h
  cases hRow : parseBrokerOrderStatusSnapshot kis (rowQuery kis query) row source with
  | error =>
    rw [hRow] at hParsed
    cases hParsed
  | ok =>
    rw [hRow] at hParsed
    cases hParsed
    exact parsed_accountNo hRow

theorem Survives.accountNo {exchange : ExchangeLedgers} (h : Survives kis query exchange order) :
    order.accountNo = query.accountNo := by
  obtain ⟨_, _, _, _, hMem⟩ := h.listed
  exact listedOrder_accountNo hMem

theorem discoveryKey_eq (hAccount : a.accountNo = b.accountNo) (hSame : SameOrderData a b) :
    discoveryKey a = discoveryKey b := by
  unfold discoveryKey
  rw [hAccount, hSame.symbol, hSame.brokerOrderId, hSame.status, hSame.filledQuantity,
    hSame.remainingQuantity]

/-! ## The exact condition -/

/-- With all flags set, every listed page was read and every listed row is represented if and
only if no continuation is in lower case, every listed order agrees with one that survives
its query, and no two survivors differ in their side alone. -/
theorem discovery_complete_iff (hUpper : UpperKeeps kis)
    (hFlags : (discoverOrders kis query exchanges ledgers).AllComplete) :
    DiscoveryComplete kis query exchanges ledgers ↔ Discoverable kis query exchanges ledgers := by
  have hRead : ∀ exchange ∈ exchanges, ∀ served endpoint source,
      LedgerOf (ledgers exchange) served endpoint source →
        LedgerRead kis query endpoint source served :=
    fun exchange hExchange served endpoint source => ledger_read hUpper hFlags hExchange
  constructor
  · intro hComplete
    have hCase : AllUpperCase exchanges ledgers := by
      intro exchange hExchange served endpoint source hLedger
      obtain ⟨_, pages, _, _, hPages, _⟩ := hRead exchange hExchange _ _ _ hLedger
      exact (pages_read_iff hPages).mp (hComplete exchange hExchange _ _ _ hLedger).1
    -- Every listed order is represented, since it is read from a listed row.
    have hListed : ∀ exchange ∈ exchanges, ∀ served endpoint source,
        LedgerOf (ledgers exchange) served endpoint source →
          ∀ order ∈ listedOrders kis query source served,
            ∃ snapshot ∈ (discoverOrders kis query exchanges ledgers).snapshots,
              SameOrderData snapshot order := by
      intro exchange hExchange served endpoint source hLedger order hMem
      obtain ⟨_, pages, _, _, hPages, _⟩ := hRead exchange hExchange _ _ _ hLedger
      obtain ⟨row, hRow, hOrder⟩ :=
        row_of_listedOrder (hCase exchange hExchange _ _ _ hLedger) hPages hMem
      obtain ⟨parsed, hParsed, snapshot, hSnapshot, hSame⟩ :=
        (hComplete exchange hExchange _ _ _ hLedger).2 row hRow
      rw [hOrder] at hParsed
      cases hParsed
      exact ⟨snapshot, hSnapshot, hSame⟩
    refine ⟨hCase, ?_, ?_⟩
    · intro exchange hExchange served endpoint source hLedger order hMem
      obtain ⟨snapshot, hSnapshot, hSame⟩ := hListed exchange hExchange _ _ _ hLedger order hMem
      obtain ⟨other, hOther, hSurvives⟩ := survives_of_snapshot hUpper hFlags hCase hSnapshot
      exact ⟨other, hOther, snapshot, hSurvives, hSame⟩
    · intro left hLeft right hRight a b ha hb hKey
      obtain ⟨_, _, _, hLedgerA, hMemA⟩ := ha.listed
      obtain ⟨_, _, _, hLedgerB, hMemB⟩ := hb.listed
      obtain ⟨forA, hForA, hSameA⟩ := hListed left hLeft _ _ _ hLedgerA a hMemA
      obtain ⟨forB, hForB, hSameB⟩ := hListed right hRight _ _ _ hLedgerB b hMemB
      obtain ⟨_, _, hSurvivesA⟩ := survives_of_snapshot hUpper hFlags hCase hForA
      obtain ⟨_, _, hSurvivesB⟩ := survives_of_snapshot hUpper hFlags hCase hForB
      have hKeys : discoveryKey forA = discoveryKey forB := by
        rw [discoveryKey_eq (hSurvivesA.accountNo.trans ha.accountNo.symm) hSameA, hKey,
          ← discoveryKey_eq (hSurvivesB.accountNo.trans hb.accountNo.symm) hSameB]
      rw [← hSameA.side, snapshot_eq_of_key hForA hForB hKeys, hSameB.side]
  · rintro ⟨hCase, hMerged, hSided⟩ exchange hExchange served endpoint source hLedger
    obtain ⟨_, pages, _, hQuery, hPages, hSnapshots⟩ := hRead exchange hExchange _ _ _ hLedger
    have hServed := hCase exchange hExchange _ _ _ hLedger
    refine ⟨(pages_read_iff hPages).mpr hServed, ?_⟩
    intro row hRow
    obtain ⟨order, hOrder, hParsed⟩ := row_parsed hQuery hServed hPages hSnapshots hRow
    obtain ⟨other, hOther, kept, hSurvives, hSame⟩ :=
      hMerged exchange hExchange _ _ _ hLedger order hOrder
    obtain ⟨snapshot, hSnapshot, hKey⟩ :=
      exists_snapshot_of_survives hUpper hFlags hCase hOther hSurvives
    obtain ⟨origin, hFrom, hOrigin⟩ := survives_of_snapshot hUpper hFlags hCase hSnapshot
    have hSide := hSided origin hFrom other hOther snapshot kept hOrigin hSurvives hKey
    exact ⟨order, hParsed, snapshot, hSnapshot, (sameOrder_of_key hKey hSide).trans hSame⟩

end Exchanges

/-! ## Two orders with blank numbers -/

/-- Conversions of ASCII texts; the only number here is five. -/
def fiveText : KisText :=
  { floatOfText := fun text => if text = "5" then some (.finite 5) else none
    str := fun _ => ""
    upper := upper
    isDigit := Char.isDigit }

/-- An open order for five shares, without a number. -/
def unnumberedRow (number side : String) : Row :=
  [("pdno", .text "AAPL"), ("odno", .text number), ("sll_buy_dvsn_cd", .text side),
    ("ft_ord_qty", .text "5"), ("nccs_qty", .text "5")]

/-- A single page of rows. -/
def onePage (rows : List Row) : Served :=
  fun _ => .ok { body := [("output", .list (rows.map .object))] }

/-- A purchase and a sale of one symbol, both without a number. -/
def unnumberedLedgers (_ : String) : ExchangeLedgers :=
  { openOrders := onePage [unnumberedRow "0000000000" "02", unnumberedRow "" "01"]
    history := onePage []
    reservations := onePage [] }

def accountQuery : OrderQuery :=
  { environment := "PROD", accountNo := "12345678-01", now := isoformat 0 }

theorem fiveText_upperKeeps : UpperKeeps fiveText := ⟨by decide +kernel, by decide +kernel⟩

theorem unnumbered_flags :
    (discoverOrders fiveText accountQuery ["NASD"] unnumberedLedgers).AllComplete :=
  ⟨by decide +kernel, by decide +kernel, by decide +kernel⟩

theorem discovery_complete_unnumbered :
    DiscoveryComplete fiveText accountQuery ["NASD"] unnumberedLedgers ↔
      Discoverable fiveText accountQuery ["NASD"] unnumberedLedgers :=
  discovery_complete_iff fiveText_upperKeeps unnumbered_flags

/-- The purchase is merged into the sale, and all flags are set. -/
theorem unnumbered_purchase_merged :
    (discoverOrders fiveText accountQuery ["NASD"] unnumberedLedgers).AllComplete ∧
      ¬ DiscoveryComplete fiveText accountQuery ["NASD"] unnumberedLedgers := by
  refine ⟨unnumbered_flags, ?_⟩
  intro hComplete
  have hRow : ListedRow (unnumberedLedgers "NASD").openOrders (unnumberedRow "0000000000" "02") :=
    ⟨0, _, fun _ hi => absurd hi (Nat.not_lt_zero _), rfl, List.mem_cons_self⟩
  obtain ⟨order, hParsed, snapshot, hSnapshot, hSame⟩ :=
    (hComplete "NASD" List.mem_cons_self _ _ _ .openOrders).2 _ hRow
  have hBought : ((parseBrokerOrderStatusSnapshot fiveText (rowQuery fiveText accountQuery)
      (unnumberedRow "0000000000" "02") .openOrders).toOption.map (fun order => order.side)) =
        some .buy := by
    decide +kernel
  rw [hParsed] at hBought
  have hSides : (discoverOrders fiveText accountQuery ["NASD"] unnumberedLedgers).snapshots.map
      (fun snapshot => snapshot.side) = [.sell] := by
    decide +kernel
  have hSold : snapshot.side = .sell := by
    have hMem := List.mem_map_of_mem (f := fun snapshot => snapshot.side) hSnapshot
    rw [hSides] at hMem
    exact List.mem_singleton.mp hMem
  have hBuy : order.side = .buy := Option.some.inj hBought
  rw [hSame.side, hBuy] at hSold
  cases hSold

end QuantApp.Services
