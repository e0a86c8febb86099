import QuantApp.Core.AccountBrokerSnapshot
import QuantApp.Services.BrokerPositions

/-!
# The broker's position query

What `get_positions` may answer, as a JSON value of any shape, and the readers of it:
`_refresh_orderable_quantity` and `_refresh_broker_position` of
`src/services/buyboard_runtime.py`, `extract_overseas_holdings` of
`src/services/position_manager.py`, and the holdings of `fetch_account_broker_snapshot` of
`src/services/account_reconciliation.py`.
-/

namespace QuantApp.Services

open Core Verified

variable {python : PythonText} {snapshot : JsonValue} {symbol : String} {quantity remaining : Int}

/-! ## Values -/

/-- A Python float. -/
inductive PythonFloat
  | finite (value : ℚ)
  | nan
  | infinite
  deriving DecidableEq

inductive JsonValue
  | null
  | boolean (value : Bool)
  | number (value : PythonFloat)
  | text (value : String)
  | list (items : List JsonValue)
  | object (fields : List (String × JsonValue))

/-- `float(text)`, with `none` for a `ValueError`, and `str` of what is not a text. -/
structure PythonText where
  floatOfText : String → Option PythonFloat
  str : JsonValue → String

/-- The truth of a value. -/
def JsonValue.truthy : JsonValue → Bool
  | .null => false
  | .boolean value => value
  | .number value => value ≠ .finite 0
  | .text value => value ≠ ""
  | .list items => !items.isEmpty
  | .object fields => !fields.isEmpty

/-- `value or default`. -/
def JsonValue.orElse (value default : JsonValue) : JsonValue :=
  if value.truthy then value else default

/-- The field of an object; `None` where there is none. -/
def fieldOf (fields : List (String × JsonValue)) (name : String) : JsonValue :=
  (fields.lookup name).getD .null

/-- `value.get(name)`, which only an object has. -/
def JsonValue.get (value : JsonValue) (name : String) : Except Raised JsonValue :=
  match value with
  | .object fields => .ok (fieldOf fields name)
  | _ => .error { cls := .attributeError, message := "object has no attribute 'get'" }

/-- What a `for` loop over the value goes through. -/
def JsonValue.elements : JsonValue → Except Raised (List JsonValue)
  | .list items => .ok items
  | .object fields => .ok (fields.map (fun field => .text field.1))
  | .text value => .ok (value.toList.map (fun c => .text (String.singleton c)))
  | _ => .error { cls := .typeError, message := "object is not iterable" }

/-- `int(float(value))`: `none` where a `TypeError` or `ValueError` is raised. -/
def intOfFloat (python : PythonText) (value : JsonValue) : Except Raised (Option Int) :=
  let number :=
    match value with
    | .number value => some value
    | .boolean value => some (.finite (if value then 1 else 0))
    | .text value => python.floatOfText value
    | _ => none
  match number with
  | none => .ok none
  | some .nan => .ok none
  | some .infinite =>
    .error { cls := .overflowError, message := "cannot convert float infinity to integer" }
  | some (.finite value) => .ok (some (value.num.tdiv value.den))

/-- `str(value).strip().upper()` of a symbol. -/
def symbolOf (python : PythonText) (value : JsonValue) : String :=
  match value with
  | .text value => upper (strip value)
  | other => upper (strip (python.str other))

/-! ## The readers -/

/-- `((snapshot or {}).get("overseas") or {}).get("holdings") or []`. -/
def overseasRows (snapshot : JsonValue) : Except Raised (List JsonValue) := do
  let overseas ← (snapshot.orElse (.object [])).get "overseas"
  let holdings ← (overseas.orElse (.object [])).get "holdings"
  (holdings.orElse (.list [])).elements

/-- The symbol of a row; only an object has one. -/
def rowSymbol (python : PythonText) (row : JsonValue) : Except Raised String :=
  match row with
  | .object fields => .ok (symbolOf python ((fields.lookup "symbol").getD (.text "")))
  | _ => .error { cls := .attributeError, message := "object has no attribute 'get'" }

/-- `holding.get("orderable_quantity", holding.get("quantity", 0)) or 0` of a row. -/
def orderableField (row : JsonValue) : JsonValue :=
  match row with
  | .object fields =>
    let quantity := (fields.lookup "quantity").getD (.number (.finite 0))
    ((fields.lookup "orderable_quantity").getD quantity).orElse (.number (.finite 0))
  | _ => .number (.finite 0)

/-- The loop of `_refresh_orderable_quantity`. -/
def orderableIn (python : PythonText) (symbol : String) :
    List JsonValue → Except Raised Int
  | [] => .ok 0
  | row :: rows => do
    if (← rowSymbol python row) = symbol then
      return (← intOfFloat python (orderableField row)).getD 0
    orderableIn python symbol rows

def refreshOrderableQuantity (python : PythonText) (symbol : String) (snapshot : JsonValue) :
    Except Raised Int := do
  let rows ← overseasRows snapshot
  orderableIn python (upper symbol) rows

/-- `float(value or 0.0)`, where no number, nan and infinity count as zero. -/
def floatOrZero (python : PythonText) (value : JsonValue) : ℚ :=
  match value.orElse (.number (.finite 0)) with
  | .number (.finite value) => value
  | .boolean value => if value then 1 else 0
  | .text value =>
    match python.floatOfText value with
    | some (.finite value) => value
    | _ => 0
  | _ => 0

/-- The holding of a row, if `extract_overseas_holdings` takes it. -/
def holdingOfRow (python : PythonText) (row : JsonValue) : Except Raised (Option BrokerHolding) :=
  match row with
  | .object fields => do
    let quantity ← intOfFloat python
      (((fields.lookup "quantity").getD (.number (.finite 0))).orElse (.number (.finite 0)))
    let symbol := symbolOf python ((fields.lookup "symbol").getD (.text ""))
    match quantity with
    | none => pure none
    | some quantity =>
      if quantity ≤ 0 ∨ symbol = "" then pure none
      else pure (some
        { symbol := symbol
          quantity := quantity
          averagePrice := floatOrZero python
            ((fields.lookup "average_price").getD (.number (.finite 0))) })
  | _ => .ok none

def extractOverseasHoldings (python : PythonText) (snapshot : JsonValue) :
    Except Raised (List BrokerHolding) := do
  let rows ← overseasRows snapshot
  let holdings ← rows.mapM (holdingOfRow python)
  pure (holdings.filterMap id)

def refreshBrokerPosition (python : PythonText) (card : TradeCardState) (snapshot : JsonValue) :
    Except Raised (Option BrokerHolding) :=
  (fun holdings => holdings.find? (·.symbol = card.symbol)) <$>
    extractOverseasHoldings python snapshot

/-! ## The account snapshot -/

def parseInt (python : PythonText) (value : JsonValue) : Except Raised (Option Int) :=
  match value with
  | .null => .ok none
  | .text "" => .ok none
  | value => (Option.map (max 0)) <$> intOfFloat python value

theorem parseInt_nonneg {value : JsonValue} (h : parseInt python value = .ok (some quantity)) :
    0 ≤ quantity := by
  unfold parseInt at h
  split at h
  · cases h
  · cases h
  · obtain ⟨read, _, hFloor⟩ := map_eq_ok.mp h
    cases read with
    | none => cases hFloor
    | some read =>
      cases hFloor
      exact le_max_left 0 read

/-- The symbol of a row of the account. -/
def accountSymbol (python : PythonText) (fields : List (String × JsonValue)) : String :=
  symbolOf python
    (((fieldOf fields "symbol").orElse (fieldOf fields "ovrs_pdno")).orElse (.text ""))

/-- The held quantity of a row of the account. -/
def accountQuantity (python : PythonText) (fields : List (String × JsonValue)) :
    Except Raised (Option Int) :=
  parseInt python ((fields.lookup "quantity").getD (fieldOf fields "ovrs_cblc_qty"))

/-- The names a row may give the sellable quantity, in the order they are looked for. -/
def sellableNames : List String :=
  ["sellable_quantity", "orderable_quantity", "ord_psbl_qty", "ovrs_ord_psbl_qty"]

/-- The sellable quantity of a row. -/
def accountSellable (python : PythonText) (fields : List (String × JsonValue)) :
    Except Raised { sellable : Option Int // ∀ quantity ∈ sellable, 0 ≤ quantity } :=
  match sellableNames.findSome? (fun name => fields.lookup name) with
  | none => .ok ⟨none, by simp⟩
  | some value =>
    match h : parseInt python value with
    | .error error => .error error
    | .ok none => .ok ⟨none, by simp⟩
    | .ok (some quantity) => .ok ⟨some quantity, by simpa using parseInt_nonneg h⟩

/-- The holding of a row, if `_extract_account_holdings` takes it. -/
def accountHoldingOfRow (python : PythonText) (row : JsonValue) :
    Except Raised (Option AccountHoldingSnapshot) :=
  match row with
  | .object fields => do
    match h : accountQuantity python fields with
    | .error error => .error error
    | .ok none => .ok none
    | .ok (some quantity) =>
      if accountSymbol python fields = "" ∨ quantity ≤ 0 then .ok none
      else do
        let sellable ← accountSellable python fields
        pure (some
          { symbol := accountSymbol python fields
            quantity := quantity
            averagePrice := floatOrZero python
              ((fields.lookup "average_price").getD
                ((fields.lookup "pchs_avg_pric").getD (.number (.finite 0))))
            sellableQuantity := sellable.val
            quantityNonneg := parseInt_nonneg h
            sellableNonneg := sellable.property })
  | _ => .ok none

def extractAccountHoldings (python : PythonText) (rows : List JsonValue) :
    Except Raised (List AccountHoldingSnapshot) :=
  (fun holdings => holdings.filterMap id) <$> rows.mapM (accountHoldingOfRow python)

/-- The rows of an answer whose holdings are a list. -/
def listedRows (snapshot : JsonValue) : Except Raised (List JsonValue) :=
  match snapshot with
  | .object account =>
    match fieldOf account "overseas" with
    | .object overseas =>
      match fieldOf overseas "holdings" with
      | .list rows => .ok rows
      | _ => noHoldings
    | _ => noHoldings
  | _ => .error { cls := .valueError, message := "position snapshot was not a mapping" }
where
  noHoldings : Except Raised (List JsonValue) :=
    .error
      { cls := .valueError
        message := "position snapshot did not contain overseas holdings" }

/-- The holdings of `fetch_account_broker_snapshot`; an exception leaves them incomplete. -/
def fetchHoldings (python : PythonText) (answer : Except Raised JsonValue) :
    Except Raised (List AccountHoldingSnapshot) := do
  let snapshot ← answer
  let rows ← listedRows snapshot
  extractAccountHoldings python rows

/-- The snapshot has the holdings the answer gives it. -/
def FetchedFrom (python : PythonText) (answer : Except Raised JsonValue)
    (snapshot : AccountBrokerSnapshot) : Prop :=
  match fetchHoldings python answer with
  | .ok holdings =>
    snapshot.completeness.holdingsComplete = true ∧ snapshot.holdings = holdings
  | .error _ => snapshot.completeness.holdingsComplete = false ∧ snapshot.holdings = []

/-! ## What a reported position is -/

theorem refreshBrokerPosition_positive {card : TradeCardState} {holding : BrokerHolding}
    (h : refreshBrokerPosition python card snapshot = .ok (some holding)) :
    0 < holding.quantity := by
  obtain ⟨holdings, hHoldings, hFound⟩ := map_eq_ok.mp h
  obtain ⟨rows, _, hRest⟩ := bind_eq_ok.mp hHoldings
  obtain ⟨taken, hTaken, hPure⟩ := bind_eq_ok.mp hRest
  cases hPure
  have hMem : some holding ∈ taken := by
    have hIn := List.mem_of_find?_eq_some hFound
    simpa using hIn
  obtain ⟨row, _, hRow⟩ := forall₂_mem_right (mapM_forall₂ hTaken) hMem
  unfold holdingOfRow at hRow
  split at hRow
  · obtain ⟨quantity, _, hMade⟩ := bind_eq_ok.mp hRow
    cases quantity with
    | none => cases hMade
    | some quantity =>
      dsimp only at hMade
      split at hMade
      · cases hMade
      · rename_i hKept
        cases hMade
        show 0 < quantity
        omega
  · cases hRow

/-! ## What an answer says -/

/-- The row is one of the symbol. -/
def Names (python : PythonText) (symbol : String) (row : JsonValue) : Prop :=
  ∃ fields, row = .object fields ∧ accountSymbol python fields = symbol

/-- What the row says of the held quantity is `quantity`. -/
def Holds (python : PythonText) (row : JsonValue) (quantity : Int) : Prop :=
  ∃ fields, row = .object fields ∧ accountQuantity python fields = .ok (some quantity)

/-- The answer lists the account's holdings and reports none of the symbol: it has no row
of the symbol, or rows of quantity zero. -/
def ReportsFlat (python : PythonText) (symbol : String) (snapshot : JsonValue) : Prop :=
  ∃ rows, listedRows snapshot = .ok rows ∧
    ∀ row ∈ rows, Names python symbol row → Holds python row 0

/-- The answer lists a row of the symbol with a positive held quantity. -/
def ListsHeld (python : PythonText) (symbol : String) (snapshot : JsonValue) : Prop :=
  ∃ rows, listedRows snapshot = .ok rows ∧
    ∃ row ∈ rows, Names python symbol row ∧ ∃ quantity, 0 < quantity ∧ Holds python row quantity

/-- Where `_refresh_orderable_quantity` comes to among the rows: the first that is not one
of another symbol. -/
def ComesTo (python : PythonText) (symbol : String) (snapshot row : JsonValue) : Prop :=
  ∃ before after, overseasRows snapshot = .ok (before ++ row :: after) ∧
    ∀ other ∈ before, ∃ name, rowSymbol python other = .ok name ∧ name ≠ symbol

/-- The answer lists shares of the symbol that can be ordered. -/
def ListsOrderable (python : PythonText) (symbol : String) (snapshot : JsonValue) : Prop :=
  ∃ row quantity, ComesTo python symbol snapshot row ∧ rowSymbol python row = .ok symbol ∧
    intOfFloat python (orderableField row) = .ok (some quantity) ∧ 0 < quantity

/-- The answer has a shape an exception is raised on: its holdings are nothing to loop
over, or the loop comes to a row that is no object or has an infinite quantity. -/
def Unreadable (python : PythonText) (symbol : String) (snapshot : JsonValue) : Prop :=
  (∃ error, overseasRows snapshot = .error error) ∨
    ∃ row, ComesTo python symbol snapshot row ∧
      ((∃ error, rowSymbol python row = .error error) ∨
        (rowSymbol python row = .ok symbol ∧
          ∃ error, intOfFloat python (orderableField row) = .error error))

theorem orderableIn_append {before : List JsonValue} {rows : List JsonValue}
    (hBefore : ∀ other ∈ before, ∃ name, rowSymbol python other = .ok name ∧ name ≠ symbol) :
    orderableIn python symbol (before ++ rows) = orderableIn python symbol rows := by
  induction before with
  | nil => rfl
  | cons other before ih =>
    obtain ⟨name, hName, hOther⟩ := hBefore other List.mem_cons_self
    have hRest := ih (fun found hFound => hBefore found (List.mem_cons_of_mem _ hFound))
    show orderableIn python symbol (other :: (before ++ rows)) = _
    rw [orderableIn, hName]
    simpa [bind, Except.bind, hOther] using hRest

theorem refreshOrderableQuantity_comesTo {row : JsonValue}
    (h : ComesTo python (upper symbol) snapshot row) :
    ∃ after, refreshOrderableQuantity python symbol snapshot =
      orderableIn python (upper symbol) (row :: after) := by
  obtain ⟨before, after, hRows, hBefore⟩ := h
  refine ⟨after, ?_⟩
  unfold refreshOrderableQuantity
  rw [hRows]
  exact orderableIn_append hBefore

/-- Shares that can be ordered are read as a positive quantity. -/
theorem refreshOrderableQuantity_positive (hListed : ListsOrderable python (upper symbol) snapshot)
    (h : refreshOrderableQuantity python symbol snapshot = .ok remaining) : 0 < remaining := by
  obtain ⟨row, quantity, hComes, hRow, hQuantity, hPositive⟩ := hListed
  obtain ⟨after, hRead⟩ := refreshOrderableQuantity_comesTo hComes
  rw [hRead] at h
  unfold orderableIn at h
  rw [hRow, hQuantity] at h
  simp only [bind, Except.bind, if_true, pure, Except.pure, Option.getD_some, Except.ok.injEq] at h
  omega

theorem refreshOrderableQuantity_unreadable
    (hUnreadable : Unreadable python (upper symbol) snapshot) :
    refreshOrderableQuantity python symbol snapshot ≠ .ok remaining := by
  intro h
  rcases hUnreadable with ⟨error, hError⟩ | ⟨row, hComes, hRow⟩
  · obtain ⟨rows, hRows, _⟩ := bind_eq_ok.mp h
    rw [hError] at hRows
    cases hRows
  · obtain ⟨after, hRead⟩ := refreshOrderableQuantity_comesTo hComes
    rw [hRead] at h
    unfold orderableIn at h
    rcases hRow with ⟨error, hError⟩ | ⟨hNamed, error, hError⟩
    · rw [hError] at h
      cases h
    · rw [hNamed, hError] at h
      simp [bind, Except.bind] at h

/-! ## What the account snapshot keeps -/

section Account

variable {python : PythonText} {symbol : String} {fields : List (String × JsonValue)}
  {row : JsonValue} {holding : AccountHoldingSnapshot} {answer : JsonValue}
  {snapshot : AccountBrokerSnapshot}

theorem accountHoldingOfRow_positive
    (h : accountHoldingOfRow python row = .ok (some holding)) : 0 < holding.quantity := by
  unfold accountHoldingOfRow at h
  split at h
  · split at h
    · cases h
    · cases h
    · split at h
      · cases h
      · rename_i hTaken
        obtain ⟨_, _, hMade⟩ := bind_eq_ok.mp h
        cases hMade
        exact not_le.mp (fun hEmpty => hTaken (Or.inr hEmpty))
  · cases h

/-- A row of the symbol with a positive quantity becomes a holding of it. -/
theorem accountHoldingOfRow_taken {taken : Option AccountHoldingSnapshot}
    (hSymbol : accountSymbol python fields = symbol) (hNamed : symbol ≠ "")
    (hQuantity : accountQuantity python fields = .ok (some quantity)) (hPositive : 0 < quantity)
    (h : accountHoldingOfRow python (.object fields) = .ok taken) :
    ∃ holding, taken = some holding ∧ holding.symbol = symbol := by
  unfold accountHoldingOfRow at h
  dsimp only at h
  split at h
  · cases h
  · rename_i hNone
    rw [hQuantity] at hNone
    cases hNone
  · rename_i read hRead
    rw [hQuantity] at hRead
    cases hRead
    rw [if_neg (by simp [hSymbol, hNamed, hPositive])] at h
    obtain ⟨sellable, _, hMade⟩ := bind_eq_ok.mp h
    cases hMade
    exact ⟨_, rfl, hSymbol⟩

/-- Every holding of the snapshot is positive, and a row of the symbol with a positive
quantity gives it one. -/
theorem held_of_listed (hFetched : FetchedFrom python (.ok answer) snapshot)
    (hComplete : snapshot.completeness.holdingsComplete = true) (hNamed : symbol ≠ "")
    (hHeld : ListsHeld python symbol answer) :
    (∃ holding ∈ snapshot.holdings, holding.symbol = symbol) ∧
      ∀ holding ∈ snapshot.holdings, 0 < holding.quantity := by
  unfold FetchedFrom at hFetched
  split at hFetched
  swap
  · rw [hFetched.1] at hComplete
    cases hComplete
  rename_i holdings hFetch
  rw [hFetched.2]
  obtain ⟨_, hAnswer, hRest⟩ := bind_eq_ok.mp hFetch
  cases hAnswer
  obtain ⟨rows, hRows, hExtracted⟩ := bind_eq_ok.mp hRest
  obtain ⟨taken, hTaken, hKept⟩ := map_eq_ok.mp hExtracted
  have hOneByOne := mapM_forall₂ hTaken
  subst hKept
  constructor
  · obtain ⟨listed, hListed, row, hRow, ⟨fields, rfl, hSymbol⟩, quantity, hPositive, other,
      hSame, hQuantity⟩ := hHeld
    cases hSame
    rw [hRows] at hListed
    cases hListed
    obtain ⟨result, hResult, hOf⟩ := forall₂_mem_left hOneByOne hRow
    obtain ⟨holding, rfl, hHolding⟩ :=
      accountHoldingOfRow_taken hSymbol hNamed hQuantity hPositive hOf
    exact ⟨holding, by simpa using hResult, hHolding⟩
  · intro holding hHolding
    have hIn : some holding ∈ taken := by simpa using hHolding
    obtain ⟨row, _, hOf⟩ := forall₂_mem_right hOneByOne hIn
    exact accountHoldingOfRow_positive hOf

end Account

end QuantApp.Services
