import QuantApp.Services.CardPersistence

/-!
# Watchlist toggles

`add_watchlist_candidate` and `remove_watchlist_candidate` of
`src/services/planning_membership_service.py`, on the canonical cards and the local Watchlist.
Both write a card back whole.  An addition that names a breakout price puts it on the card in
whatever column that stands, and both restore the Buylist membership of a Buylist card.
-/

namespace QuantApp.Services

open Core Verified

inductive MembershipError
  | symbolRequired
  | storageRequired
  | severalAccounts
  | otherAccount
  | executionEvidence
  | storageUnavailable
  | versionConflict

structure WatchlistItem where
  symbol : String
  name : String
  entryPrice : Option ℚ := none
  breakoutPrice : Option ℚ := none

/-- The stored cards and the items of the current Watchlist session. -/
structure PlanningWorld where
  cards : List CompleteCard
  watchlist : List WatchlistItem
  activeSessionDate : CalendarDate

/-- The arguments of a toggle, how its canonical read and write end, and the time.  A price is
`none` when it is `None` or not finite. -/
structure MembershipCall where
  symbol : String
  name : String := ""
  entryPrice : Option ℚ := none
  breakoutPrice : Option (Option ℚ) := none
  bufferPct : Option ℚ := some (1 / 1000)
  engine : Bool := true
  defaultAccountNo : String
  read : Except MembershipError Unit := .ok ()
  write : Except MembershipError Unit := .ok ()
  now : Instant

def finiteNonnegative (value : Option ℚ) (default : ℚ) : ℚ :=
  (value.filter (fun number => 0 ≤ number)).getD default

def optionalPositive (value : Option ℚ) : Option ℚ :=
  let number := finiteNonnegative value 0
  if 0 < number then some number else none

namespace MembershipCall

variable (call : MembershipCall)

def normalizedSymbol : String := upper (strip call.symbol)
def accountNo : String := strip call.defaultAccountNo

/-- `_canonical_card_for_selected_account`. -/
def canonicalCard (cards : List CompleteCard) :
    Except MembershipError (Option CompleteCard) := do
  call.read
  match cards.filter (fun row =>
    row.environment = "PROD" ∧ row.symbol = call.normalizedSymbol) with
  | [] => .ok none
  | [card] => if card.accountNo = call.accountNo then .ok (some card) else .error .otherAccount
  | _ => .error .severalAccounts

/-- `name or default`. -/
def nameOr (default : String) : String := if call.name = "" then default else call.name

end MembershipCall

def clearExecutableGeometry (card : CompleteCard) : CompleteCard :=
  { card with
    selectedOrbWindow := none
    positionPercent := 0
    plannedQuantity := 0
    targetPositionQuantity := 0
    entryOrbWindow := none
    entryOrbHigh := none
    entryOrbLow := none
    entryTrigger := none
    orbGeneration := {}
    stopAdr := none
    entryRuntimeStatus := none
    entryBlockReason := ""
    sessionDate := none
    nextRetryAt := none
    entryAttemptGroupId := ""
    entryAttemptCount := 0
    buyTodayNote := "" }

/-- `watchlist.add` and the price `add_watchlist_candidate` gives its item. -/
def addLocalItem (call : MembershipCall) (stored : CompleteCard) (items : List WatchlistItem) :
    List WatchlistItem :=
  let price := optionalPositive (call.breakoutPrice.getD stored.breakoutPrice)
  let symbol := call.normalizedSymbol
  match items.findIdx? (fun item => item.symbol = symbol) with
  | some index => items.modify index (fun item =>
      { item with
        name := call.nameOr symbol
        entryPrice := call.entryPrice
        breakoutPrice := price })
  | none => items ++ [⟨symbol, call.nameOr symbol, call.entryPrice, price⟩]

/-- The version a written card is stored as. -/
def MembershipCall.stored (call : MembershipCall) (card : CompleteCard) : CompleteCard :=
  { card with version := card.version + 1, updatedAt := call.now }

/-- `update_trade_card`, where no other write came between. -/
def updateTradeCard (call : MembershipCall) (card : CompleteCard) (cards : List CompleteCard) :
    List CompleteCard :=
  cards.map (fun row => if row.cardKey = card.cardKey then call.stored card else row)

/-- The card `add_watchlist_candidate` writes over the one it read. -/
def joinedWatchlist (call : MembershipCall) (session : CalendarDate) (current : CompleteCard) :
    CompleteCard :=
  let updated : CompleteCard := { current with
    watchlistMember := true
    watchlistSessionDate := some session
    name := call.nameOr (if current.name = "" then call.normalizedSymbol else current.name)
    breakoutPrice := (call.breakoutPrice.map optionalPositive).getD current.breakoutPrice }
  match current.boardStatus with
  | .watchlist => clearExecutableGeometry { updated with buylistMember := false }
  | .buylist => { updated with buylistMember := true }
  | _ => updated

/-- The card `remove_watchlist_candidate` writes over the one it read. -/
def leftWatchlist (call : MembershipCall) (current : CompleteCard) : CompleteCard :=
  let archived : CompleteCard := { current with
    watchlistMember := false
    watchlistSessionDate := none }
  match current.boardStatus with
  | .watchlist => { clearExecutableGeometry { archived with buylistMember := false } with
      boardStatusUpdatedAt := call.now }
  | .buylist => { archived with buylistMember := true }
  | _ => archived

/-- What a toggle leaves, and whether it raised. -/
abbrev Toggled := Except MembershipError Unit × PlanningWorld

/-- The end of both toggles once a card was read: its guard, its write, then the local list. -/
def writeOver (call : MembershipCall) (world : PlanningWorld) (current updated : CompleteCard)
    (watchlist : List WatchlistItem) : Toggled :=
  if current.boardStatus = .watchlist ∧ hasDurableExecutionEvidence current.toTradeCardState then
    (.error .executionEvidence, world)
  else
    match call.write with
    | .error error => (.error error, world)
    | .ok () => (.ok (), { world with
        cards := updateTradeCard call updated world.cards
        watchlist := watchlist })

def addWatchlistCandidate (call : MembershipCall) (world : PlanningWorld) : Toggled :=
  if call.normalizedSymbol = "" then (.error .symbolRequired, world)
  else if call.engine = false ∨ call.accountNo = "" then (.error .storageRequired, world)
  else
    match call.canonicalCard world.cards with
    | .error error => (.error error, world)
    | .ok none =>
      let card : CompleteCard :=
        { environment := "PROD"
          accountNo := call.accountNo
          symbol := call.normalizedSymbol
          name := call.nameOr call.normalizedSymbol
          watchlistMember := true
          watchlistSessionDate := some world.activeSessionDate
          breakoutPrice := optionalPositive (call.breakoutPrice.getD none)
          bufferPct := min 1 (finiteNonnegative call.bufferPct (1 / 1000))
          boardStatusUpdatedAt := call.now
          createdAt := call.now
          updatedAt := call.now }
      match call.write with
      | .error error => (.error error, world)
      | .ok () => (.ok (), { world with
          cards := world.cards ++ [card]
          watchlist := addLocalItem call card world.watchlist })
    | .ok (some current) =>
      let updated := joinedWatchlist call world.activeSessionDate current
      writeOver call world current updated (addLocalItem call updated world.watchlist)

def removeWatchlistCandidate (call : MembershipCall) (world : PlanningWorld) : Toggled :=
  let removed := if call.normalizedSymbol = "" then world.watchlist
    else world.watchlist.filter (fun item => item.symbol ≠ call.normalizedSymbol)
  if call.engine = false ∨ call.accountNo = "" then (.error .storageRequired, world)
  else
    match call.canonicalCard world.cards with
    | .error error => (.error error, world)
    | .ok none => (.ok (), { world with watchlist := removed })
    | .ok (some current) => writeOver call world current (leftWatchlist call current) removed

/-! ## What a toggle changes -/

/-- Two cards that differ in Watchlist membership, name, version and times only. -/
def SameIntent (card kept : CompleteCard) : Prop :=
  kept = { card with
    watchlistMember := kept.watchlistMember
    watchlistSessionDate := kept.watchlistSessionDate
    name := kept.name
    version := kept.version
    updatedAt := kept.updatedAt
    boardStatusUpdatedAt := kept.boardStatusUpdatedAt }

/-- What is asked of a toggle: cards outside the Watchlist column keep what is executed, one in
it with evidence is refused, and the local Watchlist waits for the canonical write, which is made
over the card there is or, by a toggle that creates, without one. -/
structure KeepsIntent (creates : Prop) (call : MembershipCall) (world : PlanningWorld)
    (toggled : Toggled) : Prop where
  intent : ∀ card ∈ world.cards, card.boardStatus ≠ .watchlist →
    ∃ kept ∈ toggled.2.cards, SameIntent card kept
  refused : ∀ card ∈ world.cards, card.environment = "PROD" → card.symbol = call.normalizedSymbol →
    card.boardStatus = .watchlist → hasDurableExecutionEvidence card.toTradeCardState = true →
    toggled.1 ≠ .ok () ∧ toggled.2 = world
  written : call.write ≠ .ok () → creates ∨ call.canonicalCard world.cards ≠ .ok none →
    toggled.2.watchlist = world.watchlist

/-- The toggle writes over a card outside the Watchlist column. -/
def MembershipCall.Rewrites (call : MembershipCall) (world : PlanningWorld)
    (card : CompleteCard) : Prop :=
  call.engine = true ∧ call.accountNo ≠ "" ∧ call.canonicalCard world.cards = .ok (some card) ∧
    call.write = .ok () ∧ card.boardStatus ≠ .watchlist

variable {call : MembershipCall} {world : PlanningWorld} {current updated card : CompleteCard}
  {creates : Prop} {error : MembershipError} {watchlist : List WatchlistItem}

theorem SameIntent.refl (card : CompleteCard) : SameIntent card card := rfl

theorem keepsIntent_of_error : KeepsIntent creates call world (.error error, world) where
  intent card hCard _ := ⟨card, hCard, SameIntent.refl card⟩
  refused _ _ _ _ _ _ := ⟨nofun, rfl⟩
  written _ _ := rfl

section

variable (hCurrent : call.canonicalCard world.cards = .ok (some current))
include hCurrent

/-- The card that was read is the only one of its symbol. -/
theorem mem_rows_iff :
    ∀ card, card ∈ world.cards ∧ card.environment = "PROD" ∧ card.symbol = call.normalizedSymbol ↔
      card = current := by
  obtain ⟨_, -, hCurrent⟩ := bind_eq_ok.mp hCurrent
  intro card
  have hMem : card ∈ world.cards ∧ card.environment = "PROD" ∧ card.symbol = call.normalizedSymbol ↔
      card ∈ world.cards.filter (fun row =>
        row.environment = "PROD" ∧ row.symbol = call.normalizedSymbol) := by
    simp [List.mem_filter]
  rw [hMem]
  split at hCurrent
  · cases hCurrent
  next found hRows =>
    split at hCurrent
    · cases hCurrent
      rw [hRows, List.mem_singleton]
    · cases hCurrent
  · cases hCurrent

theorem keepsIntent_writeOver {P : CompleteCard → Prop}
    (hStorage : call.engine = true ∧ call.accountNo ≠ "")
    (hKey : updated.cardKey = current.cardKey)
    (hSame : current.boardStatus ≠ .watchlist →
      (SameIntent current (call.stored updated) ↔ P current)) :
    KeepsIntent creates call world (writeOver call world current updated watchlist) ↔
      ∀ card, call.Rewrites world card → P card := by
  have hRewrites : (∀ card, call.Rewrites world card → P card) ↔ (call.write = .ok () →
      current.boardStatus ≠ .watchlist → SameIntent current (call.stored updated)) := by
    constructor
    · intro h hWrite hStatus
      exact (hSame hStatus).mpr (h current ⟨hStorage.1, hStorage.2, hCurrent, hWrite, hStatus⟩)
    · rintro h card ⟨-, -, hCard, hWrite, hStatus⟩
      cases hCurrent.symm.trans hCard
      exact (hSame hStatus).mp (h hWrite hStatus)
  rw [hRewrites]
  have hOnly := mem_rows_iff hCurrent
  obtain ⟨hMem, hEnvironment, hSymbol⟩ := (hOnly current).mpr rfl
  have hRow : ∀ card ∈ world.cards, card.cardKey = updated.cardKey → card = current := by
    intro card hCard hCardKey
    rw [hKey] at hCardKey
    simp only [TradeCardState.cardKey, Prod.mk.injEq] at hCardKey
    exact (hOnly card).mp ⟨hCard, hCardKey.1.trans hEnvironment, hCardKey.2.2.trans hSymbol⟩
  unfold writeOver
  split_ifs with hEvidence
  · exact ⟨fun _ _ h => absurd hEvidence.1 h, fun _ => keepsIntent_of_error⟩
  cases hWrite : call.write with
  | error => exact ⟨fun _ hOk => by simp at hOk, fun _ => keepsIntent_of_error⟩
  | ok =>
    constructor
    · intro h _ hStatus
      obtain ⟨kept, hKept, hIntent⟩ := h.intent current hMem hStatus
      obtain ⟨row, hRow, rfl⟩ := List.mem_map.mp hKept
      split_ifs at hIntent with hRowKey
      · exact hIntent
      · have hRowSame := congrArg (fun card => card.cardKey) hIntent
        exact absurd (hRowSame.trans hKey.symm) hRowKey
    · intro h
      refine ⟨fun card hCard hStatus => ?_, fun card hCard hProd hOwn hStatus hActive => ?_,
        fun hFailed => absurd hWrite hFailed⟩
      · refine ⟨_, List.mem_map_of_mem hCard, ?_⟩
        split_ifs with hRowKey
        · obtain rfl := hRow card hCard hRowKey
          exact h rfl hStatus
        · exact SameIntent.refl card
      · obtain rfl := (hOnly card).mp ⟨hCard, hProd, hOwn⟩
        exact absurd ⟨hStatus, hActive⟩ hEvidence

end

/-- Where no card was read, the cards there are stay. -/
theorem keepsIntent_without {toggled : Toggled}
    (hCurrent : call.canonicalCard world.cards = .ok none) (hCards : world.cards ⊆ toggled.2.cards)
    (hWritten : call.write ≠ .ok () → creates → toggled.2.watchlist = world.watchlist) :
    KeepsIntent creates call world toggled where
  intent card hCard _ := ⟨card, hCards hCard, SameIntent.refl card⟩
  refused card hCard hProd hOwn _ _ := by
    obtain ⟨_, -, hCurrent⟩ := bind_eq_ok.mp hCurrent
    split at hCurrent
    next hNone =>
      have hRow := List.filter_eq_nil_iff.mp hNone card hCard
      simp [hProd, hOwn] at hRow
    next => split at hCurrent <;> cases hCurrent
    next => cases hCurrent
  written hFailed hAttempted := hWritten hFailed (hAttempted.resolve_right (fun h => h hCurrent))

theorem sameIntent_joined_iff {session : CalendarDate} (hStatus : card.boardStatus ≠ .watchlist) :
    SameIntent card (call.stored (joinedWatchlist call session card)) ↔
      (call.breakoutPrice.map optionalPositive).getD card.breakoutPrice = card.breakoutPrice ∧
        (card.boardStatus = .buylist → card.buylistMember = true) := by
  unfold joinedWatchlist
  generalize (call.breakoutPrice.map optionalPositive).getD card.breakoutPrice = price
  dsimp only
  split
  next hWatchlist => exact absurd hWatchlist hStatus
  next hBuylist =>
    refine ⟨fun h => ⟨congrArg (fun card => card.breakoutPrice) h, fun _ => ?_⟩, ?_⟩
    · exact (congrArg (fun card => card.buylistMember) h).symm
    · rintro ⟨rfl, hMember⟩
      unfold SameIntent MembershipCall.stored
      rw [← hMember hBuylist]
  next _ hOther =>
    refine ⟨fun h => ⟨congrArg (fun card => card.breakoutPrice) h, fun h => absurd h hOther⟩, ?_⟩
    rintro ⟨rfl, -⟩
    rfl

theorem sameIntent_left_iff (hStatus : card.boardStatus ≠ .watchlist) :
    SameIntent card (call.stored (leftWatchlist call card)) ↔
      (card.boardStatus = .buylist → card.buylistMember = true) := by
  unfold leftWatchlist
  dsimp only
  split
  next hWatchlist => exact absurd hWatchlist hStatus
  next hBuylist =>
    refine ⟨fun h _ => (congrArg (fun card => card.buylistMember) h).symm, fun hMember => ?_⟩
    unfold SameIntent MembershipCall.stored
    rw [← hMember hBuylist]
  next _ hOther => exact ⟨fun _ h => absurd h hOther, fun _ => rfl⟩

/-- Cards outside the Watchlist column keep what is executed exactly where an addition names no
breakout price or the one the card has, and a Buylist card is a Buylist member. -/
theorem watchlist_toggles_keep_intent_iff (call : MembershipCall) (world : PlanningWorld) :
    (KeepsIntent True call world (addWatchlistCandidate call world) ↔
      ∀ card, call.normalizedSymbol ≠ "" → call.Rewrites world card →
        (call.breakoutPrice.map optionalPositive).getD card.breakoutPrice = card.breakoutPrice ∧
          (card.boardStatus = .buylist → card.buylistMember = true)) ∧
    (KeepsIntent False call world (removeWatchlistCandidate call world) ↔
      ∀ card, call.Rewrites world card →
        card.boardStatus = .buylist → card.buylistMember = true) := by
  by_cases hRefused : call.engine = false ∨ call.accountNo = ""
  · have hNone : ∀ card, ¬ call.Rewrites world card := fun card h =>
      hRefused.elim (fun hEngine => Bool.false_ne_true (hEngine.symm.trans h.1)) h.2.1
    simp only [addWatchlistCandidate, removeWatchlistCandidate, if_pos hRefused]
    split_ifs <;> simp [keepsIntent_of_error, hNone]
  have hStorage : call.engine = true ∧ call.accountNo ≠ "" := by simpa using hRefused
  simp only [addWatchlistCandidate, removeWatchlistCandidate, if_neg hRefused]
  cases hCurrent : call.canonicalCard world.cards with
  | error => split_ifs <;> simp [keepsIntent_of_error, MembershipCall.Rewrites, hCurrent]
  | ok found =>
    cases found with
    | none =>
      constructor
      · refine iff_of_true ?_ (by simp [MembershipCall.Rewrites, hCurrent])
        split_ifs
        · exact keepsIntent_of_error
        · cases hWrite : call.write with
          | error => exact keepsIntent_of_error
          | ok =>
            refine keepsIntent_without hCurrent ?_ (fun hFailed => absurd hWrite hFailed)
            exact List.subset_append_left _ _
      · refine iff_of_true ?_ (by simp [MembershipCall.Rewrites, hCurrent])
        exact keepsIntent_without hCurrent (List.Subset.refl _) (fun _ => nofun)
    | some =>
      constructor
      · split_ifs with hSymbol
        · exact iff_of_true keepsIntent_of_error (fun _ h => absurd hSymbol h)
        · rw [forall_comm, forall_prop_of_true hSymbol]
          exact keepsIntent_writeOver hCurrent hStorage
            (by unfold joinedWatchlist; dsimp only; split <;> rfl) sameIntent_joined_iff
      · exact keepsIntent_writeOver hCurrent hStorage
          (by unfold leftWatchlist; dsimp only; split <;> rfl) sameIntent_left_iff

def openApple : CompleteCard :=
  { environment := "PROD"
    accountNo := "12345678"
    symbol := "AAPL"
    boardStatus := .openPosition
    breakoutPrice := some 190
    positionRuntimeStatus := .opened
    brokerQuantity := 10 }

/-- A price given with the addition of a held symbol becomes that of its card. -/
theorem watchlist_add_moves_breakout : let call : MembershipCall :=
      { symbol := "aapl"
        breakoutPrice := some (some 210)
        defaultAccountNo := "12345678"
        now := 1 }
    ¬ KeepsIntent True call ⟨[openApple], [], 0⟩ (addWatchlistCandidate call ⟨[openApple], [],
      0⟩) := by
  intro call h
  obtain ⟨kept, hKept, hIntent⟩ := h.intent openApple (by simp) (by decide)
  have hMoved : ∀ card ∈ (addWatchlistCandidate call ⟨[openApple], [], 0⟩).2.cards,
      card.breakoutPrice = some 210 := by decide +kernel
  have hSame : kept.breakoutPrice = some 190 := congrArg (fun card => card.breakoutPrice) hIntent
  rw [hMoved kept hKept] at hSame
  exact absurd hSame (by decide)

end QuantApp.Services
