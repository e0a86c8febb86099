import QuantApp.Services.ClosedCycle
import QuantApp.Services.PositionSnapshots

/-!
# The arguments of a trade card

`TradeCardState.__post_init__` of `src/core/trade_card_state.py` normalizes about a hundred
constructor arguments with a handful of rules, and `from_dict` reads the entries of a
payload with a few more.  Each rule is one function here, with what it makes of a value
that is normal already.  An argument has the type its field declares, or is `None`; an
enumeration, a date and a timestamp may be given by their text.
-/

namespace QuantApp.Services

open Core Verified

/-! ## Numbers -/

def finiteFloat (value : Option PythonFloat) (default : Option ℚ) : Option ℚ :=
  match value with
  | some (.finite number) => some number
  | some .nan => default
  | some .infinite => default
  | none => default

/-- `float(_finite_float(value, default))`, for a default that is a number. -/
def finiteFloatOr (value : Option PythonFloat) (default : ℚ) : ℚ :=
  (finiteFloat value (some default)).getD default

theorem eq_none_of_finiteFloat {value : Option PythonFloat} {default : Option ℚ}
    (h : finiteFloat value default = none) : default = none := by
  unfold finiteFloat at h
  split at h
  · cases h
  all_goals exact h

@[simp] theorem finiteFloat_map_finite (value default : Option ℚ) :
    finiteFloat (value.map .finite) default = value.or default := by
  cases value <;> rfl

@[simp] theorem finiteFloatOr_finite (number default : ℚ) :
    finiteFloatOr (some (.finite number)) default = number := rfl

/-- `int(value or default)`. -/
def intOr (value : Option Int) (default : Int) : Int :=
  if value.getD 0 = 0 then default else value.getD 0

theorem intOr_ne_zero {default : Int} (value : Option Int) (hDefault : default ≠ 0) :
    intOr value default ≠ 0 := by
  unfold intOr
  split <;> assumption

theorem intOr_of_ne_zero {number : Int} (default : Int) (h : number ≠ 0) :
    intOr (some number) default = number :=
  if_neg h

/-! ## Texts -/

private theorem isPythonSpace_toUpper (c : Char) : isPythonSpace c.toUpper = isPythonSpace c := by
  by_cases hLower : 'a'.val ≤ c.val ∧ c.val ≤ 'z'.val
  · have hVal : c.toUpper.val = c.val + ('A'.val - 'a'.val) := by
      unfold Char.toUpper
      rw [dif_pos hLower]
    have hNat : c.toUpper.toNat = c.toNat - 32 ∧ 97 ≤ c.toNat ∧ c.toNat ≤ 122 := by
      obtain ⟨hFrom, hTo⟩ := hLower
      simp only [Char.toNat, hVal, UInt32.le_iff_toNat_le, UInt32.toNat_add, Char.reduceVal] at *
      simp at *
      omega
    obtain ⟨hUpper, hFrom, hTo⟩ := hNat
    simp only [isPythonSpace, hUpper, List.mem_cons, List.not_mem_nil, or_false]
    congr 1
    apply propext
    omega
  · have hSame : c.toUpper = c := by
      unfold Char.toUpper
      rw [dif_neg hLower]
    rw [hSame]

theorem strip_upper (text : String) : strip (upper text) = upper (strip text) := by
  have hSpace : isPythonSpace ∘ Char.toUpper = isPythonSpace :=
    funext fun c => isPythonSpace_toUpper c
  unfold strip upper
  rw [String.toList_ofList, String.toList_ofList, List.dropWhile_map, hSpace,
    ← List.map_reverse, List.dropWhile_map, hSpace, ← List.map_reverse]

/-- The key of an environment: `None` and the empty text are the production one. -/
def environmentKey (environment : Option String) : String :=
  let given := environment.getD ""
  upper (strip (if given = "" then "PROD" else given))

/-- The symbol of a card. -/
def cardSymbolKey (symbol : Option String) : String := upper (strip (symbol.getD ""))

theorem cardSymbolKey_cardSymbolKey (symbol : Option String) :
    cardSymbolKey (some (cardSymbolKey symbol)) = cardSymbolKey symbol := by
  show upper (strip (upper (strip (symbol.getD "")))) = _
  rw [strip_upper, upper_upper, strip_strip]
  rfl

/-- The text of an opening-range window, when one is selected. -/
def orbWindow (window : Option String) : Option String :=
  match window with
  | none => none
  | some text => if text = "" then none else some (strip text)

/-! ## Enumerations -/

def entryRuntimeStatusText : EntryRuntimeStatus → String
  | .orbForming => "ORB_FORMING"
  | .waitingBreakout => "WAITING_BREAKOUT"
  | .armed => "ARMED"
  | .executeReady => "EXECUTE_READY"
  | .riskInvalid => "RISK_INVALID"
  | .waitingForCapital => "WAITING_FOR_CAPITAL"
  | .retryCooldown => "RETRY_COOLDOWN"
  | .orderPending => "ORDER_PENDING"
  | .replacePending => "REPLACE_PENDING"
  | .cancelPending => "CANCEL_PENDING"
  | .dataUnavailable => "DATA_UNAVAILABLE"
  | .sessionComplete => "SESSION_COMPLETE"

def positionRuntimeStatusText : PositionRuntimeStatus → String
  | .none_ => "NONE"
  | .opened => "OPEN"
  | .entryCompleting => "ENTRY_COMPLETING"
  | .partialExitPending => "PARTIAL_EXIT_PENDING"
  | .exitAllRequired => "EXIT_ALL_REQUIRED"
  | .liquidating => "LIQUIDATING"
  | .queuedForOpen => "QUEUED_FOR_OPEN"
  | .closed => "CLOSED"
  | .reconciling => "RECONCILING"

def stopTypeText : StopType → String
  | .orbLow => "ORB_LOW"
  | .breakeven => "BREAKEVEN"
  | .manualPrice => "MANUAL_PRICE"

def boardStatuses : List BoardStatus :=
  [.watchlist, .buylist, .buyToday, .entryPending, .openPosition, .partialSell, .sellAll, .closed]

def entryRuntimeStatuses : List EntryRuntimeStatus :=
  [.orbForming, .waitingBreakout, .armed, .executeReady, .riskInvalid, .waitingForCapital,
    .retryCooldown, .orderPending, .replacePending, .cancelPending, .dataUnavailable,
    .sessionComplete]

def positionRuntimeStatuses : List PositionRuntimeStatus :=
  [.none_, .opened, .entryCompleting, .partialExitPending, .exitAllRequired, .liquidating,
    .queuedForOpen, .closed, .reconciling]

def stopTypes : List StopType := [.orbLow, .breakeven, .manualPrice]

/-- A member of an enumeration, or a text. -/
inductive EnumArgument (α : Type)
  | member (value : α)
  | text (found : String)

def enumFromValue {α : Type} (members : List α) (text : α → String) (default : α) :
    EnumArgument α → α
  | .member value => value
  | .text found =>
    (members.find? (fun member => text member = upper (strip found))).getD default

def boardStatusOf : EnumArgument BoardStatus → BoardStatus :=
  enumFromValue boardStatuses boardStatusText .watchlist

def entryRuntimeStatusOf : EnumArgument EntryRuntimeStatus → EntryRuntimeStatus :=
  enumFromValue entryRuntimeStatuses entryRuntimeStatusText .orbForming

def positionRuntimeStatusOf : EnumArgument PositionRuntimeStatus → PositionRuntimeStatus :=
  enumFromValue positionRuntimeStatuses positionRuntimeStatusText .none_

def stopTypeOf : EnumArgument StopType → StopType := enumFromValue stopTypes stopTypeText .orbLow

@[simp] theorem boardStatusOf_text (status : BoardStatus) :
    boardStatusOf (.text (boardStatusText status)) = status := by
  cases status <;> decide +kernel

@[simp] theorem entryRuntimeStatusOf_text (status : EntryRuntimeStatus) :
    entryRuntimeStatusOf (.text (entryRuntimeStatusText status)) = status := by
  cases status <;> decide +kernel

@[simp] theorem positionRuntimeStatusOf_text (status : PositionRuntimeStatus) :
    positionRuntimeStatusOf (.text (positionRuntimeStatusText status)) = status := by
  cases status <;> decide +kernel

@[simp] theorem stopTypeOf_text (stopType : StopType) :
    stopTypeOf (.text (stopTypeText stopType)) = stopType := by
  cases stopType <;> decide +kernel

private theorem map_text {α : Type} {text : α → String} {read : EnumArgument α → α}
    (h : ∀ member, read (.text (text member)) = member) (value : Option α) :
    ((value.map text).map EnumArgument.text).map read = value := by
  cases value with
  | none => rfl
  | some => simp [h]

@[simp] theorem map_boardStatusOf (status : Option BoardStatus) :
    ((status.map boardStatusText).map EnumArgument.text).map boardStatusOf = status :=
  map_text boardStatusOf_text status

@[simp] theorem map_entryRuntimeStatusOf (status : Option EntryRuntimeStatus) :
    ((status.map entryRuntimeStatusText).map EnumArgument.text).map entryRuntimeStatusOf =
      status :=
  map_text entryRuntimeStatusOf_text status

@[simp] theorem map_stopTypeOf (stopType : Option StopType) :
    ((stopType.map stopTypeText).map EnumArgument.text).map stopTypeOf = stopType :=
  map_text stopTypeOf_text stopType

/-! ## Dates and timestamps -/

/-- The `ValueError` of `fromisoformat`. -/
def invalidIsoFormat (text : String) : Raised :=
  { cls := .valueError, message := "Invalid isoformat string: '" ++ text ++ "'" }

/-- A timestamp: nothing, a `datetime`, or a text. -/
inductive TimestampArgument
  | absent
  | datetime (reading : IsoReading)
  | text (iso : IsoText)

/-- `_parse_timestamp`, when the clock shows `now`. -/
def parseTimestamp (now : Instant) : TimestampArgument → Except Raised Instant
  | .absent => .ok now
  | .datetime reading => .ok reading.assumeUtc
  | .text iso =>
    if iso.text = "" then .ok now
    else
      match iso.reading with
      | some reading => .ok reading.assumeUtc
      | none => .error (invalidIsoFormat iso.text)

/-- `_parse_timestamp(value) if value else None`. -/
def optionalTimestamp : TimestampArgument → Except Raised (Option Instant)
  | .absent => .ok none
  | .datetime reading => .ok (some reading.assumeUtc)
  | .text iso => if iso.text = "" then .ok none else some <$> parseTimestamp 0 (.text iso)

/-- A date text with what `date.fromisoformat` reads in it; `none` is a text it refuses. -/
structure DateText where
  text : String
  reading : Option CalendarDate

/-- `date.isoformat()`, with its reading. -/
def isoDateText (day : CalendarDate) : DateText := { text := isoDate day, reading := some day }

/-- A date: nothing, a `date`, or a text. -/
inductive DateArgument
  | absent
  | date (day : CalendarDate)
  | text (iso : DateText)

def parseOptionalDate : DateArgument → Except Raised (Option CalendarDate)
  | .absent => .ok none
  | .date day => .ok (some day)
  | .text iso =>
    if iso.text = "" then .ok none
    else
      match iso.reading with
      | some day => .ok (some day)
      | none => .error (invalidIsoFormat iso.text)

theorem isoDate_ne_empty (day : CalendarDate) : isoDate day ≠ "" := by
  intro hEmpty
  have hLength := congrArg String.length hEmpty
  simp [isoDate] at hLength

theorem isoformat_ne_empty (instant : Instant) : (isoformat instant).text ≠ "" := by
  intro hEmpty
  have hLength := congrArg String.length hEmpty
  simp [isoformat] at hLength

@[simp] theorem parseTimestamp_isoformat (now instant : Instant) :
    parseTimestamp now (.text (isoformat instant)) = .ok instant := by
  simp only [parseTimestamp, if_neg (isoformat_ne_empty instant), isoformat_reading,
    IsoReading.assumeUtc]

/-- The argument of an optional text. -/
def TimestampArgument.ofText : Option IsoText → TimestampArgument
  | none => .absent
  | some iso => .text iso

/-- The argument of an optional text. -/
def DateArgument.ofText : Option DateText → DateArgument
  | none => .absent
  | some iso => .text iso

@[simp] theorem TimestampArgument.ofText_some (iso : IsoText) :
    TimestampArgument.ofText (some iso) = .text iso := rfl

@[simp] theorem optionalTimestamp_isoformat (instant : Option Instant) :
    optionalTimestamp (.ofText (instant.map isoformat)) = .ok instant := by
  cases instant with
  | none => rfl
  | some instant =>
    simp only [Option.map_some, TimestampArgument.ofText, optionalTimestamp,
      if_neg (isoformat_ne_empty instant), parseTimestamp_isoformat]
    rfl

@[simp] theorem parseOptionalDate_isoDate (day : Option CalendarDate) :
    parseOptionalDate (.ofText (day.map isoDateText)) = .ok day := by
  cases day with
  | none => rfl
  | some day =>
    simp only [Option.map_some, DateArgument.ofText, parseOptionalDate, isoDateText,
      if_neg (isoDate_ne_empty day)]

/-! ## Entries of a payload -/

/-- What a payload holds under a key: no entry, `None`, or a value. -/
inductive Stored (α : Type)
  | missing
  | null
  | value (stored : α)

namespace Stored

variable {α : Type}

/-- The entry of an optional field. -/
def ofOption : Option α → Stored α
  | none => .null
  | some stored => .value stored

/-- `data.get(key)`. -/
def get : Stored α → Option α
  | .missing => none
  | .null => none
  | .value stored => some stored

/-- `data.get(key, default)`: a stored `None` stays. -/
def getOr (default : α) : Stored α → Option α
  | .missing => some default
  | .null => none
  | .value stored => some stored

/-- `str(data.get(key, default))`. -/
def str (default : String) : Stored String → String
  | .missing => default
  | .null => "None"
  | .value text => text

/-- `data.get(key, member)`, for a field that is always set: the text of `None` is looked
up like any other. -/
def enum (member : α) : Stored String → EnumArgument α
  | .missing => .member member
  | .null => .text "None"
  | .value text => .text text

/-- `data.get(key) or _utc_now()`. -/
def orNow (now : Instant) (stored : Stored IsoText) : TimestampArgument :=
  match stored.get with
  | none => .datetime (.aware now)
  | some iso => if iso.text = "" then .datetime (.aware now) else .text iso

@[simp] theorem get_value (stored : α) : (Stored.value stored).get = some stored := rfl

@[simp] theorem get_ofOption (stored : Option α) : (ofOption stored).get = stored := by
  cases stored <;> rfl

@[simp] theorem getOr_value (default stored : α) :
    (Stored.value stored).getOr default = some stored := rfl

@[simp] theorem str_value (default text : String) : (Stored.value text).str default = text := rfl

@[simp] theorem enum_value (member : α) (text : String) :
    (Stored.value text).enum member = .text text := rfl

@[simp] theorem parseTimestamp_orNow (read now instant : Instant) :
    parseTimestamp read ((Stored.value (isoformat instant)).orNow now) = .ok instant := by
  simp only [orNow, get_value, if_neg (isoformat_ne_empty instant), parseTimestamp_isoformat]

end Stored

end QuantApp.Services
