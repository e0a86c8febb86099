import Mathlib.Data.Rat.Lemmas
import Mathlib.Algebra.Order.Field.Rat
import Mathlib.Data.Rat.Floor
import Mathlib.Data.List.DropRight
import Mathlib.Data.List.Infix
import Mathlib.Data.List.Lex

/-!
# The Python runtime the services rest on

Exceptions, wall-clock texts and the configured constants.  Prices and
notionals are exact rationals and quantities are integers; instants are
microseconds of UTC since the epoch and dates are day numbers from the same
origin.

The code stores instants as ISO-8601 text, compares some of those texts as
strings and parses others back.  `IsoText` therefore carries both the text and
what `datetime.fromisoformat` reads in it.
-/

namespace QuantApp.Core

/-! ## Exceptions -/

/-- The exception classes the modelled functions raise. -/
inductive ExceptionClass
  | valueError
  | typeError
  | runtimeError
  | invalidExecutionOrderTransition
  | invalidExecutionOrderConsistency
  | duplicateReservation
  | insufficientAvailableCapital
  | capitalReservationVersionConflict
  | projectedPortfolioRiskLimit
  | activeExternalOrderFence
  | cancelNotPermitted
  | invalidOrderRecoveryTransition
  | emergencyLeaseAllowance
  | databaseError
  | osError
  | duplicateCommand
  | commandNotFound
  | commandResponseConflict
  | duplicateExecutionOrder
  | brokerIdentityConflict
  | duplicateAdoption
  | executionOrderNotFound
  | executionOrderVersionConflict
  | immutableFieldChanged
  | canonicalDatabaseUnavailable
  | emergencyActionNotPermitted
  | emergencyJournalUnavailable
  | emergencyJournalIntegrity
  | duplicateEmergencyCommand
  | executionOwnershipMismatch
  | leaseNotVerified
  | preTradeRiskRejected
  | liveExecutionEnvelope
  | guardedSubmissionRejected
  | guardedSubmissionPreBrokerAborted
  | guardedSubmissionAmbiguous
  | ambiguousPostBrokerPersistence
  | guardedCancellationRejected
  | guardedCancellationPreBrokerAborted
  | guardedCancellationAmbiguous
  | replaceNotSafe
  | replacementCancelConfirmationPending
  | orderNotFoundForCancel
  | boardCommandRejected
  | executionGradeDataUnavailable
  | attributeError
  | overflowError
  | invalidExternalOrderDisposition
  | duplicateExternalOrder
  | duplicateBrokerOrderDiscovery
  | externalOrderNotFound
  | externalOrderVersionConflict
  | activeExecutionOrderAdoptionConflict
  deriving DecidableEq, Repr

/-- A raised exception: its class and its text. -/
structure Raised where
  cls : ExceptionClass
  message : String
  deriving DecidableEq, Repr

/-! ## Keys -/

instance lawfulBEqKeyPair : LawfulBEq (String × String) := inferInstance

instance lawfulBEqKeyTriple : LawfulBEq (String × String × String) := inferInstance

/-! ## Dates and timestamps -/

/-- An aware instant, in microseconds of UTC since the epoch. -/
abbrev Instant := Int

/-- A calendar date, as its day number since 1970-01-01. -/
abbrev CalendarDate := Int

/-- What `datetime.fromisoformat` reads in a text it accepts: an instant with
a UTC offset, or a naive date and time (kept as if it were UTC). -/
inductive IsoReading
  | aware (instant : Instant)
  | naive (instant : Instant)
  deriving DecidableEq, Repr

/-- The instant of a reading once a naive one has been given UTC. -/
def IsoReading.assumeUtc : IsoReading → Instant
  | .aware instant => instant
  | .naive instant => instant

/-- A timestamp text with its reading; `none` is a text on which
`datetime.fromisoformat` raises `ValueError`. -/
structure IsoText where
  text : String
  reading : Option IsoReading
  deriving DecidableEq, Repr

/-- Year, month and day of a day number (proleptic Gregorian calendar). -/
def civilFromDays (day : CalendarDate) : Int × Int × Int :=
  let shifted := day + 719468
  let era := shifted / 146097
  let doe := shifted % 146097
  let yoe := (doe - doe / 1460 + doe / 36524 - doe / 146096) / 365
  let doy := doe - (365 * yoe + yoe / 4 - yoe / 100)
  let mp := (5 * doy + 2) / 153
  let dayOfMonth := doy - (153 * mp + 2) / 5 + 1
  let month := if mp < 10 then mp + 3 else mp - 9
  let year := yoe + era * 400 + (if month ≤ 2 then 1 else 0)
  (year, month, dayOfMonth)

/-- Decimal digits of `value`, padded with zeros to `width`. -/
def zeroPadded (width : Nat) (value : Int) : String :=
  let digits := toString value.toNat
  String.ofList (List.replicate (width - digits.length) '0') ++ digits

/-- `date.isoformat()`. -/
def isoDate (day : CalendarDate) : String :=
  let civil := civilFromDays day
  zeroPadded 4 civil.1 ++ "-" ++ zeroPadded 2 civil.2.1 ++ "-" ++ zeroPadded 2 civil.2.2

/-- `datetime.isoformat()` of an aware UTC instant. -/
def isoformat (instant : Instant) : IsoText :=
  let day := instant / 86400000000
  let micros := instant % 86400000000
  let seconds := micros / 1000000
  let fraction := micros % 1000000
  { text := isoDate day ++ "T" ++ zeroPadded 2 (seconds / 3600) ++ ":" ++
      zeroPadded 2 (seconds / 60 % 60) ++ ":" ++ zeroPadded 2 (seconds % 60) ++
      (if fraction = 0 then "" else "." ++ zeroPadded 6 fraction) ++ "+00:00"
    reading := some (.aware instant) }

@[simp] theorem isoformat_reading (instant : Instant) :
    (isoformat instant).reading = some (.aware instant) := rfl

example : (isoformat 1785456000500000).text = "2026-07-31T00:00:00.500000+00:00" := by
  decide +kernel

/-! ## Text -/

/-- The characters `str.strip()` removes. -/
def isPythonSpace (c : Char) : Bool :=
  c.toNat ∈ [9, 10, 11, 12, 13, 28, 29, 30, 31, 32, 133, 160, 5760, 8192, 8193, 8194, 8195,
    8196, 8197, 8198, 8199, 8200, 8201, 8202, 8232, 8233, 8239, 8287, 12288]

variable (text : String)

/-- `str.strip()`. -/
def strip : String :=
  String.ofList (((text.toList.dropWhile isPythonSpace).reverse.dropWhile isPythonSpace).reverse)

private theorem dropWhile_append_of_eq_self {α : Type} {p : α → Bool} {first rest : List α}
    (hFirst : first.dropWhile p = first) (hNonempty : first ≠ []) :
    (first ++ rest).dropWhile p = first ++ rest := by
  rw [List.dropWhile_append, hFirst, if_neg (by simpa using hNonempty)]

/-- A text that starts with a character and ends with a stripped one is stripped. -/
theorem strip_append {first rest : String}
    (hFirst : first.toList.dropWhile isPythonSpace = first.toList) (hFirstText : first ≠ "")
    (hRest : strip rest = rest) (hRestText : rest ≠ "") : strip (first ++ rest) =
      first ++ rest := by
  have hList : ((rest.toList.dropWhile isPythonSpace).reverse.dropWhile isPythonSpace).reverse =
      rest.toList := by
    have h := congrArg String.toList hRest
    simpa [strip] using h
  have hDrop : rest.toList.dropWhile isPythonSpace = rest.toList := by
    refine (List.dropWhile_suffix _).eq_of_length_le ?_
    have hLength := (List.dropWhile_suffix (l := (rest.toList.dropWhile isPythonSpace).reverse)
      isPythonSpace).length_le
    rw [← List.length_reverse, hList, List.length_reverse] at hLength
    exact hLength
  rw [hDrop] at hList
  have hBack : rest.toList.reverse.dropWhile isPythonSpace = rest.toList.reverse := by
    have h := congrArg List.reverse hList
    rwa [List.reverse_reverse] at h
  unfold strip
  rw [String.toList_append, dropWhile_append_of_eq_self hFirst (by simpa using hFirstText),
    List.reverse_append, dropWhile_append_of_eq_self hBack (by simpa using hRestText),
    ← List.reverse_append, List.reverse_reverse, ← String.toList_append, String.ofList_toList]

theorem strip_strip : strip (strip text) = strip text := by
  have hBack : ∀ chars : List Char,
      (chars.reverse.dropWhile isPythonSpace).reverse <+: chars := by
    intro chars
    rw [← List.reverse_suffix, List.reverse_reverse]
    exact List.dropWhile_suffix _
  have hFront : ∀ part whole : List Char, part <+: whole →
      whole.dropWhile isPythonSpace = whole → part.dropWhile isPythonSpace = part := by
    intro part whole hPrefix hWhole
    cases part with
    | nil => rfl
    | cons c part =>
      obtain ⟨rest, rfl⟩ := hPrefix
      have hHead : isPythonSpace c = false := by
        by_contra hSpace
        rw [List.cons_append, List.dropWhile_cons_of_pos (by simpa using hSpace)] at hWhole
        have hLength := (List.dropWhile_suffix (l := part ++ rest) isPythonSpace).length_le
        rw [hWhole, List.length_cons] at hLength
        omega
      exact List.dropWhile_cons_of_neg (by simp [hHead])
  have hIdempotent : ∀ chars : List Char, (chars.dropWhile isPythonSpace).dropWhile isPythonSpace =
      chars.dropWhile isPythonSpace := fun chars => List.dropWhile_idempotent _ chars
  unfold strip
  rw [String.toList_ofList, hFront _ _ (hBack _) (hIdempotent text.toList), List.reverse_reverse,
    hIdempotent]

/-- `str.upper()` on ASCII text, such as a symbol. -/
def upper : String := String.ofList (text.toList.map Char.toUpper)

private theorem toUpper_of_not_lower {c : Char} (h : ¬ ('a'.val ≤ c.val ∧ c.val ≤ 'z'.val)) :
    c.toUpper = c := by
  unfold Char.toUpper
  rw [dif_neg h]

private theorem toUpper_toUpper (c : Char) : c.toUpper.toUpper = c.toUpper := by
  by_cases hLower : 'a'.val ≤ c.val ∧ c.val ≤ 'z'.val
  · have hVal : c.toUpper.val = c.val + ('A'.val - 'a'.val) := by
      unfold Char.toUpper
      rw [dif_pos hLower]
    apply toUpper_of_not_lower
    rw [hVal]
    obtain ⟨hFrom, hTo⟩ := hLower
    simp only [UInt32.le_iff_toNat_le, UInt32.toNat_add, Char.reduceVal] at *
    simp at *
    omega
  · rw [toUpper_of_not_lower hLower, toUpper_of_not_lower hLower]

@[simp] theorem upper_upper : upper (upper text) = upper text := by
  unfold upper
  rw [String.toList_ofList, List.map_map]
  congr 1
  apply List.map_congr_left
  intro c _
  exact toUpper_toUpper c

/-! The client order id of the examples. -/

theorem c1_ne_empty : "c1" ≠ "" := by decide

theorem strip_c1 : strip "c1" = "c1" := by decide +kernel

/-! ## Rounding -/

/-- Nearest integer, halves to the even neighbour. -/
def roundHalfEven (value : ℚ) : Int :=
  let floor := ⌊value⌋
  let fraction := value - floor
  if fraction < 1 / 2 then floor
  else if 1 / 2 < fraction then floor + 1
  else if floor % 2 = 0 then floor
  else floor + 1

/-! ## Configuration and process services -/

/-- The constants of `execution_config` the modelled functions read, with the
values they have when no environment variable overrides them. -/
structure ExecutionConfig where
  durableOrderObservationSeconds : Int := 3600
  ambiguousSubmissionCandidateWindowSeconds : Int := 60
  minAbsenceConfirmationIntervalSeconds : Int := 60
  breakevenBufferBps : ℚ := 15
  entryRetryCooldownSeconds : Int := 3
  exitRetryCooldownSeconds : Int := 5
  partialExitAttemptTtlSeconds : Int := 10
  sellAllAttemptTtlSeconds : Int := 5
  exitCancelConfirmationTimeoutSeconds : Int := 10

/-- What one reducer call takes from its process: the configuration, the
second `utc_now_iso` returns, and `uuid5(NAMESPACE_URL, name).hex`. -/
structure Runtime where
  config : ExecutionConfig := {}
  utcNowIso : IsoText
  uuid5Hex : String → String

/-- Whole seconds as microseconds. -/
def secondsToMicros (seconds : Int) : Int := seconds * 1000000

end QuantApp.Core
