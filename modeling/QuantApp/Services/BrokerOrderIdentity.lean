import QuantApp.Api.KisOrderQuery
import QuantApp.Services.ReplaceGuarded

/-!
# The identity of a broker order

The gateway compares two order numbers without their leading zeros
(`_same_broker_order_id`); the readers of the broker's rows pad a number to ten digits
(`_normalize_kis_order_number`).
-/

namespace QuantApp.Services

open Api Core

/-! ## Leading zeros -/

section Zeros

/-- A text without its leading zeros. -/
def dropZeros (chars : List Char) : List Char := chars.dropWhile (· = '0')

/-- A text with zeros before it, up to a width. -/
def padZeros (width : Nat) (chars : List Char) : List Char :=
  List.replicate (width - chars.length) '0' ++ chars

variable {chars other : List Char} {width : Nat}

theorem dropZeros_replicate_append (zeros : Nat) (chars : List Char) :
    dropZeros (List.replicate zeros '0' ++ chars) = dropZeros chars := by
  induction zeros with
  | zero => rfl
  | succ => simp [List.replicate_succ, dropZeros]

theorem dropZeros_padZeros (width : Nat) (chars : List Char) :
    dropZeros (padZeros width chars) = dropZeros chars :=
  dropZeros_replicate_append _ chars

theorem length_padZeros (width : Nat) (chars : List Char) :
    (padZeros width chars).length = max width chars.length := by
  unfold padZeros
  rw [List.length_append, List.length_replicate]
  omega

theorem exists_replicate_append (chars : List Char) :
    ∃ zeros, chars = List.replicate zeros '0' ++ dropZeros chars := by
  refine ⟨(chars.takeWhile (· = '0')).length, ?_⟩
  have hZeros : chars.takeWhile (· = '0') =
      List.replicate (chars.takeWhile (· = '0')).length '0' :=
    List.eq_replicate_of_mem (fun c hc => by simpa using List.mem_takeWhile_imp hc)
  unfold dropZeros
  rw [← hZeros, List.takeWhile_append_dropWhile]

/-- Texts of one length that differ in their leading zeros only are equal. -/
theorem eq_of_dropZeros_eq (hDrop : dropZeros chars = dropZeros other)
    (hLength : chars.length = other.length) : chars = other := by
  obtain ⟨zeros, hChars⟩ := exists_replicate_append chars
  obtain ⟨zeros', hOther⟩ := exists_replicate_append other
  have hSame : zeros = zeros' := by
    have hLeft := congrArg List.length hChars
    have hRight := congrArg List.length hOther
    rw [List.length_append, List.length_replicate] at hLeft hRight
    rw [hDrop] at hLeft
    omega
  rw [hChars, hOther, hDrop, hSame]

theorem dropZeros_eq_nil_iff : dropZeros chars = [] ↔ chars.all (· = '0') = true := by
  unfold dropZeros
  rw [List.dropWhile_eq_nil_iff, List.all_eq_true]

theorem all_dropZeros {isDigit : Char → Bool} (hZero : isDigit '0' = true) (chars : List Char) :
    (dropZeros chars).all isDigit = chars.all isDigit := by
  obtain ⟨zeros, hChars⟩ := exists_replicate_append chars
  conv_rhs => rw [hChars]
  rw [List.all_append]
  simp [hZero]

end Zeros

/-! ## The two readings -/

section Readings

variable {kis : KisText} {left right value : String}

/-- A text is a number: digits, of which one at least is no zero. -/
def IsNumber (kis : KisText) (text : String) : Prop :=
  text.toList.all kis.isDigit = true ∧ dropZeros text.toList ≠ []

theorem stripLeadingZeros_eq_iff {text other : String} :
    stripLeadingZeros text = stripLeadingZeros other ↔
      dropZeros text.toList = dropZeros other.toList :=
  String.ofList_inj

theorem sameBrokerOrderId_iff : sameBrokerOrderId left right = true ↔
    strip left ≠ "" ∧ strip right ≠ "" ∧
      dropZeros (strip left).toList = dropZeros (strip right).toList := by
  unfold sameBrokerOrderId
  dsimp only
  rw [Bool.and_eq_true, Bool.and_eq_true, Bool.or_eq_true, decide_eq_true_eq, decide_eq_true_eq,
    decide_eq_true_eq, decide_eq_true_eq, stripLeadingZeros_eq_iff, and_assoc]
  refine and_congr_right fun _ => and_congr_right fun _ => or_iff_right_of_imp fun hSame => ?_
  rw [hSame]

theorem normalize_zeros (hZeros : dropZeros (strip value).toList = []) :
    normalizeKisOrderNumber kis value = "" := by
  have hAll := dropZeros_eq_nil_iff.mp hZeros
  unfold normalizeKisOrderNumber
  by_cases hEmpty : strip value = "" <;> simp [hAll, hEmpty]

theorem normalize_text (hText : (strip value).toList.all kis.isDigit = false)
    (hSome : dropZeros (strip value).toList ≠ []) :
    normalizeKisOrderNumber kis value = strip value := by
  have hAll : (strip value).toList.all (· = '0') ≠ true :=
    fun hAll => hSome (dropZeros_eq_nil_iff.mpr hAll)
  unfold normalizeKisOrderNumber
  simp only [hText, Bool.not_false, Bool.or_true, Bool.true_or, if_true, hAll, Bool.and_false,
    Bool.false_eq_true, if_false]

theorem normalize_number (hNumber : IsNumber kis (strip value)) :
    (normalizeKisOrderNumber kis value).toList = padZeros 10 (strip value).toList := by
  have hAll : (strip value).toList.all (· = '0') ≠ true :=
    fun hAll => hNumber.2 (dropZeros_eq_nil_iff.mpr hAll)
  have hNonempty : strip value ≠ "" := fun hEmpty => hNumber.2 (by rw [hEmpty]; rfl)
  unfold normalizeKisOrderNumber
  simp only [hNumber.1, hNonempty, decide_false, Bool.not_true, Bool.or_false, hAll,
    Bool.false_eq_true, if_false]
  rw [String.toList_append, String.toList_ofList]
  rfl

theorem isNumber_or (kis : KisText) (text : String) :
    dropZeros text.toList = [] ∨ IsNumber kis text ∨
      text.toList.all kis.isDigit = false ∧ dropZeros text.toList ≠ [] := by
  by_cases hZeros : dropZeros text.toList = []
  · exact Or.inl hZeros
  · cases hText : text.toList.all kis.isDigit
    · exact Or.inr (Or.inr ⟨rfl, hZeros⟩)
    · exact Or.inr (Or.inl ⟨hText, hZeros⟩)

theorem dropZeros_normalize (kis : KisText) (value : String) :
    dropZeros (normalizeKisOrderNumber kis value).toList = dropZeros (strip value).toList := by
  rcases isNumber_or kis (strip value) with hZeros | hNumber | ⟨hText, hSome⟩
  · rw [normalize_zeros hZeros, hZeros]
    rfl
  · rw [normalize_number hNumber, dropZeros_padZeros]
  · rw [normalize_text hText hSome]

theorem normalize_eq_empty_iff : normalizeKisOrderNumber kis value = "" ↔
    dropZeros (strip value).toList = [] := by
  constructor
  · intro hEmpty
    rw [← dropZeros_normalize kis value, hEmpty]
    rfl
  · exact normalize_zeros

theorem sameBrokerOrderId_of_normalize
    (hEqual : normalizeKisOrderNumber kis left = normalizeKisOrderNumber kis right)
    (hSome : normalizeKisOrderNumber kis left ≠ "") : sameBrokerOrderId left right = true := by
  have hNonempty : ∀ value, normalizeKisOrderNumber kis value ≠ "" → strip value ≠ "" := by
    intro value hValue hEmpty
    refine hValue (normalize_zeros ?_)
    rw [hEmpty]
    rfl
  refine sameBrokerOrderId_iff.mpr ⟨hNonempty left hSome, hNonempty right (hEqual ▸ hSome), ?_⟩
  rw [← dropZeros_normalize kis left, ← dropZeros_normalize kis right, hEqual]

theorem strip_padZeros {text : String} (width : Nat) (hText : strip text = text)
    (hSome : text ≠ "") : strip (String.ofList (padZeros width text.toList)) =
      String.ofList (padZeros width text.toList) := by
  unfold padZeros
  generalize width - text.toList.length = zeros
  cases zeros with
  | zero =>
    rw [List.replicate_zero, List.nil_append, String.ofList_toList]
    exact hText
  | succ zeros =>
    have hFirst : (String.ofList (List.replicate (zeros + 1) '0')).toList.dropWhile
        isPythonSpace = (String.ofList (List.replicate (zeros + 1) '0')).toList := by
      rw [String.toList_ofList, List.replicate_succ]
      exact List.dropWhile_cons_of_neg (by decide)
    have hNonempty : String.ofList (List.replicate (zeros + 1) '0') ≠ "" := fun hEmpty => by
      have hChars := congrArg String.toList hEmpty
      rw [String.toList_ofList, List.replicate_succ] at hChars
      cases hChars
    have hAppend := strip_append hFirst hNonempty hText hSome
    rw [String.ofList_append, String.ofList_toList]
    exact hAppend

theorem normalize_idempotent (hZero : kis.isDigit '0' = true) (value : String) :
    normalizeKisOrderNumber kis (normalizeKisOrderNumber kis value) =
      normalizeKisOrderNumber kis value := by
  rcases isNumber_or kis (strip value) with hZeros | hNumber | ⟨hText, hSome⟩
  · rw [normalize_zeros hZeros]
    exact normalize_zeros (by decide)
  · have hPadded := normalize_number hNumber
    have hStrip :
        strip (normalizeKisOrderNumber kis value) = normalizeKisOrderNumber kis value := by
      have hNonempty : strip value ≠ "" := fun hEmpty => hNumber.2 (by rw [hEmpty]; rfl)
      have hText := strip_padZeros 10 (strip_strip value) hNonempty
      rwa [← hPadded, String.ofList_toList] at hText
    have hAgain : IsNumber kis (strip (normalizeKisOrderNumber kis value)) := by
      rw [hStrip]
      refine ⟨?_, ?_⟩
      · rw [← all_dropZeros hZero, dropZeros_normalize, all_dropZeros hZero]
        exact hNumber.1
      · rw [dropZeros_normalize]
        exact hNumber.2
    refine String.toList_inj.mp ?_
    rw [normalize_number hAgain, hStrip]
    refine eq_of_dropZeros_eq (dropZeros_padZeros _ _) ?_
    rw [length_padZeros, hPadded, length_padZeros]
    omega
  · rw [normalize_text hText hSome]
    refine (normalize_text ?_ ?_).trans (strip_strip value)
    all_goals rwa [strip_strip]

end Readings

/-! ## One meaning -/

/-- Where two texts differ in their leading zeros at most, they are no zeros alone, and they are
one text or numbers of at most ten digits. -/
def OneMeaning (kis : KisText) (left right : String) : Prop :=
  strip left ≠ "" → strip right ≠ "" →
    stripLeadingZeros (strip left) = stripLeadingZeros (strip right) →
    stripLeadingZeros (strip left) ≠ "" ∧
      (strip left = strip right ∨
        (strip left).toList.all kis.isDigit = true ∧ (strip right).toList.all kis.isDigit = true ∧
          (strip left).length ≤ 10 ∧ (strip right).length ≤ 10)

instance (kis : KisText) (left right : String) : Decidable (OneMeaning kis left right) := by
  unfold OneMeaning
  infer_instance

section Meaning

variable {kis : KisText} {left right : String}

/-- What equal normal forms say of texts that differ in their leading zeros at most. -/
theorem normalize_eq_iff (hZero : kis.isDigit '0' = true)
    (hDrop : dropZeros (strip left).toList = dropZeros (strip right).toList)
    (hSome : dropZeros (strip left).toList ≠ []) :
    normalizeKisOrderNumber kis left = normalizeKisOrderNumber kis right ↔
      strip left = strip right ∨
        (strip left).toList.all kis.isDigit = true ∧ (strip right).toList.all kis.isDigit = true ∧
          (strip left).length ≤ 10 ∧ (strip right).length ≤ 10 := by
  have hDigits : (strip left).toList.all kis.isDigit = (strip right).toList.all kis.isDigit := by
    rw [← all_dropZeros hZero, hDrop, all_dropZeros hZero]
  have hSome' : dropZeros (strip right).toList ≠ [] := hDrop ▸ hSome
  cases hLeft : (strip left).toList.all kis.isDigit with
  | false =>
    rw [normalize_text hLeft hSome, normalize_text (hDigits ▸ hLeft) hSome']
    exact ⟨Or.inl, fun h => h.resolve_right (fun hNumber => nomatch hNumber.1)⟩
  | true =>
    have hRight : (strip right).toList.all kis.isDigit = true := hDigits ▸ hLeft
    have hNumbers : IsNumber kis (strip left) ∧ IsNumber kis (strip right) :=
      ⟨⟨hLeft, hSome⟩, ⟨hRight, hSome'⟩⟩
    rw [← String.toList_inj, normalize_number hNumbers.1, normalize_number hNumbers.2]
    have hDropPadded : dropZeros (padZeros 10 (strip left).toList) =
        dropZeros (padZeros 10 (strip right).toList) := by
      rw [dropZeros_padZeros, dropZeros_padZeros, hDrop]
    constructor
    · intro hPadded
      have hLength := congrArg List.length hPadded
      rw [length_padZeros, length_padZeros, String.length_toList, String.length_toList] at hLength
      by_cases hSame : (strip left).length = (strip right).length
      · refine Or.inl (String.toList_inj.mp (eq_of_dropZeros_eq hDrop ?_))
        rw [String.length_toList, String.length_toList]
        exact hSame
      · exact Or.inr ⟨rfl, hRight, by omega, by omega⟩
    · rintro (hSame | ⟨-, -, hLong, hLong'⟩)
      · rw [hSame]
      · refine eq_of_dropZeros_eq hDropPadded ?_
        rw [length_padZeros, length_padZeros, String.length_toList, String.length_toList]
        omega

/-- The two readings agree on two texts, and normalizing again changes nothing, exactly when the
texts have one meaning. -/
theorem order_identity_agrees_iff (hZero : kis.isDigit '0' = true) (left right : String) :
    ((sameBrokerOrderId left right = true ↔
        normalizeKisOrderNumber kis left = normalizeKisOrderNumber kis right ∧
          normalizeKisOrderNumber kis left ≠ "") ∧
      normalizeKisOrderNumber kis (normalizeKisOrderNumber kis left) =
        normalizeKisOrderNumber kis left) ↔ OneMeaning kis left right := by
  have hStripped : ∀ text : String, stripLeadingZeros text = "" ↔ dropZeros text.toList = [] := by
    intro text
    rw [← String.toList_inj, stripLeadingZeros, String.toList_ofList]
    rfl
  rw [and_iff_left (normalize_idempotent hZero left)]
  constructor
  · intro hAgree hLeft hRight hZeros
    obtain ⟨hEqual, hNonempty⟩ := hAgree.mp (sameBrokerOrderId_iff.mpr
      ⟨hLeft, hRight, stripLeadingZeros_eq_iff.mp hZeros⟩)
    have hSome : dropZeros (strip left).toList ≠ [] :=
      fun hNone => hNonempty (normalize_zeros hNone)
    exact ⟨fun hNone => hSome ((hStripped _).mp hNone),
      (normalize_eq_iff hZero (stripLeadingZeros_eq_iff.mp hZeros) hSome).mp hEqual⟩
  · intro hMeaning
    refine ⟨fun hSame => ?_, fun hEqual => sameBrokerOrderId_of_normalize hEqual.1 hEqual.2⟩
    obtain ⟨hLeft, hRight, hDrop⟩ := sameBrokerOrderId_iff.mp hSame
    obtain ⟨hNonempty, hTexts⟩ := hMeaning hLeft hRight (stripLeadingZeros_eq_iff.mpr hDrop)
    have hSome : dropZeros (strip left).toList ≠ [] :=
      fun hNone => hNonempty ((hStripped _).mpr hNone)
    exact ⟨(normalize_eq_iff hZero hDrop hSome).mpr hTexts,
      fun hEmpty => hSome (normalize_eq_empty_iff.mp hEmpty)⟩

end Meaning

/-- Conversions of a text that is written in ASCII. -/
def asciiText : KisText :=
  { floatOfText := fun _ => none, str := fun _ => "", upper := upper, isDigit := Char.isDigit }

/-- The number of an acceptance and the number of a later row of the same order. -/
theorem order_identity_agrees_padded :
    (sameBrokerOrderId "0030138295" "30138295" = true ↔
        normalizeKisOrderNumber asciiText "0030138295" =
          normalizeKisOrderNumber asciiText "30138295" ∧
        normalizeKisOrderNumber asciiText "0030138295" ≠ "") ∧
      normalizeKisOrderNumber asciiText (normalizeKisOrderNumber asciiText "0030138295") =
        normalizeKisOrderNumber asciiText "0030138295" :=
  (order_identity_agrees_iff rfl "0030138295" "30138295").mpr (by decide +kernel)

/-- Zeros alone, a reservation identity and a number of eleven digits are the same order to the
gateway as what is left without the leading zero, and another one to the readers of rows. -/
theorem order_identities_differ :
    [("0", "00"), ("0R1", "R1"), ("01234567890", "1234567890")].Forall fun pair =>
      sameBrokerOrderId pair.1 pair.2 = true ∧
        ¬ (normalizeKisOrderNumber asciiText pair.1 = normalizeKisOrderNumber asciiText pair.2 ∧
          normalizeKisOrderNumber asciiText pair.1 ≠ "") :=
  List.forall_iff_forall_mem.mpr (by decide +kernel)

end QuantApp.Services
