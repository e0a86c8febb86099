import QuantApp.Services.OrderLookupCache

/-!
# What a lookup that finds nothing tells

A run of database writes, submissions of this process and cache calls.  A list read in
full shows every order of its card, but the list is stamped again by every single order
that is remembered.  While each stamp finds no order of the wanted kind that the list
hides, a lookup that answers `None` speaks for a moment within the trusted period.
-/

namespace QuantApp.Services

open Core Verified
open OrderLookup (find findById ordersOf readList reconcile remember)

variable {lookup : OrderLookup} {call : LookupCall}

/-! ## Runs -/

/-- What happened: the database as it was held at a time, or a submission. -/
inductive Moment
  | held (at_ : ℚ) (orders : List ExecutionOrderRecord)
  | submitted (record : ExecutionOrderRecord)

/-- The lookup and what happened before, the latest first. -/
structure LookupRun where
  lookup : OrderLookup
  past : List Moment := []

/-- Everything up to the present. -/
def LookupRun.moments (run : LookupRun) : List Moment :=
  .held run.lookup.now run.lookup.orders :: run.past

inductive LookupCall
  | wait (until_ : ℚ)
  | write (orders : List ExecutionOrderRecord)
  | submit (record : ExecutionOrderRecord)
  | find (key : CardKey) (side : OrderSide) (intent : Option OrderIntent)
  | reconcile (order : BrokerOrder)
  | findById (clientOrderId : String) (recent : Option ExecutionOrderRecord)
  | cancel (result recent : Option ExecutionOrderRecord)
  | remember (record : ExecutionOrderRecord)

/-- What the call makes of the lookup.  A submission stores its record and remembers it. -/
def LookupCall.apply (cadence : OrderReadCadence) (lookup : OrderLookup) :
    LookupCall → OrderLookup
  | .wait until_ => { lookup with now := max lookup.now until_ }
  | .write orders => { lookup with orders := orders }
  | .submit record => { lookup with orders := record :: lookup.orders }.remember record
  | .find key side intent => (lookup.find cadence key side intent).2
  | .reconcile order => (lookup.reconcile cadence order).2
  | .findById clientOrderId recent => (lookup.findById clientOrderId recent).2
  | .cancel result recent => lookup.cancel result recent
  | .remember record => lookup.remember record

/-- What the call adds to the past, after the present it is made in. -/
def LookupCall.moments : LookupCall → List Moment
  | .submit record => [.submitted record]
  | _ => []

/-- One call. -/
def LookupStep (cadence : OrderReadCadence) (before : LookupRun) (call : LookupCall)
    (after : LookupRun) : Prop :=
  after = { lookup := call.apply cadence before.lookup
            past := call.moments ++ before.moments }

/-! ## The condition -/

/-- The single order the call remembers, whose card's list it stamps with the present. -/
def LookupCall.restamps (cadence : OrderReadCadence) (lookup : OrderLookup) :
    LookupCall → Option ExecutionOrderRecord
  | .submit record => some record
  | .reconcile order =>
    match lookup.recordFresh cadence order.clientOrderId with
    | some _ => none
    | none => lookup.fetch order.clientOrderId
  | .findById clientOrderId recent => (lookup.fetch clientOrderId).or recent
  | .cancel _ recent => recent
  | .remember record => some record
  | _ => none

/-- The stored orders the call leaves. -/
def LookupCall.stored (lookup : OrderLookup) : LookupCall → List ExecutionOrderRecord
  | .write orders => orders
  | .submit record => record :: lookup.orders
  | _ => lookup.orders

/-- No order of the list is wanted. -/
def NoneWanted (side : OrderSide) (intent : Option OrderIntent)
    (records : List ExecutionOrderRecord) : Prop :=
  ∀ record ∈ records, isWanted side intent record = false

/-- The database holds no wanted order of the card. -/
def NoneHeld (key : CardKey) (side : OrderSide) (intent : Option OrderIntent)
    (orders : List ExecutionOrderRecord) : Prop :=
  ∀ order ∈ orders, orderKey order = key → isWanted side intent order = false

/-- When the call stamps the list of the card, the list shows a wanted order if the
database holds one. -/
def StampsShown (cadence : OrderReadCadence) (key : CardKey) (side : OrderSide)
    (intent : Option OrderIntent) (run : LookupRun) (call : LookupCall) : Prop :=
  ∀ record, call.restamps cadence run.lookup = some record → orderKey record = key →
    NoneWanted side intent (run.lookup.restampedList record) →
      NoneHeld key side intent (call.stored run.lookup)

/-! ## The witnessing moment -/

/-- At `at_` the database held no wanted order of the card, and none was submitted
since. -/
def Witnessed (key : CardKey) (side : OrderSide) (intent : Option OrderIntent)
    (moments : List Moment) (at_ : ℚ) : Prop :=
  ∃ later orders earlier, moments = later ++ .held at_ orders :: earlier ∧
    NoneHeld key side intent orders ∧ ∀ record, .submitted record ∈ later → orderKey record ≠ key

section Runs

variable {cadence : OrderReadCadence} {key : CardKey} {side : OrderSide}
  {intent : Option OrderIntent}

theorem Witnessed.now {run : LookupRun} (h : NoneHeld key side intent run.lookup.orders) :
    Witnessed key side intent run.moments run.lookup.now :=
  ⟨[], run.lookup.orders, run.past, rfl, h, by simp⟩

/-- What happens later, short of a submission for the card, keeps the witness. -/
theorem Witnessed.append {moments new : List Moment} {at_ : ℚ}
    (h : Witnessed key side intent moments at_)
    (hNew : ∀ record, .submitted record ∈ new → orderKey record ≠ key) :
    Witnessed key side intent (new ++ moments) at_ := by
  obtain ⟨later, orders, earlier, rfl, hNone, hLater⟩ := h
  refine ⟨new ++ later, orders, earlier, by simp, hNone, ?_⟩
  intro record hRecord
  rcases List.mem_append.mp hRecord with hIn | hIn
  · exact hNew record hIn
  · exact hLater record hIn

/-! ## What a call does to the list of one card -/

theorem remember_cardCache (lookup : OrderLookup) (record : ExecutionOrderRecord) (key : CardKey) :
    (lookup.remember record).cardCache key =
      if key = orderKey record then some (lookup.now, lookup.restampedList record)
      else lookup.cardCache key := by
  unfold remember
  simp only [Function.update_apply]

/-- A remembered order stamps the list of its card and no other. -/
theorem remember_list (lookup : OrderLookup) (record : ExecutionOrderRecord) (key : CardKey) :
    (lookup.remember record).cardCache key = lookup.cardCache key ∧ orderKey record ≠ key ∨
      orderKey record = key ∧
        (lookup.remember record).cardCache key =
          some (lookup.now, lookup.restampedList record) := by
  rw [remember_cardCache]
  by_cases hKey : key = orderKey record
  · rw [if_pos hKey]
    exact Or.inr ⟨hKey.symm, rfl⟩
  · rw [if_neg hKey]
    exact Or.inl ⟨rfl, fun h => hKey h.symm⟩

/-- A call that remembers an order stamps the lists as remembering it does. -/
theorem apply_of_restamps {record : ExecutionOrderRecord}
    (h : call.restamps cadence lookup = some record) :
    (call.apply cadence lookup).cardCache = (lookup.remember record).cardCache ∧
      (call.apply cadence lookup).now = lookup.now ∧
      ∀ other, .submitted other ∈ call.moments → other = record := by
  cases call with
  | submit | remember =>
    cases h
    exact ⟨rfl, rfl, by simp [LookupCall.moments]⟩
  | reconcile order =>
    cases hRecord : lookup.recordFresh cadence order.clientOrderId with
    | some => simp [LookupCall.restamps, hRecord] at h
    | none =>
      have hFetch : lookup.fetch order.clientOrderId = some record := by
        simpa [LookupCall.restamps, hRecord] using h
      have hAfter : (LookupCall.reconcile order).apply cadence lookup =
          lookup.remember record := by
        simp [LookupCall.apply, reconcile, hRecord, hFetch]
      rw [hAfter]
      exact ⟨rfl, rfl, by simp [LookupCall.moments]⟩
  | findById clientOrderId recent =>
    have hFound : (lookup.fetch clientOrderId).or recent = some record := h
    have hAfter : (LookupCall.findById clientOrderId recent).apply cadence lookup =
        lookup.remember record := by
      simp [LookupCall.apply, findById, hFound]
    rw [hAfter]
    exact ⟨rfl, rfl, by simp [LookupCall.moments]⟩
  | cancel result recent =>
    have hRecent : recent = some record := h
    rw [hRecent]
    cases result <;> exact ⟨rfl, rfl, by simp [LookupCall.moments]⟩
  | _ => cases h

/-- A call that remembers no order leaves the list of the card alone or reads it in full. -/
theorem apply_of_no_restamp (key : CardKey) (h : call.restamps cadence lookup = none) :
    call.moments = [] ∧
      ((call.apply cadence lookup).cardCache key = lookup.cardCache key ∨
        (call.apply cadence lookup).cardCache key =
          some ((call.apply cadence lookup).now, (call.apply cadence lookup).ordersOf key)) := by
  cases call with
  | wait | write => exact ⟨rfl, Or.inl rfl⟩
  | find findKey =>
    refine ⟨rfl, ?_⟩
    simp only [LookupCall.apply, find]
    cases lookup.listFresh cadence findKey with
    | some => exact Or.inl rfl
    | none =>
      by_cases hKey : key = findKey
      · right
        rw [hKey]
        simp [readList, ordersOf]
      · left
        simp [readList, Function.update_of_ne hKey]
  | reconcile order =>
    refine ⟨rfl, Or.inl ?_⟩
    cases hRecord : lookup.recordFresh cadence order.clientOrderId with
    | some => simp [LookupCall.apply, reconcile, hRecord]
    | none =>
      have hFetch : lookup.fetch order.clientOrderId = none := by
        simpa [LookupCall.restamps, hRecord] using h
      simp [LookupCall.apply, reconcile, hRecord, hFetch]
  | findById clientOrderId recent =>
    have hFound : (lookup.fetch clientOrderId).or recent = none := h
    refine ⟨rfl, Or.inl ?_⟩
    simp [LookupCall.apply, findById, hFound]
  | cancel result recent =>
    have hRecent : recent = none := h
    rw [hRecent]
    cases result <;> exact ⟨rfl, Or.inl rfl⟩
  | submit | remember => cases h

theorem apply_orders (cadence : OrderReadCadence) (lookup : OrderLookup) (call : LookupCall) :
    (call.apply cadence lookup).orders = call.stored lookup := by
  cases call with
  | find =>
    simp only [LookupCall.apply, find]
    split <;> rfl
  | reconcile =>
    simp only [LookupCall.apply, reconcile]
    split
    · rfl
    split <;> rfl
  | findById =>
    simp only [LookupCall.apply, findById]
    split <;> rfl
  | cancel result recent => cases result <;> cases recent <;> rfl
  | _ => rfl

/-! ## The invariant -/

/-- A list that shows nothing wanted is stamped with a witnessing moment. -/
def ListWitnessed (key : CardKey) (side : OrderSide) (intent : Option OrderIntent)
    (run : LookupRun) : Prop :=
  ∀ at_ records, run.lookup.cardCache key = some (at_, records) →
    NoneWanted side intent records → Witnessed key side intent run.moments at_

theorem noneHeld_of_ordersOf (h : NoneWanted side intent (lookup.ordersOf key)) :
    NoneHeld key side intent lookup.orders := by
  intro order hOrder hKey
  apply h
  exact List.mem_filter.mpr ⟨hOrder, by simpa using hKey⟩

theorem ListWitnessed.step {before after : LookupRun} (h : ListWitnessed key side intent before)
    (hShown : StampsShown cadence key side intent before call)
    (hStep : LookupStep cadence before call after) : ListWitnessed key side intent after := by
  intro at_ records hList hNone
  have hMoments : after.moments =
      (.held after.lookup.now after.lookup.orders :: call.moments) ++ before.moments := by
    rw [hStep]
    rfl
  have hLookup : after.lookup = call.apply cadence before.lookup := by rw [hStep]
  have hKeeps : after.lookup.cardCache key = before.lookup.cardCache key →
      (∀ record, .submitted record ∈ call.moments → orderKey record ≠ key) →
        Witnessed key side intent after.moments at_ := by
    intro hSame hOther
    rw [hSame] at hList
    rw [hMoments]
    apply (h at_ records hList hNone).append
    intro record hRecord
    rcases List.mem_cons.mp hRecord with hHeld | hSubmitted
    · cases hHeld
    · exact hOther record hSubmitted
  cases hRestamps : call.restamps cadence before.lookup with
  | none =>
    obtain ⟨hQuiet, hSame | hRead⟩ := apply_of_no_restamp key hRestamps
    · apply hKeeps (by rw [hLookup, hSame])
      simp [hQuiet]
    · rw [← hLookup] at hRead
      rw [hRead] at hList
      cases hList
      exact Witnessed.now (noneHeld_of_ordersOf hNone)
  | some record =>
    obtain ⟨hCache, hNow, hSubmitted⟩ := apply_of_restamps hRestamps
    rw [← hLookup] at hCache hNow
    rcases remember_list before.lookup record key with ⟨hSame, hOther⟩ | ⟨hKey, hStamped⟩
    · apply hKeeps (by rw [hCache, hSame])
      intro other hMoment
      rw [hSubmitted other hMoment]
      exact hOther
    · rw [hCache, hStamped, ← hNow] at hList
      cases hList
      have hHeld := hShown record hRestamps hKey hNone
      rw [← apply_orders cadence, ← hLookup] at hHeld
      exact Witnessed.now hHeld

/-! ## Lookups that find nothing -/

theorem guardedRecordCacheSeconds_pos (cadence : OrderReadCadence)
    (record : ExecutionOrderRecord) : 0 < guardedRecordCacheSeconds cadence record := by
  have hPending := cadence.pending_min
  have hUnknown := cadence.unknown_min
  unfold guardedRecordCacheSeconds
  split <;> linarith

theorem foldl_min_pos {seconds : List ℚ} {first : ℚ} (hFirst : 0 < first)
    (hRest : ∀ value ∈ seconds, 0 < value) : 0 < seconds.foldl min first := by
  induction seconds generalizing first with
  | nil => exact hFirst
  | cons value rest ih =>
    apply ih
    · exact lt_min hFirst (hRest value (by simp))
    · intro other hOther
      exact hRest other (by simp [hOther])

theorem guardedRecordsCacheSeconds_pos (cadence : OrderReadCadence)
    (records : List ExecutionOrderRecord) : 0 < guardedRecordsCacheSeconds cadence records := by
  cases records with
  | nil =>
    have hPending := cadence.pending_min
    show 0 < cadence.pending
    linarith
  | cons record =>
    apply foldl_min_pos (guardedRecordCacheSeconds_pos cadence record)
    intro value hValue
    obtain ⟨other, _, rfl⟩ := List.mem_map.mp hValue
    exact guardedRecordCacheSeconds_pos cadence other

theorem noneWanted_of_find (h : (lookup.find cadence key side intent).1 = none) :
    NoneWanted side intent (lookup.recordsFor cadence key) := by
  intro record hRecord
  have hNone : (lookup.recordsFor cadence key).find? (isWanted side intent) = none :=
    Option.map_eq_none_iff.mp h
  simpa using List.find?_eq_none.mp hNone record hRecord

/-- A lookup that answers `None` speaks for a moment within the period its list is
trusted for, as long as no stamp of the list has hidden a wanted order. -/
theorem lookup_hides_nothing {start run : LookupRun} (hStart : start.lookup.cardCache key = none)
    (hRun : RunWith (LookupStep cadence) (StampsShown cadence key side intent) start run)
    (hNone : (run.lookup.find cadence key side intent).1 = none) :
    ∃ at_, 0 ≤ run.lookup.now - at_ ∧
      run.lookup.now - at_ <
        guardedRecordsCacheSeconds cadence (run.lookup.recordsFor cadence key) ∧
      Witnessed key side intent run.moments at_ := by
  have hWitnessed : ListWitnessed key side intent run := by
    apply RunWith.invariant hRun
    · intro at_ records hList _
      rw [hStart] at hList
      cases hList
    · intro before call after hBefore hShown hStep
      exact hBefore.step hShown hStep
  have hWanted := noneWanted_of_find hNone
  have hSeconds := guardedRecordsCacheSeconds_pos cadence (run.lookup.recordsFor cadence key)
  cases hFresh : run.lookup.listFresh cadence key with
  | none =>
    have hRecords : run.lookup.recordsFor cadence key = run.lookup.ordersOf key := by
      simp [OrderLookup.recordsFor, hFresh]
    rw [hRecords] at hWanted
    refine ⟨run.lookup.now, by simp, by simpa using hSeconds, ?_⟩
    exact Witnessed.now (noneHeld_of_ordersOf hWanted)
  | some records =>
    have hRecords : run.lookup.recordsFor cadence key = records := by
      simp [OrderLookup.recordsFor, hFresh]
    rw [hRecords] at hWanted ⊢
    unfold OrderLookup.listFresh at hFresh
    cases hList : run.lookup.cardCache key with
    | none => simp [hList] at hFresh
    | some cached =>
      obtain ⟨at_, listed⟩ := cached
      simp only [hList, Option.ite_none_right_eq_some, Option.some.injEq] at hFresh
      obtain ⟨hTrusted, rfl⟩ := hFresh
      simp only [isFresh, Bool.and_eq_true, decide_eq_true_eq] at hTrusted
      exact ⟨at_, hTrusted.1, hTrusted.2, hWitnessed at_ listed hList hWanted⟩

end Runs

/-! ### A SELL remembered beside a BUY -/

def defaultCadence : OrderReadCadence := { pending_min := le_refl 2, unknown_min := le_refl 1 }

/-- A working SELL of the card. -/
def rememberedSell : ExecutionOrderRecord :=
  { environment := "PROD"
    accountNo := "1"
    symbol := "AAPL"
    side := .sell
    intent := .stopLoss
    clientOrderId := "s1"
    preparedAt := isoformat 0
    status := .working }

/-- A working entry of the card. -/
def workingEntry : ExecutionOrderRecord :=
  { environment := "PROD"
    accountNo := "1"
    symbol := "AAPL"
    side := .buy
    intent := .entry
    clientOrderId := "b1"
    preparedAt := isoformat 0
    status := .working }

/-- The state in which the process has submitted the SELL of a card without orders, a
second ago. -/
def submittedRun : LookupRun :=
  let submitted := LookupCall.apply defaultCadence { now := 0, orders := [] }
    (.submit rememberedSell)
  { lookup := LookupCall.apply defaultCadence submitted (.wait 1)
    past := [.held 0 submitted.orders, .submitted rememberedSell, .held 0 []] }

/-- No entry is found then. -/
theorem lookup_hides_nothing_submitted :
    ∃ at_, 0 ≤ submittedRun.lookup.now - at_ ∧
      submittedRun.lookup.now - at_ <
        guardedRecordsCacheSeconds defaultCadence
          (submittedRun.lookup.recordsFor defaultCadence ("PROD", "1", "AAPL")) ∧
      Witnessed ("PROD", "1", "AAPL") .buy (some .entry) submittedRun.moments at_ := by
  have hSubmits : StampsShown defaultCadence ("PROD", "1", "AAPL") .buy (some .entry)
      { lookup := { now := 0, orders := [] } } (.submit rememberedSell) := by
    intro record _ _ _ order hOrder _
    have hSell : order = rememberedSell := by simpa [LookupCall.stored] using hOrder
    rw [hSell]
    decide
  have hWaits : ∀ run : LookupRun,
      StampsShown defaultCadence ("PROD", "1", "AAPL") .buy (some .entry) run (.wait 1) := by
    intro run record hNothing
    cases hNothing
  have hSubmitted : LookupStep defaultCadence { lookup := { now := 0, orders := [] } }
      (.submit rememberedSell)
      { lookup := LookupCall.apply defaultCadence { now := 0, orders := [] }
          (.submit rememberedSell)
        past := [.submitted rememberedSell, .held 0 []] } := rfl
  have hWaited : LookupStep defaultCadence
      { lookup := LookupCall.apply defaultCadence { now := 0, orders := [] }
          (.submit rememberedSell)
        past := [.submitted rememberedSell, .held 0 []] } (.wait 1) submittedRun := rfl
  have hRun := ((RunWith.refl _).step hSubmits hSubmitted).step (hWaits _) hWaited
  exact lookup_hides_nothing rfl hRun (by decide +kernel)

/-- The entry has been working all the time when the SELL is looked up by its id; the list
of the card is stamped with the SELL alone, and no entry is found. -/
theorem remembered_sell_hides_entry :
    ¬ ∀ (cadence : OrderReadCadence) (key : CardKey) (side : OrderSide)
        (intent : Option OrderIntent) (start run : LookupRun),
        start.lookup.cardCache key = none →
          RunWith (LookupStep cadence) (fun _ _ => True) start run →
            (run.lookup.find cadence key side intent).1 = none →
              ∃ at_, 0 ≤ run.lookup.now - at_ ∧
                run.lookup.now - at_ <
                  guardedRecordsCacheSeconds cadence (run.lookup.recordsFor cadence key) ∧
                Witnessed key side intent run.moments at_ := by
  intro hHidesNothing
  have hFound : LookupStep defaultCadence
      { lookup := { now := 0, orders := [rememberedSell, workingEntry] } }
      (.findById "s1" none)
      { lookup := LookupCall.apply defaultCadence
          { now := 0, orders := [rememberedSell, workingEntry] } (.findById "s1" none)
        past := [.held 0 [rememberedSell, workingEntry]] } := rfl
  have hRun : RunWith (LookupStep defaultCadence) (fun _ _ => True) _ _ :=
    (RunWith.refl _).step trivial hFound
  obtain ⟨at_, _, _, later, orders, earlier, hMoments, hNone, _⟩ :=
    hHidesNothing defaultCadence ("PROD", "1", "AAPL") .buy (some .entry) _ _ rfl hRun
      (by decide +kernel)
  -- the database never changed
  have hHeld : Moment.held at_ orders ∈ later ++ Moment.held at_ orders :: earlier := by simp
  rw [← hMoments] at hHeld
  have hOrders : orders = [rememberedSell, workingEntry] := by
    simp only [LookupRun.moments, List.mem_cons, List.not_mem_nil, or_false,
      Moment.held.injEq] at hHeld
    rcases hHeld with ⟨_, rfl⟩ | ⟨_, rfl⟩ <;> rfl
  have hHidden := hNone workingEntry (by simp [hOrders]) rfl
  exact absurd hHidden (by decide)

end QuantApp.Services
