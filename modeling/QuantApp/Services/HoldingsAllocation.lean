import Mathlib.Data.List.Dedup
import QuantApp.Services.DirectEvidence
import QuantApp.Services.FlatConfirmation
import QuantApp.Verified.Allotment

/-!
# Holdings are allocated once

A change of the holdings is handed out to the open orders of its symbol and side, in the order of
their submission, each taking what it still lacks.
-/

namespace QuantApp.Services

open Core Verified

variable {snapshot baseline : JsonValue} {first later entry : LedgerOrder × Nat} {left : Int}
  {keys : List GroupKey} {groups : List (List (LedgerOrder × Nat))}
  {pair : LedgerOrder × LedgerOrder} {price : ℚ} {python : PythonText}

/-! ## One order -/

section Orders

variable {order : LedgerOrder} {price : ℚ} {snapshot : JsonValue} {shares : Int}

theorem LedgerOrder.knownFilled_nonneg (order : LedgerOrder) : 0 ≤ order.knownFilled :=
  le_max_left 0 _

theorem LedgerOrder.knownFilled_le (order : LedgerOrder) : order.knownFilled ≤ order.requested := by
  unfold LedgerOrder.knownFilled LedgerOrder.requested
  omega

theorem LedgerOrder.available_eq (order : LedgerOrder) :
    order.available = order.requested - order.knownFilled := by
  have hWithin := order.knownFilled_le
  unfold LedgerOrder.available
  omega

/-- The order with the shares it is given. -/
def credited (price : ℚ) (snapshot : JsonValue) (order : LedgerOrder) (shares : Int) :
    LedgerOrder :=
  if 0 < shares then markFill order (order.knownFilled + shares) price snapshot
  else markKnown order price snapshot

theorem knownFilled_markFill {filled : Int} (hKnown : order.knownFilled ≤ filled)
    (hWithin : filled ≤ order.requested) :
    (markFill order filled price snapshot).knownFilled = filled := by
  have hNonneg := order.knownFilled_nonneg
  show max 0 (min (max order.knownFilled (max 0 (min filled order.requested))) order.requested) = _
  omega

theorem knownFilled_markKnown :
    (markKnown order price snapshot).knownFilled = order.knownFilled := by
  unfold markKnown
  split
  · exact knownFilled_markFill (le_refl _) order.knownFilled_le
  · rfl

theorem requested_credited : (credited price snapshot order shares).requested =
    order.requested := by
  unfold credited markKnown
  split
  · rfl
  · split <;> rfl

theorem knownFilled_credited (hShares : 0 ≤ shares) (hRoom : shares ≤ order.available) :
    (credited price snapshot order shares).knownFilled = order.knownFilled + shares := by
  rw [order.available_eq] at hRoom
  unfold credited
  split
  next => exact knownFilled_markFill (by omega) (by omega)
  next hNone =>
    rw [knownFilled_markKnown]
    omega

theorem allocateDelta_eq (hLeft : 0 ≤ left) (grouped : List (LedgerOrder × Nat)) :
    allocateDelta price snapshot left grouped =
      (allot (fun entry : LedgerOrder × Nat => entry.1.available) left grouped).map
        (fun given => (credited price snapshot given.1.1 given.2, given.1.2)) := by
  induction grouped generalizing left with
  | nil => rfl
  | cons entry rest ih =>
    obtain ⟨order, place⟩ := entry
    have hRoom : 0 ≤ order.available := le_max_left 0 _
    rw [allocateDelta, allot, List.map_cons]
    dsimp only
    by_cases hSome : 0 < min order.available left
    · have hCredited : credited price snapshot order (min order.available left) =
          markFill order (order.knownFilled + min order.available left) price snapshot :=
        if_pos hSome
      rw [if_pos hSome, ih (by omega), hCredited]
    · have hNothing : min order.available left = 0 := by omega
      have hCredited : credited price snapshot order 0 = markKnown order price snapshot :=
        if_neg (lt_irrefl 0)
      rw [if_neg hSome, hNothing, sub_zero, ih hLeft, hCredited]

end Orders

/-! ## The groups -/

section Groups

variable {orders : List LedgerOrder} {key : GroupKey} {order : LedgerOrder} {place : Nat}

theorem mem_openGroup : (order, place) ∈ openGroup orders key ↔
    orders[place]? = some order ∧ isOpenStatus order.status = true ∧ order.groupKey = key := by
  unfold openGroup
  rw [List.mem_filter, List.mem_zipIdx_iff_getElem?]
  simp

theorem mem_inSubmissionOrder {grouped : List (LedgerOrder × Nat)} :
    entry ∈ inSubmissionOrder grouped ↔ entry ∈ grouped :=
  List.mem_mergeSort

theorem mem_groupKeys : key ∈ groupKeys orders ↔
    ∃ order ∈ orders, isOpenStatus order.status = true ∧ order.groupKey = key := by
  unfold groupKeys
  rw [List.mem_reverse, List.mem_dedup, List.mem_reverse]
  simp [and_assoc]

theorem nodup_places (orders : List LedgerOrder) (key : GroupKey) :
    ((openGroup orders key).map Prod.snd).Nodup := by
  have hAll : (orders.zipIdx.map Prod.snd).Nodup := by
    rw [List.zipIdx_map_snd]
    exact List.nodup_range'
  exact hAll.sublist (List.filter_sublist.map Prod.snd)

theorem openGroup_places (orders : List LedgerOrder) (key : GroupKey) :
    (openGroup orders key).Pairwise (fun first later => first.2 < later.2) := by
  have hAll : orders.zipIdx.Pairwise (fun first later => first.2 < later.2) := by
    rw [← List.pairwise_map, List.zipIdx_map_snd]
    exact List.pairwise_lt_range'
  exact hAll.sublist List.filter_sublist

theorem sublist_of_places {xs : List (LedgerOrder × Nat)}
    (hOrder : xs.Pairwise (fun first later => first.2 < later.2)) (hFirst : first ∈ xs)
    (hLater : later ∈ xs) (hPlaces : first.2 < later.2) : List.Sublist [first, later] xs := by
  have hne : first ≠ later := fun hSame => by
    rw [hSame] at hPlaces
    exact lt_irrefl _ hPlaces
  refine (pair_sublist_or hFirst hLater hne).resolve_right (fun hPair => ?_)
  exact absurd (rel_of_pair_sublist hOrder hPair) (by omega)

/-- Sorting puts the earlier submission first; of equal ones, the earlier in the ledger. -/
theorem earlier_sublist (hFirst : first ∈ openGroup orders key)
    (hLater : later ∈ openGroup orders key)
    (hEarlier : first.1.submittedAt < later.1.submittedAt ∨
      first.1.submittedAt = later.1.submittedAt ∧ first.2 < later.2) :
    List.Sublist [first, later] (inSubmissionOrder (openGroup orders key)) := by
  have hTrans : ∀ a b c : LedgerOrder × Nat,
      decide (a.1.submittedAt ≤ b.1.submittedAt) = true →
      decide (b.1.submittedAt ≤ c.1.submittedAt) = true →
      decide (a.1.submittedAt ≤ c.1.submittedAt) = true := by
    intro a b c hab hbc
    exact decide_eq_true (String.le_trans (of_decide_eq_true hab) (of_decide_eq_true hbc))
  have hTotal : ∀ a b : LedgerOrder × Nat, (decide (a.1.submittedAt ≤ b.1.submittedAt) ||
      decide (b.1.submittedAt ≤ a.1.submittedAt)) = true := by
    intro a b
    simpa using String.le_total a.1.submittedAt b.1.submittedAt
  rcases hEarlier with hBefore | ⟨hSame, hPlaces⟩
  · have hne : first ≠ later := fun hSame => by
      rw [hSame] at hBefore
      exact String.lt_irrefl _ hBefore
    refine (pair_sublist_or (mem_inSubmissionOrder.mpr hFirst) (mem_inSubmissionOrder.mpr hLater)
      hne).resolve_right (fun hPair => ?_)
    have hSorted := rel_of_pair_sublist (List.pairwise_mergeSort hTrans hTotal _) hPair
    exact absurd (of_decide_eq_true hSorted) (String.not_le.mpr hBefore)
  · exact List.pair_sublist_mergeSort hTrans hTotal
      (decide_eq_true (hSame ▸ String.le_refl _))
      (sublist_of_places (openGroup_places orders key) hFirst hLater hPlaces)

end Groups

/-! ## One group -/

section Group

variable (python : PythonText) (snapshot baseline : JsonValue) (key : GroupKey)

/-- The rounded change of a position in the direction of the side, no less than zero. -/
def positionChange : Except Raised Int := do
  let (current, _) ← holdingForSymbol python snapshot key.1
  let (before, _) ← holdingForSymbol python baseline key.1
  pure (confirmedDelta key.2 current before)

variable {python snapshot baseline key} {grouped updates : List (LedgerOrder × Nat)}

theorem confirmedDelta_nonneg (side : OrderSide) (current previous : ℚ) :
    0 ≤ confirmedDelta side current previous := by
  cases side <;> exact le_max_left 0 _

/-- With a baseline the change is handed out to the group. -/
theorem reconcileGroup_baseline
    (h : reconcileGroup python snapshot (some baseline) key grouped = .ok updates) :
    ∃ change average, positionChange python snapshot baseline key = .ok change ∧ 0 ≤ change ∧
      updates = allocateDelta average snapshot change (inSubmissionOrder grouped) := by
  unfold reconcileGroup at h
  obtain ⟨⟨current, average⟩, hCurrent, h⟩ := bind_eq_ok.mp h
  obtain ⟨⟨before, _⟩, hBefore, h⟩ := bind_eq_ok.mp h
  cases h
  refine ⟨_, average, ?_, confirmedDelta_nonneg key.2 current before, rfl⟩
  unfold positionChange
  rw [hCurrent]
  show (holdingForSymbol python baseline key.1 >>= _) = _
  rw [hBefore]
  rfl

theorem places_allocateDelta (price : ℚ) (hLeft : 0 ≤ left) :
    (allocateDelta price snapshot left grouped).map Prod.snd = grouped.map Prod.snd := by
  rw [allocateDelta_eq hLeft, List.map_map]
  conv_rhs => rw [← map_fst_allot (fun entry : LedgerOrder × Nat => entry.1.available)
    left grouped, List.map_map]
  rfl

end Group

/-! ## The ledger -/

section Ledger

variable {python : PythonText} {snapshot baseline : JsonValue} {key : GroupKey}
  {orders after : List LedgerOrder} {order order' : LedgerOrder} {place : Nat}
  {updates : List (LedgerOrder × Nat)}

/-- The order that a place of the ledger holds afterwards. -/
def updatedAt (updates : List (LedgerOrder × Nat)) (entry : LedgerOrder × Nat) : LedgerOrder :=
  ((lookup Prod.snd entry.2 updates).map Prod.fst).getD entry.1

/-- The open orders of a group, each with what it is afterwards. -/
def groupPairs (orders after : List LedgerOrder) (key : GroupKey) :
    List (LedgerOrder × LedgerOrder) :=
  (orders.zip after).filter (fun pair =>
    isOpenStatus pair.1.status && pair.1.groupKey = key)

/-- The shares that an order received. -/
def received (pair : LedgerOrder × LedgerOrder) : Int := pair.2.knownFilled - pair.1.knownFilled

theorem zip_withUpdates (updates : List (LedgerOrder × Nat)) (orders : List LedgerOrder) :
    orders.zip (withUpdates updates orders) =
      orders.zipIdx.map (fun entry => (entry.1, updatedAt updates entry)) := by
  have hOrders : orders.zipIdx.map Prod.fst = orders := List.zipIdx_map_fst 0 orders
  calc
    orders.zip (withUpdates updates orders) =
        (orders.zipIdx.map Prod.fst).zip (orders.zipIdx.map (updatedAt updates)) := by
      rw [hOrders]
      rfl
    _ = _ := List.zip_map'

theorem groupPairs_withUpdates (updates : List (LedgerOrder × Nat)) (orders : List LedgerOrder)
    (key : GroupKey) : groupPairs orders (withUpdates updates orders) key =
      (openGroup orders key).map (fun entry => (entry.1, updatedAt updates entry)) := by
  unfold groupPairs openGroup
  rw [zip_withUpdates, List.filter_map]
  rfl

/-- What the call brings to the group of a key. -/
structure GroupAllotted (python : PythonText) (snapshot baseline : JsonValue)
    (orders : List LedgerOrder) (updates : List (LedgerOrder × Nat)) (key : GroupKey)
    (change : Int) (average : ℚ) : Prop where
  positionChange : positionChange python snapshot baseline key = .ok change
  nonneg : 0 ≤ change
  updated : ∀ given ∈ allot (fun entry : LedgerOrder × Nat => entry.1.available) change
      (inSubmissionOrder (openGroup orders key)),
    updatedAt updates given.1 = credited average snapshot given.1.1 given.2

/-- A place that the groups hold is the place of an open order of one of the keys. -/
theorem open_of_groups {place : Nat} (hGroups : List.Forall₂ (fun key updates =>
      updates.map Prod.snd = (inSubmissionOrder (openGroup orders key)).map Prod.snd) keys groups)
    (hPlace : place ∈ groups.flatten.map Prod.snd) :
    ∃ order, orders[place]? = some order ∧ isOpenStatus order.status = true ∧
      order.groupKey ∈ keys := by
  obtain ⟨⟨_, place⟩, hEntry, rfl⟩ := List.mem_map.mp hPlace
  obtain ⟨group, hGroup, hIn⟩ := List.mem_flatten.mp hEntry
  obtain ⟨key, hKey, hPlaces⟩ := forall₂_mem_right hGroups hGroup
  have hHere := List.mem_map_of_mem (f := Prod.snd) hIn
  rw [hPlaces] at hHere
  obtain ⟨⟨order, _⟩, hMem, rfl⟩ := List.mem_map.mp hHere
  obtain ⟨hFound, hOpen, hOfKey⟩ := mem_openGroup.mp (mem_inSubmissionOrder.mp hMem)
  exact ⟨order, hFound, hOpen, hOfKey ▸ hKey⟩

theorem places_disjoint (hNodup : keys.Nodup) (hGroups : List.Forall₂ (fun key updates =>
      updates.map Prod.snd = (inSubmissionOrder (openGroup orders key)).map Prod.snd)
      keys groups) : Keyed Prod.snd groups.flatten := by
  induction hGroups with
  | nil => exact List.nodup_nil
  | @cons key updates keys groups hHead hTail ih =>
    obtain ⟨hFresh, hRest⟩ := List.nodup_cons.mp hNodup
    have hPerm : ((inSubmissionOrder (openGroup orders key)).map Prod.snd).Perm
        ((openGroup orders key).map Prod.snd) :=
      (List.mergeSort_perm _ _).map Prod.snd
    show ((updates ++ groups.flatten).map Prod.snd).Nodup
    rw [List.map_append, List.nodup_append]
    refine ⟨?_, ih hRest, ?_⟩
    · rw [hHead]
      exact hPerm.nodup_iff.mpr (nodup_places orders key)
    · rintro place hHere _ hOther rfl
      rw [hHead, hPerm.mem_iff] at hHere
      obtain ⟨⟨order, _⟩, hOrder, rfl⟩ := List.mem_map.mp hHere
      obtain ⟨hFound, -, rfl⟩ := mem_openGroup.mp hOrder
      obtain ⟨_, hFound', -, hKey⟩ := open_of_groups hTail hOther
      rw [hFound] at hFound'
      cases hFound'
      exact hFresh hKey

theorem lookup_of_not_open (hFound : orders[place]? = some order)
    (hClosed : isOpenStatus order.status = false)
    (hGroups : List.Forall₂ (fun key updates =>
      updates.map Prod.snd = (inSubmissionOrder (openGroup orders key)).map Prod.snd)
      keys groups) : lookup Prod.snd place groups.flatten = none := by
  rw [lookup_eq_none_iff]
  intro hMem
  obtain ⟨_, hFound', hIsOpen, -⟩ := open_of_groups hGroups hMem
  rw [hFound] at hFound'
  cases hFound'
  rw [hClosed] at hIsOpen
  cases hIsOpen

theorem groups_allotted
    (h : reconcileOrdersWithSnapshot python orders snapshot (some baseline) = .ok after) :
    ∃ updates, after = withUpdates updates orders ∧
      (∀ key ∈ groupKeys orders, ∃ change average,
        GroupAllotted python snapshot baseline orders updates key change average) ∧
      ∀ place order, orders[place]? = some order → isOpenStatus order.status = false →
        updatedAt updates (order, place) = order := by
  unfold reconcileOrdersWithSnapshot at h
  obtain ⟨groups, hGroups, h⟩ := bind_eq_ok.mp h
  cases h
  have hEach := mapM_forall₂ hGroups
  have hPlaces : List.Forall₂ (fun key updates =>
      updates.map Prod.snd = (inSubmissionOrder (openGroup orders key)).map Prod.snd)
      (groupKeys orders) groups := by
    refine hEach.imp (fun key updates hGroup => ?_)
    obtain ⟨change, average, -, hNonneg, rfl⟩ := reconcileGroup_baseline hGroup
    exact places_allocateDelta average hNonneg
  have hKeyed := places_disjoint (List.nodup_reverse.mpr (List.nodup_dedup _)) hPlaces
  refine ⟨groups.flatten, rfl, fun key hKey => ?_, fun place order hFound hClosed => ?_⟩
  · obtain ⟨updates, hUpdates, hGroup⟩ := forall₂_mem_left hEach hKey
    obtain ⟨change, average, hChange, hNonneg, rfl⟩ := reconcileGroup_baseline hGroup
    refine ⟨change, average, ⟨hChange, hNonneg, fun given hGiven => ?_⟩⟩
    have hIn : (credited average snapshot given.1.1 given.2, given.1.2) ∈ groups.flatten := by
      refine List.mem_flatten.mpr ⟨_, hUpdates, ?_⟩
      rw [allocateDelta_eq hNonneg]
      exact List.mem_map_of_mem hGiven
    unfold updatedAt
    rw [hKeyed.lookup_of_mem hIn]
    rfl
  · unfold updatedAt
    rw [lookup_of_not_open hFound hClosed hPlaces]
    rfl

section Allotted

variable {change : Int} {average : ℚ}

theorem available_nonneg (entry : LedgerOrder × Nat) : 0 ≤ entry.1.available := le_max_left 0 _

variable (h : GroupAllotted python snapshot baseline orders updates key change average)
include h

theorem GroupAllotted.received {given : (LedgerOrder × Nat) × Int}
    (hGiven : given ∈ allot (fun entry : LedgerOrder × Nat =>
      entry.1.available) change (inSubmissionOrder (openGroup orders key))) :
    received (given.1.1, updatedAt updates given.1) = given.2 := by
  obtain ⟨hNonneg, hRoom⟩ := allot_within h.nonneg available_nonneg hGiven
  have hKnown : (credited average snapshot given.1.1 given.2).knownFilled =
      given.1.1.knownFilled + given.2 := knownFilled_credited hNonneg hRoom
  rw [h.updated given hGiven]
  show (credited average snapshot given.1.1 given.2).knownFilled - given.1.1.knownFilled = given.2
  omega

/-- The group receives the change, or all it has room for. -/
theorem GroupAllotted.total :
    ((openGroup orders key).map (fun entry => Services.received (entry.1,
      updatedAt updates entry))).sum =
      min change ((openGroup orders key).map (fun entry => entry.1.available)).sum := by
  have hPerm : (inSubmissionOrder (openGroup orders key)).Perm (openGroup orders key) :=
    List.mergeSort_perm _ _
  calc
    _ = ((inSubmissionOrder (openGroup orders key)).map (fun entry =>
          Services.received (entry.1, updatedAt updates entry))).sum :=
      (hPerm.map _).sum_eq.symm
    _ = ((allot (fun entry : LedgerOrder × Nat => entry.1.available) change
          (inSubmissionOrder (openGroup orders key))).map Prod.snd).sum := by
      conv_lhs => rw [← map_fst_allot (fun entry : LedgerOrder × Nat => entry.1.available)
        change (inSubmissionOrder (openGroup orders key)), List.map_map]
      exact congrArg List.sum (List.map_congr_left fun given hGiven => h.received hGiven)
    _ = min change ((inSubmissionOrder (openGroup orders key)).map
          (fun entry => entry.1.available)).sum := sum_allot h.nonneg available_nonneg
    _ = _ := by rw [(hPerm.map _).sum_eq]

theorem GroupAllotted.given (hEntry : entry ∈ openGroup orders key) :
    ∃ shares, 0 ≤ shares ∧ shares ≤ entry.1.available ∧
      updatedAt updates entry = credited average snapshot entry.1 shares := by
  have hIn : entry ∈ (allot (fun entry : LedgerOrder × Nat => entry.1.available) change
      (inSubmissionOrder (openGroup orders key))).map Prod.fst := by
    rw [map_fst_allot]
    exact mem_inSubmissionOrder.mpr hEntry
  obtain ⟨given, hGiven, rfl⟩ := List.mem_map.mp hIn
  obtain ⟨hNonneg, hRoom⟩ := allot_within h.nonneg available_nonneg hGiven
  exact ⟨given.2, hNonneg, hRoom, h.updated given hGiven⟩

/-- What a later order receives, the earlier one has no room for. -/
theorem GroupAllotted.in_order
    (hPair : List.Sublist [first, later] (inSubmissionOrder (openGroup orders key)))
    (hReceived : 0 < Services.received (later.1, updatedAt updates later)) :
    Services.received (first.1, updatedAt updates first) = first.1.available := by
  rw [← map_fst_allot (fun entry : LedgerOrder × Nat => entry.1.available) change
    (inSubmissionOrder (openGroup orders key)), List.sublist_map_iff] at hPair
  obtain ⟨pair, hSublist, hPair⟩ := hPair
  obtain ⟨given, rest, rfl, rfl, hRest⟩ := List.map_eq_cons_iff.mp hPair.symm
  obtain ⟨given', none, rfl, rfl, hNone⟩ := List.map_eq_cons_iff.mp hRest
  obtain rfl := List.map_eq_nil_iff.mp hNone
  rw [h.received (hSublist.subset (List.mem_cons_of_mem _ List.mem_cons_self))] at hReceived
  rw [h.received (hSublist.subset List.mem_cons_self)]
  exact rel_of_pair_sublist (allot_in_order h.nonneg available_nonneg) hSublist hReceived

end Allotted

/-- Whether an order comes before another of its group. -/
def ComesFirst (first later : LedgerOrder × Nat) : Prop :=
  first.1.submittedAt < later.1.submittedAt ∨
    first.1.submittedAt = later.1.submittedAt ∧ first.2 < later.2

/-- A change of the holdings is handed out once. -/
structure AllocatedOnce (python : PythonText) (snapshot baseline : JsonValue)
    (orders after : List LedgerOrder) : Prop where
  length : after.length = orders.length
  total : ∀ key ∈ groupKeys orders, ∃ change,
    positionChange python snapshot baseline key = .ok change ∧
      ((groupPairs orders after key).map received).sum =
        min change ((groupPairs orders after key).map (fun pair => pair.1.available)).sum
  never_less : ∀ pair ∈ orders.zip after, pair.1.knownFilled ≤ pair.2.knownFilled
  request : ∀ pair ∈ orders.zip after, pair.2.requested = pair.1.requested
  well_filled : ∀ pair ∈ orders.zip after, WellFilled pair.1 → WellFilled pair.2
  in_order : ∀ {first later : LedgerOrder × LedgerOrder} {i j : Nat},
    (orders.zip after)[i]? = some first → (orders.zip after)[j]? = some later →
    isOpenStatus first.1.status = true → isOpenStatus later.1.status = true →
    first.1.groupKey = later.1.groupKey → ComesFirst (first.1, i) (later.1, j) →
    0 < received later → first.2.knownFilled = first.1.requested
  untouched : ∀ pair ∈ orders.zip after, isOpenStatus pair.1.status = false → pair.2 = pair.1

theorem mem_zip_withUpdates :
    pair ∈ orders.zip (withUpdates updates orders) ↔
      ∃ place, orders[place]? = some pair.1 ∧ pair.2 = updatedAt updates (pair.1, place) := by
  rw [zip_withUpdates, List.mem_map]
  constructor
  · rintro ⟨⟨order, place⟩, hMem, rfl⟩
    exact ⟨place, List.mem_zipIdx_iff_getElem?.mp hMem, rfl⟩
  · rintro ⟨place, hFound, hAfter⟩
    exact ⟨(pair.1, place), List.mem_zipIdx_iff_getElem?.mpr hFound, Prod.ext rfl hAfter.symm⟩

theorem getElem?_zip_withUpdates
    (h : (orders.zip (withUpdates updates orders))[place]? = some pair) :
    orders[place]? = some pair.1 ∧ pair.2 = updatedAt updates (pair.1, place) := by
  rw [zip_withUpdates, List.getElem?_map, List.getElem?_zipIdx, Nat.zero_add] at h
  match hFound : orders[place]? with
  | none =>
    rw [hFound] at h
    cases h
  | some order =>
    rw [hFound] at h
    cases h
    exact ⟨rfl, rfl⟩

theorem WellFilled.credited {shares : Int} (h : WellFilled order)
    (hRoom : shares ≤ order.available) :
    WellFilled (credited price snapshot order shares) := by
  have hMarked : ∀ filled, order.knownFilled ≤ filled → filled ≤ order.requested →
      WellFilled (markFill order filled price snapshot) := by
    intro filled hKnown hWithin
    have hRequested := h.requested
    have hNotNegative := h.nonneg.trans h.within
    refine ⟨?_, ?_⟩
    · show 0 ≤ max order.knownFilled (max 0 (min filled order.requested))
      omega
    · show max order.knownFilled (max 0 (min filled order.requested)) ≤ order.quantityRequested
      omega
  rw [order.available_eq] at hRoom
  unfold Services.credited markKnown
  split
  · exact hMarked _ (by omega) (by omega)
  · split
    · exact hMarked _ (le_refl _) order.knownFilled_le
    · exact ⟨h.nonneg, h.within⟩

end Ledger

/-! ## Holdings are allocated once -/

theorem allocatedOnce_of_ok {orders after : List LedgerOrder}
    (h : reconcileOrdersWithSnapshot python orders snapshot (some baseline) = .ok after) :
    AllocatedOnce python snapshot baseline orders after := by
  obtain ⟨updates, rfl, hGroups, hUntouched⟩ := groups_allotted h
  have hOpen : ∀ {order place}, orders[place]? = some order → isOpenStatus order.status = true →
      ∃ average shares, 0 ≤ shares ∧ shares ≤ order.available ∧
        updatedAt updates (order, place) = credited average snapshot order shares := by
    intro order place hFound hStatus
    obtain ⟨change, average, hGroup⟩ := hGroups order.groupKey
      (mem_groupKeys.mpr ⟨order, List.mem_of_getElem? hFound, hStatus, rfl⟩)
    obtain ⟨shares, hNonneg, hRoom, hUpdated⟩ := hGroup.given
      (mem_openGroup.mpr ⟨hFound, hStatus, rfl⟩)
    exact ⟨average, shares, hNonneg, hRoom, hUpdated⟩
  have hClosed : ∀ {order place}, orders[place]? = some order →
      ¬ isOpenStatus order.status = true → updatedAt updates (order, place) = order :=
    fun hFound hStatus => hUntouched _ _ hFound (Bool.not_eq_true _ ▸ hStatus)
  refine ⟨?_, fun key hKey => ?_, fun pair hPair => ?_, fun pair hPair => ?_,
    fun pair hPair hWell => ?_, ?_, fun pair hPair hStatus => ?_⟩
  · simp [withUpdates]
  · obtain ⟨change, average, hGroup⟩ := hGroups key hKey
    refine ⟨change, hGroup.positionChange, ?_⟩
    rw [groupPairs_withUpdates, List.map_map, List.map_map]
    exact hGroup.total
  · obtain ⟨place, hFound, hAfter⟩ := mem_zip_withUpdates.mp hPair
    rw [hAfter]
    by_cases hStatus : isOpenStatus pair.1.status = true
    · obtain ⟨average, shares, hNonneg, hRoom, hUpdated⟩ := hOpen hFound hStatus
      rw [hUpdated, knownFilled_credited hNonneg hRoom]
      omega
    · rw [hClosed hFound hStatus]
  · obtain ⟨place, hFound, hAfter⟩ := mem_zip_withUpdates.mp hPair
    rw [hAfter]
    by_cases hStatus : isOpenStatus pair.1.status = true
    · obtain ⟨average, shares, -, -, hUpdated⟩ := hOpen hFound hStatus
      rw [hUpdated, requested_credited]
    · rw [hClosed hFound hStatus]
  · obtain ⟨place, hFound, hAfter⟩ := mem_zip_withUpdates.mp hPair
    rw [hAfter]
    by_cases hStatus : isOpenStatus pair.1.status = true
    · obtain ⟨average, shares, -, hRoom, hUpdated⟩ := hOpen hFound hStatus
      rw [hUpdated]
      exact hWell.credited hRoom
    · rw [hClosed hFound hStatus]
      exact hWell
  · intro first later i j hFirst hLater hFirstOpen hLaterOpen hKey hOrder hReceived
    obtain ⟨hFirst, hFirstAfter⟩ := getElem?_zip_withUpdates hFirst
    obtain ⟨hLater, hLaterAfter⟩ := getElem?_zip_withUpdates hLater
    obtain ⟨change, average, hGroup⟩ := hGroups later.1.groupKey
      (mem_groupKeys.mpr ⟨later.1, List.mem_of_getElem? hLater, hLaterOpen, rfl⟩)
    have hPair := earlier_sublist (mem_openGroup.mpr ⟨hFirst, hFirstOpen, hKey⟩)
      (mem_openGroup.mpr ⟨hLater, hLaterOpen, rfl⟩) hOrder
    have hAll : received (first.1, updatedAt updates (first.1, i)) = first.1.available :=
      hGroup.in_order hPair (by
        rw [← hLaterAfter]
        exact hReceived)
    rw [first.1.available_eq, ← hFirstAfter] at hAll
    unfold received at hAll
    dsimp only at hAll
    omega
  · obtain ⟨place, hFound, hAfter⟩ := mem_zip_withUpdates.mp hPair
    rw [hAfter, hUntouched _ _ hFound hStatus]

/-- The holdings of a snapshot can be read: where it is an object, each section that is an
object has holdings to go through. -/
def Readable (snapshot : JsonValue) : Prop :=
  ∀ fields, snapshot = .object fields →
    ∀ name ∈ ["domestic", "overseas"], ∃ holdings, sectionHoldings fields name = .ok holdings

theorem Readable.holdingForSymbol (h : Readable snapshot) (python : PythonText) (symbol : String) :
    ∃ holding, holdingForSymbol python snapshot symbol = .ok holding := by
  cases snapshot with
  | object fields =>
    obtain ⟨domestic, hDomestic⟩ := h fields rfl "domestic" (by simp)
    obtain ⟨overseas, hOverseas⟩ := h fields rfl "overseas" (by simp)
    unfold Services.holdingForSymbol
    simp only [hDomestic, hOverseas, bind, Except.bind]
    split <;> exact ⟨_, rfl⟩
  | _ => exact ⟨_, rfl⟩

theorem reconcileOrdersWithSnapshot_returns (hSnapshot : Readable snapshot)
    (hBaseline : Readable baseline) (python : PythonText) (orders : List LedgerOrder) :
    ∃ after, reconcileOrdersWithSnapshot python orders snapshot (some baseline) = .ok after := by
  have hEach : ∀ key ∈ groupKeys orders, ∃ updates,
      reconcileGroup python snapshot (some baseline) key (openGroup orders key) = .ok updates := by
    intro key _
    obtain ⟨current, hCurrent⟩ := hSnapshot.holdingForSymbol python key.1
    obtain ⟨before, hBefore⟩ := hBaseline.holdingForSymbol python key.1
    exact ⟨_, bind_eq_ok.mpr ⟨current, hCurrent, bind_eq_ok.mpr ⟨before, hBefore, rfl⟩⟩⟩
  obtain ⟨groups, hGroups⟩ := mapM_succeeds_iff.mpr hEach
  exact ⟨_, bind_eq_ok.mpr ⟨groups, hGroups, rfl⟩⟩

/-- A snapshot with one holding. -/
def oneHolding (quantity : ℚ) : JsonValue :=
  .object [("overseas", .object [("holdings", .list [.object [("symbol", .text "AAPL"),
    ("quantity", .number (.finite quantity))]])])]

theorem reconcileOrdersWithSnapshot_single {order : LedgerOrder} {current average before : ℚ}
    (hOpen : isOpenStatus order.status = true)
    (hCurrent : holdingForSymbol python snapshot order.symbol = .ok (current, average))
    (hBefore : holdingForSymbol python baseline order.symbol = .ok (before, price)) :
    reconcileOrdersWithSnapshot python [order] snapshot (some baseline) =
      .ok (withUpdates (allocateDelta average snapshot
        (confirmedDelta order.side current before) [(order, 0)]) [order]) := by
  have hKeys : groupKeys [order] = [order.groupKey] := by simp [groupKeys, hOpen]
  have hGroup : openGroup [order] order.groupKey = [(order, 0)] := by simp [openGroup, hOpen]
  have hUpdates : reconcileGroup python snapshot (some baseline) order.groupKey [(order, 0)] =
      .ok (allocateDelta average snapshot (confirmedDelta order.side current before)
        [(order, 0)]) := by
    unfold reconcileGroup inSubmissionOrder
    rw [List.mergeSort_singleton]
    exact bind_eq_ok.mpr ⟨_, hCurrent, bind_eq_ok.mpr ⟨_, hBefore, rfl⟩⟩
  unfold reconcileOrdersWithSnapshot
  rw [hKeys]
  refine bind_eq_ok.mpr ⟨[_], mapM_cons_ok.mpr ⟨_, [], (congrArg _ hGroup).trans hUpdates, rfl,
    rfl⟩, ?_⟩
  rw [List.flatten_singleton]
  rfl

theorem holdingForSymbol_oneHolding_none :
    holdingForSymbol plainText (oneHolding 0) "AAPL" = .ok (0, 0) := by
  decide +kernel

theorem readable_oneHolding (quantity : ℚ) : Readable (oneHolding quantity) := by
  intro fields hFields name hName
  cases hFields
  rcases List.mem_cons.mp hName with rfl | hName
  · exact ⟨_, rfl⟩
  · rw [List.mem_singleton.mp hName]
    exact ⟨_, rfl⟩

end QuantApp.Services
