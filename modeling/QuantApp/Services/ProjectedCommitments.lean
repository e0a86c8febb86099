import Mathlib.Algebra.Order.BigOperators.Group.List
import Mathlib.Tactic.Linarith
import QuantApp.Services.PortfolioExposures

/-!
# What the projection leaves out

`_portfolio_projected_exposures` counts a reservation with the first pending entry that names
it and passes over every later entry that names it too.  The exposures of a symbol therefore
fall short of its commitments by the notional of the entries passed over, less what the
reservations hold beyond the entries they are counted with.
-/

namespace QuantApp.Services

open Core Risk Verified

variable {exposure : PortfolioProjectedExposure} {cards : List TradeCardState}
  {orders : List ExecutionOrderRecord} {reservations : OpenReservations}
  {activeReservations : List CapitalReservation} {externalOrders : List DiscoveredExternalOrder}
  {order : ExecutionOrderRecord} {projection after : PendingProjection}
  {pending held external : List PortfolioProjectedExposure}

/-- The amounts of the items of one symbol, summed. -/
def amountAt {α : Type} (symbolOf : α → String) (amountOf : α → ℚ) (symbol : String)
    (items : List α) : ℚ :=
  ((items.filter (symbolOf · = symbol)).map amountOf).sum

section Amounts

variable {α β : Type} {symbolOf : α → String} {amountOf : α → ℚ} {symbol : String}

@[simp] theorem amountAt_nil : amountAt symbolOf amountOf symbol [] = 0 := rfl

theorem amountAt_cons {item : α} {items : List α} :
    amountAt symbolOf amountOf symbol (item :: items) =
      (if symbolOf item = symbol then amountOf item else 0) +
        amountAt symbolOf amountOf symbol items := by
  unfold amountAt
  by_cases hSymbol : symbolOf item = symbol
  all_goals simp [hSymbol]

@[simp] theorem amountAt_append {items others : List α} :
    amountAt symbolOf amountOf symbol (items ++ others) =
      amountAt symbolOf amountOf symbol items + amountAt symbolOf amountOf symbol others := by
  simp [amountAt]

theorem amountAt_eq_of_forall₂ {symbolOf' : β → String} {amountOf' : β → ℚ} {items : List α}
    {others : List β}
    (h : List.Forall₂ (fun item other =>
      symbolOf' other = symbolOf item ∧ amountOf' other = amountOf item) items others) :
    amountAt symbolOf' amountOf' symbol others = amountAt symbolOf amountOf symbol items := by
  induction h with
  | nil => rfl
  | cons hHead _ ih => rw [amountAt_cons, amountAt_cons, ih, hHead.1, hHead.2]

theorem amountAt_add {extraOf : α → ℚ} {items : List α} :
    amountAt symbolOf (fun item => amountOf item + extraOf item) symbol items =
      amountAt symbolOf amountOf symbol items + amountAt symbolOf extraOf symbol items := by
  simp [amountAt, List.sum_map_add]

end Amounts

/-! ## Entries and the reservations they name -/

/-- The pending entries an exposure is made of: each names no open reservation, or is the
first to name it. -/
def countedEntries (reservations : OpenReservations) :
    List String → List ExecutionOrderRecord → List ExecutionOrderRecord
  | _, [] => []
  | seen, order :: orders =>
    let activeId := activeReservationId reservations order
    if activeId ∈ seen then countedEntries reservations seen orders
    else
      order :: countedEntries reservations (if activeId = "" then seen else seen ++ [activeId])
        orders

/-- The pending entries that name an open reservation an earlier one names. -/
def repeatedEntries (reservations : OpenReservations) :
    List String → List ExecutionOrderRecord → List ExecutionOrderRecord
  | _, [] => []
  | seen, order :: orders =>
    let activeId := activeReservationId reservations order
    if activeId ∈ seen then order :: repeatedEntries reservations seen orders
    else
      repeatedEntries reservations (if activeId = "" then seen else seen ++ [activeId]) orders

/-- The reservations that have been named after some entries. -/
def namedReservationIds (reservations : OpenReservations) (seen : List String)
    (orders : List ExecutionOrderRecord) : List String :=
  orders.foldl (fun seen order =>
    let activeId := activeReservationId reservations order
    if activeId ∈ seen ∨ activeId = "" then seen else seen ++ [activeId]) seen

/-- What a reservation holds beyond the entry it is counted with. -/
def reservedBeyond (reservations : OpenReservations) (order : ExecutionOrderRecord) : ℚ :=
  max 0 (namedNotional reservations order - pendingNotional order)

theorem amountAt_entries (reservations : OpenReservations) (amountOf : ExecutionOrderRecord → ℚ)
    (symbol : String) (seen : List String) (orders : List ExecutionOrderRecord) :
    amountAt (·.symbol) amountOf symbol orders =
      amountAt (·.symbol) amountOf symbol (countedEntries reservations seen orders) +
        amountAt (·.symbol) amountOf symbol (repeatedEntries reservations seen orders) := by
  induction orders generalizing seen with
  | nil => simp [countedEntries, repeatedEntries]
  | cons order orders ih =>
    unfold countedEntries repeatedEntries
    dsimp only
    split
    · rw [amountAt_cons, amountAt_cons, ih seen]
      ring
    · rw [amountAt_cons, amountAt_cons, ih]
      ring

/-! ## The loop over the orders -/

/-- An exposure made of a pending entry. -/
structure ProjectsEntry (reservations : OpenReservations) (order : ExecutionOrderRecord)
    (exposure : PortfolioProjectedExposure) : Prop where
  symbol : exposure.symbol = order.symbol
  gross : exposure.grossNotionalUsd = max (pendingNotional order) (namedNotional reservations order)
  reservationId : exposure.reservationId = activeReservationId reservations order

theorem makeExposure_fields {symbol : String} {gross risk : ℚ} {source reservationId : String}
    {groups : RiskGroups}
    (h : makeExposure symbol gross risk source reservationId groups = .ok exposure) :
    exposure.symbol = symbol ∧ exposure.grossNotionalUsd = gross ∧
      exposure.reservationId = reservationId := by
  unfold makeExposure at h
  repeat' split at h
  all_goals cases h
  exact ⟨rfl, rfl, rfl⟩

theorem pendingExposure_projects (h : pendingExposure cards reservations order = .ok exposure) :
    ProjectsEntry reservations order exposure := by
  obtain ⟨hSymbol, hGross, hId⟩ := makeExposure_fields h
  exact ⟨hSymbol, hGross, hId⟩

/-- A turn of the loop: an order that is no pending entry or repeats a reservation changes
nothing, any other adds its exposure. -/
theorem addPendingExposure_ok
    (h : addPendingExposure cards reservations projection order = .ok after) :
    (isPendingEntry order = false ∧ after = projection) ∨
      (isPendingEntry order = true ∧
        activeReservationId reservations order ∈ projection.seenReservationIds ∧
          after = projection) ∨
      (isPendingEntry order = true ∧
        activeReservationId reservations order ∉ projection.seenReservationIds ∧
          ∃ exposure, ProjectsEntry reservations order exposure ∧
            after = projection.add (activeReservationId reservations order) exposure) := by
  unfold addPendingExposure at h
  dsimp only at h
  split at h
  next hEntry =>
    split at h
    · cases h
    · split at h
      next hSeen =>
        cases h
        exact .inr (.inl ⟨hEntry, hSeen, rfl⟩)
      next hNew =>
        obtain ⟨exposure, hExposure, rfl⟩ := map_eq_ok.mp h
        exact .inr (.inr ⟨hEntry, hNew, exposure, pendingExposure_projects hExposure, rfl⟩)
  next hOther =>
    cases h
    exact .inl ⟨by simpa using hOther, rfl⟩

/-- The whole loop: an exposure for each counted entry, in their order. -/
theorem pending_run
    (h : orders.foldlM (addPendingExposure cards reservations) projection = .ok after) :
    ∃ exposures, after.exposures = projection.exposures ++ exposures ∧
      List.Forall₂ (ProjectsEntry reservations)
        (countedEntries reservations projection.seenReservationIds
          (orders.filter isPendingEntry)) exposures ∧
      after.seenReservationIds = namedReservationIds reservations
        projection.seenReservationIds (orders.filter isPendingEntry) := by
  induction orders generalizing projection with
  | nil =>
    cases h
    exact ⟨[], (List.append_nil _).symm, .nil, rfl⟩
  | cons order orders ih =>
    obtain ⟨next, hStep, hRest⟩ := foldlM_cons_ok.mp h
    obtain ⟨exposures, hAfter, hProjects, hSeen⟩ := ih hRest
    rcases addPendingExposure_ok hStep with ⟨hOther, rfl⟩ | ⟨hEntry, hKnown, rfl⟩ |
      ⟨hEntry, hNew, exposure, hProjected, rfl⟩
    · rw [List.filter_cons_of_neg (by simp [hOther])]
      exact ⟨exposures, hAfter, hProjects, hSeen⟩
    · rw [List.filter_cons_of_pos hEntry]
      refine ⟨exposures, hAfter, ?_, ?_⟩
      · unfold countedEntries
        rw [if_pos hKnown]
        exact hProjects
      · unfold namedReservationIds
        rw [List.foldl_cons, if_pos (.inl hKnown)]
        exact hSeen
    · rw [List.filter_cons_of_pos hEntry]
      refine ⟨exposure :: exposures, ?_, ?_, ?_⟩
      · rw [hAfter]
        simp [PendingProjection.add]
      · unfold countedEntries
        rw [if_neg hNew]
        exact .cons hProjected hProjects
      · rw [hSeen]
        unfold namedReservationIds
        rw [List.foldl_cons]
        by_cases hEmpty : activeReservationId reservations order = ""
        · simp [PendingProjection.add, hEmpty]
        · rw [if_neg (by simp [hNew, hEmpty])]
          simp [PendingProjection.add, hEmpty]

/-! ## Each reservation once -/

/-- The reservations a list of exposures names. -/
def namedBy (exposures : List PortfolioProjectedExposure) : List String :=
  (exposures.map (·.reservationId)).filter (· ≠ "")

theorem namedReservationIds_nodup (reservations : OpenReservations) {seen : List String}
    (orders : List ExecutionOrderRecord) (hSeen : seen.Nodup) :
    (namedReservationIds reservations seen orders).Nodup := by
  induction orders generalizing seen with
  | nil => exact hSeen
  | cons order orders ih =>
    unfold namedReservationIds
    rw [List.foldl_cons]
    apply ih
    dsimp only
    split
    · exact hSeen
    next hNew =>
      rw [not_or] at hNew
      refine List.Nodup.append hSeen (List.nodup_singleton _) ?_
      intro id hOld hSelf
      rw [List.mem_singleton.mp hSelf] at hOld
      exact hNew.1 hOld

/-- The named reservations are those of the counted entries. -/
theorem namedReservationIds_eq (reservations : OpenReservations) (seen : List String)
    (orders : List ExecutionOrderRecord) :
    namedReservationIds reservations seen orders =
      seen ++ ((countedEntries reservations seen orders).map
        (activeReservationId reservations)).filter (· ≠ "") := by
  induction orders generalizing seen with
  | nil => simp [namedReservationIds, countedEntries]
  | cons order orders ih =>
    have hTurn : namedReservationIds reservations seen (order :: orders) =
        namedReservationIds reservations
          (if activeReservationId reservations order ∈ seen ∨
              activeReservationId reservations order = "" then seen
            else seen ++ [activeReservationId reservations order]) orders := rfl
    have hCounted : countedEntries reservations seen (order :: orders) =
        if activeReservationId reservations order ∈ seen then
          countedEntries reservations seen orders
        else
          order :: countedEntries reservations
            (if activeReservationId reservations order = "" then seen
            else seen ++ [activeReservationId reservations order]) orders := rfl
    rw [hTurn, ih, hCounted]
    by_cases hKnown : activeReservationId reservations order ∈ seen
    · rw [if_pos (.inl hKnown), if_pos hKnown]
    · by_cases hEmpty : activeReservationId reservations order = ""
      · rw [hEmpty] at hKnown
        simp [hKnown, hEmpty]
      · simp [hKnown, hEmpty]

theorem ids_eq_of_forall₂ {α β : Type} {idOf : α → String} {idOf' : β → String}
    {items : List α} {others : List β}
    (h : List.Forall₂ (fun item other => idOf' other = idOf item) items others) :
    others.map idOf' = items.map idOf := by
  induction h with
  | nil => rfl
  | cons hHead _ ih => rw [List.map_cons, List.map_cons, ih, hHead]

def externalNotional (order : DiscoveredExternalOrder) : ℚ :=
  (order.quantityRequested - order.filledQuantity) * order.limitPrice

theorem externalExposure_fields {order : DiscoveredExternalOrder}
    (h : externalExposure order = .ok exposure) :
    exposure.symbol = order.symbol ∧ exposure.grossNotionalUsd = externalNotional order ∧
      exposure.reservationId = "" := by
  unfold externalExposure at h
  split at h
  · cases h
  · exact makeExposure_fields h

/-! ## The three loops together -/

/-- The pending entries of an account. -/
def pendingEntries (orders : List ExecutionOrderRecord) : List ExecutionOrderRecord :=
  orders.filter isPendingEntry

/-- What a projection that returned consists of. -/
structure Projection (orders : List ExecutionOrderRecord)
    (activeReservations : List CapitalReservation)
    (externalOrders : List DiscoveredExternalOrder)
    (pending held external : List PortfolioProjectedExposure) : Prop where
  pending : List.Forall₂ (ProjectsEntry (openReservations activeReservations))
    (countedEntries (openReservations activeReservations) [] (pendingEntries orders)) pending
  held : List.Forall₂
    (fun reservation exposure => exposure.symbol = reservation.symbol ∧
      exposure.grossNotionalUsd = reservation.remainingReservedNotional ∧
      exposure.reservationId = reservation.reservationId)
    (unnamedReservations (openReservations activeReservations)
      (namedReservationIds (openReservations activeReservations) [] (pendingEntries orders))) held
  external : List.Forall₂
    (fun order exposure => exposure.symbol = order.symbol ∧
      exposure.grossNotionalUsd = externalNotional order ∧ exposure.reservationId = "")
    (externalOrders.filter isUnresolvedExternalBuy) external

theorem portfolioProjectedExposures_ok {exposures : List PortfolioProjectedExposure}
    (h : portfolioProjectedExposures cards orders activeReservations externalOrders =
      .ok exposures) :
    ∃ pending held external, exposures = pending ++ held ++ external ∧
      Projection orders activeReservations externalOrders pending held external := by
  obtain ⟨projection, hPending, hRest⟩ := bind_eq_ok.mp h
  obtain ⟨held, hHeld, hRest⟩ := bind_eq_ok.mp hRest
  obtain ⟨external, hExternal, hPure⟩ := bind_eq_ok.mp hRest
  cases hPure
  obtain ⟨pending, hExposures, hProjects, hSeen⟩ := pending_run hPending
  refine ⟨pending, held, external, ?_, ?_⟩
  · rw [hExposures]
    simp
  · constructor
    · exact hProjects
    · rw [hSeen] at hHeld
      exact (mapM_forall₂ hHeld).imp fun _ _ hMade => makeExposure_fields hMade
    · exact (mapM_forall₂ hExternal).imp fun _ _ hMade => externalExposure_fields hMade

section

variable (h : Projection orders activeReservations externalOrders pending held external)
include h

theorem Projection.nodup_namedBy : (namedBy (pending ++ held ++ external)).Nodup := by
  have hPending : namedBy pending =
      namedReservationIds (openReservations activeReservations) [] (pendingEntries orders) := by
    unfold namedBy
    rw [ids_eq_of_forall₂ (h.pending.imp fun _ _ hProjects => hProjects.reservationId),
      namedReservationIds_eq, List.nil_append]
  have hHeldIds : held.map (·.reservationId) =
      (unnamedReservations (openReservations activeReservations)
        (namedReservationIds (openReservations activeReservations) []
          (pendingEntries orders))).map (·.reservationId) :=
    ids_eq_of_forall₂ (h.held.imp fun _ _ hFields => hFields.2.2)
  have hExternal : namedBy external = [] := by
    unfold namedBy
    rw [List.filter_eq_nil_iff]
    intro id hId
    obtain ⟨exposure, hExposure, rfl⟩ := List.mem_map.mp hId
    obtain ⟨order, _, hFields⟩ := forall₂_mem_right h.external hExposure
    simp [hFields.2.2]
  have hJoined : namedBy (pending ++ held ++ external) =
      namedBy pending ++ (namedBy held ++ namedBy external) := by
    simp [namedBy]
  rw [hJoined, hExternal, List.append_nil, hPending]
  refine List.Nodup.append (namedReservationIds_nodup _ _ List.nodup_nil) ?_ ?_
  · refine List.Nodup.filter _ ?_
    rw [hHeldIds]
    refine (List.filter_sublist.map _).nodup ?_
    have hKeys := @Dictionary.map_key_values_fileUnder _ _ _ CapitalReservation.reservationId
      (activeReservations.filter (·.isOpen))
    exact hKeys ▸ (openReservations activeReservations).keyed
  · intro id hNamed hHeld
    have hMem := (List.mem_filter.mp hHeld).1
    rw [hHeldIds] at hMem
    obtain ⟨reservation, hReservation, rfl⟩ := List.mem_map.mp hMem
    have hUnnamed := (List.mem_filter.mp hReservation).2
    simp [hNamed] at hUnnamed

theorem Projection.amountAt_gross (symbol : String) :
    amountAt (·.symbol) (·.grossNotionalUsd) symbol (pending ++ held ++ external) =
      amountAt (·.symbol) pendingNotional symbol
          (countedEntries (openReservations activeReservations) [] (pendingEntries orders)) +
        amountAt (·.symbol) (reservedBeyond (openReservations activeReservations)) symbol
          (countedEntries (openReservations activeReservations) [] (pendingEntries orders)) +
        amountAt (·.symbol) (·.remainingReservedNotional) symbol
          (unnamedReservations (openReservations activeReservations)
            (namedReservationIds (openReservations activeReservations) []
              (pendingEntries orders))) +
        amountAt (·.symbol) externalNotional symbol
          (externalOrders.filter isUnresolvedExternalBuy) := by
  have hPending : amountAt (·.symbol) (·.grossNotionalUsd) symbol pending =
      amountAt (·.symbol)
        (fun order => pendingNotional order +
          reservedBeyond (openReservations activeReservations) order) symbol
        (countedEntries (openReservations activeReservations) [] (pendingEntries orders)) := by
    apply amountAt_eq_of_forall₂
    refine h.pending.imp fun order exposure hProjects => ⟨hProjects.symbol, ?_⟩
    rw [hProjects.gross]
    unfold reservedBeyond
    rw [← max_add_add_left]
    simp
  have hHeld : amountAt (·.symbol) (·.grossNotionalUsd) symbol held = _ :=
    amountAt_eq_of_forall₂ (h.held.imp fun _ _ hFields => ⟨hFields.1, hFields.2.1⟩)
  have hExternal : amountAt (·.symbol) (·.grossNotionalUsd) symbol external = _ :=
    amountAt_eq_of_forall₂ (h.external.imp fun _ _ hFields => ⟨hFields.1, hFields.2.1⟩)
  rw [amountAt_append, amountAt_append, hPending, hHeld, hExternal, amountAt_add]

end

/-! ## Every commitment once and in full -/

/-- Every open reservation is named at most once, and the exposures of a symbol cover its
pending entries and its unowned orders. -/
structure CommitmentsProjected (orders : List ExecutionOrderRecord)
    (activeReservations : List CapitalReservation)
    (externalOrders : List DiscoveredExternalOrder)
    (exposures : List PortfolioProjectedExposure) : Prop where
  once : ∀ reservation ∈ activeReservations, reservation.isOpen = true →
    reservation.reservationId ≠ "" →
      (exposures.filter (·.reservationId = reservation.reservationId)).length ≤ 1
  inFull : ∀ symbol,
    amountAt (·.symbol) pendingNotional symbol (pendingEntries orders) +
        amountAt (·.symbol) externalNotional symbol
          (externalOrders.filter isUnresolvedExternalBuy) ≤
      amountAt (·.symbol) (·.grossNotionalUsd) symbol exposures

/-- The commitments are projected once and in full exactly when, for every symbol, the entries
that repeat a reservation are worth no more than what the reservations hold beyond the entries
they are counted with. -/
theorem commitments_projected_iff {cards : List TradeCardState}
    {orders : List ExecutionOrderRecord} {activeReservations : List CapitalReservation}
    {externalOrders : List DiscoveredExternalOrder}
    {exposures : List PortfolioProjectedExposure}
    (h : portfolioProjectedExposures cards orders activeReservations externalOrders =
      .ok exposures) :
    CommitmentsProjected orders activeReservations externalOrders exposures ↔
      ∀ symbol,
        amountAt (·.symbol) pendingNotional symbol
            (repeatedEntries (openReservations activeReservations) [] (pendingEntries orders)) ≤
          amountAt (·.symbol) (reservedBeyond (openReservations activeReservations)) symbol
              (countedEntries (openReservations activeReservations) [] (pendingEntries orders)) +
            amountAt (·.symbol) (·.remainingReservedNotional) symbol
              (unnamedReservations (openReservations activeReservations)
                (namedReservationIds (openReservations activeReservations) []
                  (pendingEntries orders))) := by
  obtain ⟨pending, held, external, rfl, hProjection⟩ := portfolioProjectedExposures_ok h
  have hEntries := fun symbol => amountAt_entries (openReservations activeReservations)
    pendingNotional symbol [] (pendingEntries orders)
  constructor
  · intro hProjected symbol
    have hFull := hProjected.inFull symbol
    rw [hProjection.amountAt_gross, hEntries symbol] at hFull
    linarith
  · intro hCovered
    constructor
    · intro reservation _ _ hNamed
      have hCount := List.nodup_iff_count_le_one.mp hProjection.nodup_namedBy
        reservation.reservationId
      unfold namedBy at hCount
      rw [List.count_filter (by simpa using hNamed), List.count_eq_countP, List.countP_map,
        List.countP_eq_length_filter] at hCount
      exact hCount
    · intro symbol
      rw [hProjection.amountAt_gross, hEntries symbol]
      linarith [hCovered symbol]

/-- A live entry of ten shares at a hundred, of reservation `r1`. -/
def retriedEntry (clientOrderId : String) (h : clientOrderId ≠ "") : ExecutionOrderRecord :=
  { environment := "PROD", accountNo := "1", symbol := "AAPL", side := .buy, intent := .entry
    clientOrderId := clientOrderId, submittedQuantity := 10, remainingQuantity := 10
    submittedLimitPrice := 100, preparedAt := isoformat 0, status := .working
    capitalReservationId := "r1", clientOrderIdNamed := h }

def retriedEntries : List ExecutionOrderRecord :=
  [retriedEntry "c1" c1_ne_empty, retriedEntry "c2" (by decide +kernel)]

def retriedReservation (remaining : ℚ) : CapitalReservation :=
  { reservationId := "r1", environment := "PROD", accountNo := "1", symbol := "AAPL"
    requestedNotional := 2000, remainingReservedNotional := remaining }

/-- A reservation that holds enough for both of its entries. -/
theorem commitments_projected_retried :
    ∃ exposures,
      portfolioProjectedExposures [] retriedEntries [retriedReservation 2000] [] = .ok exposures ∧
      CommitmentsProjected retriedEntries [retriedReservation 2000] [] exposures := by
  have hOk : (portfolioProjectedExposures [] retriedEntries
      [retriedReservation 2000] []).isOk = true := by decide +kernel
  cases hRun : portfolioProjectedExposures [] retriedEntries [retriedReservation 2000] [] with
  | error =>
    rw [hRun] at hOk
    cases hOk
  | ok exposures =>
    refine ⟨exposures, rfl, (commitments_projected_iff hRun).mpr ?_⟩
    intro symbol
    have hRepeated : repeatedEntries (openReservations [retriedReservation 2000]) []
        (pendingEntries retriedEntries) = [retriedEntry "c2" (by decide +kernel)] := by
      decide +kernel
    have hCounted : countedEntries (openReservations [retriedReservation 2000]) []
        (pendingEntries retriedEntries) = [retriedEntry "c1" c1_ne_empty] := by
      decide +kernel
    have hUnnamed : unnamedReservations (openReservations [retriedReservation 2000])
        (namedReservationIds (openReservations [retriedReservation 2000]) []
          (pendingEntries retriedEntries)) = [] := by decide +kernel
    have hWorth : pendingNotional (retriedEntry "c2" (by decide +kernel)) ≤
        reservedBeyond (openReservations [retriedReservation 2000])
          (retriedEntry "c1" c1_ne_empty) := by decide +kernel
    rw [hRepeated, hCounted, hUnnamed, amountAt_cons, amountAt_cons, amountAt_nil,
      amountAt_nil, amountAt_nil]
    by_cases hSymbol : "AAPL" = symbol
    · simpa [retriedEntry, hSymbol] using hWorth
    · simp [retriedEntry, hSymbol]

/-- The second of two entries that name one reservation is left out. -/
theorem second_entry_left_out :
    ∃ exposures,
      portfolioProjectedExposures [] retriedEntries [retriedReservation 1000] [] = .ok exposures ∧
      ¬ CommitmentsProjected retriedEntries [retriedReservation 1000] [] exposures := by
  have hGross : (fun exposures => amountAt (·.symbol) (·.grossNotionalUsd) "AAPL" exposures) <$>
      portfolioProjectedExposures [] retriedEntries [retriedReservation 1000] [] =
        .ok 1000 := by decide +kernel
  obtain ⟨exposures, hRun, hAmount⟩ := map_eq_ok.mp hGross
  refine ⟨exposures, hRun, ?_⟩
  intro hProjected
  have hEntries : amountAt (·.symbol) pendingNotional "AAPL" (pendingEntries retriedEntries) +
      amountAt (·.symbol) externalNotional "AAPL"
        (([] : List DiscoveredExternalOrder).filter isUnresolvedExternalBuy) = 2000 := by
    decide +kernel
  have hFull := hProjected.inFull "AAPL"
  rw [hEntries, hAmount] at hFull
  norm_num at hFull

end QuantApp.Services
