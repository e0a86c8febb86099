import QuantApp.Services.CacheWriters

/-!
# The cached account state

`load_account_local_state` against the writers.  The three tables are read one after the
other, and the rows are kept under the generations that were read before and found unchanged
after.  Where no table is read in the silence of a transaction on it, rows that are kept are
those of all three tables at the moment of the second reading.
-/

namespace QuantApp.Services

open Core Verified
open Published (log fresh_advance)

variable {done : TransactionStage → Prop} {call : StateCall}

section Views

variable {Tx Reader : Type}

def ordersView (key : AccountKey) (world : CacheWorld Tx Reader) :
    Published StateGeneration (List ExecutionOrderRecord) :=
  world.view stateGeneration (listExecutionOrdersForAccount key) (TableMarksDone .executionOrders)

def reservationsView (key : AccountKey) (world : CacheWorld Tx Reader) :
    Published StateGeneration (List CapitalReservation) :=
  world.view stateGeneration (listReservationsForAccount key)
    (TableMarksDone .capitalReservations)

def externalsView (key : AccountKey) (world : CacheWorld Tx Reader) :
    Published StateGeneration (List DiscoveredExternalOrder) :=
  world.view stateGeneration (listExternalOrdersForAccount key)
    (TableMarksDone .discoveredExternalOrders)

/-- Every table's rows are those of a moment from `start` on. -/
structure StateSince (world : CacheWorld Tx Reader) (start : Nat) (key : AccountKey)
    (state : RelationalState) : Prop where
  orders : (ordersView key world).Since start state.executionOrders
  reservations : (reservationsView key world).Since start state.capitalReservations
  externals : (externalsView key world).Since start state.externalOrders

/-- The rows are the present ones, and no transaction on their tables is silent. -/
structure StateFresh (world : CacheWorld Tx Reader) (key : AccountKey)
    (state : RelationalState) : Prop where
  orders : (ordersView key world).Fresh state.executionOrders
  reservations : (reservationsView key world).Fresh state.capitalReservations
  externals : (externalsView key world).Fresh state.externalOrders

/-- The rows are an entry of the generation. -/
structure StateEntry (world : CacheWorld Tx Reader) (key : AccountKey)
    (generation : StateGeneration) (state : RelationalState) : Prop where
  orders : (ordersView key world).Entry 0 generation state.executionOrders
  reservations : (reservationsView key world).Entry 0 generation state.capitalReservations
  externals : (externalsView key world).Entry 0 generation state.externalOrders

/-- What a call knows from the reads it has made. -/
def StateCall.Kept (world : CacheWorld Tx Reader) : StateCall → Prop
  | .idle => True
  | .started start _ => start ≤ world.past.length
  | .readWrites start _ writes =>
    start ≤ world.past.length ∧ ∃ n moment, start ≤ n ∧ world.moments[n]? = some moment ∧
      moment.writeGeneration = writes ∧
      stateGeneration moment ≤ stateGeneration world.moment
  | .generated start _ generation =>
    start ≤ world.past.length ∧ generation ≤ stateGeneration world.moment ∧
      ∃ n moment, start ≤ n ∧ world.moments[n]? = some moment ∧ stateGeneration moment ≤ generation
  | .missed start _ generation _ =>
    start ≤ world.past.length ∧ generation ≤ stateGeneration world.moment
  | .readOrders start key generation _ orders =>
    (start ≤ world.past.length ∧ generation ≤ stateGeneration world.moment) ∧
      (ordersView key world).Since start orders ∧
      (generation = stateGeneration world.moment → (ordersView key world).Fresh orders)
  | .readReservations start key generation _ orders reservations =>
    (start ≤ world.past.length ∧ generation ≤ stateGeneration world.moment) ∧
      ((ordersView key world).Since start orders ∧
        (reservationsView key world).Since start reservations) ∧
      (generation = stateGeneration world.moment → (ordersView key world).Fresh orders ∧
        (reservationsView key world).Fresh reservations)
  | .readAll start key generation _ state =>
    generation ≤ stateGeneration world.moment ∧ StateSince world start key state ∧
      (generation = stateGeneration world.moment → StateFresh world key state)
  | .rereadWrites start key generation _ state writes =>
    generation ≤ stateGeneration world.moment ∧ StateSince world start key state ∧
      (writes = generation.1 → generation.2 = statePulse world.moment →
        StateEntry world key generation state)
  | .verified start key generation _ state =>
    StateSince world start key state ∧ StateEntry world key generation state

structure StateReaders.Kept (world : CacheWorld Tx Reader) (readers : StateReaders Reader) :
    Prop where
  answers : ∀ answer ∈ readers.answers, StateSince world answer.start answer.key answer.state
  cache : ∀ key cached, readers.cache key = some cached →
    StateEntry world key cached.generation cached.state
  calls : ∀ reader, (readers.calls reader).Kept world

/-- The condition on a call: no table is read in the silence of a transaction on it that the
generation does not tell. -/
def StateCall.Heard (world : CacheWorld Tx Reader) : StateCall → StateStep → Prop
  | .missed _ key generation _, .listOrders =>
    generation = stateGeneration world.moment → ¬ (ordersView key world).silent
  | .readOrders _ key generation _ _, .listReservations =>
    generation = stateGeneration world.moment → ¬ (reservationsView key world).silent
  | .readReservations _ key generation _ _ _, .listExternals =>
    generation = stateGeneration world.moment → ¬ (externalsView key world).silent
  | _, _ => True

/-! ## One more moment -/

/-- What one step is for the readers of the account state. -/
structure StateAdvances (world after : CacheWorld Tx Reader) : Prop where
  past : after.past = world.moments
  generation : stateGeneration world.moment ≤ stateGeneration after.moment
  orders : ∀ key, (ordersView key world).Advances (ordersView key after)
  reservations : ∀ key, (reservationsView key world).Advances (reservationsView key after)
  externals : ∀ key, (externalsView key world).Advances (externalsView key after)

variable {world after : CacheWorld Tx Reader} {config : CacheConfig} {start n : Nat}
  {key : AccountKey} {state : RelationalState} {generation : StateGeneration}

theorem stateAdvances [DecidableEq Tx] [DecidableEq Reader] {step : CacheStep Tx Reader}
    (hNext : world.next config step = some after) :
    StateAdvances world after where
  past := by
    obtain ⟨acted, _, rfl⟩ := Option.map_eq_some_iff.mp hNext
    rfl
  generation := ((orders_discipline ("", "")).advances hNext).token
  orders := fun key => (orders_discipline key).advances hNext
  reservations := fun key => (reservations_discipline key).advances hNext
  externals := fun key => (externals_discipline key).advances hNext

theorem StateAdvances.length (h : StateAdvances world after) :
    world.past.length ≤ after.past.length := by
  rw [h.past]
  unfold CacheWorld.moments
  rw [List.length_append]
  exact Nat.le_add_right _ _

theorem StateAdvances.moment (h : StateAdvances world after) {moment : CoordinationMoment}
    (hMoment : world.moments[n]? = some moment) : after.moments[n]? = some moment := by
  unfold CacheWorld.moments
  rw [h.past, List.getElem?_append_left (List.getElem?_eq_some_iff.mp hMoment).1]
  exact hMoment

theorem StateSince.advance (h : StateSince world start key state)
    (hStep : StateAdvances world after) : StateSince after start key state :=
  ⟨h.orders.advance (hStep.orders key), h.reservations.advance (hStep.reservations key),
    h.externals.advance (hStep.externals key)⟩

theorem StateSince.mono (h : StateSince world start key state) (hLe : n ≤ start) :
    StateSince world n key state :=
  ⟨h.orders.mono hLe, h.reservations.mono hLe, h.externals.mono hLe⟩

theorem StateEntry.advance (h : StateEntry world key generation state)
    (hStep : StateAdvances world after) : StateEntry after key generation state :=
  ⟨h.orders.advance (hStep.orders key), h.reservations.advance (hStep.reservations key),
    h.externals.advance (hStep.externals key)⟩

theorem view_moment {τ V : Type} [PartialOrder τ] {token : CoordinationMoment → τ}
    {value : CoordinationRows → V} {moment : CoordinationMoment}
    (hMoment : world.moments[n]? = some moment) :
    (world.view token value done).log[n]? = some (token moment, value moment.rows) := by
  have hLog : (world.view token value done).log =
      world.moments.map (fun moment => (token moment, value moment.rows)) := by
    unfold CacheWorld.moments log CacheWorld.view
    rw [List.map_append]
    rfl
  rw [hLog, List.getElem?_map, hMoment]
  rfl

theorem moments_last (world : CacheWorld Tx Reader) :
    world.moments[world.past.length]? = some world.moment :=
  List.getElem?_concat_length

theorem view_since_now {τ V : Type} [PartialOrder τ] {token : CoordinationMoment → τ}
    {value : CoordinationRows → V} (hStart : start ≤ world.past.length) :
    (world.view token value done).Since start (value world.moment.rows) := by
  have hLength : (world.view token value done).past.length = world.past.length := List.length_map _
  refine Published.since_now ?_
  rw [hLength]
  exact hStart

theorem StateEntry.since (h : StateEntry world key generation state)
    {moment : CoordinationMoment} (hMoment : world.moments[n]? = some moment)
    (hNot : stateGeneration moment ≤ generation) : StateSince world n key state :=
  ⟨h.orders.since n _ (Nat.zero_le n) (view_moment hMoment) hNot,
    h.reservations.since n _ (Nat.zero_le n) (view_moment hMoment) hNot,
    h.externals.since n _ (Nat.zero_le n) (view_moment hMoment) hNot⟩

theorem StateFresh.entry (h : StateFresh world key state)
    (hToken : generation = stateGeneration world.moment) :
    StateEntry world key generation state := by
  obtain ⟨orders, reservations, externals⟩ := state
  obtain ⟨⟨hOrders, hOrdersHeard⟩, ⟨hReservations, hReservationsHeard⟩,
    ⟨hExternals, hExternalsHeard⟩⟩ := h
  dsimp only at hOrders hReservations hExternals
  subst hOrders hReservations hExternals hToken
  exact ⟨.of_now le_rfl (fun _ => hOrdersHeard), .of_now le_rfl (fun _ => hReservationsHeard),
    .of_now le_rfl (fun _ => hExternalsHeard)⟩

theorem StateCall.Kept.advance (h : call.Kept world) (hStep : StateAdvances world after) :
    call.Kept after := by
  have hLength := hStep.length
  cases call with
  | idle => trivial
  | started => exact Nat.le_trans h hLength
  | readWrites =>
    obtain ⟨hStart, n, moment, hn, hMoment, hWrites, hToken⟩ := h
    exact ⟨Nat.le_trans hStart hLength, n, moment, hn, hStep.moment hMoment, hWrites,
      hToken.trans hStep.generation⟩
  | generated =>
    obtain ⟨hStart, hToken, n, moment, hn, hMoment, hNot⟩ := h
    exact ⟨Nat.le_trans hStart hLength, hToken.trans hStep.generation, n, moment, hn,
      hStep.moment hMoment, hNot⟩
  | missed =>
    exact ⟨Nat.le_trans h.1 hLength, h.2.trans hStep.generation⟩
  | readOrders start key =>
    obtain ⟨⟨hStart, hToken⟩, hSince, hFresh⟩ := h
    exact ⟨⟨Nat.le_trans hStart hLength, hToken.trans hStep.generation⟩,
      hSince.advance (hStep.orders key),
      fresh_advance hToken hFresh (hStep.orders key)⟩
  | readReservations start key =>
    obtain ⟨⟨hStart, hToken⟩, ⟨hOrders, hReservations⟩, hFresh⟩ := h
    refine ⟨⟨Nat.le_trans hStart hLength, hToken.trans hStep.generation⟩,
      ⟨hOrders.advance (hStep.orders key), hReservations.advance (hStep.reservations key)⟩,
      ?_⟩
    intro hNow
    exact ⟨fresh_advance hToken (fun hStood => (hFresh hStood).1)
        (hStep.orders key) hNow,
      fresh_advance hToken (fun hStood => (hFresh hStood).2)
        (hStep.reservations key) hNow⟩
  | readAll start key =>
    obtain ⟨hToken, hSince, hFresh⟩ := h
    refine ⟨hToken.trans hStep.generation, hSince.advance hStep, ?_⟩
    intro hNow
    exact ⟨fresh_advance hToken (fun hStood => (hFresh hStood).orders)
        (hStep.orders key) hNow,
      fresh_advance hToken (fun hStood => (hFresh hStood).reservations)
        (hStep.reservations key) hNow,
      fresh_advance hToken (fun hStood => (hFresh hStood).externals)
        (hStep.externals key) hNow⟩
  | rereadWrites start key generation =>
    obtain ⟨hToken, hSince, hEntry⟩ := h
    refine ⟨hToken.trans hStep.generation, hSince.advance hStep, ?_⟩
    intro hWrites hPulse
    have hStood : generation.2 = statePulse world.moment :=
      le_antisymm hToken.2 (hStep.generation.2.trans hPulse.ge)
    exact (hEntry hWrites hStood).advance hStep
  | verified => exact ⟨h.1.advance hStep, h.2.advance hStep⟩

theorem StateReaders.Kept.advance {readers : StateReaders Reader} (h : readers.Kept world)
    (hStep : StateAdvances world after) : readers.Kept after :=
  ⟨fun answer hMem => (h.answers answer hMem).advance hStep,
    fun key cached hCached => (h.cache key cached hCached).advance hStep,
    fun reader => (h.calls reader).advance hStep⟩

/-! ## One statement of a call -/

variable [DecidableEq Reader] {readers : StateReaders Reader} {reader : Reader}

variable (h : readers.Kept world)
include h

theorem StateReaders.Kept.at (hCall : call.Kept world) : (readers.at reader call).Kept world where
  answers := h.answers
  cache := h.cache
  calls := by
    intro other
    by_cases hSame : other = reader
    · subst hSame
      have hUpdated : (readers.at other call).calls other = call := Function.update_self ..
      rw [hUpdated]
      exact hCall
    · have hOther : (readers.at reader call).calls other = readers.calls other :=
        Function.update_of_ne hSame ..
      rw [hOther]
      exact h.calls other

theorem StateReaders.Kept.answered (hSince : StateSince world start key state) :
    (readers.answered reader ⟨start, key, state⟩).Kept world := by
  have hIdle : (readers.at reader .idle).Kept world := h.at trivial
  refine ⟨?_, hIdle.cache, hIdle.calls⟩
  exact forall_mem_concat h.answers hSince

/-- Every statement of a call that meets the condition keeps what is known of the cache. -/
theorem StateReaders.Kept.next {step : StateStep} {result : StateReaders Reader}
    (hHeard : (readers.calls reader).Heard world step)
    (hNext : readers.next config world.moment world.past.length reader (readers.calls reader) step
      = some result) :
    result.Kept world := by
  have hCall := h.calls reader
  generalize readers.calls reader = call at hCall hHeard hNext
  unfold StateReaders.next at hNext
  split at hNext
  · cases hNext
    exact h.at (Nat.le_refl _)
  next start key =>
    cases hNext
    exact h.at ⟨hCall, world.past.length, world.moment, hCall, moments_last world, rfl, le_rfl⟩
  next start key writes =>
    cases hNext
    obtain ⟨hStart, n, moment, hn, hMoment, rfl, hToken⟩ := hCall
    exact h.at ⟨hStart, ⟨hToken.1, le_rfl⟩, n, moment, hn, hMoment, ⟨le_rfl, hToken.2⟩⟩
  next start key generation now available =>
    obtain ⟨hStart, hToken, n, moment, hn, hMoment, hNot⟩ := hCall
    split at hNext
    next cached hCached =>
      split at hNext
      next hUsable =>
        cases hNext
        unfold CachedRelationalState.usable at hUsable
        simp only [Bool.and_eq_true, decide_eq_true_eq] at hUsable
        have hEntry := h.cache key cached hCached
        rw [hUsable.1] at hEntry
        exact h.answered ((hEntry.since hMoment hNot).mono hn)
      · cases hNext
        exact h.at ⟨hStart, hToken⟩
    · cases hNext
      exact h.at ⟨hStart, hToken⟩
  next start key generation now =>
    cases hNext
    exact h.at ⟨hCall, view_since_now hCall.1, fun hToken => ⟨rfl, hHeard hToken⟩⟩
  next start key generation now orders =>
    cases hNext
    obtain ⟨hStart, hSince, hFresh⟩ := hCall
    exact h.at ⟨hStart, ⟨hSince, view_since_now hStart.1⟩,
      fun hToken => ⟨hFresh hToken, rfl, hHeard hToken⟩⟩
  next start key generation now orders reservations =>
    cases hNext
    obtain ⟨hStart, ⟨hOrders, hReservations⟩, hFresh⟩ := hCall
    exact h.at ⟨hStart.2, ⟨hOrders, hReservations, view_since_now hStart.1⟩,
      fun hToken => ⟨(hFresh hToken).1, (hFresh hToken).2, rfl, hHeard hToken⟩⟩
  next start key generation now state =>
    cases hNext
    obtain ⟨hToken, hSince, hFresh⟩ := hCall
    refine h.at ⟨hToken, hSince, ?_⟩
    intro hWrites hPulse
    have hStood : generation = stateGeneration world.moment := Prod.ext hWrites.symm hPulse
    exact (hFresh hStood).entry hStood
  next start key generation now state writes =>
    obtain ⟨_, hSince, hEntry⟩ := hCall
    split at hNext
    next hSame =>
      cases hNext
      have hWrites : writes = generation.1 := congrArg Prod.fst hSame
      have hPulse : generation.2 = statePulse world.moment := (congrArg Prod.snd hSame).symm
      exact h.at ⟨hSince, hEntry hWrites hPulse⟩
    · cases hNext
      exact h.answered hSince
  next start key generation now state =>
    cases hNext
    have hAnswered : (readers.answered reader ⟨start, key, state⟩).Kept world := h.answered hCall.1
    refine ⟨hAnswered.answers, ?_, hAnswered.calls⟩
    intro other cached hCached
    by_cases hSame : other = key
    · subst hSame
      have hUpdated : Function.update readers.cache other (some ⟨generation, now, state⟩) other =
          some ⟨generation, now, state⟩ := Function.update_self ..
      rw [show Function.update readers.cache other (some ⟨generation, now, state⟩) other =
        some cached from hCached] at hUpdated
      cases hUpdated
      exact hCall.2
    · have hOther : readers.cache other = some cached := by
        rw [← hCached]
        exact (Function.update_of_ne hSame ..).symm
      exact h.cache other cached hOther
  · cases hNext
    exact h.at trivial
  · cases hNext
    exact h.at trivial
  · cases hNext
    exact h.at trivial
  · cases hNext

end Views

end QuantApp.Services
