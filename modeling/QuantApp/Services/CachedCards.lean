import QuantApp.Services.CacheWriters

/-!
# The cached cards

`_load_cards_if_changed` against the writers.  The cached cards are an entry of their
generations, as long as no call has ended in a silence that its own generations do not tell.
A revision that has not changed says that the cards have not, and a list query that raises
after the generations were stored leaves the old cards under the new generations.
-/

namespace QuantApp.Services

open Core Verified
open Published (length_log since_now)

variable {call : CardCall} {selected : List TradeCardRow}

/-- The token and the selected rows of a moment. -/
abbrev CardMoment := (Nat × Nat × Nat) × List TradeCardRow

/-- The cards as the worker sees them. -/
abbrev CardView := Published (Nat × Nat × Nat) (List TradeCardRow)

def cardView {Tx Reader : Type} (config : CacheConfig) (world : CacheWorld Tx Reader) : CardView :=
  world.view (cardToken config) (selectedCards config) (CardMarksDone config)

def cardsOf (selected : List TradeCardRow) : List TradeCardState := selected.map TradeCardRow.card

/-- The moment a call started at. -/
def CardCall.start? : CardCall → Option Nat
  | .idle => none
  | .started start _ _ => some start
  | .readLocal start _ _ _ => some start
  | .querying start _ _ _ _ => some start
  | .listing start _ _ _ => some start

def CardCall.isListing : CardCall → Bool
  | .listing _ _ _ _ => true
  | _ => false

/-- What a call knows from the reads it has made. -/
def CardCall.Kept (config : CacheConfig) (s : CardView) : CardCall → Prop
  | .idle => True
  | .started start _ _ => start ≤ s.past.length
  | .readLocal start _ _ localGeneration =>
    start ≤ s.past.length ∧ ∃ (n : Nat) (moment : CardMoment), start ≤ n ∧
      s.log[n]? = some moment ∧ moment.1.1 = localGeneration ∧ moment.1 ≤ s.token
  | .querying start _ _ localGeneration pulseGeneration =>
    start ≤ s.past.length ∧ cardTokenOf config localGeneration pulseGeneration ≤ s.token
  | .listing start localGeneration pulseGeneration revision =>
    start ≤ s.past.length ∧ cardTokenOf config localGeneration pulseGeneration ≤ s.token ∧
      ∃ (n : Nat) (moment : CardMoment), s.log[n]? = some moment ∧
        revision = collectionRevision moment.2

/-- The rows behind the cached cards: read after the cached revision, and an entry of the
cached generations from a moment before the call on. -/
structure LoadedCards.Holds (config : CacheConfig) (s : CardView) (cache : LoadedCards)
    (call : CardCall) (selected : List TradeCardRow) : Prop where
  cards : cache.cards = cardsOf selected
  revision : ∃ (n m : Nat) (moment : CardMoment), n ≤ m ∧ s.log[n]? = some moment ∧
    (s.log[m]?).map Prod.snd = some selected ∧
    cache.revision = some (collectionRevision moment.2)
  entry : call.isListing = false → ∃ start, start ≤ s.past.length ∧
    (∀ started, call.start? = some started → start ≤ started) ∧
    s.Entry start (cardTokenOf config cache.localGeneration cache.pulseGeneration) selected

structure CardReader.Kept (config : CacheConfig) (s : CardView) (reader : CardReader) : Prop where
  answers : ∀ answer ∈ reader.answers, ∃ selected, answer.2 = cardsOf selected ∧
    s.Since answer.1 selected
  holds : reader.cache.initialized = true →
    ∃ selected, reader.cache.Holds config s reader.call selected
  call : reader.call.Kept config s
  listing : ∀ start localGeneration pulseGeneration revision,
    reader.call = .listing start localGeneration pulseGeneration revision →
      reader.cache.localGeneration = localGeneration ∧
        reader.cache.pulseGeneration = pulseGeneration

/-- Later moments have the cards of later versions. -/
def Grown (s : CardView) : Prop :=
  ∀ (n m : Nat) (a b : CardMoment), n ≤ m → s.log[n]? = some a → s.log[m]? = some b →
    StoredCardsGrow a.2 b.2

/-- The condition on a call: with its last query it does not end in the silence of a
transaction that its generations do not tell, and a list query does not fail on cards that
have changed. -/
def CardReader.Heard (config : CacheConfig) (s : CardView) (reader : CardReader) :
    CardCallStep → Prop
  | .queryRevision =>
    ∀ start now force localGeneration pulseGeneration,
      reader.call = .querying start now force localGeneration pulseGeneration →
      reader.cache.unchanged force (collectionRevision s.value) = true →
      cardTokenOf config localGeneration pulseGeneration = s.token → ¬ s.silent
  | .listCards =>
    ∀ start localGeneration pulseGeneration revision,
      reader.call = .listing start localGeneration pulseGeneration revision →
      cardTokenOf config localGeneration pulseGeneration = s.token → ¬ s.silent
  | .listFails =>
    ∀ start localGeneration pulseGeneration revision,
      reader.call = .listing start localGeneration pulseGeneration revision →
      reader.cache.initialized = true →
      cardTokenOf config localGeneration pulseGeneration = s.token →
      reader.cache.cards = cardsOf s.value ∧ ¬ s.silent
  | _ => True

section Advance

variable {config : CacheConfig} {s s' : CardView} {reader : CardReader}

theorem past_length_le (hStep : s.Advances s') : s.past.length ≤ s'.past.length := by
  rw [hStep.past, length_log]
  exact Nat.le_succ _

theorem CardCall.Kept.advance (h : call.Kept config s) (hStep : s.Advances s') :
    call.Kept config s' := by
  have hLength := past_length_le hStep
  cases call with
  | idle => trivial
  | started => exact Nat.le_trans h hLength
  | readLocal =>
    obtain ⟨hStart, n, moment, hn, hMoment, hLocal, hToken⟩ := h
    exact ⟨Nat.le_trans hStart hLength, n, moment, hn, hStep.getElem? hMoment, hLocal,
      hToken.trans hStep.token⟩
  | querying =>
    exact ⟨Nat.le_trans h.1 hLength, h.2.trans hStep.token⟩
  | listing =>
    obtain ⟨hStart, hToken, n, moment, hMoment, hRevision⟩ := h
    exact ⟨Nat.le_trans hStart hLength, hToken.trans hStep.token, n, moment,
      hStep.getElem? hMoment, hRevision⟩

theorem LoadedCards.Holds.advance {cache : LoadedCards} (h : cache.Holds config s call selected)
    (hStep : s.Advances s') : cache.Holds config s' call selected where
  cards := h.cards
  revision := by
    obtain ⟨n, m, moment, hOrder, hMoment, hRows, hRevision⟩ := h.revision
    obtain ⟨found, hFound, hValue⟩ := Option.map_eq_some_iff.mp hRows
    refine ⟨n, m, moment, hOrder, hStep.getElem? hMoment, ?_, hRevision⟩
    rw [hStep.getElem? hFound]
    exact congrArg some hValue
  entry := by
    intro hCall
    obtain ⟨start, hStart, hStarted, hEntry⟩ := h.entry hCall
    exact ⟨start, Nat.le_trans hStart (past_length_le hStep), hStarted, hEntry.advance hStep⟩

theorem CardReader.Kept.advance (h : reader.Kept config s) (hStep : s.Advances s') :
    reader.Kept config s' where
  answers := by
    intro answer hMem
    obtain ⟨selected, hCards, hSince⟩ := h.answers answer hMem
    exact ⟨selected, hCards, hSince.advance hStep⟩
  holds := by
    intro hInitialized
    obtain ⟨selected, hHolds⟩ := h.holds hInitialized
    exact ⟨selected, hHolds.advance hStep⟩
  call := h.call.advance hStep
  listing := h.listing

theorem Grown.advance (h : Grown s) (hStep : s.Advances s')
    (hGrows : StoredCardsGrow s.value s'.value) : Grown s' := by
  intro n m a b hOrder ha hb
  have hLast := s.getElem?_log_last
  rcases hStep.moment hb with hOld | ⟨hm, rfl⟩
  · have hm : m < s.log.length := (List.getElem?_eq_some_iff.mp hOld).1
    rcases hStep.moment ha with hBefore | ⟨hn, _⟩
    · exact h n m a b hOrder hBefore hOld
    · rw [hStep.past] at hn
      omega
  · rcases hStep.moment ha with hBefore | ⟨_, rfl⟩
    · have hn : n < s.log.length := (List.getElem?_eq_some_iff.mp hBefore).1
      rw [length_log] at hn
      exact (h n s.past.length a _ (Nat.le_of_lt_succ hn) hBefore hLast).trans hGrows
    · exact StoredCardsGrow.refl _

/-- A revision that has not changed: the cards read after it are the present ones. -/
theorem eq_of_revision (hGrown : Grown s) {n m : Nat} {moment : CardMoment} (hOrder : n ≤ m)
    (hMoment : s.log[n]? = some moment) (hRows : (s.log[m]?).map Prod.snd = some selected)
    (hRevision : collectionRevision moment.2 = collectionRevision s.value) :
    selected = s.value := by
  obtain ⟨later, hLater, rfl⟩ := Option.map_eq_some_iff.mp hRows
  have hm : m < s.log.length := (List.getElem?_eq_some_iff.mp hLater).1
  rw [length_log] at hm
  have hFirst := hGrown n m moment later hOrder hMoment hLater
  have hSecond := hGrown m s.past.length later _ (Nat.le_of_lt_succ hm) hLater
    s.getElem?_log_last
  have hSum : versionSum moment.2 = versionSum s.value :=
    congrArg TradeCardCollectionRevision.versionSum hRevision
  have hSame : versionSum later.2 = versionSum s.value := le_antisymm hSecond.1 (hSum ▸ hFirst.1)
  exact hSecond.2 hSame

end Advance

/-! ## One statement of a call -/

section Steps

variable {config : CacheConfig} {s : CardView} {moment : CoordinationMoment}
  {reader after : CardReader} {start : Nat} {now : Instant} {force : Bool}
  {localGeneration : Nat} {pulseGeneration : Nat × Nat}
  {revision : TradeCardCollectionRevision}

theorem LoadedCards.Holds.recalled {cache : LoadedCards} {call' : CardCall}
    (h : cache.Holds config s call selected) (hCall : call.isListing = false)
    (hStarts : ∀ started, call'.start? = some started →
      call.start? = some started ∨ started = s.past.length) :
    cache.Holds config s call' selected where
  cards := h.cards
  revision := h.revision
  entry := by
    intro _
    obtain ⟨start, hStart, hStarted, hEntry⟩ := h.entry hCall
    refine ⟨start, hStart, ?_, hEntry⟩
    intro started hNow
    rcases hStarts started hNow with hSame | hNew
    · exact hStarted started hSame
    · rw [hNew]
      exact hStart

theorem CardReader.Kept.called (h : reader.Kept config s) (hCall : reader.call.isListing = false)
    (hNew : call.isListing = false)
    (hStarts : ∀ started, call.start? = some started →
      reader.call.start? = some started ∨ started = s.past.length) (hKept : call.Kept config s) :
    ({ reader with call := call } : CardReader).Kept config s where
  answers := h.answers
  holds := by
    intro hInitialized
    obtain ⟨selected, hHolds⟩ := h.holds hInitialized
    exact ⟨selected, hHolds.recalled hCall hStarts⟩
  call := hKept
  listing := by
    intro start localGeneration pulseGeneration revision hListing
    rw [show call = .listing start localGeneration pulseGeneration revision from hListing] at hNew
    cases hNew

theorem CardReader.answers_append {answers : List (Nat × List TradeCardState)}
    (h : ∀ answer ∈ answers, ∃ selected, answer.2 = cardsOf selected ∧
      s.Since answer.1 selected) {cards : List TradeCardState} (hCards : cards = cardsOf selected)
    (hSince : s.Since start selected) :
    ∀ answer ∈ answers ++ [(start, cards)], ∃ selected, answer.2 = cardsOf selected ∧
      s.Since answer.1 selected := by
  exact forall_mem_concat h ⟨selected, hCards, hSince⟩

variable (h : reader.Kept config s)
include h

open CardReader (answered answers_append)

/-- A hit: the generations are those of the entry, and the local one was read at a moment of
the call. -/
theorem CardReader.Kept.hit
    (hToken : cardTokenOf config moment.cardGeneration (cardPulse moment) = s.token)
    (hCall : reader.call = .readLocal start now force localGeneration)
    (hHit : reader.cache.hit config now force localGeneration (cardPulse moment) = true) :
    (reader.answered start reader.cache.cards).Kept config s := by
  unfold LoadedCards.hit at hHit
  simp only [Bool.and_eq_true, Bool.or_eq_true, decide_eq_true_eq] at hHit
  obtain ⟨⟨⟨⟨⟨_, hInitialized⟩, hLocal⟩, hPulse⟩, _⟩, _⟩ := hHit
  obtain ⟨selected, hHolds⟩ := h.holds hInitialized
  have hNotListing : reader.call.isListing = false := by rw [hCall]; rfl
  obtain ⟨first, _, hStarted, hEntry⟩ := hHolds.entry hNotListing
  have hKept := h.call
  rw [hCall] at hKept hStarted
  obtain ⟨_, n, found, hn, hFound, hFoundLocal, hFoundToken⟩ := hKept
  have hNot : found.1 ≤ cardTokenOf config reader.cache.localGeneration
      reader.cache.pulseGeneration := by
    rw [← hToken] at hFoundToken
    refine ⟨(hFoundLocal.trans hLocal).le, hFoundToken.2.trans ?_⟩
    unfold cardTokenOf
    dsimp only
    cases hFlag : config.crossDevice with
    | false => simp
    | true =>
      rw [hFlag] at hPulse
      rw [hPulse.resolve_left (by simp)]
  have hSince : s.Since start selected :=
    (hEntry.since n found (Nat.le_trans (hStarted start rfl) hn) hFound hNot).mono hn
  refine ⟨answers_append h.answers hHolds.cards hSince, ?_, trivial, ?_⟩
  · intro _
    exact ⟨selected, hHolds.recalled hNotListing (fun _ hNone => nomatch hNone)⟩
  · intro _ _ _ _ hListing
    cases hListing

/-- A revision that has not changed: the cached cards are the present ones. -/
theorem CardReader.Kept.unchanged (hGrown : Grown s)
    (hCall : reader.call = .querying start now force localGeneration pulseGeneration)
    (hUnchanged : reader.cache.unchanged force (collectionRevision s.value) = true)
    (hHeard : cardTokenOf config localGeneration pulseGeneration = s.token → ¬ s.silent) :
    (answered { reader with
      cache := { reader.cache with
        checkedAt := some now
        localGeneration := localGeneration
        pulseGeneration := pulseGeneration } } start reader.cache.cards).Kept config s := by
  unfold LoadedCards.unchanged at hUnchanged
  simp only [Bool.and_eq_true, decide_eq_true_eq] at hUnchanged
  obtain ⟨⟨_, hInitialized⟩, hRevision⟩ := hUnchanged
  obtain ⟨selected, hHolds⟩ := h.holds hInitialized
  have hKept := h.call
  rw [hCall] at hKept
  obtain ⟨hStart, hToken⟩ := hKept
  obtain ⟨n, m, found, hOrder, hFound, hRows, hSame⟩ := hHolds.revision
  have hPresent : selected = s.value := by
    rw [hSame] at hRevision
    exact eq_of_revision hGrown hOrder hFound hRows (Option.some.inj hRevision)
  subst hPresent
  refine ⟨answers_append h.answers hHolds.cards (since_now hStart), ?_, trivial, ?_⟩
  · intro _
    refine ⟨s.value, hHolds.cards, hHolds.revision, ?_⟩
    intro _
    exact ⟨0, Nat.zero_le _, (fun _ hNone => nomatch hNone), .of_now hToken hHeard⟩
  · intro _ _ _ _ hListing
    cases hListing

/-- A revision that has changed: the generations are stored, the cards are still to be
listed. -/
theorem CardReader.Kept.changed
    (hCall : reader.call = .querying start now force localGeneration pulseGeneration) :
    CardReader.Kept config s { reader with
      cache := { reader.cache with
        checkedAt := some now
        localGeneration := localGeneration
        pulseGeneration := pulseGeneration }
      call := .listing start localGeneration pulseGeneration (collectionRevision s.value) } := by
  have hKept := h.call
  rw [hCall] at hKept
  refine ⟨h.answers, ?_, ⟨hKept.1, hKept.2, s.past.length, _, s.getElem?_log_last, rfl⟩, ?_⟩
  · intro hInitialized
    obtain ⟨selected, hHolds⟩ := h.holds hInitialized
    exact ⟨selected, hHolds.cards, hHolds.revision, fun hListing => nomatch hListing⟩
  · intro _ _ _ _ hListing
    cases hListing
    exact ⟨rfl, rfl⟩

section

variable (hCall : reader.call = .listing start localGeneration pulseGeneration revision)
include hCall

theorem CardReader.Kept.listed
    (hHeard : cardTokenOf config localGeneration pulseGeneration = s.token → ¬ s.silent) :
    (answered { reader with
      cache := { reader.cache with
        cards := cardsOf s.value
        initialized := true
        revision := some revision } } start (cardsOf s.value)).Kept config s := by
  have hKept := h.call
  rw [hCall] at hKept
  obtain ⟨hStart, hToken, n, found, hFound, hRevision⟩ := hKept
  obtain ⟨hLocal, hPulse⟩ := h.listing _ _ _ _ hCall
  have hn : n < s.log.length := (List.getElem?_eq_some_iff.mp hFound).1
  rw [length_log] at hn
  refine ⟨answers_append h.answers rfl (since_now hStart), ?_, trivial, ?_⟩
  · intro _
    refine ⟨s.value, rfl, ⟨n, s.past.length, found, Nat.le_of_lt_succ hn, hFound, ?_,
      congrArg some hRevision⟩, ?_⟩
    · rw [s.getElem?_log_last]
      rfl
    · intro _
      refine ⟨0, Nat.zero_le _, (fun _ hNone => nomatch hNone), ?_⟩
      dsimp only [answered]
      rw [hLocal, hPulse]
      exact .of_now hToken hHeard
  · intro _ _ _ _ hListing
    cases hListing

/-- A list query that raises leaves the old cards under the new generations. -/
theorem CardReader.Kept.unlisted
    (hHeard : reader.cache.initialized = true →
      cardTokenOf config localGeneration pulseGeneration = s.token → reader.cache.cards =
      cardsOf s.value ∧ ¬ s.silent) :
    ({ reader with call := .idle } : CardReader).Kept config s := by
  have hKept := h.call
  rw [hCall] at hKept
  obtain ⟨_, hToken, _⟩ := hKept
  obtain ⟨hLocal, hPulse⟩ := h.listing _ _ _ _ hCall
  refine ⟨h.answers, ?_, trivial, fun _ _ _ _ hListing => nomatch hListing⟩
  intro hInitialized
  obtain ⟨selected, hHolds⟩ := h.holds hInitialized
  by_cases hStands : cardTokenOf config localGeneration pulseGeneration = s.token
  · obtain ⟨hCards, hSilent⟩ := hHeard hInitialized hStands
    obtain ⟨n, m, found, _, hFound, _, hRevision⟩ := hHolds.revision
    have hn : n < s.log.length := (List.getElem?_eq_some_iff.mp hFound).1
    rw [length_log] at hn
    refine ⟨s.value, hCards, ⟨n, s.past.length, found, Nat.le_of_lt_succ hn, hFound, ?_,
      hRevision⟩, ?_⟩
    · rw [s.getElem?_log_last]
      rfl
    · intro _
      refine ⟨s.past.length, Nat.le_refl _, (fun _ hNone => nomatch hNone), ?_⟩
      dsimp only
      rw [hLocal, hPulse]
      exact .of_now hToken (fun _ => hSilent)
  · refine ⟨selected, hHolds.cards, hHolds.revision, ?_⟩
    intro _
    refine ⟨s.past.length, Nat.le_refl _, (fun _ hNone => nomatch hNone), ?_⟩
    dsimp only
    rw [hLocal, hPulse]
    exact .of_fresh hToken (fun hEq => absurd hEq hStands)

end

/-- Every statement of a call that meets the condition keeps what is known of the cache. -/
theorem CardReader.Kept.next (hGrown : Grown s) {step : CardCallStep}
    (hValue : selectedCards config moment.rows = s.value)
    (hToken : cardTokenOf config moment.cardGeneration (cardPulse moment) = s.token)
    (hHeard : reader.Heard config s step)
    (hNext : reader.next config moment s.past.length step = some after) :
    after.Kept config s := by
  cases step with
  | begin =>
    dsimp only [CardReader.next] at hNext
    split at hNext
    next hCall =>
      cases hNext
      refine h.called (by rw [hCall]; rfl) rfl ?_ (Nat.le_refl _)
      rintro _ ⟨⟩
      exact Or.inr rfl
    · cases hNext
  | readLocal =>
    dsimp only [CardReader.next] at hNext
    split at hNext
    next start now force hCall =>
      cases hNext
      have hKept := h.call
      rw [hCall] at hKept
      refine h.called (by rw [hCall]; rfl) rfl ?_
        ⟨hKept, s.past.length, _, hKept, s.getElem?_log_last, ?_, le_rfl⟩
      · rintro _ ⟨⟩
        rw [hCall]
        exact Or.inl rfl
      · rw [← hToken]
        rfl
    · cases hNext
  | readPulse =>
    dsimp only [CardReader.next] at hNext
    split at hNext
    next start now force localGeneration hCall =>
      split at hNext
      next hHit =>
        cases hNext
        exact h.hit hToken hCall hHit
      · cases hNext
        have hKept := h.call
        rw [hCall] at hKept
        obtain ⟨hStart, n, found, _, _, hLocal, hFound⟩ := hKept
        refine h.called (by rw [hCall]; rfl) rfl ?_ ⟨hStart, ?_⟩
        · rintro _ ⟨⟩
          rw [hCall]
          exact Or.inl rfl
        · rw [← hToken] at hFound ⊢
          exact ⟨hLocal ▸ hFound.1, le_rfl⟩
    · cases hNext
  | queryRevision =>
    dsimp only [CardReader.next] at hNext
    rw [hValue] at hNext
    split at hNext
    next start now force localGeneration pulseGeneration hCall =>
      split at hNext
      next hUnchanged =>
        cases hNext
        exact h.unchanged hGrown hCall hUnchanged (hHeard _ _ _ _ _ hCall hUnchanged)
      · cases hNext
        exact h.changed hCall
    · cases hNext
  | queryFails =>
    dsimp only [CardReader.next] at hNext
    split at hNext
    next hCall =>
      cases hNext
      exact h.called (by rw [hCall]; rfl) rfl (fun _ hNone => nomatch hNone) trivial
    · cases hNext
  | listCards =>
    dsimp only [CardReader.next] at hNext
    rw [hValue] at hNext
    split at hNext
    next start localGeneration pulseGeneration revision hCall =>
      cases hNext
      exact h.listed hCall (hHeard _ _ _ _ hCall)
    · cases hNext
  | listFails =>
    dsimp only [CardReader.next] at hNext
    split at hNext
    next start localGeneration pulseGeneration revision hCall =>
      cases hNext
      exact h.unlisted hCall (hHeard _ _ _ _ hCall)
    · cases hNext

end Steps

end QuantApp.Services
