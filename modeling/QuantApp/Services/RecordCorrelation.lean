import Mathlib.Data.List.Dedup
import QuantApp.Services.FeedSubscriptions

/-!
# The symbol of a market-data record

`_resolve_symbol` of `src/services/kis_realtime_market_data.py` finds the subscription of a
record by the end of its raw symbol, among the subscriptions that are wanted at the moment.
`record_attributed_iff` says when no other symbol can come out.
-/

namespace QuantApp.Services

open Core Verified

namespace FeedService

variable {service : FeedService} {trId raw other : String}

/-- `_symbol_by_key`, as `_rebalance_subscriptions` takes it from its target. -/
def symbolByKey (service : FeedService) : List (SubscriptionKey × String) :=
  (service.targetSubscriptions.rows.filter (fun row => row.2.symbol ≠ "")).map
    (fun row => (row.1, row.2.symbol))

/-- The set `candidates` of `_resolve_symbol`. -/
def candidates (service : FeedService) (trId raw : String) : List String :=
  ((service.symbolByKey.filter (fun row =>
    row.1.1 = trId && row.2.toList.isSuffixOf raw.toList)).map Prod.snd).dedup

/-- `_resolve_symbol`; `repr` is that of a string. -/
def resolveSymbol (service : FeedService) (repr : String → String) (trId rawSymbol : String) :
    Except Raised String :=
  let raw := upper rawSymbol
  match service.candidates trId raw with
  | [symbol] => .ok symbol
  | _ =>
    if raw ∈ service.states then .ok raw
    else
      .error
        { cls := .valueError
          message := "could not correlate " ++ trId ++ " symbol " ++ repr raw ++
            " to a desired subscription" }

/-! ## What ends a raw symbol -/

/-- A ticker subscribed on the channel ends the raw symbol. -/
structure EndsWith (service : FeedService) (trId raw other : String) : Prop where
  subscribed : ∃ row ∈ service.targetSubscriptions.rows, row.1.1 = trId ∧ row.2.symbol = other
  named : other ≠ ""
  suffix : other.toList <:+ raw.toList

theorem mem_candidates : other ∈ service.candidates trId raw ↔ service.EndsWith trId raw other := by
  simp only [candidates, symbolByKey, List.mem_dedup, List.mem_map, List.mem_filter,
    Bool.and_eq_true, decide_eq_true_eq, List.isSuffixOf_iff_suffix]
  constructor
  · rintro ⟨_, ⟨⟨row, ⟨hRow, hNamed⟩, rfl⟩, hChannel, hSuffix⟩, rfl⟩
    exact ⟨⟨row, hRow, hChannel, rfl⟩, hNamed, hSuffix⟩
  · rintro ⟨⟨row, hRow, hChannel, rfl⟩, hNamed, hSuffix⟩
    exact ⟨_, ⟨⟨row, ⟨hRow, hNamed⟩, rfl⟩, hChannel, hSuffix⟩, rfl⟩

/-- One ticker alone ends the raw symbol. -/
def EndsAlone (service : FeedService) (trId raw other : String) : Prop :=
  service.EndsWith trId raw other ∧ ∀ another, service.EndsWith trId raw another → another = other

theorem candidates_eq_singleton :
    service.candidates trId raw = [other] ↔ service.EndsAlone trId raw other := by
  constructor
  · intro h
    refine ⟨mem_candidates.mp (by simp [h]), ?_⟩
    intro another hAnother
    simpa [h] using mem_candidates.mpr hAnother
  · rintro ⟨hEnds, hAlone⟩
    by_contra hSeveral
    have hNodup : (service.candidates trId raw).Nodup := List.nodup_dedup _
    rcases (hNodup.ne_singleton_iff other).mp hSeveral with hNone | ⟨another, hAnother, hOther⟩
    · have hOwn := mem_candidates.mpr hEnds
      rw [hNone] at hOwn
      cases hOwn
    · exact hOther (hAlone another (mem_candidates.mp hAnother))

theorem resolveSymbol_of_alone {repr : String → String} {rawSymbol : String}
    (h : service.EndsAlone trId (upper rawSymbol) other) :
    service.resolveSymbol repr trId rawSymbol = .ok other := by
  unfold resolveSymbol
  dsimp only
  rw [candidates_eq_singleton.mpr h]

/-- The raw symbol of a record of `sub` leads to no other symbol: a subscribed ticker that alone
ends it is that of `sub`, and if it is a known symbol of another name, one ticker alone ends it. -/
structure Attributable (service : FeedService) (sub : KisWsSubscription) (raw : String) : Prop where
  own : ∀ other, service.EndsAlone sub.trId raw other → other = sub.symbol
  known : raw ∈ service.states → raw ≠ sub.symbol → ∃ other, service.EndsAlone sub.trId raw other

end FeedService

/-- A record is attributed to its own subscription or refused exactly if its raw symbol leads to
no other one. -/
theorem record_attributed_iff (repr : String → String) (service : FeedService)
    (sub : KisWsSubscription) (rawSymbol : String) :
    (∀ symbol, service.resolveSymbol repr sub.trId rawSymbol = .ok symbol → symbol = sub.symbol) ↔
      service.Attributable sub (upper rawSymbol) := by
  constructor
  · intro h
    refine ⟨fun other hAlone => ?_, fun hKnown hOther => ?_⟩
    · exact h other (FeedService.resolveSymbol_of_alone hAlone)
    · by_contra hNone
      refine hOther (h _ ?_)
      unfold FeedService.resolveSymbol
      dsimp only
      split
      · rename_i symbol hSymbol
        exact absurd ⟨symbol, FeedService.candidates_eq_singleton.mp hSymbol⟩ hNone
      · rw [if_pos hKnown]
  · intro h symbol hResolved
    unfold FeedService.resolveSymbol at hResolved
    dsimp only at hResolved
    split at hResolved
    · rename_i found hFound
      cases hResolved
      exact h.own symbol (FeedService.candidates_eq_singleton.mp hFound)
    · rename_i hNotOne
      split at hResolved
      · rename_i hKnown
        cases hResolved
        by_contra hOther
        obtain ⟨other, hAlone⟩ := h.known hKnown hOther
        exact hNotOne other (FeedService.candidates_eq_singleton.mpr hAlone)
      · cases hResolved

/-! ## A ticker at the end of another -/

/-- One slot, for `T` before `MSFT`. -/
def oneSlotFeed : FeedService :=
  (FeedService.initial 1 0 1 none).configure
    (.configureDesiredChannels (((∅ : Priorities).set "T" 0).set "MSFT" 1) ∅)
    (fun symbol _ => .ok (if symbol = "T" then "DNYST" else "DNASMSFT")) 0

/-- `MSFT` is wanted too, and what comes under its key is taken for `T`. -/
theorem record_attributed_to_another :
    "MSFT" ∈ oneSlotFeed.tradePriorities ∧
      ∀ repr, oneSlotFeed.resolveSymbol repr tradeTrId ("DNAS" ++ "MSFT") = .ok "T" := by
  refine ⟨by decide +kernel, fun repr => ?_⟩
  apply FeedService.resolveSymbol_of_alone
  apply FeedService.candidates_eq_singleton.mp
  decide +kernel

end QuantApp.Services
