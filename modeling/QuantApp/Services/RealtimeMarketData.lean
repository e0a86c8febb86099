import QuantApp.Core.Runtime

/-!
# Quotes

`QuoteSnapshot` and `InMemoryQuoteCache` of `src/services/realtime_market_data.py`.
-/

namespace QuantApp.Services

open Core

/-- The (card key, stop version) of a stop rule. -/
abbrev StopIdentity := String × String

structure QuoteSnapshot where
  symbol : String
  lastPrice : ℚ
  bid : Option ℚ := none
  ask : Option ℚ := none
  receivedAt : Instant
  brokerEventAt : Instant
  processedAt : Instant
  source : String := ""
  channel : String := ""
  sequence : Option Int := none
  tradeId : String := ""
  payloadFingerprint : String := ""
  stopPriceOverrides : List (String × ℚ) := []
  breachedStopVersions : List StopIdentity := []
  regularSession : Bool := true
  entryTriggerEligible : Bool := true
  deriving DecidableEq

/-- `InMemoryQuoteCache`: the last quote of each upper-case symbol. -/
abbrev QuoteCache := String → Option QuoteSnapshot

/-- `InMemoryQuoteCache.update`. -/
def QuoteCache.update (cache : QuoteCache) (quote : QuoteSnapshot) : QuoteCache :=
  fun symbol => if symbol = upper quote.symbol then some quote else cache symbol

/-- `InMemoryQuoteCache.get`. -/
def QuoteCache.get (cache : QuoteCache) (symbol : String) : Option QuoteSnapshot :=
  cache (upper symbol)

end QuantApp.Services
