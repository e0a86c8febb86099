import Mathlib.Tactic.NormNum
import QuantApp.Core.Runtime

/-!
# Sizing of ORB positions

`calculate_orb_position_values` and `is_orb_position_plan_valid` of
`src/risk/orb_position.py`, over exact rationals.  Shares are rounded up.
-/

namespace QuantApp.Risk

/-- `OrbSettings`.  `__post_init__` refuses any other values. -/
structure OrbSettings where
  capitalMinPercent : ℚ := 10
  capitalIdealPercent : ℚ := 35 / 2
  capitalMaxPercent : ℚ := 30
  stopAdrMinPercent : ℚ := 15
  stopAdrIdealPercent : ℚ := 65
  stopAdrMaxPercent : ℚ := 66
  capitalMinNonneg : 0 ≤ capitalMinPercent := by norm_num
  capitalMaxLe : capitalMaxPercent ≤ 100 := by norm_num
  stopAdrMinNonneg : 0 ≤ stopAdrMinPercent := by norm_num
  capitalIdealBetween : capitalMinPercent ≤ capitalIdealPercent ∧
    capitalIdealPercent ≤ capitalMaxPercent := by norm_num
  stopAdrIdealBetween : stopAdrMinPercent ≤ stopAdrIdealPercent ∧
    stopAdrIdealPercent ≤ stopAdrMaxPercent := by norm_num
  capitalMinLt : capitalMinPercent < capitalMaxPercent := by norm_num
  stopAdrMinLt : stopAdrMinPercent < stopAdrMaxPercent := by norm_num

structure OrbPositionValues where
  totalRisk : ℚ := 0
  riskPerShare : ℚ := 0
  shares : Int := 0
  investment : ℚ := 0
  capitalPercent : ℚ := 0
  stopLossPercent : ℚ := 0
  slAdr : Option ℚ := none

/-- `calculate_orb_position_values`; values out of range give the zero position. -/
def calculateOrbPositionValues (accountSize riskPercent entryPrice stopPrice : ℚ)
    (adrPercent : Option ℚ) : OrbPositionValues :=
  if accountSize ≤ 0 ∨ riskPercent ≤ 0 ∨ 1 < riskPercent ∨ entryPrice ≤ 0 ∨ stopPrice ≤ 0 ∨
      entryPrice ≤ stopPrice then {}
  else
    let totalRisk := accountSize * riskPercent
    let riskPerShare := entryPrice - stopPrice
    let shares := ⌈totalRisk / riskPerShare⌉
    let investment := shares * entryPrice
    let stopLossPercent := riskPerShare / entryPrice * 100
    { totalRisk := totalRisk
      riskPerShare := riskPerShare
      shares := shares
      investment := investment
      capitalPercent := investment / accountSize * 100
      stopLossPercent := stopLossPercent
      slAdr := (adrPercent.filter (0 < ·)).map (stopLossPercent / · * 100) }

/-- `is_orb_position_plan_valid`, under the settings in force. -/
def isOrbPositionPlanValid (settings : OrbSettings) (sizing : OrbPositionValues)
    (adrPercent : Option ℚ) : Bool :=
  decide (1 ≤ sizing.shares) &&
    decide (settings.capitalMinPercent ≤ sizing.capitalPercent) &&
    decide (sizing.capitalPercent ≤ settings.capitalMaxPercent) &&
    !adrPercent.any (fun adr => 0 < adr && adr ≤ sizing.stopLossPercent) &&
    sizing.slAdr.all (fun ratio =>
      settings.stopAdrMinPercent ≤ ratio && ratio ≤ settings.stopAdrMaxPercent)

/-- Where the inputs are in range, the shares are the risk over the risk of one share,
rounded up. -/
theorem calculateOrbPositionValues_shares {accountSize riskPercent entryPrice stopPrice : ℚ}
    (adrPercent : Option ℚ) (hAccount : 0 < accountSize) (hRisk : 0 < riskPercent)
    (hRiskLe : riskPercent ≤ 1) (hStop : 0 < stopPrice) (hEntry : stopPrice < entryPrice) :
    (calculateOrbPositionValues accountSize riskPercent entryPrice stopPrice adrPercent).shares =
      ⌈accountSize * riskPercent / (entryPrice - stopPrice)⌉ := by
  have hInRange : ¬ (accountSize ≤ 0 ∨ riskPercent ≤ 0 ∨ 1 < riskPercent ∨ entryPrice ≤ 0 ∨
      stopPrice ≤ 0 ∨ entryPrice ≤ stopPrice) := by
    simp only [not_or, not_le, not_lt]
    exact ⟨hAccount, hRisk, hRiskLe, hStop.trans hEntry, hStop, hEntry⟩
  unfold calculateOrbPositionValues
  rw [if_neg hInRange]

end QuantApp.Risk
