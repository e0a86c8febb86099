import QuantApp.Services.PositionManager

/-!
# The tick a breakeven price is rounded to

`round_up_to_valid_tick` rounds the number of ticks to six decimals before it takes the ceiling,
and a tie goes to the even neighbour: a price at most half a millionth of a tick above the
grid goes down to it.
-/

namespace QuantApp.Services
open Core

theorem abs_roundHalfEven_sub (value : ℚ) : |(roundHalfEven value : ℚ) - value| ≤ 1 / 2 := by
  have hLow := Int.floor_le value
  have hHigh := Int.lt_floor_add_one value
  unfold roundHalfEven
  dsimp only
  split_ifs <;> push_cast <;> rw [abs_le] <;> constructor <;> linarith

/-- A tie above an even number goes down. -/
theorem roundHalfEven_of_even {value : ℚ} {floor : Int} (hEven : floor % 2 = 0)
    (hLow : floor ≤ value) (hHigh : value ≤ floor + 1 / 2) : roundHalfEven value = floor := by
  have hFloor : ⌊value⌋ = floor := Int.floor_eq_iff.mpr ⟨hLow, by linarith⟩
  simp [roundHalfEven, hFloor, hEven, not_lt.mpr (show value - floor ≤ 2⁻¹ by linarith)]

/-- The ceiling taken of the rounded number of ticks. -/
theorem ceil_roundDigits (ticks : ℚ) :
    ⌈roundDigits ticks 6 - 1 / 1000000000⌉ =
      if Int.fract ticks ≤ 1 / 2000000 then ⌊ticks⌋ else ⌊ticks⌋ + 1 := by
  have hSplit := Int.floor_add_fract ticks
  have hFract := Int.fract_lt_one ticks
  unfold roundDigits
  split_ifs with h
  · rw [@roundHalfEven_of_even _ (⌊ticks⌋ * 1000000) (by omega), Int.ceil_eq_iff]
    · push_cast
      constructor <;> linarith
    · push_cast
      linarith [Int.fract_nonneg ticks]
    · push_cast
      linarith
  · rw [not_le] at h
    obtain ⟨hLow, hHigh⟩ := abs_le.mp (abs_roundHalfEven_sub (ticks * 10 ^ 6))
    generalize roundHalfEven (ticks * 10 ^ 6) = rounded at hLow hHigh
    have hAbove : ⌊ticks⌋ * 1000000 + 1 ≤ rounded := by
      have : (⌊ticks⌋ * 1000000 : ℚ) < rounded := by linarith
      exact_mod_cast this
    have hBelow : rounded ≤ (⌊ticks⌋ + 1) * 1000000 := by
      have : (rounded : ℚ) < (⌊ticks⌋ + 1) * 1000000 + 1 := by linarith
      exact Int.lt_add_one_iff.mp (by exact_mod_cast this)
    have hAbove : (⌊ticks⌋ * 1000000 + 1 : ℚ) ≤ rounded := by exact_mod_cast hAbove
    have hBelow : (rounded : ℚ) ≤ (⌊ticks⌋ + 1) * 1000000 := by exact_mod_cast hBelow
    rw [Int.ceil_eq_iff]
    push_cast
    constructor <;> linarith

/-- The tick of a price. -/
def tickOf (price : ℚ) : ℚ := if price < 1 then 1 / 10000 else 1 / 100

theorem tickOf_pos (price : ℚ) : 0 < tickOf price := by
  unfold tickOf
  split_ifs <;> norm_num

/-- What rounding a price up to its tick means. -/
structure RoundsUp (price rounded : ℚ) : Prop where
  onGrid : ∃ ticks : Int, rounded = ticks * tickOf price
  above : price ≤ rounded
  close : rounded < price + tickOf price

/-- The last rounding, to four decimals, changes nothing. -/
theorem roundUpToValidTick_eq {price : ℚ} (hPrice : 0 < price) :
    roundUpToValidTick price =
      (if Int.fract (price / tickOf price) ≤ 1 / 2000000 then ⌊price / tickOf price⌋
        else ⌊price / tickOf price⌋ + 1 : Int) * tickOf price := by
  have hGrid : ∀ ticks : Int, roundDigits (ticks * tickOf price) 4 = ticks * tickOf price := by
    intro ticks
    obtain ⟨scale, hScale⟩ : ∃ scale : Int, tickOf price * 10 ^ 4 = scale := by
      unfold tickOf
      split_ifs
      exacts [⟨1, by norm_num⟩, ⟨100, by norm_num⟩]
    have hWhole : ticks * tickOf price * 10 ^ 4 = (ticks * scale : Int) := by
      rw [mul_assoc, hScale, Int.cast_mul]
    rw [roundDigits, hWhole]
    simp only [roundHalfEven, Int.floor_intCast, sub_self]
    rw [if_pos (by norm_num), ← hWhole, mul_div_cancel_right₀ _ (by norm_num)]
  unfold roundUpToValidTick
  rw [if_neg (not_le.mpr hPrice), ← ceil_roundDigits]
  exact hGrid _

/-- The price is rounded up exactly when it is on the grid or more than half a millionth of a
tick above it. -/
theorem roundUpToValidTick_roundsUp {price : ℚ} (hPrice : 0 < price) :
    RoundsUp price (roundUpToValidTick price) ↔
      Int.fract (price / tickOf price) = 0 ∨ 1 / 2000000 < Int.fract (price / tickOf price) := by
  have hTick := tickOf_pos price
  have hSplit := Int.floor_add_fract (price / tickOf price)
  have hNonneg := Int.fract_nonneg (price / tickOf price)
  have hFract := Int.fract_lt_one (price / tickOf price)
  rw [roundUpToValidTick_eq hPrice]
  have hAbove : ∀ ticks : Int, price ≤ ticks * tickOf price ↔ price / tickOf price ≤ ticks :=
    fun ticks => (div_le_iff₀ hTick).symm
  have hClose : ∀ ticks : Int, ticks * tickOf price < price + tickOf price ↔
      (ticks : ℚ) < price / tickOf price + 1 := by
    intro ticks
    rw [div_add_one hTick.ne', lt_div_iff₀ hTick]
  constructor
  · intro h
    have hCeiling := (hAbove _).mp h.above
    split_ifs at hCeiling with hSmall
    · exact .inl (le_antisymm (by linarith) hNonneg)
    · exact .inr (not_le.mp hSmall)
  · intro h
    refine ⟨⟨_, rfl⟩, (hAbove _).mpr ?_, (hClose _).mpr ?_⟩ <;> split_ifs with hSmall
    · have hZero := h.resolve_right (not_lt.mpr hSmall)
      linarith
    · push_cast
      linarith
    · linarith
    · push_cast
      linarith [h.resolve_left (fun hZero => hSmall (by rw [hZero]; norm_num))]

theorem roundUpToValidTick_roundsUp_dollar :
    RoundsUp (101 / 100) (roundUpToValidTick (101 / 100)) ↔
      Int.fract ((101 / 100 : ℚ) / tickOf (101 / 100)) = 0 ∨
        1 / 2000000 < Int.fract ((101 / 100 : ℚ) / tickOf (101 / 100)) :=
  roundUpToValidTick_roundsUp (by norm_num)

/-- A price a ten-millionth of a tick above the grid. -/
theorem roundUpToValidTick_below :
    ¬ ∀ price : ℚ, 0 < price → RoundsUp price (roundUpToValidTick price) := by
  intro h
  have hAbove := (h (1000000001 / 1000000000) (by norm_num)).above
  revert hAbove
  decide +kernel

end QuantApp.Services
