import Mathlib.Data.Rat.Floor

/-!
# Doubles

A `double` is kept as the rational number it stands for. Every operation rounds its exact
result, and a cast to `int` cuts the fraction off. Integers up to 2^53 are doubles, and casts
of numbers that an `int` can hold are exact.
-/

namespace IotgoFirmware.Library.Doubles

set_option autoImplicit false

structure CDouble where
  round : Rat → Rat
  cast : Rat → Int

structure CDouble.Exact (double : CDouble) : Prop where
  integers : ∀ value : Int, value.natAbs ≤ 2 ^ 53 → double.round value = value
  casts : ∀ value : Int, -2147483648 ≤ value → value ≤ 2147483647 → double.cast value = value

/-- Rounding keeps the order and leaves halves, and a cast cuts the fraction off. -/
structure CDouble.Ordered (double : CDouble) : Prop where
  monotone : Monotone double.round
  halves : ∀ value : Int, value.natAbs ≤ 2 ^ 53 → double.round (value / 2) = value / 2
  truncates : ∀ value : Rat, -2147483648 ≤ value → value ≤ 2147483647 →
    double.cast value = if value < 0 then ⌈value⌉ else ⌊value⌋

/-- `double` and `int` where nothing has to be rounded. -/
def unrounded : CDouble where
  round value := value
  cast value := if value < 0 then ⌈value⌉ else ⌊value⌋

theorem unrounded_exact : unrounded.Exact where
  integers _ _ := rfl
  casts value _ _ := by
    unfold unrounded
    dsimp only
    split
    · exact Int.ceil_intCast value
    · exact Int.floor_intCast value

theorem unrounded_ordered : unrounded.Ordered where
  monotone _ _ le := le
  halves _ _ := rfl
  truncates _ _ _ := rfl

end IotgoFirmware.Library.Doubles
