import SketchPreview.Decimal.Binary64

/-!
# Mixing grey values

`blend` mixes a share of one grey value into another and rounds to the nearest one.
-/

namespace SketchPreview

/-- The value that lies `amount` of the way from `low` to `high`. -/
def blend (low high : UInt8) (amount : Float) : UInt8 :=
  let mixed := low.toFloat + (high.toFloat - low.toFloat) * amount
  UInt8.ofNat ((Binary64.ofFloat mixed).toInt Binary64.roundAway 0 255).toNat

example : blend 255 0 0.15 = 217 := by decide +kernel

example : blend 0 255 0.15 = 38 := by decide +kernel

end SketchPreview
