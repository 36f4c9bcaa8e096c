import Mathlib

/-!
# Laws of doubles

To a comparison the two zeros are one number and a NaN is nothing. So with all NaN taken for one,
equality of doubles is that of what it sees of them, which makes it an equivalence. To subtract one
is to add minus one.
-/

namespace CardEffects.Number

open Float.Model (Format UnpackedFloat)
open Float.Model.UnpackedFloat (Sign)

def seen (x : Float) : Float := if x = -0 then 0 else x

theorem beq_or_isNaN_iff {x y : Float} :
    (x == y || (x.isNaN && y.isNaN)) = true ↔ seen x = seen y := by
  have apart : (0 : Float) ≠ -0 := by decide
  have positive : (0 : Float) ≠ Float.nan := by decide
  have negative : (-0 : Float) ≠ Float.nan := by decide
  rw [Bool.or_eq_true, Bool.and_eq_true, Float.beq_iff_ne_nan_and_eq]
  simp only [Float.isNaN_eq_decide_eq_nan, decide_eq_true_eq, seen]
  grind

theorem neg_apply (s : Sign) (n : Int) : (-s).apply n = -s.apply n := by
  cases s with
  | negative => exact (Int.neg_neg n).symm
  | positive => rfl

theorem sub_eq_add_neg (format : Format) (a b : UnpackedFloat) :
    UnpackedFloat.sub format a b = UnpackedFloat.add format a b.neg := by
  cases a <;> cases b <;>
    simp [UnpackedFloat.sub, UnpackedFloat.add, UnpackedFloat.neg, neg_apply, Int.sub_eq_add_neg]

theorem sub_one (x : Float) : x - 1 = x + -1 := by
  have one : (-1 : Float).toModel.unpack = (1 : Float).toModel.unpack.neg := rfl
  have model : (x - 1).toModel = (x + -1).toModel := by
    show Float.Model.sub _ _ = Float.Model.add _ _
    rw [Float.Model.sub, Float.Model.add, one, sub_eq_add_neg]
  exact congrArg Float.ofModel model

end CardEffects.Number
