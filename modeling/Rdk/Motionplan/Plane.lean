import Rdk.Motionplan.Interpolating

namespace Rdk.Motionplan

open Rdk.Go

-- What `NewPlaneConstraint` uses of points `V`, orientation vectors `W` and orientations `O`,
-- none of which is in the sources: `r3.Vector.Dot`, the orientation vector of the negated
-- components of a normal after `Normalize`, and `orientDistToRegion`.
structure PlaneOps (O V W : Type) where
  dot : V → V → F64
  invertedNormal : V → W
  orientDistToRegion : W → F64 → O → F64

section

variable {Q P O V W : Type} (ops : PoseOps P O V) (plane : PlaneOps O V W)

-- The metric of `NewPlaneConstraint(pNorm, pt, writingAngle, epsilon)` at the pose `pos`.
def planeGrad (pNorm pt : V) (writingAngle : F64) (pos : P) : F64 :=
  let pConst := F64.neg (plane.dot pt pNorm)
  let dFunc := plane.orientDistToRegion (plane.invertedNormal pNorm) writingAngle
  let planeDist := fun pt => F64.abs (F64.add (plane.dot pNorm pt) pConst)
  let pDist := planeDist (ops.point pos)
  let oDist := dFunc (ops.orientation pos)
  F64.add (F64.mul pDist pDist) (F64.mul oDist oDist)

-- The constraint of `NewPlaneConstraint`.
def newPlaneConstraint (pNorm pt : V) (writingAngle epsilon : F64) : StateConstraint Q P :=
  fun cInput =>
    match cInput.resolveInputsToPositions with
    | .error _ => false
    | .ok pos => F64.lt (planeGrad ops plane pNorm pt writingAngle pos) (F64.mul epsilon epsilon)

theorem nonNeg_planeGrad (pNorm pt : V) (writingAngle : F64) (pos : P) :
    (planeGrad ops plane pNorm pt writingAngle pos).NonNeg :=
  F64.nonNeg_add (F64.nonNeg_mul_self _) (F64.nonNeg_mul_self _)

-- The plane constraint depends on `epsilon` only through `epsilon * epsilon`: `-epsilon` gives
-- the same constraint, and `epsilon = 0`, like any NaN `epsilon`, gives one that no state meets,
-- since the metric is a sum of squares.
theorem newPlaneConstraint_epsilon (pNorm pt : V) (writingAngle : F64) :
    (∀ epsilon, newPlaneConstraint (Q := Q) ops plane pNorm pt writingAngle (F64.neg epsilon) =
      newPlaneConstraint ops plane pNorm pt writingAngle epsilon) ∧
    ∀ epsilon (cInput : StateInput Q P), epsilon = F64.zero ∨ epsilon.isNaN = true →
      newPlaneConstraint ops plane pNorm pt writingAngle epsilon cInput = false := by
  refine ⟨fun epsilon => ?_, fun epsilon cInput heps => ?_⟩
  · unfold newPlaneConstraint
    rw [F64.mul_neg_neg]
  · unfold newPlaneConstraint
    cases cInput.resolveInputsToPositions with
    | error _ => rfl
    | ok pos =>
      rcases heps with rfl | hnan
      · rw [show F64.mul F64.zero F64.zero = F64.zero by decide]
        exact F64.lt_zero_of_nonNeg (nonNeg_planeGrad ops plane pNorm pt writingAngle pos)
      · -- a NaN squared is NaN, and nothing is below NaN
        rw [F64.mul_self_of_isNaN hnan]
        simp [F64.lt, F64.isNaN_of_decode_nan F64.decode_nan]

end

end Rdk.Motionplan
