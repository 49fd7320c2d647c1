import Rdk.Motionplan.Constraint
import Rdk.Go.Arith

namespace Rdk.Motionplan

open Rdk.Go

-- What the interpolating constraints use of poses `P`, orientations `O` and points `V`:
-- `Orientation`, `Point`, `orientDist`, `r3.Vector.Distance` and `spatial.DistToLineSegment`,
-- none of which is in the sources.
structure PoseOps (P O V : Type) where
  orientation : P → O
  point : P → V
  orientDist : O → O → F64
  distance : V → V → F64
  distToLineSegment : V → V → V → F64

section

variable {Q P O V : Type} (ops : PoseOps P O V) (defaultEpsilon : F64)

-- The metric of `NewSlerpOrientationConstraint(start, goal, tolerance)` at the pose `pos`.
def slerpGrad (start goal pos : P) : F64 :=
  let origDist :=
    F64.max (ops.orientDist (ops.orientation start) (ops.orientation goal)) defaultEpsilon
  let sDist := ops.orientDist (ops.orientation start) (ops.orientation pos)
  let gDist := if F64.lt defaultEpsilon origDist then
      ops.orientDist (ops.orientation goal) (ops.orientation pos)
    else F64.zero
  F64.sub (F64.add sDist gDist) origDist

-- The constraint of `NewSlerpOrientationConstraint`.
def newSlerpOrientationConstraint (start goal : P) (tolerance : F64) : StateConstraint Q P :=
  fun cInput =>
    match cInput.resolveInputsToPositions with
    | .error _ => false
    | .ok pos => F64.lt (slerpGrad ops defaultEpsilon start goal pos) tolerance

-- The metric of `NewLineConstraint` at the pose `pos`, with the tolerance it settled on.
def lineGrad (pt1 pt2 : V) (tolerance : F64) (pos : P) : F64 :=
  F64.max (F64.sub (ops.distToLineSegment pt1 pt2 (ops.point pos)) tolerance) F64.zero

-- The constraint of `NewLineConstraint`: the tolerance is `defaultEpsilon` for points closer
-- than that.
def newLineConstraint (pt1 pt2 : V) (tolerance : F64) : StateConstraint Q P :=
  let tolerance :=
    if F64.lt (ops.distance pt1 pt2) defaultEpsilon then defaultEpsilon else tolerance
  fun cInput =>
    match cInput.resolveInputsToPositions with
    | .error _ => false
    | .ok pos => F64.eq (lineGrad ops pt1 pt2 tolerance pos) F64.zero

-- The constraint of `NewAbsoluteLinearInterpolatingConstraint(from, to, linTol, orientTol)`.
def newAbsoluteLinearInterpolatingConstraint (fromPose toPose : P) (linTol orientTol : F64) :
    StateConstraint Q P :=
  let orientConstraint := newSlerpOrientationConstraint ops defaultEpsilon fromPose toPose orientTol
  let lineConstraint :=
    newLineConstraint ops defaultEpsilon (ops.point fromPose) (ops.point toPose) linTol
  fun cInput => orientConstraint cInput && lineConstraint cInput

-- The constraint of `NewProportionalLinearInterpolatingConstraint(from, to, epsilon)`.
def newProportionalLinearInterpolatingConstraint (fromPose toPose : P) (epsilon : F64) :
    StateConstraint Q P :=
  let orientTol :=
    F64.mul epsilon (ops.orientDist (ops.orientation fromPose) (ops.orientation toPose))
  let linTol := F64.mul epsilon (ops.distance (ops.point fromPose) (ops.point toPose))
  newAbsoluteLinearInterpolatingConstraint ops defaultEpsilon fromPose toPose linTol orientTol

end

section

variable {Q P O V : Type} {ops : PoseOps P O V} {defaultEpsilon : F64}

-- At either end of a path whose orientations are further apart than `defaultEpsilon`, the slerp
-- metric is `(0 + d) - d` for `d` that distance: `+0`, or NaN when `d` is infinite.
theorem slerpGrad_end (hsymm : ∀ a b, ops.orientDist a b = ops.orientDist b a)
    (hzero : ∀ a, ops.orientDist a a = F64.zero) {fromPose toPose : P}
    (hfar : F64.lt defaultEpsilon
      (ops.orientDist (ops.orientation fromPose) (ops.orientation toPose)) = true)
    {p : P} (hp : p ∈ [fromPose, toPose]) :
    slerpGrad ops defaultEpsilon fromPose toPose p = F64.zero ∨
      (slerpGrad ops defaultEpsilon fromPose toPose p).decode = .nan := by
  -- `math.Max` keeps the distance, which then also counts towards the goal
  have horig := F64.max_of_lt hfar
  simp only [List.mem_cons, List.mem_singleton, List.not_mem_nil, or_false] at hp
  rcases hp with rfl | rfl
  · simp only [slerpGrad, horig, hfar, if_true, hzero, hsymm (ops.orientation toPose)]
    exact F64.sub_add_zero_self _
  · simp only [slerpGrad, horig, hfar, if_true, hzero, F64.add_zero_comm]
    exact F64.sub_add_zero_self _

-- A metric that is `+0` or NaN is below no tolerance that `+0` is not below.
theorem lt_of_zero_or_nan {g t : F64} (hg : g = F64.zero ∨ g.decode = .nan)
    (ht : F64.lt F64.zero t = false) : F64.lt g t = false := by
  rcases hg with rfl | hnan
  · exact ht
  · simp [F64.lt, F64.isNaN_of_decode_nan hnan]

-- `+0 < 0 * d` fails for every distance `d`.
theorem zero_not_lt_mul_zero (d : F64) : F64.lt F64.zero (F64.mul F64.zero d) = false := by
  rcases F64.mul_zero_left d with ⟨s, hs⟩ | hnan
  · rw [hs]; cases s <;> decide
  · simp [F64.lt, F64.isNaN_of_decode_nan hnan]

-- Take the orientation distance symmetric and zero on equal orientations. When the two ends
-- are further apart than `defaultEpsilon`, the interpolating constraint with `orientTol = 0`
-- rejects both ends, whatever `linTol`, and so does the proportional one with `epsilon = 0`:
-- at an end the slerp metric is `+0` (or NaN), and `+0 < 0` fails.
theorem interpolatingConstraint_rejects_ends
    (hsymm : ∀ a b, ops.orientDist a b = ops.orientDist b a)
    (hzero : ∀ a, ops.orientDist a a = F64.zero) {fromPose toPose : P}
    (hfar : F64.lt defaultEpsilon
      (ops.orientDist (ops.orientation fromPose) (ops.orientation toPose)) = true)
    (linTol : F64) (configuration : Option Q) (frame : Option (Frame Q P)) :
    ∀ p ∈ [fromPose, toPose],
      newAbsoluteLinearInterpolatingConstraint ops defaultEpsilon fromPose toPose linTol F64.zero
        ⟨some p, configuration, frame⟩ = false ∧
      newProportionalLinearInterpolatingConstraint ops defaultEpsilon fromPose toPose F64.zero
        ⟨some p, configuration, frame⟩ = false := by
  intro p hp
  have hgrad := slerpGrad_end hsymm hzero hfar hp
  constructor
  · simp [newAbsoluteLinearInterpolatingConstraint, newSlerpOrientationConstraint,
      StateInput.resolveInputsToPositions, resolvePose,
      lt_of_zero_or_nan hgrad (show F64.lt F64.zero F64.zero = false by decide)]
  · simp [newProportionalLinearInterpolatingConstraint, newAbsoluteLinearInterpolatingConstraint,
      newSlerpOrientationConstraint, StateInput.resolveInputsToPositions, resolvePose,
      lt_of_zero_or_nan hgrad (zero_not_lt_mul_zero _)]

end

-- Two orientations one unit apart, with `defaultEpsilon` taken as `+0`.
def unitTurn : PoseOps Bool Bool Unit :=
  ⟨id, fun _ => (), fun a b => if a = b then F64.zero else F64.one, fun _ _ => F64.zero,
    fun _ _ _ => F64.zero⟩

theorem interpolatingConstraint_rejects_unitTurn :
    (∀ a b, unitTurn.orientDist a b = unitTurn.orientDist b a) ∧
    (∀ a, unitTurn.orientDist a a = F64.zero) ∧
    F64.lt F64.zero (unitTurn.orientDist (unitTurn.orientation false) (unitTurn.orientation true)) =
      true ∧
    ∀ p ∈ [false, true],
      newAbsoluteLinearInterpolatingConstraint unitTurn F64.zero false true F64.zero F64.zero
        (⟨some p, none, none⟩ : StateInput Unit Bool) = false ∧
      newProportionalLinearInterpolatingConstraint unitTurn F64.zero false true F64.zero
        (⟨some p, none, none⟩ : StateInput Unit Bool) = false :=
  have hsymm : ∀ a b, unitTurn.orientDist a b = unitTurn.orientDist b a := by decide
  have hzero : ∀ a, unitTurn.orientDist a a = F64.zero := by decide
  have hfar : F64.lt F64.zero
      (unitTurn.orientDist (unitTurn.orientation false) (unitTurn.orientation true)) = true := by
    decide
  ⟨hsymm, hzero, hfar, interpolatingConstraint_rejects_ends hsymm hzero hfar F64.zero none none⟩

end Rdk.Motionplan
