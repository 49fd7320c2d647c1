import Rdk.Go.Arith

namespace Rdk.Motion.Builtin

open Rdk.Go

-- `motion.MotionConfiguration`; `obstacleDetectors = none` is a nil slice.
structure MotionConfiguration (D : Type) where
  obstacleDetectors : Option (List D)
  positionPollingFreqHz : F64
  obstaclePollingFreqHz : F64
  planDeviationMM : F64
  linearMPerSec : F64
  angularDegsPerSec : F64

-- `validatedMotionConfiguration`.
structure ValidatedMotionConfiguration (D : Type) where
  obstacleDetectors : List D
  positionPollingFreqHz : F64
  obstaclePollingFreqHz : F64
  planDeviationMM : F64
  linearMPerSec : F64
  angularDegsPerSec : F64

-- The package's defaults, whose values are not in the sources.
structure MotionDefaults where
  angularDegsPerSec : F64
  linearMPerSec : F64
  obstaclePollingHz : F64
  positionPollingHz : F64
  planDeviationM : F64

def validateNotNan (f : F64) (name : String) : Option String :=
  if f.isNaN then some (name ++ " may not be NaN") else none

def validateNotNeg (f : F64) (name : String) : Option String :=
  if F64.lt f F64.zero then some (name ++ " may not be negative") else none

def validateNotNegNorNaN (f : F64) (name : String) : Option String :=
  match validateNotNan f name with
  | some err => some err
  | none => validateNotNeg f name

-- The configuration `newValidatedMotionCfg` starts from.
def defaultMotionCfg {D : Type} (dflt : MotionDefaults) : ValidatedMotionConfiguration D :=
  ⟨[], dflt.positionPollingHz, dflt.obstaclePollingHz,
    F64.mul dflt.planDeviationM (F64.ofNat 1000), dflt.linearMPerSec, dflt.angularDegsPerSec⟩

-- `if v != 0 { vmc.f = v }`.
def orDefault (v d : F64) : F64 := if F64.eq v F64.zero then d else v

-- The five fields `newValidatedMotionCfg` validates, in its order, with the names of its errors.
def MotionConfiguration.checked {D : Type} (cfg : MotionConfiguration D) : List (F64 × String) :=
  [(cfg.linearMPerSec, "LinearMPerSec"), (cfg.angularDegsPerSec, "AngularDegsPerSec"),
    (cfg.planDeviationMM, "PlanDeviationMM"), (cfg.obstaclePollingFreqHz, "ObstaclePollingFreqHz"),
    (cfg.positionPollingFreqHz, "PositionPollingFreqHz")]

-- The configuration a valid request becomes: each nonzero number of it in place of the default.
def MotionConfiguration.validated {D : Type} (cfg : MotionConfiguration D) (dflt : MotionDefaults) :
    ValidatedMotionConfiguration D :=
  let vmc := defaultMotionCfg dflt
  ⟨cfg.obstacleDetectors.getD vmc.obstacleDetectors,
    orDefault cfg.positionPollingFreqHz vmc.positionPollingFreqHz,
    orDefault cfg.obstaclePollingFreqHz vmc.obstaclePollingFreqHz,
    orDefault cfg.planDeviationMM vmc.planDeviationMM,
    orDefault cfg.linearMPerSec vmc.linearMPerSec,
    orDefault cfg.angularDegsPerSec vmc.angularDegsPerSec⟩

-- `newValidatedMotionCfg`: the first failed check's error, or the defaults with every nonzero
-- field of the request in place.
def newValidatedMotionCfg {D : Type} (dflt : MotionDefaults) :
    Option (MotionConfiguration D) → Except String (ValidatedMotionConfiguration D)
  | none => .ok (defaultMotionCfg dflt)
  | some cfg =>
    match cfg.checked.findSome? fun (f, name) => validateNotNegNorNaN f name with
    | some err => .error err
    | none => .ok (cfg.validated dflt)

-- The polling period `relativeMoveRequestFromAbsolute` derives from a frequency, in nanoseconds:
-- `time.Duration(math.MaxInt64)`, or `time.Duration(1000/hz) * time.Millisecond`. It is `none`
-- where Go leaves the float-to-int conversion to the implementation.
def pollingPeriod (hz : F64) : Option Int :=
  if F64.lt F64.zero hz then
    (F64.toInt64 (F64.div (F64.ofNat 1000) hz)).map fun ms => wrapInt64 (ms * 1000000)
  else some maxInt64

theorem validateNotNegNorNaN_eq_none {f : F64} {name : String} :
    validateNotNegNorNaN f name = none ↔ f.isNaN = false ∧ F64.lt f F64.zero = false := by
  unfold validateNotNegNorNaN validateNotNan validateNotNeg
  cases f.isNaN <;> cases F64.lt f F64.zero <;> simp

-- Validation accepts a request exactly when none of its five numbers is NaN or negative, and
-- then keeps each nonzero number and the defaults for the others.
theorem newValidatedMotionCfg_some {D : Type} (dflt : MotionDefaults)
    (cfg : MotionConfiguration D) :
    ((∀ f ∈ cfg.checked, f.1.isNaN = false ∧ F64.lt f.1 F64.zero = false) →
      newValidatedMotionCfg dflt (some cfg) = .ok (cfg.validated dflt)) ∧
    ((∃ f ∈ cfg.checked, ¬ (f.1.isNaN = false ∧ F64.lt f.1 F64.zero = false)) →
      ∃ err, newValidatedMotionCfg dflt (some cfg) = .error err) := by
  simp only [newValidatedMotionCfg]
  split
  · rename_i err herr
    obtain ⟨f, hf, hsome⟩ := List.exists_of_findSome?_eq_some herr
    refine ⟨fun hall => ?_, fun _ => ⟨err, rfl⟩⟩
    rw [validateNotNegNorNaN_eq_none.mpr (hall f hf)] at hsome
    cases hsome
  · rename_i hnone
    refine ⟨fun _ => rfl, fun ⟨f, hf, hbad⟩ => ?_⟩
    exact absurd (validateNotNegNorNaN_eq_none.mp (List.findSome?_eq_none_iff.mp hnone f hf)) hbad

-- The fields of `kinematicbase.Options` that `kbOptionsFromCfg` sets; the type and its
-- defaults, `NewKinematicBaseOptions()`, are outside this code.
structure KinematicOptions where
  linearVelocityMMPerSec : F64
  angularVelocityDegsPerSec : F64
  planDeviationThresholdMM : F64
  positionOnlyMode : Bool
  goalRadiusMM : F64
  headingThresholdDegrees : F64

-- `kbOptionsFromCfg`, from the defaults of `NewKinematicBaseOptions()`, the value of
-- `motionplan.PositionOnlyMotionProfile`, and the `motionProfile` of the validated extra.
def kbOptionsFromCfg {D : Type} (defaults : KinematicOptions) (positionOnlyMotionProfile : String)
    (motionCfg : ValidatedMotionConfiguration D) (motionProfile : String) : KinematicOptions :=
  let o := defaults
  let o := if F64.lt F64.zero motionCfg.linearMPerSec then
      { o with linearVelocityMMPerSec := F64.mul motionCfg.linearMPerSec (F64.ofNat 1000) }
    else o
  let o := if F64.lt F64.zero motionCfg.angularDegsPerSec then
      { o with angularVelocityDegsPerSec := motionCfg.angularDegsPerSec }
    else o
  let o := if F64.lt F64.zero motionCfg.planDeviationMM then
      { o with planDeviationThresholdMM := motionCfg.planDeviationMM }
    else o
  let o := if motionProfile ≠ "" then
      { o with positionOnlyMode := decide (motionProfile = positionOnlyMotionProfile) }
    else o
  { o with goalRadiusMM := motionCfg.planDeviationMM, headingThresholdDegrees := F64.ofNat 8 }

-- What `kbOptionsFromCfg` leaves in the three fields it sets from positive numbers only.
theorem kbOptionsFromCfg_fields {D : Type} (defaults : KinematicOptions)
    (positionOnlyMotionProfile : String) (motionCfg : ValidatedMotionConfiguration D)
    (motionProfile : String) :
    let o := kbOptionsFromCfg defaults positionOnlyMotionProfile motionCfg motionProfile
    o.linearVelocityMMPerSec = (if F64.lt F64.zero motionCfg.linearMPerSec then
      F64.mul motionCfg.linearMPerSec (F64.ofNat 1000) else defaults.linearVelocityMMPerSec) ∧
    o.angularVelocityDegsPerSec = (if F64.lt F64.zero motionCfg.angularDegsPerSec then
      motionCfg.angularDegsPerSec else defaults.angularVelocityDegsPerSec) ∧
    o.planDeviationThresholdMM = (if F64.lt F64.zero motionCfg.planDeviationMM then
      motionCfg.planDeviationMM else defaults.planDeviationThresholdMM) ∧
    o.goalRadiusMM = motionCfg.planDeviationMM := by
  simp only [kbOptionsFromCfg, apply_ite KinematicOptions.linearVelocityMMPerSec,
    apply_ite KinematicOptions.angularVelocityDegsPerSec,
    apply_ite KinematicOptions.planDeviationThresholdMM, ite_self, and_self]

-- A number that is neither NaN, negative nor zero is positive.
theorem lt_zero_of_valid {f : F64} (hnan : f.isNaN = false) (hneg : F64.lt f F64.zero = false)
    (hzero : F64.eq f F64.zero = false) : F64.lt F64.zero f = true := by
  have hz : F64.zero.isNaN = false := by decide
  simp only [F64.lt, F64.eq, hnan, hz, Bool.not_false, Bool.true_and, decide_eq_false_iff_not,
    decide_eq_true_eq] at hneg hzero ⊢
  omega

-- The kinematic options of a request that validation accepts carry each nonzero speed and plan
-- deviation of the request, the linear speed turned from m/s into mm/s, and a goal radius equal
-- to the validated plan deviation.
theorem kbOptionsFromCfg_validated {D : Type} (dflt : MotionDefaults) (defaults : KinematicOptions)
    (positionOnlyMotionProfile motionProfile : String) {cfg : MotionConfiguration D}
    {vmc : ValidatedMotionConfiguration D} (h : newValidatedMotionCfg dflt (some cfg) = .ok vmc) :
    let o := kbOptionsFromCfg defaults positionOnlyMotionProfile vmc motionProfile
    o.goalRadiusMM = vmc.planDeviationMM ∧
    (F64.eq cfg.planDeviationMM F64.zero = false →
      o.planDeviationThresholdMM = cfg.planDeviationMM ∧ o.goalRadiusMM = cfg.planDeviationMM) ∧
    (F64.eq cfg.linearMPerSec F64.zero = false →
      o.linearVelocityMMPerSec = F64.mul cfg.linearMPerSec (F64.ofNat 1000)) ∧
    (F64.eq cfg.angularDegsPerSec F64.zero = false →
      o.angularVelocityDegsPerSec = cfg.angularDegsPerSec) := by
  intro o
  -- validation accepted the request, so none of its numbers is NaN or negative
  have hvalid : ∀ f ∈ cfg.checked, f.1.isNaN = false ∧ F64.lt f.1 F64.zero = false := by
    intro f hf
    by_contra hbad
    obtain ⟨err, herr⟩ := (newValidatedMotionCfg_some dflt cfg).2 ⟨f, hf, hbad⟩
    rw [herr] at h
    cases h
  rw [(newValidatedMotionCfg_some dflt cfg).1 hvalid, Except.ok.injEq] at h
  subst h
  have hlin := hvalid (cfg.linearMPerSec, "LinearMPerSec") (by simp [MotionConfiguration.checked])
  have hang :=
    hvalid (cfg.angularDegsPerSec, "AngularDegsPerSec") (by simp [MotionConfiguration.checked])
  have hdev :=
    hvalid (cfg.planDeviationMM, "PlanDeviationMM") (by simp [MotionConfiguration.checked])
  obtain ⟨hlin', hang', hdev', hgoal⟩ :=
    kbOptionsFromCfg_fields defaults positionOnlyMotionProfile (cfg.validated dflt) motionProfile
  -- a nonzero number of the request is the validated one, and positive
  have hkept : ∀ {f d : F64}, F64.eq f F64.zero = false → orDefault f d = f := fun hz => by
    simp [orDefault, hz]
  refine ⟨hgoal, fun hz => ?_, fun hz => ?_, fun hz => ?_⟩
  · have hv : (cfg.validated dflt).planDeviationMM = cfg.planDeviationMM := hkept hz
    rw [hv, if_pos (lt_zero_of_valid hdev.1 hdev.2 hz)] at hdev'
    exact ⟨hdev', hv ▸ hgoal⟩
  · have hv : (cfg.validated dflt).linearMPerSec = cfg.linearMPerSec := hkept hz
    rwa [hv, if_pos (lt_zero_of_valid hlin.1 hlin.2 hz)] at hlin'
  · have hv : (cfg.validated dflt).angularDegsPerSec = cfg.angularDegsPerSec := hkept hz
    rwa [hv, if_pos (lt_zero_of_valid hang.1 hang.2 hz)] at hang'

-- A request for 1 m/s, 2 deg/s and a plan deviation of 1 mm, over zero defaults.
def unitRequest : MotionConfiguration Unit := ⟨none, F64.zero, F64.zero, F64.one, F64.one, F64.two⟩

def zeroDefaults : MotionDefaults := ⟨F64.zero, F64.zero, F64.zero, F64.zero, F64.zero⟩

def zeroOptions : KinematicOptions := ⟨F64.zero, F64.zero, F64.zero, false, F64.zero, F64.zero⟩

theorem kbOptionsFromCfg_validated_unitRequest :
    newValidatedMotionCfg zeroDefaults (some unitRequest) =
        .ok (unitRequest.validated zeroDefaults) ∧
    let o := kbOptionsFromCfg zeroOptions "position_only" (unitRequest.validated zeroDefaults) ""
    o.goalRadiusMM = (unitRequest.validated zeroDefaults).planDeviationMM ∧
    (F64.eq unitRequest.planDeviationMM F64.zero = false →
      o.planDeviationThresholdMM = unitRequest.planDeviationMM ∧
        o.goalRadiusMM = unitRequest.planDeviationMM) ∧
    (F64.eq unitRequest.linearMPerSec F64.zero = false →
      o.linearVelocityMMPerSec = F64.mul unitRequest.linearMPerSec (F64.ofNat 1000)) ∧
    (F64.eq unitRequest.angularDegsPerSec F64.zero = false →
      o.angularVelocityDegsPerSec = unitRequest.angularDegsPerSec) :=
  have h : newValidatedMotionCfg zeroDefaults (some unitRequest) =
      .ok (unitRequest.validated zeroDefaults) := rfl
  ⟨h, kbOptionsFromCfg_validated zeroDefaults zeroOptions "position_only" "" h⟩

-- A frequency of 2^-40 Hz.
def tinyHz : F64 := F64.ofBits 0x3D70000000000000

-- Validation accepts polling at 2 kHz, at +Inf Hz and at 2^-40 Hz, for any defaults, and keeps
-- these frequencies. The first two periods truncate to 0 ns; the product of the third wraps
-- around to a negative period.
theorem pollingPeriod_validated {D : Type} (dflt : MotionDefaults)
    (detectors : Option (List D)) :
    (∀ hz ∈ [F64.ofNat 2000, F64.posInf, tinyHz], ∃ vmc,
      newValidatedMotionCfg dflt
        (some ⟨detectors, hz, hz, F64.zero, F64.zero, F64.zero⟩) = .ok vmc ∧
      vmc.positionPollingFreqHz = hz ∧ vmc.obstaclePollingFreqHz = hz) ∧
    pollingPeriod (F64.ofNat 2000) = some 0 ∧ pollingPeriod F64.posInf = some 0 ∧
    pollingPeriod tinyHz = some (-7293016646573096960 : Int) := by
  refine ⟨fun hz hmem => ?_, by decide, by decide, by decide⟩
  have hvalid : hz.isNaN = false ∧ F64.lt hz F64.zero = false ∧ F64.eq hz F64.zero = false := by
    simp only [List.mem_cons, List.mem_singleton, List.not_mem_nil, or_false] at hmem
    rcases hmem with rfl | rfl | rfl <;> decide
  have hzero : F64.zero.isNaN = false ∧ F64.lt F64.zero F64.zero = false := by decide
  refine ⟨_, ((newValidatedMotionCfg_some dflt _).1 ?_), ?_⟩
  · simp only [MotionConfiguration.checked, List.mem_cons, List.mem_singleton,
      List.not_mem_nil, or_false]
    rintro f (rfl | rfl | rfl | rfl | rfl)
    exacts [hzero, hzero, hzero, ⟨hvalid.1, hvalid.2.1⟩, ⟨hvalid.1, hvalid.2.1⟩]
  · simp only [MotionConfiguration.validated, orDefault, hvalid.2.2]
    exact ⟨rfl, rfl⟩

end Rdk.Motion.Builtin
