import Rdk.Motion.Builtin.MotionConfig
import Rdk.Motion.Builtin.ObstacleDetectors

namespace Rdk.Motion.Builtin

open Rdk.Go

-- `validatedExtra`, made by `newValidatedExtra` outside this code from a request's extra
-- parameters: the fields this code reads.
structure ValidatedExtra (X : Type) where
  maxReplans : Int
  replanCostFactor : F64
  motionProfile : String
  extra : X

-- `requestType`.
inductive RequestType
  | unspecified
  | moveOnGlobe
  | moveOnMap
  deriving DecidableEq, Repr

-- `referenceframe.Limit`.
structure Limit where
  min : F64
  max : F64
  deriving DecidableEq, Repr

-- `2 * math.Pi`, a constant rounded once to float64; `-2 * math.Pi` is its negation.
def twoPi : F64 := F64.ofBits 0x401921FB54442D18

-- The errors the constructors return: a text, made here or by a collaborator, or one of the two
-- errors of package resource that name a resource, `DependencyNotFoundError` and
-- `NewNotFoundError`.
inductive RequestError (N : Type)
  | text (msg : String)
  | dependencyNotFound (name : N)
  | notFound (name : N)
  deriving DecidableEq, Repr

-- A resource of `ms.components`: a `base.Base`, or a value of another type, given by its `%T`.
inductive Component (B : Type)
  | base (b : B)
  | other (typeName : String)

-- The localizer handed to `kinematicbase.WrapWithKinematics`:
-- `motion.NewMovementSensorLocalizer(movementSensor, origin, pose)` or
-- `motion.NewSLAMLocalizer(slamSvc)`.
inductive Localizer (MS Geo P Sl : Type)
  | movementSensor (ms : MS) (origin : Geo) (toBase : P)
  | slam (slamSvc : Sl)

-- `motionplan.PlanRequest`, the fields `relativeMoveRequestFromAbsolute` sets but the logger. The
-- goal is a pose in the world frame.
structure PlanRequest (P Fr F I W X : Type) where
  goal : P
  frame : Fr
  frameSystem : F
  startConfiguration : I
  worldState : W
  options : X

-- `moveRequest`, the fields the constructors set but the logger, the frame system service, the
-- wait group and the response channel. The two replanners are given by their polling periods.
-- `geoPoseOrigin` and `seedPlan` are `none` where they keep their zero value.
structure MoveRequest (N C S X P Fr F I W K Geo Pl : Type) where
  requestType : RequestType
  geoPoseOrigin : Option (Geo × F64)
  poseOrigin : P
  config : ValidatedMotionConfiguration (ObstacleDetectorName N C)
  planRequest : PlanRequest P Fr F I W X
  seedPlan : Option Pl
  kinematicBase : K
  obstacleDetectors : ObstacleDetectors S C
  replanCostFactor : F64
  waypointIndex : Int
  positionPollingFreq : Option Int
  obstaclePollingFreq : Option Int

-- What `relativeMoveRequestFromAbsolute` asks outside this code: the kinematic base, the frame
-- system and its service, spatialmath, `NewWorldState` and `ms.visionServices`.
structure RelativeEnv (N S K Fr F P G W I : Type) where
  kinematics : K → Fr
  currentPosition : K → Except (RequestError N) P
  replaceFrame : F → Fr → Except (RequestError N) F
  addFrame : F → Fr → Except (RequestError N) F
  frameSystemSubset : F → Fr → Except (RequestError N) F
  poseInverse : P → P
  poseBetween : P → P → P
  transform : G → P → G
  newWorldState : List G → Except (RequestError N) W
  currentInputs : Except (RequestError N) I
  visionServices : N → Option S

-- What the two constructors also ask outside this code: the service's resources, sensors and
-- SLAM services, spatialmath, `WrapWithKinematics`, and package constants and defaults
-- (`maxTravelKilometers` is the `%d` text of `int(maxTravelDistanceMM*1e-6)`).
structure ServiceEnv (N S E X MS Sl B Geo GO P G F K Fr W I : Type) extends
    RelativeEnv N S K Fr F P G W I where
  newValidatedExtra : E → Except (RequestError N) (ValidatedExtra X)
  movementSensors : N → Option MS
  slamServices : N → Option Sl
  components : N → Option (Component B)
  lat : Geo → F64
  lng : Geo → F64
  position : MS → Except (RequestError N) Geo
  compassHeading : MS → Except (RequestError N) F64
  transformPose : N → MS → Except (RequestError N) P
  frameSystem : Except (RequestError N) F
  zeroPose : P
  geoPointToPose : Geo → Geo → P
  norm : P → F64
  geoObstaclesToGeometries : List GO → Geo → List G
  compose : P → P
  slamLimits : Sl → Except (RequestError N) (List Limit)
  pointCloudMapFull : Sl → Except (RequestError N) (List UInt8)
  readPCDToBasicOctree : List UInt8 → Except (RequestError N) G
  wrapWithKinematics : B → Localizer MS Geo P Sl → List Limit → KinematicOptions →
    Except (RequestError N) K
  motionDefaults : MotionDefaults
  kinematicDefaults : KinematicOptions
  positionOnlyMotionProfile : String
  maxTravelDistanceMM : F64
  maxTravelKilometers : String

-- `motion.MoveOnGlobeReq`, the fields this code reads; a nil pointer or slice is `none`.
structure MoveOnGlobeReq (N C E Geo GO : Type) where
  componentName : N
  destination : Option Geo
  movementSensorName : N
  obstacles : Option (List GO)
  motionCfg : Option (MotionConfiguration (ObstacleDetectorName N C))
  extra : E

-- `motion.MoveOnMapReq`, the fields this code reads.
structure MoveOnMapReq (N C E P : Type) where
  componentName : N
  destination : Option P
  slamName : N
  motionCfg : Option (MotionConfiguration (ObstacleDetectorName N C))
  extra : E

section

variable {N C S E X MS Sl B Geo GO P G F K Fr W I Pl : Type}

-- `relativeMoveRequestFromAbsolute`.
def relativeMoveRequestFromAbsolute [DecidableEq S] (env : RelativeEnv N S K Fr F P G W I)
    (motionCfg : ValidatedMotionConfiguration (ObstacleDetectorName N C)) (kb : K)
    (goalPoseInWorld : P) (fs : F) (worldObstacles : List G) (valExtra : ValidatedExtra X) :
    Except (RequestError N) (MoveRequest N C S X P Fr F I W K Geo Pl) := do
  let kinematicFrame := env.kinematics kb
  let fs ← (match env.replaceFrame fs kinematicFrame with
    | .ok fs => pure fs
    | .error _ => env.addFrame fs kinematicFrame)
  let baseOnlyFS ← env.frameSystemSubset fs kinematicFrame
  let startPose ← env.currentPosition kb
  let startPoseInv := env.poseInverse startPose
  let goal := env.poseBetween startPose goalPoseInWorld
  let geoms := worldObstacles.map fun geom => env.transform geom startPoseInv
  let worldState ← env.newWorldState geoms
  let obstacleDetectors ← (groupObstacleDetectors env.visionServices motionCfg.obstacleDetectors
    ∅).mapError .dependencyNotFound
  let currentInputs ← env.currentInputs
  pure
    { requestType := .unspecified, geoPoseOrigin := none, poseOrigin := startPose,
      config := motionCfg,
      planRequest := ⟨goal, kinematicFrame, baseOnlyFS, currentInputs, worldState, valExtra.extra⟩,
      seedPlan := none, kinematicBase := kb, obstacleDetectors := obstacleDetectors,
      replanCostFactor := valExtra.replanCostFactor, waypointIndex := 1,
      positionPollingFreq := pollingPeriod motionCfg.positionPollingFreqHz,
      obstaclePollingFreq := pollingPeriod motionCfg.obstaclePollingFreqHz }

-- The lines both constructors start with: the extra parameters, the replans made so far against
-- their maximum, and the motion configuration.
def validateRequest (env : ServiceEnv N S E X MS Sl B Geo GO P G F K Fr W I) (extra : E)
    (motionCfg : Option (MotionConfiguration (ObstacleDetectorName N C))) (replanCount : Int) :
    Except (RequestError N)
      (ValidatedExtra X × ValidatedMotionConfiguration (ObstacleDetectorName N C)) := do
  let valExtra ← env.newValidatedExtra extra
  (if valExtra.maxReplans ≥ 0 then
    if replanCount > valExtra.maxReplans then
      throw (.text ("exceeded maximum number of replans: " ++ toString valExtra.maxReplans))
    else pure ()
  else pure ())
  let motionCfg ← (newValidatedMotionCfg env.motionDefaults motionCfg).mapError .text
  pure (valExtra, motionCfg)

-- The type assertion `component.(base.Base)`.
def asBase (component : Component B) : Except (RequestError N) B :=
  match component with
  | .base b => pure b
  | .other typeName =>
    throw (.text ("cannot move component of type " ++ typeName ++ " because it is not a Base"))

-- `builtIn.newMoveOnGlobeRequest`.
def newMoveOnGlobeRequest [DecidableEq S]
    (env : ServiceEnv N S E X MS Sl B Geo GO P G F K Fr W I) (req : MoveOnGlobeReq N C E Geo GO)
    (seedPlan : Option Pl) (replanCount : Int) :
    Except (RequestError N) (MoveRequest N C S X P Fr F I W K Geo Pl) := do
  let (valExtra, motionCfg) ← validateRequest env req.extra req.motionCfg replanCount
  let obstacles := req.obstacles.getD []
  let some destination := req.destination | throw (.text "destination cannot be nil")
  (if (env.lat destination).isNaN || (env.lng destination).isNaN then
    throw (.text "destination may not contain NaN")
  else pure ())
  let kinematicsOptions := kbOptionsFromCfg env.kinematicDefaults env.positionOnlyMotionProfile
    motionCfg valExtra.motionProfile
  let some movementSensor := env.movementSensors req.movementSensorName
    | throw (.dependencyNotFound req.movementSensorName)
  let origin ← env.position movementSensor
  let heading ← env.compassHeading movementSensor
  -- on an error the movement sensor is taken to be coincident with the base
  let movementSensorToBase := match env.transformPose req.componentName movementSensor with
    | .ok pose => pose
    | .error _ => env.zeroPose
  let localizer := Localizer.movementSensor movementSensor origin movementSensorToBase
  let some baseComponent := env.components req.componentName | throw (.notFound req.componentName)
  let b ← asBase baseComponent
  let fs ← env.frameSystem
  let goalPoseRaw := env.geoPointToPose destination origin
  let straightlineDistance := env.norm goalPoseRaw
  (if F64.lt env.maxTravelDistanceMM straightlineDistance then
    throw (.text ("cannot move more than " ++ env.maxTravelKilometers ++ " kilometers"))
  else pure ())
  let limits : List Limit :=
    [⟨F64.mul (F64.neg straightlineDistance) (F64.ofNat 3),
        F64.mul straightlineDistance (F64.ofNat 3)⟩,
      ⟨F64.mul (F64.neg straightlineDistance) (F64.ofNat 3),
        F64.mul straightlineDistance (F64.ofNat 3)⟩,
      ⟨F64.neg twoPi, twoPi⟩]
  let kb ← env.wrapWithKinematics b localizer limits kinematicsOptions
  let geomsRaw := env.geoObstaclesToGeometries obstacles origin
  let mr : MoveRequest N C S X P Fr F I W K Geo Pl ← relativeMoveRequestFromAbsolute
    env.toRelativeEnv motionCfg kb goalPoseRaw fs geomsRaw valExtra
  pure
    { mr with
      seedPlan := seedPlan, replanCostFactor := valExtra.replanCostFactor,
      requestType := .moveOnGlobe, geoPoseOrigin := some (origin, heading) }

-- `builtIn.newMoveOnMapRequest`, which does not read its `seedPlan`.
def newMoveOnMapRequest [DecidableEq S]
    (env : ServiceEnv N S E X MS Sl B Geo GO P G F K Fr W I) (req : MoveOnMapReq N C E P)
    (_seedPlan : Option Pl) (replanCount : Int) :
    Except (RequestError N) (MoveRequest N C S X P Fr F I W K Geo Pl) := do
  let (valExtra, motionCfg) ← validateRequest env req.extra req.motionCfg replanCount
  let some destination := req.destination | throw (.text "destination cannot be nil")
  let some slamSvc := env.slamServices req.slamName | throw (.dependencyNotFound req.slamName)
  let limits ← env.slamLimits slamSvc
  let limits := limits ++ [⟨F64.neg twoPi, twoPi⟩]
  let some component := env.components req.componentName
    | throw (.dependencyNotFound req.componentName)
  let b ← asBase component
  let kinematicsOptions := kbOptionsFromCfg env.kinematicDefaults env.positionOnlyMotionProfile
    motionCfg valExtra.motionProfile
  let fs ← env.frameSystem
  let kb ← env.wrapWithKinematics b (.slam slamSvc) limits kinematicsOptions
  let goalPoseAdj := env.compose destination
  let pointCloudData ← env.pointCloudMapFull slamSvc
  let octree ← env.readPCDToBasicOctree pointCloudData
  let mr : MoveRequest N C S X P Fr F I W K Geo Pl ← relativeMoveRequestFromAbsolute
    env.toRelativeEnv motionCfg kb goalPoseAdj fs [octree] valExtra
  pure { mr with requestType := .moveOnMap }

end

end Rdk.Motion.Builtin
