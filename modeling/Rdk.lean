import Rdk.Go.Float64
import Rdk.Go.Arith
import Rdk.Motion.Builtin.MoveRequest
import Rdk.Motion.Builtin.WaypointIndex
import Rdk.Motion.Builtin.Execute
import Rdk.Motion.Builtin.ExecuteLoop
import Rdk.Motion.Builtin.MotionConfig
import Rdk.Motion.Builtin.Obstacles
import Rdk.Motion.Builtin.ObstacleDetectors
import Rdk.Motion.Builtin.NewRequest
import Rdk.Motionplan.Constraint
import Rdk.Motionplan.Registry
import Rdk.Motionplan.Segment
import Rdk.Motionplan.GetSolutions
import Rdk.Motionplan.Drain
import Rdk.Motionplan.SolutionsMap
import Rdk.Motionplan.BestIk
import Rdk.Motionplan.Interpolating
import Rdk.Motionplan.Plane
import Rdk.Referenceframe.ModelConfig
import Rdk.Referenceframe.Parse
import Rdk.Referenceframe.Geometry
import Rdk.Referenceframe.FrameConfig
import Rdk.Rtkutils.Ntrip
import Rdk.Rtkutils.Sourcetable
import Rdk.Rtkutils.RoundTrip
import Rdk.Rtkutils.Connect
import Rdk.Slam.CheckMaps
import Rdk.Slam.OrbYaml
import Rdk.Arm.Fake
import Rdk.Camera.Transform
