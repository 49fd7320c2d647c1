import Rdk.Referenceframe.ModelConfig

namespace Rdk.Referenceframe

-- `staticFrame`: a name, a pose and an optional geometry.
structure StaticFrame (P G : Type) where
  name : String
  transform : P
  geometry : Option G
  deriving DecidableEq, Repr

-- `FrameConfig`. A nil `*GeometryConfig` in the list is `none`.
structure FrameConfig (V O GC : Type) where
  link : Option (LinkConfig V O)
  geometries : List (Option GC)
  deriving DecidableEq, Repr

-- `LinkInFrame`, as `NewLinkInFrame` builds it.
structure LinkInFrame (P G : Type) where
  parent : String
  pose : P
  name : String
  geometries : List G
  deriving DecidableEq, Repr

-- The errors on the way through a `FrameConfig`: `ErrNilPose`, and an error from a function
-- outside src.
inductive FrameConfigError
  | nilPose
  | collaborator (e : String)
  deriving DecidableEq, Repr

-- The `spatialmath` functions the conversions call. `point` and `orientation` are a pose's
-- `Point()` and `Orientation()`.
structure Spatialmath (V Or O P G GC : Type) where
  point : P → V
  orientation : P → Or
  newOrientationConfig : Or → Except String O
  newGeometryConfig : G → Except String GC
  geometryParseConfig : Option GC → Except String G
  label : G → String
  setLabel : G → String → G

section

variable {V Or O P G GC : Type} (sm : Spatialmath V Or O P G GC)

def newFrameConfig (frame : StaticFrame P G) : Except FrameConfigError (FrameConfig V O GC) :=
  match sm.newOrientationConfig (sm.orientation frame.transform) with
  | .error e => .error (.collaborator e)
  | .ok orient =>
    let geom : Except FrameConfigError (Option GC) :=
      match frame.geometry with
      | none => .ok none
      | some g => match sm.newGeometryConfig g with
        | .error e => .error (.collaborator e)
        | .ok gc => .ok (some gc)
    geom.map fun geom => ⟨some ⟨frame.name, sm.point frame.transform, some orient, ""⟩, [geom]⟩

-- `FrameConfig.Pose`, or `none` where it panics. The test on the link is the wrong way round, so
-- the code that reads the link's translation only runs on a nil link, and that read panics.
def FrameConfig.pose (cfg : FrameConfig V O GC) : Option (Except FrameConfigError P) :=
  match cfg.link with
  | some _ => some (.error .nilPose)
  | none => none

-- The loop of `FrameConfig.ParseConfig` over the geometries; an unlabelled one takes the link's id.
def parseGeometries (linkID : String) : List (Option GC) → Except FrameConfigError (List G)
  | [] => .ok []
  | cfgGeometry :: rest =>
    match sm.geometryParseConfig cfgGeometry with
    | .error e => .error (.collaborator e)
    | .ok geo =>
      let geo := if sm.label geo = "" then sm.setLabel geo linkID else geo
      (parseGeometries linkID rest).map (geo :: ·)

-- `FrameConfig.ParseConfig`, or `none` where it panics. The rest reads the link's `ID` and
-- `Parent`; a pose without a link cannot come back, since `Pose` panics on a nil link.
def FrameConfig.parseConfig (cfg : FrameConfig V O GC) :
    Option (Except FrameConfigError (LinkInFrame P G)) :=
  match cfg.pose, cfg.link with
  | none, _ => none
  | some (.error e), _ => some (.error e)
  | some (.ok _), none => none
  | some (.ok pose), some link =>
    some ((parseGeometries sm link.id cfg.geometries).map fun geometries =>
      ⟨link.parent, pose, link.id, geometries⟩)

-- Whenever `NewFrameConfig` accepts a static frame, parsing its config back fails with
-- `ErrNilPose`; and a frame with no geometry leaves a nil geometry config in the list.
theorem newFrameConfig_parseConfig (f : StaticFrame P G) {orient : O}
    (ho : sm.newOrientationConfig (sm.orientation f.transform) = .ok orient)
    (hg : ∀ g, f.geometry = some g → ∃ gc, sm.newGeometryConfig g = .ok gc) :
    ∃ cfg, newFrameConfig sm f = .ok cfg ∧ cfg.parseConfig sm = some (.error .nilPose) ∧
      (f.geometry = none → cfg.geometries = [none]) := by
  unfold newFrameConfig
  rw [ho]
  cases hf : f.geometry with
  | none => exact ⟨_, rfl, rfl, fun _ => rfl⟩
  | some g =>
    obtain ⟨gc, hgc⟩ := hg g hf
    simp only [hgc]
    exact ⟨_, rfl, rfl, nofun⟩

end

-- Conversions that accept everything, on frames whose poses and geometries carry no data.
def acceptingSpatialmath : Spatialmath Unit Unit Unit Unit Unit Unit where
  point _ := ()
  orientation _ := ()
  newOrientationConfig _ := .ok ()
  newGeometryConfig _ := .ok ()
  geometryParseConfig _ := .ok ()
  label _ := ""
  setLabel _ _ := ()

theorem newFrameConfig_parseConfig_base :
    acceptingSpatialmath.newOrientationConfig (acceptingSpatialmath.orientation ()) = .ok () ∧
    (∀ g, (⟨"base", (), none⟩ : StaticFrame Unit Unit).geometry = some g →
      ∃ gc, acceptingSpatialmath.newGeometryConfig g = .ok gc) ∧
    ∃ cfg, newFrameConfig acceptingSpatialmath ⟨"base", (), none⟩ = .ok cfg ∧
      (cfg.parseConfig acceptingSpatialmath : Option (Except FrameConfigError
        (LinkInFrame Unit Unit))) = some (.error .nilPose) ∧
      ((⟨"base", (), none⟩ : StaticFrame Unit Unit).geometry = none → cfg.geometries = [none]) :=
  ⟨rfl, nofun, newFrameConfig_parseConfig acceptingSpatialmath ⟨"base", (), none⟩ rfl nofun⟩

end Rdk.Referenceframe
