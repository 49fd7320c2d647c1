import Rdk.Slam.CheckMaps
import Rdk.Go.Arith

namespace Rdk.Slam

open Rdk.Go Rdk.Rtkutils

-- The fields of `slamService` that the ORB-SLAM configuration reads: the lookup in
-- `configParams`, `dataRateMs`, `dataDirectory` and `cameraName`.
structure SlamService where
  configParams : String → Option GoString
  dataRateMs : Int
  dataDirectory : GoString
  cameraName : GoString

-- `transform.PinholeCameraIntrinsics`, defined outside this code: the fields it copies.
structure PinholeCameraIntrinsics where
  width : Int
  height : Int
  fx : F64
  fy : F64
  ppx : F64
  ppy : F64
  deriving DecidableEq, Repr

-- `transform.BrownConrady`, defined outside this code.
structure BrownConrady where
  radialK1 : F64
  radialK2 : F64
  radialK3 : F64
  tangentialP1 : F64
  tangentialP2 : F64
  deriving DecidableEq, Repr

-- A `transform.Distorter` interface value: nil, a `*transform.BrownConrady` (`none` for a nil
-- pointer of that type, which is not a nil interface), or a value of another type.
inductive Distorter
  | nil
  | brownConrady (distortion : Option BrownConrady)
  | other
  deriving DecidableEq, Repr

-- `transform.PinholeCameraModel`.
structure PinholeCameraModel where
  pinholeCameraIntrinsics : Option PinholeCameraIntrinsics
  distortion : Distorter

-- `camera.Properties`: the two fields `orbGenYAML` reads.
structure CameraProperties where
  intrinsicParams : Option PinholeCameraIntrinsics
  distortionParams : Distorter

-- `ORBsettings`, the document of the YAML file. Its `int8` and `int16` fields hold the values
-- Go stores in them.
structure ORBsettings where
  fileVersion : GoString
  nFeatures : Int
  scaleFactor : F64
  nLevels : Int
  iniThFAST : Int
  minThFAST : Int
  camType : GoString
  width : Int
  height : Int
  fx : F64
  fy : F64
  ppx : F64
  ppy : F64
  radialK1 : F64
  radialK2 : F64
  radialK3 : F64
  tangentialP1 : F64
  tangentialP2 : F64
  rgbFlag : Int
  stereob : F64
  stereoThDepth : F64
  depthMapFactor : F64
  fpsCamera : Int
  saveMapLoc : GoString
  loadMapLoc : GoString

-- The errors of this code: `transform.NewNoIntrinsicsError(msg)`,
-- `utils.NewUnimplementedInterfaceError`, and the text of every other error.
inductive OrbError
  | noIntrinsics (msg : String)
  | unimplementedInterface
  | other (msg : String)
  deriving DecidableEq, Repr

def fileVersion : GoString := ascii "1.0"

-- The error of a parameter that is set to a value its reader rejects.
def invalidDefinition (key : String) : OrbError :=
  .other ("Parameter " ++ key ++ " has an invalid definition")

-- What `orbGenYAML` asks outside this code: `GetProperties`, `CheckValid`, the visits of
-- `filepath.WalkDir`, two readings of `time.Now()`, `filepath.Join`, `yaml.Marshal`, and the
-- first error of creating, writing and closing the file.
structure YamlEnv (T : Type) where
  getProperties : Except String CameraProperties
  checkValid : PinholeCameraIntrinsics → Option String
  visits : List Visit
  nowLoad : T
  nowSave : T
  join : List GoString → GoString
  marshal : ORBsettings → Except String GoString
  writeFile : GoString → GoString → Option String

-- The parameters `orbCamMaker` reads, in its order, each with its reader: `true` for
-- `orbConfigToFloat`, `false` for `orbConfigToInt`.
def orbParameters : List (String × Bool) :=
  [("orb_n_features", false), ("orb_scale_factor", true), ("stereo_th_depth", true),
    ("depth_map_factor", true), ("orb_n_levels", false), ("orb_n_ini_th_fast", false),
    ("orb_n_min_th_fast", false), ("stereo_b", true), ("rgb_flag", false)]

theorem elim_find?_cons {α β : Type} (p : α → Bool) (x : α) (l : List α) (onNone : β)
    (onSome : α → β) :
    ((x :: l).find? p).elim onNone onSome =
      if p x then onSome x else (l.find? p).elim onNone onSome := by
  cases h : p x <;> simp [List.find?_cons, h]

theorem ext_append_mapExt (path : GoString) : Filepath.ext (path ++ mapExt) = mapExt := by
  rw [ascii_mapExt]
  simp [Filepath.ext, Filepath.extRev]

-- The map file `<dir><cameraName>_data_<stamp>.osa` offers the walk the timestamp parsed from its
-- name and the map path `<dir><cameraName>_data_<stamp>`, and no visit of it panics, when the
-- camera name holds no `_data_` and the path no `.osa` before their own.
theorem mapCandidate_savedMap {T : Type} (clock : Clock T) (dir cameraName stamp : GoString)
    (err : Option String)
    (hcam : Strings.index (cameraName ++ ascii "_data_") (ascii "_data_") = cameraName.length)
    (hosa : Strings.index (dir ++ (cameraName ++ ascii "_data_" ++ stamp) ++ mapExt) mapExt =
      (dir ++ (cameraName ++ ascii "_data_" ++ stamp)).length) :
    let v : Visit := ⟨dir ++ (cameraName ++ ascii "_data_" ++ stamp) ++ mapExt,
      some ⟨cameraName ++ ascii "_data_" ++ stamp ++ mapExt, false⟩, err⟩
    mapCandidate clock v =
        (clock.parse stamp).map (·, dir ++ (cameraName ++ ascii "_data_" ++ stamp)) ∧
      ∀ st, walkFn clock st v ≠ none := by
  intro v
  have h6 : ((cameraName ++ ascii "_data_").length : Int) = cameraName.length + 6 := by
    simp [ascii_data]
  have hdata : Strings.index (cameraName ++ ascii "_data_" ++ stamp ++ mapExt) (ascii "_data_") =
      cameraName.length := by
    rw [List.append_assoc, Strings.index_append_of_nonneg _ (by omega), hcam]
  have hname : Strings.index (cameraName ++ ascii "_data_" ++ stamp ++ mapExt) mapExt =
      (cameraName ++ ascii "_data_" ++ stamp).length := by
    refine Strings.index_of_index_append (a := dir) (by omega) ?_
    rw [← List.append_assoc, hosa]
    simp
  have hstamp := slice_append (cameraName ++ ascii "_data_") stamp mapExt
  have hpath : slice (dir ++ (cameraName ++ ascii "_data_" ++ stamp) ++ mapExt) 0
      (dir ++ (cameraName ++ ascii "_data_" ++ stamp)).length =
        some (dir ++ (cameraName ++ ascii "_data_" ++ stamp)) := by
    simpa using slice_append [] (dir ++ (cameraName ++ ascii "_data_" ++ stamp)) mapExt
  have hfound : ¬((cameraName.length : Int) = -1) := by omega
  rw [h6] at hstamp
  simp only [v, mapCandidate, walkFn, ext_append_mapExt, hdata, hname, hosa, hstamp, hpath,
    Bool.not_false, Bool.true_and, decide_True, if_true, ne_eq, add_left_inj, hfound,
    not_false_eq_true, Option.some_bind, Option.map_some']
  refine ⟨?_, fun st => ?_⟩
  · cases clock.parse stamp <;> rfl
  · cases clock.parse stamp with
    | none => simp
    | some t => by_cases hlater : clock.after t st.1 <;> simp [hlater]

section

-- `strconv.ParseFloat(s, 64)`, outside this code: the value, or `none` on an error.
variable (parseFloat : GoString → Option F64)

namespace SlamService

variable (slamSvc : SlamService)

-- The body `orbConfigToInt` and `orbConfigToFloat` share: the parameter `key` read by `parse`,
-- or `dflt` when it is not set.
def orbConfigTo {α : Type} (parse : GoString → Option α) (key : String) (dflt : α) :
    Except OrbError α :=
  match slamSvc.configParams key with
  | none => .ok dflt
  | some valStr =>
    match parse valStr with
    | none => .error (invalidDefinition key)
    | some val => .ok val

def orbConfigToInt (key : String) (dflt : Int) : Except OrbError Int :=
  slamSvc.orbConfigTo atoi key dflt

def orbConfigToFloat (key : String) (dflt : F64) : Except OrbError F64 :=
  slamSvc.orbConfigTo parseFloat key dflt

-- `slamService.orbCamMaker`, or `none` where it panics: on a nil `*transform.BrownConrady`,
-- whose fields it reads.
def orbCamMaker (camProperties : PinholeCameraModel) : Option (Except OrbError ORBsettings) :=
  match camProperties.pinholeCameraIntrinsics, camProperties.distortion with
  | none, _ => some (.error (.noIntrinsics "Intrinsics do not exist"))
  | some _, .brownConrady none => none
  | some intrinsics, .brownConrady (some distortion) => some do
    let nFeatures ← slamSvc.orbConfigToInt "orb_n_features" 1250
    -- 1.2
    let scaleFactor ← slamSvc.orbConfigToFloat parseFloat "orb_scale_factor"
      (F64.ofBits 0x3FF3333333333333)
    let stereoThDepth ← slamSvc.orbConfigToFloat parseFloat "stereo_th_depth" (F64.ofNat 40)
    let depthMapFactor ← slamSvc.orbConfigToFloat parseFloat "depth_map_factor" (F64.ofNat 1000)
    let nLevels ← slamSvc.orbConfigToInt "orb_n_levels" 8
    let iniThFAST ← slamSvc.orbConfigToInt "orb_n_ini_th_fast" 20
    let minThFAST ← slamSvc.orbConfigToInt "orb_n_min_th_fast" 7
    -- 0.0745
    let stereob ← slamSvc.orbConfigToFloat parseFloat "stereo_b" (F64.ofBits 0x3FB3126E978D4FDF)
    let tmp ← slamSvc.orbConfigToInt "rgb_flag" 1
    pure
      { fileVersion := fileVersion, nFeatures := nFeatures, scaleFactor := scaleFactor,
        nLevels := nLevels, iniThFAST := iniThFAST, minThFAST := minThFAST,
        camType := ascii "PinHole", width := intrinsics.width, height := intrinsics.height,
        fx := intrinsics.fx, fy := intrinsics.fy, ppx := intrinsics.ppx, ppy := intrinsics.ppy,
        radialK1 := distortion.radialK1, radialK2 := distortion.radialK2,
        radialK3 := distortion.radialK3, tangentialP1 := distortion.tangentialP1,
        tangentialP2 := distortion.tangentialP2, rgbFlag := wrapInt8 tmp, stereob := stereob,
        stereoThDepth := stereoThDepth, depthMapFactor := depthMapFactor,
        fpsCamera := wrapInt16 slamSvc.dataRateMs, saveMapLoc := [], loadMapLoc := [] }
  | some _, _ => some (.error .unimplementedInterface)

-- `slamService.orbGenYAML`: the name of the file it writes and the settings whose YAML the
-- file holds after the line `%YAML:1.0`, or `none` where it panics.
def orbGenYAML {T : Type} (clock : Clock T) (env : YamlEnv T) :
    Option (Except OrbError (GoString × ORBsettings)) :=
  match env.getProperties with
  | .error e => some (.error (.other e))
  | .ok props =>
    match props.intrinsicParams with
    | none => some (.error (.noIntrinsics "Intrinsics do not exist"))
    | some intrinsics =>
      match env.checkValid intrinsics with
      | some e => some (.error (.other e))
      | none =>
        if props.distortionParams = .nil then
          some (.error (.noIntrinsics "Distortion parameters do not exist"))
        else
          (slamSvc.orbCamMaker parseFloat ⟨props.intrinsicParams, props.distortionParams⟩).bind
            fun
            | .error e => some (.error e)
            | .ok orbslam =>
              (checkMaps clock env.visits).map fun (loadMapTimeStamp, loadMapName) =>
                let orbslam :=
                  if loadMapTimeStamp = [] then orbslam else { orbslam with loadMapLoc := loadMapName }
                let loadMapTimeStamp :=
                  if loadMapTimeStamp = [] then clock.format env.nowLoad else loadMapTimeStamp
                let saveMapName := env.join [slamSvc.dataDirectory, ascii "map",
                  slamSvc.cameraName ++ ascii "_data_" ++ clock.format env.nowSave]
                let orbslam := { orbslam with saveMapLoc := saveMapName }
                let yamlFileName := env.join [slamSvc.dataDirectory, ascii "config",
                  slamSvc.cameraName ++ ascii "_data_" ++ loadMapTimeStamp ++ ascii ".yaml"]
                match env.marshal orbslam with
                | .error e => .error (.other ("Error while Marshaling YAML file: " ++ e))
                | .ok yamlData =>
                  match env.writeFile yamlFileName (ascii "%YAML:1.0\n" ++ yamlData) with
                  | some e => .error (.other e)
                  | none => .ok (yamlFileName, orbslam)

-- Whether `key` is set to a value `parse` rejects.
def parameterRejected {α : Type} (parse : GoString → Option α) (key : String) : Bool :=
  match slamSvc.configParams key with
  | none => false
  | some valStr => (parse valStr).isNone

-- The value `key` is read to when `parse` accepts it: its parsed value if it is set, or `dflt`.
def parameterValue {α : Type} (parse : GoString → Option α) (key : String) (dflt : α) : α :=
  ((slamSvc.configParams key).bind parse).getD dflt

-- Whether parameter `p` of `orbParameters` is set to a value its reader rejects.
def invalidParameter (p : String × Bool) : Bool :=
  if p.2 then slamSvc.parameterRejected parseFloat p.1 else slamSvc.parameterRejected atoi p.1

theorem orbConfigTo_bind {α β : Type} (parse : GoString → Option α) (key : String) (dflt : α)
    (f : α → Except OrbError β) :
    slamSvc.orbConfigTo parse key dflt >>= f =
      if slamSvc.parameterRejected parse key then .error (invalidDefinition key)
      else f (slamSvc.parameterValue parse key dflt) := by
  unfold orbConfigTo parameterRejected parameterValue
  cases slamSvc.configParams key with
  | none => rfl
  | some valStr => cases h : parse valStr <;> simp [h] <;> rfl

-- With intrinsics and a `*transform.BrownConrady`, `orbCamMaker` reports the first parameter,
-- in the order it reads them, that is set to a value its reader rejects; with none, it builds
-- settings that load no map.
theorem orbCamMaker_brownConrady (intrinsics : PinholeCameraIntrinsics)
    (distortion : BrownConrady) :
    (slamSvc.orbCamMaker parseFloat ⟨some intrinsics, .brownConrady (some distortion)⟩).map
        (Except.map ORBsettings.loadMapLoc) =
      some ((orbParameters.find? (slamSvc.invalidParameter parseFloat)).elim (.ok [])
        fun p => .error (invalidDefinition p.1)) := by
  simp only [orbCamMaker, orbConfigToInt, orbConfigToFloat, orbConfigTo_bind, orbParameters,
    elim_find?_cons, List.find?_nil, invalidParameter, if_true, if_false, Bool.false_eq_true,
    Option.map_some', apply_ite (Except.map ORBsettings.loadMapLoc)]
  rfl

-- With intrinsics and a `*transform.BrownConrady`, `orbCamMaker` fails on the first parameter it
-- reads that is set to a value its reader rejects; otherwise it builds the settings from each
-- parameter's value, or its default when unset.
theorem orbCamMaker_settings (intrinsics : PinholeCameraIntrinsics) (distortion : BrownConrady) :
    slamSvc.orbCamMaker parseFloat ⟨some intrinsics, .brownConrady (some distortion)⟩ =
      some ((orbParameters.find? (slamSvc.invalidParameter parseFloat)).elim
        (.ok
          { fileVersion := fileVersion
            nFeatures := slamSvc.parameterValue atoi "orb_n_features" 1250
            scaleFactor :=
              slamSvc.parameterValue parseFloat "orb_scale_factor" (F64.ofBits 0x3FF3333333333333)
            nLevels := slamSvc.parameterValue atoi "orb_n_levels" 8
            iniThFAST := slamSvc.parameterValue atoi "orb_n_ini_th_fast" 20
            minThFAST := slamSvc.parameterValue atoi "orb_n_min_th_fast" 7
            camType := ascii "PinHole"
            width := intrinsics.width
            height := intrinsics.height
            fx := intrinsics.fx
            fy := intrinsics.fy
            ppx := intrinsics.ppx
            ppy := intrinsics.ppy
            radialK1 := distortion.radialK1
            radialK2 := distortion.radialK2
            radialK3 := distortion.radialK3
            tangentialP1 := distortion.tangentialP1
            tangentialP2 := distortion.tangentialP2
            rgbFlag := wrapInt8 (slamSvc.parameterValue atoi "rgb_flag" 1)
            stereob :=
              slamSvc.parameterValue parseFloat "stereo_b" (F64.ofBits 0x3FB3126E978D4FDF)
            stereoThDepth := slamSvc.parameterValue parseFloat "stereo_th_depth" (F64.ofNat 40)
            depthMapFactor :=
              slamSvc.parameterValue parseFloat "depth_map_factor" (F64.ofNat 1000)
            fpsCamera := wrapInt16 slamSvc.dataRateMs
            saveMapLoc := []
            loadMapLoc := [] })
        fun p => .error (invalidDefinition p.1)) := by
  simp only [orbCamMaker, orbConfigToInt, orbConfigToFloat, orbConfigTo_bind, orbParameters,
    elim_find?_cons, List.find?_nil, invalidParameter, if_true, if_false, Bool.false_eq_true]
  rfl

-- Settings `orbCamMaker` builds load no map.
theorem orbCamMaker_loadMapLoc {camProperties : PinholeCameraModel} {s : ORBsettings}
    (h : slamSvc.orbCamMaker parseFloat camProperties = some (.ok s)) : s.loadMapLoc = [] := by
  obtain ⟨intrinsics?, distortion⟩ := camProperties
  cases intrinsics? with
  | none => cases h
  | some intrinsics =>
    cases distortion with
    | brownConrady d =>
      cases d with
      | none => cases h
      | some d =>
        have hs := slamSvc.orbCamMaker_brownConrady parseFloat intrinsics d
        rw [h] at hs
        cases hf : orbParameters.find? (slamSvc.invalidParameter parseFloat) <;>
          simp only [hf, Option.elim_none, Option.elim_some, Option.map_some',
            Option.some_inj] at hs <;>
          simp_all [Except.map]
    | nil => cases h
    | other => cases h

-- `orbGenYAML` panics in two cases only: when the camera's distortion is a nil
-- `*transform.BrownConrady`, which its check for a nil distortion lets through, and when every
-- parameter is valid and the walk of the map directory panics.
theorem orbGenYAML_eq_none_iff {T : Type} (clock : Clock T) (env : YamlEnv T) :
    slamSvc.orbGenYAML parseFloat clock env = none ↔
      ∃ intrinsics distortion, env.getProperties = .ok ⟨some intrinsics, distortion⟩ ∧
        env.checkValid intrinsics = none ∧
        (distortion = .brownConrady none ∨
          (∃ d, distortion = .brownConrady (some d)) ∧
            orbParameters.find? (slamSvc.invalidParameter parseFloat) = none ∧
            checkMaps clock env.visits = none) := by
  unfold orbGenYAML
  rcases env.getProperties with e | ⟨_ | intrinsics, distortion⟩
  · simp only [reduceCtorEq, false_and, exists_false]
  · simp only [reduceCtorEq, Except.ok.injEq, CameraProperties.mk.injEq, false_and, exists_false]
  simp only [Except.ok.injEq, CameraProperties.mk.injEq, Option.some.injEq, and_assoc,
    exists_and_left, exists_eq_left']
  cases hv : env.checkValid intrinsics with
  | some e => simp only [reduceCtorEq, false_and]
  | none =>
    cases distortion with
    | nil => simp only [↓reduceIte, reduceCtorEq, exists_false, false_and, or_self, and_false]
    | other => simp only [reduceCtorEq, ↓reduceIte, orbCamMaker, Option.some_bind, exists_false,
        false_and, or_self, and_false]
    | brownConrady d =>
      cases d with
      | none => simp only [reduceCtorEq, ↓reduceIte, orbCamMaker, Option.none_bind, true_or, and_self]
      | some d =>
        have h := slamSvc.orbCamMaker_brownConrady parseFloat intrinsics d
        cases hr : slamSvc.orbCamMaker parseFloat ⟨some intrinsics, .brownConrady (some d)⟩ with
        | none => simp [hr] at h
        | some r =>
          rw [hr] at h
          cases hf : orbParameters.find? (slamSvc.invalidParameter parseFloat) <;>
            simp only [hf, Option.elim_none, Option.elim_some, Option.map_some',
              Option.some_inj] at h <;>
            cases r <;>
            simp only [Except.map, Except.ok.injEq, Except.error.injEq, reduceCtorEq, ↓reduceIte,
              Option.some_bind, Option.map_eq_none', Distorter.brownConrady.injEq,
              Option.some.injEq, exists_eq', true_and, false_or, false_and, and_false, or_self] at h ⊢

-- A run that writes its file has found `(loadMapTimeStamp, loadMapName)` with `checkMaps`. It
-- saves the map under its second reading of the clock, loads the map it found if there is one,
-- and names the file after that map's timestamp, or else after its first reading of the clock.
theorem orbGenYAML_ok {T : Type} {clock : Clock T} {env : YamlEnv T} {yamlFileName : GoString}
    {s : ORBsettings} (h : slamSvc.orbGenYAML parseFloat clock env = some (.ok (yamlFileName, s))) :
    ∃ loadMapTimeStamp loadMapName,
      checkMaps clock env.visits = some (loadMapTimeStamp, loadMapName) ∧
      s.saveMapLoc = env.join [slamSvc.dataDirectory, ascii "map",
        slamSvc.cameraName ++ ascii "_data_" ++ clock.format env.nowSave] ∧
      s.loadMapLoc = (if loadMapTimeStamp = [] then [] else loadMapName) ∧
      yamlFileName = env.join [slamSvc.dataDirectory, ascii "config",
        slamSvc.cameraName ++ ascii "_data_" ++
          (if loadMapTimeStamp = [] then clock.format env.nowLoad else loadMapTimeStamp) ++
          ascii ".yaml"] := by
  unfold orbGenYAML at h
  split at h
  · cases h
  split at h
  · cases h
  split at h
  · cases h
  split_ifs at h
  · cases h
  obtain ⟨r, hr, h⟩ := Option.bind_eq_some.mp h
  cases r with
  | error e => cases h
  | ok orbslam =>
    obtain ⟨⟨loadMapTimeStamp, loadMapName⟩, hc, h⟩ := Option.map_eq_some'.mp h
    refine ⟨loadMapTimeStamp, loadMapName, hc, ?_⟩
    dsimp only at h
    split at h
    · cases h
    split at h
    · cases h
    cases h
    have hload := slamSvc.orbCamMaker_loadMapLoc parseFloat hr
    exact ⟨rfl, by split_ifs <;> simp [hload], rfl⟩

-- A later run whose walk meets the `.osa` map a run saved, every other map older, loads that map
-- and names its configuration after the map's timestamp (for a camera name without `_data_`, a
-- map path without `.osa`, and a clock that reads back what it writes).
theorem orbGenYAML_loads_saved_map {T : Type} {clock : Clock T} {rank : T → Int}
    (hafter : ∀ a b, clock.after a b = decide (rank b < rank a))
    (hnonzero : ∀ t, rank clock.zero < rank t → clock.isZero t = false)
    {env env' : YamlEnv T} {yamlFileName yamlFileName' dir : GoString} {s s' : ORBsettings}
    {t : T} (hrun : slamSvc.orbGenYAML parseFloat clock env = some (.ok (yamlFileName, s)))
    (hjoin : env.join [slamSvc.dataDirectory, ascii "map",
        slamSvc.cameraName ++ ascii "_data_" ++ clock.format env.nowSave] =
      dir ++ (slamSvc.cameraName ++ ascii "_data_" ++ clock.format env.nowSave))
    (hcam : Strings.index (slamSvc.cameraName ++ ascii "_data_") (ascii "_data_") =
      slamSvc.cameraName.length)
    (hosa : Strings.index (s.saveMapLoc ++ mapExt) mapExt = s.saveMapLoc.length)
    (hparse : clock.parse (clock.format env.nowSave) = some t) (hstamp : clock.format t ≠ [])
    {pre post : List Visit} {err : Option String}
    (hvisits : env'.visits = pre ++ ⟨s.saveMapLoc ++ mapExt,
      some ⟨slamSvc.cameraName ++ ascii "_data_" ++ clock.format env.nowSave ++ mapExt, false⟩,
      err⟩ :: post)
    (hothers : ∀ w ∈ pre ++ post, (∀ st, walkFn clock st w ≠ none) ∧
      ∀ c ∈ mapCandidate clock w, rank c.1 < rank t)
    (hzero : rank clock.zero < rank t)
    (hrun' : slamSvc.orbGenYAML parseFloat clock env' = some (.ok (yamlFileName', s'))) :
    s'.loadMapLoc = s.saveMapLoc ∧
      yamlFileName' = env'.join [slamSvc.dataDirectory, ascii "config",
        slamSvc.cameraName ++ ascii "_data_" ++ clock.format t ++ ascii ".yaml"] := by
  obtain ⟨-, -, -, hsave, -, -⟩ := slamSvc.orbGenYAML_ok parseFloat hrun
  rw [hjoin] at hsave
  rw [hsave] at hosa hvisits
  obtain ⟨hcand, hsafe⟩ :=
    mapCandidate_savedMap clock dir slamSvc.cameraName (clock.format env.nowSave) err hcam hosa
  rw [hparse, Option.map_some'] at hcand
  -- the later run's walk: no visit panics, and the saved map is the one latest candidate
  have hall : ∀ w ∈ env'.visits, ∀ st, walkFn clock st w ≠ none := by
    rw [hvisits]
    intro w hw
    simp only [List.mem_append, List.mem_cons] at hw
    rcases hw with hw | rfl | hw
    · exact (hothers w (List.mem_append_left _ hw)).1
    · exact hsafe
    · exact (hothers w (List.mem_append_right _ hw)).1
  have hcands : env'.visits.filterMap (mapCandidate clock) =
      pre.filterMap (mapCandidate clock) ++
        (t, dir ++ (slamSvc.cameraName ++ ascii "_data_" ++ clock.format env.nowSave)) ::
          post.filterMap (mapCandidate clock) := by
    rw [hvisits, List.filterMap_append, List.filterMap_cons_some hcand]
  have hfold := @foldl_laterMap_of_latest T clock rank hafter (pre.filterMap (mapCandidate clock))
    (post.filterMap (mapCandidate clock))
    (t, dir ++ (slamSvc.cameraName ++ ascii "_data_" ++ clock.format env.nowSave))
    (clock.zero, []) hzero (fun d hd => by
      simp only [List.mem_append, List.mem_filterMap] at hd
      rcases hd with ⟨w, hw, hwd⟩ | ⟨w, hw, hwd⟩
      · exact (hothers w (List.mem_append_left _ hw)).2 d hwd
      · exact (hothers w (List.mem_append_right _ hw)).2 d hwd)
  have hcheck : checkMaps clock env'.visits = some (clock.format t,
      dir ++ (slamSvc.cameraName ++ ascii "_data_" ++ clock.format env.nowSave)) := by
    rw [checkMaps_of_walkFn_ne_none clock hall, hcands, hfold, hnonzero t hzero]
    rfl
  obtain ⟨ts, name, hc, -, hload, hyaml⟩ := slamSvc.orbGenYAML_ok parseFloat hrun'
  rw [hcheck, Option.some_inj, Prod.mk.injEq] at hc
  obtain ⟨rfl, rfl⟩ := hc
  rw [if_neg hstamp] at hload hyaml
  exact ⟨hload.trans hsave.symm, hyaml⟩

end SlamService

end

-- A camera `cam` under `/d` with every parameter at its default, and timestamps written in
-- decimal.
def camService : SlamService := ⟨fun _ => none, 200, ascii "/d", ascii "cam"⟩

def decimalStamps : Clock Nat :=
  ⟨0, fun t => t == 0, fun a b => decide (b < a), digitsValue, fun t => ascii (toString t)⟩

def camProperties : CameraProperties :=
  ⟨some ⟨640, 480, F64.one, F64.one, F64.zero, F64.zero⟩,
    .brownConrady (some ⟨F64.zero, F64.zero, F64.zero, F64.zero, F64.zero⟩)⟩

-- A run at time 7 on an empty map directory, and a run at time 9 whose walk meets the map the
-- first one saved.
def firstRun : YamlEnv Nat :=
  ⟨.ok camProperties, fun _ => none, [], 7, 7, fun parts => (ascii "/").intercalate parts,
    fun _ => .ok [], fun _ _ => none⟩

def secondRun : YamlEnv Nat :=
  { firstRun with
    visits := [⟨ascii "/d/map/cam_data_7.osa", some ⟨ascii "cam_data_7.osa", false⟩, none⟩]
    nowLoad := 9
    nowSave := 9 }

-- The settings of both runs, apart from where they save and load the map.
def camSettings (saveMapLoc loadMapLoc : GoString) : ORBsettings :=
  { fileVersion := fileVersion, nFeatures := 1250, scaleFactor := F64.ofBits 0x3FF3333333333333,
    nLevels := 8, iniThFAST := 20, minThFAST := 7, camType := ascii "PinHole", width := 640,
    height := 480, fx := F64.one, fy := F64.one, ppx := F64.zero, ppy := F64.zero,
    radialK1 := F64.zero, radialK2 := F64.zero, radialK3 := F64.zero, tangentialP1 := F64.zero,
    tangentialP2 := F64.zero, rgbFlag := 1, stereob := F64.ofBits 0x3FB3126E978D4FDF,
    stereoThDepth := F64.ofNat 40, depthMapFactor := F64.ofNat 1000, fpsCamera := 200,
    saveMapLoc := saveMapLoc, loadMapLoc := loadMapLoc }

theorem orbGenYAML_loads_saved_map_cam :
    camService.orbGenYAML (fun _ => none) decimalStamps firstRun =
        some (.ok (ascii "/d/config/cam_data_7.yaml", camSettings (ascii "/d/map/cam_data_7") [])) ∧
      camService.orbGenYAML (fun _ => none) decimalStamps secondRun =
        some (.ok (ascii "/d/config/cam_data_7.yaml",
          camSettings (ascii "/d/map/cam_data_9") (ascii "/d/map/cam_data_7"))) ∧
      (camSettings (ascii "/d/map/cam_data_9") (ascii "/d/map/cam_data_7")).loadMapLoc =
        (camSettings (ascii "/d/map/cam_data_7") []).saveMapLoc ∧
      ascii "/d/config/cam_data_7.yaml" = secondRun.join [camService.dataDirectory,
        ascii "config", camService.cameraName ++ ascii "_data_" ++ decimalStamps.format 7 ++
          ascii ".yaml"] :=
  have hrun : camService.orbGenYAML (fun _ => none) decimalStamps firstRun =
      some (.ok (ascii "/d/config/cam_data_7.yaml", camSettings (ascii "/d/map/cam_data_7") [])) :=
    rfl
  have hrun' : camService.orbGenYAML (fun _ => none) decimalStamps secondRun =
      some (.ok (ascii "/d/config/cam_data_7.yaml",
        camSettings (ascii "/d/map/cam_data_9") (ascii "/d/map/cam_data_7"))) :=
    rfl
  ⟨hrun, hrun', SlamService.orbGenYAML_loads_saved_map (fun _ => none) camService
    (show ∀ a b : Nat, decimalStamps.after a b = decide ((b : Int) < a) by simp [decimalStamps])
    (fun t ht => by simp [decimalStamps] at ht ⊢; omega) hrun
    (show _ = ascii "/d/map/" ++ _ from rfl) (by decide) (by decide)
    (show decimalStamps.parse (decimalStamps.format 7) = some 7 from rfl) (by decide)
    (show secondRun.visits = [] ++ _ :: [] from rfl) (by simp) (by decide) hrun'⟩

end Rdk.Slam
