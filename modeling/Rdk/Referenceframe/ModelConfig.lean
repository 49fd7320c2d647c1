import Mathlib.Data.List.AList

namespace Rdk.Referenceframe

-- The name of the root frame.
def world : String := "world"

def revoluteJoint : String := "revolute"

def prismaticJoint : String := "prismatic"

structure Limit (R : Type) where
  min : R
  max : R
  deriving DecidableEq, Repr

-- The errors of `ModelConfig.ParseConfig`. `msg` carries a text the source writes out; the other
-- errors are made outside src, and only their kind is kept.
inductive ParseError
  | msg (s : String)
  | unsupportedJointType (jointType : String)
  | collaborator (e : String)
  | frameMissing (name : String)
  | parentMissing (name : String)
  | circularReference
  | disconnected
  deriving DecidableEq, Repr

-- What a frame of the model is built from: the constructor `ParseConfig` calls and its arguments.
-- `R` is `float64`, `V` an `r3.Vector` (or an `AxisConfig`), `A` a `spatial.R4AA`, `P` a pose.
inductive FrameKind (R V A P : Type)
  | static (pose : P)
  | rotational (axis : A) (limit : Limit R)
  | translational (axis : V) (limit : Limit R)
  deriving DecidableEq, Repr

structure Frame (R V A P G : Type) where
  name : String
  kind : FrameKind R V A P
  geometry : Option G
  deriving DecidableEq, Repr

-- `LinkConfig`. This repository's links declare no geometry.
structure LinkConfig (V O : Type) where
  id : String
  translation : V
  orientation : Option O
  parent : String
  deriving DecidableEq, Repr

structure JointConfig (R V GC : Type) where
  id : String
  type : String
  parent : String
  axis : V
  max : R
  min : R
  geometry : Option GC
  deriving DecidableEq, Repr

structure DHParamConfig (R GC : Type) where
  id : String
  parent : String
  a : R
  d : R
  alpha : R
  max : R
  min : R
  geometry : Option GC
  deriving DecidableEq, Repr

structure ModelConfig (R V O GC : Type) where
  name : String
  kinParamType : String
  links : List (LinkConfig V O)
  joints : List (JointConfig R V GC)
  dhParams : List (DHParamConfig R GC)
  deriving DecidableEq, Repr

-- The functions `ParseConfig` calls that live outside src. `linkPose` is the pose
-- `LinkConfig.ToStaticFrame` builds from a link's translation and orientation; `frameError` is what
-- the `New*Frame` constructors refuse.
structure Spatial (R V O A P G GC : Type) where
  degToRad : R → R
  axisParseConfig : V → A
  zAxis : A
  newPoseFromDH : R → R → R → P
  linkPose : V → Option O → Except String P
  geometryParseConfig : Option GC → Except String G
  frameError : Frame R V A P G → Option String

-- The model `ParseConfig` returns: its name and `OrdTransforms`.
structure Model (R V A P G : Type) where
  name : String
  ordTransforms : List (Frame R V A P G)
  deriving DecidableEq, Repr

theorem bind_eq_ok {ε α β : Type} {x : Except ε α} {f : α → Except ε β} {b : β} :
    (x >>= f) = .ok b ↔ ∃ a, x = .ok a ∧ f a = .ok b := by
  cases x <;> simp [bind, Except.bind]

section

variable {R V O A P G GC : Type} (sm : Spatial R V O A P G GC)

-- Go's `map[string]Frame` and `map[string]string`: assigning to a key replaces its entry.
abbrev Frames (R V A P G : Type) := AList fun _ : String => Frame R V A P G

abbrev Parents := AList fun _ : String => String

-- A `New*Frame` constructor building `f`.
def Spatial.newFrame (f : Frame R V A P G) : Except ParseError (Frame R V A P G) :=
  match sm.frameError f with
  | some e => .error (.collaborator e)
  | none => .ok f

-- Modelled from the spec: a link is a static offset, its frame the link's pose under `name`.
def LinkConfig.toStaticFrame (link : LinkConfig V O) (name : String) :
    Except ParseError (Frame R V A P G) :=
  match sm.linkPose link.translation link.orientation with
  | .error e => .error (.collaborator e)
  | .ok pose => sm.newFrame ⟨name, .static pose, none⟩

def JointConfig.toFrame (cfg : JointConfig R V GC) : Except ParseError (Frame R V A P G) :=
  if cfg.type = revoluteJoint then
    sm.newFrame ⟨cfg.id, .rotational (sm.axisParseConfig cfg.axis)
      ⟨sm.degToRad cfg.min, sm.degToRad cfg.max⟩, none⟩
  else if cfg.type = prismaticJoint then
    sm.newFrame ⟨cfg.id, .translational cfg.axis ⟨cfg.min, cfg.max⟩, none⟩
  else .error (.unsupportedJointType cfg.type)

-- One loop of the SVA branch: each declaration's frame under its id, and its parent.
def addFrames {α : Type} (id parent : α → String)
    (toFrame : α → Except ParseError (Frame R V A P G)) :
    List α → Frames R V A P G × Parents → Except ParseError (Frames R V A P G × Parents)
  | [], acc => .ok acc
  | x :: rest, (transforms, parentMap) => do
    let f ← toFrame x
    addFrames id parent toFrame rest
      (transforms.insert (id x) f, parentMap.insert (id x) (parent x))

def addLinks (links : List (LinkConfig V O)) :
    Frames R V A P G × Parents → Except ParseError (Frames R V A P G × Parents) :=
  addFrames LinkConfig.id LinkConfig.parent (fun link => link.toStaticFrame sm link.id) links

def addJoints (joints : List (JointConfig R V GC)) :
    Frames R V A P G × Parents → Except ParseError (Frames R V A P G × Parents) :=
  addFrames JointConfig.id JointConfig.parent (·.toFrame sm) joints

-- The link of a DH row: a static frame with the row's geometry when that parses, else with none.
def dhLinkFrame (dh : DHParamConfig R GC) (pose : P) : Except ParseError (Frame R V A P G) :=
  match sm.geometryParseConfig dh.geometry with
  | .ok geometryCreator => sm.newFrame ⟨dh.id, .static pose, some geometryCreator⟩
  | .error _ => sm.newFrame ⟨dh.id, .static pose, none⟩

-- The DH loop: a row is a rotational joint `id_j` under the row's parent and a static link `id`
-- under the joint.
def addDHParams : List (DHParamConfig R GC) → Frames R V A P G × Parents →
    Except ParseError (Frames R V A P G × Parents)
  | [], acc => .ok acc
  | dh :: rest, (transforms, parentMap) => do
    let jointID := dh.id ++ "_j"
    let rf ← sm.newFrame ⟨jointID, .rotational sm.zAxis ⟨sm.degToRad dh.min, sm.degToRad dh.max⟩,
      none⟩
    let lf ← dhLinkFrame sm dh (sm.newPoseFromDH dh.a dh.d (sm.degToRad dh.alpha))
    addDHParams rest ((transforms.insert jointID rf).insert dh.id lf,
      (parentMap.insert jointID dh.parent).insert dh.id jointID)

-- `DHParamConfig.ToDHFrames`: the same two frames, but a geometry is parsed only when the row
-- declares one, and a parse error is returned.
def DHParamConfig.toDHFrames (dh : DHParamConfig R GC) :
    Except ParseError (Frame R V A P G × Frame R V A P G) := do
  let jointID := dh.id ++ "_j"
  let rFrame ← sm.newFrame ⟨jointID, .rotational sm.zAxis
    ⟨sm.degToRad dh.min, sm.degToRad dh.max⟩, none⟩
  let linkID := dh.id
  let pose := sm.newPoseFromDH dh.a dh.d (sm.degToRad dh.alpha)
  let lFrame ← match dh.geometry with
    | some _ =>
      match sm.geometryParseConfig dh.geometry with
      | .error e => .error (.collaborator e)
      | .ok geometryCreator => sm.newFrame ⟨linkID, .static pose, some geometryCreator⟩
    | none => sm.newFrame ⟨dh.id, .static pose, none⟩
  pure (rFrame, lFrame)

-- The `switch` of `ParseConfig`: the frames and the parent of each, before any check on their shape.
def ModelConfig.transforms (cfg : ModelConfig R V O GC) :
    Except ParseError (Frames R V A P G × Parents) :=
  if cfg.kinParamType = "SVA" ∨ cfg.kinParamType = "" then
    if cfg.links.any (·.id = world) then .error (.msg "reserved word: cannot name a link 'world'")
    else if cfg.joints.any (·.id = world) then
      .error (.msg "reserved word: cannot name a joint 'world'")
    else (addLinks sm cfg.links (∅, ∅)).bind (addJoints sm cfg.joints)
  else if cfg.kinParamType = "DH" then addDHParams sm cfg.dhParams (∅, ∅)
  else .error (.msg ("unsupported param type: " ++ cfg.kinParamType ++
    ", supported params are SVA and DH"))

end

section Order

variable {R V A P G : Type}

-- The frames no frame names as its parent: the copy of `transforms` with every parent deleted.
def endEffectors (transforms : Frames R V A P G) (parentMap : Parents) : Frames R V A P G :=
  transforms.entries.foldl (fun parents e => parents.erase ((parentMap.lookup e.2.name).getD ""))
    transforms

-- Modelled from the spec: from `name` up the parent map until a frame whose parent is `finish`,
-- failing on a name with no frame or no parent, and on a name met twice. The result lists the
-- frames from the one under `finish` down to `name`.
def walkToRoot (transforms : Frames R V A P G) (parentMap : Parents) (finish : String) :
    Nat → String → List String → Except ParseError (List (Frame R V A P G))
  | 0, _, _ => .error .circularReference
  | fuel + 1, name, seen =>
    match transforms.lookup name, parentMap.lookup name with
    | none, _ => .error (.frameMissing name)
    | some _, none => .error (.parentMissing name)
    | some f, some parent =>
      if parent = finish then .ok [f]
      else if parent ∈ name :: seen then .error .circularReference
      else (walkToRoot transforms parentMap finish fuel parent (name :: seen)).map (· ++ [f])

-- Modelled from the spec: the order of a fully connected acyclic chain from `start` up to
-- `finish`; a frame off that chain is an error.
def sortTransforms (transforms : Frames R V A P G) (parentMap : Parents) (start finish : String) :
    Except ParseError (List (Frame R V A P G)) :=
  (walkToRoot transforms parentMap finish (transforms.entries.length + 1) start []).bind
    fun ordered =>
      if ordered.length = transforms.entries.length then .ok ordered else .error .disconnected

end Order

section

variable {R V O A P G GC : Type} (sm : Spatial R V O A P G GC)

def ModelConfig.parseConfig (cfg : ModelConfig R V O GC) (modelName : String) :
    Except ParseError (Model R V A P G) := do
  let modelName := if modelName = "" then cfg.name else modelName
  let (transforms, parentMap) ← cfg.transforms sm
  match (endEffectors transforms parentMap).entries with
  | [] => .error (.msg "need at least one end effector")
  | [⟨eename, _⟩] => do
    let orderedTransforms ← sortTransforms transforms parentMap eename world
    pure ⟨modelName, orderedTransforms⟩
  | _ :: _ :: _ => .error (.msg "more than one end effector not supported")

end

end Rdk.Referenceframe
