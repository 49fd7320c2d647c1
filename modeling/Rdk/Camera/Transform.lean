import Mathlib.Data.List.Perm.Basic

namespace Rdk.Camera

-- The `transformType` constants.
def transformTypeUnspecified : String := ""
def transformTypeIdentity : String := "identity"
def transformTypeRotate : String := "rotate"
def transformTypeResize : String := "resize"
def transformTypeDepthPretty : String := "depth_to_pretty"
def transformTypeOverlay : String := "overlay"
def transformTypeUndistort : String := "undistort"
def transformTypeDetections : String := "detections"
def transformTypeDepthEdges : String := "depth_edges"
def transformTypeDepthPreprocess : String := "depth_preprocess"

-- The attribute structures a registration's `retType` points to; their fields are outside this
-- code.
inductive AttrsType
  | emptyAttrs
  | resizeAttrs
  | overlayAttrs
  | undistortAttrs
  | detectorAttrs
  | depthEdgesAttrs
  deriving DecidableEq, Repr

structure TransformRegistration where
  name : String
  retType : AttrsType
  description : String
  deriving DecidableEq, Repr

-- `registeredTransformConfigs`, a Go map: its entries in one order of ranging over it.
def registeredTransformConfigs : List (String × TransformRegistration) :=
  [(transformTypeIdentity, ⟨transformTypeIdentity, .emptyAttrs,
      "Does nothing to the image. Can use this to duplicate camera sources, or change the source's stream or parameters."⟩),
    (transformTypeRotate, ⟨transformTypeRotate, .emptyAttrs,
      "Rotate the image by 180 degrees. Used when the camera is installed upside down."⟩),
    (transformTypeResize, ⟨transformTypeResize, .resizeAttrs,
      "Resizes the image to the specified height and width"⟩),
    (transformTypeDepthPretty, ⟨transformTypeDepthPretty, .emptyAttrs,
      "Turns a depth image source into a colorful image, with blue indicating distant points and red indicating nearby points."⟩),
    (transformTypeOverlay, ⟨transformTypeOverlay, .overlayAttrs,
      "Projects a point cloud to a 2D RGB and Depth image, and overlays the two images. Used to debug the RGB+D alignment."⟩),
    (transformTypeUndistort, ⟨transformTypeUndistort, .undistortAttrs,
      "Uses intrinsics and modified Brown-Conrady parameters to undistort the source image."⟩),
    (transformTypeDetections, ⟨transformTypeDetections, .detectorAttrs,
      "Overlays object detections on the image. Can use any detector registered in the vision service."⟩),
    (transformTypeDepthEdges, ⟨transformTypeDepthEdges, .depthEdgesAttrs,
      "Applies a Canny edge detector to find edges. Only works on cameras that produce depth maps."⟩),
    (transformTypeDepthPreprocess, ⟨transformTypeDepthPreprocess, .emptyAttrs,
      "Applies some basic hole-filling and edge smoothing to a depth map."⟩)]

-- `Transformation`, with the attribute map of type `A`.
structure Transformation (A : Type) where
  type : String
  attributes : A

-- The constructor `buildTransform` calls, outside this code, with the attributes it hands
-- over; `source` is the source and stream returned as they are.
inductive TransformCall (A : Type)
  | source
  | rotate
  | resize (attributes : A)
  | depthToPretty
  | overlay (attributes : A)
  | undistort (attributes : A)
  | detections (attributes : A)
  | depthEdges (attributes : A)
  | depthPreprocess

section

-- `%q`, that is `strconv.Quote`, outside this code.
variable (quote : String → String)

-- `buildTransform`: the switch on the configured type.
def buildTransform {A : Type} (tr : Transformation A) : Except String (TransformCall A) :=
  if tr.type = transformTypeUnspecified ∨ tr.type = transformTypeIdentity then .ok .source
  else if tr.type = transformTypeRotate then .ok .rotate
  else if tr.type = transformTypeResize then .ok (.resize tr.attributes)
  else if tr.type = transformTypeDepthPretty then .ok .depthToPretty
  else if tr.type = transformTypeOverlay then .ok (.overlay tr.attributes)
  else if tr.type = transformTypeUndistort then .ok (.undistort tr.attributes)
  else if tr.type = transformTypeDetections then .ok (.detections tr.attributes)
  else if tr.type = transformTypeDepthEdges then .ok (.depthEdges tr.attributes)
  else if tr.type = transformTypeDepthPreprocess then .ok .depthPreprocess
  else .error ("do not know camera transform of type " ++ quote tr.type)

theorem registered_name : ∀ p ∈ registeredTransformConfigs, p.2.name = p.1 := by decide

-- Every registered type is built.
theorem buildTransform_registered {A : Type} :
    ∀ p ∈ registeredTransformConfigs, ∀ attrs : A, ∃ call,
      buildTransform quote ⟨p.1, attrs⟩ = .ok call := by
  intro p hp attrs
  simp only [registeredTransformConfigs, List.mem_cons, List.not_mem_nil, or_false] at hp
  rcases hp with rfl | rfl | rfl | rfl | rfl | rfl | rfl | rfl | rfl <;> exact ⟨_, rfl⟩

-- `buildTransform` builds the unspecified type and the registered ones, and no other.
theorem buildTransform_ok_iff {A : Type} (tr : Transformation A) :
    (∃ call, buildTransform quote tr = .ok call) ↔
      tr.type = transformTypeUnspecified ∨ tr.type ∈ registeredTransformConfigs.map Prod.fst := by
  constructor
  · rintro ⟨call, h⟩
    by_contra hn
    simp only [registeredTransformConfigs, List.map_cons, List.map_nil, List.mem_cons,
      List.not_mem_nil, or_false, not_or] at hn
    obtain ⟨h₀, h₁, h₂, h₃, h₄, h₅, h₆, h₇, h₈, h₉⟩ := hn
    simp only [buildTransform, h₀, h₁, h₂, h₃, h₄, h₅, h₆, h₇, h₈, h₉, or_self, if_false] at h
    cases h
  · rintro (h | h)
    · exact ⟨.source, by simp [buildTransform, h]⟩
    · obtain ⟨p, hp, hpt⟩ := List.mem_map.mp h
      obtain ⟨call, hcall⟩ := buildTransform_registered quote p hp tr.attributes
      rw [hpt] at hcall
      exact ⟨call, hcall⟩

end

-- `jsonschema.Schema`, with the part `jsonschema.Reflect` fills in of type `B`.
structure Schema (B : Type) where
  body : B
  title : String
  type : String
  description : String

-- `Transformation.JSONSchema`: the `OneOf` list, over the registrations in the order `order` the
-- map is ranged over, with `reflect` for `jsonschema.Reflect`.
def transformationJSONSchema {B : Type} (reflect : AttrsType → Schema B)
    (order : List (String × TransformRegistration)) : List (Schema B) :=
  order.map fun (_, transformReg) =>
    { reflect transformReg.retType with
      title := transformReg.name, type := "object", description := transformReg.description }

-- Whatever order the map is ranged over in, the schema the front end is given offers each
-- registered transform once, under the name `buildTransform` builds it by; `buildTransform` builds
-- those and the unspecified type, which is not offered, and nothing else.
theorem transformationJSONSchema_buildTransform {A B : Type} (quote : String → String)
    (reflect : AttrsType → Schema B) {order : List (String × TransformRegistration)}
    (horder : order.Perm registeredTransformConfigs) :
    let schemas := transformationJSONSchema reflect order
    (∀ tr : Transformation A, (∃ call, buildTransform quote tr = .ok call) ↔
      tr.type = transformTypeUnspecified ∨ ∃ s ∈ schemas, s.title = tr.type) ∧
    (schemas.map Schema.title).Nodup ∧ transformTypeUnspecified ∉ schemas.map Schema.title ∧
    ∀ s ∈ schemas, s.type = "object" := by
  intro schemas
  have htitles : schemas.map Schema.title = order.map Prod.fst := by
    simp only [schemas, transformationJSONSchema, List.map_map]
    exact List.map_congr_left fun p hp => registered_name p (horder.subset hp)
  have hperm := horder.map Prod.fst
  refine ⟨fun tr => ?_, ?_, ?_, fun s hs => ?_⟩
  · rw [buildTransform_ok_iff, ← List.mem_map, htitles, hperm.mem_iff]
  · rw [htitles, hperm.nodup_iff]
    decide
  · rw [htitles, hperm.mem_iff]
    decide
  · obtain ⟨_, -, rfl⟩ := List.mem_map.mp hs
    rfl

end Rdk.Camera
