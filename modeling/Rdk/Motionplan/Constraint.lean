import Mathlib.Data.List.AList

namespace Rdk.Motionplan

-- The constraint code is generic in what it checks: `Q` is the content of a non-nil
-- `[]referenceframe.Input`, `P` a non-nil `spatial.Pose`. A nil slice or pose is `none`.

-- `referenceframe.Frame`, through the one method the constraint code calls.
structure Frame (Q P : Type) where
  transform : Q → Except String P

-- `float64(i) / float64(steps)`, kept as the pair it is computed from: the quotient is only
-- ever handed to `InterpolateInputs`.
structure Fraction where
  num : Nat
  den : Int
  deriving DecidableEq, Repr

section

variable {Q P : Type}

structure SegmentInput (Q P : Type) where
  startPosition : Option P
  endPosition : Option P
  startConfiguration : Option Q
  endConfiguration : Option Q
  frame : Option (Frame Q P)

structure StateInput (Q P : Type) where
  position : Option P
  configuration : Option Q
  frame : Option (Frame Q P)

def invalidConstraintInput : String := "invalid constraint input"

-- One pose field of `resolveInputsToPositions`: kept when present, else computed through the
-- frame from the configuration.
def resolvePose (position : Option P) (frame : Option (Frame Q P)) (configuration : Option Q) :
    Except String P :=
  match position, frame, configuration with
  | some pose, _, _ => .ok pose
  | none, some f, some q => f.transform q
  | none, _, _ => .error invalidConstraintInput

-- `SegmentInput.resolveInputsToPositions`: the two poses it fills in.
def SegmentInput.resolveInputsToPositions (ci : SegmentInput Q P) : Except String (P × P) := do
  let s ← resolvePose ci.startPosition ci.frame ci.startConfiguration
  let e ← resolvePose ci.endPosition ci.frame ci.endConfiguration
  pure (s, e)

-- `StateInput.resolveInputsToPositions`: the pose it fills in.
def StateInput.resolveInputsToPositions (ci : StateInput Q P) : Except String P :=
  resolvePose ci.position ci.frame ci.configuration

abbrev SegmentConstraint (Q P : Type) := SegmentInput Q P → Bool

abbrev StateConstraint (Q P : Type) := StateInput Q P → Bool

-- The two registries, keyed by name. A Go map is iterated in an unspecified order; the
-- entries' order stands for one such order.
structure ConstraintHandler (Q P : Type) where
  segmentConstraints : AList fun _ : String => SegmentConstraint Q P
  stateConstraints : AList fun _ : String => StateConstraint Q P

-- The loop shared by `CheckStateConstraints` and `CheckSegmentConstraints`: the first failing
-- constraint's name, or `(true, "")`.
def checkConstraints {α : Type} (x : α) : List (Σ _ : String, α → Bool) → Bool × String
  | [] => (true, "")
  | ⟨name, cFunc⟩ :: rest => if cFunc x then checkConstraints x rest else (false, name)

theorem checkConstraints_fst_iff {α : Type} (x : α) (cs : List (Σ _ : String, α → Bool)) :
    (checkConstraints x cs).1 = true ↔ ∀ c ∈ cs, c.2 x = true := by
  induction cs with
  | nil => simp [checkConstraints]
  | cons c cs ih =>
    obtain ⟨name, f⟩ := c
    by_cases h : f x = true <;> simp [checkConstraints, h, ih]

-- The loop over a registry passes exactly when every constraint the registry holds passes.
theorem checkConstraints_entries_iff {α : Type} (s : AList fun _ : String => α → Bool) (x : α) :
    (checkConstraints x s.entries).1 = true ↔ ∀ name f, s.lookup name = some f → f x = true := by
  rw [checkConstraints_fst_iff]
  exact ⟨fun h name f hf => h ⟨name, f⟩ (AList.mem_lookup_iff.mp hf),
    fun h c hc => h c.1 c.2 (AList.mem_lookup_iff.mpr hc)⟩

namespace ConstraintHandler

def checkStateConstraints (c : ConstraintHandler Q P) (cInput : StateInput Q P) : Bool × String :=
  checkConstraints cInput c.stateConstraints.entries

def checkSegmentConstraints (c : ConstraintHandler Q P) (cInput : SegmentInput Q P) :
    Bool × String :=
  checkConstraints cInput c.segmentConstraints.entries

-- `AddStateConstraint`: adds, or overwrites, the constraint under `name`.
def addStateConstraint (c : ConstraintHandler Q P) (name : String) (cons : StateConstraint Q P) :
    ConstraintHandler Q P :=
  { c with stateConstraints := c.stateConstraints.insert name cons }

-- `RemoveStateConstraint`: `delete(c.stateConstraints, name)`.
def removeStateConstraint (c : ConstraintHandler Q P) (name : String) : ConstraintHandler Q P :=
  { c with stateConstraints := c.stateConstraints.erase name }

-- Removing a name forgets whatever adding it overwrote.
theorem removeStateConstraint_addStateConstraint (c : ConstraintHandler Q P) (name : String)
    (cons : StateConstraint Q P) :
    (c.addStateConstraint name cons).removeStateConstraint name = c.removeStateConstraint name := by
  simp only [addStateConstraint, removeStateConstraint, mk.injEq, true_and]
  ext : 1
  show ((c.stateConstraints.insert name cons).entries.kerase name) = _
  simp only [AList.insert_entries, List.kerase_cons_eq]
  rfl

-- `PathStepCount` and `InterpolateInputs` live outside this code; the checks take them as given.
variable (pathStepCount : P → P → Float → Int)
  (interpolateInputs : Option Q → Option Q → Fraction → Option Q)

-- The loop of `CheckStateConstraintsAcrossSegment` over the steps `is`, with the configuration
-- of the last state that passed.
def acrossSegment (c : ConstraintHandler Q P) (ci : SegmentInput Q P) (steps : Int) :
    List Nat → Option Q → Bool × Option (SegmentInput Q P)
  | [], _ => (true, none)
  | i :: rest, lastGood =>
    let interpConfig := interpolateInputs ci.startConfiguration ci.endConfiguration ⟨i, steps⟩
    let interpC : StateInput Q P := ⟨none, interpConfig, ci.frame⟩
    match interpC.resolveInputsToPositions with
    | .error _ => (false, none)
    | .ok pos =>
      if (c.checkStateConstraints { interpC with position := some pos }).1 then
        acrossSegment c ci steps rest interpConfig
      else if i = 0 then (false, none)
      else (false, some ⟨none, none, ci.startConfiguration, lastGood, none⟩)

def checkStateConstraintsAcrossSegment (c : ConstraintHandler Q P) (ci : SegmentInput Q P)
    (resolution : Float) : Bool × Option (SegmentInput Q P) :=
  match ci.resolveInputsToPositions with
  | .error _ => (false, none)
  | .ok (s, e) =>
    let steps := pathStepCount s e resolution
    acrossSegment interpolateInputs c ci steps (List.range (steps + 1).toNat) none

def checkSegmentAndStateValidity (c : ConstraintHandler Q P) (cInput : SegmentInput Q P)
    (resolution : Float) : Bool × Option (SegmentInput Q P) :=
  if (c.checkSegmentConstraints cInput).1 = false then (false, none)
  else
    match c.checkStateConstraintsAcrossSegment pathStepCount interpolateInputs cInput resolution with
    | (true, _) => (true, none)
    | (false, some subSegment) =>
      if (c.checkSegmentConstraints subSegment).1 then (false, some subSegment) else (false, none)
    | (false, none) => (false, none)

end ConstraintHandler

end

end Rdk.Motionplan
