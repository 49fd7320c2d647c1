import Rdk.Go.Float64

namespace Rdk.Go

-- Go's builtin `copy(dst, src)`: the first `min(len(dst), len(src))` elements of `dst` are
-- overwritten by those of `src`, and `dst` keeps its length.
def copy {α : Type} (dst src : List α) : List α := src.take dst.length ++ dst.drop src.length

@[simp]
theorem length_copy {α : Type} (dst src : List α) : (copy dst src).length = dst.length := by
  simp only [copy, List.length_append, List.length_take, List.length_drop]
  omega

theorem copy_of_length_eq {α : Type} {dst src : List α} (h : src.length = dst.length) :
    copy dst src = src := by
  simp [copy, ← h]

end Rdk.Go

namespace Rdk.Arm.Fake

open Rdk.Go

-- What the fake arm uses of its `referenceframe.Model`: the conversions between joint positions
-- in degrees and inputs, and `Transform`, which fails on inputs the model rejects.
structure Model (I P : Type) where
  inputFromProtobuf : List F64 → List I
  protobufFromInput : List I → List F64
  transform : List I → Except String P

-- The state of a fake `Arm`: its model and the values of its `joints`.
structure Arm (I P : Type) where
  model : Model I P
  joints : List F64

section

variable {I P : Type}

-- `NewArm`, once the model has loaded: the joints start as six zeros, whatever the model.
def newArm (model : Model I P) : Arm I P := ⟨model, List.replicate 6 F64.zero⟩

-- `Arm.MoveToJointPositions`: the new state and the returned error.
def moveToJointPositions (a : Arm I P) (joints : List F64) : Arm I P × Option String :=
  match a.model.transform (a.model.inputFromProtobuf joints) with
  | .error e => (a, some e)
  | .ok _ => ({ a with joints := copy a.joints joints }, none)

-- `Arm.JointPositions`.
def jointPositions (a : Arm I P) : List F64 := a.joints

-- `Arm.CurrentInputs`.
def currentInputs (a : Arm I P) : List I := a.model.inputFromProtobuf (jointPositions a)

-- `Arm.GoToInputs`.
def goToInputs (a : Arm I P) (goal : List I) : Arm I P × Option String :=
  moveToJointPositions a (a.model.protobufFromInput goal)

-- The calls that change or read the joint state.
inductive Call (I : Type)
  | moveToJointPositions (joints : List F64)
  | goToInputs (goal : List I)

def Call.apply (a : Arm I P) : Call I → Arm I P
  | .moveToJointPositions joints => (Fake.moveToJointPositions a joints).1
  | .goToInputs goal => (Fake.goToInputs a goal).1

-- The arm after a sequence of calls.
def run (a : Arm I P) (calls : List (Call I)) : Arm I P := calls.foldl Call.apply a

-- A move keeps the number of joint values: `copy` never resizes the slice.
theorem moveToJointPositions_length (a : Arm I P) (joints : List F64) :
    (moveToJointPositions a joints).1.joints.length = a.joints.length := by
  unfold moveToJointPositions
  split
  · rfl
  · exact length_copy _ _

-- A move the model rejects returns its error and leaves the joint state as it was.
theorem moveToJointPositions_rejected {a : Arm I P} {joints : List F64} {e : String}
    (h : a.model.transform (a.model.inputFromProtobuf joints) = .error e) :
    moveToJointPositions a joints = (a, some e) := by
  simp [moveToJointPositions, h]

-- A move the model accepts stores the new values when they are as many as the stored ones.
theorem moveToJointPositions_accepted {a : Arm I P} {joints : List F64} {pose : P}
    (h : a.model.transform (a.model.inputFromProtobuf joints) = .ok pose)
    (hlen : joints.length = a.joints.length) :
    moveToJointPositions a joints = ({ a with joints := joints }, none) := by
  simp [moveToJointPositions, h, copy_of_length_eq hlen]

theorem run_joints_length (a : Arm I P) (calls : List (Call I)) :
    (run a calls).joints.length = a.joints.length := by
  induction calls generalizing a with
  | nil => rfl
  | cons c calls ih =>
    rw [run, List.foldl_cons, ← run, ih]
    cases c <;> exact moveToJointPositions_length _ _

end

-- Whatever model the fake arm loads and whatever calls it then serves, `JointPositions`
-- returns six values.
theorem jointPositions_run_newArm {I P : Type} (model : Model I P) (calls : List (Call I)) :
    (jointPositions (run (newArm model) calls)).length = 6 := by
  rw [jointPositions, run_joints_length]
  exact List.length_replicate 6 F64.zero

-- A model with seven joints that accepts any seven values: moving to seven ones succeeds, yet
-- the arm reports six values and its inputs are not the goal.
def sevenJoints : Model F64 Unit :=
  ⟨id, id, fun q => if q.length = 7 then .ok () else .error "expected 7 inputs"⟩

theorem goToInputs_sevenJoints :
    let r := goToInputs (newArm sevenJoints) (List.replicate 7 F64.one)
    r.2 = none ∧ (jointPositions r.1).length = 6 ∧
      currentInputs r.1 ≠ List.replicate 7 F64.one := by
  decide

end Rdk.Arm.Fake
