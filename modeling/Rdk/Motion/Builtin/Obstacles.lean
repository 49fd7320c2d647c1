import Rdk.Rtkutils.RoundTrip

namespace Rdk.Motion.Builtin

open Rdk.Rtkutils

-- What `label += "_" + geometry.Label()` appends: nothing for an unlabelled geometry.
def labelSuffix (label : GoString) : GoString := if label ≠ [] then ascii "_" ++ label else []

-- The label `obstaclesIntersectPlan` gives the detection at index `i` of camera `camName`,
-- whose transformed geometry is labelled `label`.
def obstacleLabel (camName : GoString) (i : Nat) (label : GoString) : GoString :=
  let l := camName ++ ascii "_transientObstacle_" ++ itoa i
  if label ≠ [] then l ++ ascii "_" ++ label else l

-- The labels of the geometries `obstaclesIntersectPlan` builds from the detections at
-- indices `i, i + 1, ...`, given their geometries' own labels.
def obstacleLabels (camName : GoString) : Nat → List GoString → List GoString
  | _, [] => []
  | i, label :: labels => obstacleLabel camName i label :: obstacleLabels camName (i + 1) labels

theorem obstacleLabel_eq (camName : GoString) (i : Nat) (label : GoString) :
    obstacleLabel camName i label =
      camName ++ ascii "_transientObstacle_" ++ (decimal i ++ labelSuffix label) := by
  have hi : itoa i = decimal i := by
    simp only [itoa, if_neg (Int.not_lt.mpr (Int.natCast_nonneg i))]; rfl
  unfold obstacleLabel labelSuffix
  split <;> simp [hi]

example : obstacleLabel (ascii "cam") 12 (ascii "box") = ascii "cam_transientObstacle_12_box" := by
  decide

-- The digits of the index end where the suffix starts: an underscore is no digit.
theorem takeWhile_isDigit_decimal (i : Nat) (label : GoString) :
    (decimal i ++ labelSuffix label).takeWhile isDigit = decimal i := by
  rw [List.takeWhile_append_of_pos fun _ => isDigit_of_mem_decimal, labelSuffix]
  split
  · show decimal i ++ List.takeWhile isDigit ((95 : UInt8) :: label) = decimal i
    rw [@List.takeWhile_cons_of_neg _ isDigit 95 label (by decide), List.append_nil]
  · simp

-- Two detections of one camera with the same label have the same index.
theorem obstacleLabel_inj {camName a b : GoString} {i j : Nat}
    (h : obstacleLabel camName i a = obstacleLabel camName j b) : i = j := by
  rw [obstacleLabel_eq, obstacleLabel_eq] at h
  have hdigits := congrArg (List.takeWhile isDigit) (List.append_cancel_left h)
  rw [takeWhile_isDigit_decimal, takeWhile_isDigit_decimal] at hdigits
  simpa only [digitsValue_decimal, Option.some.injEq] using congrArg digitsValue hdigits

theorem mem_obstacleLabels {camName x : GoString} {k : Nat} {labels : List GoString}
    (h : x ∈ obstacleLabels camName k labels) :
    ∃ j, k ≤ j ∧ ∃ b, x = obstacleLabel camName j b := by
  induction labels generalizing k with
  | nil => cases h
  | cons a labels ih =>
    rcases List.mem_cons.mp h with rfl | h
    · exact ⟨k, le_rfl, a, rfl⟩
    · obtain ⟨j, hj, b, rfl⟩ := ih h
      exact ⟨j, by omega, b, rfl⟩

theorem obstacleLabels_nodup_from (camName : GoString) (k : Nat) (labels : List GoString) :
    (obstacleLabels camName k labels).Nodup := by
  induction labels generalizing k with
  | nil => exact List.nodup_nil
  | cons a labels ih =>
    refine List.nodup_cons.mpr ⟨fun h => ?_, ih (k + 1)⟩
    obtain ⟨j, hj, b, hx⟩ := mem_obstacleLabels h
    have := obstacleLabel_inj hx
    omega

theorem getElem?_obstacleLabels (camName : GoString) (k : Nat) (labels : List GoString) :
    ∀ n (hn : n < labels.length),
      (obstacleLabels camName k labels)[n]? = some (obstacleLabel camName (k + n) labels[n]) := by
  induction labels generalizing k with
  | nil => exact fun _ hn => absurd hn (Nat.not_lt_zero _)
  | cons a labels ih =>
    intro n hn
    cases n with
    | zero => simp [obstacleLabels]
    | succ n =>
      simpa only [obstacleLabels, List.getElem?_cons_succ, List.getElem_cons_succ,
        Nat.add_right_comm, Nat.add_assoc] using ih (k + 1) n (by simpa using hn)

-- For any camera and detections, the label given to the detection at index `i` is
-- `camName + "_transientObstacle_" + strconv.Itoa(i)`, with `"_" + label` after it when the
-- geometry has a label, and no two geometries of the world state get the same label.
theorem obstacleLabels_distinct (camName : GoString) (labels : List GoString) :
    (∀ i (hi : i < labels.length),
      (obstacleLabels camName 0 labels)[i]? = some (obstacleLabel camName i labels[i])) ∧
    (obstacleLabels camName 0 labels).Nodup :=
  ⟨fun i hi => by simpa using getElem?_obstacleLabels camName 0 labels i hi,
    obstacleLabels_nodup_from camName 0 labels⟩

end Rdk.Motion.Builtin
