import Mathlib.Data.Nat.Find
import Rdk.Motionplan.Constraint

namespace Rdk.Motionplan

namespace ConstraintHandler

variable {Q P : Type} (pathStepCount : P → P → Float → Int)
  (interpolateInputs : Option Q → Option Q → Fraction → Option Q)

-- The interpolated state at step `k` of `steps`, before its pose is resolved.
def interpState (ci : SegmentInput Q P) (steps : Int) (k : Nat) : StateInput Q P :=
  ⟨none, interpolateInputs ci.startConfiguration ci.endConfiguration ⟨k, steps⟩, ci.frame⟩

-- A state resolves to a pose and then passes every state constraint the registry holds.
def StatePasses (c : ConstraintHandler Q P) (x : StateInput Q P) : Prop :=
  ∃ pos, x.resolveInputsToPositions = .ok pos ∧ ∀ name cons,
    c.stateConstraints.lookup name = some cons → cons { x with position := some pos } = true

-- A state resolves to a pose and then fails a state constraint the registry holds.
def StateViolates (c : ConstraintHandler Q P) (x : StateInput Q P) : Prop :=
  ∃ pos, x.resolveInputsToPositions = .ok pos ∧ ∃ name cons,
    c.stateConstraints.lookup name = some cons ∧ cons { x with position := some pos } = false

def StateUnresolved (x : StateInput Q P) : Prop :=
  ∃ e, x.resolveInputsToPositions = .error e

-- A segment passes every segment constraint the registry holds.
def SegmentPasses (c : ConstraintHandler Q P) (ci : SegmentInput Q P) : Prop :=
  ∀ name cons, c.segmentConstraints.lookup name = some cons → cons ci = true

theorem segmentPasses_iff {c : ConstraintHandler Q P} {ci : SegmentInput Q P} :
    SegmentPasses c ci ↔ (c.checkSegmentConstraints ci).1 = true :=
  (checkConstraints_entries_iff _ ci).symm

-- What `CheckStateConstraints` reports on a state, read through the registry.
theorem checkStateConstraints_iff {c : ConstraintHandler Q P} {x : StateInput Q P} :
    ((c.checkStateConstraints x).1 = true ↔
      ∀ name cons, c.stateConstraints.lookup name = some cons → cons x = true) ∧
    ((c.checkStateConstraints x).1 = false ↔
      ∃ name cons, c.stateConstraints.lookup name = some cons ∧ cons x = false) := by
  have h := checkConstraints_entries_iff c.stateConstraints x
  refine ⟨h, ?_⟩
  rw [← Bool.not_eq_true, checkStateConstraints, h]
  simp only [not_forall, Bool.not_eq_true, exists_prop]

theorem statePasses_iff {c : ConstraintHandler Q P} {x : StateInput Q P} :
    StatePasses c x ↔ ∃ pos, x.resolveInputsToPositions = .ok pos ∧
      (c.checkStateConstraints { x with position := some pos }).1 = true := by
  simp only [StatePasses, checkStateConstraints_iff.1]

theorem stateViolates_iff {c : ConstraintHandler Q P} {x : StateInput Q P} :
    StateViolates c x ↔ ∃ pos, x.resolveInputsToPositions = .ok pos ∧
      (c.checkStateConstraints { x with position := some pos }).1 = false := by
  simp only [StateViolates, checkStateConstraints_iff.2]

theorem statePasses_or (c : ConstraintHandler Q P) (x : StateInput Q P) :
    StatePasses c x ∨ StateUnresolved x ∨ StateViolates c x := by
  rw [statePasses_iff, stateViolates_iff, StateUnresolved]
  cases x.resolveInputsToPositions with
  | error e => exact .inr (.inl ⟨e, rfl⟩)
  | ok pos =>
    cases h : (c.checkStateConstraints { x with position := some pos }).1
    · exact .inr (.inr ⟨pos, rfl, h⟩)
    · exact .inl ⟨pos, rfl, h⟩

section Loop

variable {c : ConstraintHandler Q P} {ci : SegmentInput Q P} {steps : Int}

theorem acrossSegment_cons_pass {k : Nat} {rest : List Nat} {lastGood : Option Q}
    (h : StatePasses c (interpState interpolateInputs ci steps k)) :
    acrossSegment interpolateInputs c ci steps (k :: rest) lastGood =
      acrossSegment interpolateInputs c ci steps rest
        (interpState interpolateInputs ci steps k).configuration := by
  obtain ⟨pos, hpos, hc⟩ := statePasses_iff.mp h
  simp only [interpState, StateInput.resolveInputsToPositions] at hpos hc
  simp [acrossSegment, interpState, StateInput.resolveInputsToPositions, hpos, hc]

theorem acrossSegment_cons_unresolved {k : Nat} {rest : List Nat} {lastGood : Option Q}
    (h : StateUnresolved (interpState interpolateInputs ci steps k)) :
    acrossSegment interpolateInputs c ci steps (k :: rest) lastGood = (false, none) := by
  obtain ⟨e, he⟩ := h
  simp only [interpState, StateInput.resolveInputsToPositions] at he
  simp [acrossSegment, StateInput.resolveInputsToPositions, he]

theorem acrossSegment_cons_violates {k : Nat} {rest : List Nat} {lastGood : Option Q}
    (h : StateViolates c (interpState interpolateInputs ci steps k)) :
    acrossSegment interpolateInputs c ci steps (k :: rest) lastGood =
      if k = 0 then (false, none)
      else (false, some ⟨none, none, ci.startConfiguration, lastGood, none⟩) := by
  obtain ⟨pos, hpos, hc⟩ := stateViolates_iff.mp h
  simp only [interpState, StateInput.resolveInputsToPositions] at hpos hc
  simp [acrossSegment, StateInput.resolveInputsToPositions, hpos, hc]

-- `lastGood` holds the configuration of the step before the current one.
def LastGood (ci : SegmentInput Q P) (steps : Int) (a : Nat) (lastGood : Option Q) : Prop :=
  1 ≤ a → lastGood = (interpState interpolateInputs ci steps (a - 1)).configuration

theorem acrossSegment_all_pass {a m : Nat} {lastGood : Option Q}
    (h : ∀ k, a ≤ k → k < a + m → StatePasses c (interpState interpolateInputs ci steps k)) :
    acrossSegment interpolateInputs c ci steps (List.range' a m) lastGood = (true, none) := by
  induction m generalizing a lastGood with
  | zero => rfl
  | succ m ih =>
    rw [List.range'_succ, acrossSegment_cons_pass interpolateInputs (h a le_rfl (by omega))]
    exact ih fun k h₁ h₂ => h k (by omega) (by omega)

theorem acrossSegment_unresolved {a m j : Nat} {lastGood : Option Q} (haj : a ≤ j)
    (hj : j < a + m)
    (hp : ∀ k, a ≤ k → k < j → StatePasses c (interpState interpolateInputs ci steps k))
    (hu : StateUnresolved (interpState interpolateInputs ci steps j)) :
    acrossSegment interpolateInputs c ci steps (List.range' a m) lastGood = (false, none) := by
  induction m generalizing a lastGood with
  | zero => omega
  | succ m ih =>
    rw [List.range'_succ]
    rcases Nat.eq_or_lt_of_le haj with rfl | hlt
    · exact acrossSegment_cons_unresolved interpolateInputs hu
    · rw [acrossSegment_cons_pass interpolateInputs (hp a le_rfl hlt)]
      exact ih hlt (by omega) fun k h₁ h₂ => hp k (by omega) h₂

theorem acrossSegment_violates {a m j : Nat} {lastGood : Option Q} (haj : a ≤ j)
    (hj : j < a + m) (hl : LastGood interpolateInputs ci steps a lastGood)
    (hp : ∀ k, a ≤ k → k < j → StatePasses c (interpState interpolateInputs ci steps k))
    (hv : StateViolates c (interpState interpolateInputs ci steps j)) :
    acrossSegment interpolateInputs c ci steps (List.range' a m) lastGood =
      if j = 0 then (false, none)
      else (false, some ⟨none, none, ci.startConfiguration,
        (interpState interpolateInputs ci steps (j - 1)).configuration, none⟩) := by
  induction m generalizing a lastGood with
  | zero => omega
  | succ m ih =>
    rw [List.range'_succ]
    rcases Nat.eq_or_lt_of_le haj with rfl | hlt
    · rw [acrossSegment_cons_violates interpolateInputs hv]
      split
      · rfl
      · rw [hl (by omega)]
    · rw [acrossSegment_cons_pass interpolateInputs (hp a le_rfl hlt)]
      exact ih hlt (by omega) (fun _ => by simp) fun k h₁ h₂ => hp k (by omega) h₂

theorem acrossSegment_passes {is : List Nat} {lastGood : Option Q}
    (h : (acrossSegment interpolateInputs c ci steps is lastGood).1 = true) :
    ∀ k ∈ is, StatePasses c (interpState interpolateInputs ci steps k) := by
  induction is generalizing lastGood with
  | nil => simp
  | cons k is ih =>
    rcases statePasses_or c (interpState interpolateInputs ci steps k) with hp | hu | hv
    · rw [acrossSegment_cons_pass interpolateInputs hp] at h
      exact List.forall_mem_cons.mpr ⟨hp, ih h⟩
    · rw [acrossSegment_cons_unresolved interpolateInputs hu] at h
      cases h
    · rw [acrossSegment_cons_violates interpolateInputs hv] at h
      split at h <;> cases h

-- The first of the states `q 0, …, q (m - 1)` that does not pass, if there is one.
theorem exists_first_failure {m : Nat}
    (h : ¬ ∀ k < m, StatePasses c (interpState interpolateInputs ci steps k)) :
    ∃ j < m, (∀ i < j, StatePasses c (interpState interpolateInputs ci steps i)) ∧
      ¬ StatePasses c (interpState interpolateInputs ci steps j) := by
  classical
  have hex : ∃ j, j < m ∧ ¬ StatePasses c (interpState interpolateInputs ci steps j) := by
    simpa using h
  have hj := Nat.find_spec hex
  refine ⟨Nat.find hex, hj.1, fun i hi => ?_, hj.2⟩
  by_contra hne
  exact Nat.find_min hex hi ⟨by omega, hne⟩

-- The sub-segment the loop reports when `q j` is the first state to fail a constraint.
def prefixSegment (ci : SegmentInput Q P) (steps : Int) (j : Nat) : SegmentInput Q P :=
  ⟨none, none, ci.startConfiguration, (interpState interpolateInputs ci steps (j - 1)).configuration,
    none⟩

theorem acrossSegment_range_true_iff {n : Nat} :
    acrossSegment interpolateInputs c ci steps (List.range' 0 (n + 1)) none = (true, none) ↔
      ∀ k ≤ n, StatePasses c (interpState interpolateInputs ci steps k) := by
  refine ⟨fun h k hk => acrossSegment_passes interpolateInputs (by rw [h]) k ?_,
    fun h => acrossSegment_all_pass interpolateInputs fun k _ hk => h k (by omega)⟩
  simp only [List.mem_range']
  exact ⟨k, by omega, by omega⟩

theorem acrossSegment_range_some_iff {n : Nat} {sub : SegmentInput Q P} :
    acrossSegment interpolateInputs c ci steps (List.range' 0 (n + 1)) none = (false, some sub) ↔
      ∃ j, 1 ≤ j ∧ j ≤ n ∧ (∀ i < j, StatePasses c (interpState interpolateInputs ci steps i)) ∧
        StateViolates c (interpState interpolateInputs ci steps j) ∧
        sub = prefixSegment interpolateInputs ci steps j := by
  have hl : LastGood interpolateInputs ci steps 0 none := fun h => absurd h (by decide)
  constructor
  · intro h
    by_cases hall : ∀ k < n + 1, StatePasses c (interpState interpolateInputs ci steps k)
    · rw [(acrossSegment_range_true_iff interpolateInputs).mpr fun k hk => hall k (by omega)] at h
      cases h
    obtain ⟨j, hjn, hp, hf⟩ := exists_first_failure interpolateInputs hall
    rcases (statePasses_or c _).resolve_left hf with hu | hv
    · rw [acrossSegment_unresolved interpolateInputs (Nat.zero_le j) (by omega)
        (fun k _ => hp k) hu] at h
      cases h
    · rw [acrossSegment_violates interpolateInputs (Nat.zero_le j) (by omega) hl
        (fun k _ => hp k) hv] at h
      split at h
      · cases h
      · cases h
        exact ⟨j, by omega, by omega, hp, hv, rfl⟩
  · rintro ⟨j, hj, hjn, hp, hv, rfl⟩
    rw [acrossSegment_violates interpolateInputs (Nat.zero_le j) (by omega) hl
      (fun k _ => hp k) hv, if_neg (by omega)]
    rfl

end Loop

section Segment

variable {c : ConstraintHandler Q P} {ci : SegmentInput Q P} {resolution : Float} {s e : P}

theorem checkStateConstraintsAcrossSegment_eq (hres : ci.resolveInputsToPositions = .ok (s, e))
    (hn : 0 ≤ pathStepCount s e resolution) :
    c.checkStateConstraintsAcrossSegment pathStepCount interpolateInputs ci resolution =
      acrossSegment interpolateInputs c ci (pathStepCount s e resolution)
        (List.range' 0 ((pathStepCount s e resolution).toNat + 1)) none := by
  simp only [checkStateConstraintsAcrossSegment, hres, List.range_eq_range']
  rw [show (pathStepCount s e resolution + 1).toNat = (pathStepCount s e resolution).toNat + 1 by
    omega]

-- With `n` steps between the resolved endpoints, the loop checks `q 0, …, q n` in order and
-- stops at the first state that does not resolve or fails a constraint; after a failure at
-- `q j` with `j ≥ 1` it reports the segment from the start to `q (j - 1)`.
theorem checkStateConstraintsAcrossSegment_spec
    (hres : ci.resolveInputsToPositions = .ok (s, e)) (hn : 1 ≤ pathStepCount s e resolution) :
    let n := (pathStepCount s e resolution).toNat
    let q := interpState interpolateInputs ci (pathStepCount s e resolution)
    let r := c.checkStateConstraintsAcrossSegment pathStepCount interpolateInputs ci resolution
    (r = (true, none) ↔ ∀ k ≤ n, StatePasses c (q k)) ∧
    (¬ StatePasses c (q 0) → r = (false, none)) ∧
    (∀ k ≤ n, (∀ i < k, StatePasses c (q i)) → StateUnresolved (q k) → r = (false, none)) ∧
    (∀ j, 1 ≤ j → j ≤ n → (∀ i < j, StatePasses c (q i)) → StateViolates c (q j) →
      r = (false, some ⟨none, none, ci.startConfiguration, (q (j - 1)).configuration, none⟩)) := by
  intro n q r
  have hr : r = acrossSegment interpolateInputs c ci _ (List.range' 0 (n + 1)) none :=
    checkStateConstraintsAcrossSegment_eq pathStepCount interpolateInputs hres (by omega)
  have hnone : ∀ k, 0 ≤ k → k < 0 → StatePasses c (q k) := fun k _ h => absurd h (Nat.not_lt_zero k)
  refine ⟨hr ▸ acrossSegment_range_true_iff interpolateInputs, fun h0 => ?_,
    fun k hk hp hu => ?_, fun j hj hjn hp hv => ?_⟩
  · rcases (statePasses_or c _).resolve_left h0 with hu | hv
    · rw [hr, acrossSegment_unresolved interpolateInputs le_rfl (by omega) hnone hu]
    · rw [hr, acrossSegment_violates interpolateInputs le_rfl (by omega)
        (fun h => absurd h (by decide)) hnone hv]
      rfl
  · rw [hr, acrossSegment_unresolved interpolateInputs (Nat.zero_le k) (by omega)
      (fun i _ => hp i) hu]
  · rw [hr, (acrossSegment_range_some_iff interpolateInputs).mpr ⟨j, hj, hjn, hp, hv, rfl⟩]
    rfl

end Segment

-- A one-joint arm on a line: a configuration is the joint's position, and so is its pose.
def lineFrame : Frame Nat Nat := ⟨.ok⟩

-- `PathStepCount` at resolution one: the distance between the two positions.
def lineStepCount (s e : Nat) (_ : Float) : Int := (e : Int) - s

-- `InterpolateInputs` on the one joint, in whole positions.
def lineInterpolate : Option Nat → Option Nat → Fraction → Option Nat
  | some a, some b, ⟨i, steps⟩ => some (a + (b - a) * i / steps.toNat)
  | _, _, _ => none

-- A segment constraint that reads the poses, as every geometric one does.
def posesResolve (ci : SegmentInput Nat Nat) : Bool :=
  ci.resolveInputsToPositions matches .ok _

-- A state constraint with an obstacle at position 1.
def avoidsOne (x : StateInput Nat Nat) : Bool := x.configuration != some 1

def lineHandler : ConstraintHandler Nat Nat :=
  ⟨AList.singleton "posesResolve" posesResolve, AList.singleton "avoidsOne" avoidsOne⟩

-- From position 0 to position 2 on `lineFrame`.
def lineSegment : SegmentInput Nat Nat := ⟨none, none, some 0, some 2, some lineFrame⟩

theorem lineSegment_across :
    lineSegment.resolveInputsToPositions = .ok (0, 2) ∧ 1 ≤ lineStepCount 0 2 1 ∧
    let n := (lineStepCount 0 2 1).toNat
    let q := interpState lineInterpolate lineSegment (lineStepCount 0 2 1)
    let r := lineHandler.checkStateConstraintsAcrossSegment lineStepCount lineInterpolate
      lineSegment 1
    (r = (true, none) ↔ ∀ k ≤ n, StatePasses lineHandler (q k)) ∧
    (¬ StatePasses lineHandler (q 0) → r = (false, none)) ∧
    (∀ k ≤ n, (∀ i < k, StatePasses lineHandler (q i)) → StateUnresolved (q k) →
      r = (false, none)) ∧
    (∀ j, 1 ≤ j → j ≤ n → (∀ i < j, StatePasses lineHandler (q i)) →
      StateViolates lineHandler (q j) →
      r = (false, some ⟨none, none, lineSegment.startConfiguration, (q (j - 1)).configuration,
        none⟩)) :=
  ⟨rfl, by decide, checkStateConstraintsAcrossSegment_spec lineStepCount lineInterpolate rfl
    (by decide)⟩

section Segment

variable {c : ConstraintHandler Q P} {ci : SegmentInput Q P} {resolution : Float} {s e : P}

-- `CheckSegmentAndStateValidity` reports a sub-segment exactly when the segment passes the
-- segment constraints, the first failing state `q j` resolves with `j ≥ 1`, and the frameless
-- segment from the start to `q (j - 1)` passes the segment constraints too.
theorem checkSegmentAndStateValidity_spec
    (hres : ci.resolveInputsToPositions = .ok (s, e)) (hn : 1 ≤ pathStepCount s e resolution) :
    let n := (pathStepCount s e resolution).toNat
    let q := interpState interpolateInputs ci (pathStepCount s e resolution)
    let r := c.checkSegmentAndStateValidity pathStepCount interpolateInputs ci resolution
    (r = (true, none) ↔ SegmentPasses c ci ∧ ∀ k ≤ n, StatePasses c (q k)) ∧
    ∀ sub, r = (false, some sub) ↔ SegmentPasses c ci ∧
      (∃ j, 1 ≤ j ∧ j ≤ n ∧ (∀ i < j, StatePasses c (q i)) ∧ StateViolates c (q j) ∧
        sub = ⟨none, none, ci.startConfiguration, (q (j - 1)).configuration, none⟩) ∧
      SegmentPasses c sub := by
  intro n q r
  simp only [segmentPasses_iff]
  have hr : c.checkStateConstraintsAcrossSegment pathStepCount interpolateInputs ci resolution =
      acrossSegment interpolateInputs c ci _ (List.range' 0 (n + 1)) none :=
    checkStateConstraintsAcrossSegment_eq pathStepCount interpolateInputs hres (by omega)
  have hT : acrossSegment interpolateInputs c ci (pathStepCount s e resolution)
      (List.range' 0 (n + 1)) none = (true, none) ↔ ∀ k ≤ n, StatePasses c (q k) :=
    acrossSegment_range_true_iff interpolateInputs
  have hS : ∀ sub, acrossSegment interpolateInputs c ci (pathStepCount s e resolution)
      (List.range' 0 (n + 1)) none = (false, some sub) ↔
      ∃ j, 1 ≤ j ∧ j ≤ n ∧ (∀ i < j, StatePasses c (q i)) ∧ StateViolates c (q j) ∧
        sub = ⟨none, none, ci.startConfiguration, (q (j - 1)).configuration, none⟩ :=
    fun _ => acrossSegment_range_some_iff interpolateInputs
  have hP : ∀ x, acrossSegment interpolateInputs c ci (pathStepCount s e resolution)
      (List.range' 0 (n + 1)) none ≠ (true, some x) := fun x h =>
    absurd (hT.mpr fun k hk => acrossSegment_passes interpolateInputs (by rw [h]) k
      (List.mem_range'.mpr ⟨k, by omega, by omega⟩)) (by rw [h]; nofun)
  simp only [r, checkSegmentAndStateValidity, hr, ← hT, ← hS]
  generalize acrossSegment interpolateInputs c ci _ (List.range' 0 (n + 1)) none = A at hP
  by_cases hseg : (c.checkSegmentConstraints ci).1 = true
  · rcases A with ⟨_ | _, _ | x⟩
    · simp [hseg]
    · by_cases hx : (c.checkSegmentConstraints x).1 = true <;> simp [hseg, hx]
    · simp [hseg]
    · exact absurd rfl (hP x)
  · simp [hseg]

end Segment

theorem lineSegment_validity :
    lineSegment.resolveInputsToPositions = .ok (0, 2) ∧ 1 ≤ lineStepCount 0 2 1 ∧
    let n := (lineStepCount 0 2 1).toNat
    let q := interpState lineInterpolate lineSegment (lineStepCount 0 2 1)
    let r := lineHandler.checkSegmentAndStateValidity lineStepCount lineInterpolate lineSegment 1
    (r = (true, none) ↔ SegmentPasses lineHandler lineSegment ∧
      ∀ k ≤ n, StatePasses lineHandler (q k)) ∧
    ∀ sub, r = (false, some sub) ↔ SegmentPasses lineHandler lineSegment ∧
      (∃ j, 1 ≤ j ∧ j ≤ n ∧ (∀ i < j, StatePasses lineHandler (q i)) ∧
        StateViolates lineHandler (q j) ∧
        sub = ⟨none, none, lineSegment.startConfiguration, (q (j - 1)).configuration, none⟩) ∧
      SegmentPasses lineHandler sub :=
  ⟨rfl, by decide, checkSegmentAndStateValidity_spec lineStepCount lineInterpolate rfl (by decide)⟩

-- The middle state of `lineSegment` hits the obstacle, after the start passed. The segment from
-- the start to that last good state, on the same frame, passes `posesResolve`; the sub-segment
-- the code builds has no frame and fails it, so the check reports no valid prefix at all.
theorem checkSegmentAndStateValidity_drops_frame :
    (lineHandler.checkSegmentConstraints lineSegment).1 = true ∧
    StatePasses lineHandler (interpState lineInterpolate lineSegment 2 0) ∧
    StateViolates lineHandler (interpState lineInterpolate lineSegment 2 1) ∧
    (lineHandler.checkSegmentConstraints ⟨none, none, some 0, some 0, some lineFrame⟩).1 = true ∧
    lineHandler.checkSegmentAndStateValidity lineStepCount lineInterpolate lineSegment 1 =
      (false, none) :=
  ⟨rfl, statePasses_iff.mpr ⟨0, rfl, rfl⟩, stateViolates_iff.mpr ⟨1, rfl, rfl⟩, rfl, rfl⟩

end ConstraintHandler

end Rdk.Motionplan
