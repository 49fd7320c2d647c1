import Rdk.Motionplan.Constraint

namespace Rdk.Motionplan

section

variable {Q P : Type}

namespace ConstraintHandler

-- `AddSegmentConstraint`: adds, or overwrites, the constraint under `name`.
def addSegmentConstraint (c : ConstraintHandler Q P) (name : String)
    (cons : SegmentConstraint Q P) : ConstraintHandler Q P :=
  { c with segmentConstraints := c.segmentConstraints.insert name cons }

-- `RemoveSegmentConstraint`: `delete(c.segmentConstraints, name)`.
def removeSegmentConstraint (c : ConstraintHandler Q P) (name : String) : ConstraintHandler Q P :=
  { c with segmentConstraints := c.segmentConstraints.erase name }

-- `StateConstraints`, the names in the order the map is ranged over. (In Go the map is the field
-- `stateConstraints` and the method `StateConstraints`.)
def stateConstraintNames (c : ConstraintHandler Q P) : List String := c.stateConstraints.keys

-- `SegmentConstraints`.
def segmentConstraintNames (c : ConstraintHandler Q P) : List String := c.segmentConstraints.keys

end ConstraintHandler

-- A call that changes the registries of a `ConstraintHandler`.
inductive RegistryCall (Q P : Type)
  | addState (name : String) (cons : StateConstraint Q P)
  | removeState (name : String)
  | addSegment (name : String) (cons : SegmentConstraint Q P)
  | removeSegment (name : String)

def RegistryCall.apply : RegistryCall Q P → ConstraintHandler Q P → ConstraintHandler Q P
  | .addState name cons, c => c.addStateConstraint name cons
  | .removeState name, c => c.removeStateConstraint name
  | .addSegment name cons, c => c.addSegmentConstraint name cons
  | .removeSegment name, c => c.removeSegmentConstraint name

def runCalls (calls : List (RegistryCall Q P)) (c : ConstraintHandler Q P) : ConstraintHandler Q P :=
  calls.foldl (fun c call => call.apply c) c

-- Modelled from the comments of the registry: the constraint each name holds, where an add
-- "will add or overwrite" and a remove "will remove the given constraint".
structure Registries (Q P : Type) where
  state : String → Option (StateConstraint Q P)
  segment : String → Option (SegmentConstraint Q P)

def RegistryCall.update : RegistryCall Q P → Registries Q P → Registries Q P
  | .addState name cons, r => { r with state := Function.update r.state name (some cons) }
  | .removeState name, r => { r with state := Function.update r.state name none }
  | .addSegment name cons, r => { r with segment := Function.update r.segment name (some cons) }
  | .removeSegment name, r => { r with segment := Function.update r.segment name none }

def ConstraintHandler.registries (c : ConstraintHandler Q P) : Registries Q P :=
  ⟨c.stateConstraints.lookup, c.segmentConstraints.lookup⟩

theorem lookup_insert_eq_update {β : Type} (s : AList fun _ : String => β) (name : String)
    (b : β) :
    (s.insert name b).lookup = Function.update s.lookup name (some b) := by
  funext n
  by_cases h : n = name
  · subst h
    simp
  · simp [Function.update_noteq h, AList.lookup_insert_ne h]

theorem lookup_erase_eq_update {β : Type} (s : AList fun _ : String => β) (name : String) :
    (s.erase name).lookup = Function.update s.lookup name none := by
  funext n
  by_cases h : n = name
  · subst h
    simp [AList.lookup_erase]
  · simp [Function.update_noteq h, AList.lookup_erase_ne h]

-- One call changes the registries as the abstract update does.
theorem registries_apply (call : RegistryCall Q P) (c : ConstraintHandler Q P) :
    (call.apply c).registries = call.update c.registries := by
  cases call <;>
    simp only [RegistryCall.apply, RegistryCall.update, ConstraintHandler.registries,
      ConstraintHandler.addStateConstraint, ConstraintHandler.removeStateConstraint,
      ConstraintHandler.addSegmentConstraint, ConstraintHandler.removeSegmentConstraint,
      lookup_insert_eq_update, lookup_erase_eq_update]

-- A run of calls changes the registries as the abstract updates do, one after the other.
theorem registries_runCalls (calls : List (RegistryCall Q P)) (c : ConstraintHandler Q P) :
    (runCalls calls c).registries = calls.foldl (fun r call => call.update r) c.registries := by
  induction calls generalizing c with
  | nil => rfl
  | cons call calls ih =>
    simp only [runCalls, List.foldl_cons] at ih ⊢
    rw [ih, registries_apply]

-- The name `checkConstraints` reports on a failure is that of a constraint that fails.
theorem checkConstraints_false {α : Type} {x : α} {cs : List (Σ _ : String, α → Bool)}
    {name : String} (h : checkConstraints x cs = (false, name)) :
    ∃ f, ⟨name, f⟩ ∈ cs ∧ f x = false := by
  induction cs with
  | nil => cases h
  | cons c cs ih =>
    obtain ⟨n, f⟩ := c
    simp only [checkConstraints] at h
    split_ifs at h with hf
    · obtain ⟨g, hg, hgx⟩ := ih h
      exact ⟨g, List.mem_cons_of_mem _ hg, hgx⟩
    · cases h
      exact ⟨f, List.mem_cons_self _ _, by simpa using hf⟩

-- What the checks and the listings read is what a registry holds.
theorem checkConstraints_alist {α : Type} (s : AList fun _ : String => α → Bool) (x : α) :
    ((checkConstraints x s.entries).1 = true ↔ ∀ name f, s.lookup name = some f → f x = true) ∧
    (∀ name, checkConstraints x s.entries = (false, name) →
      ∃ f, s.lookup name = some f ∧ f x = false) ∧
    s.keys.Nodup ∧ ∀ name, name ∈ s.keys ↔ s.lookup name ≠ none := by
  refine ⟨checkConstraints_entries_iff s x, fun name h => ?_, s.keys_nodup, fun name => ?_⟩
  · obtain ⟨f, hf, hfx⟩ := checkConstraints_false h
    exact ⟨f, AList.mem_lookup_iff.mpr hf, hfx⟩
  · rw [← AList.mem_keys, ← AList.lookup_isSome, Option.isSome_iff_ne_none]

-- Whatever calls were made, `CheckStateConstraints` and `CheckSegmentConstraints` pass exactly
-- when every constraint left by the last add or remove of its name passes, report a failing
-- one of those by name, and `StateConstraints` and `SegmentConstraints` list those names once
-- each.
theorem runCalls_registries (calls : List (RegistryCall Q P)) (c : ConstraintHandler Q P)
    (sx : StateInput Q P) (gx : SegmentInput Q P) :
    let c' := runCalls calls c
    let r := calls.foldl (fun r call => call.update r) c.registries
    ((c'.checkStateConstraints sx).1 = true ↔ ∀ name f, r.state name = some f → f sx = true) ∧
    (∀ name, c'.checkStateConstraints sx = (false, name) →
      ∃ f, r.state name = some f ∧ f sx = false) ∧
    c'.stateConstraintNames.Nodup ∧
    (∀ name, name ∈ c'.stateConstraintNames ↔ r.state name ≠ none) ∧
    ((c'.checkSegmentConstraints gx).1 = true ↔ ∀ name f, r.segment name = some f → f gx = true) ∧
    (∀ name, c'.checkSegmentConstraints gx = (false, name) →
      ∃ f, r.segment name = some f ∧ f gx = false) ∧
    c'.segmentConstraintNames.Nodup ∧
      ∀ name, name ∈ c'.segmentConstraintNames ↔ r.segment name ≠ none := by
  intro c' r
  rw [show r = c'.registries from (registries_runCalls calls c).symm]
  obtain ⟨h₁, h₂, h₃, h₄⟩ := checkConstraints_alist c'.stateConstraints sx
  obtain ⟨h₅, h₆, h₇, h₈⟩ := checkConstraints_alist c'.segmentConstraints gx
  exact ⟨h₁, h₂, h₃, h₄, h₅, h₆, h₇, h₈⟩

end

end Rdk.Motionplan
