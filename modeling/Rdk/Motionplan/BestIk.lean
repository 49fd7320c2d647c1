import Rdk.Motionplan.Constraint
import Rdk.Motionplan.GetSolutions

namespace Rdk.Motionplan

open Rdk.Go

-- What the collaborators of one `BestIKSolutions` call answer: the error of `fs.AddFrame`, the
-- constraint `NewCollisionConstraintFromWorldState` builds or its error, the error of the seed's
-- `Transform` at the head of `getSolutions`, and what the rest of `getSolutions` returns.
structure BestIkEnv (Q P : Type) where
  addFrame : Option String
  collisionConstraint : Except String (StateConstraint Q P)
  seedTransform : Option String
  solutions : Except IkError (List (Option Q × F64))

-- An error `BestIKSolutions` returns: a collaborator's, or one `getSolutions` makes.
inductive BestIkError
  | collaborator (e : String)
  | ik (e : IkError)
  deriving DecidableEq, Repr

section

variable {Q P : Type}

-- `getSolutions` seen from `BestIKSolutions`: the seed's `Transform`, then the solver's result.
def BestIkEnv.getSolutions (env : BestIkEnv Q P) : Except BestIkError (List (Option Q × F64)) :=
  match env.seedTransform with
  | some e => .error (.collaborator e)
  | none => env.solutions.mapError .ik

-- `BestIKSolutions` on the registry `opts`, `name` for `defaultCollisionConstraintName`: the
-- registry it leaves and its result. Modelled from the spec: `ikOptions.AddConstraint` and the
-- deferred `RemoveConstraint`, not in src, are `addStateConstraint` and `removeStateConstraint`.
def bestIKSolutions (name : String) (env : BestIkEnv Q P) (opts : ConstraintHandler Q P) :
    ConstraintHandler Q P × Except BestIkError (List (Option Q)) :=
  match env.addFrame with
  | some e => (opts, .error (.collaborator e))
  | none =>
    match env.collisionConstraint with
    | .error e => (opts, .error (.collaborator e))
    | .ok collisionConstraint =>
      let opts := opts.addStateConstraint name collisionConstraint
      (opts.removeStateConstraint name, env.getSolutions.map fun nodes => nodes.map Prod.fst)

-- Once the collision constraint is built, every way out of `BestIKSolutions` (solutions, an
-- error of `getSolutions`, a failed seed `Transform`) leaves the registry with nothing under
-- `name`: the deferred removal also deletes a constraint the caller had installed under it.
theorem bestIKSolutions_registry (name : String) (env : BestIkEnv Q P)
    (opts : ConstraintHandler Q P) {cc : StateConstraint Q P} (hf : env.addFrame = none)
    (hc : env.collisionConstraint = .ok cc) :
    (bestIKSolutions name env opts).1 = opts.removeStateConstraint name ∧
    (bestIKSolutions name env opts).1.stateConstraints.lookup name = none ∧
    (name ∈ opts.stateConstraints → (bestIKSolutions name env opts).1 ≠ opts) := by
  have hfst : (bestIKSolutions name env opts).1 = opts.removeStateConstraint name := by
    simp only [bestIKSolutions, hf, hc, ConstraintHandler.removeStateConstraint_addStateConstraint]
  refine ⟨hfst, by rw [hfst]; exact AList.lookup_erase _ _, fun hmem heq => ?_⟩
  have hgone : name ∉ (bestIKSolutions name env opts).1.stateConstraints := by
    rw [hfst]; exact fun h => (AList.mem_erase.mp h).1 rfl
  rw [heq] at hgone
  exact hgone hmem

end

-- A registry where the caller had installed a constraint under the collision name.
def installedRegistry : ConstraintHandler Unit Unit := ⟨∅, AList.insert "collision" (fun _ => true) ∅⟩

def failingIk : BestIkEnv Unit Unit := ⟨none, .ok fun _ => false, none, .error .errIKSolve⟩

theorem bestIKSolutions_registry_installed :
    failingIk.addFrame = none ∧ failingIk.collisionConstraint = .ok (fun _ => false) ∧
    (bestIKSolutions "collision" failingIk installedRegistry).1 =
      installedRegistry.removeStateConstraint "collision" ∧
    (bestIKSolutions "collision" failingIk installedRegistry).1.stateConstraints.lookup
      "collision" = none ∧
    ("collision" ∈ installedRegistry.stateConstraints →
      (bestIKSolutions "collision" failingIk installedRegistry).1 ≠ installedRegistry) :=
  ⟨rfl, rfl, bestIKSolutions_registry "collision" failingIk installedRegistry rfl rfl⟩

end Rdk.Motionplan
