import Rdk.Motion.Builtin.MoveRequest

namespace Rdk.Motion.Builtin

open Rdk.Go

-- What the collaborators of one `execute` call answer: `ctxErr i` is `ctx.Err()` at the
-- iteration for waypoint `i` (`none` while `ctx.Done()` is open), `goToInputs i` the error of
-- `GoToInputs(waypoints[i])`, and the others the errors or results of the one call each.
structure ExecuteEnv where
  frameInputs : Option String
  ctxErr : Nat → Option String
  goToInputs : Nat → Option String
  stopErr : Option String
  errorState : ErrorStateResult

-- What one `execute` call leaves behind: the calls made on the base in order, the value of
-- `waypointIndex`, the index handed to the final `deviatedFromPlan` when it runs, and the
-- returned response and error.
structure ExecuteResult where
  calls : List ActuatorCall
  waypointIndex : Int
  checked : Option Int
  response : MoveResponse
  deriving DecidableEq, Repr

-- The loop of `execute` at waypoint `i`, `fuel = len(waypoints) - i` iterations before its
-- condition fails. `index` is the shared `waypointIndex`, which the loop only increments.
def executeLoop (p : Setup) (env : ExecuteEnv) :
    Nat → Nat → Int → List ActuatorCall → ExecuteResult
  | 0, _, index, calls =>
    ⟨calls, index, some ((p.waypoints : Int) - 1),
      deviatedFromPlan p.planDeviationMM env.errorState⟩
  | fuel + 1, i, index, calls =>
    match env.ctxErr i with
    | some ce => ⟨calls ++ [.stop], index, none, ⟨env.stopErr.map (wrap ce), default⟩⟩
    | none =>
      match env.goToInputs i with
      | some e =>
        ⟨calls ++ [.goToInputs i, .stop], index, none, ⟨some (stopped e env.stopErr), default⟩⟩
      | none =>
        executeLoop p env fuel (i + 1)
          (if (i : Int) < (p.waypoints : Int) - 1 then wrapInt32 (index + 1) else index)
          (calls ++ [.goToInputs i])

-- `moveRequest.execute`, started when `waypointIndex` holds `s`.
def execute (p : Setup) (env : ExecuteEnv) (s : Nat) : ExecuteResult :=
  match env.frameInputs with
  | some e => ⟨[], s, none, ⟨some e, default⟩⟩
  | none => executeLoop p env (p.waypoints - s) s s []

-- `GoToInputs` on waypoints `i, i + 1, ..., i + m - 1`, in this order.
def goToCalls (i m : Nat) : List ActuatorCall :=
  (List.range' i m).map fun (j : Nat) => .goToInputs j

theorem goToCalls_succ (i m : Nat) :
    goToCalls i (m + 1) = .goToInputs i :: goToCalls (i + 1) m := by
  simp [goToCalls, List.range'_succ]

-- What `execute` returns after calling `Stop` because of `err`, when `Stop` answered `stopErr`:
-- if `Stop` failed, a message that starts with `Stop`'s error and ends with `err`.
def WrapsStop (err : String) (stopErr result : Option String) : Prop :=
  ∀ se, stopErr = some se → ∃ msg, result = some msg ∧ se.data <+: msg.data ∧ err.data <:+ msg.data

theorem wrapsStop_map_wrap (err : String) (stopErr : Option String) :
    WrapsStop err stopErr (stopErr.map (wrap err)) := by
  rintro se rfl
  refine ⟨_, rfl, ⟨(": " ++ err).data, ?_⟩, ⟨(se ++ ": ").data, rfl⟩⟩
  rw [wrap, String.append_assoc]
  rfl

theorem wrapsStop_stopped (err : String) (stopErr : Option String) :
    WrapsStop err stopErr (some (stopped err stopErr)) := by
  rintro se rfl
  exact wrapsStop_map_wrap err (some se) se rfl

-- How the loop ends after its first `m` iterations found `ctx.Done()` open and `GoToInputs`
-- succeeding: it ran out of waypoints and made the final check, or the next iteration
-- observed cancellation, or the next `GoToInputs` failed. Only the last two call `Stop`.
def LoopExit (p : Setup) (env : ExecuteEnv) (fuel i m : Nat) (calls : List ActuatorCall)
    (r : ExecuteResult) : Prop :=
  (m = fuel ∧ r.calls = calls ++ goToCalls i m ∧ r.checked = some ((p.waypoints : Int) - 1) ∧
    r.response = deviatedFromPlan p.planDeviationMM env.errorState) ∨
  (m < fuel ∧ ∃ ce, env.ctxErr (i + m) = some ce ∧
    r.calls = calls ++ goToCalls i m ++ [.stop] ∧ r.checked = none ∧
    r.response = ⟨env.stopErr.map (wrap ce), default⟩ ∧ WrapsStop ce env.stopErr r.response.err) ∨
  (m < fuel ∧ env.ctxErr (i + m) = none ∧ ∃ e, env.goToInputs (i + m) = some e ∧
    r.calls = calls ++ goToCalls i (m + 1) ++ [.stop] ∧ r.checked = none ∧
    r.response = ⟨some (stopped e env.stopErr), default⟩ ∧ WrapsStop e env.stopErr r.response.err)

section

variable {p : Setup} {env : ExecuteEnv}

-- Shifting an exit of the loop from `i + 1` back to an iteration at `i` that passed.
theorem LoopExit.cons {fuel i m : Nat} {calls : List ActuatorCall} {r : ExecuteResult}
    (h : LoopExit p env fuel (i + 1) m (calls ++ [.goToInputs i]) r) :
    LoopExit p env (fuel + 1) i (m + 1) calls r := by
  have hcalls (k : Nat) : calls ++ [.goToInputs i] ++ goToCalls (i + 1) k =
      calls ++ goToCalls i (k + 1) := by
    simp [goToCalls_succ]
  have hidx : i + 1 + m = i + (m + 1) := by omega
  rcases h with ⟨rfl, hc, hk, hr⟩ | ⟨hm, ce, hce, hc, hk, hr, hw⟩ |
    ⟨hm, hce, e, he, hc, hk, hr, hw⟩
  · exact .inl ⟨rfl, hc.trans (hcalls m), hk, hr⟩
  · exact .inr (.inl ⟨by omega, ce, hidx ▸ hce, hc.trans (by rw [hcalls]), hk, hr, hw⟩)
  · exact .inr (.inr ⟨by omega, hidx ▸ hce, e, hidx ▸ he, hc.trans (by rw [hcalls]), hk,
      hr, hw⟩)

theorem executeLoop_exit (fuel i : Nat) (index : Int) (calls : List ActuatorCall) :
    ∃ m, (∀ j < m, env.ctxErr (i + j) = none ∧ env.goToInputs (i + j) = none) ∧
      LoopExit p env fuel i m calls (executeLoop p env fuel i index calls) := by
  induction fuel generalizing i index calls with
  | zero => exact ⟨0, nofun, .inl ⟨rfl, by simp [goToCalls, executeLoop]⟩⟩
  | succ fuel ih =>
    cases hce : env.ctxErr i with
    | some ce =>
      refine ⟨0, nofun, .inr (.inl ⟨by omega, ce, hce, ?_⟩)⟩
      simp [executeLoop, hce, goToCalls, wrapsStop_map_wrap]
    | none =>
      cases he : env.goToInputs i with
      | some e =>
        refine ⟨0, nofun, .inr (.inr ⟨by omega, hce, e, he, ?_⟩)⟩
        simp [executeLoop, hce, he, goToCalls, wrapsStop_stopped]
      | none =>
        obtain ⟨m, hpass, hexit⟩ := ih (i + 1)
          (if (i : Int) < (p.waypoints : Int) - 1 then wrapInt32 (index + 1) else index)
          (calls ++ [.goToInputs i])
        refine ⟨m + 1, fun j hj => ?_, ?_⟩
        · rcases j with _ | j
          · exact ⟨hce, he⟩
          · simpa only [Nat.add_right_comm, Nat.add_assoc] using hpass j (by omega)
        · simpa only [executeLoop, hce, he] using hexit.cons

end

-- `execute` issues `GoToInputs` on `s, s + 1, ...` until an iteration sees cancellation or a
-- failure; only then it calls `Stop`, once and last, and a failed `Stop` leads the error it returns.
-- The final `deviatedFromPlan` runs only after every waypoint from `s` on succeeded.
theorem execute_outcome (p : Setup) (env : ExecuteEnv) (s : Nat) :
    let r := execute p env s
    (∃ e, env.frameInputs = some e ∧ r.calls = [] ∧ r.checked = none ∧
      r.response = ⟨some e, default⟩) ∨
    (env.frameInputs = none ∧ ∃ m, (∀ j < m, env.ctxErr (s + j) = none ∧
      env.goToInputs (s + j) = none) ∧ LoopExit p env (p.waypoints - s) s m [] r) := by
  cases hf : env.frameInputs with
  | some e => exact .inl ⟨e, rfl, by simp [execute, hf]⟩
  | none =>
    obtain ⟨m, hpass, hexit⟩ := @executeLoop_exit p env (p.waypoints - s) s s []
    exact .inr ⟨rfl, m, hpass, by simpa only [execute, hf] using hexit⟩

end Rdk.Motion.Builtin
