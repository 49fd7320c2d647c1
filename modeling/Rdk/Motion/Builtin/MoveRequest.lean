import Rdk.Go.Float64

namespace Rdk.Motion.Builtin

open Rdk.Go

-- `state.ExecuteResponse`.
structure ExecuteResponse where
  replan : Bool
  replanReason : String
  deriving DecidableEq, Repr

instance : Inhabited ExecuteResponse := ⟨⟨false, ""⟩⟩

-- `moveResponse`: what a worker hands to `listen`. `err = none` is a nil error.
structure MoveResponse where
  err : Option String
  executeResponse : ExecuteResponse
  deriving DecidableEq, Repr

-- `context.Canceled.Error()`.
def contextCanceled : String := "context canceled"

-- `errors.Wrap(err, msg).Error()` from `github.com/pkg/errors`.
def wrap (err msg : String) : String := msg ++ ": " ++ err

-- What the request knows before `Execute`: the number of waypoints the plan's trajectory has
-- for the base, and the validated `planDeviationMM`.
structure Setup where
  waypoints : Nat
  planDeviationMM : F64

-- The result of one `kinematicBase.ErrorState` call: an error, or the norm of the error
-- state's point and the point as `%#v` renders it.
inductive ErrorStateResult
  | error (e : String)
  | ok (norm : F64) (point : String)
  deriving DecidableEq, Repr

-- `deviatedFromPlan`, given what `ErrorState` returned. The `%f` rendering of the two numbers
-- in the reason is left to `reprStr`.
def deviatedFromPlan (planDeviationMM : F64) : ErrorStateResult → MoveResponse
  | .error e => ⟨some e, default⟩
  | .ok norm point =>
    if F64.lt planDeviationMM norm then
      ⟨none, ⟨true, "error state exceeds planDeviationMM; planDeviationMM: " ++
        reprStr planDeviationMM ++ ", errorstate.Point().Norm(): " ++ reprStr norm ++
        ", errorstate.Point(): " ++ point ++ " "⟩⟩
    else ⟨none, default⟩

-- The three ways `obstaclesIntersectPlan` ends: an error from one of its collaborators,
-- `CheckPlan` reporting a collision on the remaining plan, or no collision.
inductive ObstacleResult
  | error (e : String)
  | collision (reason : String)
  | clear
  deriving DecidableEq, Repr

def obstaclesIntersectPlan : ObstacleResult → MoveResponse
  | .error e => ⟨some e, default⟩
  | .collision reason => ⟨none, ⟨true, reason⟩⟩
  | .clear => ⟨none, default⟩

-- A call the actuation worker makes on the kinematic base.
inductive ActuatorCall
  | goToInputs (i : Int)
  | stop
  deriving DecidableEq, Repr

-- Where the `execute` goroutine is. `loop i` is the top of the iteration for waypoint `i`,
-- `moving i` a `GoToInputs(waypoints[i])` call that has not returned yet.
inductive ExecPC
  | idle
  | starting
  | loop (i : Int)
  | moving (i : Int)
  | done
  deriving DecidableEq, Repr

-- Where a replanner's polling goroutine is.
inductive PollerPC
  | idle
  | polling
  | done
  deriving DecidableEq, Repr

inductive Poller
  | position
  | obstacle
  deriving DecidableEq, Repr

-- The cases of `listen`'s select.
inductive ListenCase
  | ctxDone
  | execute
  | position
  | obstacle
  deriving DecidableEq, Repr

-- One `Execute` call: the two contexts, the workers, and the three channels of capacity one. The
-- last five fields record the calls on the base, the waypoints reached, the indices checked, the
-- final `deviatedFromPlan` and whether `execute` took its `ctx.Done()` branch.
structure System where
  cancelled : Bool
  cancelFnCalled : Bool
  started : Bool
  waypointIndex : Int
  exec : ExecPC
  position : PollerPC
  obstacle : PollerPC
  responseChan : Option MoveResponse
  positionChan : Option MoveResponse
  obstacleChan : Option MoveResponse
  listener : Option MoveResponse
  calls : List ActuatorCall
  reached : List Int
  checked : List Int
  finalReport : Option MoveResponse
  sawCancel : Bool
  deriving DecidableEq, Repr

-- The request as `relativeMoveRequestFromAbsolute` leaves it: `waypointIndex.Store(1)`.
def init : System where
  cancelled := false
  cancelFnCalled := false
  started := false
  waypointIndex := 1
  exec := .idle
  position := .idle
  obstacle := .idle
  responseChan := none
  positionChan := none
  obstacleChan := none
  listener := none
  calls := []
  reached := []
  checked := []
  finalReport := none
  sawCancel := false

namespace System

-- `cancelCtx.Done()` is closed.
def ctxDone (s : System) : Bool := s.cancelled || s.cancelFnCalled

-- `execute` returns `r`; its goroutine sends `r` on `responseChan`.
@[simps]
def finish (s : System) (r : MoveResponse) : System :=
  { s with exec := .done, responseChan := some r }

def pollerPC (s : System) : Poller → PollerPC
  | .position => s.position
  | .obstacle => s.obstacle

def setPoller (s : System) (w : Poller) (pc : PollerPC) : System :=
  match w with
  | .position => { s with position := pc }
  | .obstacle => { s with obstacle := pc }

-- A replanner sends `r` on its channel and returns.
def deliver (s : System) (w : Poller) (r : MoveResponse) : System :=
  match w with
  | .position => { s with position := .done, positionChan := some r }
  | .obstacle => { s with obstacle := .done, obstacleChan := some r }

-- The response waiting in the channel a case of `listen` receives from.
def ready (s : System) : ListenCase → Option MoveResponse
  | .ctxDone => if s.ctxDone then some ⟨some contextCanceled, default⟩ else none
  | .execute => s.responseChan
  | .position => s.positionChan
  | .obstacle => s.obstacleChan

def take (s : System) : ListenCase → System
  | .ctxDone => s
  | .execute => { s with responseChan := none }
  | .position => { s with positionChan := none }
  | .obstacle => { s with obstacleChan := none }

-- `Execute` has returned `r`: `listen` returned it and the wait group is done.
def Returned (s : System) (r : MoveResponse) : Prop :=
  s.listener = some r ∧ s.exec = .done ∧ s.position = .done ∧ s.obstacle = .done

end System

-- A step of one goroutine, or of the caller. Each carries what the collaborators answered.
inductive Event
  | cancel
  | start
  | frameInputs (err : Option String)
  | issue
  | observeCancel (stopErr : Option String)
  | arrive
  | fail (err : Option String) (stopErr : Option String)
  | finalCheck (r : ErrorStateResult)
  | positionTick (r : ErrorStateResult)
  | obstacleTick (r : ObstacleResult)
  | pollerExit (w : Poller)
  | listen (c : ListenCase)
  deriving DecidableEq, Repr

-- The error `execute` returns after a failed `GoToInputs` and a `Stop` that answered `stopErr`.
def stopped (err : String) : Option String → String
  | some stopErr => wrap err stopErr
  | none => err

-- A replanner's tick: read `waypointIndex`, run the check, and hand the response to `listen`
-- when it asks for a replan or carries an error.
def System.tick (s : System) (w : Poller) (r : MoveResponse) : Option System :=
  if s.pollerPC w = .polling then
    let s := { s with checked := s.checked ++ [s.waypointIndex] }
    some (if r.err.isSome || r.executeResponse.replan then s.deliver w r else s)
  else none

open System in
-- One step of `Execute` on a plan described by `p`; `none` when the step is not enabled.
def step (p : Setup) (s : System) : Event → Option System
  | .cancel => if s.cancelled then none else some { s with cancelled := true }
  | .start =>
    if s.started then none
    else if s.ctxDone then
      some { s with started := true, exec := .done, position := .done, obstacle := .done }
    else
      some { s with
        started := true, exec := .starting, position := .polling, obstacle := .polling }
  | .frameInputs err =>
    match s.exec, err with
    | .starting, some e => some (s.finish ⟨some e, default⟩)
    | .starting, none => some { s with exec := .loop s.waypointIndex }
    | _, _ => none
  | .issue =>
    match s.exec with
    | .loop i =>
      if i < p.waypoints ∧ s.ctxDone = false then
        some { s with exec := .moving i, calls := s.calls ++ [.goToInputs i] }
      else none
    | _ => none
  | .observeCancel stopErr =>
    match s.exec with
    | .loop i =>
      if i < p.waypoints ∧ s.ctxDone = true then
        some ({ s with calls := s.calls ++ [ActuatorCall.stop], sawCancel := true }.finish
          ⟨stopErr.map (wrap contextCanceled), default⟩)
      else none
    | _ => none
  | .arrive =>
    match s.exec with
    | .moving i =>
      some { s with
        exec := .loop (i + 1)
        reached := s.reached ++ [i]
        waypointIndex :=
          if i < (p.waypoints : Int) - 1 then wrapInt32 (s.waypointIndex + 1) else s.waypointIndex }
    | _ => none
  | .fail err stopErr =>
    match s.exec, err with
    | .moving _, some e =>
      some ({ s with calls := s.calls ++ [ActuatorCall.stop] }.finish ⟨some (stopped e stopErr), default⟩)
    | _, _ => none
  | .finalCheck r =>
    match s.exec with
    | .loop i =>
      if p.waypoints ≤ i then
        let resp := deviatedFromPlan p.planDeviationMM r
        some ({ s with
          checked := s.checked ++ [(p.waypoints : Int) - 1]
          finalReport := some resp }.finish resp)
      else none
    | _ => none
  | .positionTick r => s.tick .position (deviatedFromPlan p.planDeviationMM r)
  | .obstacleTick r => s.tick .obstacle (obstaclesIntersectPlan r)
  | .pollerExit w =>
    if s.pollerPC w = .polling ∧ s.ctxDone = true then some (s.setPoller w .done) else none
  | .listen c =>
    if s.started ∧ s.listener = none then
      (s.ready c).map fun r => { s.take c with listener := some r, cancelFnCalled := true }
    else none

def run (p : Setup) : System → List Event → Option System
  | s, [] => some s
  | s, e :: es => (step p s e).bind (run p · es)

inductive Reachable (p : Setup) : System → Prop
  | init : Reachable p init
  | step {s s' : System} {e : Event} : Reachable p s → step p s e = some s' → Reachable p s'

theorem Reachable.of_run {p : Setup} {s s' : System} {es : List Event} (hs : Reachable p s)
    (h : run p s es = some s') : Reachable p s' := by
  induction es generalizing s with
  | nil => simp only [run, Option.some.injEq] at h; exact h ▸ hs
  | cons e es ih =>
    simp only [run] at h
    cases he : Builtin.step p s e with
    | none => simp [he] at h
    | some s₁ => exact ih (hs.step he) (by simpa [he] using h)

end Rdk.Motion.Builtin
