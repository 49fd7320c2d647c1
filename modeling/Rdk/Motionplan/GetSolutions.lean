import Rdk.Go.Float64

namespace Rdk.Motionplan

open Rdk.Go

-- A configuration the solver sends on `solutionGen`, with what the two `CheckConstraints` calls
-- of the loop answer on it: the first call's pass and score, the second call's pass.
structure Candidate (Q : Type) where
  step : Q
  cPass : Bool
  cScore : F64
  endPass : Bool
  deriving DecidableEq, Repr

-- The options `getSolutions` reads: `MinScore`, and the `nSolutions` argument.
structure IkOptions where
  minScore : F64
  nSolutions : Int
  deriving DecidableEq, Repr

inductive IkError
  | ctxCanceled
  | errIKSolve
  deriving DecidableEq, Repr

section

variable {Q : Type}

-- `solutions[k] = v` on a `map[float64][]referenceframe.Input`: a key `==` to `k` has its entry
-- replaced, key included; a NaN key equals nothing.
def insertSolution (k : F64) (v : Q) : List (F64 × Q) → List (F64 × Q)
  | [] => [(k, v)]
  | (k', v') :: rest => if F64.eq k' k then (k, v) :: rest else (k', v') :: insertSolution k v rest

-- `solutions[k]`; `none` is the nil slice of a missing key.
def lookupSolution (k : F64) (m : List (F64 × Q)) : Option Q :=
  (m.find? fun e => F64.eq e.1 k).map Prod.snd

-- The `case step := <-solutionGen` branch: the new map, and whether it ends the loop.
def checkCandidate (opts : IkOptions) (solutions : List (F64 × Q)) (c : Candidate Q) :
    List (F64 × Q) × Bool :=
  if c.cPass && c.endPass then
    if F64.lt c.cScore opts.minScore && F64.lt F64.zero opts.minScore then ([(c.cScore, c.step)], true)
    else
      let solutions := insertSolution c.cScore c.step solutions
      (solutions, decide (opts.nSolutions ≤ solutions.length))
  else (solutions, false)

-- The loop's work on the candidates it received, in order, until one ends it.
def scanCandidates (opts : IkOptions) : List (F64 × Q) → List (Candidate Q) → List (F64 × Q) × Bool
  | m, [] => (m, false)
  | m, c :: cs =>
    let r := checkCandidate opts m c
    if r.2 then r else scanCandidates opts r.1 cs

-- The order of `sort.Float64s`: NaNs first, then `<`.
def float64sLess (a b : F64) : Bool := F64.lt a b || (a.isNaN && !b.isNaN)

-- `orderedSolutions` from the sorted keys.
def orderedSolutions (m : List (F64 × Q)) (keys : List F64) : List (Option Q × F64) :=
  keys.map fun k => (lookupSolution k m, k)

end

-- Where the calling goroutine is: the three selects of the loop, the sort after it, the two
-- deferred calls (`cancel()`, then `<-ikErr`), and returned.
inductive LoopPC
  | checkCtx
  | recv
  | checkErr
  | sortKeys
  | deferCancel
  | deferRecv
  | returned
  deriving DecidableEq, Repr

-- Where the solver goroutine is: solving, blocked sending a candidate, returned from `solve` with
-- its result sent on `ikErr` but the deferred `close(ikErr)` not run, and finished.
inductive SolverPC
  | running
  | offering
  | returned
  | done
  deriving DecidableEq, Repr

-- How the loop ended: `ctx.Done()`, a `break IK` after the checks, or the `ikErr` branch.
inductive Exit
  | ctxDone
  | checks
  | ikErr
  deriving DecidableEq, Repr

-- One `getSolutions` call. `pending` are the candidates the solver has yet to send (its head is on
-- offer when the solver is `offering`), `received` those the loop took, in order. `ikErrFull` is
-- the one buffered slot of `ikErr`. `aborted` records that `solve` gave up on a cancelled context.
structure IkState (Q : Type) where
  ctxCancelled : Bool
  cancelCalled : Bool
  solver : SolverPC
  aborted : Bool
  pending : List (Candidate Q)
  received : List (Candidate Q)
  ikErrFull : Bool
  ikErrClosed : Bool
  pc : LoopPC
  solutions : List (F64 × Q)
  exit : Option Exit
  result : Option (Except IkError (List (Option Q × F64)))

-- The call starts with the solver spawned, about to send `seq`.
def IkState.init {Q : Type} (seq : List (Candidate Q)) : IkState Q where
  ctxCancelled := false
  cancelCalled := false
  solver := .running
  aborted := false
  pending := seq
  received := []
  ikErrFull := false
  ikErrClosed := false
  pc := .checkCtx
  solutions := []
  exit := none
  result := none

inductive IkEvent
  | cancel
  | offer
  | solve
  | abort
  | close
  | loop
  | sortKeys (keys : List F64)
  deriving DecidableEq, Repr

section

variable {Q : Type}

-- One step of the calling goroutine. Each select has one case and a default, so what it does is
-- fixed by the state.
def loopStep (opts : IkOptions) (s : IkState Q) : Option (IkState Q) :=
  match s.pc with
  | .checkCtx =>
    if s.ctxCancelled then
      some { s with exit := some .ctxDone, result := some (.error .ctxCanceled), pc := .deferCancel }
    else some { s with pc := .recv }
  | .recv =>
    match s.solver, s.pending with
    | .offering, c :: rest =>
      let r := checkCandidate opts s.solutions c
      some { s with
        solver := .running
        pending := rest
        received := s.received ++ [c]
        solutions := r.1
        exit := if r.2 then some .checks else none
        pc := if r.2 then .sortKeys else .checkCtx }
    | _, _ => some { s with pc := .checkErr }
  | .checkErr =>
    if s.ikErrFull then some { s with ikErrFull := false, exit := some .ikErr, pc := .sortKeys }
    else if s.ikErrClosed then some { s with exit := some .ikErr, pc := .sortKeys }
    else some { s with pc := .checkCtx }
  | .deferCancel => some { s with cancelCalled := true, pc := .deferRecv }
  | .deferRecv =>
    if s.ikErrFull then some { s with ikErrFull := false, pc := .returned }
    else if s.ikErrClosed then some { s with pc := .returned }
    else none
  | .sortKeys | .returned => none

-- One step of `getSolutions` and its solver. `sortKeys keys` is the map's keys in the order its
-- iteration gave them, after `sort.Float64s`.
def ikStep (opts : IkOptions) (s : IkState Q) : IkEvent → Option (IkState Q)
  | .cancel => if s.ctxCancelled then none else some { s with ctxCancelled := true }
  | .offer =>
    if s.solver = .running ∧ s.pending.isEmpty = false then some { s with solver := .offering } else none
  | .solve =>
    if s.solver = .running ∧ s.pending.isEmpty = true then
      some { s with solver := .returned, ikErrFull := true }
    else none
  | .abort =>
    if (s.solver = .running ∨ s.solver = .offering) ∧ (s.ctxCancelled ∨ s.cancelCalled) then
      some { s with solver := .returned, aborted := true, ikErrFull := true }
    else none
  | .close =>
    if s.solver = .returned then some { s with solver := .done, ikErrClosed := true } else none
  | .loop => loopStep opts s
  | .sortKeys keys =>
    if s.pc = .sortKeys ∧ keys.Perm (s.solutions.map Prod.fst) ∧
        keys.Pairwise (fun a b => float64sLess b a = false) then
      some { s with
        result := some (if s.solutions.isEmpty then .error .errIKSolve
          else .ok (orderedSolutions s.solutions keys))
        pc := .deferCancel }
    else none

def ikRun (opts : IkOptions) : IkState Q → List IkEvent → Option (IkState Q)
  | s, [] => some s
  | s, e :: es => (ikStep opts s e).bind (ikRun opts · es)

inductive IkReachable (opts : IkOptions) (seq : List (Candidate Q)) : IkState Q → Prop
  | init : IkReachable opts seq (IkState.init seq)
  | step {s s' : IkState Q} {e : IkEvent} :
    IkReachable opts seq s → ikStep opts s e = some s' → IkReachable opts seq s'

theorem IkReachable.of_run {opts : IkOptions} {seq : List (Candidate Q)} {s s' : IkState Q}
    {es : List IkEvent} (hs : IkReachable opts seq s) (h : ikRun opts s es = some s') :
    IkReachable opts seq s' := by
  induction es generalizing s with
  | nil => simp only [ikRun, Option.some.injEq] at h; exact h ▸ hs
  | cons e es ih =>
    simp only [ikRun] at h
    cases he : ikStep opts s e with
    | none => simp [he] at h
    | some s₁ => exact ih (hs.step he) (by simpa [he] using h)

end

end Rdk.Motionplan
