import Rdk.Motionplan.GetSolutions

namespace Rdk.Motionplan

open Rdk.Go

section

variable {Q : Type} {opts : IkOptions} {seq : List (Candidate Q)} {s s' : IkState Q}
  {e : IkEvent}

theorem scanCandidates_append_singleton (m : List (F64 × Q)) (l : List (Candidate Q))
    (c : Candidate Q) :
    scanCandidates opts m (l ++ [c]) =
      if (scanCandidates opts m l).2 then scanCandidates opts m l
      else checkCandidate opts (scanCandidates opts m l).1 c := by
  induction l generalizing m with
  | nil =>
    simp only [List.nil_append, scanCandidates, Bool.false_eq_true, if_false]
    split
    · rfl
    · next h => exact Prod.ext rfl (Bool.eq_false_iff.mpr h).symm
  | cons c' l ih =>
    simp only [List.cons_append, scanCandidates]
    split
    · simp [*]
    · exact ih _

def SolverLive (s : IkState Q) : Prop := s.solver = .running ∨ s.solver = .offering

def SolverReturned (s : IkState Q) : Prop := s.solver = .returned ∨ s.solver = .done

-- What holds of every state of a `getSolutions` call on a solver that sends `seq`.
structure IkInv (opts : IkOptions) (seq : List (Candidate Q)) (s : IkState Q) : Prop where
  split : s.received ++ s.pending = seq
  scan : scanCandidates opts [] s.received = (s.solutions, decide (s.exit = some .checks))
  offering : s.solver = .offering → s.pending ≠ []
  live : SolverLive s →
    s.ikErrFull = false ∧ s.ikErrClosed = false ∧ s.exit ≠ some .ikErr ∧ s.pc ≠ .returned
  closed : s.ikErrClosed = true ↔ s.solver = .done
  sent : s.aborted = false → SolverReturned s → s.pending = []
  loop : s.exit = none ↔ (s.pc = .checkCtx ∨ s.pc = .recv ∨ s.pc = .checkErr)
  ikErrExit : s.exit = some .ikErr → s.ikErrFull = false
  returned : s.pc = .returned → s.exit = some .ikErr → s.solver = .done

theorem ikInv_init : IkInv opts seq (IkState.init seq) where
  split := rfl
  scan := rfl
  offering := nofun
  live _ := ⟨rfl, rfl, nofun, nofun⟩
  closed := by simp [IkState.init]
  sent := fun _ h => by rcases h with h | h <;> cases h
  loop := by simp [IkState.init]
  ikErrExit := nofun
  returned := nofun

theorem solverReturned_of_not_live (h : ¬ SolverLive s) : SolverReturned s := by
  unfold SolverLive at h
  unfold SolverReturned
  cases hs : s.solver <;> simp_all

theorem IkInv.not_live_of_full (hi : IkInv opts seq s) (h : s.ikErrFull = true) :
    ¬ SolverLive s := fun hl => by simp [(hi.live hl).1] at h

theorem IkInv.not_live_of_closed (hi : IkInv opts seq s) (h : s.ikErrClosed = true) :
    ¬ SolverLive s := fun hl => by simp [(hi.live hl).2.1] at h

theorem IkInv.of_loopStep (hi : IkInv opts seq s) (h : loopStep opts s = some s') :
    IkInv opts seq s' := by
  have ⟨hsplit, hscan, hoff, hlive, hclosed, hsent, hloop, hfull, hret⟩ := hi
  unfold loopStep at h
  split at h
  next hpc =>
    have hnone : s.exit = none := hloop.mpr (.inl hpc)
    split at h <;> cases h
    · refine ⟨hsplit, by simpa [hnone] using hscan, hoff,
        fun hl => ⟨(hlive hl).1, (hlive hl).2.1, nofun, nofun⟩, hclosed, hsent, by simp, nofun,
        nofun⟩
    · exact ⟨hsplit, hscan, hoff, fun hl => ⟨(hlive hl).1, (hlive hl).2.1, (hlive hl).2.2.1, nofun⟩,
        hclosed, hsent, by simp [hnone], hfull, nofun⟩
  next hpc =>
    have hnone : s.exit = none := hloop.mpr (.inr (.inl hpc))
    split at h <;> cases h
    next c rest hs hp =>
      have hl := hlive (.inr hs)
      have hr : scanCandidates opts [] (s.received ++ [c]) = checkCandidate opts s.solutions c := by
        rw [scanCandidates_append_singleton, hscan, hnone]
        rfl
      refine ⟨by rw [← hsplit, hp, List.append_assoc]; rfl, ?_, nofun,
        fun _ => ⟨hl.1, hl.2.1, ?_, ?_⟩,
        ⟨fun h => absurd (hclosed.mp h) (by rw [hs]; nofun), nofun⟩, fun _ h => ?_, ?_, ?_, ?_⟩
      · rw [hr]
        dsimp only
        split <;> next h => exact Prod.ext rfl (by simpa using h)
      · split <;> nofun
      · split <;> nofun
      · rcases h with h | h <;> cases h
      · split <;> simp
      · split <;> nofun
      · split <;> nofun
    · exact ⟨hsplit, hscan, hoff, fun hl => ⟨(hlive hl).1, (hlive hl).2.1, (hlive hl).2.2.1, nofun⟩,
        hclosed, hsent, by simp [hnone], hfull, nofun⟩
  next hpc =>
    have hnone : s.exit = none := hloop.mpr (.inr (.inr hpc))
    have hscan' : scanCandidates opts [] s.received = (s.solutions, false) := by
      simpa [hnone] using hscan
    split at h
    next hf =>
      cases h
      exact ⟨hsplit, by simpa using hscan', hoff, fun hl => absurd hl (hi.not_live_of_full hf),
        hclosed, hsent, by simp, fun _ => rfl, nofun⟩
    split at h <;> cases h
    next hf hc =>
      exact ⟨hsplit, by simpa using hscan', hoff, fun hl => absurd hl (hi.not_live_of_closed hc),
        hclosed, hsent, by simp, fun _ => by simpa using hf, nofun⟩
    · exact ⟨hsplit, hscan, hoff, fun hl => ⟨(hlive hl).1, (hlive hl).2.1, (hlive hl).2.2.1, nofun⟩,
        hclosed, hsent, by simp [hnone], hfull, nofun⟩
  next hpc =>
    cases h
    have hne : s.exit ≠ none := fun he => by simp [hpc] at hloop; exact hloop he
    exact ⟨hsplit, hscan, hoff, fun hl => ⟨(hlive hl).1, (hlive hl).2.1, (hlive hl).2.2.1, nofun⟩,
      hclosed, hsent, by simpa using hne, hfull, nofun⟩
  next hpc =>
    have hne : s.exit ≠ none := fun he => by simp [hpc] at hloop; exact hloop he
    split at h
    next hf =>
      cases h
      have hnl := hi.not_live_of_full hf
      exact ⟨hsplit, hscan, hoff, fun hl => absurd hl hnl, hclosed, hsent, by simpa using hne,
        fun _ => rfl, fun _ hx => by simp [hfull hx] at hf⟩
    split at h <;> cases h
    next hf hc =>
      have hnl := hi.not_live_of_closed hc
      exact ⟨hsplit, hscan, hoff, fun hl => absurd hl hnl, hclosed, hsent, by simpa using hne,
        hfull, fun _ _ => hclosed.mp hc⟩
  all_goals cases h

theorem IkInv.step (hi : IkInv opts seq s) (h : ikStep opts s e = some s') :
    IkInv opts seq s' := by
  have ⟨hsplit, hscan, hoff, hlive, hclosed, hsent, hloop, hfull, hret⟩ := hi
  cases e with
  | cancel =>
    simp only [ikStep] at h
    split at h <;> cases h
    exact ⟨hsplit, hscan, hoff, hlive, hclosed, hsent, hloop, hfull, hret⟩
  | offer =>
    simp only [ikStep] at h
    split at h <;> cases h
    next hg =>
    have hl := hlive (.inl hg.1)
    refine ⟨hsplit, hscan, fun _ => by simpa using hg.2, fun _ => hl,
      ⟨fun h => absurd (hclosed.mp h) (by rw [hg.1]; nofun), nofun⟩,
      (fun _ h => by rcases h with h | h <;> cases h), hloop, hfull, fun hp => absurd hp hl.2.2.2⟩
  | solve =>
    simp only [ikStep] at h
    split at h <;> cases h
    next hg =>
    have hl := hlive (.inl hg.1)
    refine ⟨hsplit, hscan, nofun, (fun h => by rcases h with h | h <;> cases h),
      ⟨fun h => by simp [hl.2.1] at h, nofun⟩, fun _ _ => by simpa using hg.2, hloop,
      fun h => absurd h hl.2.2.1, fun h => absurd h hl.2.2.2⟩
  | abort =>
    simp only [ikStep] at h
    split at h <;> cases h
    next hg =>
    have hl := hlive hg.1
    refine ⟨hsplit, hscan, nofun, (fun h => by rcases h with h | h <;> cases h),
      ⟨fun h => by simp [hl.2.1] at h, nofun⟩, nofun, hloop,
      fun h => absurd h hl.2.2.1, fun h => absurd h hl.2.2.2⟩
  | close =>
    simp only [ikStep] at h
    split at h <;> cases h
    next hg =>
    refine ⟨hsplit, hscan, nofun, (fun h => by rcases h with h | h <;> cases h),
      ⟨fun _ => rfl, fun _ => rfl⟩, fun ha _ => hsent ha (.inl hg), hloop, hfull,
      fun _ _ => rfl⟩
  | loop => exact hi.of_loopStep h
  | sortKeys keys =>
    simp only [ikStep] at h
    split at h <;> cases h
    next hg =>
    have hne : s.exit ≠ none := fun he => by simp [hg.1] at hloop; exact hloop he
    exact ⟨hsplit, hscan, hoff, fun hl => ⟨(hlive hl).1, (hlive hl).2.1, (hlive hl).2.2.1, nofun⟩,
      hclosed, hsent, by simpa using hne, hfull, nofun⟩

theorem IkInv.reachable (hs : IkReachable opts seq s) : IkInv opts seq s := by
  induction hs with
  | init => exact ikInv_init
  | step _ h ih => exact ih.step h

-- When the loop leaves through its `ikErr` branch, the solver has returned from `solve`, the map
-- holds the checks of every candidate the loop received, and a solver that did not give up has
-- had its whole sequence received. `getSolutions` returns only once `solve` has returned and sent
-- its result; when the loop itself took that result, only once the solver has closed `ikErr`.
theorem getSolutions_drains (hs : IkReachable opts seq s) :
    (s.exit = some .ikErr →
      SolverReturned s ∧ scanCandidates opts [] s.received = (s.solutions, false) ∧
      (s.aborted = false → s.received = seq)) ∧
    (s.pc = .returned → SolverReturned s ∧ (s.exit = some .ikErr → s.solver = .done)) := by
  have hi := IkInv.reachable hs
  refine ⟨fun he => ?_, fun hp => ⟨solverReturned_of_not_live fun hl => (hi.live hl).2.2.2 hp,
    hi.returned hp⟩⟩
  have hr : SolverReturned s := solverReturned_of_not_live fun hl => (hi.live hl).2.2.1 he
  refine ⟨hr, by simpa [he] using hi.scan, fun ha => ?_⟩
  have hsplit := hi.split
  rwa [hi.sent ha hr, List.append_nil] at hsplit

end

-- One candidate that passes both checks with score `0`, against `nSolutions = 2`: the loop
-- receives it, finds the solver returned, and leaves through `ikErr`.
theorem getSolutions_drains_one :
    ∃ s, IkReachable ⟨F64.zero, 2⟩ [⟨(0 : Nat), true, F64.zero, true⟩] s ∧
      s.exit = some .ikErr ∧ s.pc = .returned ∧
      ((s.exit = some .ikErr →
        SolverReturned s ∧ scanCandidates ⟨F64.zero, 2⟩ [] s.received = (s.solutions, false) ∧
        (s.aborted = false → s.received = [⟨0, true, F64.zero, true⟩])) ∧
      (s.pc = .returned → SolverReturned s ∧ (s.exit = some .ikErr → s.solver = .done))) :=
  have hs := IkReachable.init.of_run (rfl : ikRun ⟨F64.zero, 2⟩
    (IkState.init [⟨(0 : Nat), true, F64.zero, true⟩])
    [.offer, .loop, .loop, .solve, .loop, .loop, .loop, .sortKeys [F64.zero], .loop, .close,
      .loop] = some _)
  ⟨_, hs, rfl, rfl, getSolutions_drains hs⟩

-- With `nSolutions = 1` the loop breaks after the first candidate; the deferred receive takes the
-- solver's result from the buffer, and `getSolutions` returns before the solver's deferred
-- `close(ikErr)` has run.
theorem getSolutions_returns_before_close :
    ∃ s, IkReachable ⟨F64.zero, 1⟩ [⟨(0 : Nat), true, F64.zero, true⟩] s ∧
      s.pc = .returned ∧ s.solver = .returned :=
  ⟨_, IkReachable.init.of_run (rfl : ikRun ⟨F64.zero, 1⟩
    (IkState.init [⟨(0 : Nat), true, F64.zero, true⟩])
    [.offer, .loop, .loop, .sortKeys [F64.zero], .loop, .solve, .loop] = some _), rfl, rfl⟩

-- Two accepted candidates with the same score `1` and `nSolutions = 2`. The second replaces the
-- first in the map, so the loop never collects two solutions; it drains the solver and returns the
-- second candidate alone.
theorem getSolutions_equal_scores :
    ∃ s, IkReachable ⟨F64.zero, 2⟩
        [⟨(1 : Nat), true, F64.one, true⟩, ⟨2, true, F64.one, true⟩] s ∧
      s.pc = .returned ∧ s.received.length = 2 ∧ s.result = some (.ok [(some 2, F64.one)]) :=
  ⟨_, IkReachable.init.of_run (rfl : ikRun ⟨F64.zero, 2⟩
    (IkState.init [⟨(1 : Nat), true, F64.one, true⟩, ⟨2, true, F64.one, true⟩])
    [.offer, .loop, .loop, .offer, .loop, .loop, .solve, .loop, .loop, .loop, .sortKeys [F64.one],
      .loop, .close, .loop] = some _), rfl, rfl, rfl⟩

end Rdk.Motionplan
