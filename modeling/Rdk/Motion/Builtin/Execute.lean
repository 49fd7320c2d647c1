import Rdk.Motion.Builtin.WaypointIndex

namespace Rdk.Motion.Builtin

open Rdk.Go

-- A response that reports a finished plan: a nil error and no replan.
def Success (r : MoveResponse) : Prop := r.err = none ∧ r.executeResponse.replan = false

-- What each channel can hold. Replanners only speak up to ask for a replan or to report an
-- error; `execute` reports success either from its final check or after it saw the caller's
-- cancellation (`cancelFn` only runs once `listen` has returned).
structure ListenInv (p : Setup) (s : System) : Prop where
  cancelFn : s.listener = none → s.cancelFnCalled = false
  position : ∀ r, s.positionChan = some r → ¬ Success r
  obstacle : ∀ r, s.obstacleChan = some r → ¬ Success r
  response : ∀ r, s.responseChan = some r → Success r → s.listener = none →
    s.finalReport = some r ∨ s.cancelled = true
  listener : ∀ r, s.listener = some r → Success r → s.finalReport = some r ∨ s.cancelled = true
  final : s.finalReport.isSome → s.exec = .done ∧ s.reached = firstWaypoints (p.waypoints - 1)

section

variable {p : Setup} {s s' : System} {e : Event}

theorem listenInv_init : ListenInv p init where
  cancelFn _ := rfl
  position := by simp [init]
  obstacle := by simp [init]
  response := by simp [init]
  listener := by simp [init]
  final := by simp [init]

-- A poller hands over only errors and replans.
theorem not_success_of_flagged {r : MoveResponse}
    (h : (r.err.isSome || r.executeResponse.replan) = true) : ¬ Success r :=
  fun ⟨he, hr⟩ => by simp [he, hr] at h

theorem ListenInv.step (hi : IndexInv p s) (hl : ListenInv p s) (h : step p s e = some s') :
    ListenInv p s' := by
  obtain ⟨hf, hpos, hobs, hresp, hlis, hfin⟩ := hl
  have hnone : s.exec ≠ .done → s.finalReport = none := fun hx =>
    Option.not_isSome_iff_eq_none.mp fun h => hx (hfin h).1
  cases e with
  | cancel =>
    simp only [Builtin.step] at h; split at h <;> cases h
    exact ⟨hf, hpos, hobs, fun r h1 h2 h3 => (hresp r h1 h2 h3).imp_right fun _ => rfl,
      fun r h1 h2 => (hlis r h1 h2).imp_right fun _ => rfl, hfin⟩
  | start =>
    simp only [Builtin.step] at h
    split at h; · cases h
    next hs =>
    have hr := hnone (by rw [hi.idle.resolve_right (by simpa using hs)]; nofun)
    split at h <;> cases h <;> exact ⟨hf, hpos, hobs, hresp, hlis, by simp [hr]⟩
  | frameInputs err =>
    simp only [Builtin.step] at h
    split at h <;> cases h
    next hs =>
      have hr := hnone (by rw [hs]; nofun)
      exact ⟨hf, hpos, hobs, fun r h1 h2 => by cases h1; simp [Success] at h2,
        hlis, by simp [hr]⟩
    next hs =>
      have hr := hnone (by rw [hs]; nofun)
      exact ⟨hf, hpos, hobs, hresp, hlis, by simp [hr]⟩
  | issue =>
    simp only [Builtin.step] at h
    split at h
    next i hs =>
      split at h <;> cases h
      exact ⟨hf, hpos, hobs, hresp, hlis, by simp [hnone (by rw [hs]; nofun)]⟩
    · cases h
  | observeCancel stopErr =>
    simp only [Builtin.step] at h
    split at h
    next i hs =>
      split at h <;> cases h
      next hg =>
      have hr := hnone (by rw [hs]; nofun)
      refine ⟨hf, hpos, hobs, fun r h1 _ h3 => ?_, hlis, by simp [hr]⟩
      have hc : s.ctxDone = true := hg.2
      simp only [System.ctxDone, hf h3, Bool.or_false] at hc
      exact .inr hc
    · cases h
  | arrive =>
    simp only [Builtin.step] at h
    split at h
    next i hs =>
      cases h
      exact ⟨hf, hpos, hobs, hresp, hlis, by simp [hnone (by rw [hs]; nofun)]⟩
    · cases h
  | fail err stopErr =>
    simp only [Builtin.step] at h
    split at h <;> cases h
    next hs =>
    exact ⟨hf, hpos, hobs, fun r h1 h2 => by cases h1; simp [Success] at h2, hlis,
      by simp [hnone (by rw [hs]; nofun)]⟩
  | finalCheck r =>
    simp only [Builtin.step] at h
    split at h
    next i hs =>
      split at h <;> cases h
      next hle =>
      have he := hi.exec
      rw [hs] at he
      have hb := hi.bound
      have hpos' : s.reached.length = p.waypoints - 1 := by have := he.1; omega
      have hr := hnone (by rw [hs]; nofun)
      exact ⟨hf, hpos, hobs, fun r' h1 _ _ => .inl (by cases h1; rfl),
        fun r' h1 h2 => (hlis r' h1 h2).imp_left fun h => by simp [hr] at h,
        fun _ => ⟨rfl, hi.reached.trans (by rw [hpos'])⟩⟩
    · cases h
  | positionTick r =>
    simp only [Builtin.step, System.tick, System.pollerPC] at h
    split at h <;> cases h
    split
    next hd =>
      exact ⟨hf, fun r' h1 h2 => by cases h1; exact not_success_of_flagged hd h2, hobs,
        hresp, hlis, hfin⟩
    · exact ⟨hf, hpos, hobs, hresp, hlis, hfin⟩
  | obstacleTick r =>
    simp only [Builtin.step, System.tick, System.pollerPC] at h
    split at h <;> cases h
    split
    next hd =>
      exact ⟨hf, hpos, fun r' h1 h2 => by cases h1; exact not_success_of_flagged hd h2,
        hresp, hlis, hfin⟩
    · exact ⟨hf, hpos, hobs, hresp, hlis, hfin⟩
  | pollerExit w =>
    simp only [Builtin.step] at h
    split at h <;> cases h
    cases w <;> exact ⟨hf, hpos, hobs, hresp, hlis, hfin⟩
  | listen c =>
    simp only [Builtin.step] at h
    split at h
    next hg =>
      obtain ⟨r, hr, rfl⟩ := Option.map_eq_some'.mp h
      have hlist : ∀ r', some r = some r' → Success r' →
          s.finalReport = some r' ∨ s.cancelled = true := by
        rintro r' ⟨⟩ hs
        cases c with
        | ctxDone =>
          simp only [System.ready] at hr
          split at hr <;> cases hr
          simp [Success] at hs
        | execute => exact hresp r hr hs hg.2
        | position => exact absurd hs (hpos r hr)
        | obstacle => exact absurd hs (hobs r hr)
      cases c with
      | ctxDone | execute => exact ⟨nofun, hpos, hobs, fun _ _ _ => nofun, hlist, hfin⟩
      | position => exact ⟨nofun, fun _ => nofun, hobs, fun _ _ _ => nofun, hlist, hfin⟩
      | obstacle => exact ⟨nofun, hpos, fun _ => nofun, fun _ _ _ => nofun, hlist, hfin⟩
    · cases h

theorem ListenInv.reachable (hs : Reachable p s) : ListenInv p s := by
  induction hs with
  | init => exact listenInv_init
  | step hr h ih => exact ih.step (IndexInv.reachable hr) h

-- When the caller never cancels, `Execute` reports success only after `execute` reached every
-- waypoint from the starting index `1` to the last and its final `deviatedFromPlan` found no
-- deviation.
theorem execute_success_complete (hs : Reachable p s) {r : MoveResponse} (hr : s.Returned r)
    (hsucc : Success r) (hc : s.cancelled = false) :
    s.reached = firstWaypoints (p.waypoints - 1) ∧ s.finalReport = some r := by
  have hl := ListenInv.reachable hs
  obtain hfin | hcan := hl.listener r hr.1 hsucc
  · exact ⟨(hl.final (by simp [hfin])).2, hfin⟩
  · simp [hc] at hcan

-- A two-waypoint plan that runs to the end with no deviation and no cancellation.
theorem execute_success_two_waypoints :
    ∃ s, Reachable ⟨2, F64.zero⟩ s ∧ s.Returned ⟨none, default⟩ ∧ Success ⟨none, default⟩ ∧
      s.cancelled = false ∧ s.reached = firstWaypoints (2 - 1) ∧
      s.finalReport = some ⟨none, default⟩ :=
  have hs := Reachable.init.of_run (rfl : run ⟨2, F64.zero⟩ init
    [.start, .frameInputs none, .issue, .arrive, .finalCheck (.ok F64.zero ""), .listen .execute,
      .pollerExit .position, .pollerExit .obstacle] = some _)
  ⟨_, hs, ⟨rfl, rfl, rfl, rfl⟩, ⟨rfl, rfl⟩, rfl,
    execute_success_complete hs ⟨rfl, rfl, rfl, rfl⟩ ⟨rfl, rfl⟩ rfl⟩

end

-- The caller cancels after waypoint 1 of a three-waypoint plan. `execute` takes its
-- `ctx.Done()` branch, `Stop` succeeds, and it sends `(ExecuteResponse{}, nil)`; `listen` finds
-- that response and the cancelled context both ready and takes the response. `Execute` reports
-- success although waypoint 2 was never issued.
theorem execute_success_after_cancel :
    ∃ s, Reachable ⟨3, F64.zero⟩ s ∧ s.Returned ⟨none, default⟩ ∧ s.cancelled = true ∧
      s.reached = [1] ∧ issued s.calls = [1] :=
  ⟨_, Reachable.init.of_run (rfl : run ⟨3, F64.zero⟩ init
      [.start, .frameInputs none, .issue, .arrive, .cancel, .observeCancel none, .listen .execute,
        .pollerExit .position, .pollerExit .obstacle] = some _),
    ⟨rfl, rfl, rfl, rfl⟩, rfl, rfl, rfl⟩

end Rdk.Motion.Builtin
