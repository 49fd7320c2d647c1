import Mathlib.Data.List.Sort
import Rdk.Motionplan.Drain

namespace Rdk.Motionplan

open Rdk.Go

-- The order a slice is in after `sort.Float64s`: no element is `Less` than one before it.
def Float64sLe (a b : F64) : Prop := float64sLess b a = false

instance : DecidableRel Float64sLe := fun a b => inferInstanceAs (Decidable (float64sLess b a = false))

theorem float64sLe_total (a b : F64) : Float64sLe a b ∨ Float64sLe b a := by
  unfold Float64sLe float64sLess F64.lt
  cases a.isNaN <;> cases b.isNaN <;> simp
  -- Only two values that are not NaN are left, ordered by their keys.
  omega

theorem float64sLe_trans {a b c : F64} : Float64sLe a b → Float64sLe b c → Float64sLe a c := by
  unfold Float64sLe float64sLess F64.lt
  cases a.isNaN <;> cases b.isNaN <;> cases c.isNaN <;> simp
  omega

section

variable {Q : Type} {opts : IkOptions} {seq : List (Candidate Q)} {s s' : IkState Q}
  {e : IkEvent}

-- `sort.Float64s` can put the keys of any map in order.
theorem exists_sorted_keys (m : List (F64 × Q)) :
    ∃ keys : List F64, keys.Perm (m.map Prod.fst) ∧
      keys.Pairwise (fun a b => float64sLess b a = false) :=
  haveI : IsTotal F64 Float64sLe := ⟨float64sLe_total⟩
  haveI : IsTrans F64 Float64sLe := ⟨fun _ _ _ => float64sLe_trans⟩
  ⟨(m.map Prod.fst).insertionSort Float64sLe, List.perm_insertionSort _ _,
    List.sorted_insertionSort Float64sLe _⟩

theorem scanCandidates_append_of_break {m : List (F64 × Q)} {l : List (Candidate Q)}
    (h : (scanCandidates opts m l).2 = true) (l' : List (Candidate Q)) :
    scanCandidates opts m (l ++ l') = scanCandidates opts m l := by
  induction l generalizing m with
  | nil => cases h
  | cons c l ih =>
    simp only [List.cons_append, scanCandidates] at h ⊢
    split
    · rfl
    · next hc => simp only [hc, if_false] at h; exact ih h

-- The result `getSolutions` returns from its map, once the keys are in order.
def IkState.Answered (s : IkState Q) : Prop :=
  ∃ keys : List F64, keys.Perm (s.solutions.map Prod.fst) ∧
    keys.Pairwise (fun a b => float64sLess b a = false) ∧
    s.result = some (if s.solutions.isEmpty then .error .errIKSolve
      else .ok (orderedSolutions s.solutions keys))

-- What the result of the call depends on. The solver gives up only on a cancelled context, which
-- the call cancels only after its loop; the loop's result is fixed once the keys are sorted.
structure IkResultInv (s : IkState Q) : Prop where
  aborted : s.aborted = true →
    s.ctxCancelled = true ∨ s.exit = some .checks ∨ s.exit = some .ctxDone
  ctxDone : s.exit = some .ctxDone → s.ctxCancelled = true
  cancel : s.cancelCalled = true → s.exit ≠ none
  result : (s.pc = .deferCancel ∨ s.pc = .deferRecv ∨ s.pc = .returned) →
    s.exit ≠ some .ctxDone → s.Answered

theorem ikResultInv_init : IkResultInv (IkState.init seq) where
  aborted := nofun
  ctxDone := nofun
  cancel := nofun
  result := nofun

-- While the loop runs, only a cancelled context can have made the solver give up.
theorem IkResultInv.cancelled_of_aborted {s : IkState Q} (hr : IkResultInv s)
    (hnone : s.exit = none) (ha : s.aborted = true) : s.ctxCancelled = true := by
  rcases hr.aborted ha with hc | hx | hx
  · exact hc
  all_goals simp [hnone] at hx

theorem IkResultInv.of_loopStep (hi : IkInv opts seq s) (hr : IkResultInv s)
    (h : loopStep opts s = some s') : IkResultInv s' := by
  have ⟨habort, hctx, hcancel, hres⟩ := hr
  unfold loopStep at h
  split at h
  next hpc =>
    split at h <;> cases h
    next hc => exact ⟨fun _ => .inl hc, fun _ => hc, nofun, fun _ => nofun⟩
    · exact ⟨habort, hctx, hcancel, nofun⟩
  next hpc =>
    have hnone : s.exit = none := hi.loop.mpr (.inr (.inl hpc))
    split at h <;> cases h
    · refine ⟨fun ha => .inl (hr.cancelled_of_aborted hnone ha), fun h => ?_,
        fun hc => absurd hnone (hcancel hc), fun h => ?_⟩
      · split at h <;> cases h
      · split at h <;> rcases h with h | h | h <;> cases h
    · exact ⟨habort, hctx, hcancel, nofun⟩
  next hpc =>
    have hnone : s.exit = none := hi.loop.mpr (.inr (.inr hpc))
    have hab := hr.cancelled_of_aborted hnone
    split at h
    · cases h
      exact ⟨fun ha => .inl (hab ha), nofun, fun _ => nofun, nofun⟩
    split at h <;> cases h
    · exact ⟨fun ha => .inl (hab ha), nofun, fun _ => nofun, nofun⟩
    · exact ⟨habort, hctx, hcancel, nofun⟩
  next hpc =>
    cases h
    have hne : s.exit ≠ none := fun he => by
      rcases hi.loop.mp he with h | h | h <;> rw [hpc] at h <;> cases h
    exact ⟨habort, hctx, fun _ => hne, fun _ hx => hres (.inl hpc) hx⟩
  next hpc =>
    split at h
    · cases h
      exact ⟨habort, hctx, hcancel, fun _ hx => hres (.inr (.inl hpc)) hx⟩
    split at h <;> cases h
    exact ⟨habort, hctx, hcancel, fun _ hx => hres (.inr (.inl hpc)) hx⟩
  all_goals cases h

theorem IkResultInv.step (hi : IkInv opts seq s) (hr : IkResultInv s)
    (h : ikStep opts s e = some s') : IkResultInv s' := by
  have ⟨habort, hctx, hcancel, hres⟩ := hr
  cases e with
  | cancel =>
    simp only [ikStep] at h
    split at h <;> cases h
    exact ⟨fun _ => .inl rfl, fun _ => rfl, hcancel, hres⟩
  | offer | solve | close =>
    simp only [ikStep] at h
    split at h <;> cases h
    exact ⟨habort, hctx, hcancel, hres⟩
  | abort =>
    simp only [ikStep] at h
    split at h <;> cases h
    next hg =>
    refine ⟨fun _ => ?_, hctx, hcancel, hres⟩
    rcases hg.2 with hc | hc
    · exact .inl hc
    · have hni := (hi.live hg.1).2.2.1
      cases hx : s.exit with
      | none => exact absurd hx (hcancel hc)
      | some x => cases x <;> simp_all
  | loop => exact IkResultInv.of_loopStep hi hr h
  | sortKeys keys =>
    simp only [ikStep] at h
    split at h <;> cases h
    next hg =>
    exact ⟨habort, hctx, hcancel, fun _ _ => ⟨keys, hg.2.1, hg.2.2, rfl⟩⟩

theorem IkResultInv.reachable (hs : IkReachable opts seq s) : IkResultInv s := by
  induction hs with
  | init => exact ikResultInv_init
  | step hr h ih => exact ih.step (IkInv.reachable hr) h

theorem ikRun_cons (s : IkState Q) (e : IkEvent) (es : List IkEvent) :
    ikRun opts s (e :: es) = (ikStep opts s e).bind (ikRun opts · es) := rfl

theorem ikRun_append (s : IkState Q) (es₁ es₂ : List IkEvent) :
    ikRun opts s (es₁ ++ es₂) = (ikRun opts s es₁).bind (ikRun opts · es₂) := by
  induction es₁ generalizing s with
  | nil => rfl
  | cons e es ih => rw [List.cons_append]; simp only [ikRun, ih, Option.bind_assoc]

-- With a context nobody cancels, the loop takes what the solver still has to send until a
-- candidate ends it or the solver's result arrives, and the call returns. Each run is unfolded
-- one event at a time, so that no step is unfolded inside the rest of the run.
theorem exists_run_returned (pending : List (Candidate Q)) :
    ∀ s : IkState Q, s.pending = pending → s.pc = .checkCtx → s.solver = .running →
      s.ctxCancelled = false → s.cancelCalled = false → s.ikErrFull = false →
      s.ikErrClosed = false →
      ∃ es s', ikRun opts s es = some s' ∧ s'.pc = .returned ∧ s'.ctxCancelled = false := by
  induction pending with
  | nil =>
    intro s hp hpc hsv hc hcc hf hcl
    obtain ⟨keys, hperm, hsort⟩ := exists_sorted_keys s.solutions
    refine ⟨[.solve, .loop, .loop, .loop, .sortKeys keys, .loop, .close, .loop], ?_⟩
    iterate 8 (rw [ikRun_cons]; simp only [ikStep, loopStep, hsv, hp, hc, hcl, hpc, hperm, hsort,
      List.isEmpty_nil, and_self, and_true, ↓reduceIte, Option.some_bind, Bool.false_eq_true,
      reduceCtorEq])
    simp only [ikRun, Option.some.injEq, exists_eq_left', and_self]
  | cons c rest ih =>
    intro s hp hpc hsv hc hcc hf hcl
    -- The solver offers `c` and the loop receives it.
    let s₁ : IkState Q := { s with
      pending := rest, received := s.received ++ [c],
      solutions := (checkCandidate opts s.solutions c).1,
      exit := if (checkCandidate opts s.solutions c).2 then some .checks else none,
      pc := if (checkCandidate opts s.solutions c).2 then .sortKeys else .checkCtx }
    have h₁ : ikRun opts s [.offer, .loop, .loop] = some s₁ := by
      iterate 3 (rw [ikRun_cons]; simp only [ikStep, loopStep, hsv, hp, hc, hpc,
        List.isEmpty_cons, and_self, ↓reduceIte, Option.some_bind, Bool.false_eq_true])
      simp only [ikRun, s₁, hc, hsv]
    cases hr : (checkCandidate opts s.solutions c).2 with
    | false =>
      obtain ⟨es, s', hrun, hret⟩ := ih s₁ rfl (by simp [s₁, hr]) hsv hc hcc hf hcl
      exact ⟨[.offer, .loop, .loop] ++ es, s', by rw [ikRun_append, h₁]; exact hrun, hret⟩
    | true =>
      -- `c` ends the loop; the deferred `cancel()` makes the solver give up.
      obtain ⟨keys, hperm, hsort⟩ := exists_sorted_keys (checkCandidate opts s.solutions c).1
      refine ⟨[.offer, .loop, .loop] ++ [.sortKeys keys, .loop, .abort, .loop], ?_⟩
      rw [ikRun_append, h₁, Option.some_bind]
      iterate 4 (rw [ikRun_cons]; simp only [s₁, hr, ikStep, loopStep, hsv, hc, hperm, hsort,
        and_self, and_true, or_true, or_false, reduceCtorEq, Bool.false_eq_true, ↓reduceIte,
        Option.some_bind])
      simp only [ikRun, Option.some.injEq, exists_eq_left', and_self]

-- A call that returns on a context nobody cancelled built its map from the solver's sequence, up
-- to the candidate that ended the loop: either one did, or the solver sent all of it.
theorem IkInv.solutions_of_returned (hi : IkInv opts seq s) (hr : IkResultInv s)
    (hc : s.ctxCancelled = false) (hp : s.pc = .returned) :
    s.solutions = (scanCandidates opts [] seq).1 := by
  have hscan := hi.scan
  rw [← hi.split]
  cases hx : s.exit with
  | none => rcases hi.loop.mp hx with h | h | h <;> rw [hp] at h <;> cases h
  | some x =>
    cases x with
    | ctxDone => simp [hr.ctxDone hx] at hc
    | checks =>
      rw [hx] at hscan
      rw [scanCandidates_append_of_break (by simp [hscan]), hscan]
    | ikErr =>
      have hab : s.aborted = false := by
        cases ha : s.aborted
        · rfl
        · rcases hr.aborted ha with h | h | h <;> simp_all
      have hret := solverReturned_of_not_live fun hl => (hi.live hl).2.2.1 hx
      rw [hi.sent hab hret, List.append_nil, hscan]

end

-- On a context nobody cancels, `getSolutions` returns, and what it returns is fixed by the
-- solver's sequence: the map the loop builds from it, up to the candidate that ends the loop, in
-- the order `sort.Float64s` gives its keys, or `errIKSolve` when the map is empty.
theorem getSolutions_result {Q : Type} (opts : IkOptions) (seq : List (Candidate Q)) :
    (∃ s, IkReachable opts seq s ∧ s.pc = .returned ∧ s.ctxCancelled = false) ∧
    ∀ s, IkReachable opts seq s → s.ctxCancelled = false → s.pc = .returned →
      ∃ keys : List F64, keys.Perm ((scanCandidates opts [] seq).1.map Prod.fst) ∧
        keys.Pairwise (fun a b => float64sLess b a = false) ∧
        s.result = some (if (scanCandidates opts [] seq).1.isEmpty then .error .errIKSolve
          else .ok (orderedSolutions (scanCandidates opts [] seq).1 keys)) := by
  refine ⟨?_, fun s hs hc hp => ?_⟩
  · obtain ⟨_, s', hrun, hp, hc⟩ :=
      @exists_run_returned Q opts seq (IkState.init seq) rfl rfl rfl rfl rfl rfl rfl
    exact ⟨s', IkReachable.init.of_run hrun, hp, hc⟩
  · have hi := IkInv.reachable hs
    have hr := IkResultInv.reachable hs
    rw [← hi.solutions_of_returned hr hc hp]
    exact hr.result (.inr (.inr hp)) fun hx => by simp [hr.ctxDone hx] at hc

end Rdk.Motionplan
