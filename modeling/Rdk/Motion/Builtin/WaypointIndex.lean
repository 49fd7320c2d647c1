import Rdk.Motion.Builtin.MoveRequest

namespace Rdk.Motion.Builtin

open Rdk.Go

def ActuatorCall.target : ActuatorCall → Option Int
  | .goToInputs i => some i
  | .stop => none

-- The waypoints `GoToInputs` was called on, in order.
def issued (calls : List ActuatorCall) : List Int := calls.filterMap ActuatorCall.target

@[simp] theorem issued_append_stop (calls : List ActuatorCall) :
    issued (calls ++ [.stop]) = issued calls := by
  simp [issued, ActuatorCall.target]

@[simp] theorem issued_append_goToInputs (calls : List ActuatorCall) (i : Int) :
    issued (calls ++ [.goToInputs i]) = issued calls ++ [i] := by
  simp [issued, ActuatorCall.target]

-- The waypoints `1, 2, …, k`.
def firstWaypoints (k : Nat) : List Int := (List.range k).map fun j : Nat => (j : Int) + 1

theorem firstWaypoints_succ (k : Nat) :
    firstWaypoints (k + 1) = firstWaypoints k ++ [(k : Int) + 1] := by
  simp [firstWaypoints, List.range_succ]

theorem mem_firstWaypoints {k : Nat} {j : Int} : j ∈ firstWaypoints k ↔ 1 ≤ j ∧ j ≤ k := by
  simp only [firstWaypoints, List.mem_map, List.mem_range]
  constructor
  · rintro ⟨a, ha, rfl⟩; omega
  · intro h; exact ⟨(j - 1).toNat, by omega, by omega⟩

-- Where the actuation loop can be once `pos` waypoints have been reached.
def ExecAt (n pos : Nat) (issued : List Int) : ExecPC → Prop
  | .idle | .starting => pos = 0 ∧ issued = []
  | .loop i => i = pos + 1 ∧ issued = firstWaypoints pos
  | .moving i => i = pos + 1 ∧ i < n ∧ issued = firstWaypoints (pos + 1)
  | .done => issued = firstWaypoints pos ∨ (issued = firstWaypoints (pos + 1) ∧ pos + 1 < n)

theorem ExecAt.issued {n pos : Nat} {iss : List Int} {pc : ExecPC} (h : ExecAt n pos iss pc) :
    iss = firstWaypoints pos ∨ (iss = firstWaypoints (pos + 1) ∧ pos + 1 < n) := by
  cases pc with
  | idle | starting => exact .inl (by rw [h.1, h.2]; rfl)
  | loop i => exact .inl h.2
  | moving i => exact .inr ⟨h.2.2, by have := h.1; have := h.2.1; omega⟩
  | done => exact h

-- The last value the actuation loop counts the index up to.
def topIndex (p : Setup) : Int := max 1 ((p.waypoints : Int) - 1)

-- The bookkeeping of the actuation loop: after `pos` waypoints the index is `pos + 1`, held
-- back at the last waypoint `n - 1` (and at `1` when the plan has fewer than two waypoints),
-- as an `int32` holds it. Every index handed to a check is such a value, or the final `n - 1`.
structure IndexInv (p : Setup) (s : System) : Prop where
  reached : s.reached = firstWaypoints s.reached.length
  bound : s.reached.length + 1 ≤ max 1 p.waypoints
  index : s.waypointIndex = wrapInt32 (min ((s.reached.length : Int) + 1) (topIndex p))
  exec : ExecAt p.waypoints s.reached.length (issued s.calls) s.exec
  checked : ∀ k ∈ s.checked,
    (∃ j, 1 ≤ j ∧ j ≤ topIndex p ∧ k = wrapInt32 j) ∨ k = (p.waypoints : Int) - 1
  idle : s.exec = .idle ∨ s.started = true

section

variable {p : Setup} {s s' : System} {e : Event}

theorem indexInv_init : IndexInv p init where
  reached := rfl
  bound := by simp only [init, List.length_nil]; omega
  index := by simp only [init, List.length_nil, topIndex, wrapInt32]; omega
  exec := ⟨rfl, rfl⟩
  checked := by simp [init]
  idle := .inl rfl

private theorem started_of_exec (s : System) (hd : s.exec = .idle ∨ s.started = true) {pc : ExecPC}
    (hs : s.exec = pc) (hpc : pc ≠ .idle) : s.started = true :=
  hd.resolve_left (hs ▸ hpc)

theorem wrapInt32_wrapInt32_add_one (x : Int) :
    wrapInt32 (wrapInt32 x + 1) = wrapInt32 (x + 1) := by
  unfold wrapInt32
  omega

-- The index a replanner reads is the current one, a value the loop counted to.
private theorem checked_tick (hc : ∀ k ∈ s.checked,
      (∃ j, 1 ≤ j ∧ j ≤ topIndex p ∧ k = wrapInt32 j) ∨ k = (p.waypoints : Int) - 1)
    (hx : s.waypointIndex = wrapInt32 (min ((s.reached.length : Int) + 1) (topIndex p))) :
    ∀ k ∈ s.checked ++ [s.waypointIndex],
      (∃ j, 1 ≤ j ∧ j ≤ topIndex p ∧ k = wrapInt32 j) ∨ k = (p.waypoints : Int) - 1 := by
  simp only [List.mem_append, List.mem_singleton]
  rintro k (hk | rfl)
  · exact hc k hk
  · exact .inl ⟨_, by unfold topIndex; omega, Int.min_le_right _ _, hx⟩

theorem IndexInv.step (hi : IndexInv p s)
    (h : step p s e = some s') : IndexInv p s' := by
  obtain ⟨hr, hb, hx, he, hc, hd⟩ := hi
  cases e with
  | cancel =>
    simp only [Builtin.step] at h; split at h <;> cases h
    exact ⟨hr, hb, hx, he, hc, hd⟩
  | start =>
    simp only [Builtin.step] at h
    split at h; · cases h
    next hs =>
    rw [hd.resolve_right (by simpa using hs)] at he
    split at h <;> cases h
    · exact ⟨hr, hb, hx, .inl (by rw [he.1]; exact he.2), hc, .inr rfl⟩
    · exact ⟨hr, hb, hx, he, hc, .inr rfl⟩
  | frameInputs err =>
    simp only [Builtin.step] at h
    split at h <;> cases h
    next hs =>
      rw [hs] at he
      exact ⟨hr, hb, hx, .inl (by simp [he.1, he.2, firstWaypoints]), hc,
        .inr (started_of_exec s hd hs nofun)⟩
    next hs =>
      rw [hs] at he
      have h1 : s.waypointIndex = 1 := by
        rw [hx, he.1]; simp only [topIndex, wrapInt32]; omega
      exact ⟨hr, hb, hx, ⟨by rw [h1, he.1]; rfl, by rw [he.1]; exact he.2⟩, hc,
        .inr (started_of_exec s hd hs nofun)⟩
  | issue =>
    simp only [Builtin.step] at h
    split at h
    next i hs =>
      split at h <;> cases h
      next hlt =>
      rw [hs] at he
      obtain ⟨rfl, hiss⟩ := he
      refine ⟨hr, hb, hx, ⟨rfl, hlt.1, ?_⟩, hc, .inr (started_of_exec s hd hs nofun)⟩
      simp [firstWaypoints_succ, ← hiss]
    · cases h
  | observeCancel stopErr =>
    simp only [Builtin.step] at h
    split at h
    next i hs =>
      split at h <;> cases h
      rw [hs] at he
      exact ⟨hr, hb, hx, .inl (by simpa using he.2), hc, .inr (started_of_exec s hd hs nofun)⟩
    · cases h
  | arrive =>
    simp only [Builtin.step] at h
    split at h
    · next i hi =>
      cases h
      rw [hi] at he
      obtain ⟨rfl, hin, hiss⟩ := he
      have hl : (s.reached ++ [(s.reached.length : Int) + 1]).length = s.reached.length + 1 := by
        simp
      refine ⟨?_, ?_, ?_, ?_, hc, .inr (started_of_exec s hd hi nofun)⟩
      · simp only [hl, firstWaypoints_succ, ← hr]
      · simp only [hl]; omega
      · simp only [hl, hx]
        split
        · rw [wrapInt32_wrapInt32_add_one]; congr 1; unfold topIndex at *; omega
        · congr 1; unfold topIndex; omega
      · simp only [hl, ExecAt]
        exact ⟨by omega, hiss⟩
    · cases h
  | fail err stopErr =>
    simp only [Builtin.step] at h
    split at h <;> cases h
    next i _ hs =>
    rw [hs] at he
    obtain ⟨rfl, hin, hiss⟩ := he
    exact ⟨hr, hb, hx, .inr ⟨by simpa using hiss, by simp only [System.finish_reached]; omega⟩, hc,
      .inr (started_of_exec s hd hs nofun)⟩
  | finalCheck r =>
    simp only [Builtin.step] at h
    split at h
    next i hs =>
      split at h <;> cases h
      rw [hs] at he
      refine ⟨hr, hb, hx, .inl (by simpa using he.2), ?_, .inr (started_of_exec s hd hs nofun)⟩
      simp only [System.finish_checked, List.mem_append, List.mem_singleton]
      rintro k (hk | rfl)
      · exact hc k hk
      · exact .inr rfl
    · cases h
  | positionTick r | obstacleTick r =>
    simp only [Builtin.step, System.tick, System.pollerPC] at h
    split at h <;> cases h
    split <;> exact ⟨hr, hb, hx, he, checked_tick hc hx, hd⟩
  | pollerExit w =>
    simp only [Builtin.step] at h
    split at h <;> cases h
    cases w <;> exact ⟨hr, hb, hx, he, hc, hd⟩
  | listen c =>
    simp only [Builtin.step] at h
    split at h
    · obtain ⟨r, -, rfl⟩ := Option.map_eq_some'.mp h
      cases c <;> exact ⟨hr, hb, hx, he, hc, hd⟩
    · cases h

theorem IndexInv.reachable (hs : Reachable p s) : IndexInv p s := by
  induction hs with
  | init => exact indexInv_init
  | step _ h ih => exact ih.step h

-- Only the actuation loop moves the index: `waypointIndex.Add(1)` after a waypoint that is not
-- the last one.
theorem step_waypointIndex (h : step p s e = some s') :
    s'.waypointIndex = s.waypointIndex ∨
      ∃ i, e = .arrive ∧ s.exec = .moving i ∧ i < (p.waypoints : Int) - 1 ∧
        s'.waypointIndex = wrapInt32 (s.waypointIndex + 1) := by
  cases e with
  | arrive =>
    simp only [Builtin.step] at h
    split at h
    · next i hi =>
      cases h
      by_cases hl : i < (p.waypoints : Int) - 1
      · exact .inr ⟨i, rfl, hi, hl, by simp [hl]⟩
      · exact .inl (by simp [hl])
    · cases h
  | _ =>
    left
    simp only [Builtin.step, System.tick, System.finish, System.setPoller, System.deliver,
      System.take] at h
    repeat' split at h
    all_goals first
      | (obtain rfl := Option.some.inj h; rfl)
      | (obtain ⟨_, -, rfl⟩ := Option.map_eq_some'.mp h; rfl)
      | cases h

-- On a plan of at least two waypoints, and at most `2 ^ 31` so that the `int32` counter cannot
-- wrap: the index stays a valid waypoint index, so does every index handed to `ErrorState` or
-- `RemainingPlan`, all waypoints before it were reached, none after it was issued, and only the
-- actuation loop moves it, forward.
theorem waypointIndex_valid (h2 : 2 ≤ p.waypoints) (hn : p.waypoints ≤ 2 ^ 31)
    (hs : Reachable p s) :
    (1 ≤ s.waypointIndex ∧ s.waypointIndex ≤ (p.waypoints : Int) - 1) ∧
    (∀ k ∈ s.checked, 0 ≤ k ∧ k ≤ (p.waypoints : Int) - 1) ∧
    (∀ j : Int, 1 ≤ j → j < s.waypointIndex → j ∈ s.reached) ∧
    (∀ j ∈ issued s.calls, j ≤ s.waypointIndex) ∧
    ∀ e s', step p s e = some s' →
      s.waypointIndex ≤ s'.waypointIndex ∧ (s'.waypointIndex ≠ s.waypointIndex → e = .arrive) := by
  obtain ⟨hr, hb, hx, he, hc, -⟩ := IndexInv.reachable hs
  have htop : topIndex p = p.waypoints - 1 := by unfold topIndex; omega
  rw [htop] at hx hc
  rw [wrapInt32_of_lt (by omega) (by omega)] at hx
  refine ⟨by omega, fun k hk => ?_, fun j h1 hj => ?_, ?_, ?_⟩
  · rcases hc k hk with ⟨j, h1, h2, rfl⟩ | h
    · rw [wrapInt32_of_lt (by omega) (by omega)]; omega
    · omega
  · rw [hr, mem_firstWaypoints]; omega
  · intro j hj
    rcases he.issued with h | ⟨h, hlt⟩ <;> rw [h, mem_firstWaypoints] at hj <;> omega
  · intro e s' h
    rcases step_waypointIndex h with h' | ⟨i, rfl, hi, hlt, h'⟩
    · exact ⟨by omega, fun hne => absurd h' hne⟩
    · rw [hi] at he
      obtain ⟨rfl, -, -⟩ := he
      rw [h', wrapInt32_of_lt (by omega) (by omega)]
      exact ⟨by omega, fun _ => rfl⟩

-- A three-waypoint plan after `GoToInputs` returned on waypoint 1.
theorem waypointIndex_valid_three :
    2 ≤ 3 ∧ 3 ≤ 2 ^ 31 ∧ ∃ s, Reachable ⟨3, F64.zero⟩ s ∧ s.waypointIndex = 2 ∧
    (1 ≤ s.waypointIndex ∧ s.waypointIndex ≤ ((3 : Nat) : Int) - 1) ∧
    (∀ k ∈ s.checked, 0 ≤ k ∧ k ≤ ((3 : Nat) : Int) - 1) ∧
    (∀ j : Int, 1 ≤ j → j < s.waypointIndex → j ∈ s.reached) ∧
    (∀ j ∈ issued s.calls, j ≤ s.waypointIndex) ∧
    ∀ e s', step ⟨3, F64.zero⟩ s e = some s' →
      s.waypointIndex ≤ s'.waypointIndex ∧ (s'.waypointIndex ≠ s.waypointIndex → e = .arrive) :=
  have hs := Reachable.init.of_run
    (rfl : run ⟨3, F64.zero⟩ init [.start, .frameInputs none, .issue, .arrive] = some _)
  ⟨by decide, by decide, _, hs, rfl, waypointIndex_valid (by decide) (by decide) hs⟩

-- A plan of one waypoint: the index starts at `1`, past its last waypoint `0`, and a replanner
-- hands it to `ErrorState`.
theorem waypointIndex_one_waypoint :
    ∃ s, Reachable ⟨1, F64.zero⟩ s ∧ s.waypointIndex = 1 ∧ s.checked = [1] :=
  ⟨_, Reachable.init.of_run
    (rfl : run ⟨1, F64.zero⟩ init [.start, .positionTick (.ok F64.zero "")] = some _), rfl, rfl⟩

end

end Rdk.Motion.Builtin
