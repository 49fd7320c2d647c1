import Mathlib.Data.List.AList
import Rdk.Motion.Builtin.MoveRequest

namespace Rdk.Motion.Builtin

-- `motion.ObstacleDetectorName`, outside src: a vision service's name and the camera it runs on.
structure ObstacleDetectorName (N C : Type) where
  visionServiceName : N
  cameraName : C
  deriving DecidableEq, Repr

-- `moveRequest.obstacleDetectors`, a `map[vision.Service][]resource.Name`. Go ranges over a map
-- in an unspecified order, so the loops below take the order of its entries as an argument.
abbrev ObstacleDetectors (S C : Type) := AList fun _ : S => List C

-- The (service, camera) pairs of the entries `order`, in that order.
def detectorPairs {S C : Type} (order : List (Σ _ : S, List C)) : List (S × C) :=
  order.flatMap fun e => e.2.map fun cam => (e.1, cam)

theorem detectorPairs_cons {S C : Type} (e : Σ _ : S, List C) (order : List (Σ _ : S, List C)) :
    detectorPairs (e :: order) = e.2.map (fun cam => (e.1, cam)) ++ detectorPairs order := by
  simp [detectorPairs]

-- Ranging over a permutation of the entries visits a permutation of the pairs.
theorem detectorPairs_perm {S C : Type} {order order' : List (Σ _ : S, List C)}
    (h : order.Perm order') : (detectorPairs order).Perm (detectorPairs order') :=
  h.flatMap_right _

section Group

variable {N S C : Type} [DecidableEq S] (visionServices : N → Option S)

-- The loop of `relativeMoveRequestFromAbsolute` that builds `obstacleDetectors` from the
-- configuration's pairs, looking each name up in `ms.visionServices`. An error is the name that
-- map lacks (`resource.DependencyNotFoundError`, made outside src).
def groupObstacleDetectors :
    List (ObstacleDetectorName N C) → ObstacleDetectors S C → Except N (ObstacleDetectors S C)
  | [], obstacleDetectors => .ok obstacleDetectors
  | pair :: rest, obstacleDetectors =>
    match visionServices pair.visionServiceName with
    | none => .error pair.visionServiceName
    | some visionSvc =>
      match obstacleDetectors.lookup visionSvc with
      | none => groupObstacleDetectors rest (obstacleDetectors.insert visionSvc [pair.cameraName])
      | some camList =>
        groupObstacleDetectors rest
          (obstacleDetectors.insert visionSvc (camList ++ [pair.cameraName]))

-- The cameras the configuration puts on the vision service `s`, in its order.
def camerasOf (s : S) (pairs : List (ObstacleDetectorName N C)) : List C :=
  (pairs.filter fun p => visionServices p.visionServiceName = some s).map (·.cameraName)

-- The configuration's pairs with each name replaced by the service it names.
def resolvedPairs (pairs : List (ObstacleDetectorName N C)) : List (S × C) :=
  pairs.filterMap fun p => (visionServices p.visionServiceName).map fun s => (s, p.cameraName)

variable {visionServices}

-- Both branches of the loop append the camera to the list the service had, if any.
theorem groupObstacleDetectors_cons {pair : ObstacleDetectorName N C}
    {rest : List (ObstacleDetectorName N C)} {acc : ObstacleDetectors S C} {s : S}
    (hs : visionServices pair.visionServiceName = some s) :
    groupObstacleDetectors visionServices (pair :: rest) acc =
      groupObstacleDetectors visionServices rest
        (acc.insert s ((acc.lookup s).getD [] ++ [pair.cameraName])) := by
  simp only [groupObstacleDetectors, hs]
  cases acc.lookup s <;> rfl

-- The loop fails exactly when a name is not a vision service, and then with the first such name.
theorem groupObstacleDetectors_error_iff (pairs : List (ObstacleDetectorName N C))
    (acc : ObstacleDetectors S C) (n : N) :
    groupObstacleDetectors visionServices pairs acc = .error n ↔
      (pairs.find? fun p => (visionServices p.visionServiceName).isNone).map
        (·.visionServiceName) = some n := by
  induction pairs generalizing acc with
  | nil => simp [groupObstacleDetectors]
  | cons pair rest ih =>
    cases hs : visionServices pair.visionServiceName with
    | none => simp [groupObstacleDetectors, hs, eq_comm]
    | some s => simp [groupObstacleDetectors_cons hs, ih, hs]

-- Every service keeps the cameras it had and gains those the configuration puts on it, in order.
theorem lookup_groupObstacleDetectors {pairs : List (ObstacleDetectorName N C)}
    {acc m : ObstacleDetectors S C} (h : groupObstacleDetectors visionServices pairs acc = .ok m)
    (s : S) :
    (m.lookup s).getD [] = (acc.lookup s).getD [] ++ camerasOf visionServices s pairs := by
  induction pairs generalizing acc with
  | nil => cases h; simp [camerasOf]
  | cons pair rest ih =>
    cases hs : visionServices pair.visionServiceName with
    | none => simp [groupObstacleDetectors, hs] at h
    | some s' =>
      rw [groupObstacleDetectors_cons hs] at h
      rw [ih h]
      by_cases hss : s' = s
      · subst hss
        simp [camerasOf, hs]
      · simp [camerasOf, hs, hss, AList.lookup_insert_ne (Ne.symm hss)]

-- One step of the loop: the map's pairs gain the pair just grouped.
theorem detectorPairs_insert_append (acc : ObstacleDetectors S C) (s : S) (cam : C) :
    (detectorPairs (acc.insert s ((acc.lookup s).getD [] ++ [cam])).entries).Perm
      (detectorPairs acc.entries ++ [(s, cam)]) := by
  classical
  by_cases hs : s ∈ acc
  · -- the entry of `s` moves to the front with `cam` appended
    obtain ⟨b, l₁, l₂, hl₁, hentries, hkerase⟩ := List.exists_of_kerase hs
    have hlookup : acc.lookup s = some b := by
      rw [AList.lookup, hentries, List.dlookup_append, List.dlookup_eq_none.mpr hl₁]
      simp
    rw [AList.insert_entries, hkerase, hlookup, hentries, List.perm_iff_count]
    intro x
    simp only [detectorPairs, List.flatMap_cons, List.flatMap_append, Option.getD_some,
      List.map_append, List.map_cons, List.map_nil, List.count_append]
    omega
  · rw [AList.insert_entries_of_neg hs, AList.lookup_eq_none.mpr hs]
    exact List.perm_append_comm

-- The pairs of the map the loop builds are those of the map it started from and the
-- configuration's, each once.
theorem detectorPairs_groupObstacleDetectors {pairs : List (ObstacleDetectorName N C)}
    {acc m : ObstacleDetectors S C} (h : groupObstacleDetectors visionServices pairs acc = .ok m) :
    (detectorPairs m.entries).Perm
      (detectorPairs acc.entries ++ resolvedPairs visionServices pairs) := by
  induction pairs generalizing acc with
  | nil => cases h; simp [resolvedPairs]
  | cons pair rest ih =>
    cases hs : visionServices pair.visionServiceName with
    | none => simp [groupObstacleDetectors, hs] at h
    | some s =>
      rw [groupObstacleDetectors_cons hs] at h
      refine (ih h).trans ?_
      have hres : resolvedPairs visionServices (pair :: rest) =
          (s, pair.cameraName) :: resolvedPairs visionServices rest := by
        simp [resolvedPairs, hs]
      rw [hres]
      exact ((detectorPairs_insert_append acc s pair.cameraName).append_right _).trans
        (List.Perm.of_eq (by simp))

end Group

section Poll

variable {S C : Type} (check : Nat → S → C → ObstacleResult)

-- The inner loop of `obstaclesIntersectPlan` over the cameras of `visSrvc`. `check k` is what the
-- collaborators answer for the `k`-th camera polled: an error, a collision, or clear. The result is
-- the cameras polled so far and, unless all were clear, the response that ends the call.
def pollCameras (visSrvc : S) : List C → List (S × C) → List (S × C) × Option MoveResponse
  | [], polled => (polled, none)
  | camName :: cameraNames, polled =>
    match check polled.length visSrvc camName with
    | .clear => pollCameras visSrvc cameraNames (polled ++ [(visSrvc, camName)])
    | r => (polled ++ [(visSrvc, camName)], some (obstaclesIntersectPlan r))

-- `obstaclesIntersectPlan`, ranging over the detectors' entries in the order `order`: the cameras
-- polled and the response.
def obstaclesIntersectPlanLoop :
    List (Σ _ : S, List C) → List (S × C) → List (S × C) × MoveResponse
  | [], polled => (polled, ⟨none, default⟩)
  | ⟨visSrvc, cameraNames⟩ :: rest, polled =>
    match pollCameras check visSrvc cameraNames polled with
    | (polled, some response) => (polled, response)
    | (polled, none) => obstaclesIntersectPlanLoop rest polled

-- What the two loops do, as one scan over the pairs: poll each camera in turn, and stop at the
-- first whose check is not clear, which decides the outcome.
def scanPolls : List (S × C) → List (S × C) → List (S × C) × ObstacleResult
  | [], polled => (polled, .clear)
  | (visSrvc, camName) :: rest, polled =>
    match check polled.length visSrvc camName with
    | .clear => scanPolls rest (polled ++ [(visSrvc, camName)])
    | r => (polled ++ [(visSrvc, camName)], r)

theorem scanPolls_append (xs ys polled : List (S × C)) :
    scanPolls check (xs ++ ys) polled =
      if (scanPolls check xs polled).2 = .clear then
        scanPolls check ys (scanPolls check xs polled).1
      else scanPolls check xs polled := by
  induction xs generalizing polled with
  | nil => rfl
  | cons x xs ih =>
    obtain ⟨visSrvc, camName⟩ := x
    simp only [List.cons_append, scanPolls]
    cases check polled.length visSrvc camName <;> simp [ih]

-- The inner loop is the scan over the service's cameras.
theorem pollCameras_eq (visSrvc : S) (cameraNames : List C) (polled : List (S × C)) :
    pollCameras check visSrvc cameraNames polled =
      let r := scanPolls check (cameraNames.map fun cam => (visSrvc, cam)) polled
      (r.1, if r.2 = .clear then none else some (obstaclesIntersectPlan r.2)) := by
  induction cameraNames generalizing polled with
  | nil => rfl
  | cons camName cameraNames ih =>
    simp only [pollCameras, List.map_cons, scanPolls]
    cases check polled.length visSrvc camName <;> simp [ih]

-- The nested loops of `obstaclesIntersectPlan` are the scan over the detectors' pairs in the order
-- the map is ranged over: the response is the one `obstaclesIntersectPlan` gives for the scan's
-- outcome, the abstraction the state machine of `Execute` polls with.
theorem obstaclesIntersectPlanLoop_eq (order : List (Σ _ : S, List C)) (polled : List (S × C)) :
    obstaclesIntersectPlanLoop check order polled =
      let r := scanPolls check (detectorPairs order) polled
      (r.1, obstaclesIntersectPlan r.2) := by
  induction order generalizing polled with
  | nil => rfl
  | cons e order ih =>
    obtain ⟨visSrvc, cameraNames⟩ := e
    simp only [obstaclesIntersectPlanLoop, pollCameras_eq, detectorPairs_cons, scanPolls_append]
    by_cases hc : (scanPolls check (cameraNames.map fun cam => (visSrvc, cam)) polled).2 = .clear
    · simp [hc, ih]
    · simp [hc]

-- What a scan does: it polls a prefix `q` of the pairs, every check but the last is clear and the
-- last decides the outcome; a clear outcome means it polled them all.
theorem scanPolls_spec {xs polled polled' : List (S × C)} {r : ObstacleResult}
    (h : scanPolls check xs polled = (polled', r)) :
    ∃ q, polled' = polled ++ q ∧ q <+: xs ∧ (r ≠ .clear → q ≠ []) ∧
      (r = .clear → q = xs) ∧
      ∀ i (hi : i < q.length),
        check (polled.length + i) q[i].1 q[i].2 = if i + 1 = q.length then r else .clear := by
  induction xs generalizing polled with
  | nil =>
    cases h
    exact ⟨[], by simp, List.prefix_rfl, fun hr => absurd rfl hr, fun _ => rfl, nofun⟩
  | cons x xs ih =>
    obtain ⟨visSrvc, camName⟩ := x
    simp only [scanPolls] at h
    split at h
    next hc =>
      -- the first camera is clear: the rest of the scan starts one further on
      obtain ⟨q, rfl, hq, hne, hall, hcheck⟩ := ih h
      refine ⟨(visSrvc, camName) :: q, by simp, (List.prefix_cons_inj _).mpr hq, nofun,
        fun hr => by rw [hall hr], ?_⟩
      intro i hi
      cases i with
      | zero =>
        by_cases hq0 : q = []
        · subst hq0
          have hr : r = .clear := Classical.byContradiction fun hr => hne hr rfl
          simpa [hr] using hc
        · simpa [hq0] using hc
      | succ i =>
        have := hcheck i (by simpa using hi)
        simpa [Nat.add_assoc, Nat.add_comm 1] using this
    next hne =>
      -- the first camera decides
      cases h
      refine ⟨[(visSrvc, camName)], rfl, (List.prefix_cons_inj _).mpr List.nil_prefix,
        fun _ => nofun, fun hr => absurd hr hne, fun i hi => ?_⟩
      obtain rfl : i = 0 := by simpa using hi
      simp

-- `obstaclesIntersectPlan` answers with no error and no replan exactly when the scan ended clear.
theorem obstaclesIntersectPlan_eq_clear_iff (r : ObstacleResult) :
    obstaclesIntersectPlan r = ⟨none, default⟩ ↔ r = .clear := by
  cases r <;> simp [obstaclesIntersectPlan, default]

end Poll

section System

variable {N S C : Type} [DecidableEq S] {visionServices : N → Option S}

-- Once the loop has succeeded every configured pair has been resolved.
theorem resolvedPairs_length {pairs : List (ObstacleDetectorName N C)}
    {acc m : ObstacleDetectors S C} (h : groupObstacleDetectors visionServices pairs acc = .ok m) :
    (resolvedPairs visionServices pairs).length = pairs.length := by
  induction pairs generalizing acc with
  | nil => rfl
  | cons pair rest ih =>
    cases hs : visionServices pair.visionServiceName with
    | none => simp [groupObstacleDetectors, hs] at h
    | some s =>
      rw [groupObstacleDetectors_cons hs] at h
      simp [resolvedPairs, hs, ← ih h]

-- In any map order and whatever the collaborators answer, `obstaclesIntersectPlan` polls a prefix
-- of the cameras, all clear but the last, which decides the response; a clear response means every
-- configured (vision service, camera) pair was polled exactly once.
theorem obstaclesIntersectPlan_polls_detectors {pairs : List (ObstacleDetectorName N C)}
    {obstacleDetectors : ObstacleDetectors S C}
    (hgroup : groupObstacleDetectors visionServices pairs ∅ = .ok obstacleDetectors)
    {order : List (Σ _ : S, List C)} (horder : order.Perm obstacleDetectors.entries)
    (check : Nat → S → C → ObstacleResult) :
    let res := obstaclesIntersectPlanLoop check order []
    res.1 <+: detectorPairs order ∧
    (∃ r, res.2 = obstaclesIntersectPlan r ∧ (r ≠ .clear → res.1 ≠ []) ∧
      ∀ i (hi : i < res.1.length),
        check i res.1[i].1 res.1[i].2 = if i + 1 = res.1.length then r else .clear) ∧
    (res.2 = ⟨none, default⟩ → res.1.Perm (resolvedPairs visionServices pairs) ∧
      (resolvedPairs visionServices pairs).length = pairs.length) := by
  intro res
  rw [show res = _ from obstaclesIntersectPlanLoop_eq check order []]
  obtain ⟨q, hq, hpre, hne, hall, hcheck⟩ :=
    @scanPolls_spec S C check (detectorPairs order) [] _ _ rfl
  simp only [List.nil_append] at hq
  refine ⟨hq ▸ hpre, ⟨_, rfl, fun hr => hq ▸ hne hr, fun i hi => ?_⟩, fun hclear => ?_⟩
  · simp only [hq] at hi ⊢
    simpa using hcheck i hi
  · -- a clear response means the scan polled every pair of the map
    have hpairs := detectorPairs_groupObstacleDetectors hgroup
    simp only [AList.empty_entries, detectorPairs, List.flatMap_nil, List.nil_append] at hpairs
    refine ⟨?_, resolvedPairs_length hgroup⟩
    rw [hq, hall ((obstaclesIntersectPlan_eq_clear_iff _).mp hclear)]
    exact (detectorPairs_perm horder).trans hpairs

end System

-- Two cameras on vision service `0` and one on service `1`, every check clear.
def twoServices (n : Nat) : Option Nat := if n < 2 then some n else none

def twoServiceConfig : List (ObstacleDetectorName Nat Nat) :=
  [⟨0, 10⟩, ⟨1, 11⟩, ⟨0, 12⟩]

def twoServiceDetectors : ObstacleDetectors Nat Nat :=
  AList.insert 0 [10, 12] (AList.insert 1 [11] ∅)

def allClear (_ _ _ : Nat) : ObstacleResult := .clear

-- Ranged over in the reverse of the entries' order.
theorem obstaclesIntersectPlan_polls_detectors_twoServices :
    groupObstacleDetectors twoServices twoServiceConfig ∅ = .ok twoServiceDetectors ∧
    twoServiceDetectors.entries.reverse.Perm twoServiceDetectors.entries ∧
    let res := obstaclesIntersectPlanLoop allClear twoServiceDetectors.entries.reverse []
    res.1 <+: detectorPairs twoServiceDetectors.entries.reverse ∧
    (∃ r, res.2 = obstaclesIntersectPlan r ∧ (r ≠ .clear → res.1 ≠ []) ∧
      ∀ i (hi : i < res.1.length),
        allClear i res.1[i].1 res.1[i].2 = if i + 1 = res.1.length then r else .clear) ∧
    (res.2 = ⟨none, default⟩ → res.1.Perm (resolvedPairs twoServices twoServiceConfig) ∧
      (resolvedPairs twoServices twoServiceConfig).length = twoServiceConfig.length) :=
  have hgroup : groupObstacleDetectors twoServices twoServiceConfig ∅ = .ok twoServiceDetectors :=
    rfl
  ⟨hgroup, List.reverse_perm _,
    obstaclesIntersectPlan_polls_detectors hgroup (List.reverse_perm _) allClear⟩

theorem lookup_groupObstacleDetectors_twoServices :
    groupObstacleDetectors twoServices twoServiceConfig ∅ = .ok twoServiceDetectors ∧
    (twoServiceDetectors.lookup 0).getD [] =
      ((∅ : ObstacleDetectors Nat Nat).lookup 0).getD [] ++
        camerasOf twoServices 0 twoServiceConfig :=
  have hgroup : groupObstacleDetectors twoServices twoServiceConfig ∅ = .ok twoServiceDetectors :=
    rfl
  ⟨hgroup, lookup_groupObstacleDetectors hgroup 0⟩

end Rdk.Motion.Builtin
