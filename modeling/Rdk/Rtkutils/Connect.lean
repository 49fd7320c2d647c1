import Rdk.Rtkutils.Ntrip

namespace Rdk.Rtkutils

-- `NtripConfig`.
structure NtripConfig where
  ntripURL : String
  ntripConnectAttempts : Int
  ntripMountpoint : String
  ntripUser : String
  ntripPass : String
  deriving DecidableEq, Repr

-- `NtripInfo`, with the client type `C` left open. `client = none` is a nil `Client`.
structure NtripInfo (C : Type) where
  url : String
  username : String
  password : String
  mountPoint : String
  client : Option C
  maxConnectAttempts : Int
  deriving DecidableEq, Repr

-- `NewNtripInfo`: only an empty URL is rejected, and only a zero attempt count is replaced.
def newNtripInfo {C : Type} (cfg : NtripConfig) : Except String (NtripInfo C) :=
  if cfg.ntripURL = "" then .error "NTRIP expected non-empty string for \"\""
  else
    .ok ⟨cfg.ntripURL, cfg.ntripUser, cfg.ntripPass, cfg.ntripMountpoint, none,
      if cfg.ntripConnectAttempts = 0 then 10 else cfg.ntripConnectAttempts⟩

-- What one `Connect` call leaves behind: the `NtripInfo`, the returned error and the number of
-- `ntrip.NewClient` calls it made.
structure ConnectResult (C : Type) where
  info : NtripInfo C
  err : Option String
  attempts : Nat
  deriving DecidableEq, Repr

section

variable {C : Type} (ctxErr : Nat → Option String) (newClient : Nat → Except String C)

-- The loop of `Connect` at attempt `k`, with `fuel` iterations left; `err` is the error of the
-- last `NewClient` call. `ctxErr k` is `ctx.Err()` when attempt `k` checks the context, and
-- `newClient k` what `NewClient` returns on attempt `k`.
def connectLoop (n : NtripInfo C) : Nat → Nat → Option String → ConnectResult C
  | 0, k, err => ⟨n, err, k⟩
  | fuel + 1, k, _ =>
    match ctxErr k with
    | some e => ⟨n, some e, k⟩
    | none =>
      match newClient k with
      | .ok c => ⟨{ n with client := some c }, none, k + 1⟩
      | .error e => connectLoop n fuel (k + 1) (some e)

-- `NtripInfo.Connect`: `for attempts := 0; attempts < n.MaxConnectAttempts; attempts++`.
def connect (n : NtripInfo C) : ConnectResult C :=
  connectLoop ctxErr newClient n n.maxConnectAttempts.toNat 0 none

-- How `Connect` ends: it stored the client of a successful `NewClient` and returns nil, or it
-- left `n` as it was and returns the context's error or the error of its last `NewClient`.
def ConnectOutcome (n : NtripInfo C) (r : ConnectResult C) : Prop :=
  (∃ c, newClient (r.attempts - 1) = .ok c ∧ r.info = { n with client := some c } ∧
    r.err = none) ∨
  (r.info = n ∧ ∃ e, r.err = some e ∧
    (ctxErr r.attempts = some e ∨ newClient (r.attempts - 1) = .error e))

variable {ctxErr newClient}

theorem connectLoop_ctxErr {n : NtripInfo C} {fuel k : Nat} {err : Option String} {e : String}
    (hc : ctxErr k = some e) :
    connectLoop ctxErr newClient n (fuel + 1) k err = ⟨n, some e, k⟩ := by
  simp [connectLoop, hc]

theorem connectLoop_ok {n : NtripInfo C} {fuel k : Nat} {err : Option String} {c : C}
    (hc : ctxErr k = none) (hn : newClient k = .ok c) :
    connectLoop ctxErr newClient n (fuel + 1) k err =
      ⟨{ n with client := some c }, none, k + 1⟩ := by
  simp [connectLoop, hc, hn]

theorem connectLoop_error {n : NtripInfo C} {fuel k : Nat} {err : Option String} {e : String}
    (hc : ctxErr k = none) (hn : newClient k = .error e) :
    connectLoop ctxErr newClient n (fuel + 1) k err =
      connectLoop ctxErr newClient n fuel (k + 1) (some e) := by
  simp [connectLoop, hc, hn]

-- From attempt `k` with attempts left, the loop ends as `Connect` should.
theorem connectLoop_succ (n : NtripInfo C) (fuel k : Nat) (err : Option String) :
    let r := connectLoop ctxErr newClient n (fuel + 1) k err
    k ≤ r.attempts ∧ r.attempts ≤ k + fuel + 1 ∧ ConnectOutcome ctxErr newClient n r := by
  induction fuel generalizing k err with
  | zero =>
    cases hc : ctxErr k with
    | some e =>
      rw [connectLoop_ctxErr hc]
      exact ⟨le_rfl, by dsimp only; omega, .inr ⟨rfl, e, rfl, .inl hc⟩⟩
    | none =>
      cases hn : newClient k with
      | ok c =>
        rw [connectLoop_ok hc hn]
        exact ⟨by dsimp only; omega, le_rfl, .inl ⟨c, hn, rfl, rfl⟩⟩
      | error e =>
        rw [connectLoop_error hc hn]
        exact ⟨by simp [connectLoop], le_rfl, .inr ⟨rfl, e, rfl, .inr hn⟩⟩
  | succ fuel ih =>
    cases hc : ctxErr k with
    | some e =>
      rw [connectLoop_ctxErr hc]
      exact ⟨le_rfl, by dsimp only; omega, .inr ⟨rfl, e, rfl, .inl hc⟩⟩
    | none =>
      cases hn : newClient k with
      | ok c =>
        rw [connectLoop_ok hc hn]
        exact ⟨by dsimp only; omega, by dsimp only; omega, .inl ⟨c, hn, rfl, rfl⟩⟩
      | error e =>
        rw [connectLoop_error hc hn]
        obtain ⟨hk, hle, hr⟩ := ih (k + 1) (some e)
        exact ⟨by omega, by omega, hr⟩

-- With a positive `MaxConnectAttempts`, `Connect` makes at most that many attempts, and it returns
-- nil exactly when it stored a client.
theorem connect_of_pos {n : NtripInfo C} (h : 0 < n.maxConnectAttempts) :
    (connect ctxErr newClient n).attempts ≤ n.maxConnectAttempts.toNat ∧
      ConnectOutcome ctxErr newClient n (connect ctxErr newClient n) := by
  obtain ⟨fuel, hf⟩ : ∃ fuel, n.maxConnectAttempts.toNat = fuel + 1 :=
    ⟨n.maxConnectAttempts.toNat - 1, by omega⟩
  obtain ⟨-, hle, hr⟩ := @connectLoop_succ C ctxErr newClient n fuel 0 none
  simp only [connect, hf]
  exact ⟨by omega, hr⟩

end

-- A config with a negative `NtripConnectAttempts` is accepted and keeps its count, and then
-- `Connect` makes no attempt, stores no client and returns nil, whatever the caster answers.
theorem connect_negative_attempts {C : Type} (cfg : NtripConfig) (hurl : cfg.ntripURL ≠ "")
    (hneg : cfg.ntripConnectAttempts < 0) (ctxErr : Nat → Option String)
    (newClient : Nat → Except String C) :
    ∃ n, newNtripInfo cfg = .ok n ∧ n.maxConnectAttempts = cfg.ntripConnectAttempts ∧
      n.client = none ∧ connect ctxErr newClient n = ⟨n, none, 0⟩ := by
  have hzero : cfg.ntripConnectAttempts ≠ 0 := by omega
  have hnone : cfg.ntripConnectAttempts.toNat = 0 := by omega
  refine ⟨_, by simp only [newNtripInfo, if_neg hurl]; rfl, by simp [hzero], rfl, ?_⟩
  simp only [connect, if_neg hzero, hnone]
  rfl

theorem connect_negative_attempts_caster :
    let cfg : NtripConfig := ⟨"http://caster:2101", -1, "MP", "", ""⟩
    cfg.ntripURL ≠ "" ∧ cfg.ntripConnectAttempts < 0 ∧
      ∃ n, newNtripInfo cfg = .ok n ∧ n.maxConnectAttempts = cfg.ntripConnectAttempts ∧
        n.client = none ∧ connect (fun _ => none) (fun _ => .ok ()) n = ⟨n, none, 0⟩ :=
  ⟨by decide, by decide, connect_negative_attempts _ (by decide) (by decide) _ _⟩

-- A caster that refuses the first connection.
def refusingOnce (k : Nat) : Except String Unit := if k = 0 then .error "connection refused" else .ok ()

def casterInfo : NtripInfo Unit := ⟨"http://caster:2101", "", "", "MP", none, 3⟩

theorem connect_of_pos_refusingOnce :
    0 < casterInfo.maxConnectAttempts ∧
    (connect (fun _ => none) refusingOnce casterInfo).attempts ≤ casterInfo.maxConnectAttempts.toNat ∧
      ConnectOutcome (fun _ => none) refusingOnce casterInfo
        (connect (fun _ => none) refusingOnce casterInfo) :=
  ⟨by decide, connect_of_pos (by decide)⟩

end Rdk.Rtkutils
