import RuntimeCargo.Check
import RuntimeCargo.Supervisor

/-!
# How often and when the process is started

What is said here holds of as many turns of the supervisor as were made,
whatever it was told (`supervisor_bounded`). The process is not started more
often than the block of the bootstrap allows; it is not started after it has
succeeded, nor after a signal was seen. Each pause is between one half and
all of what the failures so far call for, unless the end of the schedule is
near. And what is returned is the end of the last process or the signal that
was seen – or it says that something of the supervisor's own went wrong.

The counters of the supervisor are compared with what can be read off the
trace: the starts (`spawns`) and the times the failed processes had run
(`uptimes`). A counter that is full is not a difficulty, because the pause
is as long as it can be after the sixth failure.
-/

open Program

namespace Supervision

/-- A call of the supervisor and its reply. -/
abbrev Event := SupervisorCall × SupervisorReply

/-! ## What can be read off a trace -/

/-- How often a process was started. -/
def spawns (t : List Event) : ℕ := t.countP fun x => x.1 = .spawnCustomer

/-- The time a failed process had run, where it is reported. -/
def failedAfter (x : Event) : Option ℕ :=
  match x.1 with
  | .reportAttemptFailure _ _ _ uptime => some uptime
  | _ => none

/-- The times the failed processes had run, the last one first. -/
def uptimes (t : List Event) : List ℕ := (t.filterMap failedAfter).reverse

/-- The clock, where it is read. -/
def clock (x : Event) : Option ℕ :=
  match x.1 with
  | .now => some x.2.now
  | _ => none

/-- The readings of the clock. -/
def readings (t : List Event) : List ℕ := t.filterMap clock

/-- **Something after which no process is started**: a signal was seen or
sent, or a process has succeeded. -/
def stops (x : Event) : Bool :=
  match x.1 with
  | .takeSignal => x.2.signal.isSome
  | .signalProcessGroup _ => true
  | .tryWait =>
    match x.2.status with
    | .ok (some status) => status.code = some 0
    | _ => false
  | _ => false

/-- Nothing of that kind. -/
def Calm (t : List Event) : Prop := ∀ x ∈ t, stops x = false

/-- **The failures since the last run of five minutes**, that one included;
the last one first. -/
def failuresSince : List ℕ → ℕ
  | [] => 0
  | uptime :: earlier => if uptime ≥ stabilityReset then 1 else failuresSince earlier + 1

/-- **The index of the last failure**: how many there were before it since
the last run of five minutes. -/
def failureIndex : List ℕ → ℕ
  | [] => 0
  | uptime :: earlier => if uptime ≥ stabilityReset then 0 else failuresSince earlier

/-- How often a process may be started again, if that is limited. -/
def restartsAllowed : SupervisionMode → Option ℕ
  | .never => some 0
  | .onFailure (.attempts maxRestarts) => some maxRestarts
  | .onFailure .scheduleEnd => none

section Append

variable {t : List Event} {x : Event}

theorem calm_append (h : Calm t) (hx : stops x = false) : Calm (t ++ [x]) := by
  intro y hy
  rcases List.mem_append.mp hy with hy | hy
  · exact h y hy
  · rw [List.mem_singleton.mp hy]
    exact hx

variable {r : SupervisorReply}

theorem readings_append_now :
    readings (t ++ [(.now, r)]) = readings t ++ [r.now] := List.filterMap_append

theorem readings_append (hx : clock x = none) : readings (t ++ [x]) = readings t := by
  rw [readings, List.filterMap_append, List.filterMap_cons_none hx]
  exact List.append_nil _

theorem head_readings_append {start : ℕ} (h : (readings t).head? = some start) :
    (readings (t ++ [x])).head? = some start := by
  rw [readings, List.filterMap_append, List.head?_append]
  exact Option.or_eq_some_iff.mpr (.inl h)

theorem spawns_append (hx : x.1 ≠ .spawnCustomer) : spawns (t ++ [x]) = spawns t := by
  rw [spawns, List.countP_append, List.countP_singleton,
    if_neg (by rw [decide_eq_true_eq]; exact hx)]
  rfl

theorem spawns_append_spawn :
    spawns (t ++ [(.spawnCustomer, r)]) = spawns t + 1 := by
  rw [spawns, List.countP_append, List.countP_singleton, if_pos (decide_eq_true rfl)]
  rfl

theorem uptimes_append (hx : failedAfter x = none) : uptimes (t ++ [x]) = uptimes t := by
  rw [uptimes, List.filterMap_append, List.filterMap_cons_none hx, List.filterMap_nil,
    List.append_nil]
  rfl

theorem uptimes_append_failure {failure : FailureReason} {attempt restarts uptime : ℕ} :
    uptimes (t ++ [(.reportAttemptFailure failure attempt restarts uptime, r)])
      = uptime :: uptimes t := by
  rw [uptimes, List.filterMap_append, List.reverse_append]
  rfl

end Append

/-! ## The pause -/

/-- All of the pause after some failures. -/
def fullPause (i : ℕ) : ℕ := min (60 * second) (second * 2 ^ i)

theorem ceiling_eq (i : ℕ) :
    min (1000 * 2 ^ min (saturating32 i) 6) 60000 * millisecond = fullPause i := by
  unfold fullPause
  by_cases hi : i ≤ 6
  · have hall : ∀ i ≤ 6, min (1000 * 2 ^ min (saturating32 i) 6) 60000 * millisecond
        = min (60 * second) (second * 2 ^ i) := by decide
    exact hall i hi
  · have hcapped : min (saturating32 i) 6 = 6 := by
      unfold saturating32
      omega
    have hpow : 2 ^ 6 ≤ 2 ^ i := Nat.pow_le_pow_right (by decide) (by omega)
    have hlong : 60 * second ≤ second * 2 ^ i := by
      calc 60 * second ≤ second * 2 ^ 6 := by decide
        _ ≤ second * 2 ^ i := Nat.mul_le_mul_left second hpow
    rw [hcapped, min_eq_left hlong]
    decide

/-- **The pause that is drawn is between one half and all of it**, also if
the counter is full. -/
theorem backoff_bounds (sha256 : List UInt8 → Digest) (instanceId : String) (attempt i : ℕ) :
    fullPause i / 2 ≤ deterministicBackoff sha256 instanceId attempt (saturating32 i) * millisecond
      ∧ deterministicBackoff sha256 instanceId attempt (saturating32 i) * millisecond
        ≤ fullPause i := by
  rw [← ceiling_eq i]
  unfold deterministicBackoff
  dsimp only
  have heven : min (1000 * 2 ^ min (saturating32 i) 6) 60000 % 2 = 0 := by
    generalize 2 ^ min (saturating32 i) 6 = factor
    omega
  generalize min (1000 * 2 ^ min (saturating32 i) 6) 60000 = ceiling at heven ⊢
  generalize natOfBytes _ = draw
  have hdraw : draw % (ceiling - ceiling / 2 + 1) < ceiling - ceiling / 2 + 1 :=
    Nat.mod_lt draw (Nat.succ_pos _)
  unfold millisecond
  omega

/-! ## What is kept -/

/-- How often the block of the bootstrap allows to start a process again, if
that is limited. Without a block that is as it should be it never does. -/
def blockAllows (supervision : Option Json) : Option ℕ :=
  match supervisionPolicy supervision with
  | none => some 0
  | some policy => restartsAllowed policy.mode

section Runs

variable (sha256 : List UInt8 → Digest) (supervision : Option Json) (bootstrapElapsed : ℕ)
  (runtimeInstanceId : String) (hasCommand : Bool)

/-- **The pause is as long as it should be**, after what came before: the
start is five seconds before the end of the schedule, or earlier, and only
for that the pause may be shorter than one half of what it should be. -/
def PauseFits (before : List Event) (delay : ℕ) : Prop :=
  ∃ policy first now, supervisionPolicy supervision = some policy
    ∧ (readings before).head? = some first ∧ (readings before).getLast? = some now
    ∧ let full := fullPause (failureIndex (uptimes before))
      let scheduleEnd := first
        + ((policy.scheduleEndMs - policy.serverTimeMs) * millisecond - bootstrapElapsed)
      now + delay + finalRunway ≤ scheduleEnd ∧ delay ≤ full
        ∧ (full / 2 ≤ delay ∨ now + delay + finalRunway = scheduleEnd)

/-- What is heeded at a call. -/
def Heeds (before : List Event) (x : Event) : Prop :=
  match x.1 with
  | .spawnCustomer => Calm before
  | .scheduleRestart _ _ delay => PauseFits supervision bootstrapElapsed before delay
  | _ => True

/-- Something of the supervisor's own has gone wrong. -/
def broken (x : Event) : Bool :=
  match x.1 with
  | .installProcessAuthority => !x.2.ok
  | .signalProcessGroup _ => !x.2.ok
  | .terminateAndReapGroup => !x.2.ok
  | .tryWait => match x.2.status with
    | .error () => true
    | .ok _ => false
  | _ => false

/-- The last process has ended, and how. -/
def Ended (status : ExitStatus) (t : List Event) : Prop :=
  ∃ before r after, t = before ++ (.tryWait, r) :: after ∧ r.status = .ok (some status)
    ∧ ∀ y ∈ after, y.1 ≠ .spawnCustomer ∧ y.1 ≠ .tryWait

/-- **What a value that is returned stands for.** -/
inductive Accounts : SupervisorExit → List Event → Prop
  /-- The last process has ended so. -/
  | child {t : List Event} {status : ExitStatus} (h : Ended status t) : Accounts status.exit t
  /-- A signal was seen while no process was running. -/
  | captured {t : List Event} {r : SupervisorReply} {signal : ℤ} (h : r.signal = some signal) :
      Accounts (.signal signal) (t ++ [(.takeSignal, r)])
  /-- There is nothing to start. -/
  | noCommand (h : hasCommand = false) : Accounts (.code 126) []
  /-- A process could not be started. -/
  | noChild {t : List Event} {r ended : SupervisorReply} (h : r.ok = false) :
      Accounts (.code 126) (t ++ [(.spawnCustomer, r)] ++ [(.endChild, ended)])
  /-- Something has gone wrong. -/
  | broken {t : List Event} {x : Event} (h : x ∈ t) (hx : broken x = true) : Accounts (.code 70) t

/-- **The counters agree with the trace**: `k` of the starts are not counted
yet, and the counter of the failures is the one after those named last. -/
structure Tracks (s : Supervision) (t : List Event) (k : ℕ) (failed earlier : List ℕ) : Prop where
  policy : ∃ first, (readings t).head? = some first
    ∧ s.policy = effectivePolicy (supervisionPolicy supervision) bootstrapElapsed first
  ran : uptimes t = failed
  failures : s.consecutiveFailures = saturating32 (failuresSince earlier)
  starts : ∀ m, restartsAllowed s.policy.mode = some m
    → spawns t = s.restartCount + k ∧ s.restartCount ≤ m

/-- What holds between two turns. -/
def Between (s : Supervision) (t : List Event) : Prop :=
  match s.phase with
  | .starting => t = [] ∧ s = initial
  | .head => ∃ failed, Tracks supervision bootstrapElapsed s t 0 failed failed ∧ Calm t
  | .running _ forwarded _ =>
    ∃ failed, Tracks supervision bootstrapElapsed s t 1 failed failed ∧ (forwarded = none → Calm t)
  | .pausing _ uptime =>
    ∃ failed, Tracks supervision bootstrapElapsed s t 1 (uptime :: failed) failed ∧ Calm t
      ∧ ∀ m, restartsAllowed s.policy.mode = some m → s.restartCount < m
  | .returned exit => (∀ m, blockAllows supervision = some m → spawns t ≤ m + 1)
      ∧ Accounts hasCommand exit t

variable {sha256 supervision bootstrapElapsed runtimeInstanceId hasCommand}

/-! ### The policy -/

theorem effectivePolicy_cases (policy : Option SupervisionPolicy) (elapsed now : ℕ) :
    effectivePolicy policy elapsed now = ⟨.never, none⟩
      ∨ ∃ p, policy = some p ∧ effectivePolicy policy elapsed now = ⟨p.mode,
        some (now + ((p.scheduleEndMs - p.serverTimeMs) * millisecond - elapsed))⟩ := by
  cases policy with
  | none => exact .inl rfl
  | some p =>
    unfold effectivePolicy
    dsimp only
    split
    · exact .inl rfl
    split
    · exact .inr ⟨p, rfl, rfl⟩
    · exact .inl rfl

theorem maxRestarts_of_restartLimitOf {limit : Json} {m : ℕ}
    (h : restartLimitOf limit = some (.attempts m)) : m ≤ 10 := by
  obtain ⟨members, -, h⟩ := Option.bind_eq_some_iff.mp h
  split at h
  · cases h
  obtain ⟨kind, -, h⟩ := Option.bind_eq_some_iff.mp h
  split at h
  · obtain ⟨number, -, h⟩ := Option.bind_eq_some_iff.mp h
    split at h
    case isTrue hle =>
      obtain rfl := RestartLimit.attempts.inj (Option.some.inj h)
      exact hle
    case isFalse => cases h
  · split at h
    · exact absurd (Option.some.inj h) nofun
    · cases h
  · cases h

theorem maxRestarts_of_supervisionModeOf {block : Json} {mode : SupervisionMode} {m : ℕ}
    (h : supervisionModeOf block = some mode) (hm : restartsAllowed mode = some m) : m ≤ 10 := by
  obtain ⟨word, -, h⟩ := Option.bind_eq_some_iff.mp h
  split at h
  · split at h
    · cases h
      cases hm
      decide
    · cases h
  · obtain ⟨limit, hlimit, h⟩ := Option.bind_eq_some_iff.mp h
    cases h
    obtain ⟨json, -, hlimit⟩ := Option.bind_eq_some_iff.mp hlimit
    cases limit with
    | attempts number =>
      cases hm
      exact maxRestarts_of_restartLimitOf hlimit
    | scheduleEnd => cases hm
  · cases h

/-- The number of a block is small. -/
theorem maxRestarts_le {policy : SupervisionPolicy} {m : ℕ}
    (h : supervisionPolicy supervision = some policy) (hm : restartsAllowed policy.mode = some m) :
    m ≤ 10 := by
  obtain ⟨block, -, h⟩ := Option.bind_eq_some_iff.mp h
  obtain ⟨members, -, h⟩ := Option.bind_eq_some_iff.mp h
  split at h
  · cases h
  obtain ⟨mode, hmode, h⟩ := Option.bind_eq_some_iff.mp h
  obtain ⟨server, -, h⟩ := Option.bind_eq_some_iff.mp h
  obtain ⟨schedule, -, h⟩ := Option.bind_eq_some_iff.mp h
  split at h
  case isFalse => cases h
  cases h
  exact maxRestarts_of_supervisionModeOf hmode hm

/-- What is allowed in the end is small as well, and not more than the block
allows. -/
theorem allowed_effectivePolicy (supervision : Option Json) (elapsed now : ℕ) :
    let mode := (effectivePolicy (supervisionPolicy supervision) elapsed now).mode
    (∀ m, restartsAllowed mode = some m → m ≤ 10)
      ∧ ∀ m, blockAllows supervision = some m → ∃ k ≤ m, restartsAllowed mode = some k := by
  dsimp only
  obtain h | ⟨p, hp, h⟩ := effectivePolicy_cases (supervisionPolicy supervision) elapsed now
  · rw [h]
    refine ⟨fun m hm => ?_, fun m _ => ⟨0, Nat.zero_le m, rfl⟩⟩
    cases hm
    decide
  · rw [h]
    refine ⟨fun m hm => maxRestarts_le hp hm, fun m hm => ⟨m, le_rfl, ?_⟩⟩
    rw [blockAllows, hp] at hm
    exact hm

/-- **A process is started again** only while that is allowed, and after the
pause that was drawn or as much of it as fits. -/
theorem restartDelay_ok {policy : EffectivePolicy} {attempt restarts failures uptime now delay : ℕ}
    (h : restartDelay sha256 policy attempt restarts failures uptime runtimeInstanceId now
      = .ok delay) :
    (∀ m, restartsAllowed policy.mode = some m → restarts < m)
      ∧ ∃ deadline, policy.scheduleDeadline = some deadline ∧ finalRunway < deadline - now
        ∧ delay = min (deterministicBackoff sha256 runtimeInstanceId attempt
          (if uptime ≥ stabilityReset then 0 else failures) * millisecond)
          (deadline - now - finalRunway) := by
  unfold restartDelay at h
  cases hmode : policy.mode with
  | never =>
    rw [hmode] at h
    cases h
  | onFailure limit =>
    rw [hmode] at h
    obtain ⟨hroom, h⟩ := of_ite_error_eq_ok h
    cases hdeadline : policy.scheduleDeadline with
    | none =>
      rw [hdeadline] at h
      cases h
    | some deadline =>
      rw [hdeadline] at h
      obtain ⟨hlate, h⟩ := of_ite_error_eq_ok h
      refine ⟨fun m hm => ?_, deadline, rfl, Nat.lt_of_not_le hlate, (Except.ok.inj h).symm⟩
      cases limit with
      | attempts maxRestarts =>
        cases hm
        exact Nat.lt_of_not_le fun hle => hroom (decide_eq_true hle)
      | scheduleEnd => cases hm

/-! ### The counters -/

section Tracks

variable {s : Supervision} {t : List Event} {x : Event} {k : ℕ} {failed earlier : List ℕ}

theorem Tracks.append (h : Tracks supervision bootstrapElapsed s t k failed earlier)
    (hspawn : x.1 ≠ .spawnCustomer) (hfailed : failedAfter x = none) :
    Tracks supervision bootstrapElapsed s (t ++ [x]) k failed earlier := by
  obtain ⟨first, hfirst, hpolicy⟩ := h.policy
  refine ⟨⟨first, head_readings_append hfirst, hpolicy⟩, ?_, h.failures, ?_⟩
  · rw [uptimes_append hfailed]
    exact h.ran
  · rw [spawns_append hspawn]
    exact h.starts

/-- A process is started. -/
theorem Tracks.spawn (h : Tracks supervision bootstrapElapsed s t 0 failed earlier)
    {r : SupervisorReply} :
    Tracks supervision bootstrapElapsed s (t ++ [(.spawnCustomer, r)]) 1 failed earlier := by
  obtain ⟨first, hfirst, hpolicy⟩ := h.policy
  refine ⟨⟨first, head_readings_append hfirst, hpolicy⟩, ?_, h.failures, fun m hm => ?_⟩
  · rw [uptimes_append rfl]
    exact h.ran
  · obtain ⟨hspawns, hle⟩ := h.starts m hm
    rw [spawns_append_spawn, hspawns]
    exact ⟨rfl, hle⟩

/-- A failure is reported. -/
theorem Tracks.fail (h : Tracks supervision bootstrapElapsed s t k failed earlier)
    {failure : FailureReason} {attempt restarts uptime : ℕ} {r : SupervisorReply} :
    Tracks supervision bootstrapElapsed s
      (t ++ [(.reportAttemptFailure failure attempt restarts uptime, r)]) k (uptime :: failed)
      earlier := by
  obtain ⟨first, hfirst, hpolicy⟩ := h.policy
  refine ⟨⟨first, head_readings_append hfirst, hpolicy⟩, ?_, h.failures, ?_⟩
  · rw [uptimes_append_failure, h.ran]
  · have hother : SupervisorCall.reportAttemptFailure failure attempt restarts uptime
        ≠ .spawnCustomer := nofun
    rw [spawns_append hother]
    exact h.starts

/-- The phase does not matter. -/
theorem Tracks.phase (h : Tracks supervision bootstrapElapsed s t k failed earlier)
    (phase : SupervisorPhase) :
    Tracks supervision bootstrapElapsed { s with phase := phase } t k failed earlier :=
  ⟨h.policy, h.ran, h.failures, h.starts⟩

/-- The counters are advanced. -/
theorem Tracks.next {uptime : ℕ}
    (h : Tracks supervision bootstrapElapsed s t 1 (uptime :: earlier) earlier)
    (hroom : ∀ m, restartsAllowed s.policy.mode = some m → s.restartCount < m) :
    Tracks supervision bootstrapElapsed (s.next uptime) t 0 (uptime :: earlier)
      (uptime :: earlier) := by
  obtain ⟨first, hfirst, hpolicy⟩ := h.policy
  refine ⟨⟨first, hfirst, hpolicy⟩, h.ran, ?_, fun m hm => ?_⟩
  · show (if uptime ≥ stabilityReset then 1 else saturating32 (s.consecutiveFailures + 1))
      = saturating32 (if uptime ≥ stabilityReset then 1 else failuresSince earlier + 1)
    rw [h.failures]
    split
    · rfl
    · unfold saturating32
      omega
  · obtain ⟨hspawns, -⟩ := h.starts m hm
    have hlt : s.restartCount < m := hroom m hm
    have hsmall : m ≤ 10 := by
      refine (allowed_effectivePolicy supervision bootstrapElapsed first).1 m ?_
      rw [← hpolicy]
      exact hm
    show spawns t = saturating64 (s.restartCount + 1) + 0 ∧ saturating64 (s.restartCount + 1) ≤ m
    unfold saturating64
    omega

/-- The bound of the block holds. -/
theorem Tracks.bounded (h : Tracks supervision bootstrapElapsed s t k failed earlier)
    (hk : k ≤ 1) : ∀ m, blockAllows supervision = some m → spawns t ≤ m + 1 := by
  intro m hm
  obtain ⟨first, -, hpolicy⟩ := h.policy
  obtain ⟨n, hn, hallowed⟩ :=
    (allowed_effectivePolicy supervision bootstrapElapsed first).2 m hm
  rw [← hpolicy] at hallowed
  obtain ⟨hspawns, hle⟩ := h.starts n hallowed
  omega

end Tracks

theorem Ended.append {status : ExitStatus} {t : List Event} {x : Event} (h : Ended status t)
    (hspawn : x.1 ≠ .spawnCustomer) (hwait : x.1 ≠ .tryWait) : Ended status (t ++ [x]) := by
  obtain ⟨before, r, after, rfl, hstatus, hafter⟩ := h
  refine ⟨before, r, after ++ [x], List.append_assoc .., hstatus, fun y hy => ?_⟩
  rcases List.mem_append.mp hy with hy | hy
  · exact hafter y hy
  · rw [List.mem_singleton.mp hy]
    exact ⟨hspawn, hwait⟩

/-! ### The turns -/

section Turn

variable {s : Supervision} {before : List Event} {failed : List ℕ}

variable (supervision bootstrapElapsed hasCommand) in
/-- **From here on** a turn heeds what it should, up to its end. -/
def Proceeds (p : Program SupervisorCall SupervisorReply Supervision) (before : List Event) :
    Prop :=
  Follows (Heeds supervision bootstrapElapsed) p before
    (Between supervision bootstrapElapsed hasCommand)

/-- A call at which nothing is heeded and nothing is counted. -/
def isPlainCall : SupervisorCall → Bool
  | .spawnCustomer | .reportAttemptFailure .. | .scheduleRestart .. => false
  | _ => true

theorem proceeds_call {c : SupervisorCall} {k : ℕ} {earlier : List ℕ}
    {f : SupervisorReply → Program SupervisorCall SupervisorReply Supervision}
    (h : Tracks supervision bootstrapElapsed s before k failed earlier)
    (hc : isPlainCall c = true)
    (hf : ∀ r, Tracks supervision bootstrapElapsed s (before ++ [(c, r)]) k failed earlier →
      Proceeds supervision bootstrapElapsed hasCommand (f r) (before ++ [(c, r)])) :
    Proceeds supervision bootstrapElapsed hasCommand (perform c >>= f) before := by
  refine follows_call (fun _ => ?_) fun r => hf r (h.append ?_ ?_)
  · cases c <;> trivial
  · rintro rfl
    cases hc
  · cases c <;> first | rfl | cases hc

/-- Nothing is started once it has returned. -/
theorem proceeds_exitWith {exit : SupervisorExit} {k : ℕ} {failed earlier : List ℕ}
    (h : Tracks supervision bootstrapElapsed s before k failed earlier) (hk : k ≤ 1)
    (haccounts : Accounts hasCommand exit before) :
    Proceeds supervision bootstrapElapsed hasCommand (pure (s.exitWith exit)) before :=
  follows_pure ⟨h.bounded hk, haccounts⟩

theorem proceeds_start :
    Proceeds supervision bootstrapElapsed hasCommand (initial.start supervision bootstrapElapsed
      hasCommand) [] := by
  have hnone {t : List Event} (hspawns : spawns t = 0) :
      ∀ m, blockAllows supervision = some m → spawns t ≤ m + 1 := by
    intro m _
    omega
  unfold start
  cases hasCommand with
  | false => exact follows_pure ⟨hnone rfl, .noCommand rfl⟩
  | true =>
    refine follows_call (fun _ => trivial) fun installed => ?_
    cases hok : installed.ok with
    | false =>
      refine follows_pure ⟨hnone rfl, .broken List.mem_cons_self ?_⟩
      exact (Bool.not_eq_true' _).mpr hok
    | true =>
      refine follows_call (fun _ => trivial) fun now => follows_pure ⟨[], ?_, ?_⟩
      · exact ⟨⟨now.now, rfl, rfl⟩, rfl, rfl, fun m _ => ⟨rfl, Nat.zero_le m⟩⟩
      · exact calm_append (calm_append nofun rfl) rfl

/-- **The head of the loop**: before a process is started no signal was seen
and none has succeeded. -/
theorem proceeds_launch (h : Tracks supervision bootstrapElapsed s before 0 failed failed)
    (hcalm : Calm before) :
    Proceeds supervision bootstrapElapsed hasCommand s.launch before := by
  refine proceeds_call h rfl fun captured h₁ => ?_
  cases hsignal : captured.signal with
  | some signal => exact proceeds_exitWith h₁ (by decide) (.captured hsignal)
  | none =>
    have hquiet : stops (.takeSignal, captured) = false := by
      show captured.signal.isSome = false
      rw [hsignal]
      rfl
    refine proceeds_call h₁ rfl fun now h₂ => proceeds_call h₂ rfl fun begun h₂ => ?_
    have hcalm := calm_append (calm_append (calm_append hcalm hquiet) (x := (.now, now)) rfl)
      (x := (.beginChild, begun)) rfl
    refine follows_call (fun _ => hcalm) fun spawned => ?_
    cases hok : spawned.ok with
    | false =>
      refine follows_call (fun _ => trivial) fun ended => ?_
      exact proceeds_exitWith (h₂.spawn.append nofun rfl) (by decide) (.noChild hok)
    | true => exact follows_pure ⟨failed, h₂.spawn.phase _, fun _ => calm_append hcalm rfl⟩

/-- **The pause after a failure** is as long as it should be. -/
theorem pauseFits_of_restartDelay {uptime delay : ℕ} {now reported : SupervisorReply}
    {failure : FailureReason}
    (h : Tracks supervision bootstrapElapsed s before 1 failed failed)
    (hdelay : restartDelay sha256 s.policy s.processAttempt s.restartCount s.consecutiveFailures
      uptime runtimeInstanceId now.now = .ok delay) :
    PauseFits supervision bootstrapElapsed (before ++ [(.now, now)]
      ++ [(.reportAttemptFailure failure s.processAttempt s.restartCount uptime, reported)])
      delay := by
  obtain ⟨-, deadline, hdeadline, hrunway, rfl⟩ := restartDelay_ok hdelay
  obtain ⟨first, hfirst, hpolicy⟩ := h.policy
  obtain hnever | ⟨p, hp, heffective⟩ :=
    effectivePolicy_cases (supervisionPolicy supervision) bootstrapElapsed first
  · rw [hpolicy, hnever] at hdeadline
    cases hdeadline
  rw [hpolicy, heffective] at hdeadline
  cases hdeadline
  refine ⟨p, first, now.now, hp, head_readings_append (head_readings_append hfirst), ?_, ?_⟩
  · rw [readings_append rfl, readings_append_now, List.getLast?_concat]
  -- The counter is the index of the failure, as far as it can count.
  have hindex : (if uptime ≥ stabilityReset then 0 else s.consecutiveFailures)
      = saturating32 (failureIndex (uptime :: failed)) := by
    show _ = saturating32 (if uptime ≥ stabilityReset then 0 else failuresSince failed)
    rw [h.failures]
    split
    · rfl
    · rfl
  rw [uptimes_append_failure, uptimes_append rfl, h.ran, hindex]
  obtain ⟨hhalf, hfull⟩ := backoff_bounds sha256 runtimeInstanceId s.processAttempt
    (failureIndex (uptime :: failed))
  dsimp only
  omega

theorem proceeds_afterFailure {status : ExitStatus} {uptime : ℕ}
    (h : Tracks supervision bootstrapElapsed s before 1 failed failed) (hcalm : Calm before)
    (hended : Ended status before) :
    Proceeds supervision bootstrapElapsed hasCommand (s.afterFailure sha256 runtimeInstanceId
      status uptime) before := by
  refine proceeds_call h rfl fun now h₁ => ?_
  dsimp only
  cases hdelay : restartDelay sha256 s.policy s.processAttempt s.restartCount s.consecutiveFailures
    uptime runtimeInstanceId now.now with
  | error disposition =>
    refine proceeds_call h₁ rfl fun reported h₂ => ?_
    have hended := hended.append (x := (.now, now)) nofun nofun
    exact proceeds_exitWith h₂ le_rfl (.child (hended.append nofun nofun))
  | ok delay =>
    refine follows_call (fun _ => trivial) fun reported => ?_
    refine follows_call (fun _ => pauseFits_of_restartDelay h hdelay) fun scheduled => ?_
    refine follows_call (fun _ => trivial) fun later => follows_pure ⟨failed, ?_, ?_, ?_⟩
    · have hschedule : SupervisorCall.scheduleRestart status.failure s.processAttempt delay
          ≠ .spawnCustomer := nofun
      exact ((h₁.fail.append hschedule rfl).append (x := (.now, later)) nofun rfl).phase _
    · exact calm_append (calm_append (calm_append (calm_append hcalm rfl) rfl) rfl) rfl
    · exact (restartDelay_ok hdelay).1

variable {startedAt : ℕ} {forwarded : Option (ℤ × ℕ)} {forced : Bool}

/-- A process has ended: it may be started again only if it was not sent a
signal and has failed. -/
theorem proceeds_afterChild {status : ExitStatus} {forwarded : Bool}
    (h : Tracks supervision bootstrapElapsed s before 1 failed failed)
    (hcalm : forwarded = false → status.code ≠ some 0 → Calm before)
    (hended : Ended status before) :
    Proceeds supervision bootstrapElapsed hasCommand (s.afterChild sha256 runtimeInstanceId
      startedAt forwarded status) before := by
  refine proceeds_call h rfl fun now h₁ => proceeds_call h₁ rfl fun reaped h₁ => ?_
  refine proceeds_call h₁ rfl fun childEnded h₁ => ?_
  have hended := ((hended.append (x := (.now, now)) nofun nofun).append
    (x := (.terminateAndReapGroup, reaped)) nofun nofun).append (x := (.endChild, childEnded))
    nofun nofun
  cases hok : reaped.ok with
  | false =>
    refine proceeds_exitWith h₁ le_rfl (.broken (x := (.terminateAndReapGroup, reaped)) ?_ ?_)
    · exact List.mem_append_left _ (List.mem_append_right _ List.mem_cons_self)
    · exact (Bool.not_eq_true' _).mpr hok
  | true =>
    show Follows _ (if forwarded ∨ status.code = some 0 then _ else _) _ _
    split
    · exact proceeds_exitWith h₁ le_rfl (.child hended)
    next hagain =>
      rw [not_or, Bool.not_eq_true] at hagain
      have hcalm := hcalm hagain.1 hagain.2
      exact proceeds_afterFailure h₁ (calm_append (calm_append (calm_append hcalm rfl) rfl) rfl)
        hended

theorem proceeds_abandon (h : Tracks supervision bootstrapElapsed s before 1 failed failed)
    {x : Event} (hx : x ∈ before) (hbroken : broken x = true) :
    Proceeds supervision bootstrapElapsed hasCommand s.abandon before := by
  refine proceeds_call h rfl fun reaped h₁ => proceeds_call h₁ rfl fun ended h₁ => ?_
  exact proceeds_exitWith h₁ le_rfl
    (.broken (List.mem_append_left _ (List.mem_append_left _ hx)) hbroken)

theorem proceeds_look (h : Tracks supervision bootstrapElapsed s before 1 failed failed)
    (hcalm : forwarded = none → Calm before) :
    Proceeds supervision bootstrapElapsed hasCommand (s.look sha256 runtimeInstanceId startedAt
      forwarded forced) before := by
  refine proceeds_call h rfl fun waited h₁ => ?_
  cases hstatus : waited.status with
  | error u =>
    refine proceeds_abandon h₁ (x := (.tryWait, waited)) ?_ ?_
    · exact List.mem_append_right _ List.mem_cons_self
    · show (match waited.status with | .error () => true | .ok _ => false) = true
      rw [hstatus]
  | ok ended =>
    have hquiet (hfailed : ∀ status, ended = some status → status.code ≠ some 0) :
        stops (.tryWait, waited) = false := by
      show (match waited.status with
        | .ok (some status) => decide (status.code = some 0)
        | _ => false) = false
      rw [hstatus]
      cases ended with
      | none => rfl
      | some status => exact decide_eq_false (hfailed status rfl)
    cases ended with
    | none =>
      exact follows_pure ⟨failed, h₁.phase _, fun hforwarded =>
        calm_append (hcalm hforwarded) (hquiet nofun)⟩
    | some status =>
      refine proceeds_afterChild h₁ (fun hforwarded hfailed => ?_) ?_
      · have hnone : forwarded = none :=
          Option.isNone_iff_eq_none.mp (Option.isSome_eq_false_iff.mp hforwarded)
        refine calm_append (hcalm hnone) (hquiet ?_)
        rintro _ ⟨⟩
        exact hfailed
      · exact ⟨before, waited, [], rfl, hstatus, nofun⟩

theorem proceeds_pressOn (h : Tracks supervision bootstrapElapsed s before 1 failed failed)
    (hcalm : forwarded = none → Calm before) :
    Proceeds supervision bootstrapElapsed hasCommand (s.pressOn sha256 runtimeInstanceId startedAt
      forwarded forced) before := by
  cases forwarded with
  | none => exact proceeds_look h hcalm
  | some sent =>
    cases forced with
    | true => exact proceeds_look h hcalm
    | false =>
      refine proceeds_call h rfl fun now h₁ => ?_
      show Follows _ (if now.now - sent.2 ≥ forwardedSignalGrace then _ else _) _ _
      split
      · exact proceeds_call h₁ rfl fun killed h₂ => proceeds_look h₂ nofun
      · exact proceeds_look h₁ nofun

theorem proceeds_poll (h : Tracks supervision bootstrapElapsed s before 1 failed failed)
    (hcalm : forwarded = none → Calm before) :
    Proceeds supervision bootstrapElapsed hasCommand (s.poll sha256 runtimeInstanceId startedAt
      forwarded forced) before := by
  refine proceeds_call h rfl fun captured h₁ => ?_
  cases forwarded with
  | some sent =>
    cases hsignal : captured.signal with
    | none | some signal => exact proceeds_pressOn h₁ nofun
  | none =>
    cases hsignal : captured.signal with
    | none =>
      refine proceeds_pressOn h₁ fun _ => calm_append (hcalm rfl) ?_
      show captured.signal.isSome = false
      rw [hsignal]
      rfl
    | some signal =>
      refine proceeds_call h₁ rfl fun sent h₂ => ?_
      cases hok : sent.ok with
      | false =>
        refine proceeds_abandon h₂ (x := (.signalProcessGroup signal, sent)) ?_ ?_
        · exact List.mem_append_right _ List.mem_cons_self
        · exact (Bool.not_eq_true' _).mpr hok
      | true =>
        exact proceeds_call h₂ rfl fun now h₃ => proceeds_pressOn h₃ nofun

theorem proceeds_pause {deadline uptime : ℕ} (hphase : s.phase = .pausing deadline uptime)
    (h : Tracks supervision bootstrapElapsed s before 1 (uptime :: failed) failed)
    (hcalm : Calm before)
    (hroom : ∀ m, restartsAllowed s.policy.mode = some m → s.restartCount < m) :
    Proceeds supervision bootstrapElapsed hasCommand (s.pause deadline uptime) before := by
  refine proceeds_call h rfl fun now h₁ => ?_
  have hcalm := calm_append hcalm (x := (.now, now)) rfl
  show Follows _ (if now.now < deadline then _ else _) _ _
  split
  · refine proceeds_call h₁ rfl fun captured h₂ => ?_
    cases hsignal : captured.signal with
    | some signal => exact proceeds_exitWith h₂ le_rfl (.captured hsignal)
    | none =>
      refine follows_pure ?_
      unfold Between
      rw [hphase]
      refine ⟨failed, h₂, calm_append hcalm ?_, hroom⟩
      show captured.signal.isSome = false
      rw [hsignal]
      rfl
  · exact follows_pure ⟨uptime :: failed, h₁.next hroom, hcalm⟩

/-- **One turn keeps what holds between two turns.** -/
theorem proceeds_turn (h : Between supervision bootstrapElapsed hasCommand s before) :
    Proceeds supervision bootstrapElapsed hasCommand (s.turn sha256 supervision bootstrapElapsed
      runtimeInstanceId hasCommand) before := by
  unfold Between at h
  unfold turn
  cases hphase : s.phase with
  | starting =>
    rw [hphase] at h
    obtain ⟨rfl, rfl⟩ := h
    exact proceeds_start
  | head =>
    rw [hphase] at h
    obtain ⟨failed, htracks, hcalm⟩ := h
    exact proceeds_launch htracks hcalm
  | running startedAt forwarded forced =>
    rw [hphase] at h
    obtain ⟨failed, htracks, hcalm⟩ := h
    exact proceeds_poll htracks hcalm
  | pausing deadline uptime =>
    rw [hphase] at h
    obtain ⟨failed, htracks, hcalm, hroom⟩ := h
    exact proceeds_pause hphase htracks hcalm hroom
  | returned exit =>
    refine follows_pure ?_
    unfold Between
    rw [hphase] at h ⊢
    exact h

end Turn

/-- The bound of the block holds between two turns. -/
theorem bounded_of_between {s : Supervision} {t : List Event}
    (h : Between supervision bootstrapElapsed hasCommand s t) :
    ∀ m, blockAllows supervision = some m → spawns t ≤ m + 1 := by
  unfold Between at h
  cases hphase : s.phase with
  | starting =>
    rw [hphase] at h
    intro m _
    rw [h.1]
    exact Nat.zero_le _
  | head =>
    rw [hphase] at h
    obtain ⟨failed, htracks, -⟩ := h
    exact htracks.bounded (by decide)
  | running startedAt forwarded forced =>
    rw [hphase] at h
    obtain ⟨failed, htracks, -⟩ := h
    exact htracks.bounded le_rfl
  | pausing deadline uptime =>
    rw [hphase] at h
    obtain ⟨failed, htracks, -⟩ := h
    exact htracks.bounded le_rfl
  | returned exit =>
    rw [hphase] at h
    exact h.1

end Runs

end Supervision

/-! ## Whole runs -/

section Bounded

open Supervision

variable (sha256 : List UInt8 → Digest) (supervision : Option Json) (bootstrapElapsed : ℕ)
  (runtimeInstanceId : String) (hasCommand : Bool)

/-- **The supervisor keeps to its limits**, whatever it is told. A process is
started once more than the block allows to start it again, at most, and not
after one that has succeeded or after a signal was seen or forwarded; each
pause is as long as it should be; and what is returned stands for the end of
the last process, for the signal, or for a failure to start or to control a
process. -/
theorem supervisor_bounded {s : Supervision} {t : List Event}
    (h : Turns (Supervision.turn sha256 supervision bootstrapElapsed runtimeInstanceId hasCommand)
      initial t s) :
    (∀ m, blockAllows supervision = some m → spawns t ≤ m + 1)
      ∧ (∀ before x after, t = before ++ x :: after → stops x = true →
        ∀ y ∈ after, y.1 ≠ .spawnCustomer)
      ∧ (∀ before failure attempt delay r after,
        t = before ++ (.scheduleRestart failure attempt delay, r) :: after →
          PauseFits supervision bootstrapElapsed before delay)
      ∧ ∀ exit, s.phase = .returned exit → Accounts hasCommand exit t := by
  obtain ⟨halong, hbetween⟩ := h.follows
    (fun s before (hs : Between supervision bootstrapElapsed hasCommand s before) =>
      proceeds_turn hs) ⟨rfl, rfl⟩
  refine ⟨bounded_of_between hbetween, ?_, ?_, ?_⟩
  · rintro before x after rfl hstops y hy hspawn
    obtain ⟨mid, rest, rfl⟩ := List.append_of_mem hy
    have hcalm : Calm (before ++ x :: mid) := by
      have hat : Along (Heeds supervision bootstrapElapsed) [] ((before ++ x :: mid) ++ y :: rest) := by
        rw [List.append_assoc]
        exact halong
      have hheeds := hat.at
      unfold Heeds at hheeds
      rw [hspawn] at hheeds
      exact hheeds
    have hquiet := hcalm x (List.mem_append_right _ List.mem_cons_self)
    rw [hstops] at hquiet
    cases hquiet
  · rintro before failure attempt delay r after rfl
    exact halong.at
  · intro exit hphase
    unfold Between at hbetween
    rw [hphase] at hbetween
    exact hbetween.2

end Bounded

namespace SupervisorSample

open Supervision

/-- One restart is allowed, and the schedule ends after a hundred seconds. -/
def block : Json :=
  .obj [("mode", .str "on_failure"),
    ("restartLimit", .obj [("kind", .str "attempts"), ("maxRestarts", .num 1)]),
    ("serverTimeMs", .num 0), ("scheduleEndMs", .num 100000)]

def zeroHash : List UInt8 → Digest := fun _ => Vector.replicate 32 0

/-- The turns with the block. -/
def turn : Supervision → Program SupervisorCall SupervisorReply Supervision :=
  Supervision.turn zeroHash (some block) 0 "instance" true

/-- The replies until the first process is running. -/
def launched : List SupervisorReply := [.captured none, .instant 0, .done, .flag true]

/-- A process has exited with a code; its group is gone or not. -/
def exited (code : ℤ) (reaped : Bool) : List SupervisorReply :=
  [.captured none, .waited (.ok (some ⟨some code, none⟩)), .instant second, .flag reaped, .done]

/-- What is left after some restarts. -/
def returned (restarts : ℕ) (code : ℤ) : Supervision :=
  ⟨⟨.onFailure (.attempts 1), some (100 * second)⟩, restarts, restarts, restarts,
    .returned (.code code)⟩

/-- A process fails, is started again after half a second, and succeeds. -/
def replies : List (List SupervisorReply) :=
  [[.flag true, .instant 0], launched,
    exited 3 true ++ [.instant second, .done, .done, .instant second],
    [.instant (2 * second)], launched, exited 0 true]

/-- What is done until the pause. -/
def beforePause : List Event :=
  [(.installProcessAuthority, .flag true), (.now, .instant 0), (.takeSignal, .captured none),
    (.now, .instant 0), (.beginChild, .done), (.spawnCustomer, .flag true),
    (.takeSignal, .captured none), (.tryWait, .waited (.ok (some ⟨some 3, none⟩))),
    (.now, .instant second), (.terminateAndReapGroup, .flag true), (.endChild, .done),
    (.now, .instant second), (.reportAttemptFailure (.exitNonzero 3) 0 0 second, .done)]

/-- What is done after it. -/
def afterPause : List Event :=
  [(.now, .instant second), (.now, .instant (2 * second)), (.takeSignal, .captured none),
    (.now, .instant 0), (.beginChild, .done), (.spawnCustomer, .flag true),
    (.takeSignal, .captured none), (.tryWait, .waited (.ok (some ⟨some 0, none⟩))),
    (.now, .instant second), (.terminateAndReapGroup, .flag true), (.endChild, .done)]

/-- The whole run. -/
def restarted : List Event :=
  beforePause ++ (.scheduleRestart (.exitNonzero 3) 0 (second / 2), .done) :: afterPause

/-- A process succeeds, but another one of its group does not go away. -/
def stuckReplies : List (List SupervisorReply) :=
  [[.flag true, .instant 0], launched, exited 0 false]

def stuck : List Event :=
  [(.installProcessAuthority, .flag true), (.now, .instant 0), (.takeSignal, .captured none),
    (.now, .instant 0), (.beginChild, .done), (.spawnCustomer, .flag true),
    (.takeSignal, .captured none), (.tryWait, .waited (.ok (some ⟨some 0, none⟩))),
    (.now, .instant second), (.terminateAndReapGroup, .flag false), (.endChild, .done)]

end SupervisorSample

section Sample

open Supervision SupervisorSample

/-- A run in which a process is started twice, as often as it may be. -/
theorem restarted_once_within_bounds :
    blockAllows (some block) = some 1 ∧ ∃ s, Turns turn initial restarted s
      ∧ s.phase = .returned (.code 0) ∧ spawns restarted = 2 ∧ spawns restarted ≤ 1 + 1
      ∧ PauseFits (some block) 0 beforePause (second / 2) ∧ Accounts true (.code 0) restarted := by
  have hallows : blockAllows (some block) = some 1 := by decide
  have hfeed : Program.feedTurns turn initial replies = some (restarted, returned 1 0) := by
    decide +kernel
  have hturns := Turns.feed .start hfeed
  obtain ⟨hspawns, -, hpauses, haccounts⟩ := supervisor_bounded _ _ _ _ _ hturns
  exact ⟨hallows, _, hturns, rfl, by decide, hspawns 1 hallows, hpauses _ _ _ _ _ _ rfl,
    haccounts _ rfl⟩

/-- **What is returned need not be the end of the last process or a signal**:
a process has succeeded and no signal was seen, but its group could not be
ended. -/
theorem stuck_group_is_internal_failure :
    ∃ t s, Turns turn initial t s ∧ s.phase = .returned (.code 70) ∧ Ended ⟨some 0, none⟩ t
      ∧ ∀ x ∈ t, x.1 = .takeSignal → x.2.signal = none := by
  have hfeed : Program.feedTurns turn initial stuckReplies = some (stuck, returned 0 70) := by
    decide
  refine ⟨stuck, _, Turns.feed .start hfeed, rfl, ?_, by decide⟩
  exact ⟨stuck.take 7, .waited (.ok (some ⟨some 0, none⟩)), stuck.drop 8, rfl, rfl, by decide⟩

end Sample
