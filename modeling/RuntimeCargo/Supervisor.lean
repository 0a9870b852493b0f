import RuntimeCargo.Json
import RuntimeCargo.Trace
import RuntimeCargo.Wire
import RuntimeCargo.Encoding

/-!
# Supervising the customer's process

The runtime starts the process of the customer, waits for it, and may start
it again if it fails. Whether it may is decided by a block of the bootstrap
that says how often and until when (`supervisionPolicy`); a block that is
missing or not as it should be means never.

Between a failure and the next start there is a pause that doubles with
each failure and is drawn between one half and all of that
(`deterministicBackoff`), and that is cut short so that the process is not
started in the last seconds of the schedule (`restartDelay`). A run of five
minutes makes the doubling start again.

The supervisor is a loop with two loops inside. A state (`Supervision`) is
where it stands between two turns, and `Supervision.turn` is one turn: the
head of the outer loop up to the start of a process, one look at the
process, or one look at the clock in a pause. All that it learns from
outside – signals, the clock, the process – is a reply to a call.

Times are in nanoseconds. The reports of the health of the process, which
change nothing, are left out.
-/

open Program (perform)

/-! ## The policy -/

inductive RestartLimit where
  | attempts (maxRestarts : ℕ)
  | scheduleEnd
deriving DecidableEq

inductive SupervisionMode where
  | never
  | onFailure (restartLimit : RestartLimit)
deriving DecidableEq

structure SupervisionPolicy where
  mode : SupervisionMode
  serverTimeMs : ℕ
  scheduleEndMs : ℕ

/-- The members of an object are among some. -/
def hasOnly (keys : List String) (members : List (String × Json)) : Bool :=
  members.all fun m => keys.contains m.1

/-- A member is missing or null. -/
def isUnset (value : Option Json) : Bool := value.all fun v => v = .null

/-- The limit of a block with the mode `on_failure`. -/
def restartLimitOf (limit : Json) : Option RestartLimit := do
  let members ← limit.asObject
  if !hasOnly ["kind", "maxRestarts"] members then none
  else match ← (limit.get? "kind").bind Json.asStr with
  | "attempts" =>
    let maxRestarts ← (limit.get? "maxRestarts").bind Json.asU64
    if maxRestarts ≤ 10 then some (.attempts maxRestarts) else none
  | "schedule_end" => if isUnset (limit.get? "maxRestarts") then some .scheduleEnd else none
  | _ => none

/-- The mode of a block. -/
def supervisionModeOf (block : Json) : Option SupervisionMode := do
  match ← (block.get? "mode").bind Json.asStr with
  | "never" => if isUnset (block.get? "restartLimit") then some .never else none
  | "on_failure" => return .onFailure (← (block.get? "restartLimit").bind restartLimitOf)
  | _ => none

/-- `supervision_policy`: the block of the bootstrap, if there is one and it
is as it should be. -/
def supervisionPolicy (supervision : Option Json) : Option SupervisionPolicy := do
  let block ← supervision
  let members ← block.asObject
  if !hasOnly ["mode", "restartLimit", "serverTimeMs", "scheduleEndMs"] members then none
  else
    let mode ← supervisionModeOf block
    let serverTimeMs ← (block.get? "serverTimeMs").bind Json.asU64
    let scheduleEndMs ← (block.get? "scheduleEndMs").bind Json.asU64
    if scheduleEndMs > serverTimeMs then some ⟨mode, serverTimeMs, scheduleEndMs⟩ else none

/-- A millisecond. -/
def millisecond : ℕ := 10 ^ 6

/-- A second. -/
def second : ℕ := 10 ^ 9

/-- `STABILITY_RESET`. -/
def stabilityReset : ℕ := 300 * second

/-- `FINAL_RUNWAY`. -/
def finalRunway : ℕ := 5 * second

/-- `FORWARDED_SIGNAL_GRACE`. -/
def forwardedSignalGrace : ℕ := 5 * second

/-- The last instant there is: seconds are counted with 64 signed bits. -/
def instantMax : ℕ := 2 ^ 63 * second - 1

structure EffectivePolicy where
  mode : SupervisionMode
  scheduleDeadline : Option ℕ
deriving DecidableEq

/-- `effective_policy`: the end of the schedule on the own clock. The time
since the server has read its clock is taken off. -/
def effectivePolicy (policy : Option SupervisionPolicy) (bootstrapElapsed now : ℕ) :
    EffectivePolicy :=
  match policy with
  | none => ⟨.never, none⟩
  | some policy =>
    if policy.scheduleEndMs < policy.serverTimeMs then ⟨.never, none⟩
    else
      let remaining :=
        (policy.scheduleEndMs - policy.serverTimeMs) * millisecond - bootstrapElapsed
      if now + remaining ≤ instantMax then ⟨policy.mode, some (now + remaining)⟩
      else ⟨.never, none⟩

/-! ## The pause -/

/-- The number with some bytes, the highest first. -/
def natOfBytes (bytes : List UInt8) : ℕ := bytes.foldl (fun n b => 256 * n + b.toNat) 0

section Backoff

variable (sha256 : List UInt8 → Digest)

/-- `deterministic_backoff`, in milliseconds. -/
def deterministicBackoff (runtimeInstanceId : String) (processAttempt consecutiveFailure : ℕ) : ℕ :=
  let exponent := min consecutiveFailure 6
  let ceilingMs := min (1000 * 2 ^ exponent) 60000
  let floorMs := ceilingMs / 2
  let digest := sha256 (utf8 "runtime-cargo-backoff.v1\x00" ++ utf8 runtimeInstanceId
    ++ [0] ++ beBytes 8 processAttempt)
  floorMs + natOfBytes (digest.toList.take 8) % (ceilingMs - floorMs + 1)

/-- Why a process is not started again. -/
inductive RestartDisposition where
  | policyNever
  | attemptLimitReached
  | scheduleEndReached
deriving DecidableEq

/-- `restart_delay`. -/
def restartDelay (policy : EffectivePolicy) (processAttempt restartCount consecutiveFailures
    uptime : ℕ) (runtimeInstanceId : String) (now : ℕ) : Except RestartDisposition ℕ :=
  match policy.mode with
  | .never => .error .policyNever
  | .onFailure limit =>
    let exhausted := match limit with
      | .attempts maxRestarts => decide (restartCount ≥ maxRestarts)
      | .scheduleEnd => false
    if exhausted then .error .attemptLimitReached
    else match policy.scheduleDeadline with
    | none => .error .scheduleEndReached
    | some deadline =>
      let remaining := deadline - now
      if remaining ≤ finalRunway then .error .scheduleEndReached
      else
        let failureIndex := if uptime ≥ stabilityReset then 0 else consecutiveFailures
        let normal := deterministicBackoff sha256 runtimeInstanceId processAttempt failureIndex
          * millisecond
        .ok (min normal (remaining - finalRunway))

end Backoff

/-! ## The loop -/

/-- What is known of a process that has ended. -/
structure ExitStatus where
  code : Option ℤ
  signal : Option ℤ
deriving DecidableEq

inductive SupervisorExit where
  | code (code : ℤ)
  | signal (signal : ℤ)
deriving DecidableEq

/-- `SIGKILL`. -/
def sigkill : ℤ := 9

/-- The exit that stands for the end of a process. -/
def ExitStatus.exit (status : ExitStatus) : SupervisorExit :=
  match status.code with
  | some code => .code code
  | none => .signal (status.signal.getD sigkill)

inductive FailureReason where
  | exitNonzero (code : ℤ)
  | signalUnexpected (signal : ℤ)
deriving DecidableEq

/-- The failure that the end of a process is, unless it is a success. -/
def ExitStatus.failure (status : ExitStatus) : FailureReason :=
  match status.code with
  | some code => .exitNonzero code
  | none => .signalUnexpected (status.signal.getD sigkill)

/-- What the supervisor asks for. -/
inductive SupervisorCall where
  | installProcessAuthority
  | takeSignal
  | now
  | beginChild
  | endChild
  | spawnCustomer
  | signalProcessGroup (signal : ℤ)
  | tryWait
  | terminateAndReapGroup
  | reportAttemptFailure (failure : FailureReason) (processAttempt restartCount uptime : ℕ)
  | scheduleRestart (failure : FailureReason) (processAttempt delay : ℕ)
  | reportFinalFailure (failure : FailureReason) (disposition : RestartDisposition)
      (processAttempt restartCount uptime : ℕ)
deriving DecidableEq

/-- What it is told. -/
inductive SupervisorReply where
  | flag (ok : Bool)
  | captured (signal : Option ℤ)
  | instant (now : ℕ)
  | waited (status : Except Unit (Option ExitStatus))
  | done
deriving DecidableEq

namespace SupervisorReply

/-- Whether it could be done. -/
def ok : SupervisorReply → Bool
  | flag b => b
  | _ => false

/-- The reply to `take_signal`. -/
def signal : SupervisorReply → Option ℤ
  | captured signal => signal
  | _ => none

/-- The reply to `Instant::now`. -/
def now : SupervisorReply → ℕ
  | instant now => now
  | _ => 0

/-- The reply to `try_wait`. -/
def status : SupervisorReply → Except Unit (Option ExitStatus)
  | waited status => status
  | _ => .error ()

end SupervisorReply

/-- Where the supervisor is between two turns. -/
inductive SupervisorPhase where
  /-- Nothing was done. -/
  | starting
  /-- The head of the loop. -/
  | head
  /-- A process is running; a signal may have been forwarded to it. -/
  | running (startedAt : ℕ) (forwardedSignal : Option (ℤ × ℕ)) (forcedCleanup : Bool)
  /-- The pause after a process that has run for some time. -/
  | pausing (deadline uptime : ℕ)
  | returned (exit : SupervisorExit)
deriving DecidableEq

structure Supervision where
  policy : EffectivePolicy
  processAttempt : ℕ
  restartCount : ℕ
  consecutiveFailures : ℕ
  phase : SupervisorPhase
deriving DecidableEq

/-- `u64::MAX` is not exceeded. -/
def saturating64 (n : ℕ) : ℕ := min n (2 ^ 64 - 1)

/-- `u32::MAX` is not exceeded. -/
def saturating32 (n : ℕ) : ℕ := min n (2 ^ 32 - 1)

namespace Supervision

variable (sha256 : List UInt8 → Digest) (supervision : Option Json) (bootstrapElapsed : ℕ)
  (runtimeInstanceId : String) (hasCommand : Bool)

/-- Before anything was done. -/
def initial : Supervision := ⟨⟨.never, none⟩, 0, 0, 0, .starting⟩

/-- The supervisor returns. -/
def exitWith (s : Supervision) (exit : SupervisorExit) : Supervision :=
  { s with phase := .returned exit }

/-- Before the loop: there has to be a command, and the policy is worked out
once. -/
def start (s : Supervision) : Program SupervisorCall SupervisorReply Supervision := do
  if !hasCommand then return s.exitWith (.code 126)
  else if !(← perform .installProcessAuthority).ok then return s.exitWith (.code 70)
  else
    let now := (← perform .now).now
    return { s with
      policy := effectivePolicy (supervisionPolicy supervision) bootstrapElapsed now
      phase := .head }

/-- The head of the loop: a process is started unless a signal is there. -/
def launch (s : Supervision) : Program SupervisorCall SupervisorReply Supervision := do
  match (← perform .takeSignal).signal with
  | some signal => return s.exitWith (.signal signal)
  | none =>
    let startedAt := (← perform .now).now
    let _ ← perform .beginChild
    if !(← perform .spawnCustomer).ok then
      let _ ← perform .endChild
      return s.exitWith (.code 126)
    else return { s with phase := .running startedAt none false }

/-- A process has failed: it is started again after a pause, or not. -/
def afterFailure (s : Supervision) (status : ExitStatus) (uptime : ℕ) :
    Program SupervisorCall SupervisorReply Supervision := do
  let now := (← perform .now).now
  match restartDelay sha256 s.policy s.processAttempt s.restartCount s.consecutiveFailures uptime
    runtimeInstanceId now with
  | .error disposition =>
    let _ ← perform (.reportFinalFailure status.failure disposition s.processAttempt s.restartCount
      uptime)
    return s.exitWith status.exit
  | .ok delay =>
    let _ ← perform (.reportAttemptFailure status.failure s.processAttempt s.restartCount uptime)
    let _ ← perform (.scheduleRestart status.failure s.processAttempt delay)
    let now := (← perform .now).now
    return { s with phase := .pausing (now + delay) uptime }

/-- A process has ended. -/
def afterChild (s : Supervision) (startedAt : ℕ) (forwarded : Bool) (status : ExitStatus) :
    Program SupervisorCall SupervisorReply Supervision := do
  let uptime := (← perform .now).now - startedAt
  let cleanupComplete := (← perform .terminateAndReapGroup).ok
  let _ ← perform .endChild
  if !cleanupComplete then return s.exitWith (.code 70)
  else if forwarded ∨ status.code = some 0 then return s.exitWith status.exit
  else s.afterFailure sha256 runtimeInstanceId status uptime

/-- After something has gone wrong with a process that is still there. -/
def abandon (s : Supervision) : Program SupervisorCall SupervisorReply Supervision := do
  let _ ← perform .terminateAndReapGroup
  let _ ← perform .endChild
  return s.exitWith (.code 70)

/-- The process is looked at. -/
def look (s : Supervision) (startedAt : ℕ) (forwarded : Option (ℤ × ℕ)) (forced : Bool) :
    Program SupervisorCall SupervisorReply Supervision := do
  match (← perform .tryWait).status with
  | .error () => s.abandon
  | .ok (some status) => s.afterChild sha256 runtimeInstanceId startedAt forwarded.isSome status
  | .ok none => return { s with phase := .running startedAt forwarded forced }

/-- A process that was sent a signal and has not ended is killed after some
time. -/
def pressOn (s : Supervision) (startedAt : ℕ) (forwarded : Option (ℤ × ℕ)) (forced : Bool) :
    Program SupervisorCall SupervisorReply Supervision :=
  match forwarded, forced with
  | some (signal, forwardedAt), false => do
    if (← perform .now).now - forwardedAt ≥ forwardedSignalGrace then
      let _ ← perform (.signalProcessGroup sigkill)
      s.look sha256 runtimeInstanceId startedAt (some (signal, forwardedAt)) true
    else s.look sha256 runtimeInstanceId startedAt (some (signal, forwardedAt)) false
  | _, _ => s.look sha256 runtimeInstanceId startedAt forwarded forced

/-- One turn while a process is running: the first signal is forwarded to
it. -/
def poll (s : Supervision) (startedAt : ℕ) (forwarded : Option (ℤ × ℕ)) (forced : Bool) :
    Program SupervisorCall SupervisorReply Supervision := do
  match (← perform .takeSignal).signal, forwarded with
  | some signal, none =>
    if !(← perform (.signalProcessGroup signal)).ok then s.abandon
    else
      let forwardedAt := (← perform .now).now
      s.pressOn sha256 runtimeInstanceId startedAt (some (signal, forwardedAt)) forced
  | _, _ => s.pressOn sha256 runtimeInstanceId startedAt forwarded forced

/-- The counters for the next process. -/
def next (s : Supervision) (uptime : ℕ) : Supervision :=
  { s with
    consecutiveFailures :=
      if uptime ≥ stabilityReset then 1 else saturating32 (s.consecutiveFailures + 1)
    processAttempt := saturating64 (s.processAttempt + 1)
    restartCount := saturating64 (s.restartCount + 1)
    phase := .head }

/-- One turn of a pause. -/
def pause (s : Supervision) (deadline uptime : ℕ) :
    Program SupervisorCall SupervisorReply Supervision := do
  if (← perform .now).now < deadline then
    match (← perform .takeSignal).signal with
    | some signal => return s.exitWith (.signal signal)
    | none => return s
  else return s.next uptime

/-- **One turn of `supervise_with_reporter_and_environment`.** Once it has
returned nothing more is done. -/
def turn (s : Supervision) : Program SupervisorCall SupervisorReply Supervision :=
  match s.phase with
  | .starting => s.start supervision bootstrapElapsed hasCommand
  | .head => s.launch
  | .running startedAt forwarded forced =>
    s.poll sha256 runtimeInstanceId startedAt forwarded forced
  | .pausing deadline uptime => s.pause deadline uptime
  | .returned _ => return s

end Supervision
