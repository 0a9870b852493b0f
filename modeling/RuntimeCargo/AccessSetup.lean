import RuntimeCargo.JobIdentity
import RuntimeCargo.Lockbox
import RuntimeCargo.Raising

/-!
# Setting up access

A deployment may carry access for its operators: a Tailscale daemon is
fetched, unpacked into a private directory, started, and joined to a tailnet
with a key that can be used once. Fetching and unpacking are tried up to three
times, and so is all that follows the download, with a longer pause. An error
is known by its code, and the code alone decides whether there is another
attempt.

Every leg has a budget. A command is polled until it is gone or its time is
up, and then killed; the daemon is asked again and again whether it is ready.
None of these loops is bounded by anything but the clock, so each is given a
number of turns here, and a setup that has not come to its end within them is
`running`: it has not failed, and nothing follows it.

The log lines of the legs are left out. Reporting does not change what a leg
returns, except that a logger has the tunnel's status asked for once more
after a failed login.
-/

open Program

/-! ## Codes -/

/-- The codes of `AccessError` on this path. -/
inductive AccessCode where
  | setupFailed | setupPanicked | setupTimeout | bindingInvalid | deadlineExceeded
  | downloadFailed | workspaceFailed | extractOpen | extractRead | extractLayout
  | extractOversize | extractMissing | extractFailed | sidecarExecDenied | sidecarExecMissing
  | sidecarSpawnFailed | threadSpawnFailed | sidecarFailed | sidecarStartTimeout
  | sidecarSyscallBlocked | sidecarCrashed | sidecarSignaled | sidecarShutdownSignal
  | sidecarEngineClosed | sidecarStateDirectoryFailed | sidecarRequiresRoot
  | sidecarNetworkMonitorFailed | sidecarSocketFailed | sidecarBackendFailed
  | sidecarIpnServerFailed | sidecarNetstackFailed | sidecarStateRequired
  | sidecarExitedCleanly | sidecarExited | upFailed | statusInvalid | statusUnexpected
  | cleanupFailed
deriving DecidableEq

/-- The code as it is reported. -/
def AccessCode.name : AccessCode → String
  | setupFailed => "access_setup_failed"
  | setupPanicked => "access_setup_panicked"
  | setupTimeout => "access_setup_timeout"
  | bindingInvalid => "access_binding_invalid"
  | deadlineExceeded => "access_deadline_exceeded"
  | downloadFailed => "access_download_failed"
  | workspaceFailed => "access_workspace_failed"
  | extractOpen => "access_extract_open"
  | extractRead => "access_extract_read"
  | extractLayout => "access_extract_layout"
  | extractOversize => "access_extract_oversize"
  | extractMissing => "access_extract_missing"
  | extractFailed => "access_extract_failed"
  | sidecarExecDenied => "access_sidecar_exec_denied"
  | sidecarExecMissing => "access_sidecar_exec_missing"
  | sidecarSpawnFailed => "access_sidecar_spawn_failed"
  | threadSpawnFailed => "access_thread_spawn_failed"
  | sidecarFailed => "access_sidecar_failed"
  | sidecarStartTimeout => "access_sidecar_start_timeout"
  | sidecarSyscallBlocked => "access_sidecar_syscall_blocked"
  | sidecarCrashed => "access_sidecar_crashed"
  | sidecarSignaled => "access_sidecar_signaled"
  | sidecarShutdownSignal => "access_sidecar_shutdown_signal"
  | sidecarEngineClosed => "access_sidecar_engine_closed"
  | sidecarStateDirectoryFailed => "access_sidecar_state_directory_failed"
  | sidecarRequiresRoot => "access_sidecar_requires_root"
  | sidecarNetworkMonitorFailed => "access_sidecar_network_monitor_failed"
  | sidecarSocketFailed => "access_sidecar_socket_failed"
  | sidecarBackendFailed => "access_sidecar_backend_failed"
  | sidecarIpnServerFailed => "access_sidecar_ipn_server_failed"
  | sidecarNetstackFailed => "access_sidecar_netstack_failed"
  | sidecarStateRequired => "access_sidecar_state_required"
  | sidecarExitedCleanly => "access_sidecar_exited_cleanly"
  | sidecarExited => "access_sidecar_exited"
  | upFailed => "access_up_failed"
  | statusInvalid => "access_status_invalid"
  | statusUnexpected => "access_status_unexpected"
  | cleanupFailed => "access_cleanup_failed"

/-- `stage_error`: the code of the leg, in place of the general one. -/
def stageError (code error : AccessCode) : AccessCode :=
  if error = .setupFailed then code else error

/-- Why a setup returns no session: it has failed, or it is not over. -/
inductive SetupStop where
  | failed (code : AccessCode)
  | running

/-! ## Constants, in milliseconds -/

def maxArtifactBytes : ℕ := 128 * 1024 * 1024
def providerFetchAttempts : ℕ := 3
def providerFetchBackoff : ℕ := 300
def bringUpAttempts : ℕ := 3
def bringUpSettleBackoff : ℕ := 15000
def statusReadyTimeout : ℕ := 30000
def statusReadyInterval : ℕ := 1000
def commandTimeout : ℕ := 30000
def downloadTimeout : ℕ := 600000
def tunnelUpTimeout : ℕ := 240000
def tunnelUpClientMargin : ℕ := 30000
def statusEvidenceTimeout : ℕ := 10000
def daemonSocketTimeout : ℕ := 90000
def daemonProbeTimeout : ℕ := 5000
def daemonProbeInterval : ℕ := 1000
def pollInterval : ℕ := 50
def readerDrainGrace : ℕ := 5000
def terminateGrace : ℕ := 2000

/-- `ACCESS_SETUP_WATCHDOG`. -/
def accessSetupWatchdog : ℕ := downloadTimeout + daemonSocketTimeout + tunnelUpTimeout + 60000

/-- `CREDENTIAL_SCHEMA`. -/
def runtimeSshCredentialSchema : String := "proof.liskov.runtime-ssh-credential.v1"

/-! ## What the setup is given -/

inductive RuntimeAccessLaunchProfile where
  | tailscaleStandardV1 | tailscaleAcurastProotV1
deriving DecidableEq

structure RuntimeAccessArtifact where
  url : String
  sha256 : String
  byteSize : ℕ
  version : String

/-- `TailscaleRuntimeAccessBootstrap`. Of the endpoints to publish, it counts
here only whether there are any. -/
structure TailscaleAccess where
  attachmentId : String
  expectedTailnet : String
  setupDeadlineMs : ℕ
  fence : ℕ
  launchProfile : Option RuntimeAccessLaunchProfile
  artifact : RuntimeAccessArtifact
  hasPublications : Bool
  sshEnabled : Bool

/-- `TailscaleRuntimeSshCredentialV1`. -/
structure TailscaleCredential where
  schema : String
  organizationId : String
  integrationId : String
  attachmentId : String
  applicationUid : String
  deploymentId : String
  jobId : String
  policyDigest : String
  expiresAtMs : ℕ
  authKey : String

/-- Access by Tailscale, or the managed kind, of which nothing is read here. -/
inductive RuntimeAccess where
  | tailscale (access : TailscaleAccess)
  | managed

inductive RuntimeSshCredential where
  | tailscale (credential : TailscaleCredential)
  | managed

structure TailscaleStatus where
  currentTailnet : String
  selfId : String
  dnsName : String

structure TailscaleAccessSession where
  peerProxy : Option String
  root : String
  attachmentId : String
  fence : ℕ
  deviceId : String
  hostname : String
  clientVersion : String
  clientDigest : String

/-- `AccessSession`. -/
inductive AccessSession where
  | tailscale (session : TailscaleAccessSession)
  | managed

/-! ## Commands -/

/-- How a process has ended. -/
structure ChildStatus where
  success : Bool
  signal : Option ℕ

/-- The commands of the Tailscale client. -/
inductive TailscaleCommand where
  | status (socket : String) (peers : Bool)
  | up (socket authArgument hostname : String) (sshEnabled : Bool) (timeout : ℕ)

/-- `up_arguments`, and those of the two kinds of `status`. -/
def TailscaleCommand.arguments : TailscaleCommand → List String
  | status socket peers =>
    ["--socket=" ++ socket, "status", "--json"] ++ if peers then [] else ["--peers=false"]
  | up socket authArgument hostname sshEnabled timeout =>
    ["--socket=" ++ socket, "up", "--auth-key=" ++ authArgument, "--hostname=" ++ hostname]
      ++ (if sshEnabled then ["--ssh"] else [])
      ++ ["--accept-dns=false", "--accept-routes=false",
        "--timeout=" ++ toString (timeout / 1000) ++ "s"]

/-- `daemon_arguments`. -/
def daemonArguments (socket stateDir : String) (launchProfile : Option RuntimeAccessLaunchProfile)
    (proxyAddress : Option String) : List String :=
  ["--tun=userspace-networking"]
    ++ (if launchProfile = some .tailscaleAcurastProotV1 then
      ["--netmon-mode=permission-fallback-v4"] else [])
    ++ (proxyAddress.map fun address => "--socks5-server=" ++ address).toList
    ++ ["--state=mem:", "--socket=" ++ socket, "--statedir=" ++ stateDir]

structure CommandOutput where
  /-- None if the command was killed when its time was up. -/
  status : Option ChildStatus
  stdout : List UInt8
  outputTooLarge : Bool

inductive SpawnError where
  | permissionDenied | notFound | other

/-! ## The world of the setup -/

/-- What the setup asks for. `legNow` is the look at the clock from which the
deadline of a leg is set. -/
inductive AccessCall where
  | unixTimeMs
  | now
  | legNow
  | sleep (duration : ℕ)
  | fetch (url : String) (timeout limit : ℕ)
  | fillRandom
  | createDir (path : String)
  | setPermissions (path : String) (mode : ℕ)
  | extract (archive : List UInt8)
  | writePrivateFile (path : String) (bytes : List UInt8) (mode : ℕ)
  | removeFile (path : String)
  | removeDirAll (path : String)
  | bindListener
  | spawnDaemon (binary : String) (arguments : List String)
  | spawnThread (name : String)
  | killDaemon
  | tryWaitDaemon
  | signalDaemon (signal : ℕ)
  | waitDaemon
  | joinDaemonReader
  | daemonStderr
  | spawnCommand (binary : String) (command : TailscaleCommand)
  | tryWaitCommand
  | killCommand
  | waitCommand
  | readersFinished
  | commandOutput
  | managedSetup

/-- What it is told. A reply `flag` says whether a call was granted. -/
inductive AccessReply where
  | unixTime (ms : Option ℕ)
  | time (instant : ℕ)
  | flag (ok : Bool)
  | fetched (response : Option (Option ℕ × Option (List UInt8)))
  | random (bytes : Option (List UInt8))
  | extracted (result : Except AccessCode (List UInt8 × List UInt8))
  | address (text : Option String)
  | spawned (error : Option SpawnError)
  | waited (status : Option (Option ChildStatus))
  | output (stdout : List UInt8) (tooLarge : Bool)
  | code (code : Option AccessCode)

namespace AccessReply

def ms : AccessReply → Option ℕ
  | unixTime ms => ms
  | _ => none

def instant : AccessReply → ℕ
  | time instant => instant
  | _ => 0

def ok : AccessReply → Bool
  | flag ok => ok
  | _ => false

/-- The length that was announced and the body, if there was a response and
the body could be read. -/
def response : AccessReply → Option (Option ℕ × Option (List UInt8))
  | fetched response => response
  | _ => none

def randomBytes : AccessReply → Option (List UInt8)
  | random bytes => bytes
  | _ => none

def binaries : AccessReply → Except AccessCode (List UInt8 × List UInt8)
  | extracted result => result
  | _ => .error .extractOpen

def text : AccessReply → Option String
  | address text => text
  | _ => none

def spawnError : AccessReply → Option SpawnError
  | spawned error => error
  | _ => some .other

/-- None if the child could not be asked, and no status if it still runs. -/
def exit : AccessReply → Option (Option ChildStatus)
  | waited status => status
  | _ => none

def stdout : AccessReply → List UInt8
  | output stdout _ => stdout
  | _ => []

def tooLarge : AccessReply → Bool
  | output _ tooLarge => tooLarge
  | _ => false

def error : AccessReply → Option AccessCode
  | code error => error
  | _ => some .setupFailed

end AccessReply

/-- A part of the setup. -/
abbrev Setup (α : Type) := ExceptT SetupStop (Program AccessCall AccessReply) α

namespace Setup

variable {α : Type}

/-- An error, by its code. -/
def fail (code : AccessCode) : Setup α := throw (.failed code)

/-- `map_err`. -/
def mapErr (f : AccessCode → AccessCode) (p : Setup α) : Setup α :=
  settle p fun r => match r with
    | .ok a => pure a
    | .error (.failed code) => fail (f code)
    | .error .running => throw .running

/-- A call that has to be granted. -/
def granted (c : AccessCall) (code : AccessCode) : Setup Unit := do
  ensure ((← ask c).ok = true) (.failed code)

end Setup

open Setup (fail mapErr granted)

/-! ## Attempts -/

section Attempts

variable {α : Type}

/-- Between two attempts: unless the error is final, a pause. -/
def pauseUnlessFinal (isFinal : AccessCode → Bool) (backoff : ℕ) (_made : ℕ) (stop : SetupStop) :
    Program AccessCall AccessReply Bool :=
  match stop with
  | .running => pure false
  | .failed code => if isFinal code then pure false else do
    let _ ← perform (.sleep backoff)
    return true

/-- `retried_stage_until`. -/
def retriedStageUntil (attempts backoff : ℕ) (isFinal : AccessCode → Bool) (run : Setup α) :
    Setup α :=
  ExceptT.mk (retry run.run (pauseUnlessFinal isFinal backoff) (max attempts 1 - 1) 0)

/-- `retried_stage`. -/
def retriedStage (attempts backoff : ℕ) (run : Setup α) : Setup α :=
  retriedStageUntil attempts backoff (fun _ => false) run

end Attempts

/-! ## Deadlines -/

/-- `setup_deadline`. -/
def setupDeadline (deadlineMs : ℕ) : Setup ℕ := do
  match (← ask .unixTimeMs).ms with
  | none => fail .setupFailed
  | some ms =>
    ensure (ms ≤ deadlineMs) (.failed .setupFailed)
    return (← ask .now).instant + (deadlineMs - ms)

/-- `subprocess_deadline`. -/
def subprocessDeadline (deadline budget : ℕ) : Setup ℕ := do
  let now := (← ask .legNow).instant
  ensure (now < deadline) (.failed .setupFailed)
  return min deadline (now + budget)

/-- `remaining_timeout`. -/
def remainingTimeout (deadline budget : ℕ) : Setup ℕ := do
  let now := (← ask .legNow).instant
  ensure (now < deadline) (.failed .setupFailed)
  return max (min (deadline - now) budget) 1

/-! ## Running a command -/

/-- The command is polled until it is gone, or killed when its time is up. -/
def awaitExit (deadline : ℕ) : ℕ → Setup (Option ChildStatus)
  | 0 => throw .running
  | turns + 1 => do
    match (← ask .tryWaitCommand).exit with
    | none => fail .setupFailed
    | some (some status) => return some status
    | some none =>
      if deadline ≤ (← ask .now).instant then
        let _ ← ask .killCommand
        let _ ← ask .waitCommand
        return none
      else
        let _ ← ask (.sleep pollInterval)
        awaitExit deadline turns

/-- The readers get some time to come to the end of the output. -/
def drainReaders (deadline : ℕ) : ℕ → Setup Unit
  | 0 => throw .running
  | turns + 1 => do
    if (← ask .readersFinished).ok then return ()
    else
      if deadline ≤ (← ask .now).instant then return ()
      else
        let _ ← ask (.sleep pollInterval)
        drainReaders deadline turns

/-- A thread that reads a pipe of the command. Without it the command is
killed. -/
def spawnReader (name : String) : Setup Unit := do
  if (← ask (.spawnThread name)).ok then return ()
  else
    let _ ← ask .killCommand
    let _ ← ask .waitCommand
    fail .threadSpawnFailed

variable (turns : ℕ)

/-- `run_command`. -/
def runCommand (binary : String) (command : TailscaleCommand) (deadline : ℕ) :
    Setup CommandOutput := do
  granted (.spawnCommand binary command) .setupFailed
  spawnReader "liskov-cmd-stdout"
  spawnReader "liskov-cmd-stderr"
  let status ← awaitExit deadline turns
  let drainDeadline := (← ask .now).instant + readerDrainGrace
  drainReaders drainDeadline turns
  let output ← ask .commandOutput
  return ⟨status, output.stdout, output.tooLarge⟩

/-- `run_bounded`. -/
def runBounded (binary : String) (command : TailscaleCommand) (deadline : ℕ) : Setup Unit := do
  let output ← runCommand turns binary command deadline
  ensure (output.status.any (·.success) = true ∧ output.outputTooLarge = false)
    (.failed .setupFailed)

/-! ## The daemon -/

/-- A text stands somewhere in the bytes. The texts looked for are ASCII, and
so are found in the text of the bytes, whatever else they hold, if and only if
they are found in the bytes. -/
def bytesContain (text : String) (bytes : List UInt8) : Bool := decide (utf8 text <:+: bytes)

/-- `u8::to_ascii_lowercase`. -/
def lowercaseByte (b : UInt8) : UInt8 := if 65 ≤ b ∧ b ≤ 90 then b + 32 else b

/-- `classify_sidecar_exit`. -/
def classifySidecarExit (success : Bool) (startupStderr : List UInt8) : AccessCode :=
  let stderr := startupStderr.map lowercaseByte
  if bytesContain "tailscaled got signal" stderr && bytesContain "shutting down" stderr then
    .sidecarShutdownSignal
  else if bytesContain "wgengine has been closed; shutting down" stderr then .sidecarEngineClosed
  else if bytesContain "failed to create state directory:" stderr then
    .sidecarStateDirectoryFailed
  else if bytesContain "tailscaled requires root" stderr then .sidecarRequiresRoot
  else if bytesContain "netmon.new:" stderr then .sidecarNetworkMonitorFailed
  else if bytesContain "safesocket.listen:" stderr then .sidecarSocketFailed
  else if bytesContain "getlocalbackend error:" stderr then .sidecarBackendFailed
  else if bytesContain "ipnserver.run:" stderr then .sidecarIpnServerFailed
  else if bytesContain "failed to start netstack:" stderr then .sidecarNetstackFailed
  else if bytesContain "--statedir (or at least --state) is required" stderr then
    .sidecarStateRequired
  else if success then .sidecarExitedCleanly
  else .sidecarExited

/-- `sidecar_exit_error`, with the numbers of the signals. -/
def sidecarExitError (status : ChildStatus) (startupStderr : List UInt8) : AccessCode :=
  match status.signal with
  | some signal =>
    if signal = 31 then .sidecarSyscallBlocked
    else if signal = 6 ∨ signal = 7 ∨ signal = 4 ∨ signal = 11 then .sidecarCrashed
    else .sidecarSignaled
  | none => classifySidecarExit status.success startupStderr

/-- `spawn_daemon`. -/
def spawnDaemon (binary socket stateDir : String)
    (launchProfile : Option RuntimeAccessLaunchProfile) (proxyAddress : Option String) :
    Setup Unit := do
  match (← ask (.spawnDaemon binary
      (daemonArguments socket stateDir launchProfile proxyAddress))).spawnError with
  | some .permissionDenied => fail .sidecarExecDenied
  | some .notFound => fail .sidecarExecMissing
  | some .other => fail .sidecarSpawnFailed
  | none =>
    if (← ask (.spawnThread "liskov-daemon-stderr")).ok then return ()
    else
      let _ ← ask .killDaemon
      fail .threadSpawnFailed

/-- The daemon is polled until it is gone or the grace is over. -/
def awaitDaemon (deadline : ℕ) : ℕ → Setup Bool
  | 0 => throw .running
  | turns + 1 => do
    if deadline ≤ (← ask .now).instant then return false
    else
      match (← ask .tryWaitDaemon).exit with
      | none => fail .cleanupFailed
      | some (some _) => return true
      | some none =>
        let _ ← ask (.sleep pollInterval)
        awaitDaemon deadline turns

/-- `terminate_child`. -/
def terminateChild : Setup Unit := do
  match (← ask .tryWaitDaemon).exit with
  | none => fail .cleanupFailed
  | some (some _) => return ()
  | some none =>
    let _ ← ask (.signalDaemon 15)
    let deadline := (← ask .now).instant + terminateGrace
    if ← awaitDaemon deadline turns then return ()
    else
      let _ ← ask (.signalDaemon 9)
      granted .waitDaemon .cleanupFailed

/-- `DaemonProcess::stop`, whatever comes of it. The reader is joined unless
that was done before. -/
def stopDaemon : Setup Unit :=
  settle (terminateChild turns) fun r => match r with
    | .error .running => throw .running
    | _ => do
      let _ ← ask .joinDaemonReader

/-- `DaemonGuard`: a daemon whose setup fails is stopped. -/
def guarded {α : Type} (body : Setup α) : Setup α :=
  settle body fun r => match r with
    | .ok a => pure a
    | .error .running => throw .running
    | .error (.failed code) => do
      stopDaemon turns
      fail code

/-- `probe_shows_daemon_ready`. -/
def probeShowsDaemonReady (output : CommandOutput) : Bool :=
  output.status.isSome && bytesContain "\"BackendState\"" output.stdout

/-- What a probe shows; one that fails shows nothing. -/
def probe (binary socket : String) (deadline : ℕ) : Setup Bool :=
  settle (runCommand turns binary (.status socket false) deadline) fun r => match r with
    | .ok output => pure (probeShowsDaemonReady output)
    | .error .running => throw .running
    | .error (.failed _) => pure false

/-- The wait for the daemon's socket. -/
def awaitSocket (binary socket authPath : String) (daemonDeadline : ℕ) : ℕ → Setup Unit
  | 0 => throw .running
  | rounds + 1 => do
    match (← ask .tryWaitDaemon).exit with
    | none => fail .sidecarFailed
    | some (some status) =>
      let _ ← ask (.removeFile authPath)
      let _ ← ask .joinDaemonReader
      fail (sidecarExitError status (← ask .daemonStderr).stdout)
    | some none =>
      let now := (← ask .now).instant
      if daemonDeadline ≤ now then
        let _ ← ask (.removeFile authPath)
        fail .sidecarStartTimeout
      else
        if ← probe turns binary socket (min (now + daemonProbeTimeout) daemonDeadline) then
          return ()
        else
          let _ ← ask (.sleep daemonProbeInterval)
          awaitSocket binary socket authPath daemonDeadline rounds

/-! ## The status -/

/-- What is read by others: credentials and the documents of the status. -/
structure AccessReaders where
  credential : String → Option RuntimeSshCredential
  /-- `TailscaleBackendProbe`. -/
  backendState : List UInt8 → Option String
  status : List UInt8 → Option TailscaleStatus

/-- `json_object_slice`: from the first opening brace to the last closing
one. -/
def jsonObjectSlice (bytes : List UInt8) : List UInt8 :=
  match bytes.findIdx? (· = 0x7b), bytes.reverse.findIdx? (· = 0x7d) with
  | some start, some fromEnd =>
    if start < bytes.length - 1 - fromEnd then
      (bytes.take (bytes.length - fromEnd)).drop start
    else bytes
  | _, _ => bytes

variable (readers : AccessReaders)

/-- The status is asked for until the backend is running. -/
def awaitRunning (binary socket : String) (deadline readyDeadline : ℕ) :
    ℕ → Setup TailscaleStatus
  | 0 => throw .running
  | rounds + 1 => do
    let commandDeadline ←
      mapErr (stageError .deadlineExceeded) (subprocessDeadline deadline commandTimeout)
    let output ← mapErr (stageError .statusInvalid)
      (runCommand turns binary (.status socket false) commandDeadline)
    let document := jsonObjectSlice output.stdout
    match readers.backendState document with
    | none => fail .statusInvalid
    | some backendState =>
      if backendState = "Running" then
        match readers.status document with
        | none => fail .statusInvalid
        | some status => return status
      else
        if backendState ≠ "Starting" then fail .statusUnexpected
        else
          if readyDeadline ≤ (← ask .now).instant then fail .statusUnexpected
          else
            let _ ← ask (.sleep statusReadyInterval)
            awaitRunning binary socket deadline readyDeadline rounds

/-! ## One attempt -/

/-- What is known about the deployment. -/
structure AccessBinding where
  applicationUid : String
  deploymentId : String
  jobId : String
  policyDigest : String

variable (sha256 : List UInt8 → Digest)

/-- The hexadecimal digits of a digest. -/
def hexDigest (bytes : List UInt8) : String := hexEncode (sha256 bytes).toList

/-- `runtime_hostname`. -/
def runtimeHostname (applicationUid deploymentId : String) : String :=
  "liskov-" ++ String.ofList ((hexDigest sha256 (utf8 "runtime-ssh-hostname.v1" ++ [0]
    ++ utf8 applicationUid ++ [0] ++ utf8 deploymentId)).toList.take 16)

/-- `private_root`. -/
def privateRoot (attachmentId : String) : Setup String := do
  match (← ask .fillRandom).randomBytes with
  | none => fail .setupFailed
  | some random =>
    let root := "/tmp/lk" ++ String.ofList ((hexDigest sha256 (utf8 attachmentId)).toList.take 8)
      ++ hexEncode random
    granted (.createDir root) .setupFailed
    granted (.setPermissions root 0o700) .setupFailed
    return root

/-- `extract_binaries`. -/
def extractBinaries (archive : List UInt8) : Setup (List UInt8 × List UInt8) := do
  match (← ask (.extract archive)).binaries with
  | .error code => fail code
  | .ok binaries => return binaries

/-- `write_private_file`, as a part of the workspace. -/
def writeWorkspaceFile (path : String) (bytes : List UInt8) (mode : ℕ) : Setup Unit :=
  mapErr (stageError .workspaceFailed) (granted (.writePrivateFile path bytes mode) .setupFailed)

/-- The leg that writes the binaries. -/
def writeBinaries (root : String) (tailscale tailscaled authKey : List UInt8) : Setup Unit := do
  writeWorkspaceFile (root ++ "/tailscale") tailscale 0o700
  writeWorkspaceFile (root ++ "/tailscaled") tailscaled 0o700
  writeWorkspaceFile (root ++ "/auth-key") authKey 0o600
  granted (.createDir (root ++ "/d")) .workspaceFailed

/-- The address of the proxy, if endpoints are published. -/
def proxyAddress (hasPublications : Bool) : Setup (Option String) := do
  if hasPublications then
    match (← ask .bindListener).text with
    | none => fail .sidecarSpawnFailed
    | some address => return some address
  else return none

/-- `report_tunnel_failure_evidence`: the status, asked for once more if there
is a logger. -/
def reportTunnelFailureEvidence (hasLogger : Bool) (binary socket : String) (deadline : ℕ) :
    Setup Unit := do
  if hasLogger then
    settle (do
      let statusDeadline ← subprocessDeadline deadline statusEvidenceTimeout
      runCommand turns binary (.status socket true) statusDeadline) fun r => match r with
        | .error .running => throw .running
        | _ => pure ()
  else return ()

/-- The leg that brings the tunnel up. The key's file is removed whatever
came of it. -/
def bringTunnelUp (hasLogger : Bool) (binary socket authPath hostname : String)
    (sshEnabled : Bool) (deadline : ℕ) : Setup Unit :=
  settle (do
    let upDeadline ←
      mapErr (stageError .deadlineExceeded) (subprocessDeadline deadline tunnelUpTimeout)
    runBounded turns binary (.up socket ("file:" ++ authPath) hostname sshEnabled
      (tunnelUpTimeout - tunnelUpClientMargin)) upDeadline) fun r => match r with
    | .error .running => throw .running
    | .ok () => granted (.removeFile authPath) .workspaceFailed
    | .error (.failed code) => do
      granted (.removeFile authPath) .workspaceFailed
      reportTunnelFailureEvidence turns hasLogger binary socket deadline
      fail (stageError .upFailed code)

/-- The device the status names has to be one of the expected tailnet. -/
def TailscaleStatus.expected (status : TailscaleStatus) (tailnet : String) : Bool :=
  status.currentTailnet = tailnet && status.selfId ≠ "" && status.selfId.utf8ByteSize ≤ 256
    && status.dnsName ≠ "" && status.dnsName.utf8ByteSize ≤ 256

/-- `trim_end_matches('.')`. -/
def trimEndDots (s : String) : String :=
  String.ofList (s.toList.reverse.dropWhile fun c => c = '.').reverse

/-- What follows the start of the daemon. -/
def joinTailnet (hasLogger : Bool) (binding : AccessBinding) (access : TailscaleAccess)
    (root : String) (deadline daemonDeadline : ℕ) (proxyAddress : Option String) :
    Setup TailscaleAccessSession := do
  awaitSocket turns (root ++ "/tailscale") (root ++ "/s") (root ++ "/auth-key") daemonDeadline
    turns
  bringTunnelUp turns hasLogger (root ++ "/tailscale") (root ++ "/s") (root ++ "/auth-key")
    (runtimeHostname sha256 binding.applicationUid binding.deploymentId) access.sshEnabled deadline
  let readyDeadline ←
    mapErr (stageError .deadlineExceeded) (subprocessDeadline deadline statusReadyTimeout)
  let status ← awaitRunning turns readers (root ++ "/tailscale") (root ++ "/s") deadline
    readyDeadline turns
  ensure (status.expected access.expectedTailnet = true) (.failed .statusUnexpected)
  return ⟨proxyAddress.map fun address => "socks5h://" ++ address, root, access.attachmentId,
    access.fence, status.selfId, trimEndDots status.dnsName, access.artifact.version,
    "sha256:" ++ access.artifact.sha256⟩

/-- `setup_in_root`. -/
def setupInRoot (hasLogger : Bool) (binding : AccessBinding) (access : TailscaleAccess)
    (root : String) (archive : List UInt8) (authKey : String) (deadline : ℕ) :
    Setup TailscaleAccessSession := do
  let (tailscale, tailscaled) ← mapErr (fun _ => .extractFailed)
    (retriedStage providerFetchAttempts providerFetchBackoff (extractBinaries archive))
  writeBinaries root tailscale tailscaled (utf8 authKey)
  let daemonDeadline ←
    mapErr (stageError .deadlineExceeded) (subprocessDeadline deadline daemonSocketTimeout)
  let address ← proxyAddress access.hasPublications
  spawnDaemon (root ++ "/tailscaled") (root ++ "/s") (root ++ "/d") access.launchProfile address
  guarded turns (joinTailnet turns readers sha256 hasLogger binding access root deadline
    daemonDeadline address)

/-- One attempt to bring the access up. The tree of a failed attempt is
removed. -/
def bringUp (hasLogger : Bool) (binding : AccessBinding) (access : TailscaleAccess)
    (archive : List UInt8) (authKey : String) (deadline : ℕ) : Setup TailscaleAccessSession := do
  let root ← mapErr (stageError .workspaceFailed) (privateRoot sha256 access.attachmentId)
  settle (setupInRoot turns readers sha256 hasLogger binding access root archive authKey
    deadline) fun r => match r with
      | .ok session => pure session
      | .error .running => throw .running
      | .error (.failed code) => do
        let _ ← ask (.removeDirAll root)
        fail code

/-- The codes of an attempt that is not repeated: the key is used up. -/
def keyConsumed (code : AccessCode) : Bool :=
  code = .upFailed || code = .statusInvalid || code = .statusUnexpected

/-! ## The setup -/

variable (fromStr : String → Option Json)

/-- `validate_tailscale_binding`. -/
def validateTailscaleBinding (binding : AccessBinding) (access : TailscaleAccess)
    (credential : TailscaleCredential) : Setup String := do
  match (← ask .unixTimeMs).ms with
  | none => fail .setupFailed
  | some nowMs =>
    ensure (credential.schema = runtimeSshCredentialSchema ∧ credential.organizationId ≠ ""
      ∧ credential.integrationId ≠ "" ∧ credential.attachmentId = access.attachmentId
      ∧ credential.applicationUid = binding.applicationUid
      ∧ credential.deploymentId = binding.deploymentId
      ∧ runtimeJobIdsMatch fromStr credential.jobId binding.jobId = true
      ∧ credential.policyDigest = binding.policyDigest
      ∧ credential.expiresAtMs = access.setupDeadlineMs ∧ nowMs < credential.expiresAtMs
      ∧ nowMs < access.setupDeadlineMs ∧ credential.authKey ≠ ""
      ∧ credential.authKey.utf8ByteSize ≤ 512) (.failed .setupFailed)
    return credential.authKey

/-- What a response has to be for its body to count. -/
def checkArtifact (artifact : RuntimeAccessArtifact)
    (response : Option (Option ℕ × Option (List UInt8))) : Option (List UInt8) :=
  response.bind fun (length, body) =>
    if maxArtifactBytes < artifact.byteSize ∨ length.any (· ≠ artifact.byteSize) = true then none
    else body.filter fun bytes =>
      bytes.length = artifact.byteSize && hexDigest sha256 bytes = artifact.sha256

/-- `download_artifact`. Not more than one byte beyond the announced size is
read. -/
def downloadArtifact (artifact : RuntimeAccessArtifact) (deadline : ℕ) : Setup (List UInt8) := do
  let timeout ← remainingTimeout deadline downloadTimeout
  match checkArtifact sha256 artifact
      (← ask (.fetch artifact.url timeout (artifact.byteSize + 1))).response with
  | none => fail .setupFailed
  | some bytes => return bytes

/-- The Tailscale side of `setup_runtime_access_with_logger`. -/
def setupTailscale (hasLogger : Bool) (binding : AccessBinding) (access : TailscaleAccess)
    (credential : TailscaleCredential) : Setup TailscaleAccessSession := do
  let authKey ← mapErr (stageError .bindingInvalid)
    (validateTailscaleBinding fromStr binding access credential)
  let deadline ← mapErr (stageError .deadlineExceeded) (setupDeadline access.setupDeadlineMs)
  let archive ← retriedStage providerFetchAttempts providerFetchBackoff
    (mapErr (stageError .downloadFailed) (downloadArtifact sha256 access.artifact deadline))
  retriedStageUntil bringUpAttempts bringUpSettleBackoff keyConsumed
    (bringUp turns readers sha256 hasLogger binding access archive authKey deadline)

/-- The kind of the access and that of the credential have to agree. The
managed kind is set up by a call of its own. -/
def setupWithCredential (hasLogger : Bool) (binding : AccessBinding) :
    RuntimeAccess → Option RuntimeSshCredential → Setup (Option AccessSession)
  | .tailscale access, some (.tailscale credential) => do
    let session ← setupTailscale turns readers sha256 fromStr hasLogger binding access credential
    return some (.tailscale session)
  | .managed, some .managed => do
    match (← ask .managedSetup).error with
    | some code => fail code
    | none => return some .managed
  | _, _ => fail .setupFailed

/-- `setup_runtime_access_with_logger`. -/
def setupRuntimeAccess (hasLogger : Bool) (binding : AccessBinding) :
    Option RuntimeAccess → Option String → Setup (Option AccessSession)
  | none, none => return none
  | none, some _ => fail .setupFailed
  | some _, none => fail .setupFailed
  | some access, some raw =>
    setupWithCredential turns readers sha256 fromStr hasLogger binding access
      (readers.credential raw)
