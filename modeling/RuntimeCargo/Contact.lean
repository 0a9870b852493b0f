import RuntimeCargo.Lockbox
import RuntimeCargo.Retry

/-!
# The first contact

A runtime that starts finds out who it is, over the bridge, and asks the
control plane for its bootstrap. It writes one request with a fresh nonce, has
it signed and posts it, again and again if need be: the control plane may not
know the job yet. An answer counts if it names the job, the processor and the
nonce of the request.

Both parts – finding the identity and posting the request – are attempts with
pauses between them (`Program.retry`), and both look at the same clock, which
has run since before the first of them. A request expires sixty seconds after
it was stamped.
-/

open Program (perform retry)

/-! ## Requests and answers -/

/-- `RUNTIME_BOOTSTRAP_REQUEST_DOMAIN_V2`. -/
def runtimeBootstrapRequestDomain : String := "proof.liskov.runtime-bootstrap-request.v2"

/-- `RUNTIME_BOOTSTRAP_RESPONSE_DOMAIN_V2`. -/
def runtimeBootstrapResponseDomain : String := "proof.liskov.runtime-bootstrap-response.v2"

/-- `RUNTIME_BOOTSTRAP_TTL_MS`. -/
def runtimeBootstrapTtlMs : ℕ := 60000

structure RuntimeIdentity where
  jobId : String
  processorId : String

structure UnsignedRuntimeBootstrapRequest where
  domain : String
  jobId : String
  processorId : String
  nonce : String
  issuedAtMs : ℕ
  expiresAtMs : ℕ

namespace UnsignedRuntimeBootstrapRequest

def members (r : UnsignedRuntimeBootstrapRequest) : List (String × Json) :=
  [("domain", .str r.domain), ("jobId", .str r.jobId), ("processorId", .str r.processorId),
    ("nonce", .str r.nonce), ("issuedAtMs", .num r.issuedAtMs),
    ("expiresAtMs", .num r.expiresAtMs)]

/-- `canonical_unsigned_request_bytes`. -/
def message (r : UnsignedRuntimeBootstrapRequest) : String := canonicalJsonBytes (.obj r.members)

end UnsignedRuntimeBootstrapRequest

/-- The request with its signature. -/
structure SignedRuntimeBootstrapRequest where
  unsigned : UnsignedRuntimeBootstrapRequest
  signature : String

/-- What is posted: the members as they are declared. -/
def SignedRuntimeBootstrapRequest.body (r : SignedRuntimeBootstrapRequest) : String :=
  (Json.obj (r.unsigned.members ++ [("signature", .str r.signature)])).render

/-- The bridge's errors, by their kind. -/
inductive BridgeError where
  | invalidSocketName | invalidSocketAddress | connect | timeoutConfiguration | write | read
  | timeout | eof | responseTooLarge | invalidJson | jsonRpcVersion | idMismatch
  | rpcError (code : Option ℤ) | missingResult

/-- `ProtocolError`. What is written always can be, so there is no error of
serialization. -/
inductive ProtocolError where
  | deploymentIdentityBridge (error : BridgeError) | invalidDeploymentIdentity
  | publicKeyBridge (error : BridgeError) | invalidPublicKey
  | assignedProcessorsBridge (error : BridgeError) | processorMatchCount
  | signerBridge (error : BridgeError) | invalidSignature | timestampOverflow
  | invalidResponse | responseBinding

inductive ContactError where
  | configuration (text : String) | protocol (error : ProtocolError) | randomness | clock
  | permanentServerRejection | retryExhausted

structure HttpResponse where
  status : ℕ
  body : List UInt8

inductive HttpError where
  | transport | responseTooLarge

/-- The answer as it is read: the bootstrap, and what is checked besides. What
the block about access says is not looked at here, only whether it is valid. -/
structure BootstrapAnswer (A : Type) where
  ok : Bool
  domain : String
  bootstrap : RuntimeBootstrapResponse
  access : Option A

/-- `ServerErrorEnvelope`. -/
structure ServerErrorEnvelope where
  error : Option String
  retryable : Option Bool

/-! ## The world of the contact -/

/-- Times are in nanoseconds. -/
structure RetryPolicy where
  initialDelay : ℕ
  interval : ℕ
  maxElapsed : ℕ
  maxAttempts : ℕ

/-- The methods of the bridge that the contact calls. -/
inductive BridgeMethod where
  | deploymentId | deploymentPublicKeys | deploymentAssignedProcessors | signerSign

/-- The name under which a method is called. -/
def BridgeMethod.name : BridgeMethod → String
  | deploymentId => "deployment_id"
  | deploymentPublicKeys => "deployment_publicKeys"
  | deploymentAssignedProcessors => "deployment_assignedProcessors"
  | signerSign => "signer_sign"

/-- What the contact asks for. -/
inductive ContactCall where
  | bridge (method : BridgeMethod) (params : Json)
  | fillRandom
  | unixTimeMs
  | elapsed
  | sleep (duration : ℕ)
  | post (url body : String)

/-- What it is told. -/
inductive ContactReply where
  | bridged (result : Except BridgeError Json)
  | random (bytes : Option (Vector UInt8 16))
  | unixTime (ms : Option ℕ)
  | time (elapsed : ℕ)
  | posted (result : Except HttpError HttpResponse)
  | done

namespace ContactReply

/-- The reply of the bridge. -/
def result : ContactReply → Except BridgeError Json
  | bridged result => result
  | _ => .error .eof

def bytes : ContactReply → Option (Vector UInt8 16)
  | random bytes => bytes
  | _ => none

def ms : ContactReply → Option ℕ
  | unixTime ms => ms
  | _ => none

/-- The reading of the clock that has run since the start. -/
def since : ContactReply → ℕ
  | time elapsed => elapsed
  | _ => 0

def response : ContactReply → Except HttpError HttpResponse
  | posted result => result
  | _ => .error .transport

end ContactReply

/-- The largest `Duration`. -/
def maxDuration : ℕ := (2 ^ 64 - 1) * 10 ^ 9 + 999999999

/-! ## Who it is -/

/-- `normalize_hex_exact` of the protocol, which knows one mark only. -/
def normalizeProtocolHex (value : String) (bytes : ℕ) : Option String :=
  let digits := toAsciiLowercase ((stripStart "0x" value).getD value)
  if digits.utf8ByteSize = bytes * 2 ∧ digits.toList.all isAsciiHexDigit = true then some digits
  else none

/-- The key of a set of keys. -/
def ed25519Key (keys : Json) : Option String :=
  ((keys.get? "ed25519").bind Json.asStr).bind fun key => normalizeProtocolHex key 32

/-- The key of this deployment. -/
def currentPublicKey (publicKeys : Json) : Option String :=
  (publicKeys.get? "publicKeys").bind ed25519Key

/-- A deployment that has a number and an origin. -/
def deploymentOk (deployment : Json) : Bool :=
  (((deployment.get? "id").bind Json.asStr).any fun id => id ≠ "")
    && ((deployment.get? "origin").bind Json.asObject).isSome

/-- The one processor that has the key. -/
def matchProcessor (currentKey : String) (assigned : Json) : Option String :=
  ((assigned.get? "processors").bind Json.asObject).bind fun processors =>
    match processors.filter fun p => ed25519Key p.2 = some currentKey with
    | [(processorId, _)] => if processorId = "" then none else some processorId
    | _ => none

/-- `discover_runtime_identity`. -/
def discoverRuntimeIdentity :
    Program ContactCall ContactReply (Except ProtocolError RuntimeIdentity) := do
  match (← perform (.bridge .deploymentId (.arr []))).result with
  | .error error => return .error (.deploymentIdentityBridge error)
  | .ok deployment =>
    if !deploymentOk deployment then return .error .invalidDeploymentIdentity
    else
      match (← perform (.bridge .deploymentPublicKeys (.arr []))).result with
      | .error error => return .error (.publicKeyBridge error)
      | .ok publicKeys =>
        match currentPublicKey publicKeys with
        | none => return .error .invalidPublicKey
        | some currentKey =>
          match (← perform (.bridge .deploymentAssignedProcessors (.arr []))).result with
          | .error error => return .error (.assignedProcessorsBridge error)
          | .ok assigned =>
            match matchProcessor currentKey assigned with
            | none => return .error .processorMatchCount
            | some processorId => return .ok ⟨canonicalJsonBytes deployment, processorId⟩

/-- `identity_error_is_retryable`. -/
def identityErrorIsRetryable : ProtocolError → Bool
  | .deploymentIdentityBridge _ | .invalidDeploymentIdentity | .publicKeyBridge _
  | .invalidPublicKey | .assignedProcessorsBridge _ | .processorMatchCount => true
  | _ => false

/-! ## The pause -/

section Contact

variable (policy : RetryPolicy)

/-- The pause after some attempts were made. -/
def nextDelay (made : ℕ) : ℕ := if made = 0 then policy.initialDelay else policy.interval

/-- Between two attempts: unless the error is final or the time is up, pause. -/
def pauseBefore {ε : Type} (retryable : ε → Bool) (made : ℕ) (error : ε) :
    Program ContactCall ContactReply Bool := do
  if !retryable error then return false
  else
    let elapsed := (← perform .elapsed).since
    if elapsed + nextDelay policy made > maxDuration
      || elapsed + nextDelay policy made > policy.maxElapsed then return false
    else
      let _ ← perform (.sleep (nextDelay policy made))
      return true

/-- `discover_runtime_identity_with_retry`. -/
def discoverRuntimeIdentityWithRetry :
    Program ContactCall ContactReply (Except ProtocolError RuntimeIdentity) :=
  retry discoverRuntimeIdentity (pauseBefore policy identityErrorIsRetryable)
    (policy.maxAttempts - 1) 0

/-! ## The request -/

/-- `build_unsigned_request`. -/
def buildUnsignedRequest (identity : RuntimeIdentity) (nonce : String) (issuedAtMs : ℕ) :
    Except ProtocolError UnsignedRuntimeBootstrapRequest := do
  let expiresAtMs ← (checkedAdd issuedAtMs runtimeBootstrapTtlMs).okOr .timestampOverflow
  return ⟨runtimeBootstrapRequestDomain, identity.jobId, identity.processorId, nonce, issuedAtMs,
    expiresAtMs⟩

/-- What the bridge is asked to sign. -/
def signerParams (message : String) : Json :=
  .arr [.obj [("curve", .str "ed25519"), ("bytes", .str (hexEncode (utf8 message)))]]

/-- The signature in the bridge's reply. -/
def signatureOf (result : Json) : Option String :=
  ((result.get? "bytes").bind Json.asStr).bind fun value => normalizeProtocolHex value 64

/-- `sign_request`. -/
def signRequest (unsigned : UnsignedRuntimeBootstrapRequest) :
    Program ContactCall ContactReply (Except ProtocolError SignedRuntimeBootstrapRequest) := do
  match (← perform (.bridge .signerSign (signerParams unsigned.message))).result with
  | .error error => return .error (.signerBridge error)
  | .ok result =>
    match signatureOf result with
    | none => return .error .invalidSignature
    | some signature => return .ok ⟨unsigned, "0x" ++ signature⟩

/-! ## The answer -/

/-- What is read by others: URLs, answers and errors. -/
structure ContactReaders (A : Type) where
  parseUrl : String → Option Url
  joinUrl : Url → String → Option String
  fromSlice : List UInt8 → Option (BootstrapAnswer A)
  errorFromSlice : List UInt8 → Option ServerErrorEnvelope
  accessValid : A → Bool

variable {A : Type} (readers : ContactReaders A)

/-- `validate_response`. -/
def validateBootstrapResponse (request : SignedRuntimeBootstrapRequest) (body : List UInt8) :
    Except ProtocolError (BootstrapAnswer A) := do
  let answer ← (readers.fromSlice body).okOr .invalidResponse
  let b := answer.bootstrap
  require (answer.ok = true ∧ answer.domain = runtimeBootstrapResponseDomain
    ∧ b.applicationUid ≠ "" ∧ b.applicationId ≠ "" ∧ b.policyDigest ≠ "" ∧ b.deploymentId ≠ ""
    ∧ b.slipwayUrl ≠ "" ∧ (b.runtimeEnv.any fun (enabled, url) => enabled && url = "") = false
    ∧ (answer.access.any fun access => !readers.accessValid access) = false) .invalidResponse
  require (b.jobId = request.unsigned.jobId ∧ b.processorId = request.unsigned.processorId
    ∧ b.runtimeInstanceId = request.unsigned.nonce) .responseBinding
  return answer

/-- `response_is_retryable`. -/
def responseIsRetryable (response : HttpResponse) : Bool :=
  let envelope := readers.errorFromSlice response.body
  match envelope.bind ServerErrorEnvelope.retryable with
  | some retryable => retryable
  | none =>
    (envelope.bind ServerErrorEnvelope.error).any (fun code => code.endsWith "_not_found")
      || [404, 409, 425, 429, 500, 502, 503, 504].contains response.status

inductive AttemptError where
  | retryable | permanent | protocol (error : ProtocolError)

def AttemptError.isRetryable : AttemptError → Bool
  | retryable => true
  | _ => false

/-- What is made of the outcome of a post. -/
def judgeResponse (request : SignedRuntimeBootstrapRequest) :
    Except HttpError HttpResponse → Except AttemptError (BootstrapAnswer A)
  | .error .transport => .error .retryable
  | .error .responseTooLarge => .error (.protocol .invalidResponse)
  | .ok response =>
    if 200 ≤ response.status ∧ response.status < 300 then
      match validateBootstrapResponse readers request response.body with
      | .ok answer => .ok answer
      | .error error => .error (.protocol error)
    else if responseIsRetryable readers response then .error .retryable
    else .error .permanent

/-- `attempt_contact`. -/
def attemptContact (endpoint : String) (request : SignedRuntimeBootstrapRequest) :
    Program ContactCall ContactReply (Except AttemptError (BootstrapAnswer A)) := do
  return judgeResponse readers request (← perform (.post endpoint request.body)).response

/-- What the contact says about the last attempt. -/
def AttemptError.contactError : AttemptError → ContactError
  | retryable => .retryExhausted
  | permanent => .permanentServerRejection
  | protocol error => .protocol error

/-- The posts, and what is said about the last one. -/
def postRequest (endpoint : String) (request : SignedRuntimeBootstrapRequest) :
    Program ContactCall ContactReply (Except ContactError (BootstrapAnswer A)) := do
  match ← retry (attemptContact readers endpoint request)
    (pauseBefore policy AttemptError.isRetryable) (policy.maxAttempts - 1) 0 with
  | .ok answer => return .ok answer
  | .error error => return .error error.contactError

/-- `validate_core_url`, and the place on it. -/
def contactEndpoint (coreUrl : String) : Except ContactError String := do
  let url ← (readers.parseUrl coreUrl).okOr (.configuration "invalid core URL")
  require (url.scheme = "https" ∧ url.host ≠ none ∧ url.username = "" ∧ url.password = none
    ∧ url.query = none ∧ url.fragment = none)
    (.configuration "core URL must be HTTPS without user information, query, or fragment")
  (readers.joinUrl url "/api/jobs/runtime-bootstrap").okOr (.configuration "invalid core URL")

/-- A request that could be built is signed and posted. -/
def signAndPost (endpoint : String) :
    Except ProtocolError UnsignedRuntimeBootstrapRequest →
      Program ContactCall ContactReply (Except ContactError (BootstrapAnswer A))
  | .error error => return .error (.protocol error)
  | .ok unsigned => do
    match ← signRequest unsigned with
    | .error error => return .error (.protocol error)
    | .ok request => postRequest policy readers endpoint request

/-- A request with a fresh nonce, stamped with the time. -/
def requestBootstrap (endpoint : String) (identity : RuntimeIdentity) :
    Program ContactCall ContactReply (Except ContactError (BootstrapAnswer A)) := do
  match (← perform .fillRandom).bytes with
  | none => return .error .randomness
  | some nonce =>
    match (← perform .unixTimeMs).ms with
    | none => return .error .clock
    | some issuedAtMs =>
      signAndPost policy readers endpoint
        (buildUnsignedRequest identity (hexEncode nonce.toList) issuedAtMs)

/-- `establish_runtime_contact_with`. -/
def establishRuntimeContactWith (coreUrl : String) :
    Program ContactCall ContactReply (Except ContactError (BootstrapAnswer A)) := do
  match contactEndpoint readers coreUrl with
  | .error error => return .error error
  | .ok endpoint =>
    match ← discoverRuntimeIdentityWithRetry policy with
    | .error error => return .error (.protocol error)
    | .ok identity => requestBootstrap policy readers endpoint identity

end Contact
