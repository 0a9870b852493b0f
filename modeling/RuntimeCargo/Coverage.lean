import RuntimeCargo.Lockbox
import RuntimeCargo.NetworkSample
import RuntimeCargo.Trace

/-!
# The producer of coverage results

With the bootstrap a server may send an *authorization*: a result that lacks
what only the runtime can know. The producer measures what is missing,
completes the result, signs it with the key of the runtime and sends it back.
This is the model of `coverage.rs`, and of `network_traversal/reserve.rs`,
which decides on the grant for a traversal that an authorization may carry.

An authorization is taken from the bootstrap only if it is well formed, is
bound to this very bootstrap and names no other place to send the result to
(`takeCoverageAuthorization`). Everything the producer does after that is a
call on something it was given – the clock, the collectors of the hardware's
facts, the sampler of the network, the signer and the delivery – so that it
is a program here, and what it may do is what its traces show. The sampler is
lent the signer for the nonces of the prober; what it does with it is its
own, and a call of it is one event.
-/

open Program (perform)

/-! ## The grant for a traversal -/

/-- `TRAVERSAL_CAPABILITY_DOMAIN`. -/
def traversalCapabilityDomain : String := "proof.liskov.network-traversal-capability.v1"

structure TraversalCapabilityV1 where
  domain : String
  descriptor : TraversalDescriptorV1
  mac : String
deriving DecidableEq

/-- `CARGO_PKG_VERSION`. -/
def packageVersion : String := "0.12.2"

/-- `DORMANT_HELPER`. -/
def dormantHelper : TraversalHelperIdentity :=
  ⟨packageVersion, "sha256:0000000000000000000000000000000000000000000000000000000000000000"⟩

namespace TraversalCapabilityV1

/-- What a grant is bound to. -/
def isBound (c : TraversalCapabilityV1) (artifactDigest : String)
    (helper : TraversalHelperIdentity) : Bool :=
  c.descriptor.helperVersion = helper.version && c.descriptor.helperDigest = helper.digest
    && c.descriptor.artifactDigest = artifactDigest

/-- The checks of a grant that need no clock, in the order `reserve_traversal`
makes them in. -/
def check (c : TraversalCapabilityV1) (artifactDigest : String)
    (helper : TraversalHelperIdentity) : Except TraversalRefusal Unit := do
  require (c.domain = traversalCapabilityDomain) .wrongDomain
  require (isLowerHex c.mac 32) .invalidMac
  c.descriptor.validate
  require (c.isBound artifactDigest helper) .invalidBinding

/-- `grant_structure_ok`. -/
def grantStructureOk (c : TraversalCapabilityV1) (artifactDigest : String)
    (helper : TraversalHelperIdentity) : Bool :=
  c.domain = traversalCapabilityDomain && isLowerHex c.mac 32
    && (match c.descriptor.validate with
      | .ok () => true
      | .error _ => false)
    && c.isBound artifactDigest helper

end TraversalCapabilityV1

inductive ReserveOutcome where
  | absent
  | refused (refusal : TraversalRefusal)
  | reserved (reservation : Reservation)
  | skippedBudget

/-! ## Calls -/

structure NetworkSampleOutput where
  sample : NetworkSampleV1
  inbound : Option InboundReachabilityV1

/-- What the producer asks for. -/
inductive CoverageCall where
  | nowMs
  /-- `TraversalEffects::cancelled`. -/
  | cancelled
  | collectAndroid
  | collectExecution
  | sample (url challenge : String) (startedAtMs : ℕ)
  | signEd25519 (message : String)
  | deliver (url body : String)

/-- What it is told. -/
inductive CoverageReply where
  | time (nowMs : Option ℕ)
  | flag (b : Bool)
  /-- A fact, as it is written. -/
  | fact (value : Json)
  | sampled (output : NetworkSampleOutput)
  | signature (text : Option String)

namespace CoverageReply

/-- The reply of the clock. -/
def now : CoverageReply → Option ℕ
  | time nowMs => nowMs
  | _ => none

/-- The reply to `cancelled` and to `deliver`. -/
def isTrue : CoverageReply → Bool
  | flag b => b
  | _ => false

/-- The reply of a collector. -/
def value : CoverageReply → Json
  | fact value => value
  | _ => .null

/-- The reply of the sampler. -/
def output : CoverageReply → NetworkSampleOutput
  | sampled output => output
  | _ => ⟨skippedSample 0, none⟩

/-- The reply of the signer. -/
def signed : CoverageReply → Option String
  | signature text => text
  | _ => none

end CoverageReply

/-- `reserve_traversal`. A refusal is decided before anything is asked. -/
def reserveTraversal (grant : Option TraversalCapabilityV1) (nowMs jobExpiresAtMs : ℕ)
    (artifactDigest : String) (helper : TraversalHelperIdentity) :
    Program CoverageCall CoverageReply ReserveOutcome :=
  match grant with
  | none => return .absent
  | some capability =>
    match capability.check artifactDigest helper with
    | .error refusal => return .refused refusal
    | .ok () =>
      match capability.descriptor.canStart nowMs jobExpiresAtMs existingDeliveryReserveMs with
      | .error .insufficientTime => return .skippedBudget
      | .error refusal => return .refused refusal
      | .ok () => do
        if (← perform .cancelled).isTrue then return .skippedBudget
        else
          let budgets := capability.descriptor.budgets
          let collectorEndMs := saturatingAdd nowMs budgets.experimentMs
          return .reserved ⟨budgets.experimentMs, budgets.cleanupReserveMs,
            existingDeliveryReserveMs, collectorEndMs,
            saturatingAdd collectorEndMs existingDeliveryReserveMs⟩

/-! ## The authorization -/

inductive CoverageTargetRuntime where
  | javascript | nativeImage
deriving DecidableEq

inductive CoverageTargetRelease where
  | source | pinned
deriving DecidableEq

structure CoverageTarget where
  targetId : String
  provider : String
  runtime : CoverageTargetRuntime
  release : CoverageTargetRelease
deriving DecidableEq

structure CoverageFactAuthorization where
  domain : String
  applicationId : String
  policyVersionId : String
  policyDigest : String
  artifactDigest : String
  cycleId : String
  target : CoverageTarget
  deploymentId : String
  jobId : String
  processorId : String
  probeVersion : String
  profileVersion : String
  sequence : ℕ
  issuedAtMs : ℕ
  expiresAtMs : ℕ
  challenge : String
  replaySubject : String
  submitUrl : String
  networkProberUrl : Option String
  networkTraversal : Option TraversalCapabilityV1
deriving DecidableEq

/-- `LISKOV_PROCESSOR_COVERAGE_RESULT_DOMAIN_V1`. -/
def coverageResultDomain : String := "proof.liskov.processor-coverage-result.v1"

/-- `COVERAGE_RESULT_PATH`. -/
def coverageResultPath : String := "/api/jobs/coverage-result"

/-- `MAX_IDENTITY_BYTES`. -/
def maxIdentityBytes : ℕ := 256

/-- `MAX_AUTHORIZATION_LIFETIME_MS`. -/
def maxAuthorizationLifetimeMs : ℕ := 86400000

/-- `AUTHORIZATION_FUTURE_TOLERANCE_MS`. -/
def authorizationFutureToleranceMs : ℕ := 60 * 1000

/-- `MAX_SUBMISSION_BYTES`. -/
def maxSubmissionBytes : ℕ := 16 * 1024

/-- A character of an identifier. -/
def isIdentifierChar (c : Char) : Bool :=
  ('a' ≤ c && c ≤ 'z') || ('A' ≤ c && c ≤ 'Z') || ('0' ≤ c && c ≤ '9')
    || c = '.' || c = '_' || c = ':' || c = '-'

/-- `bounded_identifier`. -/
def isBoundedIdentifier (value : String) (limit : ℕ) : Bool :=
  value ≠ "" && value.utf8ByteSize ≤ limit && value.toList.all isIdentifierChar

namespace CoverageFactAuthorization

/-- The fields that are identifiers. -/
def identifiers (a : CoverageFactAuthorization) : List String :=
  [a.applicationId, a.policyVersionId, a.cycleId, a.deploymentId, a.processorId, a.probeVersion,
    a.profileVersion, a.replaySubject, a.target.targetId, a.target.provider]

/-- `structurally_valid`. -/
def structurallyValid (a : CoverageFactAuthorization) : Bool :=
  a.domain = coverageResultDomain
    && (a.identifiers.all fun value => isBoundedIdentifier value maxIdentityBytes)
    && a.jobId ≠ "" && a.jobId.utf8ByteSize ≤ maxIdentityBytes
    && isSha256Text a.policyDigest && isSha256Text a.artifactDigest
    && ((stripStart "0x" a.challenge).any fun hex => isLowerHex hex 32)
    && a.sequence ≤ maxSafeInteger && a.issuedAtMs ≤ maxSafeInteger
    && a.expiresAtMs ≤ maxSafeInteger && a.issuedAtMs < a.expiresAtMs
    && a.expiresAtMs - a.issuedAtMs ≤ maxAuthorizationLifetimeMs

/-- `valid_at`. -/
def validAt (a : CoverageFactAuthorization) (nowMs : ℕ) : Bool :=
  nowMs < a.expiresAtMs && a.issuedAtMs ≤ saturatingAdd nowMs authorizationFutureToleranceMs

end CoverageFactAuthorization

/-- A URL, in its parts. -/
structure SubmitUrl where
  scheme : String
  host : Option String
  username : String
  password : Option String
  portOrKnownDefault : Option ℕ
  path : String
  query : Option String
  fragment : Option String

/-- The library for URLs. -/
structure SubmitUrls where
  parse : String → Option SubmitUrl
  render : SubmitUrl → String

/-- Nothing but a scheme, a host, a port and a path. -/
def SubmitUrl.isPlain (url : SubmitUrl) : Bool :=
  url.scheme = "https" && url.username = "" && url.password.isNone && url.query.isNone
    && url.fragment.isNone

/-- `coverage_submit_url`: the place on the origin of the bootstrap. What the
authorization says can only confirm it. -/
def coverageSubmitUrl (urls : SubmitUrls) (slipwayUrl blockSubmitUrl : String) : Option String := do
  let base ← urls.parse slipwayUrl
  if !base.isPlain || base.host.isNone then none
  else
    let block ← urls.parse blockSubmitUrl
    if block.isPlain && block.host = base.host
      && block.portOrKnownDefault = base.portOrKnownDefault && block.path = coverageResultPath
    then some (urls.render { base with path := coverageResultPath }) else none

structure CoverageAuthorization where
  authorization : CoverageFactAuthorization
  submitUrl : String
deriving DecidableEq

/-- `is_native_image_target`. -/
def CoverageAuthorization.isNativeImageTarget (coverage : CoverageAuthorization) : Bool :=
  coverage.authorization.target.runtime = .nativeImage

section Take

variable (urls : SubmitUrls) (fromValue : Json → Option CoverageFactAuthorization)

/-- `take_coverage_authorization`. -/
def takeCoverageAuthorization (bootstrap : RuntimeBootstrapResponse)
    (factAuthorization : Option Json) : Option CoverageAuthorization := do
  let raw ← factAuthorization
  let a ← fromValue raw
  if !a.structurallyValid || a.networkProberUrl.any (fun u => u ≠ networkProberUrl)
    || a.networkTraversal.any (fun grant => !grant.grantStructureOk a.artifactDigest dormantHelper)
  then none
  else if a.deploymentId ≠ bootstrap.deploymentId || a.jobId ≠ bootstrap.jobId
    || a.processorId ≠ bootstrap.processorId then none
  else
    let submitUrl ← coverageSubmitUrl urls bootstrap.slipwayUrl a.submitUrl
    return ⟨a, submitUrl⟩

end Take

/-! ## The result -/

def CoverageTargetRuntime.name : CoverageTargetRuntime → String
  | javascript => "javascript"
  | nativeImage => "native_image"

def CoverageTargetRelease.name : CoverageTargetRelease → String
  | source => "source"
  | pinned => "pinned"

def CoverageTarget.toJson (t : CoverageTarget) : Json :=
  .obj [("targetId", .str t.targetId), ("provider", .str t.provider),
    ("runtime", .str t.runtime.name), ("release", .str t.release.name)]

/-- The result of one run. What it has of the authorization is copied. -/
structure CoverageResultV1 where
  authorization : CoverageFactAuthorization
  outcomes : List CoverageOutcome
  networkSample : Option NetworkSampleV1
  inboundReachability : Option InboundReachabilityV1
  normalizedMetricDigest : String

/-- The members of a result before it is signed. There is no traversal in it. -/
def CoverageResultV1.members (r : CoverageResultV1) : List (String × Json) :=
  let a := r.authorization
  [("domain", .str coverageResultDomain), ("applicationId", .str a.applicationId),
    ("policyVersionId", .str a.policyVersionId), ("policyDigest", .str a.policyDigest),
    ("artifactDigest", .str a.artifactDigest), ("cycleId", .str a.cycleId),
    ("target", a.target.toJson), ("deploymentId", .str a.deploymentId), ("jobId", .str a.jobId),
    ("processorId", .str a.processorId), ("probeVersion", .str a.probeVersion),
    ("profileVersion", .str a.profileVersion), ("sequence", .num a.sequence),
    ("issuedAtMs", .num a.issuedAtMs), ("expiresAtMs", .num a.expiresAtMs),
    ("outcomes", .arr (r.outcomes.map CoverageOutcome.toJson))]
    ++ (r.networkSample.map fun s => ("networkSample", s.toJson)).toList
    ++ (r.inboundReachability.map fun b => ("inboundReachability", b.toJson)).toList
    ++ [("normalizedMetricDigest", .str r.normalizedMetricDigest),
      ("challenge", .str a.challenge), ("replaySubject", .str a.replaySubject)]

/-- What is signed. -/
def CoverageResultV1.message (r : CoverageResultV1) : String :=
  canonicalJsonBytes (.obj r.members)

/-- What is sent. -/
def CoverageResultV1.body (r : CoverageResultV1) (signature : String) : String :=
  canonicalJsonBytes (.obj (r.members ++ [("signature", .str signature)]))

/-! ## The producer -/

inductive CoverageProducerOutcome where
  | submitted | clockUnavailable | authorizationExpired | envelopeUnrepresentable
  | oversizeRefused | signingFailed | deliveryFailed

/-- When the contact was made. -/
structure CoverageContactObservation where
  startedAtMs : ℕ
  completedAtMs : ℕ

/-- The outcome of a probe on the device itself: what has begun after it was
over has taken no time. -/
def localOutcome (probeId : String) (startedAtMs completedAtMs : ℕ) : CoverageOutcome :=
  let completed := min completedAtMs maxSafeInteger
  let started := min startedAtMs completed
  ⟨probeId, .succeeded, "processor-local", started, completed, completed - started, 0, 0, []⟩

section Producer

variable (sha256 : List UInt8 → Digest) (hasSampler : Bool) (helper : TraversalHelperIdentity)

/-- The digest of a value. -/
def metricDigest (value : Json) : String :=
  "sha256:" ++ hexEncode (sha256 (utf8 (canonicalJsonBytes value))).toList

/-- `HardwareSourceReadingsV1`, as it is written. -/
def hardwareReadings (collectedAtMs : ℕ) (android execution : Json) : Json :=
  .obj [("domain", .str "proof.liskov.processor-hardware.v1"),
    ("profile", .str "cargo-baseline-v1"), ("helperVersion", .str packageVersion),
    ("collectedAtMs", .num collectedAtMs), ("android", android), ("execution", execution)]

/-- The capture of the hardware, for a target that is a native image: its
outcome and the digest of the readings, which are then dropped. -/
def captureHardware (coverage : CoverageAuthorization) : Program CoverageCall CoverageReply
    (Except CoverageProducerOutcome (Option (CoverageOutcome × String))) := do
  if !coverage.isNativeImageTarget then return .ok none
  else
    match (← perform .nowMs).now with
    | none => return .error .clockUnavailable
    | some started =>
      let android := (← perform .collectAndroid).value
      let execution := (← perform .collectExecution).value
      let digest := metricDigest sha256
        (hardwareReadings (min started maxSafeInteger) android execution)
      match (← perform .nowMs).now with
      | none => return .error .clockUnavailable
      | some completed => return .ok (some (localOutcome "hardware-capture" started completed, digest))

/-- The sample of the network, if one is authorized. It is skipped unless
there is time for the delivery after it. -/
def sampleNetwork (a : CoverageFactAuthorization) :
    Program CoverageCall CoverageReply (Option NetworkSampleOutput) := do
  match a.networkProberUrl with
  | none => return none
  | some url =>
    if !hasSampler then return none
    else
      match (← perform .nowMs).now with
      | none => return none
      | some started =>
        if a.expiresAtMs - started < existingDeliveryReserveMs
        then return some ⟨skippedSample started, none⟩
        else return some (← perform (.sample url a.challenge started)).output

/-- The result, of what was measured. -/
def assemble (a : CoverageFactAuthorization) (observation : CoverageContactObservation)
    (hardware : Option (CoverageOutcome × String)) (network : Option NetworkSampleOutput) :
    Except CoverageProducerOutcome CoverageResultV1 := do
  let sample := network.map NetworkSampleOutput.sample
  let inbound := network.bind NetworkSampleOutput.inbound
  require (sample.all NetworkSampleV1.isValid) .envelopeUnrepresentable
  require (inbound.all InboundReachabilityV1.isValid) .envelopeUnrepresentable
  let outcomes :=
    [localOutcome "runtime-bootstrap" observation.startedAtMs observation.completedAtMs]
      ++ (hardware.map Prod.fst).toList
      ++ (sample.map NetworkSampleV1.coverageOutcomes).getD []
      ++ (inbound.map inboundOutcomes).getD []
  let digest := match hardware with
    | some (_, digest) => digest
    | none => metricDigest sha256 (.arr (outcomes.map CoverageOutcome.toJson))
  return ⟨a, outcomes, sample, inbound, digest⟩

/-- The delivery, tried some times. -/
def deliverTimes (coverage : CoverageAuthorization) (body : String) :
    ℕ → Program CoverageCall CoverageReply CoverageProducerOutcome
  | 0 => return .deliveryFailed
  | n + 1 => do
    match (← perform .nowMs).now with
    | none => return .clockUnavailable
    | some now =>
      if now ≥ coverage.authorization.expiresAtMs then return .authorizationExpired
      else if (← perform (.deliver coverage.submitUrl body)).isTrue then return .submitted
      else deliverTimes coverage body n

/-- A result is signed and sent. -/
def submit (coverage : CoverageAuthorization) (result : CoverageResultV1) :
    Program CoverageCall CoverageReply CoverageProducerOutcome := do
  match (← perform (.signEd25519 result.message)).signed with
  | none => return .signingFailed
  | some signature =>
    if (result.body signature).utf8ByteSize > maxSubmissionBytes then return .oversizeRefused
    else deliverTimes coverage (result.body signature) 2

/-- What is done under an authorization that is valid. -/
def measureAndSubmit (coverage : CoverageAuthorization) (observation : CoverageContactObservation) :
    Program CoverageCall CoverageReply CoverageProducerOutcome := do
  match ← captureHardware sha256 coverage with
  | .error outcome => return outcome
  | .ok hardware =>
    let network ← sampleNetwork hasSampler coverage.authorization
    match assemble sha256 coverage.authorization observation hardware network with
    | .error outcome => return outcome
    | .ok result => submit coverage result

/-- **`run_coverage_producer`.** -/
def runCoverageProducer (coverage : CoverageAuthorization)
    (observation : CoverageContactObservation) :
    Program CoverageCall CoverageReply CoverageProducerOutcome := do
  match (← perform .nowMs).now with
  | none => return .clockUnavailable
  | some nowMs =>
    let a := coverage.authorization
    if !a.validAt nowMs then return .authorizationExpired
    else
      match ← reserveTraversal a.networkTraversal nowMs a.expiresAtMs a.artifactDigest helper with
      | .refused _ => return .authorizationExpired
      | _ => measureAndSubmit sha256 hasSampler coverage observation

/-- The producer as it is started, if it is: with the authorization that was
taken from the bootstrap. -/
def coverageTask (urls : SubmitUrls) (fromValue : Json → Option CoverageFactAuthorization)
    (bootstrap : RuntimeBootstrapResponse) (factAuthorization : Option Json)
    (observation : CoverageContactObservation) :
    Program CoverageCall CoverageReply (Option CoverageProducerOutcome) :=
  match takeCoverageAuthorization urls fromValue bootstrap factAuthorization with
  | none => return none
  | some coverage => do
    return some (← runCoverageProducer sha256 hasSampler helper coverage observation)

end Producer
