import RuntimeCargo.Gateway
import RuntimeCargo.Traversal

/-!
# The request for a payload

A payload is fetched by a request that the runtime signs: it names the
artifact, who asks for it and on whose behalf, the part of the artifact that
is wanted, and a short time in which it may be used
(`PayloadDownloadRequestV1`). What is signed is the text of the request
(`PayloadDownloadRequestV1.message`), and the same checks are made on both
sides (`PayloadDownloadRequestV1.validate`).

The part that is wanted is the whole artifact or one closed range of bytes.
Its other spelling is the `Range` header of the exchange, which has to say
the same (`PayloadDownloadRangeV1.fromHeader`).

Numbers that are signed in the source are integers here and those that are
not are natural numbers; a sum or a difference that has to fit is checked
where the source checks it.
-/

/-- `PayloadDownloadRefusal`, the cases that the checks here report. -/
inductive PayloadDownloadRefusal where
  | malformedEnvelope | envelopeTooLarge | unsupportedDomain | invalidDigest | invalidIdentity
  | invalidJobReference | methodMismatch | targetMismatch | invalidRange | rangeMismatch
  | rangeUnsatisfiable | overflow | invalidTime | notYetValid | expired | invalidNonce
  | invalidSignature | nonceReplayed | wrongApplication | wrongJob | wrongIncarnation
  | wrongArtifact | wrongLaunch | wrongWorkload
deriving DecidableEq

/-! ## Texts and limits -/

/-- `PAYLOAD_DOWNLOAD_DOMAIN_V1`. -/
def payloadDownloadDomain : String := "proof.liskov.payload-download.v1"

/-- `MAX_PAYLOAD_DOWNLOAD_ENVELOPE_BYTES`. -/
def maxPayloadDownloadEnvelopeBytes : ℕ := 8192

/-- `MAX_PAYLOAD_DOWNLOAD_VALIDITY_MS`. -/
def maxPayloadDownloadValidityMs : ℤ := 60000

/-- `PAYLOAD_MAX_SAFE_INTEGER`. -/
def payloadMaxSafeInteger : ℕ := 2 ^ 53 - 1

/-- A number that is kept in 64 signed bits. -/
def inI64 (n : ℤ) : Option ℤ := if -2 ^ 63 ≤ n ∧ n < 2 ^ 63 then some n else none

/-- A number in decimal without anything else in front of it, up to a
limit. -/
def canonicalDecimal (limit : ℕ) (text : String) : Option ℕ :=
  let digits := text.toList
  if digits = [] ∨ ¬ digits.all Char.isDigit ∨ (digits.length > 1 ∧ digits.head? = some '0') then
    none
  else
    let value := digits.foldl (fun n c => 10 * n + (c.toNat - 48)) 0
    if value ≤ limit then some value else none

/-- `canonical_u64`. -/
def canonicalU64 (text : String) : Option ℕ := canonicalDecimal u64Max text

/-- What `parse::<u128>` makes of the number of a job. -/
def canonicalU128 (text : String) : Option ℕ := canonicalDecimal (2 ^ 128 - 1) text

/-- `token`. -/
def isToken (text : String) (most : ℕ) : Bool :=
  text ≠ "" && text.utf8ByteSize ≤ most
    && text.toList.all fun c => c.isAlphanum || ['.', '_', ':', '-'].contains c

/-! ## The part of the artifact -/

/-- `PayloadDownloadRangeV1`. -/
inductive PayloadDownloadRangeV1 where
  | whole
  | bytes (start endInclusive : ℕ)
deriving DecidableEq

/-- `PayloadByteSelectionV1`. -/
structure PayloadByteSelectionV1 where
  offset : ℕ
  length : ℕ

namespace PayloadDownloadRangeV1

/-- `PayloadDownloadRangeV1::validate`. -/
def validate : PayloadDownloadRangeV1 → Except PayloadDownloadRefusal Unit
  | whole => return ()
  | bytes start endInclusive => do
    require (start ≤ endInclusive) .invalidRange
    let _ ← ((checkedSub endInclusive start).bind fun n => checkedAdd n 1).okOr .overflow
    require (endInclusive ≤ payloadMaxSafeInteger) .invalidRange

/-- `PayloadDownloadRangeV1::from_header`. -/
def fromHeader : Option String → Except PayloadDownloadRefusal PayloadDownloadRangeV1
  | none => return whole
  | some header => do
    let (start, last) ← ((stripStart "bytes=" header).bind fun s =>
      splitOnce ['-'] s.toList).okOr .invalidRange
    let start ← (canonicalU64 (String.ofList start)).okOr .invalidRange
    let endInclusive ← (canonicalU64 (String.ofList last)).okOr .invalidRange
    (bytes start endInclusive).validate
    return bytes start endInclusive

/-- The header that asks for the part. -/
def header : PayloadDownloadRangeV1 → Option String
  | whole => none
  | bytes start endInclusive => some ("bytes=" ++ toString start ++ "-" ++ toString endInclusive)

/-- The header that announces the part of an artifact of some size. -/
def contentRange (size : ℕ) : PayloadDownloadRangeV1 → Option String
  | whole => none
  | bytes start endInclusive =>
    some ("bytes " ++ toString start ++ "-" ++ toString endInclusive ++ "/" ++ toString size)

/-- `PayloadDownloadRangeV1::select`. -/
def select (range : PayloadDownloadRangeV1) (objectSize : ℕ) :
    Except PayloadDownloadRefusal PayloadByteSelectionV1 := do
  range.validate
  require (objectSize ≠ 0 ∧ objectSize ≤ payloadMaxSafeInteger) .rangeUnsatisfiable
  match range with
  | whole => return ⟨0, objectSize⟩
  | bytes start endInclusive =>
    require (endInclusive < objectSize) .rangeUnsatisfiable
    return ⟨start, endInclusive - start + 1⟩

/-- The text of a range in a request. -/
def toJson : PayloadDownloadRangeV1 → Json
  | whole => .obj [("mode", .str "whole")]
  | bytes start endInclusive =>
    .obj [("mode", .str "bytes"), ("start", .num start), ("endInclusive", .num endInclusive)]

end PayloadDownloadRangeV1

/-! ## The request -/

/-- `PayloadJobRefV1`. -/
structure PayloadJobRefV1 where
  originKind : String
  originKey : String
  sequence : String
deriving DecidableEq

/-- `PayloadLaunchBindingV1`. -/
structure PayloadLaunchBindingV1 where
  launchId : String
  policyDigest : String
deriving DecidableEq

/-- `PayloadWorkloadBindingV1`. -/
structure PayloadWorkloadBindingV1 where
  authorizationId : String
  revisionDigest : String
  policyDigest : String
deriving DecidableEq

/-- `PayloadDownloadBindingV1`: what a request is bound to. -/
structure PayloadDownloadBindingV1 where
  organisationId : String
  applicationUid : String
  job : PayloadJobRefV1
  processorId : String
  runtimeInstanceId : String
  artifactDigest : String
  launch : PayloadLaunchBindingV1
  workload : Option PayloadWorkloadBindingV1
  authorizationExpiresAtMs : ℤ

/-- `PayloadDownloadRequestV1`. -/
structure PayloadDownloadRequestV1 where
  domain : String
  method : String
  requestTarget : String
  range : PayloadDownloadRangeV1
  artifactDigest : String
  organisationId : String
  applicationUid : String
  job : PayloadJobRefV1
  processorId : String
  runtimeInstanceId : String
  launch : PayloadLaunchBindingV1
  workload : Option PayloadWorkloadBindingV1
  issuedAtMs : ℤ
  expiresAtMs : ℤ
  nonce : String

/-- `SignedPayloadDownloadRequestV1`. -/
structure SignedPayloadDownloadRequestV1 where
  request : PayloadDownloadRequestV1
  signature : String

/-- The path of an artifact. -/
def payloadTarget (artifactDigest : String) : String := "/v1/payloads/" ++ artifactDigest

def PayloadJobRefV1.toJson (j : PayloadJobRefV1) : Json :=
  .obj [("originKind", .str j.originKind), ("originKey", .str j.originKey),
    ("sequence", .str j.sequence)]

def PayloadLaunchBindingV1.toJson (l : PayloadLaunchBindingV1) : Json :=
  .obj [("launchId", .str l.launchId), ("policyDigest", .str l.policyDigest)]

def PayloadWorkloadBindingV1.toJson (w : PayloadWorkloadBindingV1) : Json :=
  .obj [("authorizationId", .str w.authorizationId), ("revisionDigest", .str w.revisionDigest),
    ("policyDigest", .str w.policyDigest)]

namespace PayloadDownloadRequestV1

/-- The members of a request, in the order of their declaration. -/
def toJson (r : PayloadDownloadRequestV1) : Json :=
  .obj [("domain", .str r.domain), ("method", .str r.method),
    ("requestTarget", .str r.requestTarget), ("range", r.range.toJson),
    ("artifactDigest", .str r.artifactDigest), ("organisationId", .str r.organisationId),
    ("applicationUid", .str r.applicationUid), ("job", r.job.toJson),
    ("processorId", .str r.processorId), ("runtimeInstanceId", .str r.runtimeInstanceId),
    ("launch", r.launch.toJson),
    ("workload", Json.ofOption PayloadWorkloadBindingV1.toJson r.workload),
    ("issuedAtMs", .num r.issuedAtMs), ("expiresAtMs", .num r.expiresAtMs),
    ("nonce", .str r.nonce)]

/-- The checks of the job that a request names. -/
def checkJob (job : PayloadJobRefV1) : Except PayloadDownloadRefusal Unit :=
  require (isToken job.originKind 32 ∧ isToken job.originKey 256
    ∧ (canonicalU128 job.sequence).isSome) .invalidJobReference

/-- The checks of the workload that a request names, if it names one. -/
def checkWorkload : Option PayloadWorkloadBindingV1 → Except PayloadDownloadRefusal Unit
  | none => return ()
  | some workload => do
    require (isToken workload.authorizationId 128) .invalidIdentity
    require (isSha256Text workload.revisionDigest ∧ isSha256Text workload.policyDigest)
      .invalidDigest

/-- `PayloadDownloadRequestV1::validate`. -/
def validate (r : PayloadDownloadRequestV1) : Except PayloadDownloadRefusal Unit := do
  require (r.domain = payloadDownloadDomain) .unsupportedDomain
  require (isSha256Text r.artifactDigest ∧ isSha256Text r.launch.policyDigest) .invalidDigest
  require (r.method = "GET") .methodMismatch
  require (r.requestTarget = payloadTarget r.artifactDigest) .targetMismatch
  r.range.validate
  require (isToken r.organisationId 128 ∧ isToken r.applicationUid 128
    ∧ isToken r.processorId 128 ∧ isToken r.runtimeInstanceId 128
    ∧ isToken r.launch.launchId 128) .invalidIdentity
  checkJob r.job
  checkWorkload r.workload
  let span ← (inI64 (r.expiresAtMs - r.issuedAtMs)).okOr .overflow
  require (0 ≤ r.issuedAtMs ∧ r.expiresAtMs ≤ payloadMaxSafeInteger
    ∧ 1 ≤ span ∧ span ≤ maxPayloadDownloadValidityMs) .invalidTime
  require (isLowerHex r.nonce 32) .invalidNonce

/-- `PayloadDownloadRequestV1::message`: the text that is signed. -/
def message (r : PayloadDownloadRequestV1) : Except PayloadDownloadRefusal String := do
  r.validate
  require (r.toJson.size ≤ maxPayloadDownloadEnvelopeBytes) .envelopeTooLarge
  return r.toJson.render

/-- `PayloadDownloadRequestV1::validate_transport`. -/
def validateTransport (r : PayloadDownloadRequestV1) (method target : String)
    (rangeHeader : Option String) (nowMs : ℤ) : Except PayloadDownloadRefusal Unit := do
  r.validate
  require (method = r.method) .methodMismatch
  require (target = r.requestTarget) .targetMismatch
  let range ← PayloadDownloadRangeV1.fromHeader rangeHeader
  require (range = r.range) .rangeMismatch
  require (r.issuedAtMs ≤ nowMs) .notYetValid
  require (nowMs < r.expiresAtMs) .expired

/-- `PayloadDownloadRequestV1::validate_binding`. -/
def validateBinding (r : PayloadDownloadRequestV1) (expected : PayloadDownloadBindingV1) :
    Except PayloadDownloadRefusal Unit := do
  r.validate
  require (r.organisationId = expected.organisationId
    ∧ r.applicationUid = expected.applicationUid) .wrongApplication
  require (r.job = expected.job ∧ r.processorId = expected.processorId) .wrongJob
  require (r.runtimeInstanceId = expected.runtimeInstanceId) .wrongIncarnation
  require (r.artifactDigest = expected.artifactDigest) .wrongArtifact
  require (r.launch = expected.launch) .wrongLaunch
  require (r.workload = expected.workload) .wrongWorkload
  require (r.expiresAtMs ≤ expected.authorizationExpiresAtMs) .expired

end PayloadDownloadRequestV1

namespace SignedPayloadDownloadRequestV1

def toJson (e : SignedPayloadDownloadRequestV1) : Json :=
  .obj [("request", e.request.toJson), ("signature", .str e.signature)]

/-- `SignedPayloadDownloadRequestV1::parse`, with the reader of the envelope
as a parameter. -/
def parse (fromSlice : String → Option SignedPayloadDownloadRequestV1) (text : String) :
    Except PayloadDownloadRefusal SignedPayloadDownloadRequestV1 := do
  require (text.utf8ByteSize ≤ maxPayloadDownloadEnvelopeBytes) .envelopeTooLarge
  let envelope ← (fromSlice text).okOr .malformedEnvelope
  envelope.request.validate
  require (isLowerHex envelope.signature 64) .invalidSignature
  return envelope

end SignedPayloadDownloadRequestV1
