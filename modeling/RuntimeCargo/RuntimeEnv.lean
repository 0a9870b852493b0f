import RuntimeCargo.JobSecrets

/-!
# The signed runtime environment

The variables the service sets for a job. They are asked for with a signed
request and come back in a response bound to it. The response is refused
as a whole if one of its names is not an upper-case variable name or is
one of the names that belong to the runtime, so a map that is accepted has
none of them (`validateResponse_unprotected`).
-/

/-! ## Names of the runtime -/

def bootstrapEnv : String := "LISKOV_BOOTSTRAP"

def legacyBootstrapEnv : String := "PROOF_SLIPWAY_BOOTSTRAP"

def supervisionCanaryEnv : String := "LISKOV_CARGO_SUPERVISION_CANARY_JSON"

def runtimeSshCredentialEnv : String := "LISKOV_RUNTIME_SSH_CREDENTIAL_V1"

/-- `PROTECTED_ENV_NAMES`: the names that carry credentials and controls
of the runtime. -/
def protectedEnvNames : List String :=
  [bootstrapEnv, legacyBootstrapEnv, supervisionCanaryEnv, runtimeSshCredentialEnv]

/-! ## The request and the response -/

/-- `RuntimeEnvError`, without the errors it wraps. -/
inductive RuntimeEnvError where
  | invalidEndpoint
  | timestampOverflow
  | signing
  | invalidSignature
  | transport
  | rejected
  | invalidResponse
  | responseBinding
  deriving DecidableEq, Repr

/-- The result of a step that reads the environment. -/
abbrev RuntimeEnvResult := Except RuntimeEnvError

/-- `UnsignedRuntimeEnvRequest`. -/
structure UnsignedRuntimeEnvRequest where
  applicationUid : String
  applicationId : String
  policyDigest : String
  jobId : String
  deploymentId : String
  processorId : String
  nonce : String
  issuedAtMs : ℕ
  expiresAtMs : ℕ

/-- The members of the request, in the order of its fields. -/
def UnsignedRuntimeEnvRequest.members (request : UnsignedRuntimeEnvRequest) :
    List (String × Json) :=
  [("domain", .str "proof.liskov.runtime-env-request.v2"),
    ("applicationUid", .str request.applicationUid),
    ("applicationId", .str request.applicationId),
    ("policyDigest", .str request.policyDigest),
    ("jobId", .str request.jobId),
    ("deploymentId", .str request.deploymentId),
    ("processorId", .str request.processorId),
    ("nonce", .str request.nonce),
    ("issuedAtMs", .num request.issuedAtMs),
    ("expiresAtMs", .num request.expiresAtMs)]

/-- `RuntimeEnvResponse`. -/
structure RuntimeEnvResponse where
  ok : Bool
  domain : String
  requestId : String
  applicationUid : String
  applicationId : String
  policyDigest : String
  jobId : String
  deploymentId : String
  processorId : String
  revision : String
  issuedAtMs : ℕ
  expiresAtMs : ℕ
  refreshAfterMs : ℕ
  values : StringMap

/-- A map of texts; of a key that comes twice the last value stays. -/
def Json.asStringMap (value : Json) : Option StringMap := do
  let members ← value.asObject
  let pairs ← members.mapM fun m => m.2.asStr.map fun text => (m.1, text)
  some ((∅ : StringMap).insertMany pairs)

/-- The fields of the response, in order. -/
def runtimeEnvFields : List String :=
  ["ok", "domain", "requestId", "applicationUid", "applicationId", "policyDigest", "jobId",
    "deploymentId", "processorId", "revision", "issuedAtMs", "expiresAtMs", "refreshAfterMs",
    "values"]

/-- The response from its fields by position. -/
def RuntimeEnvResponse.ofFields : List Json → Option RuntimeEnvResponse
  | [.bool ok, .str domain, .str requestId, .str applicationUid, .str applicationId,
      .str policyDigest, .str jobId, .str deploymentId, .str processorId, .str revision,
      issuedAtMs, expiresAtMs, refreshAfterMs, values] => do
    some
      { ok, domain, requestId, applicationUid, applicationId, policyDigest, jobId, deploymentId,
        processorId, revision
        issuedAtMs := ← issuedAtMs.asU64
        expiresAtMs := ← expiresAtMs.asU64
        refreshAfterMs := ← refreshAfterMs.asU64
        values := ← values.asStringMap }
  | _ => none

/-- `from_slice`: every field once and no other, or a sequence of them. -/
def RuntimeEnvResponse.ofJson : Json → Option RuntimeEnvResponse
  | .obj members =>
    if (members.map Prod.fst).Nodup ∧ (members.map Prod.fst).all runtimeEnvFields.contains = true
    then do
      let fields ← runtimeEnvFields.mapM fun field => (Json.obj members).get? field
      RuntimeEnvResponse.ofFields fields
    else none
  | .arr items => RuntimeEnvResponse.ofFields items
  | _ => none

/-- `valid_env_name`: upper-case letters, digits and underscores, and no
digit at the front. -/
def validEnvName (name : String) : Bool :=
  match name.toList with
  | [] => false
  | c :: rest =>
    let start := fun c : Char => ('A' ≤ c && c ≤ 'Z') || c = '_'
    start c && rest.all fun d => start d || ('0' ≤ d && d ≤ '9')

def maxRuntimeEnvValues : ℕ := 128

/-- `validate_response`. -/
def validateResponse (request : UnsignedRuntimeEnvRequest) (body : Option Json) :
    RuntimeEnvResult StringMap := do
  let response ← (body.bind RuntimeEnvResponse.ofJson).okOr .invalidResponse
  require (response.ok = true ∧ response.domain = "proof.liskov.runtime-env-response.v2"
    ∧ response.requestId ≠ "" ∧ response.revision ≠ ""
    ∧ response.issuedAtMs < response.expiresAtMs
    ∧ response.issuedAtMs ≤ response.refreshAfterMs
    ∧ response.refreshAfterMs ≤ response.expiresAtMs) .invalidResponse
  require (response.applicationUid = request.applicationUid
    ∧ response.applicationId = request.applicationId
    ∧ response.policyDigest = request.policyDigest ∧ response.jobId = request.jobId
    ∧ response.deploymentId = request.deploymentId
    ∧ response.processorId = request.processorId) .responseBinding
  require (response.values.size ≤ maxRuntimeEnvValues
    ∧ ∀ entry ∈ response.values.toList, validEnvName entry.1 = true
      ∧ entry.1 ∉ protectedEnvNames ∧ '\x00' ∉ entry.2.toList) .invalidResponse
  return response.values

/-- **An accepted map has none of the runtime's names.** -/
theorem validateResponse_unprotected {request : UnsignedRuntimeEnvRequest} {body : Option Json}
    {values : StringMap} (h : validateResponse request body = .ok values) {name : String}
    (hname : name ∈ protectedEnvNames) : name ∉ values := by
  obtain ⟨response, -, h⟩ := Option.okOr_bind_eq_ok.mp h
  obtain ⟨-, h⟩ := require_bind_eq_ok.mp h
  obtain ⟨-, h⟩ := require_bind_eq_ok.mp h
  obtain ⟨⟨-, hvalues⟩, h⟩ := require_bind_eq_ok.mp h
  cases h
  intro hmem
  obtain ⟨value, hvalue⟩ := Option.isSome_iff_exists.mp (Std.ExtTreeMap.mem_iff_isSome_getElem?.mp hmem)
  exact (hvalues (name, value) (Std.ExtTreeMap.mem_toList_iff_getElem?_eq_some.mpr hvalue)).2.1 hname

