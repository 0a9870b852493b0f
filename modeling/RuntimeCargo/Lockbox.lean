import RuntimeCargo.Check
import RuntimeCargo.Wire

/-!
# The Lockbox wire

How a job asks for its secrets. Two signed requests are posted: the first
asks the secrets service which secrets the job has a grant for, the second
asks the Lockbox the service names for their values. The answer of the
Lockbox has a list of versions in the clear, which says what is delivered,
and an encrypted payload with the values. Both are checked against the
request and against each other before anything of them is used.

The functions here are those of the source, with the same checks in the
same order and the same error for each. Two things are left to parameters,
collected in `LockboxWorld`: what the outside answers – the bridge to the
processor's signer and the HTTP service, whose calls are numbered, since
they may answer differently each time – and the crates the source calls: a
hash, a parser of URLs and a parser of JSON. A text that is only parsed is
represented by what the parser makes of it, so a body is an
`Option Json`.
-/

/-! ## Errors -/

/-- `LogConfigSecretError`, without the errors it wraps. -/
inductive LogConfigSecretError where
  | fileInstallation
  | invalidBootstrap
  | clock
  | timestampOverflow
  | randomness
  | encryptionKey
  | invalidEncryptionKey
  | signing
  | invalidSignature
  | transport
  | rejected
  | invalidResponse
  | responseBinding
  | decryption
  | invalidPlaintext
  deriving DecidableEq, Repr

/-- The result of a step that reads secrets. -/
abbrev SecretResult := Except LogConfigSecretError

/-! ## What a secret says about itself -/

/-- `Metadata`: where a secret goes. -/
structure Metadata where
  secretId : String
  versionId : String
  /-- `env` or `file`. -/
  target : String
  /-- The variable or the path. -/
  name : String
  required : Bool
  bundleId : String
  deriving DecidableEq

/-- `from_value`: the fields by name, other members being ignored, or, as
`serde` reads a struct from a sequence too, all of them by position. -/
def Metadata.ofJson : Json → Option Metadata
  | .obj members => do
    let v := Json.obj members
    some
      { secretId := ← (v.get? "secretId").bind Json.asStr
        versionId := ← (v.get? "versionId").bind Json.asStr
        target := ← (v.get? "target").bind Json.asStr
        name := ← (v.get? "name").bind Json.asStr
        required := ← (v.get? "required").bind Json.asBool
        bundleId := ← (v.get? "bundleId").bind Json.asStr }
  | .arr [.str secretId, .str versionId, .str target, .str name, .bool required,
      .str bundleId] =>
    some ⟨secretId, versionId, target, name, required, bundleId⟩
  | _ => none

/-- A name a variable may have: ASCII letters, digits and underscores, and
no digit at the front. A byte that is not ASCII is none of them, so the
characters may be asked instead of the bytes. -/
def isEnvName (name : String) : Bool :=
  match name.toList with
  | [] => true
  | c :: rest =>
    let start := fun c : Char => c = '_' || ('a' ≤ c && c ≤ 'z') || ('A' ≤ c && c ≤ 'Z')
    start c && rest.all fun d => start d || ('0' ≤ d && d ≤ '9')

/-- `metadata`. -/
def metadata (value : Json) : SecretResult Metadata := do
  let m ← (Metadata.ofJson value).okOr .invalidResponse
  require (m.secretId ≠ "" ∧ m.secretId.utf8ByteSize ≤ 256
    ∧ m.versionId ≠ "" ∧ m.versionId.utf8ByteSize ≤ 1024
    ∧ m.name ≠ "" ∧ m.name.utf8ByteSize ≤ 4096 ∧ '\x00' ∉ m.name.toList
    ∧ (m.target = "env" ∨ m.target = "file")) .invalidResponse
  require (m.target = "env" → '=' ∉ m.name.toList ∧ isEnvName m.name = true) .invalidResponse
  return m

/-- The loop of `validate_versions`: no identifier and no destination
twice. -/
def collectVersions : List Json → Finset String → Finset (String × String) →
    SecretResult (Finset String)
  | [], ids, _ => .ok ids
  | version :: rest, ids, destinations => do
    let m ← metadata version
    require (m.secretId ∉ ids ∧ (m.target, m.name) ∉ destinations) .responseBinding
    collectVersions rest (insert m.secretId ids) (insert (m.target, m.name) destinations)

/-- `validate_versions`. -/
def validateVersions (versions : Json) (requested : List String) : SecretResult Unit := do
  let versions ← versions.asArray.okOr .invalidResponse
  let ids ← collectVersions versions ∅ ∅
  require (requested ≠ [] ∧ requested.length ≤ 256 ∧ ids.card = requested.length
    ∧ ids = requested.toFinset) .responseBinding

/-- The loop of `validate_deliveries`: each secret is one of the versions,
has a value, and none comes twice. -/
def checkDeliveries (versions : List Json) : List Json → Finset String → SecretResult Unit
  | [], _ => .ok ()
  | secret :: rest, seen => do
    let m ← metadata secret
    require (m.secretId ∉ seen
      ∧ versions.any (fun version => (metadata version).toOption = some m) = true
      ∧ (secret.get "value").asStr ≠ none) .responseBinding
    require (m.target = "env" →
      ∀ value, (secret.get "value").asStr = some value → '\x00' ∉ value.toList) .invalidPlaintext
    checkDeliveries versions rest (insert m.secretId seen)

/-- `validate_deliveries`. -/
def validateDeliveries (secrets versions : Json) : SecretResult Unit := do
  let secrets ← secrets.asArray.okOr .invalidPlaintext
  let versions ← versions.asArray.okOr .invalidResponse
  require (secrets.length = versions.length) .responseBinding
  checkDeliveries versions secrets ∅

/-! ## The world -/

/-- The parts of a URL that are checked. -/
structure Url where
  scheme : String
  host : Option String
  username : String
  password : Option String
  query : Option String
  fragment : Option String

/-- What `HttpClient::post` gives. -/
inductive HttpOutcome where
  | transport
  | responseTooLarge
  /-- A response, its body as `serde_json` reads it. -/
  | response (status : ℕ) (body : Option Json)

/-- **What the wire relies on**: the processor behind the bridge, the
service behind the HTTP client, and the crates. -/
structure LockboxWorld where
  /-- The answer to a call of the bridge: the number of the call, the
  method and its parameters. -/
  call : ℕ → String → Json → Option Json
  /-- The answer to a post: the number of the post, the URL and the
  body. -/
  post : ℕ → String → Json → HttpOutcome
  /-- `Sha256::digest`. -/
  sha256 : List UInt8 → Digest
  /-- `Url::parse`. -/
  parseUrl : String → Option Url
  /-- `Url::join`. -/
  joinUrl : Url → String → Option String
  /-- `serde_json::from_slice`. -/
  fromSlice : List UInt8 → Option Json

/-- The authenticated answer of the first contact: what the environment
and the secrets of the job depend on. -/
structure RuntimeBootstrapResponse where
  applicationUid : String
  applicationId : String
  policyDigest : String
  deploymentId : String
  jobId : String
  processorId : String
  runtimeInstanceId : String
  slipwayUrl : String
  /-- The `enabled` and the `url` of `runtime_env`. -/
  runtimeEnv : Option (Bool × String)
  /-- `secrets.customer_required`, where both are present. -/
  customerRequired : Option Bool
  logging : Option Json

/-- `logging_enabled`: the object `enabled: true` and nothing else. -/
def RuntimeBootstrapResponse.loggingEnabled (bootstrap : RuntimeBootstrapResponse) : Bool :=
  match bootstrap.logging with
  | some (.obj [(key, value)]) => key = "enabled" && value.asBool = some true
  | _ => false

/-! ## Small checks -/

def maxConfigBytes : ℕ := 64 * 1024

def requestTtlMs : ℕ := 60000

/-- `normalize_policy_digest`. -/
def normalizePolicyDigest (value : String) : Option String :=
  let digest := toAsciiLowercase ((stripStart "sha256:" (trim value)).getD (trim value))
  if digest.utf8ByteSize = 64 ∧ digest.toList.all isAsciiHexDigit = true then some digest
  else none

/-- A text without `0x` or `0X` in front. -/
def stripHexMark (value : String) : String :=
  ((stripStart "0x" value).or (stripStart "0X" value)).getD value

/-- `normalize_public_key`. -/
def normalizePublicKey (value : String) : Option String :=
  let key := toAsciiLowercase (stripHexMark (trim value))
  if (key.utf8ByteSize = 66 ∨ key.utf8ByteSize = 130) ∧ key.toList.all isAsciiHexDigit = true then
    some key
  else none

/-- `normalize_hex_exact`. -/
def normalizeHexExact (value : String) (byteLen : ℕ) : Option String :=
  let digits := toAsciiLowercase (stripHexMark value)
  if digits.utf8ByteSize = 2 * byteLen ∧ digits.toList.all isAsciiHexDigit = true then some digits
  else none

/-- `required_bounded_string`. -/
def requiredBoundedString (value : Option Json) : SecretResult String := do
  let text ← (value.bind Json.asStr).okOr .invalidResponse
  require (text ≠ "" ∧ text.utf8ByteSize ≤ 2 * maxConfigBytes) .invalidResponse
  return text

/-- `required_sha256`. -/
def requiredSha256 (value : Option Json) : SecretResult String := do
  let text ← (value.bind Json.asStr).okOr .invalidResponse
  let digest ← (stripStart "sha256:" text).okOr .invalidResponse
  require (digest.utf8ByteSize = 64 ∧ digest.toList.all isAsciiHexDigit = true) .invalidResponse
  return "sha256:" ++ toAsciiLowercase digest

section World

variable (w : LockboxWorld)

/-- `sha256_prefixed`. -/
def sha256Prefixed (bytes : List UInt8) : String :=
  "sha256:" ++ hexEncode (w.sha256 bytes).toList

/-- A digest that was written is read back. -/
theorem requiredSha256_sha256Prefixed (bytes : List UInt8) :
    requiredSha256 (some (.str (sha256Prefixed w bytes))) = .ok (sha256Prefixed w bytes) := by
  obtain ⟨hall, hlower⟩ := hexDigits_hexEncode (w.sha256 bytes).toList
  refine Option.okOr_bind_eq_ok.mpr ⟨sha256Prefixed w bytes, rfl, ?_⟩
  refine Option.okOr_bind_eq_ok.mpr
    ⟨hexEncode (w.sha256 bytes).toList, stripStart_append "sha256:" _, ?_⟩
  refine require_bind_eq_ok.mpr ⟨⟨?_, hall⟩, ?_⟩
  · rw [size_hexEncode, Vector.length_toList]
  · rw [hlower]
    rfl

/-- `secure_join`. -/
def secureJoin (raw path : String) : SecretResult String := do
  let base ← (w.parseUrl raw).okOr .invalidBootstrap
  require (base.scheme = "https" ∧ base.host ≠ none ∧ base.username = "" ∧ base.password = none
    ∧ base.query = none ∧ base.fragment = none) .invalidBootstrap
  (w.joinUrl base path).okOr .invalidBootstrap

/-! ## The processor's keys -/

/-- `ResponseCurve`. -/
inductive ResponseCurve where
  | p256
  | secp256k1

/-- `bridge_curve`. -/
def ResponseCurve.bridgeCurve : ResponseCurve → String
  | p256 => "p256"
  | secp256k1 => "secp256k1"

/-- `envelope`. -/
def ResponseCurve.envelope : ResponseCurve → String × String
  | p256 => ("acurast-p256-hkdf-aes-256-gcm-v2", "secp256r1")
  | secp256k1 => ("acurast-secp256k1-hkdf-aes-256-gcm-v1", "secp256k1")

/-- `select_encryption_key`: the first curve with a key; a key that is
there and malformed is an error. -/
def selectEncryptionKey (result : Json) : SecretResult (Option (String × ResponseCurve)) :=
  let key := fun curve : ResponseCurve =>
    (result.get? "encryptionKeys").bind fun keys => keys.get? curve.bridgeCurve
  let select := fun (curve : ResponseCurve) (value : Json) =>
    ((value.asStr.bind normalizePublicKey).map fun text => some (text, curve)).okOr
      LogConfigSecretError.invalidEncryptionKey
  match key .p256, key .secp256k1 with
  | none, none | none, some .null | some .null, none | some .null, some .null => .ok none
  | none, some value | some .null, some value => select .secp256k1 value
  | some value, _ => select .p256 value

/-- The compressed generator of the curve. -/
def secp256k1PrimingPublicKey : String :=
  "0279be667ef9dcbbac55a06295ce870b07029bfcdb2dce28d959f2815b16f81798"

/-- `deployment_encryption_keys`. -/
def deploymentEncryptionKeys (n : ℕ) : SecretResult Json :=
  (w.call n "deployment_encryptionKeys" (.arr [])).okOr .encryptionKey

/-- `encryption_public_key`, from call `n` on. The call in between makes
the processor create a key; its answer is not looked at. -/
def encryptionPublicKey (n : ℕ) : SecretResult (String × ResponseCurve) := do
  let keys ← deploymentEncryptionKeys w n
  let selected ← selectEncryptionKey keys
  match selected with
  | some key => return key
  | none =>
    let keys ← deploymentEncryptionKeys w (n + 2)
    let selected ← selectEncryptionKey keys
    selected.okOr .invalidEncryptionKey

/-- `sign`. -/
def signMessage (n : ℕ) (message : String) : SecretResult String := do
  let result ← (w.call n "signer_sign" (.arr [.obj [("curve", .str "ed25519"),
    ("bytes", .str (hexEncode (utf8 message)))]])).okOr .signing
  let signature ← (((result.get? "bytes").bind Json.asStr).bind
    fun value => normalizeHexExact value 64).okOr .invalidSignature
  return "0x" ++ signature

/-- Post a body and read a reply of status 200 to 299. -/
def postJson (n : ℕ) (url : String) (body : Json) : SecretResult (Option Json) :=
  match w.post n url body with
  | .transport => .error .transport
  | .responseTooLarge => .error .invalidResponse
  | .response status reply =>
    if 200 ≤ status ∧ status < 300 then .ok reply else .error .rejected

/-! ## Discovery -/

/-- `requestedSecretIds` of the discovery response: at most 256 different
texts. -/
def requestedIds (items : List Json) : Option (List String) :=
  let ids := items.filterMap Json.asStr
  if items.length ≤ 256
      ∧ items.all (fun item => item.asStr.any fun id => id ≠ "" && id.utf8ByteSize ≤ 256) = true
      ∧ ids.toFinset.card = items.length then some ids
  else none

/-- A policy digest in a response, in its normal form. -/
def policyDigestOf (response : Json) : Option String :=
  normalizePolicyDigest ((response.get "policyDigest").asStr.getD "")

/-- `discover_lockbox_bootstrap_with`, from call `n` and post `k` on: the
compact bootstrap. The source writes it as a text that it then reads
back. -/
def discoverLockboxBootstrapWith (bootstrap : RuntimeBootstrapResponse) (secretsUrl : String)
    (nowMs : ℕ) (nonce : List UInt8) (n k : ℕ) : SecretResult Json := do
  let endpoint ← secureJoin w secretsUrl "/api/jobs/secret-bootstrap"
  let (responseEncryptionKey, _) ← encryptionPublicKey w n
  let expiresAtMs ← (checkedAdd nowMs requestTtlMs).okOr .timestampOverflow
  let unsigned : List (String × Json) :=
    [("domain", .str "proof.liskov.secret-bootstrap-request.v2"),
      ("jobId", .str bootstrap.jobId),
      ("processorId", .str bootstrap.processorId),
      ("responseEncryptionKey", .str responseEncryptionKey),
      ("nonce", .str (hexEncode nonce)),
      ("issuedAtMs", .num nowMs),
      ("expiresAtMs", .num expiresAtMs)]
  let signature ← signMessage w (n + 3) (canonicalJsonBytes (.obj unsigned))
  let reply ← postJson w k endpoint (.obj (unsigned ++ [("signature", .str signature)]))
  let response ← reply.okOr .invalidResponse
  let policyDigest ← (normalizePolicyDigest bootstrap.policyDigest).okOr .responseBinding
  let grantId ← requiredBoundedString (response.get? "grantId")
  let lockboxUrl ← requiredBoundedString (response.get? "lockboxUrl")
  let _ ← secureJoin w lockboxUrl "/api/jobs/secret-requests"
  let ids ← ((response.get "requestedSecretIds").asArray.bind requestedIds).okOr .invalidResponse
  require ((response.get "ok").asBool = some true
    ∧ (response.get "domain").asStr = some "proof.liskov.secret-bootstrap-response.v2"
    ∧ (response.get "applicationUid").asStr = some bootstrap.applicationUid
    ∧ (response.get "applicationId").asStr = some bootstrap.applicationId
    ∧ policyDigestOf response = some policyDigest
    ∧ (response.get "deploymentId").asStr = some bootstrap.deploymentId
    ∧ (response.get "jobId").asStr = some bootstrap.jobId
    ∧ (response.get "processorId").asStr = some bootstrap.processorId) .responseBinding
  return .obj [("v", .num 2), ("u", .str lockboxUrl), ("uid", .str bootstrap.applicationUid),
    ("a", .str bootstrap.applicationId), ("g", .str grantId), ("p", .str policyDigest),
    ("d", .str bootstrap.deploymentId), ("s", .arr (ids.map Json.str))]

/-! ## The request for the values -/

/-- `CompactBootstrap`. -/
structure CompactBootstrap where
  v : ℕ
  u : String
  uid : String
  a : String
  g : String
  p : String
  d : String
  s : List String

/-- An array of texts. -/
def Json.asStrings (value : Json) : Option (List String) :=
  value.asArray.bind fun items => items.mapM Json.asStr

/-- A number of eight bits. -/
def Json.asU8 (value : Json) : Option ℕ := value.asU64.filter fun n => n < 256

/-- `from_str`, from an object or a sequence. -/
def CompactBootstrap.ofJson : Json → Option CompactBootstrap
  | .obj members => do
    let value := Json.obj members
    some
      { v := ← (value.get? "v").bind Json.asU8
        u := ← (value.get? "u").bind Json.asStr
        uid := ← (value.get? "uid").bind Json.asStr
        a := ← (value.get? "a").bind Json.asStr
        g := ← (value.get? "g").bind Json.asStr
        p := ← (value.get? "p").bind Json.asStr
        d := ← (value.get? "d").bind Json.asStr
        s := ← (value.get? "s").bind Json.asStrings }
  | .arr [v, .str u, .str uid, .str a, .str g, .str p, .str d, s] => do
    some ⟨← v.asU8, u, uid, a, g, p, d, ← s.asStrings⟩
  | _ => none

/-- `UnsignedRequest`. -/
structure UnsignedRequest where
  applicationUid : String
  applicationId : String
  grantId : String
  policyDigest : String
  jobId : String
  deploymentId : String
  processorId : String
  requestedSecretIds : List String
  nonce : String
  issuedAtMs : ℕ
  expiresAtMs : ℕ
  responseEncryptionKey : String

/-- The members of the request, in the order of its fields. -/
def UnsignedRequest.members (request : UnsignedRequest) : List (String × Json) :=
  [("domain", .str "proof.lockbox.job-secret-request.v2"),
    ("applicationUid", .str request.applicationUid),
    ("applicationId", .str request.applicationId),
    ("grantId", .str request.grantId),
    ("policyDigest", .str request.policyDigest),
    ("jobId", .str request.jobId),
    ("deploymentId", .str request.deploymentId),
    ("processorId", .str request.processorId),
    ("requestedSecretIds", .arr (request.requestedSecretIds.map Json.str)),
    ("nonce", .str request.nonce),
    ("issuedAtMs", .num request.issuedAtMs),
    ("expiresAtMs", .num request.expiresAtMs),
    ("responseEncryptionKey", .str request.responseEncryptionKey)]

def responseDomain : String := "proof.lockbox.job-secret-response.v2"

/-- What a response and its payload both have to repeat of the request. -/
def BoundTo (request : UnsignedRequest) (value : Json) : Prop :=
  (value.get "domain").asStr = some responseDomain
    ∧ (value.get "applicationUid").asStr = some request.applicationUid
    ∧ (value.get "applicationId").asStr = some request.applicationId
    ∧ (value.get "grantId").asStr = some request.grantId
    ∧ policyDigestOf value = some request.policyDigest
    ∧ (value.get "jobId").asStr = some request.jobId
    ∧ (value.get "deploymentId").asStr = some request.deploymentId
    ∧ (value.get "processorId").asStr = some request.processorId

instance (request : UnsignedRequest) (value : Json) : Decidable (BoundTo request value) := by
  unfold BoundTo
  exact inferInstance

/-- `validate_plaintext_binding`. -/
def validatePlaintextBinding (request : UnsignedRequest) (response payload : Json) :
    SecretResult Unit :=
  require (BoundTo request payload ∧ payload.get "requestId" = response.get "requestId")
    .responseBinding

/-- The data the encryption is bound to. -/
def responseAad (request : UnsignedRequest) (response : Json) : Json :=
  .obj [("domain", .str "proof.lockbox.job-secret-response.aad.v2"),
    ("requestId", response.get "requestId"),
    ("applicationUid", .str request.applicationUid),
    ("applicationId", .str request.applicationId),
    ("grantId", .str request.grantId),
    ("policyDigest", .str request.policyDigest),
    ("jobId", .str request.jobId),
    ("deploymentId", .str request.deploymentId),
    ("processorId", .str request.processorId)]

/-- `decrypt_job_secret_payload`, with call `n` of the bridge. -/
def decryptJobSecretPayload (request : UnsignedRequest) (curve : ResponseCurve) (n : ℕ)
    (body : Option Json) : SecretResult Json := do
  let response ← body.okOr .invalidResponse
  require ((response.get "ok").asBool = some true ∧ BoundTo request response
    ∧ response.get "requestedSecretIds" = .arr (request.requestedSecretIds.map Json.str)
    ∧ (response.get "requestId").asStr ≠ none
    ∧ (response.get "requestId").asStr ≠ some "") .responseBinding
  validateVersions (response.get "secretVersions") request.requestedSecretIds
  let members ← (response.get "encryptedPayload").asObject.okOr .invalidResponse
  let encrypted := Json.obj members
  require ((encrypted.get "domain").asStr
      = some "proof.lockbox.job-secret-response.encrypted-payload.v2"
    ∧ (encrypted.get "version").asStr = some curve.envelope.1
    ∧ (encrypted.get "curveName").asStr = some curve.envelope.2) .invalidResponse
  let senderPublicKey ← requiredBoundedString (encrypted.get? "senderPublicKey")
  let saltHex ← requiredBoundedString (encrypted.get? "saltHex")
  let ciphertextHex ← requiredBoundedString (encrypted.get? "ciphertextHex")
  let plaintextDigest ← requiredSha256 (encrypted.get? "plaintextDigest")
  let aadDigest ← requiredSha256 (encrypted.get? "aadDigest")
  let encryptedPayloadDigest ← requiredSha256 (encrypted.get? "encryptedPayloadDigest")
  let digestValue := encrypted.erase "encryptedPayloadDigest"
  require (sha256Prefixed w (utf8 (canonicalJsonBytes digestValue)) = encryptedPayloadDigest)
    .invalidResponse
  require (sha256Prefixed w (utf8 (canonicalJsonBytes (responseAad request response))) = aadDigest)
    .responseBinding
  let decrypted ← (w.call n "signer_decrypt" (.arr [.obj [("curve", .str curve.bridgeCurve),
    ("publicKey", .str senderPublicKey), ("salt", .str saltHex),
    ("bytes", .str ciphertextHex)]])).okOr .decryption
  let plaintextHex ← ((decrypted.get? "bytes").bind Json.asStr).okOr .invalidPlaintext
  require (plaintextHex.utf8ByteSize ≤ 2 * maxConfigBytes) .invalidPlaintext
  let plaintext ← (hexDecode plaintextHex.toList).okOr .invalidPlaintext
  require (sha256Prefixed w plaintext = plaintextDigest) .invalidPlaintext
  let payload ← (w.fromSlice plaintext).okOr .invalidPlaintext
  validatePlaintextBinding request response payload
  validateDeliveries (payload.get "secrets") (response.get "secretVersions")
  return payload

/-- `load_job_secret_payload_with`, from call `n` and post `k` on. -/
def loadJobSecretPayloadWith (bootstrap : RuntimeBootstrapResponse) (rawBootstrap : Option Json)
    (nowMs : ℕ) (nonce : List UInt8) (n k : ℕ) : SecretResult Json := do
  let config ← (rawBootstrap.bind CompactBootstrap.ofJson).okOr .invalidBootstrap
  let policyDigest ← (normalizePolicyDigest bootstrap.policyDigest).okOr .invalidBootstrap
  require (config.v = 2 ∧ trim config.uid = bootstrap.applicationUid
    ∧ trim config.a = bootstrap.applicationId
    ∧ normalizePolicyDigest config.p = some policyDigest
    ∧ trim config.d = bootstrap.deploymentId ∧ trim config.g ≠ "") .invalidBootstrap
  let endpoint ← secureJoin w config.u "/api/jobs/secret-requests"
  let (responseEncryptionKey, curve) ← encryptionPublicKey w n
  let expiresAtMs ← (checkedAdd nowMs requestTtlMs).okOr .timestampOverflow
  let unsigned : UnsignedRequest :=
    { applicationUid := bootstrap.applicationUid
      applicationId := bootstrap.applicationId
      grantId := config.g
      policyDigest := policyDigest
      jobId := bootstrap.jobId
      deploymentId := bootstrap.deploymentId
      processorId := bootstrap.processorId
      requestedSecretIds := config.s
      nonce := hexEncode nonce
      issuedAtMs := nowMs
      expiresAtMs := expiresAtMs
      responseEncryptionKey := responseEncryptionKey }
  let signature ← signMessage w (n + 3) (canonicalJsonBytes (.obj unsigned.members))
  let reply ← postJson w k endpoint (.obj (unsigned.members ++ [("signature", .str signature)]))
  decryptJobSecretPayload w unsigned curve (n + 4) reply

/-! ## The log configuration -/

/-- What the one secret with the log configuration says about itself. -/
def IsBlackboxConfig (secret : Json) : Prop :=
  (secret.get "secretId").asStr = some "blackbox-log-config"
    ∧ (secret.get "target").asStr = some "env"
    ∧ (secret.get "name").asStr = some "BLACKBOX_LOG_CONFIG"
    ∧ (secret.get "required").asBool = some true
    ∧ (secret.get "bundleId").asStr = some "blackbox-log-config"
    ∧ (secret.get "versionId").asStr ≠ none ∧ (secret.get "versionId").asStr ≠ some ""

instance (secret : Json) : Decidable (IsBlackboxConfig secret) := by
  unfold IsBlackboxConfig
  exact inferInstance

/-- `validate_secret_versions`. -/
def validateSecretVersions (value : Json) : SecretResult Unit :=
  match value with
  | .arr [secret] => require (IsBlackboxConfig secret) .responseBinding
  | _ => .error .invalidResponse

/-- `extract_blackbox_config`. -/
def extractBlackboxConfig (payload : Json) : SecretResult String :=
  match payload.get "secrets" with
  | .arr [secret] => do
    let value ← (secret.get "value").asStr.okOr .invalidPlaintext
    require (value ≠ "" ∧ value.utf8ByteSize ≤ maxConfigBytes ∧ IsBlackboxConfig secret)
      .invalidPlaintext
    return value
  | _ => .error .invalidPlaintext

/-- `load_blackbox_log_config_with`, from call `n` and post `k` on. -/
def loadBlackboxLogConfigWith (bootstrap : RuntimeBootstrapResponse) (rawBootstrap : Option Json)
    (nowMs : ℕ) (nonce : List UInt8) (n k : ℕ) : SecretResult (Option String) := do
  let config ← (rawBootstrap.bind CompactBootstrap.ofJson).okOr .invalidBootstrap
  if "blackbox-log-config" ∉ config.s then return none
  let raw := Json.obj [("v", .num config.v), ("u", .str config.u), ("uid", .str config.uid),
    ("a", .str config.a), ("g", .str config.g), ("p", .str config.p), ("d", .str config.d),
    ("s", .arr [.str "blackbox-log-config"])]
  let payload ← loadJobSecretPayloadWith w bootstrap (some raw) nowMs nonce n k
  validateSecretVersions (payload.get "secrets")
  let value ← extractBlackboxConfig payload
  return some value

end World
