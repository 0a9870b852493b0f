import RuntimeCargo.Lockbox

/-!
# Secrets of the customer

The secrets a job was granted are delivered as variables of the customer's
environment or as files. Nothing is asked for unless the bootstrap carries
the hint that there may be some; the one secret that is the runtime's own,
its log configuration, is left out of the request.

A delivery is two maps. `placeSecrets` builds them from the secrets of the
payload, which the wire has checked before, and checks again that no
destination comes twice. The names of its environment are those the
metadata of the payload's `env` secrets gives, and the metadata promises
no more of such a name than that it could be the name of a variable.
-/

/-- The maps of the source: sorted by key, a key at most once. -/
abbrev StringMap := Std.ExtTreeMap String String

/-- `BTreeMap::extend`. -/
def StringMap.extend (m more : StringMap) : StringMap := m.insertMany more.toList

theorem StringMap.mem_extend {m more : StringMap} {name : String} :
    name ∈ m.extend more ↔ name ∈ m ∨ name ∈ more := by
  rw [StringMap.extend, Std.ExtTreeMap.mem_insertMany_list, Std.ExtTreeMap.map_fst_toList_eq_keys,
    List.contains_iff_mem, Std.ExtTreeMap.mem_keys]

/-- `CustomerSecretDelivery`. -/
structure CustomerSecretDelivery where
  environment : StringMap
  files : StringMap

/-- `CustomerSecretDelivery::default`. -/
def CustomerSecretDelivery.empty : CustomerSecretDelivery := ⟨∅, ∅⟩

/-- The loop of `load_customer_secrets_with`: each secret goes to its
destination, which no other has. -/
def placeSecrets : List Json → CustomerSecretDelivery → SecretResult CustomerSecretDelivery
  | [], delivery => .ok delivery
  | secret :: rest, delivery => do
    let m ← metadata secret
    let value ← (secret.get "value").asStr.okOr .invalidPlaintext
    if m.target = "file" then
      require (m.name ∉ delivery.files) .responseBinding
      placeSecrets rest { delivery with files := delivery.files.insert m.name value }
    else
      require (m.name ∉ delivery.environment) .responseBinding
      placeSecrets rest { delivery with environment := delivery.environment.insert m.name value }

/-- The secret with the log configuration is not the customer's. -/
def logSecret : String := "blackbox-log-config"

section Load

variable (w : LockboxWorld)

/-- `load_customer_secrets_with`. Discovery makes calls 0 to 3 of the
bridge and the first post, the request for the values the others. -/
def loadCustomerSecretsWith (bootstrap : RuntimeBootstrapResponse) (secretsUrl : String)
    (nowMs : ℕ) (discoveryNonce requestNonce : List UInt8) :
    SecretResult CustomerSecretDelivery := do
  if bootstrap.customerRequired = none then return .empty
  let config ← discoverLockboxBootstrapWith w bootstrap secretsUrl nowMs discoveryNonce 0 0
  let ids ← (config.get "s").asArray.okOr .invalidBootstrap
  let ids := ids.filter fun id => id.asStr ≠ some logSecret
  if ids = [] then
    require (bootstrap.customerRequired ≠ some true) .responseBinding
    return .empty
  let payload ← loadJobSecretPayloadWith w bootstrap (some (config.replace "s" (.arr ids))) nowMs
    requestNonce 4 1
  let secrets ← (payload.get "secrets").asArray.okOr .invalidPlaintext
  placeSecrets secrets .empty

/-- What `hydrate_customer_secrets` asks of the process it runs in: the
clock, two nonces, and whether the files of a delivery could be
installed. -/
structure HydrateIo where
  nowMs : Option ℕ
  discoveryNonce : Option (List UInt8)
  requestNonce : Option (List UInt8)
  installSecretFiles : StringMap → Bool

def secretsUrl : String := "https://secrets.liskov.proof.computer"

/-- The `load` closure: a delivery counts once its files are installed. -/
def loadAndInstall (io : HydrateIo) (bootstrap : RuntimeBootstrapResponse) :
    SecretResult CustomerSecretDelivery := do
  let now ← io.nowMs.okOr .clock
  let discovery ← io.discoveryNonce.okOr .randomness
  let request ← io.requestNonce.okOr .randomness
  let delivery ← loadCustomerSecretsWith w bootstrap secretsUrl now discovery request
  require (io.installSecretFiles delivery.files = true) .fileInstallation
  return delivery

/-- `hydrate_customer_secrets`: a failure counts if the secrets are
required. -/
def hydrateCustomerSecrets (io : HydrateIo) (bootstrap : RuntimeBootstrapResponse)
    (environment : StringMap) : SecretResult StringMap :=
  match bootstrap.customerRequired with
  | none => .ok environment
  | some required =>
    match loadAndInstall w io bootstrap with
    | .ok delivery => .ok (environment.extend delivery.environment)
    | .error e => if required then .error e else .ok environment

variable {w} in
/-- A delivery that was loaded is merged. -/
theorem hydrateCustomerSecrets_of_ok {io : HydrateIo} {bootstrap : RuntimeBootstrapResponse}
    {environment : StringMap} {required : Bool} {delivery : CustomerSecretDelivery}
    (hrequired : bootstrap.customerRequired = some required)
    (hload : loadAndInstall w io bootstrap = .ok delivery) :
    hydrateCustomerSecrets w io bootstrap environment
      = .ok (environment.extend delivery.environment) := by
  simp only [hydrateCustomerSecrets, hrequired, hload]

end Load

/-! ## What a delivery holds -/

/-- What the metadata of a secret promises. -/
theorem metadata_eq_ok {value : Json} {m : Metadata} (h : metadata value = .ok m) :
    Metadata.ofJson value = some m ∧ (m.target = "env" ∨ m.target = "file")
      ∧ (m.target = "env" → '=' ∉ m.name.toList ∧ isEnvName m.name = true) := by
  obtain ⟨m', hm, h⟩ := Option.okOr_bind_eq_ok.mp h
  obtain ⟨⟨-, -, -, -, -, -, -, htarget⟩, h⟩ := require_bind_eq_ok.mp h
  obtain ⟨hname, h⟩ := require_bind_eq_ok.mp h
  cases h
  exact ⟨hm, htarget, hname⟩

/-! ## A delivery -/

section Sample

/-- A hexadecimal text. -/
def sampleHex (n : ℕ) : String := String.ofList (List.replicate n 'a')

/-- A job with the hint that its secrets are required. -/
def sampleBootstrap : RuntimeBootstrapResponse where
  applicationUid := "uid"
  applicationId := "app"
  policyDigest := sampleHex 64
  deploymentId := "deployment"
  jobId := "job"
  processorId := "processor"
  runtimeInstanceId := "instance"
  slipwayUrl := "https://core"
  runtimeEnv := none
  customerRequired := some true
  logging := none

/-- The members by which an answer is bound to the job. -/
def sampleBinding : List (String × Json) :=
  [("applicationUid", .str "uid"), ("applicationId", .str "app"),
    ("policyDigest", .str (sampleHex 64)),
    ("deploymentId", .str "deployment"), ("jobId", .str "job"), ("processorId", .str "processor"),
    ("grantId", .str "grant"), ("requestId", .str "request")]

/-- The answer to discovery: one secret. -/
def sampleDiscovery : Json :=
  .obj ([("ok", .bool true), ("domain", .str "proof.liskov.secret-bootstrap-response.v2"),
    ("lockboxUrl", .str "https://lockbox"), ("requestedSecretIds", .arr [.str "secret"])]
      ++ sampleBinding)

/-- What a secret that goes to a variable says about itself. -/
def sampleVersion (name : String) : List (String × Json) :=
  [("secretId", .str "secret"), ("versionId", .str "1"), ("target", .str "env"),
    ("name", .str name), ("required", .bool true), ("bundleId", .str "bundle")]

/-- The payload with its value. -/
def samplePayload (name : String) : Json :=
  .obj ([("domain", .str responseDomain),
    ("secrets", .arr [.obj (sampleVersion name ++ [("value", .str "value")])])] ++ sampleBinding)

/-- The request the payload answers. -/
def sampleRequest : UnsignedRequest where
  applicationUid := "uid"
  applicationId := "app"
  grantId := "grant"
  policyDigest := sampleHex 64
  jobId := "job"
  deploymentId := "deployment"
  processorId := "processor"
  requestedSecretIds := ["secret"]
  nonce := ""
  issuedAtMs := 0
  expiresAtMs := 60000
  responseEncryptionKey := sampleHex 66

variable (sha256 : List UInt8 → Digest) (name : String)

/-- The digest as the Lockbox writes it. -/
def sampleDigest (bytes : List UInt8) : Json := .str ("sha256:" ++ hexEncode (sha256 bytes).toList)

/-- The encrypted payload, without its own digest. -/
def sampleEnvelope : List (String × Json) :=
  [("domain", .str "proof.lockbox.job-secret-response.encrypted-payload.v2"),
    ("version", .str "acurast-p256-hkdf-aes-256-gcm-v2"), ("curveName", .str "secp256r1"),
    ("senderPublicKey", .str "02"), ("saltHex", .str "00"), ("ciphertextHex", .str "00"),
    ("plaintextDigest", sampleDigest sha256 (utf8 (samplePayload name).render)),
    ("aadDigest", sampleDigest sha256
      (utf8 (canonicalJsonBytes (responseAad sampleRequest (.obj sampleBinding)))))]

/-- The answer of the Lockbox. -/
def sampleAnswer : Json :=
  .obj ([("ok", .bool true), ("domain", .str responseDomain),
    ("requestedSecretIds", .arr [.str "secret"]),
    ("secretVersions", .arr [.obj (sampleVersion name)]),
    ("encryptedPayload", .obj (sampleEnvelope sha256 name ++ [("encryptedPayloadDigest",
      sampleDigest sha256 (utf8 (canonicalJsonBytes (.obj (sampleEnvelope sha256 name)))))]))]
      ++ sampleBinding)

/-- A world in which one secret is delivered to a variable. -/
def sampleLockbox : LockboxWorld where
  call n _ _ :=
    if n = 3 ∨ n = 7 then some (.obj [("bytes", .str (sampleHex 128))])
    else if n = 8 then some (.obj [("bytes", .str (hexEncode (utf8 (samplePayload name).render)))])
    else some (.obj [("encryptionKeys",
      .obj [("p256", .str (sampleHex 66))])])
  post k _ _ :=
    .response 200 (some (if k = 0 then sampleDiscovery else sampleAnswer sha256 name))
  sha256 := sha256
  parseUrl _ := some ⟨"https", some "host", "", none, none, none⟩
  joinUrl _ path := some ("https://host" ++ path)
  fromSlice bytes :=
    if bytes = utf8 (samplePayload name).render then some (samplePayload name) else none

/-- The compact bootstrap of the run. -/
def sampleCompact : Json :=
  .obj [("v", .num 2), ("u", .str "https://lockbox"), ("uid", .str "uid"), ("a", .str "app"),
    ("g", .str "grant"), ("p", .str (sampleHex 64)),
    ("d", .str "deployment"), ("s", .arr [.str "secret"])]

theorem size_sampleHex (n : ℕ) : (sampleHex n).utf8ByteSize = n := by
  rw [sampleHex, size_ofList_replicate, show 'a'.utf8Size = 1 from rfl, mul_one]

theorem normalizePolicyDigest_sample :
    normalizePolicyDigest (sampleHex 64) = some (sampleHex 64) := by decide +kernel

theorem encryptionPublicKey_sample {n : ℕ} (h : n = 0 ∨ n = 4) :
    encryptionPublicKey (sampleLockbox sha256 name) n
      = .ok (sampleHex 66, .p256) := by
  have hkey : normalizePublicKey (sampleHex 66) = some (sampleHex 66) := by decide +kernel
  have hkeys : deploymentEncryptionKeys (sampleLockbox sha256 name) n
      = .ok (.obj [("encryptionKeys",
        .obj [("p256", .str (sampleHex 66))])]) := by
    rcases h with rfl | rfl <;> rfl
  refine Except.bind_eq_ok.mpr ⟨_, hkeys, Except.bind_eq_ok.mpr
    ⟨some (sampleHex 66, .p256), ?_, rfl⟩⟩
  show (((some (sampleHex 66)).bind normalizePublicKey).map
    fun text => some (text, ResponseCurve.p256)).okOr LogConfigSecretError.invalidEncryptionKey = _
  rw [Option.bind_some, hkey]
  rfl

theorem signMessage_sample {n : ℕ} (h : n = 3 ∨ n = 7) (message : String) :
    signMessage (sampleLockbox sha256 name) n message
      = .ok ("0x" ++ sampleHex 128) := by
  have hhex : normalizeHexExact (sampleHex 128) 64 = some (sampleHex 128) := by decide +kernel
  refine Option.okOr_bind_eq_ok.mpr
    ⟨.obj [("bytes", .str (sampleHex 128))], if_pos h, ?_⟩
  refine Option.okOr_bind_eq_ok.mpr ⟨sampleHex 128, ?_, rfl⟩
  show (some (sampleHex 128)).bind (fun value => normalizeHexExact value 64) = _
  rw [Option.bind_some, hhex]

theorem discover_sample :
    discoverLockboxBootstrapWith (sampleLockbox sha256 name) sampleBootstrap secretsUrl 0 [] 0 0
      = .ok sampleCompact := by
  refine Except.bind_eq_ok.mpr ⟨"https://host/api/jobs/secret-bootstrap", rfl, ?_⟩
  refine Except.bind_eq_ok.mpr
    ⟨_, encryptionPublicKey_sample sha256 name (Or.inl rfl), ?_⟩
  refine Option.okOr_bind_eq_ok.mpr ⟨60000, rfl, ?_⟩
  refine Except.bind_eq_ok.mpr ⟨_, signMessage_sample sha256 name (Or.inl rfl) _, ?_⟩
  refine Except.bind_eq_ok.mpr ⟨some sampleDiscovery, rfl, ?_⟩
  refine Option.okOr_bind_eq_ok.mpr ⟨sampleDiscovery, rfl, ?_⟩
  refine Option.okOr_bind_eq_ok.mpr ⟨_, normalizePolicyDigest_sample, ?_⟩
  refine Except.bind_eq_ok.mpr ⟨"grant", rfl, ?_⟩
  refine Except.bind_eq_ok.mpr ⟨"https://lockbox", rfl, ?_⟩
  refine Except.bind_eq_ok.mpr ⟨"https://host/api/jobs/secret-requests", rfl, ?_⟩
  refine Option.okOr_bind_eq_ok.mpr ⟨["secret"], by decide +kernel, ?_⟩
  exact require_bind_eq_ok.mpr
    ⟨⟨rfl, rfl, rfl, rfl, normalizePolicyDigest_sample, rfl, rfl, rfl⟩, rfl⟩

theorem fromSlice_sample :
    (sampleLockbox sha256 name).fromSlice (utf8 (samplePayload name).render)
      = some (samplePayload name) := by
  simp only [sampleLockbox, if_true]

/-- The names a variable may have, short enough for one payload. -/
def Deliverable : Prop :=
  name ≠ "" ∧ name.utf8ByteSize ≤ 4096 ∧ '\x00' ∉ name.toList ∧ '=' ∉ name.toList
    ∧ isEnvName name = true ∧ (utf8 (samplePayload name).render).length ≤ maxConfigBytes

instance : Decidable (Deliverable name) := by
  unfold Deliverable
  exact inferInstance

variable {name}

theorem metadata_sample (h : Deliverable name) (more : List (String × Json)) :
    metadata (.obj (sampleVersion name ++ more))
      = .ok ⟨"secret", "1", "env", name, true, "bundle"⟩ := by
  obtain ⟨hne, hsize, hnul, heq, henv, -⟩ := h
  refine Option.okOr_bind_eq_ok.mpr ⟨⟨"secret", "1", "env", name, true, "bundle"⟩, rfl, ?_⟩
  refine require_bind_eq_ok.mpr
    ⟨⟨show "secret" ≠ "" by decide, show "secret".utf8ByteSize ≤ 256 by decide,
      show "1" ≠ "" by decide, show "1".utf8ByteSize ≤ 1024 by decide, hne, hsize, hnul,
      Or.inl rfl⟩, ?_⟩
  exact require_bind_eq_ok.mpr ⟨fun _ => ⟨heq, henv⟩, rfl⟩

theorem decrypt_sample (h : Deliverable name) :
    decryptJobSecretPayload (sampleLockbox sha256 name) sampleRequest .p256 8
      (some (sampleAnswer sha256 name)) = .ok (samplePayload name) := by
  have hversion := metadata_sample h []
  rw [List.append_nil] at hversion
  have hsecret := metadata_sample h [("value", .str "value")]
  refine Option.okOr_bind_eq_ok.mpr ⟨sampleAnswer sha256 name, rfl, ?_⟩
  refine require_bind_eq_ok.mpr ⟨⟨rfl, ⟨rfl, rfl, rfl, rfl, normalizePolicyDigest_sample, rfl, rfl,
    rfl⟩, rfl, nofun, show some "request" ≠ some "" by decide⟩, ?_⟩
  refine Except.bind_eq_ok.mpr ⟨(), ?_, ?_⟩
  · refine Option.okOr_bind_eq_ok.mpr ⟨[.obj (sampleVersion name)], rfl, ?_⟩
    refine Except.bind_eq_ok.mpr ⟨{"secret"}, ?_, require_eq_ok.mpr ⟨nofun, by decide, rfl, rfl⟩⟩
    refine Except.bind_eq_ok.mpr ⟨_, hversion, ?_⟩
    exact require_bind_eq_ok.mpr ⟨⟨Finset.notMem_empty _, Finset.notMem_empty _⟩, rfl⟩
  refine Option.okOr_bind_eq_ok.mpr ⟨_, rfl, ?_⟩
  refine require_bind_eq_ok.mpr ⟨⟨rfl, rfl, rfl⟩, ?_⟩
  refine Except.bind_eq_ok.mpr ⟨"02", rfl, ?_⟩
  refine Except.bind_eq_ok.mpr ⟨"00", rfl, ?_⟩
  refine Except.bind_eq_ok.mpr ⟨"00", rfl, ?_⟩
  have hdigest := requiredSha256_sha256Prefixed (sampleLockbox sha256 name)
  refine Except.bind_eq_ok.mpr ⟨_, hdigest (utf8 (samplePayload name).render), ?_⟩
  refine Except.bind_eq_ok.mpr ⟨_, hdigest (utf8 (canonicalJsonBytes
    (responseAad sampleRequest (.obj sampleBinding)))), ?_⟩
  refine Except.bind_eq_ok.mpr ⟨_, hdigest (utf8 (canonicalJsonBytes
    (.obj (sampleEnvelope sha256 name)))), ?_⟩
  refine require_bind_eq_ok.mpr ⟨rfl, ?_⟩
  refine require_bind_eq_ok.mpr ⟨rfl, ?_⟩
  refine Option.okOr_bind_eq_ok.mpr ⟨_, rfl, ?_⟩
  refine Option.okOr_bind_eq_ok.mpr ⟨hexEncode (utf8 (samplePayload name).render), rfl, ?_⟩
  refine require_bind_eq_ok.mpr ⟨?_, ?_⟩
  · rw [size_hexEncode]
    exact Nat.mul_le_mul_left 2 h.2.2.2.2.2
  refine Option.okOr_bind_eq_ok.mpr ⟨_, hexDecode_hexEncode _, ?_⟩
  refine require_bind_eq_ok.mpr ⟨rfl, ?_⟩
  refine Option.okOr_bind_eq_ok.mpr ⟨samplePayload name, fromSlice_sample sha256 name, ?_⟩
  refine require_bind_eq_ok.mpr
    ⟨⟨⟨rfl, rfl, rfl, rfl, normalizePolicyDigest_sample, rfl, rfl, rfl⟩, rfl⟩, ?_⟩
  refine Except.bind_eq_ok.mpr ⟨(), ?_, rfl⟩
  refine Option.okOr_bind_eq_ok.mpr
    ⟨[.obj (sampleVersion name ++ [("value", .str "value")])], rfl, ?_⟩
  refine Option.okOr_bind_eq_ok.mpr ⟨[.obj (sampleVersion name)], rfl, ?_⟩
  refine require_bind_eq_ok.mpr ⟨rfl, ?_⟩
  refine Except.bind_eq_ok.mpr ⟨_, hsecret, ?_⟩
  refine require_bind_eq_ok.mpr ⟨⟨Finset.notMem_empty _, ?_, nofun⟩, ?_⟩
  · rw [List.any_cons, hversion]
    exact Bool.or_eq_true_iff.mpr (Or.inl (decide_eq_true rfl))
  refine require_bind_eq_ok.mpr ⟨fun _ value hvalue => ?_, rfl⟩
  obtain rfl : "value" = value := Option.some.inj hvalue
  decide

/-- **The delivery of the sample run**: one variable. -/
theorem load_sample (h : Deliverable name) :
    loadCustomerSecretsWith (sampleLockbox sha256 name) sampleBootstrap secretsUrl 0 [] []
      = .ok ⟨(∅ : StringMap).insert name "value", ∅⟩ := by
  rw [loadCustomerSecretsWith, if_neg nofun]
  refine Except.bind_eq_ok.mpr ⟨_, discover_sample sha256 name, ?_⟩
  refine Option.okOr_bind_eq_ok.mpr ⟨[.str "secret"], rfl, ?_⟩
  rw [show ([Json.str "secret"].filter fun id => id.asStr ≠ some logSecret) = [.str "secret"] from
    by decide, if_neg nofun]
  refine Except.bind_eq_ok.mpr ⟨samplePayload name, ?_, ?_⟩
  · refine Option.okOr_bind_eq_ok.mpr
      ⟨⟨2, "https://lockbox", "uid", "app", "grant", sampleHex 64, "deployment", ["secret"]⟩,
        rfl, ?_⟩
    refine Option.okOr_bind_eq_ok.mpr ⟨_, normalizePolicyDigest_sample, ?_⟩
    refine require_bind_eq_ok.mpr ⟨⟨rfl, rfl, rfl, normalizePolicyDigest_sample, rfl, ?_⟩, ?_⟩
    · show trim "grant" ≠ ""
      decide
    refine Except.bind_eq_ok.mpr ⟨"https://host/api/jobs/secret-requests", rfl, ?_⟩
    refine Except.bind_eq_ok.mpr ⟨_, encryptionPublicKey_sample sha256 name (Or.inr rfl), ?_⟩
    refine Option.okOr_bind_eq_ok.mpr ⟨60000, rfl, ?_⟩
    refine Except.bind_eq_ok.mpr ⟨_, signMessage_sample sha256 name (Or.inr rfl) _, ?_⟩
    refine Except.bind_eq_ok.mpr ⟨some (sampleAnswer sha256 name), rfl, ?_⟩
    exact decrypt_sample sha256 h
  · refine Option.okOr_bind_eq_ok.mpr
      ⟨[.obj (sampleVersion name ++ [("value", .str "value")])], rfl, ?_⟩
    refine Except.bind_eq_ok.mpr ⟨_, metadata_sample h _, ?_⟩
    refine Option.okOr_bind_eq_ok.mpr ⟨"value", rfl, ?_⟩
    rw [if_neg (show ¬ "env" = "file" by decide)]
    exact require_bind_eq_ok.mpr ⟨Std.ExtTreeMap.not_mem_empty, rfl⟩

end Sample
