import RuntimeCargo.CoverageRuns

/-!
# Facts about the processor

A grant of the server may ask for facts about the processor: what Android says
about it, what the process can see, which way it reaches the server, what the
hardware is. A worker collects what is asked for, writes it into one result,
has the result signed and delivers it.

A grant is for one helper: for its version, for the digest of its executable
and for the catalog of facts it was compiled with. The worker reads the clock
before it looks at the executable and again afterwards, and does nothing
unless the grant is valid at both readings (`FactsGranted`). Then every kind that
is due is collected once, in the order of the catalog, whatever the order in
the grant; one result is signed, at most, if it will not be too long with its
signature; and it is delivered twice at most, before the grant expires
(`facts_collected_as_granted`).

A fact is taken as it is written; how the collectors find it is not modelled.
-/

open Program

/-! ## The grant -/

/-- The kinds of facts, in the order of the catalog. -/
inductive ProcessorFactKind where
  | androidCorroboration | executionSurface | controlEgress | coverageHardwareRaw
deriving DecidableEq

/-- `CARGO_BASELINE_PROFILE`. -/
def cargoBaselineProfile : String := "cargo-baseline-v1"

/-- `COVERAGE_HARDWARE_PROFILE`. -/
def coverageHardwareProfile : String := "coverage-hardware-v1"

namespace ProcessorFactKind

/-- The name under which a kind is written. -/
def name : ProcessorFactKind → String
  | androidCorroboration => "cargo_android_corroboration.v1"
  | executionSurface => "cargo_execution_surface.v1"
  | controlEgress => "cargo_control_egress.v1"
  | coverageHardwareRaw => "coverage_hardware_raw.v1"

/-- `profile`: the one profile that has a kind. -/
def profile : ProcessorFactKind → String
  | androidCorroboration | executionSurface | controlEgress => cargoBaselineProfile
  | coverageHardwareRaw => coverageHardwareProfile

/-- All kinds, in the order of the catalog. -/
def catalog : List ProcessorFactKind :=
  [androidCorroboration, executionSurface, controlEgress, coverageHardwareRaw]

theorem mem_catalog (kind : ProcessorFactKind) : kind ∈ catalog := by
  cases kind <;> decide

theorem nodup_catalog : catalog.Nodup := by decide

end ProcessorFactKind

/-- `admitted_kind_count`: the least and the largest number of kinds. -/
def admittedKindCount (profile : String) : Option (ℕ × ℕ) :=
  if profile = cargoBaselineProfile then some (1, 3)
  else if profile = coverageHardwareProfile then some (1, 1)
  else none

/-- `PROCESSOR_FACT_AUTHORIZATION_DOMAIN`. -/
def processorFactAuthorizationDomain : String := "proof.liskov.processor-fact-authorization.v1"

/-- `PROCESSOR_FACT_RESULT_DOMAIN`. -/
def processorFactResultDomain : String := "proof.liskov.processor-fact-result.v1"

/-- `HELPER_CONTRACT_EPOCH`. -/
def compiledContractEpoch : ℕ := 1

/-- `MAX_AUTHORIZATION_LIFETIME_MS` of a grant of facts. -/
def maxFactAuthorizationLifetimeMs : ℕ := 5 * 60 * 1000

/-- `MAX_RESULT_BYTES`. -/
def maxResultBytes : ℕ := 16 * 1024

structure ProcessorFactAuthorization where
  domain : String
  authorizationId : String
  challenge : String
  issuedAtMs : ℕ
  expiresAtMs : ℕ
  profile : String
  catalogDigest : String
  helperContractEpoch : ℕ
  expectedHelperVersion : String
  expectedHelperDigest : String
  dueFactKinds : List ProcessorFactKind

/-- A character of a version. -/
def isVersionChar (c : Char) : Bool :=
  ('a' ≤ c && c ≤ 'z') || ('A' ≤ c && c ≤ 'Z') || ('0' ≤ c && c ≤ '9')
    || c = '.' || c = '-' || c = '+'

namespace ProcessorFactAuthorization

/-- `structurally_valid`. -/
def structurallyValid (a : ProcessorFactAuthorization) : Bool :=
  a.domain = processorFactAuthorizationDomain
    && isBoundedIdentifier a.authorizationId 128
    && isLowerHex a.challenge 32
    && a.expiresAtMs > a.issuedAtMs
    && ((checkedSub a.expiresAtMs a.issuedAtMs).any fun lifetime =>
      lifetime ≤ maxFactAuthorizationLifetimeMs)
    && ((admittedKindCount a.profile).any fun (least, most) =>
      least ≤ a.dueFactKinds.length && a.dueFactKinds.length ≤ most)
    && (a.dueFactKinds.all fun kind => kind.profile = a.profile)
    && isSha256Text a.catalogDigest
    && a.helperContractEpoch = compiledContractEpoch
    && a.expectedHelperVersion ≠ ""
    && a.expectedHelperVersion.utf8ByteSize ≤ 64
    && a.expectedHelperVersion.toList.all isVersionChar
    && isSha256Text a.expectedHelperDigest
    && a.dueFactKinds.dedup.length = a.dueFactKinds.length

/-- `valid_at`. -/
def validAt (a : ProcessorFactAuthorization) (nowMs : ℕ) : Bool :=
  a.structurallyValid && a.expiresAtMs > nowMs
    && a.issuedAtMs ≤ saturatingAdd nowMs authorizationFutureToleranceMs

/-- No kind is due twice. -/
theorem nodup_of_validAt {a : ProcessorFactAuthorization} {nowMs : ℕ} (h : a.validAt nowMs = true) :
    a.dueFactKinds.Nodup := by
  unfold validAt structurallyValid at h
  simp only [Bool.and_eq_true, decide_eq_true_eq] at h
  have hlength : a.dueFactKinds.dedup.length = a.dueFactKinds.length := h.1.1.2
  have hsame : a.dueFactKinds.dedup = a.dueFactKinds :=
    (List.dedup_sublist _).eq_of_length hlength
  exact List.dedup_eq_self.mp hsame

end ProcessorFactAuthorization

/-- `take_processor_fact_authorization`, of what the bootstrap has. -/
def takeProcessorFactAuthorization (fromValue : Json → Option ProcessorFactAuthorization)
    (processorFacts : Option Json) : Option ProcessorFactAuthorization := do
  let raw ← processorFacts
  let a ← fromValue raw
  if a.structurallyValid then some a else none

/-- What a result is bound to, and where it goes. -/
structure ProcessorFactBinding where
  deploymentId : String
  jobId : String
  processorId : String
  runtimeInstanceId : String
  resultUrl : String
  egressUrl : String

/-- `from_bootstrap`: two places on the origin of the bootstrap. -/
def ProcessorFactBinding.fromBootstrap (urls : SubmitUrls) (bootstrap : RuntimeBootstrapResponse) :
    Option ProcessorFactBinding := do
  let base ← urls.parse bootstrap.slipwayUrl
  if !base.isPlain || base.host.isNone then none
  else
    some
      { deploymentId := bootstrap.deploymentId
        jobId := bootstrap.jobId
        processorId := bootstrap.processorId
        runtimeInstanceId := bootstrap.runtimeInstanceId
        resultUrl := urls.render { base with path := "/api/jobs/processor-facts" }
        egressUrl := urls.render { base with path := "/api/jobs/processor-facts/egress" } }

/-! ## The result -/

/-- A fact, as it is written. -/
structure ProcessorFact where
  kind : ProcessorFactKind
  value : Json

def ProcessorFact.toJson (fact : ProcessorFact) : Json :=
  .obj [("kind", .str fact.kind.name), ("value", fact.value)]

theorem hexEncode_replicate_zero (n : ℕ) :
    hexEncode (List.replicate n 0) = String.ofList (List.replicate (2 * n) '0') := by
  have hchars : (List.replicate n (0 : UInt8)).flatMap hexByte = List.replicate (2 * n) '0' := by
    induction n with
    | zero => rfl
    | succ n ih => rw [List.replicate_succ, List.flatMap_cons, ih]; rfl
  exact congrArg String.ofList hchars

/-- The result, without a signature. -/
structure UnsignedProcessorFactResult where
  authorization : ProcessorFactAuthorization
  binding : ProcessorFactBinding
  helperDigest : String
  captureStartedAtMs : ℕ
  captureCompletedAtMs : ℕ
  facts : List ProcessorFact
  factsDigest : String

namespace UnsignedProcessorFactResult

def members (r : UnsignedProcessorFactResult) : List (String × Json) :=
  [("domain", .str processorFactResultDomain),
    ("authorizationId", .str r.authorization.authorizationId),
    ("challenge", .str r.authorization.challenge),
    ("deploymentId", .str r.binding.deploymentId), ("jobId", .str r.binding.jobId),
    ("processorId", .str r.binding.processorId),
    ("runtimeInstanceId", .str r.binding.runtimeInstanceId),
    ("profile", .str r.authorization.profile),
    ("catalogDigest", .str r.authorization.catalogDigest),
    ("helperContractEpoch", .num compiledContractEpoch), ("helperVersion", .str packageVersion),
    ("helperDigest", .str r.helperDigest), ("captureStartedAtMs", .num r.captureStartedAtMs),
    ("captureCompletedAtMs", .num r.captureCompletedAtMs),
    ("facts", .arr (r.facts.map ProcessorFact.toJson)), ("factsDigest", .str r.factsDigest)]

/-- What is signed. -/
def message (r : UnsignedProcessorFactResult) : String :=
  canonicalJsonBytes (.obj r.members)

/-- What is sent. -/
def body (r : UnsignedProcessorFactResult) (signature : String) : String :=
  canonicalJsonBytes (.obj (r.members ++ [("signature", .str signature)]))

/-- The size that a result will have with its signature: that of a signature
of zeros. -/
def signedSize (r : UnsignedProcessorFactResult) : ℕ :=
  (r.body ("0x" ++ String.ofList (List.replicate 128 '0'))).utf8ByteSize

/-- **Every signature of 64 bytes makes the result as long.** -/
theorem size_body (r : UnsignedProcessorFactResult) {bytes : List UInt8} (h : bytes.length = 64) :
    (r.body ("0x" ++ hexEncode bytes)).utf8ByteSize = r.signedSize := by
  have hne : r.members ≠ [] := List.cons_ne_nil _ _
  have hzeros : String.ofList (List.replicate 128 '0')
      = hexEncode (List.replicate 64 0) := (hexEncode_replicate_zero 64).symm
  rw [signedSize, hzeros, body, body, size_canonicalJsonBytes, size_canonicalJsonBytes,
    Json.size_obj_append hne, Json.size_obj_append hne, Json.memberSize, Json.memberSize,
    size_str_hexEncode, size_str_hexEncode, h, List.length_replicate]

end UnsignedProcessorFactResult

/-! ## The worker -/

/-- What the worker asks for. -/
inductive FactCall where
  | nowMs
  | executableSha256
  | collectAndroid
  | collectExecution
  | collectEgress (endpoint : String)
  | collectCoverageHardware
  | signEd25519 (message : String)
  | deliver (url body : String)

/-- What it is told. -/
inductive FactReply where
  | time (nowMs : Option ℕ)
  | digest (text : Option String)
  | fact (value : Json)
  | signature (text : Option String)
  | flag (b : Bool)

namespace FactReply

/-- The reply of the clock. -/
def now : FactReply → Option ℕ
  | time nowMs => nowMs
  | _ => none

/-- The reply about the executable. -/
def hashed : FactReply → Option String
  | digest text => text
  | _ => none

/-- The reply of a collector. -/
def value : FactReply → Json
  | fact value => value
  | _ => .null

/-- The reply of the signer. -/
def signed : FactReply → Option String
  | signature text => text
  | _ => none

/-- The reply to a delivery. -/
def isTrue : FactReply → Bool
  | flag b => b
  | _ => false

end FactReply

/-- The catalogs the helper was compiled with, as their bytes. -/
structure FactContracts where
  cargoBaseline : List UInt8
  coverageHardware : List UInt8

section Worker

variable (sha256 : List UInt8 → Digest) (contracts : FactContracts)
  (a : ProcessorFactAuthorization) (binding : ProcessorFactBinding)

/-- A digest as it is written. -/
def sha256Text (bytes : List UInt8) : String := "sha256:" ++ hexEncode (sha256 bytes).toList

/-- `compiled_catalog_digest_for`. -/
def compiledCatalogDigestFor (profile : String) : Option String :=
  if profile = cargoBaselineProfile then some (sha256Text sha256 contracts.cargoBaseline)
  else if profile = coverageHardwareProfile then
    some (sha256Text sha256 contracts.coverageHardware)
  else none

/-- The collector of a kind. -/
def ProcessorFactKind.collector : ProcessorFactKind → FactCall
  | androidCorroboration => .collectAndroid
  | executionSurface => .collectExecution
  | controlEgress => .collectEgress binding.egressUrl
  | coverageHardwareRaw => .collectCoverageHardware

/-- The facts that are due, of some kinds of the catalog. -/
def collectDue : List ProcessorFactKind → Program FactCall FactReply (List ProcessorFact)
  | [] => return []
  | kind :: rest => do
    if kind ∈ a.dueFactKinds then
      let reply ← perform (kind.collector binding)
      let facts ← collectDue rest
      return ⟨kind, reply.value⟩ :: facts
    else collectDue rest

/-- The delivery, tried some times. -/
def deliverFacts (body : String) : ℕ → Program FactCall FactReply (Except Unit Unit)
  | 0 => return .ok ()
  | n + 1 => do
    match (← perform .nowMs).now with
    | none => return .error ()
    | some now =>
      if now ≥ a.expiresAtMs then return .ok ()
      else if (← perform (.deliver binding.resultUrl body)).isTrue then return .ok ()
      else deliverFacts body n

/-- A result is signed, if it will not be too long, and delivered. -/
def signAndDeliver (result : UnsignedProcessorFactResult) :
    Program FactCall FactReply (Except Unit Unit) := do
  if result.signedSize > maxResultBytes then return .error ()
  else
    match (← perform (.signEd25519 result.message)).signed with
    | none => return .error ()
    | some signature =>
      if (result.body signature).utf8ByteSize > maxResultBytes then return .error ()
      else deliverFacts a binding (result.body signature) 2

/-- What is done under a grant that is valid. -/
def captureFacts (helperDigest : String) (captureStartedAtMs : ℕ) :
    Program FactCall FactReply (Except Unit Unit) := do
  let facts ← collectDue a binding ProcessorFactKind.catalog
  match (← perform .nowMs).now with
  | none => return .error ()
  | some captureCompletedAtMs =>
    let factsDigest := metricDigest sha256 (.arr (facts.map ProcessorFact.toJson))
    signAndDeliver a binding
      ⟨a, binding, helperDigest, captureStartedAtMs, captureCompletedAtMs, facts, factsDigest⟩

/-- `run_processor_fact_worker`. -/
def runProcessorFactWorker : Program FactCall FactReply (Except Unit Unit) := do
  match (← perform .nowMs).now with
  | none => return .error ()
  | some nowMs =>
    if !a.validAt nowMs || a.expectedHelperVersion ≠ packageVersion
      || compiledCatalogDigestFor sha256 contracts a.profile ≠ some a.catalogDigest
    then return .error ()
    else
      match (← perform .executableSha256).hashed with
      | none => return .error ()
      | some helperDigest =>
        if helperDigest ≠ a.expectedHelperDigest then return .error ()
        else
          match (← perform .nowMs).now with
          | none => return .error ()
          | some captureStartedAtMs =>
            if !a.validAt captureStartedAtMs then return .error ()
            else captureFacts sha256 a binding helperDigest captureStartedAtMs

end Worker

/-! ## What can be read off a trace -/

/-- A call of the worker and its reply. -/
abbrev FactEvent := FactCall × FactReply

/-- Whether a call collects, signs or sends something. -/
def FactCall.hasEffect : FactCall → Bool
  | nowMs | executableSha256 => false
  | collectAndroid | collectExecution | collectEgress _ | collectCoverageHardware
  | signEd25519 _ | deliver .. => true

namespace FactEvent

/-- The collector and the fact, where one is collected. -/
def collection (x : FactEvent) : Option (FactCall × Json) :=
  match x.1 with
  | .collectAndroid | .collectExecution | .collectEgress _ | .collectCoverageHardware =>
    some (x.1, x.2.value)
  | _ => none

/-- The message, where one is signed. -/
def message (x : FactEvent) : Option String :=
  match x.1 with
  | .signEd25519 message => some message
  | _ => none

/-- The place and the body, where something is sent. -/
def delivery (x : FactEvent) : Option (String × String) :=
  match x.1 with
  | .deliver url body => some (url, body)
  | _ => none

/-- The reading, where the clock is asked. -/
def reading (x : FactEvent) : Option ℕ :=
  match x.1 with
  | .nowMs => x.2.now
  | _ => none

end FactEvent

/-- What was collected, and by which collectors. -/
def factCollections (t : List FactEvent) : List (FactCall × Json) :=
  t.filterMap FactEvent.collection

/-- The messages that were signed. -/
def factMessages (t : List FactEvent) : List String := t.filterMap FactEvent.message

/-- What was sent. -/
def factDeliveries (t : List FactEvent) : List (String × String) := t.filterMap FactEvent.delivery

/-- **The grant is for this helper and valid**: at both readings of the clock,
for the version, for the executable between them and for the catalog. -/
def FactsGranted (sha256 : List UInt8 → Digest) (contracts : FactContracts)
    (a : ProcessorFactAuthorization) (t : List FactEvent) : Prop :=
  ∃ now started rest,
    t = (.nowMs, .time (some now)) :: (.executableSha256, .digest (some a.expectedHelperDigest))
        :: (.nowMs, .time (some started)) :: rest
      ∧ a.validAt now = true ∧ a.validAt started = true
      ∧ a.expectedHelperVersion = packageVersion
      ∧ compiledCatalogDigestFor sha256 contracts a.profile = some a.catalogDigest

/-- The result of a grant: it has these facts and their digest, and it is not
too long with a signature of 64 bytes. -/
structure FactsResult (sha256 : List UInt8 → Digest) (a : ProcessorFactAuthorization)
    (binding : ProcessorFactBinding) (facts : List ProcessorFact)
    (result : UnsignedProcessorFactResult) : Prop where
  ofGrant : result.authorization = a
  ofBinding : result.binding = binding
  ofFacts : result.facts = facts
  digest : result.factsDigest = metricDigest sha256 (.arr (facts.map ProcessorFact.toJson))
  fits : ∀ bytes : List UInt8, bytes.length = 64 →
    (result.body ("0x" ++ hexEncode bytes)).utf8ByteSize ≤ maxResultBytes

/-- **One result was signed**, and it was sent twice at most, each time with
the signature and to the same place. -/
structure FactsSigned (binding : ProcessorFactBinding) (t : List FactEvent)
    (result : UnsignedProcessorFactResult) : Prop where
  signed : factMessages t = [result.message]
  sent : factDeliveries t = [] ∨ ∃ signature times, times ≤ 2
    ∧ (∃ x ∈ t, x.message = some result.message ∧ x.2.signed = some signature)
    ∧ factDeliveries t = List.replicate times (binding.resultUrl, result.body signature)

/-- **What was done with the facts**: each kind that is due was collected once,
in the order of the catalog, and then nothing was signed or sent, or one
result. -/
structure FactsHandled (sha256 : List UInt8 → Digest) (a : ProcessorFactAuthorization)
    (binding : ProcessorFactBinding) (t : List FactEvent) (facts : List ProcessorFact) :
    Prop where
  ordered : facts.map ProcessorFact.kind = ProcessorFactKind.catalog.filter (· ∈ a.dueFactKinds)
  once : (facts.map ProcessorFact.kind).Perm a.dueFactKinds
  collected : factCollections t = facts.map fun fact => (fact.kind.collector binding, fact.value)
  settled : factMessages t = [] ∧ factDeliveries t = []
    ∨ ∃ result, FactsResult sha256 a binding facts result ∧ FactsSigned binding t result

/-! ## The parts of the worker -/

section Parts

variable {sha256 : List UInt8 → Digest} {contracts : FactContracts}
  {a : ProcessorFactAuthorization} {binding : ProcessorFactBinding} {before t u : List FactEvent}

theorem FactsGranted.append (h : FactsGranted sha256 contracts a t) :
    FactsGranted sha256 contracts a (t ++ u) := by
  obtain ⟨now, started, rest, rfl, hvalid⟩ := h
  exact ⟨now, started, rest ++ u, rfl, hvalid⟩

/-- The kinds that are due, in the order of the catalog, are those of the
grant. -/
theorem perm_dueFactKinds (h : FactsGranted sha256 contracts a t) :
    (ProcessorFactKind.catalog.filter (· ∈ a.dueFactKinds)).Perm a.dueFactKinds := by
  obtain ⟨now, -, -, -, hvalid, -⟩ := h
  refine (List.perm_ext_iff_of_nodup (ProcessorFactKind.nodup_catalog.filter _)
    (ProcessorFactAuthorization.nodup_of_validAt hvalid)).mpr fun kind => ?_
  rw [List.mem_filter, decide_eq_true_eq]
  exact and_iff_right (ProcessorFactKind.mem_catalog kind)

/-- **What is heeded at a call**: nothing has an effect before the grant was
found valid, and nothing is sent unless the clock was read just before and the
grant has not expired. -/
def FactRule (sha256 : List UInt8 → Digest) (contracts : FactContracts)
    (a : ProcessorFactAuthorization) (before : List FactEvent) (x : FactEvent) : Prop :=
  (x.1.hasEffect = true → FactsGranted sha256 contracts a before)
    ∧ ∀ url body, x.1 = .deliver url body → ∃ y now, before.getLast? = some y
      ∧ y.reading = some now ∧ now < a.expiresAtMs

/-- A call that sends nothing is allowed once the grant was found valid. -/
theorem factRule_of_granted {x : FactEvent} (h : FactsGranted sha256 contracts a before)
    (hx : x.delivery = none) : FactRule sha256 contracts a before x := by
  refine ⟨fun _ => h, fun url body hcall => ?_⟩
  unfold FactEvent.delivery at hx
  rw [hcall] at hx
  cases hx

/-- What a collector's call shows: the fact, and nothing else. -/
theorem collector_event (binding : ProcessorFactBinding) (kind : ProcessorFactKind)
    (reply : FactReply) :
    FactEvent.collection (kind.collector binding, reply)
        = some (kind.collector binding, reply.value)
      ∧ FactEvent.message (kind.collector binding, reply) = none
      ∧ FactEvent.delivery (kind.collector binding, reply) = none := by
  cases kind <;> exact ⟨rfl, rfl, rfl⟩

/-- What a trace shows: what was collected, signed and sent. -/
structure Shows (t : List FactEvent) (collected : List (FactCall × Json))
    (signed : List String) (sent : List (String × String)) : Prop where
  collected : factCollections t = collected
  signed : factMessages t = signed
  sent : factDeliveries t = sent

variable {collected : List (FactCall × Json)} {signed : List String}
  {sent : List (String × String)}

theorem Shows.clock (h : Shows t collected signed sent) (reply : FactReply) :
    Shows (t ++ [(.nowMs, reply)]) collected signed sent :=
  ⟨(filterMap_concat_none rfl).trans h.collected, (filterMap_concat_none rfl).trans h.signed,
    (filterMap_concat_none rfl).trans h.sent⟩

theorem Shows.sign (h : Shows t collected signed sent) (message : String) (reply : FactReply) :
    Shows (t ++ [(.signEd25519 message, reply)]) collected (signed ++ [message]) sent :=
  ⟨(filterMap_concat_none rfl).trans h.collected,
    (filterMap_concat_some (f := FactEvent.message) rfl).trans
      (congrArg (· ++ [message]) h.signed),
    (filterMap_concat_none rfl).trans h.sent⟩

theorem Shows.deliver (h : Shows t collected signed sent) (url body : String)
    (reply : FactReply) :
    Shows (t ++ [(.deliver url body, reply)]) collected signed (sent ++ [(url, body)]) :=
  ⟨(filterMap_concat_none rfl).trans h.collected, (filterMap_concat_none rfl).trans h.signed,
    (filterMap_concat_some (f := FactEvent.delivery) rfl).trans
      (congrArg (· ++ [(url, body)]) h.sent)⟩

theorem Shows.collect (h : Shows t collected signed sent) (kind : ProcessorFactKind)
    (reply : FactReply) :
    Shows (t ++ [(kind.collector binding, reply)])
      (collected ++ [(kind.collector binding, reply.value)]) signed sent := by
  obtain ⟨hcollection, hmessage, hdelivery⟩ := collector_event binding kind reply
  exact ⟨(filterMap_concat_some hcollection).trans (congrArg (· ++ [_]) h.collected),
    (filterMap_concat_none hmessage).trans h.signed,
    (filterMap_concat_none hdelivery).trans h.sent⟩

/-- The facts, as their collectors gave them. -/
def gathered (binding : ProcessorFactBinding) (facts : List ProcessorFact) :
    List (FactCall × Json) :=
  facts.map fun fact => (fact.kind.collector binding, fact.value)

/-- **The collection**: the kinds that are due, each one once. -/
theorem follows_collectDue (kinds : List ProcessorFactKind)
    (h : FactsGranted sha256 contracts a before) (hshows : Shows before collected signed sent) :
    Follows (FactRule sha256 contracts a) (collectDue a binding kinds) before fun facts t =>
      FactsGranted sha256 contracts a t
        ∧ facts.map ProcessorFact.kind = kinds.filter (· ∈ a.dueFactKinds)
        ∧ Shows t (collected ++ gathered binding facts) signed sent := by
  induction kinds generalizing before collected with
  | nil =>
    refine follows_pure ⟨h, rfl, ?_⟩
    rw [gathered, List.map_nil, List.append_nil]
    exact hshows
  | cons kind rest ih =>
    unfold collectDue
    split
    next hdue =>
      refine follows_call (fun reply => factRule_of_granted h (collector_event _ kind reply).2.2)
        fun reply => ?_
      refine Follows.bind ((ih h.append (hshows.collect kind reply)).mono fun facts t ht =>
        follows_pure ⟨ht.1, ?_, ?_⟩)
      · simp only [List.map_cons, List.filter_cons, hdue, decide_true, if_true, ht.2.1]
      · rw [gathered, List.map_cons, List.append_cons]
        exact ht.2.2
    next hnot =>
      simp only [List.filter_cons, hnot, decide_false, Bool.false_eq_true, if_false]
      exact ih h hshows

variable {facts : List ProcessorFact} {result : UnsignedProcessorFactResult} {signature : String}
  {times : ℕ}

/-- The kinds of the facts, all of them and in order. -/
def AllDue (a : ProcessorFactAuthorization) (facts : List ProcessorFact) : Prop :=
  facts.map ProcessorFact.kind = ProcessorFactKind.catalog.filter (· ∈ a.dueFactKinds)

theorem handled_unsigned (h : FactsGranted sha256 contracts a t) (hdue : AllDue a facts)
    (hshows : Shows t (gathered binding facts) [] []) :
    FactsHandled sha256 a binding t facts :=
  ⟨hdue, (List.Perm.of_eq hdue).trans (perm_dueFactKinds h), hshows.collected,
    .inl ⟨hshows.signed, hshows.sent⟩⟩

theorem handled_signed (h : FactsGranted sha256 contracts a t) (hdue : AllDue a facts)
    (hresult : FactsResult sha256 a binding facts result)
    (hshows : Shows t (gathered binding facts) [result.message] sent)
    (hsent : sent = [] ∨ ∃ signature times, times ≤ 2
      ∧ (∃ x ∈ t, x.message = some result.message ∧ x.2.signed = some signature)
      ∧ sent = List.replicate times (binding.resultUrl, result.body signature)) :
    FactsHandled sha256 a binding t facts := by
  refine ⟨hdue, (List.Perm.of_eq hdue).trans (perm_dueFactKinds h), hshows.collected,
    .inr ⟨result, hresult, hshows.signed, ?_⟩⟩
  rw [hshows.sent]
  exact hsent

/-- **The deliveries**: each one after a look at the clock. -/
theorem follows_deliverFacts (n : ℕ) (h : FactsGranted sha256 contracts a before)
    (hdue : AllDue a facts) (hresult : FactsResult sha256 a binding facts result)
    (hreply : ∃ x ∈ before, x.message = some result.message ∧ x.2.signed = some signature)
    (hshows : Shows before (gathered binding facts) [result.message]
      (List.replicate times (binding.resultUrl, result.body signature)))
    (htimes : times + n ≤ 2) :
    Follows (FactRule sha256 contracts a) (deliverFacts a binding (result.body signature) n) before
      fun _ t => FactsHandled sha256 a binding t facts := by
  induction n generalizing before times with
  | zero => exact follows_pure (handled_signed h hdue hresult hshows
      (.inr ⟨signature, times, htimes, hreply, rfl⟩))
  | succ n ih =>
    refine follows_call (fun _ => factRule_of_granted h rfl) fun clock => ?_
    obtain ⟨signer, hsigner, hsignature⟩ := hreply
    have hreply₁ : ∃ x ∈ before ++ [(.nowMs, clock)],
        FactEvent.message x = some result.message ∧ x.2.signed = some signature :=
      ⟨signer, List.mem_append_left _ hsigner, hsignature⟩
    have hdone : FactsHandled sha256 a binding (before ++ [(.nowMs, clock)]) facts :=
      handled_signed h.append hdue hresult (hshows.clock clock)
        (.inr ⟨signature, times, by omega, hreply₁, rfl⟩)
    cases hnow : clock.now with
    | none => exact follows_pure hdone
    | some now =>
      dsimp only
      split
      · exact follows_pure hdone
      rename_i hearly
      refine follows_call (fun _ => ⟨fun _ => h.append, ?_⟩) fun delivered => ?_
      · rintro _ _ ⟨⟩
        exact ⟨(.nowMs, clock), now, List.getLast?_concat .., hnow, Nat.lt_of_not_le hearly⟩
      have hshows₂ := (hshows.clock clock).deliver binding.resultUrl (result.body signature)
        delivered
      rw [← List.replicate_succ'] at hshows₂
      have hreply₂ : ∃ x ∈ before ++ [(.nowMs, clock)]
            ++ [(.deliver binding.resultUrl (result.body signature), delivered)],
          FactEvent.message x = some result.message ∧ x.2.signed = some signature :=
        ⟨signer, List.mem_append_left _ (List.mem_append_left _ hsigner), hsignature⟩
      split
      · exact follows_pure (handled_signed h.append.append hdue hresult hshows₂
          (.inr ⟨signature, times + 1, by omega, hreply₂, rfl⟩))
      · exact ih h.append.append hreply₂ hshows₂ (by omega)

theorem follows_signAndDeliver (h : FactsGranted sha256 contracts a before)
    (hdue : AllDue a facts) (hgrant : result.authorization = a)
    (hbinding : result.binding = binding) (hfacts : result.facts = facts)
    (hdigest : result.factsDigest = metricDigest sha256 (.arr (facts.map ProcessorFact.toJson)))
    (hshows : Shows before (gathered binding facts) [] []) :
    Follows (FactRule sha256 contracts a) (signAndDeliver a binding result) before
      fun _ t => FactsHandled sha256 a binding t facts := by
  unfold signAndDeliver
  split
  · exact follows_pure (handled_unsigned h hdue hshows)
  rename_i hsize
  have hresult : FactsResult sha256 a binding facts result := by
    refine ⟨hgrant, hbinding, hfacts, hdigest, fun bytes hbytes => ?_⟩
    rw [result.size_body hbytes]
    exact Nat.le_of_not_lt hsize
  refine follows_call (fun _ => factRule_of_granted h rfl) fun signer => ?_
  have hshows₁ := hshows.sign result.message signer
  have hstop := handled_signed h.append hdue hresult hshows₁ (.inl rfl)
  cases hsignature : signer.signed with
  | none => exact follows_pure hstop
  | some signature =>
    dsimp only
    split
    · exact follows_pure hstop
    · have hshows₂ : Shows (before ++ [(.signEd25519 result.message, signer)])
          (gathered binding facts) [result.message]
          (List.replicate 0 (binding.resultUrl, result.body signature)) := hshows₁
      exact follows_deliverFacts 2 h.append hdue hresult
        ⟨_, List.mem_append_right _ List.mem_cons_self, rfl, hsignature⟩ hshows₂ le_rfl

theorem follows_captureFacts {started : ℕ} (h : FactsGranted sha256 contracts a before)
    (hshows : Shows before [] [] []) :
    Follows (FactRule sha256 contracts a)
      (captureFacts sha256 a binding a.expectedHelperDigest started) before
      fun _ t => ∃ facts, FactsHandled sha256 a binding t facts := by
  refine Follows.bind ((follows_collectDue _ h hshows).mono fun facts t ht => ?_)
  obtain ⟨hgranted, hdue, hgathered⟩ := ht
  rw [List.nil_append] at hgathered
  refine follows_call (fun _ => factRule_of_granted hgranted rfl) fun clock => ?_
  cases clock.now with
  | none => exact follows_pure ⟨facts, handled_unsigned hgranted.append hdue (hgathered.clock clock)⟩
  | some completed =>
    exact (follows_signAndDeliver hgranted.append hdue rfl rfl rfl rfl
      (hgathered.clock clock)).mono fun _ t ht => ⟨facts, ht⟩

end Parts

/-! ## The whole worker -/

section Whole

variable {sha256 : List UInt8 → Digest} {contracts : FactContracts}
  {a : ProcessorFactAuthorization} {binding : ProcessorFactBinding}

theorem time_of_now {clock : FactReply} {now : ℕ} (h : clock.now = some now) :
    clock = .time (some now) := by
  cases clock with
  | time nowMs => exact congrArg FactReply.time h
  | _ => cases h

theorem digest_of_hashed {reply : FactReply} {text : String} (h : reply.hashed = some text) :
    reply = .digest (some text) := by
  cases reply with
  | digest text => exact congrArg FactReply.digest h
  | _ => cases h

/-- What the second reading of the clock was, if the grant was found valid. -/
theorem granted_second {x y : FactEvent} {second : FactReply} {rest : List FactEvent}
    (h : FactsGranted sha256 contracts a (x :: y :: (.nowMs, second) :: rest)) :
    ∃ started, second.now = some started ∧ a.validAt started = true := by
  obtain ⟨now, started, rest', heq, -, hvalid, -⟩ := h
  have hthird := (List.cons.inj (List.cons.inj (List.cons.inj heq).2).2).1
  rw [(Prod.mk.inj hthird).2]
  exact ⟨started, rfl, hvalid⟩

/-- **The worker heeds its rule**, and if the grant was found valid it has
handled the facts. -/
theorem follows_runProcessorFactWorker :
    Follows (FactRule sha256 contracts a) (runProcessorFactWorker sha256 contracts a binding) []
      fun _ t => FactsGranted sha256 contracts a t →
        ∃ facts, FactsHandled sha256 a binding t facts := by
  refine follows_call (fun _ => ⟨nofun, nofun⟩) fun first => ?_
  have hone : ¬ FactsGranted sha256 contracts a ([] ++ [(.nowMs, first)]) := nofun
  cases hfirst : first.now with
  | none => exact follows_pure fun h => absurd h hone
  | some now =>
    dsimp only
    split
    · exact follows_pure fun h => absurd h hone
    rename_i hgrant
    simp only [Bool.or_eq_true, not_or, Bool.not_eq_true', Bool.not_eq_false, decide_eq_true_eq,
      ne_eq, not_not] at hgrant
    refine follows_call (fun _ => ⟨nofun, nofun⟩) fun executable => ?_
    have htwo : ¬ FactsGranted sha256 contracts a
        ([] ++ [(.nowMs, first)] ++ [(.executableSha256, executable)]) := nofun
    cases hexecutable : executable.hashed with
    | none => exact follows_pure fun h => absurd h htwo
    | some helperDigest =>
      dsimp only
      split
      · exact follows_pure fun h => absurd h htwo
      rename_i hdigest
      obtain rfl : helperDigest = a.expectedHelperDigest := not_not.mp hdigest
      refine follows_call (fun _ => ⟨nofun, nofun⟩) fun second => ?_
      obtain rfl := time_of_now hfirst
      obtain rfl := digest_of_hashed hexecutable
      cases hsecond : second.now with
      | none =>
        refine follows_pure fun h => ?_
        obtain ⟨started, hstarted, -⟩ := granted_second h
        cases hsecond.symm.trans hstarted
      | some started =>
        dsimp only
        split
        next hinvalid =>
          refine follows_pure fun h => ?_
          obtain ⟨started', hstarted, hvalid⟩ := granted_second h
          obtain rfl := Option.some.inj (hsecond.symm.trans hstarted)
          rw [hvalid] at hinvalid
          cases hinvalid
        next hvalid =>
          obtain rfl := time_of_now hsecond
          rw [Bool.not_eq_true', Bool.not_eq_false] at hvalid
          refine (follows_captureFacts ⟨now, started, [], rfl, hgrant.1.1, hvalid, hgrant.1.2,
            hgrant.2⟩ ⟨rfl, rfl, rfl⟩).mono fun _ t ht _ => ht

/-- **What the worker does is granted**, whatever the clock, the hasher, the
collectors, the signer and the delivery reply. Unless the grant is for this
helper and valid at both readings of the clock, nothing is collected, signed or
sent. If it is, every kind that is due is collected once, in the order of the
catalog; at most one result is signed, with these facts and their digest, and
only if it is not too long with a signature of 64 bytes; what is sent is that
result with its signature, at most twice and to the bound place; and before
something is sent the clock says that the grant has not expired. -/
theorem facts_collected_as_granted {t : List FactEvent} {outcome : Except Unit Unit}
    (h : Yields (runProcessorFactWorker sha256 contracts a binding) t outcome) :
    (¬ FactsGranted sha256 contracts a t → ∀ x ∈ t, x.1.hasEffect = false)
      ∧ (FactsGranted sha256 contracts a t → ∃ facts, FactsHandled sha256 a binding t facts)
      ∧ ∀ before url body r after, t = before ++ (.deliver url body, r) :: after →
        ∃ y now, before.getLast? = some y ∧ FactEvent.reading y = some now
          ∧ now < a.expiresAtMs := by
  obtain ⟨halong, hhandled⟩ := follows_runProcessorFactWorker t outcome h
  refine ⟨fun hnot x hx => ?_, hhandled, fun before url body r after heq => ?_⟩
  · -- a call with an effect was made after the grant was found valid
    by_contra heffect
    obtain ⟨before, after, rfl⟩ := List.append_of_mem hx
    exact hnot (halong.at.1 ((Bool.not_eq_false _).mp heffect)).append
  · rw [heq] at halong
    exact halong.at.2 url body rfl

end Whole

namespace FactSample

open CoverageSample (zeroHash)

def contracts : FactContracts := ⟨[], []⟩

/-- A grant that names two kinds, not in the order of the catalog. -/
def grant : ProcessorFactAuthorization where
  domain := processorFactAuthorizationDomain
  authorizationId := "a"
  challenge := sampleHex 64
  issuedAtMs := 0
  expiresAtMs := 1000
  profile := cargoBaselineProfile
  catalogDigest := sha256Text zeroHash []
  helperContractEpoch := 1
  expectedHelperVersion := packageVersion
  expectedHelperDigest := "sha256:" ++ sampleHex 64
  dueFactKinds := [.controlEgress, .androidCorroboration]

def binding : ProcessorFactBinding :=
  ⟨"d", "j", "p", "i", "https://core/api/jobs/processor-facts",
    "https://core/api/jobs/processor-facts/egress"⟩

def facts : List ProcessorFact := [⟨.androidCorroboration, .null⟩, ⟨.controlEgress, .null⟩]

def result : UnsignedProcessorFactResult :=
  ⟨grant, binding, grant.expectedHelperDigest, 31, 40, facts,
    metricDigest zeroHash (.arr (facts.map ProcessorFact.toJson))⟩

/-- The first delivery fails, and the second comes through. -/
def trace : List FactEvent :=
  [(.nowMs, .time (some 30)), (.executableSha256, .digest (some grant.expectedHelperDigest)),
    (.nowMs, .time (some 31)), (.collectAndroid, .fact .null),
    (.collectEgress binding.egressUrl, .fact .null), (.nowMs, .time (some 40)),
    (.signEd25519 result.message, .signature (some "")), (.nowMs, .time (some 50)),
    (.deliver binding.resultUrl (result.body ""), .flag false), (.nowMs, .time (some 60)),
    (.deliver binding.resultUrl (result.body ""), .flag true)]

theorem signedSize_result : ¬ result.signedSize > maxResultBytes := by
  rw [UnsignedProcessorFactResult.signedSize, UnsignedProcessorFactResult.body,
    size_canonicalJsonBytes]
  exact Nat.not_lt.mpr ((Json.size_le_sizeBound _).trans (by decide +kernel))

theorem size_sent : ¬ (result.body "").utf8ByteSize > maxResultBytes := by
  rw [UnsignedProcessorFactResult.body, size_canonicalJsonBytes]
  exact Nat.not_lt.mpr ((Json.size_le_sizeBound _).trans (by decide +kernel))

theorem validAt_grant : grant.validAt 30 = true ∧ grant.validAt 31 = true := by decide +kernel

theorem yields_deliverFacts :
    Yields (deliverFacts grant binding (result.body "") 2) (trace.drop 7) (.ok ()) := by
  refine yields_perform_bind.mpr ⟨_, _, rfl, yields_perform_bind.mpr ⟨_, _, rfl, ?_⟩⟩
  exact yields_perform_bind.mpr ⟨_, _, rfl, yields_perform_bind.mpr
    ⟨_, _, rfl, yields_pure.mpr ⟨rfl, rfl⟩⟩⟩

theorem yields_signAndDeliver :
    Yields (signAndDeliver grant binding result) (trace.drop 6) (.ok ()) := by
  unfold signAndDeliver
  rw [if_neg signedSize_result]
  refine yields_perform_bind.mpr ⟨_, _, rfl, ?_⟩
  dsimp only [FactReply.signed]
  rw [if_neg size_sent]
  exact yields_deliverFacts

theorem yields_collectDue :
    Yields (collectDue grant binding ProcessorFactKind.catalog) ((trace.drop 3).take 2) facts := by
  refine yields_perform_bind.mpr ⟨_, _, rfl, ?_⟩
  refine yields_bind.mpr ⟨[(.collectEgress binding.egressUrl, .fact .null)], [],
    [⟨.controlEgress, .null⟩], rfl, ?_, yields_pure.mpr ⟨rfl, rfl⟩⟩
  refine yields_perform_bind.mpr ⟨_, _, rfl, ?_⟩
  exact yields_bind.mpr ⟨[], [], [], rfl, yields_pure.mpr ⟨rfl, rfl⟩, yields_pure.mpr ⟨rfl, rfl⟩⟩

theorem yields_run :
    Yields (runProcessorFactWorker zeroHash contracts grant binding) trace (.ok ()) := by
  have hcapture : Yields (captureFacts zeroHash grant binding grant.expectedHelperDigest 31)
      (trace.drop 3) (.ok ()) := by
    refine yields_bind.mpr ⟨_, trace.drop 5, facts, rfl, yields_collectDue, ?_⟩
    exact yields_perform_bind.mpr ⟨.time (some 40), _, rfl, yields_signAndDeliver⟩
  refine yields_perform_bind.mpr ⟨_, _, rfl, ?_⟩
  dsimp only [FactReply.now]
  rw [if_neg (by decide +kernel)]
  refine yields_perform_bind.mpr ⟨_, _, rfl, ?_⟩
  dsimp only [FactReply.hashed]
  rw [if_neg (not_not.mpr rfl)]
  refine yields_perform_bind.mpr ⟨_, _, rfl, ?_⟩
  dsimp only [FactReply.now]
  rw [if_neg (by decide +kernel)]
  exact hcapture

end FactSample

open FactSample CoverageSample in
/-- Two kinds are due and collected in the order of the catalog, and the result
is delivered at the second attempt. -/
theorem two_facts_delivered :
    FactsGranted zeroHash contracts grant trace
      ∧ (∃ facts, FactsHandled zeroHash grant binding trace facts)
      ∧ factDeliveries trace = List.replicate 2 (binding.resultUrl, FactSample.result.body "") := by
  have hgranted : FactsGranted zeroHash contracts grant trace :=
    ⟨30, 31, _, rfl, validAt_grant.1, validAt_grant.2, rfl, rfl⟩
  exact ⟨hgranted, (facts_collected_as_granted FactSample.yields_run).2.1 hgranted, rfl⟩
