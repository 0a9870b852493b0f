import RuntimeCargo.Check
import RuntimeCargo.Wire
import RuntimeCargo.Manifest

/-!
# Traversal grants and path transcripts

A traversal experiment is run under a *descriptor*: the authenticated
grant that names the run, what may be done in it, the budgets it has and,
for router mappings, what the operator has consented to. What is observed
on the way is stated in *transcripts*, and a transcript counts only inside
the scope of its descriptor.

This file has the two records as they travel, the checks a record passes
before anything is believed of it, and the time a descriptor leaves for an
experiment. What the rest of the development needs of an accepted
descriptor is `TraversalDescriptorV1.Sound`: the budgets keep their
cleanup share inside the whole, a mapping run has its consent, and the
lease ceiling lies between the requested lease and two minutes.
-/

/-! ## Vocabulary -/

/-- Refusals of the codecs (`TraversalRefusal`). -/
inductive TraversalRefusal where
  | malformed | unknownVersion | wrongDomain | invalidBinding | invalidScope | invalidBudget
  | invalidDeadline | invalidConsent | invalidPair | invalidProof | oversize | notYetValid
  | expired | insufficientTime | invalidMac | nonCanonical
deriving DecidableEq

inductive TraversalMode where
  | observe | mapping | pair
deriving DecidableEq

inductive TraversalOperation where
  | discoverGateway | observeMapping | observeFiltering | baselineTcp | baselineUdp
  | registerEndpoint | mapPcp | mapNatPmp | mapUpnp | pairDirectUdp | pairRelayControl
deriving DecidableEq

inductive TraversalRouterProtocol where
  | pcp | natPmp | upnpIgd
deriving DecidableEq

inductive TraversalParticipantRole where
  | first | second
deriving DecidableEq

inductive TraversalEvidenceAuthority where
  | externalPath | deviceReportedRouter | helperObservedPeer | proberObservedRegistration
  | proberObservedBehaviour
deriving DecidableEq

inductive TraversalStage where
  | discovery | baseline | mappingCreate | mappingVerify | mappingCleanup | endpointRegistration
  | direct | relayControl | mappingBehaviour | filteringBehaviour
deriving DecidableEq

inductive TraversalMethod where
  | unassisted | udpMapping | udpFiltering | pcp | natPmp | upnpIgd | pair
deriving DecidableEq

inductive TraversalTransport where
  | tcp | udp | routerControl | relayControl
deriving DecidableEq

inductive TraversalFamily where
  | v4 | v6
deriving DecidableEq

inductive TraversalOutcome where
  | succeeded | failed | unsupportedTopology | unsupportedRuntimeApi | unsupportedSafeOwnership
  | unsupportedFiniteLease | unverifiableEndpoint | skippedBudget | notStarted
  | directNotEstablishedInTest | oneWayPeer | peerAbsent | wrongPeer | lateJoin
  | candidateRebinding | budgetExhausted | proberNoEgress | creationOutcomeUnknown
  | expiryUnknown | endpointIndependent | addressDependent | addressAndPortDependent | unknown
deriving DecidableEq

inductive TraversalErrorClass where
  | timeout | connectFailed | invalidResponse | rateLimited | tokenRefused | budgetExhausted
  | mappingConflict | leaseRefused | cleanupFailed | proberUnavailable | peerUnavailable
deriving DecidableEq

inductive TraversalCleanup where
  | confirmedDeleted | deleteFailed | leaseExpiryPending | notCreated | creationOutcomeUnknown
  | expiryUnknown
deriving DecidableEq

/-! ## Texts and limits -/

/-- `TRAVERSAL_BLOCK_MAX_BYTES`. -/
def traversalBlockMaxBytes : ℕ := 8 * 1024

/-- `TRAVERSAL_CAPABILITY_MAX_MS`. -/
def traversalCapabilityMaxMs : ℕ := 120000

/-- `TRAVERSAL_EXPERIMENT_MAX_MS`. -/
def traversalExperimentMaxMs : ℕ := 30000

/-- `TRAVERSAL_CLEANUP_RESERVE_MS`. -/
def traversalCleanupReserveMs : ℕ := 5000

/-- `EXISTING_DELIVERY_RESERVE_MS`: two bounded deliveries stay outside the
collector. -/
def existingDeliveryReserveMs : ℕ := 40000

/-- `text`: printable, short and not empty. -/
def isBoundedText (s : String) : Bool :=
  s ≠ "" && s.utf8ByteSize ≤ 128 && s.toList.all fun c => '!' ≤ c && c ≤ '~'

/-- `lower_hex`. -/
def isLowerHex (s : String) (bytes : ℕ) : Bool :=
  s.utf8ByteSize = bytes * 2 && s.toList.all isLowerHexDigit

/-- `digest`: a written SHA-256 digest. -/
def isSha256Text (s : String) : Bool :=
  (stripStart "sha256:" s).any fun hex => isLowerHex hex 32

theorem isLowerHex_hexEncode (bytes : List UInt8) :
    isLowerHex (hexEncode bytes) bytes.length = true := by
  have hchars : (hexEncode bytes).toList.all isLowerHexDigit = true :=
    List.all_eq_true.mpr (forall_hexEncode (by decide) bytes)
  rw [isLowerHex, size_hexEncode, hchars, Bool.and_true]
  exact decide_eq_true (Nat.mul_comm ..)

theorem isSha256Text_hexEncode (d : Digest) :
    isSha256Text ("sha256:" ++ hexEncode d.toList) = true := by
  have hhex := isLowerHex_hexEncode d.toList
  rw [Vector.length_toList] at hhex
  rw [isSha256Text, stripStart_append, Option.any_some]
  exact hhex

/-- A list that rises at every step: `windows(2)` without a pair that does
not. -/
def isRising {α : Type} (rank : α → ℕ) : List α → Bool
  | a :: b :: rest => rank a < rank b && isRising rank (b :: rest)
  | _ => true

/-! ## The descriptor -/

structure TraversalBudgets where
  experimentMs : ℕ
  cleanupReserveMs : ℕ
  outboundDatagrams : ℕ
  datagramBytes : ℕ
  controlRequests : ℕ
  externalDialbacks : ℕ
  relayBytesPerDirection : ℕ
  concurrentMappingLeases : ℕ
  /-- Reserved before a create, and not for discovery or retries. -/
  cleanupDatagrams : ℕ
  cleanupControlRequests : ℕ
deriving DecidableEq

structure TraversalMappingConsent where
  consentReference : String
  processorAllowlistDigest : String
  exclusiveReservationDigest : String
  priorUncertaintyResolved : Bool
  finiteExpiryVerified : Bool
  expiresAtMs : ℕ
  protocols : List TraversalRouterProtocol
  requestedLeaseSec : ℕ
  maximumLeaseSec : ℕ
deriving DecidableEq

structure TraversalParticipant where
  role : TraversalParticipantRole
  launchInstanceDigest : String
  claimAuthorityDigest : String
  runtimeSigner : String
deriving DecidableEq

/-- Which helper a grant may name. -/
structure TraversalHelperIdentity where
  version : String
  digest : String

/-- The time that is set aside. -/
structure Reservation where
  experimentMs : ℕ
  cleanupReserveMs : ℕ
  deliveryReserveMs : ℕ
  collectorEndMs : ℕ
  deliveryEndMs : ℕ

structure TraversalPair where
  pairId : String
  expiresAtMs : ℕ
  /-- The two slots, in order. -/
  first : TraversalParticipant
  second : TraversalParticipant
deriving DecidableEq

structure TraversalDescriptorV1 where
  version : ℕ
  runId : String
  mode : TraversalMode
  claimAuthorityDigest : String
  profileVersion : String
  catalogVersion : String
  artifactDigest : String
  helperVersion : String
  helperDigest : String
  endpointSetRevision : String
  issuedAtMs : ℕ
  expiresAtMs : ℕ
  deadlineMs : ℕ
  operations : List TraversalOperation
  budgets : TraversalBudgets
  mapping : Option TraversalMappingConsent
  pair : Option TraversalPair
  participantRole : Option TraversalParticipantRole
deriving DecidableEq

/-! ## How the descriptor is written -/

/-- `rename_all = "snake_case"`. -/
def TraversalMode.name : TraversalMode → String
  | observe => "observe"
  | mapping => "mapping"
  | pair => "pair"

@[inherit_doc TraversalMode.name]
def TraversalOperation.name : TraversalOperation → String
  | discoverGateway => "discover_gateway"
  | observeMapping => "observe_mapping"
  | observeFiltering => "observe_filtering"
  | baselineTcp => "baseline_tcp"
  | baselineUdp => "baseline_udp"
  | registerEndpoint => "register_endpoint"
  | mapPcp => "map_pcp"
  | mapNatPmp => "map_nat_pmp"
  | mapUpnp => "map_upnp"
  | pairDirectUdp => "pair_direct_udp"
  | pairRelayControl => "pair_relay_control"

@[inherit_doc TraversalMode.name]
def TraversalRouterProtocol.name : TraversalRouterProtocol → String
  | pcp => "pcp"
  | natPmp => "nat_pmp"
  | upnpIgd => "upnp_igd"

@[inherit_doc TraversalMode.name]
def TraversalParticipantRole.name : TraversalParticipantRole → String
  | first => "first"
  | second => "second"

/-- An optional value, `null` where it is missing. -/
def Json.ofOption {α : Type} (toJson : α → Json) : Option α → Json
  | none => .null
  | some a => toJson a

def TraversalBudgets.toJson (b : TraversalBudgets) : Json :=
  .obj [("experimentMs", .num b.experimentMs), ("cleanupReserveMs", .num b.cleanupReserveMs),
    ("outboundDatagrams", .num b.outboundDatagrams), ("datagramBytes", .num b.datagramBytes),
    ("controlRequests", .num b.controlRequests), ("externalDialbacks", .num b.externalDialbacks),
    ("relayBytesPerDirection", .num b.relayBytesPerDirection),
    ("concurrentMappingLeases", .num b.concurrentMappingLeases),
    ("cleanupDatagrams", .num b.cleanupDatagrams),
    ("cleanupControlRequests", .num b.cleanupControlRequests)]

def TraversalMappingConsent.toJson (c : TraversalMappingConsent) : Json :=
  .obj [("consentReference", .str c.consentReference),
    ("processorAllowlistDigest", .str c.processorAllowlistDigest),
    ("exclusiveReservationDigest", .str c.exclusiveReservationDigest),
    ("priorUncertaintyResolved", .bool c.priorUncertaintyResolved),
    ("finiteExpiryVerified", .bool c.finiteExpiryVerified), ("expiresAtMs", .num c.expiresAtMs),
    ("protocols", .arr (c.protocols.map fun p => .str p.name)),
    ("requestedLeaseSec", .num c.requestedLeaseSec), ("maximumLeaseSec", .num c.maximumLeaseSec)]

def TraversalParticipant.toJson (p : TraversalParticipant) : Json :=
  .obj [("role", .str p.role.name), ("launchInstanceDigest", .str p.launchInstanceDigest),
    ("claimAuthorityDigest", .str p.claimAuthorityDigest), ("runtimeSigner", .str p.runtimeSigner)]

def TraversalPair.toJson (p : TraversalPair) : Json :=
  .obj [("pairId", .str p.pairId), ("expiresAtMs", .num p.expiresAtMs),
    ("participants", .arr [p.first.toJson, p.second.toJson])]

def TraversalDescriptorV1.toJson (d : TraversalDescriptorV1) : Json :=
  .obj [("version", .num d.version), ("runId", .str d.runId), ("mode", .str d.mode.name),
    ("claimAuthorityDigest", .str d.claimAuthorityDigest),
    ("profileVersion", .str d.profileVersion), ("catalogVersion", .str d.catalogVersion),
    ("artifactDigest", .str d.artifactDigest), ("helperVersion", .str d.helperVersion),
    ("helperDigest", .str d.helperDigest), ("endpointSetRevision", .str d.endpointSetRevision),
    ("issuedAtMs", .num d.issuedAtMs), ("expiresAtMs", .num d.expiresAtMs),
    ("deadlineMs", .num d.deadlineMs),
    ("operations", .arr (d.operations.map fun op => .str op.name)),
    ("budgets", d.budgets.toJson),
    ("mapping", Json.ofOption TraversalMappingConsent.toJson d.mapping),
    ("pair", Json.ofOption TraversalPair.toJson d.pair),
    ("participantRole", Json.ofOption (fun r => .str r.name) d.participantRole)]

/-- `bounded`: what is written fits. -/
def bounded (value : Json) (limit : ℕ) : Except TraversalRefusal Unit :=
  require (value.size ≤ limit) .oversize

theorem bounded_of_sizeBound {value : Json} {limit : ℕ} (h : value.sizeBound ≤ limit) :
    bounded value limit = .ok () :=
  require_eq_ok.mpr ((Json.size_le_sizeBound value).trans h)

/-! ## What a descriptor has to be -/

/-- `TraversalBudgets::validate`. -/
def TraversalBudgets.validate (b : TraversalBudgets) : Except TraversalRefusal Unit :=
  require (¬(b.experimentMs = 0 ∨ b.experimentMs > traversalExperimentMaxMs
    ∨ b.cleanupReserveMs = 0 ∨ b.cleanupReserveMs > traversalCleanupReserveMs
    ∨ b.cleanupReserveMs ≥ b.experimentMs ∨ b.outboundDatagrams > 64 ∨ b.datagramBytes > 512
    ∨ b.controlRequests > 12 ∨ b.externalDialbacks > 4 ∨ b.relayBytesPerDirection > 65536
    ∨ b.concurrentMappingLeases > 2 ∨ b.cleanupDatagrams > b.outboundDatagrams
    ∨ b.cleanupControlRequests > b.controlRequests
    ∨ (b.outboundDatagrams > 0 ∧ b.datagramBytes = 0))) .invalidBudget

namespace TraversalDescriptorV1

/-- Whether a mode has an operation. -/
def allows (mode : TraversalMode) : TraversalOperation → Bool
  | .mapPcp | .mapNatPmp | .mapUpnp => mode = .mapping
  | .registerEndpoint | .pairDirectUdp | .pairRelayControl => mode = .pair
  | .discoverGateway | .observeMapping | .observeFiltering | .baselineTcp | .baselineUdp =>
    mode ≠ .pair

/-- The operation that mutates the router by a protocol. -/
def mutates : TraversalRouterProtocol → TraversalOperation
  | .pcp => .mapPcp
  | .natPmp => .mapNatPmp
  | .upnpIgd => .mapUpnp

/-- What a mapping run needs of its consent. -/
def checkConsent (d : TraversalDescriptorV1) (consent : TraversalMappingConsent) :
    Except TraversalRefusal Unit := do
  require (¬(¬ isBoundedText consent.consentReference
    ∨ ¬ isSha256Text consent.processorAllowlistDigest
    ∨ ¬ isSha256Text consent.exclusiveReservationDigest
    ∨ ¬ consent.priorUncertaintyResolved ∨ ¬ consent.finiteExpiryVerified
    ∨ consent.expiresAtMs < d.expiresAtMs ∨ consent.expiresAtMs > maxSafeInteger
    ∨ consent.requestedLeaseSec ≠ 60 ∨ consent.maximumLeaseSec < 60
    ∨ consent.maximumLeaseSec > 120 ∨ consent.protocols = [] ∨ consent.protocols.length > 3
    ∨ ¬ isRising TraversalRouterProtocol.ctorIdx consent.protocols
    ∨ d.budgets.concurrentMappingLeases = 0)) .invalidConsent
  require (¬((consent.protocols.any fun p => !d.operations.contains (mutates p))
    ∨ ([.pcp, .natPmp, .upnpIgd].any fun p =>
        d.operations.contains (mutates p) && !consent.protocols.contains p)
    ∨ d.budgets.cleanupDatagrams < d.budgets.concurrentMappingLeases
    ∨ d.budgets.cleanupControlRequests < d.budgets.concurrentMappingLeases)) .invalidConsent

/-- The consent goes with the mode. -/
def checkMapping (d : TraversalDescriptorV1) : Except TraversalRefusal Unit :=
  match d.mode, d.mapping with
  | .mapping, some consent => checkConsent d consent
  | .mapping, none => .error .invalidConsent
  | _, some _ => .error .invalidScope
  | _, none => require (¬(d.budgets.concurrentMappingLeases ≠ 0 ∨ d.budgets.cleanupDatagrams ≠ 0
      ∨ d.budgets.cleanupControlRequests ≠ 0)) .invalidScope

/-- One slot of a pair. -/
def checkParticipant (p : TraversalParticipant) : Bool :=
  isSha256Text p.launchInstanceDigest && isSha256Text p.claimAuthorityDigest
    && (stripStart "0x" p.runtimeSigner).any fun s => isLowerHex s 32

/-- The pair goes with the mode. -/
def checkPair (d : TraversalDescriptorV1) : Except TraversalRefusal Unit :=
  match d.mode, d.pair, d.participantRole with
  | .pair, some pair, some role =>
    require (¬(¬ isLowerHex pair.pairId 16 ∨ pair.expiresAtMs ≠ d.expiresAtMs
      ∨ pair.first.role ≠ .first ∨ pair.second.role ≠ .second
      ∨ pair.first.launchInstanceDigest = pair.second.launchInstanceDigest
      ∨ pair.first.claimAuthorityDigest = pair.second.claimAuthorityDigest
      ∨ ([pair.first, pair.second].any fun p => !checkParticipant p)
      ∨ ¬ (([pair.first, pair.second].find? fun p => p.role = role).any fun p =>
          p.claimAuthorityDigest = d.claimAuthorityDigest))) .invalidPair
  | .pair, _, _ => .error .invalidPair
  | _, none, none => .ok ()
  | _, _, _ => .error .invalidScope

/-- `TraversalDescriptorV1::validate`. -/
def validate (d : TraversalDescriptorV1) : Except TraversalRefusal Unit := do
  require (d.version = 1) .unknownVersion
  require (isLowerHex d.runId 16
    ∧ ([d.claimAuthorityDigest, d.artifactDigest, d.helperDigest].all isSha256Text)
    ∧ ([d.profileVersion, d.catalogVersion, d.helperVersion, d.endpointSetRevision].all
        isBoundedText)) .invalidBinding
  d.budgets.validate
  require (¬(d.expiresAtMs > maxSafeInteger ∨ d.expiresAtMs ≤ d.issuedAtMs
    ∨ d.expiresAtMs - d.issuedAtMs > traversalCapabilityMaxMs ∨ d.deadlineMs ≤ d.issuedAtMs
    ∨ d.deadlineMs > d.expiresAtMs)) .invalidDeadline
  require (¬(d.operations = [] ∨ d.operations.length > 11
    ∨ ¬ isRising TraversalOperation.ctorIdx d.operations)) .invalidScope
  require (d.operations.all (allows d.mode)) .invalidScope
  checkMapping d
  checkPair d
  require (¬(d.mode ≠ .pair ∧ d.budgets.relayBytesPerDirection ≠ 0)) .invalidScope
  bounded d.toJson traversalBlockMaxBytes

/-- `validate_at`. -/
def validateAt (d : TraversalDescriptorV1) (nowMs : ℕ) : Except TraversalRefusal Unit := do
  validate d
  require (¬ nowMs < d.issuedAtMs) .notYetValid
  require (¬ nowMs ≥ d.expiresAtMs) .expired

/-- `can_start`: the experiment and the delivery after it end in time. -/
def canStart (d : TraversalDescriptorV1) (nowMs jobExpiresAtMs deliveryReserveMs : ℕ) :
    Except TraversalRefusal Unit := do
  validateAt d nowMs
  let finish ← (checkedAdd nowMs d.budgets.experimentMs).okOr .insufficientTime
  let delivered ← (checkedAdd finish deliveryReserveMs).okOr .insufficientTime
  require (¬(finish > d.deadlineMs ∨ delivered > min d.expiresAtMs jobExpiresAtMs))
    .insufficientTime

section Digest

variable (sha256 : List UInt8 → Digest)

/-- `binding_digest`, of the canonical form. -/
def bindingDigest (d : TraversalDescriptorV1) : Except TraversalRefusal String := do
  validate d
  return "sha256:" ++ hexEncode (sha256 (utf8 (canonicalJsonBytes d.toJson))).toList

end Digest

/-! ## What an accepted descriptor is -/

/-- **What is known of a descriptor that was accepted for a mapping run.** -/
structure Sound (d : TraversalDescriptorV1) (consent : TraversalMappingConsent) : Prop where
  reserve_lt : d.budgets.cleanupReserveMs < d.budgets.experimentMs
  cleanupDatagrams_le : d.budgets.cleanupDatagrams ≤ d.budgets.outboundDatagrams
  cleanupControl_le : d.budgets.cleanupControlRequests ≤ d.budgets.controlRequests
  lease_ge : 60 ≤ consent.maximumLeaseSec
  lease_le : consent.maximumLeaseSec ≤ 120

theorem sound_of_validate {d : TraversalDescriptorV1} {consent : TraversalMappingConsent}
    (hmode : d.mode = .mapping) (hconsent : d.mapping = some consent)
    (h : validate d = .ok ()) : Sound d consent := by
  obtain ⟨-, h⟩ := require_bind_eq_ok.mp h
  obtain ⟨-, h⟩ := require_bind_eq_ok.mp h
  obtain ⟨_, hbudgets, h⟩ := Except.bind_eq_ok.mp h
  obtain ⟨-, h⟩ := require_bind_eq_ok.mp h
  obtain ⟨-, h⟩ := require_bind_eq_ok.mp h
  obtain ⟨-, h⟩ := require_bind_eq_ok.mp h
  obtain ⟨_, hmapping, -⟩ := Except.bind_eq_ok.mp h
  rw [checkMapping, hmode, hconsent] at hmapping
  obtain ⟨hlease, -⟩ := require_bind_eq_ok.mp hmapping
  have hb := require_eq_ok.mp hbudgets
  push Not at hb hlease
  exact ⟨hb.2.2.2.2.1, hb.2.2.2.2.2.2.2.2.2.2.2.1, hb.2.2.2.2.2.2.2.2.2.2.2.2.1,
    hlease.2.2.2.2.2.2.2.2.1, hlease.2.2.2.2.2.2.2.2.2.1⟩

end TraversalDescriptorV1

/-! ## Transcripts -/

/-- What was observed in one phase of a run, to be signed. -/
structure TraversalTranscriptV1 where
  version : ℕ
  domain : String
  descriptorDigest : String
  runId : String
  pairId : Option String
  participantRole : Option TraversalParticipantRole
  authority : TraversalEvidenceAuthority
  stage : TraversalStage
  method : TraversalMethod
  transport : TraversalTransport
  family : TraversalFamily
  challenge : String
  peerChallenge : Option String
  expiresAtMs : ℕ
  outcome : TraversalOutcome
  elapsedMs : ℕ
  grantedLeaseSec : Option ℕ
  cleanup : Option TraversalCleanup
  protocolError : Option ℕ
  errorClass : Option TraversalErrorClass
deriving DecidableEq

@[inherit_doc TraversalMode.name]
def TraversalEvidenceAuthority.name : TraversalEvidenceAuthority → String
  | externalPath => "external_path"
  | deviceReportedRouter => "device_reported_router"
  | helperObservedPeer => "helper_observed_peer"
  | proberObservedRegistration => "prober_observed_registration"
  | proberObservedBehaviour => "prober_observed_behaviour"

@[inherit_doc TraversalMode.name]
def TraversalStage.name : TraversalStage → String
  | discovery => "discovery"
  | baseline => "baseline"
  | mappingCreate => "mapping_create"
  | mappingVerify => "mapping_verify"
  | mappingCleanup => "mapping_cleanup"
  | endpointRegistration => "endpoint_registration"
  | direct => "direct"
  | relayControl => "relay_control"
  | mappingBehaviour => "mapping_behaviour"
  | filteringBehaviour => "filtering_behaviour"

@[inherit_doc TraversalMode.name]
def TraversalMethod.name : TraversalMethod → String
  | unassisted => "unassisted"
  | udpMapping => "udp_mapping"
  | udpFiltering => "udp_filtering"
  | pcp => "pcp"
  | natPmp => "nat_pmp"
  | upnpIgd => "upnp_igd"
  | pair => "pair"

@[inherit_doc TraversalMode.name]
def TraversalTransport.name : TraversalTransport → String
  | tcp => "tcp"
  | udp => "udp"
  | routerControl => "router_control"
  | relayControl => "relay_control"

@[inherit_doc TraversalMode.name]
def TraversalFamily.name : TraversalFamily → String
  | v4 => "v4"
  | v6 => "v6"

@[inherit_doc TraversalMode.name]
def TraversalOutcome.name : TraversalOutcome → String
  | succeeded => "succeeded"
  | failed => "failed"
  | unsupportedTopology => "unsupported_topology"
  | unsupportedRuntimeApi => "unsupported_runtime_api"
  | unsupportedSafeOwnership => "unsupported_safe_ownership"
  | unsupportedFiniteLease => "unsupported_finite_lease"
  | unverifiableEndpoint => "unverifiable_endpoint"
  | skippedBudget => "skipped_budget"
  | notStarted => "not_started"
  | directNotEstablishedInTest => "direct_not_established_in_test"
  | oneWayPeer => "one_way_peer"
  | peerAbsent => "peer_absent"
  | wrongPeer => "wrong_peer"
  | lateJoin => "late_join"
  | candidateRebinding => "candidate_rebinding"
  | budgetExhausted => "budget_exhausted"
  | proberNoEgress => "prober_no_egress"
  | creationOutcomeUnknown => "creation_outcome_unknown"
  | expiryUnknown => "expiry_unknown"
  | endpointIndependent => "endpoint_independent"
  | addressDependent => "address_dependent"
  | addressAndPortDependent => "address_and_port_dependent"
  | unknown => "unknown"

@[inherit_doc TraversalMode.name]
def TraversalErrorClass.name : TraversalErrorClass → String
  | timeout => "timeout"
  | connectFailed => "connect_failed"
  | invalidResponse => "invalid_response"
  | rateLimited => "rate_limited"
  | tokenRefused => "token_refused"
  | budgetExhausted => "budget_exhausted"
  | mappingConflict => "mapping_conflict"
  | leaseRefused => "lease_refused"
  | cleanupFailed => "cleanup_failed"
  | proberUnavailable => "prober_unavailable"
  | peerUnavailable => "peer_unavailable"

@[inherit_doc TraversalMode.name]
def TraversalCleanup.name : TraversalCleanup → String
  | confirmedDeleted => "confirmed_deleted"
  | deleteFailed => "delete_failed"
  | leaseExpiryPending => "lease_expiry_pending"
  | notCreated => "not_created"
  | creationOutcomeUnknown => "creation_outcome_unknown"
  | expiryUnknown => "expiry_unknown"

namespace TraversalTranscriptV1

def toJson (t : TraversalTranscriptV1) : Json :=
  .obj [("version", .num t.version), ("domain", .str t.domain),
    ("descriptorDigest", .str t.descriptorDigest), ("runId", .str t.runId),
    ("pairId", Json.ofOption .str t.pairId),
    ("participantRole", Json.ofOption (fun r => .str r.name) t.participantRole),
    ("authority", .str t.authority.name), ("stage", .str t.stage.name),
    ("method", .str t.method.name), ("transport", .str t.transport.name),
    ("family", .str t.family.name), ("challenge", .str t.challenge),
    ("peerChallenge", Json.ofOption .str t.peerChallenge), ("expiresAtMs", .num t.expiresAtMs),
    ("outcome", .str t.outcome.name), ("elapsedMs", .num t.elapsedMs),
    ("grantedLeaseSec", Json.ofOption (fun n => .num n) t.grantedLeaseSec),
    ("cleanup", Json.ofOption (fun c => .str c.name) t.cleanup),
    ("protocolError", Json.ofOption (fun n => .num n) t.protocolError),
    ("errorClass", Json.ofOption (fun e => .str e.name) t.errorClass)]

/-- `proof_domain`: the domain under which an observation is signed. -/
def proofDomain (authority : TraversalEvidenceAuthority) (stage : TraversalStage)
    (method : TraversalMethod) (transport : TraversalTransport) :
    Except TraversalRefusal String :=
  let router := [TraversalMethod.pcp, .natPmp, .upnpIgd].contains method
  match authority with
  | .externalPath =>
    if (transport = .tcp ∨ transport = .udp) ∧ ((stage = .baseline ∧ method = .unassisted)
        ∨ (stage = .mappingVerify ∧ router)) then
      .ok "proof.liskov.network-traversal-external-path.v1"
    else .error .invalidProof
  | .deviceReportedRouter =>
    if (stage = .discovery ∨ stage = .mappingCreate ∨ stage = .mappingCleanup)
        ∧ transport = .routerControl ∧ router then
      .ok "proof.liskov.network-traversal-device-router.v1"
    else .error .invalidProof
  | .helperObservedPeer =>
    if stage = .direct ∧ transport = .udp ∧ method = .pair then
      .ok "proof.liskov.network-traversal-helper-direct.v1"
    else if stage = .relayControl ∧ transport = .relayControl ∧ method = .pair then
      .ok "proof.liskov.network-traversal-helper-relay.v1"
    else .error .invalidProof
  | .proberObservedRegistration =>
    if stage = .endpointRegistration ∧ transport = .udp ∧ method = .pair then
      .ok "proof.liskov.network-traversal-endpoint-registration.v1"
    else .error .invalidProof
  | .proberObservedBehaviour =>
    if transport = .udp ∧ ((stage = .mappingBehaviour ∧ method = .udpMapping)
        ∨ (stage = .filteringBehaviour ∧ method = .udpFiltering)) then
      .ok "proof.liskov.network-traversal-observed-behaviour.v1"
    else .error .invalidProof

/-- The outcome that a report of a cleanup goes with. -/
def cleanupOutcome : TraversalCleanup → TraversalOutcome
  | .confirmedDeleted => .succeeded
  | .deleteFailed => .failed
  | .leaseExpiryPending => .unknown
  | .notCreated => .notStarted
  | .creationOutcomeUnknown => .creationOutcomeUnknown
  | .expiryUnknown => .expiryUnknown

/-- The pair fields go with the method. -/
def checkPairFields (t : TraversalTranscriptV1) : Except TraversalRefusal Unit :=
  if t.method = .pair then
    require ((t.pairId.any fun s => isLowerHex s 16) ∧ t.participantRole ≠ none) .invalidPair
  else
    require (t.pairId = none ∧ t.participantRole = none) .invalidPair

/-- `TraversalTranscriptV1::validate`. -/
def validate (t : TraversalTranscriptV1) : Except TraversalRefusal Unit := do
  require (t.version = 1) .unknownVersion
  require (isSha256Text t.descriptorDigest ∧ isLowerHex t.runId 16 ∧ isLowerHex t.challenge 32
    ∧ t.expiresAtMs ≤ maxSafeInteger ∧ t.elapsedMs ≤ traversalExperimentMaxMs) .invalidBinding
  let domain ← proofDomain t.authority t.stage t.method t.transport
  require (t.domain = domain) .wrongDomain
  require (¬([TraversalOutcome.endpointIndependent, .addressDependent,
      .addressAndPortDependent].contains t.outcome
    ∧ ¬(t.stage = .mappingBehaviour ∨ t.stage = .filteringBehaviour))) .invalidProof
  require (¬((t.outcome = .creationOutcomeUnknown
      ∧ ¬(t.stage = .mappingCreate ∨ t.stage = .mappingCleanup))
    ∨ (t.outcome = .expiryUnknown ∧ t.stage ≠ .mappingCleanup)
    ∨ ([TraversalOutcome.directNotEstablishedInTest, .oneWayPeer, .peerAbsent, .wrongPeer,
        .lateJoin, .candidateRebinding].contains t.outcome
      ∧ ¬(t.stage = .direct ∨ t.stage = .relayControl)))) .invalidProof
  require (¬((t.stage = .mappingCreate ∧ t.outcome = .succeeded ∧ t.grantedLeaseSec = none)
    ∨ (t.stage ≠ .mappingCleanup ∧ t.cleanup ≠ none)
    ∨ (¬(t.stage = .mappingCreate ∨ t.stage = .mappingCleanup) ∧ t.grantedLeaseSec ≠ none)))
    .invalidProof
  checkPairFields t
  require (¬(t.authority ≠ .deviceReportedRouter
    ∧ (t.grantedLeaseSec ≠ none ∨ t.cleanup ≠ none ∨ t.protocolError ≠ none))) .invalidProof
  -- an overlong grant may be reported, but only as refused
  require (¬((t.grantedLeaseSec.any fun s => s = 0 || s > 120)
    ∧ t.outcome ≠ .unsupportedFiniteLease)) .invalidProof
  require (¬((t.outcome = .succeeded ∧ t.errorClass ≠ none)
    ∨ (t.outcome = .failed ∧ t.errorClass = none))) .invalidProof
  require (¬(t.stage = .mappingCreate ∧ t.outcome = .creationOutcomeUnknown
    ∧ t.grantedLeaseSec ≠ none)) .invalidProof
  require (¬((t.peerChallenge.any fun s => !isLowerHex s 32)
    ∨ (t.peerChallenge ≠ none ∧ ¬(t.stage = .direct ∨ t.stage = .relayControl))
    ∨ ((t.stage = .direct ∨ t.stage = .relayControl) ∧ t.outcome = .succeeded
      ∧ t.peerChallenge = none))) .invalidProof
  require (∀ c ∈ t.cleanup, t.outcome = cleanupOutcome c) .invalidProof
  require (¬(t.stage = .mappingCleanup ∧ t.cleanup = none)) .invalidProof
  bounded t.toJson traversalBlockMaxBytes

/-- `phase_operation`: the operation under which a phase is made. -/
def phaseOperation (stage : TraversalStage) (method : TraversalMethod)
    (transport : TraversalTransport) : Except TraversalRefusal TraversalOperation :=
  match stage, method, transport with
  | .mappingBehaviour, _, _ => .ok .observeMapping
  | .filteringBehaviour, _, _ => .ok .observeFiltering
  | .discovery, _, _ => .ok .discoverGateway
  | .baseline, _, .tcp => .ok .baselineTcp
  | .baseline, _, .udp => .ok .baselineUdp
  | .endpointRegistration, _, _ => .ok .registerEndpoint
  | .direct, _, _ => .ok .pairDirectUdp
  | .relayControl, _, _ => .ok .pairRelayControl
  | _, .pcp, _ => .ok .mapPcp
  | _, .natPmp, _ => .ok .mapNatPmp
  | _, .upnpIgd, _ => .ok .mapUpnp
  | _, _, _ => .error .invalidProof

/-- `validate_scope`: the transcript belongs to the descriptor, which is
valid at the time. -/
def validateScope (sha256 : List UInt8 → Digest) (t : TraversalTranscriptV1)
    (descriptor : TraversalDescriptorV1) (nowMs : ℕ) : Except TraversalRefusal Unit := do
  validate t
  descriptor.validateAt nowMs
  let binding ← descriptor.bindingDigest sha256
  require (t.descriptorDigest = binding ∧ t.runId = descriptor.runId
    ∧ t.expiresAtMs = descriptor.expiresAtMs ∧ t.participantRole = descriptor.participantRole
    ∧ t.pairId = descriptor.pair.map TraversalPair.pairId) .invalidBinding
  let operation ← phaseOperation t.stage t.method t.transport
  require (¬((t.grantedLeaseSec.any fun lease =>
      descriptor.mapping.any fun c => lease > c.maximumLeaseSec)
    ∧ t.outcome ≠ .unsupportedFiniteLease)) .invalidConsent
  require (operation ∈ descriptor.operations ∧ t.elapsedMs ≤ descriptor.budgets.experimentMs)
    .invalidScope

end TraversalTranscriptV1
