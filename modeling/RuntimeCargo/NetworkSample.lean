import RuntimeCargo.Traversal

/-!
# What is measured of the network

Two records travel with a coverage result. The *sample* is the device's own
measurement: the legs of a ladder of transfers, an exchange of datagrams and
the figures that follow from them. The *reachability* is what a prober has
found out by dialling back, one verdict for each family of addresses. This is
the model of `network_sample_contract.rs`, of
`inbound_reachability_contract.rs` and of the functions of
`network_sample.rs` that turn the two records into outcomes of probes.

A record is checked as a whole before it is sent, and the checks say nothing
but yes or no, so that they are predicates here (`isValid`) and the refusal
is made of them in one place.
-/

/-! ## The ladder of transfers -/

inductive NetworkStatus where
  | succeeded | failed | skippedBudget | unreachable
deriving DecidableEq

inductive NetworkError where
  | dnsFailed | connectFailed | tlsFailed | timeout | httpStatus | invalidResponse
  | byteCountMismatch | rateLimited | tokenRefused | budgetExhausted | receiptUnavailable

def NetworkStatus.name : NetworkStatus → String
  | succeeded => "succeeded"
  | failed => "failed"
  | skippedBudget => "skipped_budget"
  | unreachable => "unreachable"

/-- `NetworkError::code`. -/
def NetworkError.code : NetworkError → String
  | dnsFailed => "dns_failed"
  | connectFailed => "connect_failed"
  | tlsFailed => "tls_failed"
  | timeout => "timeout"
  | httpStatus => "http_status"
  | invalidResponse => "invalid_response"
  | byteCountMismatch => "byte_count_mismatch"
  | rateLimited => "rate_limited"
  | tokenRefused => "token_refused"
  | budgetExhausted => "budget_exhausted"
  | receiptUnavailable => "receipt_unavailable"

/-- The transfers, in the order they are made in. -/
inductive NetworkLegId where
  | download1m | upload1m | download10m | upload10m | download100m
deriving DecidableEq

namespace NetworkLegId

def name : NetworkLegId → String
  | download1m => "download1m"
  | upload1m => "upload1m"
  | download10m => "download10m"
  | upload10m => "upload10m"
  | download100m => "download100m"

/-- The place in the order. -/
def rank : NetworkLegId → ℕ
  | download1m => 0
  | upload1m => 1
  | download10m => 2
  | upload10m => 3
  | download100m => 4

def bytes : NetworkLegId → ℕ
  | download1m | upload1m => 1000000
  | download10m | upload10m => 10000000
  | download100m => 100000000

def download : NetworkLegId → Bool
  | upload1m | upload10m => false
  | _ => true

def timeoutMs : NetworkLegId → ℕ
  | download1m | upload1m => 4000
  | download10m | upload10m => 8000
  | download100m => 12000

/-- The transfer that has to go well before. -/
def prior : NetworkLegId → Option NetworkLegId
  | download10m => some download1m
  | upload10m => some upload1m
  | download100m => some download10m
  | _ => none

end NetworkLegId

structure NetworkLeg where
  id : NetworkLegId
  status : NetworkStatus
  startOffsetUs : ℕ
  durationUs : ℕ
  bytes : ℕ
  error : Option NetworkError

structure UdpEcho where
  sequence : ℕ
  receivedUs : ℕ

structure UdpSample where
  status : NetworkStatus
  startOffsetUs : ℕ
  durationUs : ℕ
  sentUs : List ℕ
  /-- In the order of arrival; the times are those since the start. -/
  echoes : List UdpEcho
  error : Option NetworkError

structure NetworkMetrics where
  downloadKbps : Option ℕ
  uploadKbps : Option ℕ
  medianRttUs : Option ℕ
  p90RttUs : Option ℕ
  jitterUs : Option ℕ
  lossBps : Option ℕ
deriving DecidableEq

structure ReceiptLeg where
  id : NetworkLegId
  bytes : ℕ
  durationUs : ℕ
  complete : Bool

structure NetworkReceipt where
  version : ℕ
  challengeDigest : String
  expiresAtSec : ℕ
  region : String
  legs : List ReceiptLeg
  udpEchoes : ℕ
  mac : String

structure NetworkSampleV1 where
  version : ℕ
  startedAtMs : ℕ
  durationMs : ℕ
  region : String
  ipv4Egress : Bool
  ipv6Egress : Bool
  legs : List NetworkLeg
  udp : UdpSample
  metrics : NetworkMetrics
  receipt : Option NetworkReceipt
  errors : List NetworkError

/-- `NETWORK_PROBER_URL`. -/
def networkProberUrl : String := "https://liskov-network-prober.fly.dev"

/-- `SAMPLE_BUDGET_MS`. -/
def sampleBudgetMs : ℕ := 30000

/-! ## The figures -/

/-- `max_by_key`: the last one of those with the largest key. -/
def maxByKey {α : Type} (key : α → ℕ) (l : List α) : Option α :=
  l.foldl (fun best a => match best with
    | none => some a
    | some b => if key b ≤ key a then some a else some b) none

/-- The round trips of the echoes, in the order of arrival. -/
def UdpSample.rtts (udp : UdpSample) : List ℕ :=
  udp.echoes.filterMap fun echo => udp.sentUs[echo.sequence]?.map fun sent => echo.receivedUs - sent

/-- The estimator of RFC 3550, with four binary digits after the point. -/
def jitterOf : ℤ → List ℕ → ℤ
  | jitter, last :: rtt :: rest =>
    jitterOf (jitter + (((rtt : ℤ) - last).natAbs - (jitter + 8) / 16)) (rtt :: rest)
  | jitter, _ => jitter

namespace NetworkSampleV1

/-- The rate of the largest transfer in one direction that went well. -/
def rate (s : NetworkSampleV1) (download : Bool) : Option ℕ :=
  (maxByKey (fun l => l.id.bytes) (s.legs.filter fun l =>
    l.id.download = download && l.status = .succeeded && 0 < l.durationUs)).map
      fun l => l.bytes * 8000 / l.durationUs

/-- `derive_metrics`. -/
def deriveMetrics (s : NetworkSampleV1) : NetworkMetrics :=
  let arrived := s.udp.rtts
  let rtts := arrived.insertionSort (· ≤ ·)
  { downloadKbps := s.rate true
    uploadKbps := s.rate false
    medianRttUs := if rtts.isEmpty then none
      else some ((rtts.getD ((rtts.length - 1) / 2) 0 + rtts.getD (rtts.length / 2) 0) / 2)
    p90RttUs := if rtts.isEmpty then none
      else some (rtts.getD ((rtts.length * 9 + 9) / 10 - 1) 0)
    jitterUs := if rtts.length < 2 then none else some (jitterOf 0 arrived / 16).toNat
    lossBps := if s.udp.sentUs.isEmpty then none
      else some ((s.udp.sentUs.length - rtts.length) * 10000 / s.udp.sentUs.length) }

/-! ## The checks -/

/-- No two neighbours are out of order: `windows(2)`. -/
def inOrder {α : Type} (ok : α → α → Bool) (l : List α) : Bool :=
  (l.zip l.tail).all fun (a, b) => ok a b

/-- The numbers of the sample are in bounds. -/
def boundsOk (s : NetworkSampleV1) : Bool :=
  s.version = 1 && s.region = "lhr" && s.durationMs ≤ sampleBudgetMs
    && s.startedAtMs ≤ 9007199254710991 && s.errors.length ≤ 4 && s.legs.length ≤ 5
    && s.udp.sentUs.length ≤ 20 && s.udp.echoes.length ≤ s.udp.sentUs.length

/-- The transfers are made one after another, after the datagrams. -/
def legsInOrder (s : NetworkSampleV1) : Bool :=
  inOrder (fun a b => a.id.rank < b.id.rank
      && saturatingAdd a.startOffsetUs a.durationUs ≤ b.startOffsetUs) s.legs
    && s.legs.head?.all fun l =>
      saturatingAdd s.udp.startOffsetUs s.udp.durationUs ≤ l.startOffsetUs

/-- A transfer has gone well and fast enough for the next one of its kind. -/
def admits (id : NetworkLegId) (l : NetworkLeg) : Bool :=
  l.status = .succeeded && 0 < l.durationUs
    && if id = .download100m then l.durationUs < 4000000
      else l.bytes * 8000 ≤ u64Max && 4000 ≤ l.bytes * 8000 / l.durationUs

/-- Each transfer has the one before it. -/
def priorsOk (s : NetworkSampleV1) : Bool :=
  s.legs.all fun leg => leg.id.prior.all fun prior =>
    s.legs.any fun l => l.id = prior && admits leg.id l

/-- One transfer is what its status says. -/
def legOk (limitUs : ℕ) (leg : NetworkLeg) : Bool :=
  leg.bytes ≤ leg.id.bytes && leg.durationUs ≤ leg.id.timeoutMs * 1000
    && saturatingAdd leg.startOffsetUs leg.durationUs ≤ limitUs
    && !(leg.status = .succeeded && (leg.bytes ≠ leg.id.bytes || leg.error.isSome))
    && !(leg.status = .skippedBudget && (leg.bytes ≠ 0 || leg.durationUs ≠ 0))

/-- The datagrams are sent and come back in order. -/
def udpOk (udp : UdpSample) (limitUs : ℕ) : Bool :=
  udp.durationUs ≤ 3000000 && saturatingAdd udp.startOffsetUs udp.durationUs ≤ limitUs
    && inOrder (fun a b => a < b) udp.sentUs && udp.sentUs.all (· ≤ udp.durationUs)
    && inOrder (fun a b => a.receivedUs ≤ b.receivedUs) udp.echoes

/-- Each echo answers a datagram of its own. -/
def echoesOk (udp : UdpSample) : Bool :=
  udp.echoes.all (fun echo => udp.sentUs[echo.sequence]?.any fun sent =>
      sent ≤ echo.receivedUs && echo.receivedUs ≤ udp.durationUs)
    && decide (udp.echoes.map UdpEcho.sequence).Nodup

/-- A receipt agrees with the sample. -/
def receiptOk (s : NetworkSampleV1) (receipt : NetworkReceipt) : Bool :=
  receipt.version = 1 && receipt.region = s.region && receipt.legs.length ≤ 5
    && receipt.udpEchoes ≤ 64 && decide (receipt.legs.map ReceiptLeg.id).Nodup
    && (receipt.legs.all fun leg => leg.bytes ≤ leg.id.bytes && leg.durationUs ≤ 30000000)
    && ((s.legs.filter fun l => l.status = .succeeded).all fun leg =>
      receipt.legs.any fun r => r.id = leg.id && r.complete && r.bytes = leg.bytes)
    && s.udp.echoes.length ≤ receipt.udpEchoes

/-- `validate`, as a predicate. -/
def isValid (s : NetworkSampleV1) : Bool :=
  let limitUs := s.durationMs * 1000
  s.boundsOk && s.legsInOrder && s.priorsOk
    && decide (s.legs.map NetworkLeg.id).Nodup && s.legs.all (legOk limitUs)
    && udpOk s.udp limitUs && echoesOk s.udp
    && !(s.udp.status = .succeeded && s.udp.echoes.isEmpty)
    && !(s.udp.status = .skippedBudget && !s.udp.sentUs.isEmpty)
    && s.metrics = s.deriveMetrics && s.receipt.all (receiptOk s)

/-- `validate`. -/
def validate (s : NetworkSampleV1) : Except String Unit :=
  if s.isValid then .ok () else .error "invalid network sample v1"

end NetworkSampleV1

/-- `skipped_udp`. -/
def skippedUdp (start : ℕ) : UdpSample := ⟨.skippedBudget, start, 0, [], [], some .budgetExhausted⟩

/-- `skipped_sample`. -/
def skippedSample (startedAtMs : ℕ) : NetworkSampleV1 where
  version := 1
  startedAtMs := startedAtMs
  durationMs := 0
  region := "lhr"
  ipv4Egress := false
  ipv6Egress := false
  legs := []
  udp := skippedUdp 0
  metrics := ⟨none, none, none, none, none, none⟩
  receipt := none
  errors := [.budgetExhausted]

/-! ## How the sample is written -/

def NetworkLeg.toJson (l : NetworkLeg) : Json :=
  .obj [("id", .str l.id.name), ("status", .str l.status.name),
    ("startOffsetUs", .num l.startOffsetUs), ("durationUs", .num l.durationUs),
    ("bytes", .num l.bytes), ("error", .ofOption (fun e => .str e.code) l.error)]

def UdpEcho.toJson (e : UdpEcho) : Json :=
  .obj [("sequence", .num e.sequence), ("receivedUs", .num e.receivedUs)]

def UdpSample.toJson (u : UdpSample) : Json :=
  .obj [("status", .str u.status.name), ("startOffsetUs", .num u.startOffsetUs),
    ("durationUs", .num u.durationUs), ("sentUs", .arr (u.sentUs.map fun t => .num t)),
    ("echoes", .arr (u.echoes.map UdpEcho.toJson)),
    ("error", .ofOption (fun e => .str e.code) u.error)]

def NetworkMetrics.toJson (m : NetworkMetrics) : Json :=
  let figure : Option ℕ → Json := .ofOption fun n => .num n
  .obj [("downloadKbps", figure m.downloadKbps), ("uploadKbps", figure m.uploadKbps),
    ("medianRttUs", figure m.medianRttUs), ("p90RttUs", figure m.p90RttUs),
    ("jitterUs", figure m.jitterUs), ("lossBps", figure m.lossBps)]

def ReceiptLeg.toJson (l : ReceiptLeg) : Json :=
  .obj [("id", .str l.id.name), ("bytes", .num l.bytes), ("durationUs", .num l.durationUs),
    ("complete", .bool l.complete)]

def NetworkReceipt.toJson (r : NetworkReceipt) : Json :=
  .obj [("version", .num r.version), ("challengeDigest", .str r.challengeDigest),
    ("expiresAtSec", .num r.expiresAtSec), ("region", .str r.region),
    ("legs", .arr (r.legs.map ReceiptLeg.toJson)), ("udpEchoes", .num r.udpEchoes),
    ("mac", .str r.mac)]

def NetworkSampleV1.toJson (s : NetworkSampleV1) : Json :=
  .obj [("version", .num s.version), ("startedAtMs", .num s.startedAtMs),
    ("durationMs", .num s.durationMs), ("region", .str s.region),
    ("ipv4Egress", .bool s.ipv4Egress), ("ipv6Egress", .bool s.ipv6Egress),
    ("legs", .arr (s.legs.map NetworkLeg.toJson)), ("udp", s.udp.toJson),
    ("metrics", s.metrics.toJson), ("receipt", .ofOption NetworkReceipt.toJson s.receipt),
    ("errors", .arr (s.errors.map fun e => .str e.code))]

/-! ## Reachability -/

inductive InboundFamily where
  | v4 | v6
deriving DecidableEq

/-- `InboundFamily::code`. -/
def InboundFamily.code : InboundFamily → String
  | v4 => "v4"
  | v6 => "v6"

inductive InboundVerdict where
  | reachable | connectTimeout | connectRefused | connectFailed | noSignature | proberNoEgress
deriving DecidableEq

namespace InboundVerdict

def code : InboundVerdict → String
  | reachable => "reachable"
  | connectTimeout => "connect_timeout"
  | connectRefused => "connect_refused"
  | connectFailed => "connect_failed"
  | noSignature => "no_signature"
  | proberNoEgress => "prober_no_egress"

def isReachable : InboundVerdict → Bool
  | reachable => true
  | _ => false

end InboundVerdict

/-- The verdict of the prober on one family. -/
structure InboundFamilyVerdict where
  version : ℕ
  challengeDigest : String
  region : String
  family : InboundFamily
  verdict : InboundVerdict
  connectMs : ℕ
  nonce : String
  /-- What the listener has answered, if that has the form of a signature. -/
  signature : Option String
  mac : String
deriving DecidableEq

structure InboundReachabilityV1 where
  version : ℕ
  startedAtMs : ℕ
  durationMs : ℕ
  families : List InboundFamilyVerdict
deriving DecidableEq

/-- `INBOUND_NONCE_BYTES`. -/
def inboundNonceBytes : ℕ := 32

/-- `INBOUND_SIGNATURE_BYTES`. -/
def inboundSignatureBytes : ℕ := 64

/-- `INBOUND_CONNECT_TIMEOUT_MS`. -/
def inboundConnectTimeoutMs : ℕ := 2000

/-- `INBOUND_BUDGET_MS`. -/
def inboundBudgetMs : ℕ := 4000

namespace InboundFamilyVerdict

/-- There is a signature if and only if there is a path. -/
def signatureOk (v : InboundFamilyVerdict) : Bool :=
  match v.signature, v.verdict.isReachable with
  | some signature, true =>
    (stripStart "0x" signature).any fun hex => isLowerHex hex inboundSignatureBytes
  | none, false => true
  | _, _ => false

/-- `validate`, as a predicate. -/
def isValid (v : InboundFamilyVerdict) : Bool :=
  v.version = 1 && v.region = "lhr" && isLowerHex v.nonce inboundNonceBytes
    && isSha256Text v.challengeDigest && isLowerHex v.mac 32
    && v.connectMs ≤ inboundConnectTimeoutMs && v.signatureOk
    && !(v.verdict = .connectTimeout && v.connectMs ≠ inboundConnectTimeoutMs)
    && !(v.verdict = .proberNoEgress && v.connectMs ≠ 0)

/-- `validate`. -/
def validate (v : InboundFamilyVerdict) : Except String Unit :=
  if v.isValid then .ok () else .error "invalid inbound reachability v1"

def toJson (v : InboundFamilyVerdict) : Json :=
  .obj [("version", .num v.version), ("challengeDigest", .str v.challengeDigest),
    ("region", .str v.region), ("family", .str v.family.code), ("verdict", .str v.verdict.code),
    ("connectMs", .num v.connectMs), ("nonce", .str v.nonce),
    ("signature", .ofOption .str v.signature), ("mac", .str v.mac)]

end InboundFamilyVerdict

namespace InboundReachabilityV1

/-- `validate`, as a predicate. -/
def isValid (r : InboundReachabilityV1) : Bool :=
  r.version = 1 && r.durationMs ≤ inboundBudgetMs
    && !r.families.isEmpty && r.families.length ≤ 2
    && r.families.all InboundFamilyVerdict.isValid
    && decide (r.families.map InboundFamilyVerdict.family).Nodup
    && r.families.all fun v => r.families.head?.any fun first =>
      v.challengeDigest = first.challengeDigest

/-- `validate`. -/
def validate (r : InboundReachabilityV1) : Except String Unit :=
  if r.isValid then .ok () else .error "invalid inbound reachability v1"

def toJson (r : InboundReachabilityV1) : Json :=
  .obj [("version", .num r.version), ("startedAtMs", .num r.startedAtMs),
    ("durationMs", .num r.durationMs),
    ("families", .arr (r.families.map InboundFamilyVerdict.toJson))]

end InboundReachabilityV1

/-! ## Outcomes of probes -/

inductive CoverageOutcomeStatus where
  | succeeded | failed | timedOut | unsupported | skippedBudget | unreachable

def CoverageOutcomeStatus.name : CoverageOutcomeStatus → String
  | succeeded => "succeeded"
  | failed => "failed"
  | timedOut => "timed_out"
  | unsupported => "unsupported"
  | skippedBudget => "skipped_budget"
  | unreachable => "unreachable"

structure CoverageProbeError where
  code : String
  message : String

structure CoverageOutcome where
  probeId : String
  status : CoverageOutcomeStatus
  region : String
  startedAtMs : ℕ
  completedAtMs : ℕ
  durationMs : ℕ
  bytesSent : ℕ
  bytesReceived : ℕ
  errors : List CoverageProbeError

def CoverageProbeError.toJson (e : CoverageProbeError) : Json :=
  .obj [("code", .str e.code), ("message", .str e.message)]

def CoverageOutcome.toJson (o : CoverageOutcome) : Json :=
  .obj [("probeId", .str o.probeId), ("status", .str o.status.name), ("region", .str o.region),
    ("startedAtMs", .num o.startedAtMs), ("completedAtMs", .num o.completedAtMs),
    ("durationMs", .num o.durationMs), ("bytesSent", .num o.bytesSent),
    ("bytesReceived", .num o.bytesReceived),
    ("errors", .arr (o.errors.map CoverageProbeError.toJson))]

def NetworkStatus.outcome : NetworkStatus → CoverageOutcomeStatus
  | succeeded => .succeeded
  | failed => .failed
  | skippedBudget => .skippedBudget
  | unreachable => .unreachable

/-- What a code says of itself. -/
def CoverageProbeError.ofCode (code : String) : CoverageProbeError := ⟨code, code⟩

namespace NetworkSampleV1

/-- The outcome of one part of a sample. -/
def outcome (s : NetworkSampleV1) (id : String) (status : NetworkStatus) (start finish sent
    received : ℕ) (errors : List NetworkError) : CoverageOutcome where
  probeId := id
  status := status.outcome
  region := s.region
  startedAtMs := s.startedAtMs + start / 1000
  completedAtMs := s.startedAtMs + finish / 1000
  durationMs := s.startedAtMs + finish / 1000 - (s.startedAtMs + start / 1000)
  bytesSent := sent
  bytesReceived := received
  errors := errors.map fun e => .ofCode e.code

/-- The status of the transfers in one direction. -/
def directionStatus (legs : List NetworkLeg) : NetworkStatus :=
  if legs.any fun l => l.status = .succeeded then .succeeded
  else if legs.any fun l => l.status = .failed then .failed
  else if legs.any fun l => l.status = .unreachable then .unreachable
  else .skippedBudget

/-- The outcome of the transfers in one direction. -/
def bandwidthOutcome (s : NetworkSampleV1) (download : Bool) : CoverageOutcome :=
  let legs := s.legs.filter fun l => l.id.download = download
  let bytes := (legs.map NetworkLeg.bytes).sum
  let start := (legs.map NetworkLeg.startOffsetUs).min?.getD 0
  let finish := (legs.map fun l => l.startOffsetUs + l.durationUs).max?.getD start
  s.outcome (if download then "bandwidth-download" else "bandwidth-upload") (directionStatus legs)
    start finish (if download then 0 else bytes) (if download then bytes else 0)
    (legs.filterMap NetworkLeg.error)

/-- `coverage_outcomes`. -/
def coverageOutcomes (s : NetworkSampleV1) : List CoverageOutcome :=
  [s.bandwidthOutcome true, s.bandwidthOutcome false,
    s.outcome "udp-path" s.udp.status s.udp.startOffsetUs
      (s.udp.startOffsetUs + s.udp.durationUs) (s.udp.sentUs.length * 64)
      (s.udp.echoes.length * 64) s.udp.error.toList]

end NetworkSampleV1

def InboundVerdict.outcome : InboundVerdict → CoverageOutcomeStatus
  | reachable => .succeeded
  | connectTimeout => .timedOut
  | connectRefused | connectFailed | noSignature => .failed
  | proberNoEgress => .unsupported

/-- `inbound_outcomes`. -/
def inboundOutcomes (block : InboundReachabilityV1) : List CoverageOutcome :=
  block.families.map fun v =>
    { probeId := match v.family with
        | .v4 => "inbound-reachability-v4"
        | .v6 => "inbound-reachability-v6"
      status := v.verdict.outcome
      region := v.region
      startedAtMs := block.startedAtMs
      completedAtMs := saturatingAdd block.startedAtMs v.connectMs
      durationMs := v.connectMs
      bytesSent := if v.verdict.isReachable then inboundSignatureBytes else 0
      bytesReceived := if v.verdict.isReachable then inboundNonceBytes else 0
      errors := if v.verdict.isReachable then [] else [.ofCode v.verdict.code] }
