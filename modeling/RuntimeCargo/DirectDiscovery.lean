import RuntimeCargo.Discovery
import RuntimeCargo.JobIdentity

/-!
# The directory of direct peers

A workload may reach its peers directly. It says so in a file of its own (the
*advertisement*), and it is told its peers in another one (the *directory*).
The helper stands in between: it reports what the workload says to the
server, and it writes what the server answers.

A workload may be started again, and an answer may come late. So what the
helper knows is kept per child: each start and each end of a child begins a
new *generation*, a request carries the generation it was made in, and an
answer counts only if its generation is still there
(`DirectState.current`).

The snapshot of this directory is checked more closely than the other one
(`validateDirectSnapshot`): which jobs and runtimes it names, how long each
entry holds, where each peer is, and that its revision is the hash of its
peers.

Between the calls of the file system the folder is looked at, whether it is
still the one that was opened; every operation does so before and after
(`Custody`).
-/

open Program (perform)

/-! ## What is said and what is answered -/

/-- `DiscoveryFailure`. -/
inductive DiscoveryFailure where
  | unavailable | invalid | stale | oversized | unsupported
deriving DecidableEq

/-- `Request`: what a beat asks for. -/
inductive DirectRequest where
  | none
  | direct (generation : ℕ)
  | errorOnly (generation : ℕ)

/-- The generation of a request and whether a directory may answer it. -/
def DirectRequest.scope : DirectRequest → Option (ℕ × Bool)
  | .none => Option.none
  | .direct generation => some (generation, true)
  | .errorOnly generation => some (generation, false)

/-- What the helper is and runs for. -/
structure DirectPeer where
  applicationUid : String
  jobId : String
  runtimeInstanceId : String
  legacyMode : Bool

/-- `MAX_SNAPSHOT_LIFETIME_MS`. -/
def maxSnapshotLifetimeMs : ℤ := 90000

/-- `MAX_PEERS`. -/
def maxPeers : ℕ := 256

/-- `i64::MAX`. -/
def i64Max : ℤ := 2 ^ 63 - 1

/-- `saturating_add` of two numbers in 64 signed bits, the second one not
negative. -/
def saturatingAddI64 (a b : ℤ) : ℤ := min (a + b) i64Max

/-- The sum of two numbers in 64 signed bits, without the check for an
overflow. -/
def wrappingAddI64 (a b : ℤ) : ℤ := (a + b + 2 ^ 63) % 2 ^ 64 - 2 ^ 63

/-! ## Texts -/

/-- `valid_service`. -/
def validService (service : String) : Bool :=
  1 ≤ service.utf8ByteSize && service.utf8ByteSize ≤ 32
    && service.toList.head?.any Char.isLower
    && service.toList.all fun c => c.isLower || c.isDigit || c = '-'

/-- `valid_fingerprint`. -/
def validFingerprint (value : String) : Bool :=
  (stripStart "sha256:" value).any fun hex => hex.utf8ByteSize = 64
    && hex.toList.all fun c => c.isDigit || ('a' ≤ c && c ≤ 'f')

/-- `exact_keys`: an object with these members and no others. -/
def exactKeys (value : Json) (expected : List String) : Bool :=
  value.asObject.any fun members => members.length = expected.length
    && expected.all fun key => (value.get? key).isSome

/-- The eight numbers of an address. -/
def ipv6Segments (octets : Vector UInt8 16) : List ℕ :=
  (List.range 8).map fun i => (octets.getD (2 * i) 0).toNat * 256
    + (octets.getD (2 * i + 1) 0).toNat

/-- The longest stretch of zeros in an address, the first one of them: where
it begins and how long it is. -/
def longestZeros (segments : List ℕ) : ℕ × ℕ :=
  (segments.zipIdx.foldl (fun (spans : (ℕ × ℕ) × (ℕ × ℕ)) (x : ℕ × ℕ) =>
    if x.1 = 0 then
      let current := if spans.2.2 = 0 then (x.2, 1) else (spans.2.1, spans.2.2 + 1)
      (if current.2 > spans.1.2 then current else spans.1, current)
    else (spans.1, (0, 0))) ((0, 0), (0, 0))).1

/-- Numbers in hexadecimal, with colons between them. -/
def colonHex (segments : List ℕ) : String :=
  ":".intercalate (segments.map fun n => String.ofList (Nat.toDigits 16 n))

/-- The text of an address, as it is displayed. -/
def displayIpv6 (octets : Vector UInt8 16) : String :=
  if octets.toList.take 12 = [0, 0, 0, 0, 0, 0, 0, 0, 0, 0, 255, 255] then
    "::ffff:" ++ ".".intercalate ((octets.toList.drop 12).map fun b => toString b.toNat)
  else
    let segments := ipv6Segments octets
    let (start, length) := longestZeros segments
    if length > 1 then
      colonHex (segments.take start) ++ "::" ++ colonHex (segments.drop (start + length))
    else colonHex segments

/-- `global_unicast_ipv6`. -/
def globalUnicastIpv6 (octets : Vector UInt8 16) : Bool :=
  (octets.getD 0 0).toNat / 32 = 1 && (ipv6Segments octets).take 2 ≠ [0x2001, 0x0db8]

/-! ## The snapshot -/

/-- `PeerRevision`. -/
structure PeerRevision where
  jobId : String
  runtimeInstanceId : String
  service : String
  url : String
  tlsFingerprint : String
  observedAtMs : ℤ
  validUntilMs : ℤ

/-- The members of a peer, in the order of their declaration. -/
def PeerRevision.toJson (p : PeerRevision) : Json :=
  .obj [("jobId", .str p.jobId), ("runtimeInstanceId", .str p.runtimeInstanceId),
    ("service", .str p.service), ("provider", .str "direct_ipv6"), ("url", .str p.url),
    ("tlsFingerprint", .str p.tlsFingerprint), ("observedAtMs", .num p.observedAtMs),
    ("validUntilMs", .num p.validUntilMs)]

section Validate

variable (parseUrl : String → Option ParsedUrl) (fromStr : String → Option Json)
  (sha256 : List UInt8 → Digest)

/-- The URL of a peer: an address on the internet and a port, spelled in the
one way. -/
def checkPeerUrl (raw : String) : Except DiscoveryFailure Unit := do
  let url ← (parseUrl raw).okOr .invalid
  match url.host, url.port with
  | some (.ipv6 address), some port =>
    require (url.scheme = "https" ∧ globalUnicastIpv6 address ∧ 1024 ≤ port ∧ url.username = ""
      ∧ url.password = none ∧ url.query = none ∧ url.fragment = none ∧ url.path = "/"
      ∧ raw = "https://[" ++ displayIpv6 address ++ "]:" ++ toString port ++ "/") .invalid
  | _, _ => .error .invalid

/-- What was seen of the peers so far. -/
structure PeersSeen where
  jobs : List DirectoryJobKey
  runtimes : List String
  peers : List PeerRevision

/-- The times of a peer. -/
def checkPeerTimes (observed expiry nowMs peerObserved peerExpiry : ℤ) :
    Except DiscoveryFailure Unit := do
  require (0 < peerObserved ∧ peerObserved ≤ observed
    ∧ peerObserved ≤ wrappingAddI64 nowMs 5000 ∧ nowMs < peerExpiry) .stale
  require (peerObserved < peerExpiry
    ∧ peerExpiry ≤ saturatingAddI64 peerObserved maxSnapshotLifetimeMs
    ∧ peerExpiry ≤ expiry) .invalid

/-- One peer of a snapshot. -/
def checkDirectPeer (self : DirectPeer) (selfJob : DirectoryJobKey) (observed expiry nowMs : ℤ)
    (seen : PeersSeen) (peer : Json) : Except DiscoveryFailure PeersSeen := do
  let jobId ← (peer.get "jobId").asStr.okOr .invalid
  let job ← (directoryJobKey fromStr jobId).okOr .invalid
  require (exactKeys peer ["jobId", "runtimeInstanceId", "service", "provider", "url",
    "tlsFingerprint", "observedAtMs", "validUntilMs"]) .invalid
  require ((peer.get "runtimeInstanceId").isText) .invalid
  let runtime := (peer.get "runtimeInstanceId").asStr.getD ""
  let service ← (peer.get "service").asStr.okOr .invalid
  require (validService service ∧ peer.get "provider" = .str "direct_ipv6") .invalid
  let fingerprint ← (peer.get "tlsFingerprint").asStr.okOr .invalid
  require (validFingerprint fingerprint ∧ job ≠ selfJob ∧ runtime ≠ self.runtimeInstanceId) .invalid
  require (job ∉ seen.jobs ∧ runtime ∉ seen.runtimes) .invalid
  let peerObserved ← (peer.get "observedAtMs").asI64.okOr .invalid
  let peerExpiry ← (peer.get "validUntilMs").asI64.okOr .invalid
  checkPeerTimes observed expiry nowMs peerObserved peerExpiry
  let raw ← (peer.get "url").asStr.okOr .invalid
  checkPeerUrl parseUrl raw
  return ⟨job :: seen.jobs, runtime :: seen.runtimes,
    seen.peers ++ [⟨jobId, runtime, service, raw, fingerprint, peerObserved, peerExpiry⟩]⟩

/-- The revision of some peers: the hash of their text. -/
def peersRevision (peers : List PeerRevision) : String :=
  "sha256:" ++ hexEncode (sha256 (utf8 (Json.arr (peers.map PeerRevision.toJson)).render)).toList

/-- `validate_snapshot`: the time a snapshot was observed at and the time
until which it holds. -/
def validateDirectSnapshot (self : DirectPeer) (nowMs : ℤ) (snapshot : Json) :
    Except DiscoveryFailure (ℤ × ℤ) := do
  require (snapshot.get "schema" = .str "liskov.discovery.v2") .unsupported
  let selfJob ← (directoryJobKey fromStr self.jobId).okOr .invalid
  let callerId ← ((snapshot.get "self").get "jobId").asStr.okOr .invalid
  let callerJob ← (directoryJobKey fromStr callerId).okOr .invalid
  require (exactKeys snapshot ["schema", "applicationUid", "self", "revision", "observedAtMs",
      "validUntilMs", "peers"]
    ∧ exactKeys (snapshot.get "self") ["jobId", "runtimeInstanceId"]
    ∧ snapshot.get "applicationUid" = .str self.applicationUid ∧ callerJob = selfJob
    ∧ (snapshot.get "self").get "runtimeInstanceId" = .str self.runtimeInstanceId
    ∧ (snapshot.get "revision").isText) .invalid
  let observed ← (snapshot.get "observedAtMs").asI64.okOr .invalid
  let expiry ← (snapshot.get "validUntilMs").asI64.okOr .invalid
  require (0 < observed ∧ observed ≤ wrappingAddI64 nowMs 5000 ∧ nowMs < expiry) .stale
  require (observed < expiry ∧ expiry ≤ saturatingAddI64 observed maxSnapshotLifetimeMs) .invalid
  let peers ← (snapshot.get "peers").asArray.okOr .invalid
  require (peers.length ≤ maxPeers) .oversized
  let seen ← peers.foldlM (checkDirectPeer parseUrl fromStr self selfJob observed expiry nowMs)
    ⟨[], [], []⟩
  require (snapshot.get "revision" = .str (peersRevision sha256 seen.peers)) .invalid
  return (observed, expiry)

end Validate

/-- A peer of a snapshot that is to be written; nothing if something is not
there. -/
def directoryPeer (peer : Json) : Option PeerRevision := do
  let jobId ← (peer.get "jobId").asStr
  let runtimeInstanceId ← (peer.get "runtimeInstanceId").asStr
  let service ← (peer.get "service").asStr
  let url ← (peer.get "url").asStr
  let tlsFingerprint ← (peer.get "tlsFingerprint").asStr
  let observedAtMs ← (peer.get "observedAtMs").asI64
  let validUntilMs ← (peer.get "validUntilMs").asI64
  return ⟨jobId, runtimeInstanceId, service, url, tlsFingerprint, observedAtMs, validUntilMs⟩

/-- What `serialize_directory` writes, as a value, in the order of the
declarations; nothing if it panics. -/
def directoryJson (snapshot : Json) : Except DiscoveryFailure (Option Json) := do
  let items ← (snapshot.get "peers").asArray.okOr .invalid
  return do
    let peers ← items.mapM directoryPeer
    let applicationUid ← (snapshot.get "applicationUid").asStr
    let jobId ← ((snapshot.get "self").get "jobId").asStr
    let runtimeInstanceId ← ((snapshot.get "self").get "runtimeInstanceId").asStr
    let revision ← (snapshot.get "revision").asStr
    let observedAtMs ← (snapshot.get "observedAtMs").asI64
    let validUntilMs ← (snapshot.get "validUntilMs").asI64
    return .obj [("schema", .str "liskov.discovery.v2"), ("applicationUid", .str applicationUid),
      ("self", .obj [("jobId", .str jobId), ("runtimeInstanceId", .str runtimeInstanceId)]),
      ("revision", .str revision), ("observedAtMs", .num observedAtMs),
      ("validUntilMs", .num validUntilMs), ("peers", .arr (peers.map PeerRevision.toJson))]

/-- `serialize_directory`: the text, with a line end behind it; nothing if it
panics. -/
def serializeDirectory (snapshot : Json) : Except DiscoveryFailure (Option String) :=
  (directoryJson snapshot).map fun value => value.map fun v => v.render ++ "\n"

/-! ## The folder -/

namespace Custody

/-- `Directory::create`. -/
def create (name : String) : Program FolderCall Bool Bool := do
  if !(← perform .validate) then return false
  else if !(← perform (.createNew name)) then return false
  else if !(← perform (.setPermissions name)) then return false
  else perform .validate

/-- `Directory::remove`. -/
def remove (name : String) : Program FolderCall Bool Bool := do
  if !(← perform .validate) then return false
  else if !(← perform (.unlink name)) then return false
  else perform .validate

/-- `Directory::rename`. -/
def rename (source target : String) : Program FolderCall Bool Bool := do
  if !(← perform .validate) then return false
  else if !(← perform (.rename source target)) then return false
  else perform .validate

end Custody

/-! ## The state -/

/-- `State`: what is known about the child that runs. -/
structure DirectState where
  generation : ℕ
  childActive : Bool
  lastSuccessAtMs : ℤ
  validUntilMs : Option ℤ
  failure : Option DiscoveryFailure

namespace DirectState

/-- Before the first child. -/
def create : DirectState := ⟨0, false, 0, none, none⟩

/-- `wrapping_add(1)` in 64 bits. -/
def nextGeneration (generation : ℕ) : ℕ := (generation + 1) % 2 ^ 64

/-- **An answer counts**: its child runs and its generation is still
there. -/
def current (s : DirectState) (generation : ℕ) : Prop :=
  s.childActive = true ∧ s.generation = generation

instance (s : DirectState) (generation : ℕ) : Decidable (s.current generation) :=
  inferInstanceAs (Decidable (_ ∧ _))

/-- The state after `begin_child`, if the files could be removed. -/
def begun (s : DirectState) : DirectState := ⟨nextGeneration s.generation, true, 0, none, none⟩

/-- The state after `end_child`. -/
def ended (s : DirectState) : DirectState :=
  { s with childActive := false, generation := nextGeneration s.generation }

/-- `set_failure`. -/
def setFailure (s : DirectState) (request : DirectRequest) (failure : DiscoveryFailure) :
    DirectState :=
  match request with
  | .none => s
  | .direct generation | .errorOnly generation =>
    if s.current generation then { s with failure := some failure } else s

end DirectState

namespace DirectPeer

/-- The file the workload writes. -/
def advertisement : String := "advertisement.json"

/-- The file the workload reads. -/
def directory : String := "directory.json"

/-- The file that is written first. -/
def staged : String := "next-direct.json"

/-- `begin_child`: the state if it succeeds and if it does not. -/
def beginChild (s : DirectState) : Program FolderCall Bool DirectState := do
  let stopped := s.ended
  if !(← Custody.remove advertisement) then return stopped
  else if !(← Custody.remove directory) then return stopped
  else return s.begun

/-- `end_child`. -/
def endChild (s : DirectState) : Program FolderCall Bool DirectState := do
  let _ ← Custody.remove advertisement
  return s.ended

section Request

/-- `AdvertisementFailure`. -/
inductive AdvertisementFailure where
  | invalid | oversized | symlink | conflict

/-- `Advertisement`, without its schema. -/
structure Advertisement where
  service : String
  port : ℕ
  ready : Bool
  tlsFingerprint : String
  peerSyncLastSuccessAtMs : Option ℤ
  peerSyncFailureCode : Option String

def AdvertisementFailure.code : AdvertisementFailure → String
  | invalid => "invalid"
  | oversized => "oversized"
  | symlink => "symlink"
  | conflict => "conflict"

def failureCode : DiscoveryFailure → String
  | .unavailable => "unavailable"
  | .invalid => "invalid"
  | .stale => "stale"
  | .oversized => "oversized"
  | .unsupported => "unsupported"

/-- The members that a request adds for an advertisement. -/
def directAttrs (s : DirectState) (nowMs : ℤ) (ad : Advertisement) : List (String × Json) :=
  let failure := if s.validUntilMs.any (fun u => u ≤ nowMs) then some .stale else s.failure
  [("discoveryVersion", .num 2), ("peerService", .str ad.service), ("peerPort", .num ad.port),
      ("peerTlsFingerprint", .str ad.tlsFingerprint), ("peerReady", .bool ad.ready)]
    ++ (ad.peerSyncLastSuccessAtMs.map fun at' => ("peerSyncLastSuccessAtMs", .num at')).toList
    ++ (ad.peerSyncFailureCode.map fun code => ("peerSyncFailureCode", .str code)).toList
    ++ (if 0 < s.lastSuccessAtMs then [("discoveryLastSuccessAtMs", .num s.lastSuccessAtMs)]
      else [])
    ++ [("discoveryRefreshFailed", .bool failure.isSome)]
    ++ (failure.map fun f => ("discoveryFailureCode", .str (failureCode f))).toList
    ++ ((s.validUntilMs.filter fun u => nowMs < u ∧ u - nowMs ≤ maxSnapshotLifetimeMs).map
      fun u => ("discoveryValidUntilMs", .num u)).toList

/-- `request_attrs`: the members it adds and what is asked for, by what was
found of the advertisement. -/
def requestAttrs (s : DirectState) (nowMs : ℤ)
    (ad : Except AdvertisementFailure (Option Advertisement)) :
    List (String × Json) × DirectRequest :=
  if !s.childActive then ([], .none)
  else
    match ad with
    | .ok (some ad) => (directAttrs s nowMs ad, .direct s.generation)
    | .ok none => ([], .none)
    | .error .conflict => ([("peerAdvertisementError", .str "conflict")], .none)
    | .error failure => ([("peerAdvertisementError", .str failure.code),
        ("discoveryVersion", .num 2)], .errorOnly s.generation)

end Request

section Accept

variable (parseUrl : String → Option ParsedUrl) (fromStr : String → Option Json)
  (fromSlice : List UInt8 → Option Json) (sha256 : List UInt8 → Digest) (self : DirectPeer)

/-- The reason why the server has no directory. -/
def unavailableReason (snapshot : Json) : DiscoveryFailure :=
  if ¬ exactKeys snapshot ["schema", "status", "reason"] then .invalid
  else
    match snapshot.get "reason" with
    | .str "unsupported" => .unsupported
    | .str "invalid" => .invalid
    | .str "stale" => .stale
    | .str "overflow" => .oversized
    | .str "no_ipv6" | .str "store_unavailable" => .unavailable
    | _ => .invalid

/-- A directory that may be written: the times of its snapshot and its
text. -/
structure Directory where
  snapshot : Json
  observed : ℤ
  expiry : ℤ
  bytes : List UInt8
deriving DecidableEq

/-- The directory of a snapshot, if it is written without a panic and not too
long. -/
def directoryOf (nowMs : ℤ) (snapshot : Json) : Except DiscoveryFailure Directory := do
  let (observed, expiry) ← validateDirectSnapshot parseUrl fromStr sha256 self nowMs snapshot
  let text ← serializeDirectory snapshot
  let text ← text.okOr .invalid
  require (text.utf8ByteSize ≤ maxDiscoveryBytes) .oversized
  return ⟨snapshot, observed, expiry, utf8 text⟩

/-- The first part of `validate_and_write`: what is in a response. -/
def inspect (body : List UInt8) (nowMs : ℤ) (allowDirectory : Bool) :
    Except DiscoveryFailure Directory := do
  require (body.length ≤ maxDiscoveryBytes + 16 * 1024) .oversized
  let response ← (fromSlice body).okOr .invalid
  let accepted ← (response.get "ok").asBool.okOr .invalid
  require (accepted = true) .unavailable
  let snapshot ← (response.get? "discovery").okOr .unsupported
  require (snapshot ≠ .null) .unsupported
  if snapshot.get "schema" = .str "liskov.discovery.v2"
      ∧ snapshot.get "status" = .str "unavailable" then
    .error (unavailableReason snapshot)
  else if !allowDirectory then .error .invalid
  else directoryOf parseUrl fromStr sha256 self nowMs snapshot

/-- The second part: the new file is written. -/
def stage (bytes : List UInt8) : Program FolderCall Bool Bool := do
  if !(← Custody.create staged) then return false
  else if !(← perform (.writeAll staged bytes)) then return false
  else perform (.syncAll staged)

/-- The third part, which nothing else interrupts: the new file takes the
place of the old one if the answer counts. -/
def settle (s : DirectState) (generation : ℕ) (d : Directory) :
    Program FolderCall Bool (Except DiscoveryFailure Unit × DirectState) := do
  if ¬ s.current generation ∨ d.observed ≤ s.lastSuccessAtMs then
    let _ ← Custody.remove staged
    return (.error .stale, s)
  else if !(← Custody.rename staged directory) then return (.error .unavailable, s)
  else
    return (.ok (), { s with
      lastSuccessAtMs := d.observed, validUntilMs := some d.expiry, failure := none })

/-- `validate_and_write` for a directory that may be written. -/
def writeDirectory (s : DirectState) (generation : ℕ) (d : Directory) :
    Program FolderCall Bool (Except DiscoveryFailure Unit × DirectState) := do
  if !(← stage d.bytes) then
    let _ ← Custody.remove staged
    return (.error .unavailable, s)
  else settle s generation d

/-- What the helper knows, and its folder. -/
structure Direct where
  state : DirectState
  files : Files

/-- `accept_response` where nothing happens in between: whether the response
is accepted and what is left. A call may fail. -/
def acceptResponse (s : Direct) (request : DirectRequest) (body : List UInt8) (nowMs : ℤ)
    (fault : Option FolderFault) : Except DiscoveryFailure Unit × Direct :=
  match request.scope with
  | none => (.ok (), s)
  | some (generation, allowDirectory) =>
    match inspect parseUrl fromStr fromSlice sha256 self body nowMs allowDirectory with
    | .error failure => (.error failure, { s with state := s.state.setFailure request failure })
    | .ok d =>
      let ((result, state), w) := (writeDirectory s.state generation d).run Folder.step
        ⟨s.files, fault⟩
      match result with
      | .ok () => (.ok (), ⟨state, w.files⟩)
      | .error failure => (.error failure, ⟨state.setFailure request failure, w.files⟩)

end Accept

end DirectPeer
