import RuntimeCargo.Check
import RuntimeCargo.Folder
import RuntimeCargo.Wire

/-!
# The directory of services

The server tells a workload which services its peers offer. The helper keeps
what it was told last in a file that the workload reads, and replaces the
file when it is told something newer. What it is told is a *snapshot*, a JSON
value, which is checked before it is written (`validateSnapshot`): its shape,
its bounds, and that it is about this application, job and runtime.

A response is accepted in two parts. The first one looks at the response
alone (`DiscoveryFile.check`); the second one replaces the file
(`DiscoveryFile.publish`), which is a program in a folder where a call may
fail.

The readers of JSON and of URLs are parameters.
-/

open Program (perform)

/-! ## Reading values -/

/-- The value of an integer that fits in 64 signed bits. -/
def Json.asI64 : Json → Option ℤ
  | .num n => if -2 ^ 63 ≤ n ∧ n < 2 ^ 63 then some n else none
  | _ => none

/-- The host of a URL: a name, or an address. -/
inductive PeerHost where
  | domain (name : String)
  | ipv4 (octets : Vector UInt8 4)
  | ipv6 (octets : Vector UInt8 16)

/-- The parts of a URL. -/
structure ParsedUrl where
  scheme : String
  username : String
  password : Option String
  host : Option PeerHost
  port : Option ℕ
  path : String
  query : Option String
  fragment : Option String

/-- `text`: a short text that is not empty. -/
def Json.isText (v : Json) : Bool := v.asStr.any fun s => s ≠ "" && s.utf8ByteSize ≤ 512

/-- A time that is not negative. -/
def Json.isTime (v : Json) : Bool := v.asI64.any fun n => 0 ≤ n

/-- A text that was not seen before; it is seen now. -/
def insertText (v : Json) (seen : List String) (error : String) :
    Except String (List String) := do
  let s ← v.asStr.okOr error
  require (s ∉ seen) error
  return s :: seen

/-! ## The snapshot -/

section Validate

variable (parseUrl : String → Option ParsedUrl)

/-- The host is a name in the private network. -/
def isTailnetHost : Option PeerHost → Bool
  | some (.domain name) => ".ts.net".toList.isSuffixOf name.toList
  | _ => false

/-- The URL of an endpoint; one that is ready or published has one. -/
def checkEndpointUrl (e : Json) : Except String Unit :=
  match e.get "url" with
  | .str raw => do
    let url ← (parseUrl raw).okOr "url"
    require (url.scheme = "http" ∧ url.username = "" ∧ url.password = none
      ∧ isTailnetHost url.host ∧ url.query = none ∧ url.fragment = none ∧ url.path = "/") "url"
  | url => require (url = .null ∧ e.get "state" ≠ .str "ready" ∧ e.get "state" ≠ .str "published")
      "url"

/-- One endpoint of a service. -/
def checkEndpoint (names : List String) (e : Json) : Except String (List String) := do
  require ((e.get "name").isText) "endpoint"
  let names ← insertText (e.get "name") names "endpoint"
  require (e.get "provider" = .str "tailscale") "endpoint"
  require (∃ state ∈ ["pending", "published", "ready", "degraded"], e.get "state" = .str state)
    "endpoint"
  require (e.get "observedAtMs" = .null ∨ (e.get "observedAtMs").isTime) "endpoint time"
  checkEndpointUrl parseUrl e
  return names

/-- One service of a peer; the number of endpoints so far is carried
along. -/
def checkService (seen : List String × ℕ) (service : Json) :
    Except String (List String × ℕ) := do
  require ((service.get "name").isText) "service"
  let names ← insertText (service.get "name") seen.1 "service"
  require (service.get "protocol" = .str "http") "service"
  let endpoints ← (service.get "endpoints").asArray.okOr "endpoints"
  let total := seen.2 + endpoints.length
  require (total ≤ 32) "endpoint bound"
  let _ ← endpoints.foldlM (checkEndpoint parseUrl) []
  return (names, total)

/-- One peer. -/
def checkPeer (identities : List String) (peer : Json) : Except String (List String) := do
  require ((peer.get "jobId").isText ∧ (peer.get "instanceId").isText) "peer identity"
  let identities ← insertText (peer.get "instanceId") identities "peer identity"
  let services ← ((peer.get "services").asArray.filter fun s => s.length ≤ 32).okOr "services"
  let _ ← services.foldlM (checkService parseUrl) ([], 0)
  return identities

/-- `validate_snapshot`. -/
def validateSnapshot (v : Json) : Except String Unit := do
  require (v.get "schema" = .str "liskov.discovery.v1" ∧ (v.get "applicationUid").isText
    ∧ ((v.get "self").get "jobId").isText ∧ ((v.get "self").get "runtimeInstanceId").isText
    ∧ (v.get "revision").isText ∧ (v.get "observedAtMs").isTime) "identity"
  let peers ← ((v.get "peers").asArray.filter fun p => p.length ≤ 256).okOr "peers"
  let _ ← peers.foldlM (checkPeer parseUrl) []
  return ()

end Validate

/-! ## The file -/

/-- `MAX_DISCOVERY_BYTES`. -/
def maxDiscoveryBytes : ℕ := 512 * 1024

/-- What the directory is about. -/
structure DiscoveryIdentity where
  applicationUid : String
  jobId : String
  runtimeInstanceId : String

/-- The two sides of `DiscoveryFile`: what it remembers, and its folder. -/
structure DiscoveryFile where
  lastSuccess : ℤ
  failed : Bool
  files : Files

namespace DiscoveryFile

variable (parseUrl : String → Option ParsedUrl) (fromSlice : List UInt8 → Option Json)
  (identity : DiscoveryIdentity)

/-- The file that the workload reads. -/
def target : String := "discovery.json"

/-- The file that is written first. -/
def temp : String := "next.json"

/-- `DiscoveryFile::create`. -/
def create : DiscoveryFile := ⟨0, false, fun _ => none⟩

/-- A snapshot is about this application, job and runtime. -/
def Names (snapshot : Json) : Prop :=
  snapshot.get "applicationUid" = .str identity.applicationUid
    ∧ (snapshot.get "self").get "jobId" = .str identity.jobId
    ∧ (snapshot.get "self").get "runtimeInstanceId" = .str identity.runtimeInstanceId

instance (snapshot : Json) : Decidable (Names identity snapshot) :=
  inferInstanceAs (Decidable (_ ∧ _ ∧ _))

/-- The bytes of the file. -/
def serialize (snapshot : Json) : List UInt8 := utf8 snapshot.render

/-- The first part of `accept`: the snapshot in a response and the time it
was observed at. -/
def check (lastSuccess : ℤ) (body : List UInt8) : Except String (Json × ℤ) := do
  require (body.length ≤ maxDiscoveryBytes + 16 * 1024) "invalid discovery response"
  let response ← (fromSlice body).okOr "invalid discovery response"
  require (response.get "ok" = .bool true) "invalid discovery response"
  let snapshot := response.get "discovery"
  (validateSnapshot parseUrl snapshot).mapError fun _ => "invalid discovery response"
  require (Names identity snapshot) "invalid discovery response"
  let observed ← (snapshot.get "observedAtMs").asI64.okOr "invalid discovery response"
  require (lastSuccess ≤ observed) "invalid discovery response"
  require ((serialize snapshot).length ≤ maxDiscoveryBytes) "invalid discovery response"
  return (snapshot, observed)

/-- The new file is written and takes the place of the old one. -/
def write (bytes : List UInt8) : Program FolderCall Bool Bool := do
  if !(← perform (.createNew temp)) then return false
  else if !(← perform (.writeAll temp bytes)) then return false
  else if !(← perform (.syncAll temp)) then return false
  else perform (.rename temp target)

/-- What is left of a new file is removed. -/
def discard : Program FolderCall Bool Bool := do
  if ← perform (.exists temp) then
    let _ ← perform (.unlink temp)
    return false
  else return false

/-- The second part of `accept`: whether the file was replaced. -/
def publish (bytes : List UInt8) : Program FolderCall Bool Bool := do
  if ← write bytes then return true
  else discard

/-- **A response**, and the call that fails during it, if one does. -/
structure Response where
  body : List UInt8
  fault : Option FolderFault

/-- `accept_response`: whether the response is accepted, and what is left. -/
def acceptResponse (s : DiscoveryFile) (r : Response) : Except Unit Unit × DiscoveryFile :=
  match check parseUrl fromSlice identity s.lastSuccess r.body with
  | .error _ => (.error (), { s with failed := true })
  | .ok (snapshot, observed) =>
    let (published, w) := (publish (serialize snapshot)).run Folder.step ⟨s.files, r.fault⟩
    if published then (.ok (), ⟨observed, false, w.files⟩)
    else (.error (), ⟨s.lastSuccess, true, w.files⟩)

/-- **Some responses**, one after the other. -/
def acceptAll (rs : List Response) : DiscoveryFile :=
  rs.foldl (fun s r => (s.acceptResponse parseUrl fromSlice identity r).2) create

end DiscoveryFile
