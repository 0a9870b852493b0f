import RuntimeCargo.Encoding
import RuntimeCargo.Check
import RuntimeCargo.Trace

/-!
# Talking to the router

A mapping adapter speaks to the selected gateway and to nobody else. It
does so through a *transport*, which hands over one request and brings back
one reply, and it asks before each step whether it has been cancelled.
Neither can be relied on: a request may be lost, a reply may be anything.
So the adapters are programs (`Program`) with these two calls, and what is
proved about them is proved against every sequence of answers.

There are three kinds of request: a PCP packet, a NAT-PMP packet and a SOAP
message for the control URL of an internet gateway device. A request is
kept here by what it says (`RouterRequest`), next to the bytes that are
sent (`RouterRequest.bytes`). The control URL is what the router itself has
announced; it is taken apart and checked before it is used, and whatever
comes of it has no `#` in it (`IgdControlDescriptor.noHash`).
-/

/-! ## Bytes of a text -/

/-- The bytes of a text in ASCII. -/
def ascii (s : String) : List UInt8 := s.toList.map fun c => UInt8.ofNat c.toNat

/-- The bytes of a number in decimal. -/
def decimal (n : ℕ) : List UInt8 := (Nat.toDigits 10 n).map fun c => UInt8.ofNat c.toNat

/-- `#`. -/
def hashByte : UInt8 := 0x23

section Splitting

variable {α : Type} [DecidableEq α]

/-- `split_once`: what stands before a separator and what stands behind
it, at the first place where it occurs. -/
def splitOnce (sep : List α) : List α → Option (List α × List α)
  | [] => if sep = [] then some ([], []) else none
  | c :: rest =>
    if sep <+: c :: rest then some ([], (c :: rest).drop sep.length)
    else (splitOnce sep rest).map fun (before, after) => (c :: before, after)

/-- `split`: the pieces between the separators, at most so many of them. -/
def splitAll (sep : List α) : ℕ → List α → List (List α)
  | 0, s => [s]
  | most + 1, s =>
    match splitOnce sep s with
    | none => [s]
    | some (before, after) => before :: splitAll sep most after

end Splitting

/-! ## Addresses and protocols -/

structure Ipv4Addr where
  a : UInt8
  b : UInt8
  c : UInt8
  d : UInt8
deriving DecidableEq

namespace Ipv4Addr

/-- `Ipv4Addr::UNSPECIFIED`. -/
def unspecified : Ipv4Addr := ⟨0, 0, 0, 0⟩

def octets (addr : Ipv4Addr) : List UInt8 := [addr.a, addr.b, addr.c, addr.d]

/-- The address as it is displayed. -/
def display (addr : Ipv4Addr) : List UInt8 :=
  decimal addr.a.toNat ++ ascii "." ++ decimal addr.b.toNat ++ ascii "." ++ decimal addr.c.toNat
    ++ ascii "." ++ decimal addr.d.toNat

end Ipv4Addr

/-- `usable_ipv4`. -/
def usableIpv4 (addr : Ipv4Addr) : Bool :=
  addr ≠ .unspecified && addr ≠ ⟨255, 255, 255, 255⟩ && !(224 ≤ addr.a && addr.a ≤ 239)
    && addr.a < 240

inductive RouterProtocol where
  | pcp | natPmp | upnpIgd
deriving DecidableEq

/-- Which port is mapped. -/
inductive MappedPortProtocol where
  | tcp | udp
deriving DecidableEq

/-- The gateway that was selected, by its address. -/
structure SelectedGateway where
  gateway : Ipv4Addr

structure SocketAddr where
  ip : Ipv4Addr
  port : ℕ
deriving DecidableEq

/-- Why a transport has no reply. -/
inductive ControlRefusal where
  | wrongTarget | oversize | unsupported | cancelled | bounded
deriving DecidableEq

/-! ## The control URL of an internet gateway device -/

/-- The host of a URL: an address, or something else. -/
inductive UrlHost where
  | ipv4 (address : Ipv4Addr)
  | other
deriving DecidableEq

/-- A URL in parts, as the `url` crate takes it apart. -/
structure HttpUrl where
  scheme : List UInt8
  username : List UInt8
  password : Option (List UInt8)
  host : Option UrlHost
  /-- `port_or_known_default`. -/
  port : Option ℕ
  path : List UInt8
  query : Option (List UInt8)
  fragment : Option (List UInt8)

/-- **The `url` crate**: it takes a URL apart and resolves a reference. A
`#` starts the fragment, so that neither the path nor the query has one. -/
structure UrlParser where
  parse : List UInt8 → Option HttpUrl
  /-- `join`, written out again. -/
  join : HttpUrl → List UInt8 → Option (List UInt8)
  path_noHash : ∀ {raw url}, parse raw = some url → hashByte ∉ url.path
  query_noHash : ∀ {raw url query}, parse raw = some url → url.query = some query →
    hashByte ∉ query

inductive IgdServiceKind where
  | wanIpConnection | wanPppConnection
deriving DecidableEq

inductive IgdRefusal where
  | bounded | malformed | malformedPort | wrongTarget

/-- `CONTROL_LOCATION_MAX_BYTES`. -/
def controlLocationMaxBytes : ℕ := 512

/-- The control URL of a service, which a router has announced and which
was checked: it is at the gateway, and it has no fragment. -/
structure IgdControlDescriptor where
  service : IgdServiceKind
  gateway : Ipv4Addr
  port : ℕ
  pathAndQuery : List UInt8
  noHash : hashByte ∉ pathAndQuery
deriving DecidableEq

/-- `control_target`. -/
def IgdControlDescriptor.controlTarget (d : IgdControlDescriptor) : List UInt8 :=
  ascii "http://" ++ d.gateway.display ++ ascii ":" ++ decimal d.port ++ d.pathAndQuery

section Ascii

theorem hashByte_notMem_decimal (n : ℕ) : hashByte ∉ decimal n := by
  intro h
  obtain ⟨c, hc, heq⟩ := List.mem_map.mp h
  have hdigit := Nat.isDigit_of_mem_toDigits (by decide) (by decide) hc
  rw [Char.isDigit, Bool.and_eq_true, decide_eq_true_iff, decide_eq_true_iff, ge_iff_le,
    UInt32.le_iff_toNat_le, UInt32.le_iff_toNat_le] at hdigit
  have hval := congrArg UInt8.toNat heq
  rw [UInt8.toNat_ofNat'] at hval
  have h35 : hashByte.toNat = 35 := rfl
  have hlow : (48 : ℕ) ≤ c.toNat := hdigit.1
  have hhigh : c.toNat ≤ 57 := hdigit.2
  omega

theorem hashByte_notMem_display (addr : Ipv4Addr) : hashByte ∉ addr.display := by
  have hdot : hashByte ∉ ascii "." := by decide
  simp only [Ipv4Addr.display, List.mem_append, hashByte_notMem_decimal, hdot, or_self,
    not_false_eq_true]

end Ascii

/-- Whether a byte ends a request line: a control character, or a space. -/
def isControlOrSpace (b : UInt8) : Bool := b < 32 || b = 127 || b = 32

/-- `upnp_location`: where the control URL is, which has to be at the
gateway. -/
def upnpLocation (urls : UrlParser) (gateway : SelectedGateway) (location : List UInt8) :
    Except ControlRefusal SocketAddr :=
  if location.length > controlLocationMaxBytes then .error .oversize
  else match urls.parse location with
  | none => .error .wrongTarget
  | some url =>
    if url.scheme ≠ ascii "http" ∨ url.username ≠ [] ∨ url.password ≠ none then
      .error .wrongTarget
    else if url.host ≠ some (.ipv4 gateway.gateway) then .error .wrongTarget
    else if url.port.getD 0 = 0 then .error .wrongTarget
    else .ok ⟨gateway.gateway, url.port.getD 0⟩

/-! ## What is said to a router -/

/-- `MAPPING_REQUESTED_LEASE_SEC`. -/
def mappingRequestedLeaseSec : ℕ := 60

/-- A PCP nonce, or the fingerprint of a control URL. -/
abbrev MappingNonce := Vector UInt8 12

/-- The number of a protocol in a PCP packet. -/
def MappedPortProtocol.pcp : MappedPortProtocol → UInt8
  | tcp => 6
  | udp => 17

/-- The opcode of a protocol in a NAT-PMP packet. -/
def MappedPortProtocol.natpmp : MappedPortProtocol → UInt8
  | tcp => 2
  | udp => 1

/-- `from_natpmp`. -/
def MappedPortProtocol.fromNatpmp (value : UInt8) : Option MappedPortProtocol :=
  if value = 2 then some tcp else if value = 1 then some udp else none

/-- `protocol_name`. -/
def MappedPortProtocol.name : MappedPortProtocol → String
  | tcp => "TCP"
  | udp => "UDP"

/-- `service_urn`. -/
def IgdServiceKind.urn : IgdServiceKind → String
  | wanIpConnection => "urn:schemas-upnp-org:service:WANIPConnection:1"
  | wanPppConnection => "urn:schemas-upnp-org:service:WANPPPConnection:1"

/-- A SOAP action and what it is about. -/
inductive SoapAction where
  | getSpecificPortMappingEntry (port : ℕ) (protocol : MappedPortProtocol)
  | addPortMapping (client : Ipv4Addr) (port : ℕ) (protocol : MappedPortProtocol)
  | deletePortMapping (port : ℕ) (protocol : MappedPortProtocol)
deriving DecidableEq

namespace SoapAction

def name : SoapAction → String
  | getSpecificPortMappingEntry _ _ => "GetSpecificPortMappingEntry"
  | addPortMapping _ _ _ => "AddPortMapping"
  | deletePortMapping _ _ => "DeletePortMapping"

/-- `tuple_fields`. -/
def tupleFields (port : ℕ) (protocol : MappedPortProtocol) : List UInt8 :=
  ascii "<NewRemoteHost></NewRemoteHost><NewExternalPort>" ++ decimal port
    ++ ascii "</NewExternalPort><NewProtocol>" ++ ascii protocol.name ++ ascii "</NewProtocol>"

/-- `add_fields`. -/
def addFields (client : Ipv4Addr) (port : ℕ) (protocol : MappedPortProtocol) : List UInt8 :=
  tupleFields port protocol ++ ascii "<NewInternalPort>" ++ decimal port
    ++ ascii "</NewInternalPort><NewInternalClient>" ++ client.display
    ++ ascii "</NewInternalClient><NewEnabled>1</NewEnabled>"
    ++ ascii "<NewPortMappingDescription>liskov</NewPortMappingDescription><NewLeaseDuration>"
    ++ decimal mappingRequestedLeaseSec ++ ascii "</NewLeaseDuration>"

def fields : SoapAction → List UInt8
  | getSpecificPortMappingEntry port protocol => tupleFields port protocol
  | addPortMapping client port protocol => addFields client port protocol
  | deletePortMapping port protocol => tupleFields port protocol

/-- The body of a request. -/
def envelope (urn : String) (action : SoapAction) : List UInt8 :=
  ascii "<?xml version=\"1.0\"?><s:Envelope xmlns:s=\"http://schemas.xmlsoap.org/soap/envelope/\" "
    ++ ascii "s:encodingStyle=\"http://schemas.xmlsoap.org/soap/encoding/\"><s:Body><u:"
    ++ ascii action.name ++ ascii " xmlns:u=\"" ++ ascii urn ++ ascii "\">" ++ action.fields
    ++ ascii "</u:" ++ ascii action.name ++ ascii "></s:Body></s:Envelope>"

end SoapAction

/-- The bytes of a SOAP request. -/
def soapText (descriptor : IgdControlDescriptor) (action : SoapAction) : List UInt8 :=
  let urn := descriptor.service.urn
  let envelope := action.envelope urn
  ascii "POST " ++ descriptor.pathAndQuery ++ ascii " HTTP/1.1\r\nHost: "
    ++ descriptor.gateway.display ++ ascii ":" ++ decimal descriptor.port
    ++ ascii "\r\nContent-Type: text/xml; charset=\"utf-8\"\r\nSOAPAction: \"" ++ ascii urn
    ++ [hashByte] ++ ascii action.name ++ ascii "\"\r\nContent-Length: "
    ++ decimal envelope.length ++ ascii "\r\nConnection: close\r\n\r\n" ++ envelope

/-- `ipv4_mapped`. -/
def ipv4Mapped (addr : Ipv4Addr) : List UInt8 :=
  List.replicate 10 0 ++ [0xff, 0xff] ++ addr.octets

/-- `encode_pcp`. -/
def encodePcp (client : Ipv4Addr) (protocol : UInt8) (internalPort externalPort : ℕ)
    (nonce : MappingNonce) (lifetime : ℕ) : List UInt8 :=
  [2, 1, 0, 0] ++ beBytes 4 lifetime ++ ipv4Mapped client ++ nonce.toList ++ [protocol, 0, 0, 0]
    ++ beBytes 2 internalPort ++ beBytes 2 externalPort ++ List.replicate 16 0

/-- `encode_natpmp`. -/
def encodeNatpmp (opcode : UInt8) (internalPort externalPort lifetime : ℕ) : List UInt8 :=
  [0, opcode, 0, 0] ++ beBytes 2 internalPort ++ beBytes 2 externalPort ++ beBytes 4 lifetime

/-- **A request**, by what it says. -/
inductive RouterRequest where
  | pcp (client : Ipv4Addr) (protocol : MappedPortProtocol) (internalPort externalPort : ℕ)
      (nonce : MappingNonce) (lifetime : ℕ)
  | natPmp (protocol : MappedPortProtocol) (internalPort externalPort lifetime : ℕ)
  | soap (descriptor : IgdControlDescriptor) (action : SoapAction)
  /-- No bytes at all. -/
  | empty
deriving DecidableEq

namespace RouterRequest

/-- The bytes that are sent. -/
def bytes : RouterRequest → List UInt8
  | pcp client protocol internalPort externalPort nonce lifetime =>
    encodePcp client protocol.pcp internalPort externalPort nonce lifetime
  | natPmp protocol internalPort externalPort lifetime =>
    encodeNatpmp protocol.natpmp internalPort externalPort lifetime
  | soap descriptor action => soapText descriptor action
  | empty => []

/-- The request deletes a mapping. -/
def isDelete : RouterRequest → Bool
  | pcp _ _ _ _ _ lifetime => lifetime = 0
  | natPmp _ _ _ lifetime => lifetime = 0
  | soap _ (.deletePortMapping _ _) => true
  | _ => false

/-- The request adds a mapping over UPnP. -/
def isAdd : RouterRequest → Bool
  | soap _ (.addPortMapping _ _ _) => true
  | _ => false

/-- The request looks a mapping up over UPnP. -/
def isLook : RouterRequest → Bool
  | soap _ (.getSpecificPortMappingEntry _ _) => true
  | _ => false

/-- The request is of a protocol that cannot tell whose a mapping is. -/
def needsReservation : RouterRequest → Bool
  | natPmp _ _ _ _ => true
  | soap _ _ => true
  | _ => false

variable {protocol : MappedPortProtocol}

theorem length_bytes_pcp {client : Ipv4Addr} {internalPort externalPort : ℕ}
    {nonce : MappingNonce} {lifetime : ℕ} :
    (pcp client protocol internalPort externalPort nonce lifetime).bytes.length = 60 := by
  simp [bytes, encodePcp, ipv4Mapped, Ipv4Addr.octets, length_beBytes]

theorem length_bytes_natPmp {internalPort externalPort lifetime : ℕ} :
    (natPmp protocol internalPort externalPort lifetime).bytes.length = 12 := by
  simp [bytes, encodeNatpmp, length_beBytes]

end RouterRequest

/-! ## The transport -/

/-- What an adapter asks of its surroundings. -/
inductive ControlCall where
  | cancelled
  | exchange (destination : SocketAddr) (request : RouterRequest) (capacity : ℕ)

/-- What it is told: whether it was cancelled, or what the exchange came
to. A reply longer than the capacity stands for a count beyond the buffer. -/
inductive ControlReply where
  | flag (cancelled : Bool)
  | exchanged (reply : Except ControlRefusal (List UInt8))

namespace ControlReply

/-- The answer to `cancelled()`. -/
def isCancelled : ControlReply → Bool
  | flag cancelled => cancelled
  | exchanged _ => false

/-- What an exchange came to. -/
def reply : ControlReply → Except ControlRefusal (List UInt8)
  | exchanged reply => reply
  | flag _ => .error .unsupported

end ControlReply

/-- The programs of the adapters. -/
abbrev Control := Program ControlCall ControlReply

/-- `cancelled()`. -/
def askCancelled : Control Bool := do return (← Program.perform .cancelled).isCancelled

/-- `transport.exchange`. -/
def exchange (destination : SocketAddr) (request : RouterRequest) (capacity : ℕ) :
    Control (Except ControlRefusal (List UInt8)) := do
  return (← Program.perform (.exchange destination request capacity)).reply

/-- `CONTROL_MAX_BYTES`. -/
def controlMaxBytes : ℕ := 1100

/-- `UPNP_SOAP_MAX_BYTES`. -/
def upnpSoapMaxBytes : ℕ := 4096

/-- `ROUTER_CONTROL_PORT`. -/
def routerControlPort : ℕ := 5351

/-- What a PCP or NAT-PMP exchange came to, once the reply is there. -/
def afterExchange : Except ControlRefusal (List UInt8) →
    Control (Except ControlRefusal (List UInt8))
  | .error refusal => return .error refusal
  | .ok body => do
    if ← askCancelled then return .error .cancelled
    else if body.length > controlMaxBytes then return .error .bounded
    else return .ok body

/-- `exchange_with_gateway`, for the two protocols that have no location. -/
def exchangeWithGateway (gateway : SelectedGateway) (request : RouterRequest) :
    Control (Except ControlRefusal (List UInt8)) := do
  if ← askCancelled then return .error .cancelled
  else if request.bytes = [] then return .error .unsupported
  else if request.bytes.length > controlMaxBytes then return .error .oversize
  else afterExchange (← exchange ⟨gateway.gateway, routerControlPort⟩ request controlMaxBytes)

/-- `UpnpSoapReply`: refused before anything was handed over, or what the
exchange came to. -/
inductive UpnpSoapReply where
  | refused (refusal : ControlRefusal)
  | exchanged (reply : Except ControlRefusal (List UInt8))

/-- A full buffer counts as cut off. -/
def afterSoap : Except ControlRefusal (List UInt8) → UpnpSoapReply
  | .error refusal => .exchanged (.error refusal)
  | .ok body =>
    if body.length ≥ upnpSoapMaxBytes then .exchanged (.error .bounded) else .exchanged (.ok body)

/-- `exchange_upnp_soap`. -/
def exchangeUpnpSoap (urls : UrlParser) (gateway : SelectedGateway) (location : List UInt8)
    (request : RouterRequest) : Control UpnpSoapReply := do
  if request.bytes = [] then return .refused .unsupported
  else if request.bytes.length > upnpSoapMaxBytes then return .refused .oversize
  else if ← askCancelled then return .refused .cancelled
  else match upnpLocation urls gateway location with
  | .error refusal => return .refused refusal
  | .ok destination => return afterSoap (← exchange destination request upnpSoapMaxBytes)

/-! ## What was exchanged

Of the calls of a run, the exchanges are what the router has seen. A run is
read in these terms: nothing was handed over, or one request and the reply
to it. -/

/-- One request, and what came back. -/
structure Exchange where
  destination : SocketAddr
  request : RouterRequest
  reply : Except ControlRefusal (List UInt8)

/-- The exchange a call was. -/
def exchangeOf : ControlCall × ControlReply → Option Exchange
  | (.cancelled, _) => none
  | (.exchange destination request _, r) => some ⟨destination, request, r.reply⟩

/-- **The exchanges of a run**, in order. -/
def exchanges (t : List (ControlCall × ControlReply)) : List Exchange := t.filterMap exchangeOf

/-- No call of the run was told that it is cancelled. -/
def Uncancelled (t : List (ControlCall × ControlReply)) : Prop :=
  ∀ x ∈ t, x.2.isCancelled = false

@[simp] theorem exchanges_nil : exchanges [] = [] := rfl

@[simp] theorem exchanges_append (t u : List (ControlCall × ControlReply)) :
    exchanges (t ++ u) = exchanges t ++ exchanges u := List.filterMap_append

@[simp] theorem uncancelled_append (t u : List (ControlCall × ControlReply)) :
    Uncancelled (t ++ u) ↔ Uncancelled t ∧ Uncancelled u := by
  simp only [Uncancelled, List.mem_append, or_imp, forall_and]

open Program

variable {t : List (ControlCall × ControlReply)} {out : Except ControlRefusal (List UInt8)}
  {request : RouterRequest}

theorem yields_askCancelled {c : Bool} :
    Yields askCancelled t c ↔ ∃ r : ControlReply, t = [(.cancelled, r)] ∧ r.isCancelled = c := by
  simp only [askCancelled, yields_perform_bind, yields_pure]
  constructor
  · rintro ⟨r, _, rfl, rfl, rfl⟩
    exact ⟨r, rfl, rfl⟩
  · rintro ⟨r, rfl, rfl⟩
    exact ⟨r, [], rfl, rfl, rfl⟩

theorem yields_exchange {destination : SocketAddr} {capacity : ℕ} :
    Yields (exchange destination request capacity) t out
      ↔ ∃ r : ControlReply, t = [(.exchange destination request capacity, r)] ∧ r.reply = out := by
  simp only [exchange, yields_perform_bind, yields_pure]
  constructor
  · rintro ⟨r, _, rfl, rfl, rfl⟩
    exact ⟨r, rfl, rfl⟩
  · rintro ⟨r, rfl, rfl⟩
    exact ⟨r, [], rfl, rfl, rfl⟩

/-- **Before each step the adapter asks whether to go on**: it stops there,
cancelled, or goes on. Asking exchanges nothing. -/
theorem yields_unlessCancelled {α : Type} {stop go : Control α} {a : α}
    (h : Yields (do if ← askCancelled then stop else go) t a) :
    ∃ u, exchanges t = exchanges u ∧ ((¬ Uncancelled t ∧ Yields stop u a)
      ∨ ((Uncancelled t → Uncancelled u) ∧ Yields go u a)) := by
  obtain ⟨t₁, u, c, rfl, hc, h⟩ := yields_bind.mp h
  obtain ⟨r, rfl, rfl⟩ := yields_askCancelled.mp hc
  refine ⟨u, rfl, ?_⟩
  cases hr : r.isCancelled with
  | true =>
    refine .inl ⟨fun hun => ?_, by rwa [hr] at h⟩
    have := hun _ (List.mem_append_left _ (List.mem_singleton_self _))
    exact absurd (hr.symm.trans this) (by decide)
  | false => exact .inr ⟨fun hun => ((uncancelled_append _ _).mp hun).2, by rwa [hr] at h⟩

/-- One request was handed over, and what the adapter has of the reply is
what came back. -/
def Heard (destination : SocketAddr) (request : RouterRequest)
    (t : List (ControlCall × ControlReply)) (out : Except ControlRefusal (List UInt8)) : Prop :=
  ∃ x, exchanges t = [x] ∧ x.destination = destination ∧ x.request = request
    ∧ ∀ body, out = .ok body → x.reply = .ok body

theorem yields_afterExchange {reply : Except ControlRefusal (List UInt8)}
    (h : Yields (afterExchange reply) t out) :
    exchanges t = [] ∧ ∀ body, out = .ok body → reply = .ok body := by
  cases reply with
  | error refusal =>
    obtain ⟨rfl, rfl⟩ := yields_pure.mp h
    exact ⟨rfl, nofun⟩
  | ok body =>
    obtain ⟨u, hu, ⟨-, h⟩ | ⟨-, h⟩⟩ := yields_unlessCancelled h
    · obtain ⟨rfl, rfl⟩ := yields_pure.mp h
      exact ⟨hu, nofun⟩
    · split at h
      · obtain ⟨rfl, rfl⟩ := yields_pure.mp h
        exact ⟨hu, nofun⟩
      · obtain ⟨rfl, rfl⟩ := yields_pure.mp h
        exact ⟨hu, fun _ h => h⟩

/-- **An exchange with the gateway**: nothing was handed over and there is
no reply, or the request was. An adapter that is not cancelled hands over
every request of a proper size. -/
theorem yields_exchangeWithGateway {gateway : SelectedGateway}
    (h : Yields (exchangeWithGateway gateway request) t out) :
    (exchanges t = [] ∧ (∃ refusal, out = .error refusal)
        ∧ (Uncancelled t → request.bytes = [] ∨ request.bytes.length > controlMaxBytes))
      ∨ Heard ⟨gateway.gateway, routerControlPort⟩ request t out := by
  obtain ⟨u, hu, ⟨hstop, h⟩ | ⟨-, h⟩⟩ := yields_unlessCancelled h
  · obtain ⟨rfl, rfl⟩ := yields_pure.mp h
    exact .inl ⟨hu, ⟨_, rfl⟩, fun hun => absurd hun hstop⟩
  · split at h
    next hempty =>
      obtain ⟨rfl, rfl⟩ := yields_pure.mp h
      exact .inl ⟨hu, ⟨_, rfl⟩, fun _ => .inl hempty⟩
    · split at h
      next hlong =>
        obtain ⟨rfl, rfl⟩ := yields_pure.mp h
        exact .inl ⟨hu, ⟨_, rfl⟩, fun _ => .inr hlong⟩
      · obtain ⟨t₁, t₂, reply, rfl, hex, hafter⟩ := yields_bind.mp h
        obtain ⟨r, rfl, rfl⟩ := yields_exchange.mp hex
        obtain ⟨hnone, hbody⟩ := yields_afterExchange hafter
        refine .inr ⟨⟨_, request, r.reply⟩, ?_, rfl, rfl, hbody⟩
        rw [hu, exchanges_append, hnone, List.append_nil]
        rfl

theorem exists_afterSoap (reply : Except ControlRefusal (List UInt8)) :
    ∃ out, afterSoap reply = .exchanged out ∧ ∀ body, out = .ok body → reply = .ok body := by
  cases reply with
  | error refusal => exact ⟨_, rfl, nofun⟩
  | ok body =>
    by_cases hfull : body.length ≥ upnpSoapMaxBytes
    · exact ⟨.error .bounded, if_pos hfull, nofun⟩
    · exact ⟨.ok body, if_neg hfull, fun _ h => h⟩

/-- **A SOAP exchange**: it was refused and nothing was handed over, or the
request was. An adapter that is not cancelled hands over every request of a
proper size whose target is at the gateway. -/
theorem yields_exchangeUpnpSoap {urls : UrlParser} {gateway : SelectedGateway}
    {location : List UInt8} {out : UpnpSoapReply}
    (h : Yields (exchangeUpnpSoap urls gateway location request) t out) :
    (exchanges t = [] ∧ (∃ refusal, out = .refused refusal)
        ∧ (Uncancelled t → request.bytes = [] ∨ request.bytes.length > upnpSoapMaxBytes
          ∨ ∃ refusal, upnpLocation urls gateway location = .error refusal))
      ∨ ∃ destination, upnpLocation urls gateway location = .ok destination
        ∧ request.bytes ≠ [] ∧ request.bytes.length ≤ upnpSoapMaxBytes
        ∧ ∃ reply, out = .exchanged reply ∧ Heard destination request t reply := by
  unfold exchangeUpnpSoap at h
  split at h
  next hempty =>
    obtain ⟨rfl, rfl⟩ := yields_pure.mp h
    exact .inl ⟨rfl, ⟨_, rfl⟩, fun _ => .inl hempty⟩
  next hne =>
    split at h
    next hlong =>
      obtain ⟨rfl, rfl⟩ := yields_pure.mp h
      exact .inl ⟨rfl, ⟨_, rfl⟩, fun _ => .inr (.inl hlong)⟩
    next hshort =>
      obtain ⟨u, hu, ⟨hstop, h⟩ | ⟨-, h⟩⟩ := yields_unlessCancelled h
      · obtain ⟨rfl, rfl⟩ := yields_pure.mp h
        exact .inl ⟨hu, ⟨_, rfl⟩, fun hun => absurd hun hstop⟩
      · cases hloc : upnpLocation urls gateway location with
        | error refusal =>
          rw [hloc] at h
          obtain ⟨rfl, rfl⟩ := yields_pure.mp h
          exact .inl ⟨hu, ⟨_, rfl⟩, fun _ => .inr (.inr ⟨refusal, rfl⟩)⟩
        | ok destination =>
          rw [hloc] at h
          obtain ⟨t₁, t₂, reply, rfl, hex, hafter⟩ := yields_bind.mp h
          obtain ⟨r, rfl, rfl⟩ := yields_exchange.mp hex
          obtain ⟨rfl, rfl⟩ := yields_pure.mp hafter
          refine .inr ⟨destination, rfl, hne, Nat.le_of_not_lt hshort, ?_⟩
          obtain ⟨reply, hreply, hbody⟩ := exists_afterSoap r.reply
          refine ⟨reply, hreply, ⟨destination, request, r.reply⟩, ?_, rfl, rfl, hbody⟩
          rw [hu, exchanges_append]
          rfl
