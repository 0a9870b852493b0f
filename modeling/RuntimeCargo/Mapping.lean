import RuntimeCargo.Gateway
import RuntimeCargo.Traversal

/-!
# Port mappings over PCP and NAT-PMP

A create asks the gateway for a mapping of one high port for sixty seconds.
The reply is believed only if it belongs to the request: the same nonce,
protocol and port over PCP, the same protocol and port over NAT-PMP. What
it then says is told apart – an explicit error has created nothing, a
finite grant below the caller's ceiling is adopted, and a grant of zero or
above the ceiling is refused and, where the caller holds the reservation
of this gateway, deleted at once. Whatever cannot be read leaves the
outcome of the creation unknown.

The adapters return an *effect*: what came of the call, what is to be
cleaned up, and, if there is one, the handle of the mapping. A handle can
be deleted later (`deletePacket`, `sendDelete`).
-/

/-! ## Limits -/

/-- `MAPPING_MAXIMUM_LEASE_SEC`. -/
def mappingMaximumLeaseSec : ℕ := 120

/-- `MAPPING_HIGH_PORT_MIN`. -/
def mappingHighPortMin : ℕ := 1024

/-- `PCP_MAP_PACKET_BYTES`. -/
def pcpMapPacketBytes : ℕ := 60

/-- `NATPMP_MAP_REQUEST_BYTES`. -/
def natpmpMapRequestBytes : ℕ := 12

/-- `NATPMP_MAP_RESPONSE_BYTES`. -/
def natpmpMapResponseBytes : ℕ := 16

/-! ## Handles, reservations and effects -/

inductive MappingRefusal where
  | lowPort | badClientAddress | badLifetimeCeiling | trivialNonce | missingReservation
  | reservationGatewayMismatch | ambiguousOwnership | denied | protocolUnsupported | conflict
  | rebooted | truncated | replayOrMismatch | overlongOrZeroGrant | lostResponse | cancelled
  | malformed
deriving DecidableEq

/-- The key under which a mapping is cleaned up. -/
structure OwnedMappingHandle where
  protocol : RouterProtocol
  portProtocol : MappedPortProtocol
  internalPort : ℕ
  externalPort : ℕ
  client : Ipv4Addr
  grantedLifetimeSec : ℕ
  epoch : ℕ
  nonce : Option MappingNonce
  reservationDigest : Option Digest
  cleanupAuthorized : Bool
  externalAddress : Option Ipv4Addr

/-- The proof that the external endpoint of a gateway was reserved for this
experiment. -/
structure ExclusiveReservation where
  gateway : Ipv4Addr
  digest : Digest
  usable : usableIpv4 gateway = true
  nonzero : digest ≠ Vector.replicate 32 0

namespace ExclusiveReservation

/-- `ExclusiveReservation::new`. -/
def new (gateway : Ipv4Addr) (digest : Digest) : Option ExclusiveReservation :=
  if h : usableIpv4 gateway = true ∧ digest ≠ Vector.replicate 32 0 then
    some ⟨gateway, digest, h.1, h.2⟩
  else none

/-- `authorizes`. -/
def authorizes (reservation : ExclusiveReservation) (gateway : SelectedGateway) : Bool :=
  reservation.gateway = gateway.gateway

/-- `matches_binding`. -/
def matchesBinding (reservation : ExclusiveReservation) (gateway : SelectedGateway)
    (digest : String) : Bool :=
  reservation.authorizes gateway
    && digest = "sha256:" ++ hexEncode reservation.digest.toList

end ExclusiveReservation

/-- **What came of a call.** -/
structure MappingEffect where
  protocol : RouterProtocol
  outcome : TraversalOutcome
  cleanup : TraversalCleanup
  error : Option TraversalErrorClass
  refusal : Option MappingRefusal
  handle : Option OwnedMappingHandle
  grantedLifetimeSec : Option ℕ
  epoch : Option ℕ
  assignedPort : Option ℕ
  portChanged : Bool
  leaseClamped : Bool
  gatewayRebooted : Bool
  requestsSent : ℕ

/-- `blank`. -/
def blank (protocol : RouterProtocol) : MappingEffect where
  protocol := protocol
  outcome := .failed
  cleanup := .notCreated
  error := none
  refusal := none
  handle := none
  grantedLifetimeSec := none
  epoch := none
  assignedPort := none
  portChanged := false
  leaseClamped := false
  gatewayRebooted := false
  requestsSent := 0

/-- `local_refusal`: nothing was sent. -/
def localRefusal (protocol : RouterProtocol) (refusal : MappingRefusal) : MappingEffect :=
  { blank protocol with
    refusal := some refusal
    outcome := match refusal with
      | .missingReservation | .reservationGatewayMismatch | .ambiguousOwnership | .lowPort =>
        .unsupportedSafeOwnership
      | .badLifetimeCeiling => .unsupportedFiniteLease
      | _ => .failed
    cleanup := .notCreated }

/-- `lost`: the create may or may not have been applied. -/
def lost (protocol : RouterProtocol) (sent : ℕ) (refusal : MappingRefusal)
    (error : TraversalErrorClass) : MappingEffect :=
  { blank protocol with
    outcome := .creationOutcomeUnknown
    cleanup := .expiryUnknown
    refusal := some refusal
    error := some error
    requestsSent := sent }

/-- `explicit`: the gateway has said no. -/
def explicit (effect : MappingEffect) (refusal : MappingRefusal) (error : TraversalErrorClass) :
    MappingEffect :=
  { effect with
    outcome := .failed
    cleanup := .notCreated
    refusal := some refusal
    error := some error
    handle := none }

/-- `transport_refusal`. -/
def transportRefusal : ControlRefusal → MappingRefusal
  | .cancelled => .cancelled
  | .oversize | .bounded => .malformed
  | .unsupported | .wrongTarget => .lostResponse

/-- `transport_error`. -/
def transportError : ControlRefusal → TraversalErrorClass
  | .cancelled | .bounded => .timeout
  | _ => .invalidResponse

/-- `lease_ceiling`. -/
def leaseCeiling (maximumLeaseSec : ℕ) : Option ℕ :=
  if mappingRequestedLeaseSec ≤ maximumLeaseSec ∧ maximumLeaseSec ≤ mappingMaximumLeaseSec then
    some maximumLeaseSec
  else none

/-- `rebooted`. -/
def rebooted (previous : Option ℕ) (epoch : ℕ) : Bool := previous.any (epoch < ·)

/-! ## Reading a packet -/

inductive DecodeFault where
  | truncated | oversize | malformed

inductive ServerClass where
  | success | denied | unsupported | conflict | failed
deriving DecidableEq

/-- A MAP response. -/
structure Parsed where
  versionOk : Bool
  opcodeOk : Bool
  result : ℕ
  lifetime : ℕ
  epoch : ℕ
  protocol : UInt8
  internalPort : ℕ
  assignedPort : ℕ
  nonce : Option (List UInt8)
  assignedIp : Option Ipv4Addr

/-- The byte at an index. -/
def byteAt (bytes : List UInt8) (index : ℕ) : UInt8 := bytes.getD index 0

/-- `u16_at`. -/
def u16At (bytes : List UInt8) (offset : ℕ) : ℕ :=
  (byteAt bytes offset).toNat * 256 + (byteAt bytes (offset + 1)).toNat

/-- `u32_at`. -/
def u32At (bytes : List UInt8) (offset : ℕ) : ℕ :=
  u16At bytes offset * 65536 + u16At bytes (offset + 2)

/-- `mapped_ipv4`. -/
def mappedIpv4 (bytes : List UInt8) : Option Ipv4Addr :=
  if bytes.length ≠ 16 ∨ bytes.take 10 ≠ List.replicate 10 0
      ∨ (bytes.drop 10).take 2 ≠ [0xff, 0xff] then none
  else
    let addr : Ipv4Addr := ⟨byteAt bytes 12, byteAt bytes 13, byteAt bytes 14, byteAt bytes 15⟩
    if usableIpv4 addr then some addr else none

/-- `decode_pcp`. -/
def decodePcp (bytes : List UInt8) : Except DecodeFault Parsed :=
  if bytes.length < pcpMapPacketBytes then .error .truncated
  else if bytes.length > pcpMapPacketBytes then .error .oversize
  else .ok
    { versionOk := byteAt bytes 0 = 2
      opcodeOk := byteAt bytes 1 = 0x81
      result := (byteAt bytes 3).toNat
      lifetime := u32At bytes 4
      epoch := u32At bytes 8
      protocol := byteAt bytes 36
      internalPort := u16At bytes 40
      assignedPort := u16At bytes 42
      nonce := some ((bytes.drop 24).take 12)
      assignedIp := mappedIpv4 ((bytes.drop 44).take 16) }

/-- `decode_natpmp`. -/
def decodeNatpmp (bytes : List UInt8) : Except DecodeFault Parsed :=
  if bytes.length < natpmpMapResponseBytes then .error .truncated
  else if bytes.length > natpmpMapResponseBytes then .error .oversize
  else
    let opcode := byteAt bytes 1
    .ok
      { versionOk := byteAt bytes 0 = 0
        opcodeOk := opcode &&& 0x80 = 0x80
          && (MappedPortProtocol.fromNatpmp (opcode &&& 0x7f)).isSome
        result := u16At bytes 2
        lifetime := u32At bytes 12
        epoch := u32At bytes 4
        protocol := opcode &&& 0x7f
        internalPort := u16At bytes 8
        assignedPort := u16At bytes 10
        nonce := none
        assignedIp := none }

/-- `pcp_class`. -/
def pcpClass (code : ℕ) : ServerClass :=
  if code = 0 then .success
  else if code = 2 then .denied
  else if code = 1 ∨ code = 4 ∨ code = 5 ∨ code = 9 then .unsupported
  else if code = 11 then .conflict
  else .failed

/-- `natpmp_class`. -/
def natpmpClass (code : ℕ) : ServerClass :=
  if code = 0 then .success
  else if code = 2 then .denied
  else if code = 1 ∨ code = 5 then .unsupported
  else if code = 4 then .conflict
  else .failed

/-! ## Deleting a mapping -/

/-- `delete_packet`. -/
def deletePacket (handle : OwnedMappingHandle) : RouterRequest :=
  match handle.protocol with
  | .pcp => .pcp handle.client handle.portProtocol handle.internalPort handle.externalPort
      (handle.nonce.getD (Vector.replicate 12 0)) 0
  | .natPmp => .natPmp handle.portProtocol handle.internalPort 0 0
  | .upnpIgd => .empty

/-- Whether a reply to a delete belongs to the mapping. -/
def deleteMatches (handle : OwnedMappingHandle) (parsed : Parsed) : Bool :=
  match handle.protocol with
  | .pcp => parsed.versionOk && parsed.opcodeOk
      && parsed.nonce = handle.nonce.map Vector.toList
      && parsed.internalPort = handle.internalPort && parsed.protocol = handle.portProtocol.pcp
  | .natPmp => parsed.versionOk && parsed.opcodeOk && parsed.internalPort = handle.internalPort
      && MappedPortProtocol.fromNatpmp parsed.protocol = some handle.portProtocol
  | .upnpIgd => false

/-- The packet of a protocol. -/
def decodeFor (protocol : RouterProtocol) (body : List UInt8) : Except DecodeFault Parsed :=
  match protocol with
  | .pcp => decodePcp body
  | .natPmp => decodeNatpmp body
  | .upnpIgd => .error .malformed

/-- The class of a result code. -/
def classFor (protocol : RouterProtocol) (result : ℕ) : ServerClass :=
  match protocol with
  | .pcp => pcpClass result
  | .natPmp => natpmpClass result
  | .upnpIgd => .failed

/-- What `send_delete` starts from. -/
def deleteStart (handle : OwnedMappingHandle) (alreadySent : ℕ) : MappingEffect :=
  let effect := { blank handle.protocol with
    handle := some handle
    requestsSent := alreadySent
    grantedLifetimeSec := some handle.grantedLifetimeSec
    assignedPort := some handle.externalPort
    epoch := some handle.epoch }
  if handle.grantedLifetimeSec = 0 ∨ handle.grantedLifetimeSec > mappingMaximumLeaseSec then
    { effect with
      outcome := .unsupportedFiniteLease
      refusal := some .overlongOrZeroGrant
      error := some .leaseRefused }
  else effect

/-- No delete was sent. A finite grant is still waiting to expire. -/
def deleteCancelled (handle : OwnedMappingHandle) (alreadySent : ℕ) : MappingEffect :=
  let effect := { deleteStart handle alreadySent with refusal := some .cancelled }
  if alreadySent = 0 ∧ 1 ≤ handle.grantedLifetimeSec
      ∧ handle.grantedLifetimeSec ≤ mappingMaximumLeaseSec then
    { effect with outcome := .failed, cleanup := .leaseExpiryPending }
  else { effect with outcome := .expiryUnknown, cleanup := .expiryUnknown }

/-- What a delete came to, from the reply. -/
def deleteJudged (handle : OwnedMappingHandle) (previousEpoch : Option ℕ) (alreadySent : ℕ)
    (reply : Except ControlRefusal (List UInt8)) : MappingEffect :=
  let effect := { deleteStart handle alreadySent with requestsSent := alreadySent + 1 }
  let unread := { effect with
    outcome := .expiryUnknown
    cleanup := .expiryUnknown
    error := some .cleanupFailed }
  match reply with
  | .error refusal => { unread with refusal := some (transportRefusal refusal) }
  | .ok body =>
    match decodeFor handle.protocol body with
    | .error _ => { unread with refusal := some .truncated }
    | .ok parsed =>
      let rebooted := rebooted previousEpoch parsed.epoch
      if !deleteMatches handle parsed || rebooted then
        { unread with
          gatewayRebooted := rebooted
          refusal := some (if rebooted then .rebooted else .ambiguousOwnership)
          epoch := some parsed.epoch }
      else if classFor handle.protocol parsed.result = .success ∧ parsed.lifetime = 0 then
        { effect with
          epoch := some parsed.epoch
          cleanup := .confirmedDeleted
          outcome := if effect.refusal = none then .succeeded else effect.outcome
          error := none }
      else
        { effect with
          epoch := some parsed.epoch
          cleanup := .deleteFailed
          refusal := some .denied
          error := some .cleanupFailed }

/-- `send_delete`. -/
def sendDelete (handle : OwnedMappingHandle) (gateway : SelectedGateway) (request : RouterRequest)
    (previousEpoch : Option ℕ) (alreadySent : ℕ) : Control MappingEffect := do
  if ← askCancelled then return deleteCancelled handle alreadySent
  else
    let reply ← exchangeWithGateway gateway request
    return deleteJudged handle previousEpoch alreadySent reply

/-! ## Creating a mapping -/

/-- What a create is about. -/
structure MapParts where
  protocol : RouterProtocol
  portProtocol : MappedPortProtocol
  internalPort : ℕ
  client : Ipv4Addr
  previousEpoch : Option ℕ
  ceiling : ℕ
  reservationAuthorizesDelete : Bool
  nonce : Option MappingNonce
  digest : Option Digest

/-- `correlated_handle`. -/
def correlatedHandle (parts : MapParts) (externalPort lifetime epoch : ℕ)
    (cleanupAuthorized : Bool) : OwnedMappingHandle where
  protocol := parts.protocol
  portProtocol := parts.portProtocol
  internalPort := parts.internalPort
  externalPort := externalPort
  client := parts.client
  grantedLifetimeSec := lifetime
  epoch := epoch
  nonce := parts.nonce
  reservationDigest := parts.digest
  cleanupAuthorized := cleanupAuthorized
  externalAddress := none

/-- A lease the caller can live with. -/
def finiteGrant (ceiling lifetime : ℕ) : Bool := 1 ≤ lifetime && lifetime ≤ ceiling

/-- A success that contradicts itself. -/
def selfContradiction (effect : MappingEffect) : MappingEffect :=
  { effect with
    outcome := .creationOutcomeUnknown
    cleanup := .expiryUnknown
    refusal := some .malformed
    error := some .invalidResponse }

/-- `adopt_or_refuse`. -/
def adoptOrRefuse (effect : MappingEffect) (parts : MapParts) (parsed : Parsed)
    (gateway : SelectedGateway) : Control MappingEffect :=
  if parsed.assignedIp = none ∧ parts.protocol = .pcp then return selfContradiction effect
  else if parsed.assignedPort = 0 ∧ finiteGrant parts.ceiling parsed.lifetime then
    return { selfContradiction effect with handle := none }
  else if !finiteGrant parts.ceiling parsed.lifetime then
    let handle := correlatedHandle parts parsed.assignedPort parsed.lifetime parsed.epoch
      parts.reservationAuthorizesDelete
    if !parts.reservationAuthorizesDelete then
      return { effect with
        handle := some handle
        outcome := .unsupportedSafeOwnership
        cleanup := .expiryUnknown
        refusal := some .ambiguousOwnership
        error := some .leaseRefused }
    else sendDelete handle gateway (deletePacket handle) (some parsed.epoch) effect.requestsSent
  else
    return { effect with
      outcome := .succeeded
      cleanup := .leaseExpiryPending
      refusal := none
      error := none
      handle := some { correlatedHandle parts parsed.assignedPort parsed.lifetime parsed.epoch true
        with externalAddress := parsed.assignedIp }
      portChanged := parsed.assignedPort ≠ parts.internalPort
      leaseClamped := parsed.lifetime < mappingRequestedLeaseSec }

/-- What a correlated reply tells: its epoch, lifetime and port. -/
def heard (parts : MapParts) (parsed : Parsed) : MappingEffect :=
  { blank parts.protocol with
    requestsSent := 1
    epoch := some parsed.epoch
    grantedLifetimeSec := some parsed.lifetime
    assignedPort := some parsed.assignedPort }

/-- A reply of another version or opcode. -/
def unsupportedReply (parts : MapParts) (parsed : Parsed) (gatewayRebooted : Bool) :
    MappingEffect :=
  { heard parts parsed with
    refusal := some .protocolUnsupported
    error := some .invalidResponse
    outcome := if parsed.result = 0 then .creationOutcomeUnknown else .failed
    cleanup := if parsed.result = 0 then .expiryUnknown else .notCreated
    gatewayRebooted := gatewayRebooted }

/-- A success after the gateway has restarted is not adopted. -/
def rebootedGrant (parts : MapParts) (parsed : Parsed) : MappingEffect :=
  { heard parts parsed with
    gatewayRebooted := true
    outcome := .expiryUnknown
    cleanup := .expiryUnknown
    refusal := some .rebooted
    handle := some
      (correlatedHandle parts parsed.assignedPort parsed.lifetime parsed.epoch false) }

/-- What is done with a reply that belongs to the create. -/
def afterCorrelated (parts : MapParts) (gateway : SelectedGateway)
    (classOf : ℕ → ServerClass) (parsed : Parsed) : Control MappingEffect :=
  let effect := heard parts parsed
  let gatewayRebooted := rebooted parts.previousEpoch parsed.epoch
  let refused (refusal : MappingRefusal) (error : TraversalErrorClass) : Control MappingEffect :=
    return { explicit effect refusal error with gatewayRebooted := gatewayRebooted }
  if !parsed.versionOk || !parsed.opcodeOk then
    return unsupportedReply parts parsed gatewayRebooted
  else match classOf parsed.result with
  | .denied => refused .denied .tokenRefused
  | .unsupported => refused .protocolUnsupported .invalidResponse
  | .conflict => refused .conflict .mappingConflict
  | .failed => refused .denied .invalidResponse
  | .success =>
    if gatewayRebooted && finiteGrant parts.ceiling parsed.lifetime && parsed.assignedPort ≠ 0 then
      return rebootedGrant parts parsed
    else do
      let adopted ← adoptOrRefuse effect parts parsed gateway
      return { adopted with gatewayRebooted := adopted.gatewayRebooted || gatewayRebooted }

/-- What is done with the reply to a create. -/
def afterCreate (parts : MapParts) (gateway : SelectedGateway)
    (decode : List UInt8 → Except DecodeFault (Parsed × Bool)) (classOf : ℕ → ServerClass) :
    Except ControlRefusal (List UInt8) → Control MappingEffect
  | .error refusal =>
    return lost parts.protocol 1 (transportRefusal refusal) (transportError refusal)
  | .ok body =>
    match decode body with
    | .error .truncated => return lost parts.protocol 1 .truncated .invalidResponse
    | .error _ => return lost parts.protocol 1 .malformed .invalidResponse
    | .ok (_, false) => return lost parts.protocol 1 .replayOrMismatch .invalidResponse
    | .ok (parsed, true) => afterCorrelated parts gateway classOf parsed

/-- `exchange_create`. -/
def exchangeCreate (parts : MapParts) (gateway : SelectedGateway) (request : RouterRequest)
    (decode : List UInt8 → Except DecodeFault (Parsed × Bool)) (classOf : ℕ → ServerClass) :
    Control MappingEffect := do
  if ← askCancelled then return localRefusal parts.protocol .cancelled
  else afterCreate parts gateway decode classOf (← exchangeWithGateway gateway request)

/-- A PCP mapping that is asked for. -/
structure PcpMap where
  localAddress : Ipv4Addr
  internalPort : UInt16
  protocol : MappedPortProtocol
  nonce : MappingNonce
  maximumLeaseSec : ℕ
  previousEpoch : Option ℕ
  exclusiveReservation : Option ExclusiveReservation

/-- A NAT-PMP mapping that is asked for. -/
structure NatPmpMap where
  internalPort : UInt16
  protocol : MappedPortProtocol
  maximumLeaseSec : ℕ
  previousEpoch : Option ℕ
  exclusiveReservation : Option ExclusiveReservation

namespace PcpMap

/-- The reservation, if it is one of this gateway. -/
def reservationFor (input : PcpMap) (gateway : SelectedGateway) : Option ExclusiveReservation :=
  input.exclusiveReservation.filter (·.authorizes gateway)

def parts (input : PcpMap) (gateway : SelectedGateway) (ceiling : ℕ) : MapParts where
  protocol := .pcp
  portProtocol := input.protocol
  internalPort := input.internalPort.toNat
  client := input.localAddress
  previousEpoch := input.previousEpoch
  ceiling := ceiling
  reservationAuthorizesDelete := (input.reservationFor gateway).isSome
  nonce := some input.nonce
  digest := (input.reservationFor gateway).map ExclusiveReservation.digest

/-- The create packet. -/
def request (input : PcpMap) : RouterRequest :=
  .pcp input.localAddress input.protocol input.internalPort.toNat input.internalPort.toNat
    input.nonce mappingRequestedLeaseSec

/-- A reply, and whether it belongs to the request. -/
def decode (input : PcpMap) (body : List UInt8) : Except DecodeFault (Parsed × Bool) :=
  (decodePcp body).map fun parsed =>
    (parsed, parsed.nonce = some input.nonce.toList && parsed.protocol = input.protocol.pcp
      && parsed.internalPort = input.internalPort.toNat)

end PcpMap

namespace NatPmpMap

def parts (input : NatPmpMap) (reservation : ExclusiveReservation) (ceiling : ℕ) : MapParts where
  protocol := .natPmp
  portProtocol := input.protocol
  internalPort := input.internalPort.toNat
  client := .unspecified
  previousEpoch := input.previousEpoch
  ceiling := ceiling
  reservationAuthorizesDelete := true
  nonce := none
  digest := some reservation.digest

@[inherit_doc PcpMap.request]
def request (input : NatPmpMap) : RouterRequest :=
  .natPmp input.protocol input.internalPort.toNat input.internalPort.toNat
    mappingRequestedLeaseSec

@[inherit_doc PcpMap.decode]
def decode (input : NatPmpMap) (body : List UInt8) : Except DecodeFault (Parsed × Bool) :=
  (decodeNatpmp body).map fun parsed =>
    (parsed, parsed.protocol = input.protocol.natpmp
      && parsed.internalPort = input.internalPort.toNat)

end NatPmpMap

/-- `map_pcp`. -/
def mapPcp (gateway : SelectedGateway) (input : PcpMap) : Control MappingEffect :=
  match leaseCeiling input.maximumLeaseSec with
  | none => return localRefusal .pcp .badLifetimeCeiling
  | some ceiling =>
    if input.internalPort.toNat < mappingHighPortMin then return localRefusal .pcp .lowPort
    else if !usableIpv4 input.localAddress then return localRefusal .pcp .badClientAddress
    else if input.nonce = Vector.replicate 12 0 then return localRefusal .pcp .trivialNonce
    else exchangeCreate (input.parts gateway ceiling) gateway input.request input.decode pcpClass

/-- `map_nat_pmp`. -/
def mapNatPmp (gateway : SelectedGateway) (input : NatPmpMap) : Control MappingEffect :=
  match leaseCeiling input.maximumLeaseSec with
  | none => return localRefusal .natPmp .badLifetimeCeiling
  | some ceiling =>
    if input.internalPort.toNat < mappingHighPortMin then return localRefusal .natPmp .lowPort
    else match input.exclusiveReservation with
    | none => return localRefusal .natPmp .missingReservation
    | some reservation =>
      if !reservation.authorizes gateway then
        return localRefusal .natPmp .reservationGatewayMismatch
      else
        exchangeCreate (input.parts reservation ceiling) gateway input.request input.decode
          natpmpClass
