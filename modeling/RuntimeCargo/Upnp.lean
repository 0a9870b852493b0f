import RuntimeCargo.Mapping
import RuntimeCargo.Soap

/-!
# Port mappings over UPnP

An internet gateway device keeps a table of mappings that anybody on the
network may read and change. A create therefore goes in three steps: the
exact entry is looked up and has to be absent, the mapping is added once,
and the entry is looked up again. Only if that second look shows this
client's own tuple is the mapping taken as owned; a usable lease is
adopted, and any other is deleted at once. A reply that is lost on the way
leaves the outcome unknown.

An owned mapping of any protocol is deleted through `deleteOwnedMapping`,
which first asks whether the handle may be deleted here at all.
-/

/-! ## What the replies say -/

/-- `UPNP_ABSENT`. -/
def upnpAbsent : ℕ := 714

/-- `UPNP_CONFLICT`. -/
def upnpConflict : ℕ := 718

/-- `UPNP_PERMANENT_ONLY`. -/
def upnpPermanentOnly : ℕ := 725

inductive Probe where
  | absent
  | present
  | unreadable (refusal : MappingRefusal)

/-- `classify_probe`. -/
def classifyProbe (bytes : List UInt8) : Probe :=
  match readSoap bytes with
  | .error _ => .unreadable .malformed
  | .ok view =>
    match view.response, view.errorCode with
    | some .fault, some code =>
      if code = upnpAbsent then .absent else .unreadable .ambiguousOwnership
    | some .get, none => .present
    | _, _ => .unreadable .malformed

inductive AddReply where
  | accepted
  | permanentOnly
  | conflict
  | rejected
  | unreadable (refusal : MappingRefusal)

/-- `classify_add`. -/
def classifyAdd (bytes : List UInt8) : AddReply :=
  match readSoap bytes with
  | .error _ => .unreadable .malformed
  | .ok view =>
    if view.response.isSome ∧ view.errorCode.isSome ∧ view.response ≠ some .fault then
      .unreadable .malformed
    else match view.errorCode with
    | some code =>
      if code = upnpPermanentOnly then .permanentOnly
      else if code = upnpConflict then .conflict
      else .rejected
    | none => if view.response = some .add then .accepted else .unreadable .malformed

inductive Confirm where
  | usable (lease : ℕ)
  | oursButUnusable (lease : ℕ)
  | notOurs
  | absent
  | unreadable

/-- `classify_confirm`. -/
def classifyConfirm (bytes : List UInt8) (client : Ipv4Addr) (port : ℕ)
    (protocol : MappedPortProtocol) (ceiling : ℕ) : Confirm :=
  match readSoap bytes with
  | .error _ => .unreadable
  | .ok view =>
    if view.response = some .fault ∧ view.errorCode = some upnpAbsent then .absent
    else if view.response ≠ some .get ∨ view.errorCode.isSome then .unreadable
    else match view.internalClient, view.internalPort, view.leaseSec, view.enabled with
    | some seenClient, some seenPort, some lease, some enabled =>
      if (view.protocol.any (· ≠ protocol)) ∨ seenClient ≠ client ∨ seenPort ≠ port then .notOurs
      else if enabled ∧ 1 ≤ lease ∧ lease ≤ ceiling then .usable lease
      else .oursButUnusable lease
    | _, _, _, _ => .unreadable

inductive DeleteAttempt where
  | notSent (refusal : MappingRefusal)
  | confirmed
  | rejected
  | unknown (refusal : MappingRefusal) (error : TraversalErrorClass)

/-- `interpret_delete`. -/
def interpretDelete (bytes : List UInt8) : DeleteAttempt :=
  match readSoap bytes with
  | .error _ => .unknown .malformed .cleanupFailed
  | .ok view =>
    if view.response = some .delete ∧ view.errorCode = none then .confirmed
    else if view.response = some .fault ∧ view.errorCode = some upnpAbsent then .confirmed
    else if view.errorCode.isSome then .rejected
    else .unknown .ambiguousOwnership .cleanupFailed

/-! ## One SOAP request -/

/-- `soap_request`. -/
def soapRequest (descriptor : IgdControlDescriptor) (action : SoapAction) :
    Except MappingRefusal RouterRequest :=
  let path := descriptor.pathAndQuery
  let host := descriptor.gateway.display ++ ascii ":" ++ decimal descriptor.port
  if path.head? ≠ some 0x2f ∨ path.any isControlOrSpace then .error .malformed
  else if host.any isControlOrSpace then .error .malformed
  else if (soapText descriptor action).length > upnpSoapMaxBytes then .error .malformed
  else .ok (.soap descriptor action)

/-- Nothing was sent, the request was sent and the reply is lost, or there
is a reply. -/
inductive Attempt where
  | notSent (refusal : MappingRefusal)
  | sent (refusal : MappingRefusal) (error : TraversalErrorClass)
  | body (bytes : List UInt8)

/-- A refusal is local; an error of the transport is a lost reply. -/
def attemptOf : UpnpSoapReply → Attempt
  | .exchanged (.ok bytes) => .body bytes
  | .refused .wrongTarget => .notSent .reservationGatewayMismatch
  | .refused .oversize => .notSent .malformed
  | .refused .unsupported => .notSent .malformed
  | .refused refusal => .notSent (transportRefusal refusal)
  | .exchanged (.error refusal) => .sent (transportRefusal refusal) (transportError refusal)

/-- The crates the adapter rests on. -/
structure UpnpHost where
  urls : UrlParser
  sha256 : List UInt8 → Digest

namespace UpnpHost

variable (host : UpnpHost)

/-- `attempt`. -/
def attempt (gateway : SelectedGateway) (descriptor : IgdControlDescriptor)
    (action : SoapAction) : Control Attempt := do
  if ← askCancelled then return .notSent .cancelled
  else match soapRequest descriptor action with
  | .error refusal => return .notSent refusal
  | .ok request =>
    return attemptOf (← exchangeUpnpSoap host.urls gateway descriptor.controlTarget request)

/-- `control_fingerprint`. -/
def controlFingerprint (descriptor : IgdControlDescriptor) : MappingNonce :=
  (host.sha256 (ascii descriptor.service.urn ++ ascii "|" ++ decimal descriptor.port ++ ascii "|"
    ++ descriptor.pathAndQuery)).take 12

/-- `control_matches`. -/
def controlMatches (gateway : SelectedGateway) (handle : OwnedMappingHandle)
    (control : IgdControlDescriptor) : Bool :=
  control.gateway = gateway.gateway && handle.nonce = some (host.controlFingerprint control)

/-! ## Deleting -/

/-- What came of the request to delete. -/
def deleteAttempted : Attempt → DeleteAttempt
  | .notSent refusal => .notSent refusal
  | .sent refusal error => .unknown refusal error
  | .body bytes => interpretDelete bytes

/-- `transmit_delete`. -/
def transmitDelete (gateway : SelectedGateway) (descriptor : IgdControlDescriptor)
    (handle : OwnedMappingHandle) : Control DeleteAttempt := do
  return deleteAttempted
    (← host.attempt gateway descriptor (.deletePortMapping handle.externalPort handle.portProtocol))

/-- `keep_ambiguous`. -/
def keepAmbiguous (effect : MappingEffect) : MappingEffect :=
  { effect with
    outcome := .unsupportedSafeOwnership
    cleanup := .expiryUnknown
    refusal := some .ambiguousOwnership
    requestsSent := 0 }

/-- What `delete_owned` starts from. -/
def ownedStart (handle : OwnedMappingHandle) : MappingEffect :=
  { blank handle.protocol with
    handle := some handle
    grantedLifetimeSec := some handle.grantedLifetimeSec
    assignedPort := some handle.externalPort }

/-- A lease that ends by itself. -/
def isFiniteLease (handle : OwnedMappingHandle) : Bool :=
  1 ≤ handle.grantedLifetimeSec && handle.grantedLifetimeSec ≤ mappingMaximumLeaseSec

/-- A grant that is none is reported as such, whatever comes of the delete. -/
def ownedRefused (handle : OwnedMappingHandle) : MappingEffect :=
  if isFiniteLease handle then ownedStart handle
  else
    { ownedStart handle with
      outcome := .unsupportedFiniteLease
      refusal := some .overlongOrZeroGrant
      error := some .leaseRefused }

/-- Cancelled before anything was sent. -/
def ownedCancelled (handle : OwnedMappingHandle) : MappingEffect :=
  { ownedRefused handle with
    refusal := some .cancelled
    requestsSent := 0
    outcome := if isFiniteLease handle then .failed else .expiryUnknown
    cleanup := if isFiniteLease handle then .leaseExpiryPending else .expiryUnknown }

/-- What the attempt to delete comes to. -/
def ownedJudged (handle : OwnedMappingHandle) : DeleteAttempt → MappingEffect
  | .notSent refusal =>
    { ownedRefused handle with
      outcome := .expiryUnknown
      cleanup := .expiryUnknown
      refusal := some refusal
      error := some .cleanupFailed
      requestsSent := 0 }
  | .confirmed =>
    { ownedRefused handle with
      cleanup := .confirmedDeleted
      requestsSent := 1
      error := none
      outcome := if (ownedRefused handle).refusal = none then .succeeded
        else (ownedRefused handle).outcome }
  | .rejected =>
    { ownedRefused handle with
      cleanup := .deleteFailed
      refusal := some .denied
      error := some .cleanupFailed
      requestsSent := 1
      outcome := if isFiniteLease handle then .failed else (ownedRefused handle).outcome }
  | .unknown refusal error =>
    { ownedRefused handle with
      outcome := .expiryUnknown
      cleanup := .expiryUnknown
      refusal := some refusal
      error := some error
      requestsSent := 1 }

/-- `delete_owned`. -/
def deleteOwned (gateway : SelectedGateway) (handle : OwnedMappingHandle)
    (control : Option IgdControlDescriptor) : Control MappingEffect :=
  match control with
  | none => return keepAmbiguous (ownedStart handle)
  | some control =>
    if handle.protocol ≠ .upnpIgd ∨ !host.controlMatches gateway handle control then
      return keepAmbiguous (ownedStart handle)
    else do
      if ← askCancelled then return ownedCancelled handle
      else return ownedJudged handle (← host.transmitDelete gateway control handle)

/-- `delete_allowed`. -/
def deleteAllowed (handle : OwnedMappingHandle) (gateway : SelectedGateway)
    (reservation : Option ExclusiveReservation) : Bool :=
  handle.cleanupAuthorized && match handle.protocol, handle.reservationDigest with
    | _, some digest => reservation.any fun reservation =>
        reservation.authorizes gateway && reservation.digest = digest
    | .pcp, none => true
    | _, none => false

/-- `delete_owned_mapping`. -/
def deleteOwnedMapping (gateway : SelectedGateway) (handle : OwnedMappingHandle)
    (reservation : Option ExclusiveReservation) (previousEpoch : Option ℕ)
    (control : Option IgdControlDescriptor) : Control MappingEffect :=
  if !deleteAllowed handle gateway reservation then
    return { blank handle.protocol with
      outcome := .unsupportedSafeOwnership
      cleanup := .expiryUnknown
      refusal := some .ambiguousOwnership
      handle := some handle }
  else if handle.protocol = .upnpIgd then host.deleteOwned gateway handle control
  else sendDelete handle gateway (deletePacket handle) previousEpoch 0

end UpnpHost

/-! ## Creating -/

/-- A UPnP mapping that is asked for. -/
structure UpnpMap where
  descriptor : IgdControlDescriptor
  localAddress : Ipv4Addr
  internalPort : UInt16
  protocol : MappedPortProtocol
  maximumLeaseSec : ℕ
  exclusiveReservation : Option ExclusiveReservation

namespace UpnpHost

variable (host : UpnpHost)

/-- `owned_handle`. -/
def ownedHandle (input : UpnpMap) (reservation : ExclusiveReservation) (lease : ℕ)
    (cleanupAuthorized : Bool) : OwnedMappingHandle where
  protocol := .upnpIgd
  portProtocol := input.protocol
  internalPort := input.internalPort.toNat
  externalPort := input.internalPort.toNat
  client := input.localAddress
  grantedLifetimeSec := lease
  epoch := 0
  nonce := some (host.controlFingerprint input.descriptor)
  reservationDigest := some reservation.digest
  cleanupAuthorized := cleanupAuthorized
  externalAddress := none

/-- `adopt`. -/
def adopt (input : UpnpMap) (reservation : ExclusiveReservation) (lease : ℕ) : MappingEffect :=
  { blank .upnpIgd with
    outcome := .succeeded
    cleanup := .leaseExpiryPending
    requestsSent := 3
    grantedLifetimeSec := some lease
    assignedPort := some input.internalPort.toNat
    leaseClamped := lease < mappingRequestedLeaseSec
    handle := some (host.ownedHandle input reservation lease true) }

/-- A create that ended before or at the reply to it. -/
def upnpEnd (outcome : TraversalOutcome) (cleanup : TraversalCleanup) (refusal : MappingRefusal)
    (error : Option TraversalErrorClass) (sent : ℕ) : MappingEffect :=
  { blank .upnpIgd with
    outcome := outcome
    cleanup := cleanup
    refusal := some refusal
    error := error
    requestsSent := sent }

/-- `existing_entry`. -/
def existingEntry : MappingEffect := upnpEnd .failed .notCreated .conflict (some .mappingConflict) 1

/-- `unread_probe`. -/
def unreadProbe (refusal : MappingRefusal) (error : TraversalErrorClass) : MappingEffect :=
  upnpEnd .unsupportedSafeOwnership .notCreated refusal (some error) 1

/-- `stopped_before_create_with`. -/
def stoppedBeforeCreateWith (refusal : MappingRefusal) : MappingEffect :=
  upnpEnd .failed .notCreated refusal none 1

/-- `permanent_only`. -/
def permanentOnly : MappingEffect :=
  upnpEnd .unsupportedFiniteLease .notCreated .overlongOrZeroGrant (some .leaseRefused) 2

/-- `add_conflict`. -/
def addConflict : MappingEffect := upnpEnd .failed .notCreated .conflict (some .mappingConflict) 2

/-- `add_rejected`. -/
def addRejected : MappingEffect := upnpEnd .failed .notCreated .denied (some .invalidResponse) 2

/-- `lost_create`. -/
def lostCreate (sent : ℕ) (refusal : MappingRefusal) (error : TraversalErrorClass) :
    MappingEffect :=
  upnpEnd .creationOutcomeUnknown .creationOutcomeUnknown refusal (some error) sent

/-- How the deletion of a lease that cannot be used is reported. -/
def unusableReport (maximumLeaseSec lease : ℕ) (deleted : MappingEffect) : MappingEffect :=
  let finite := 1 ≤ lease ∧ lease ≤ maximumLeaseSec ∧ lease ≤ mappingMaximumLeaseSec
  let refusal := if finite then MappingRefusal.denied else .overlongOrZeroGrant
  let effect := { deleted with
    requestsSent := deleted.requestsSent + 3
    outcome := if finite then .failed else .unsupportedFiniteLease }
  if deleted.cleanup = .confirmedDeleted then
    { effect with refusal := some refusal, error := none }
  else if deleted.refusal ≠ some .cancelled then
    { effect with refusal := some refusal, error := some .cleanupFailed }
  else effect

/-- `cleanup_unusable`. -/
def cleanupUnusable (gateway : SelectedGateway) (input : UpnpMap)
    (reservation : ExclusiveReservation) (lease : ℕ) : Control MappingEffect := do
  let handle := host.ownedHandle input reservation lease true
  let deleted ← host.deleteOwnedMapping gateway handle (some reservation) none
    (some input.descriptor)
  return unusableReport input.maximumLeaseSec lease deleted

/-- The second look at the entry. -/
def afterConfirm (gateway : SelectedGateway) (input : UpnpMap)
    (reservation : ExclusiveReservation) (ceiling : ℕ) : Attempt → Control MappingEffect
  | .notSent refusal => return lostCreate 3 refusal .invalidResponse
  | .sent refusal _ => return lostCreate 3 refusal .invalidResponse
  | .body bytes =>
    match classifyConfirm bytes input.localAddress input.internalPort.toNat input.protocol
      ceiling with
    | .usable lease => return host.adopt input reservation lease
    | .oursButUnusable lease => host.cleanupUnusable gateway input reservation lease
    | _ => return lostCreate 3 .ambiguousOwnership .invalidResponse

/-- The action that looks the entry up. -/
def probeAction (input : UpnpMap) : SoapAction :=
  .getSpecificPortMappingEntry input.internalPort.toNat input.protocol

/-- The action that adds the mapping. -/
def addAction (input : UpnpMap) : SoapAction :=
  .addPortMapping input.localAddress input.internalPort.toNat input.protocol

/-- What follows the reply to the add. -/
def afterAdd (gateway : SelectedGateway) (input : UpnpMap) (reservation : ExclusiveReservation)
    (ceiling : ℕ) : Attempt → Control MappingEffect
  | .notSent refusal => return stoppedBeforeCreateWith refusal
  | .sent refusal error => return lostCreate 2 refusal error
  | .body bytes =>
    match classifyAdd bytes with
    | .permanentOnly => return permanentOnly
    | .conflict => return addConflict
    | .rejected => return addRejected
    | .unreadable refusal => return lostCreate 2 refusal .invalidResponse
    | .accepted => do
      if ← askCancelled then return lostCreate 2 .cancelled .timeout
      else
        host.afterConfirm gateway input reservation ceiling
          (← host.attempt gateway input.descriptor (probeAction input))

/-- What follows the first look at the entry. -/
def afterProbe (gateway : SelectedGateway) (input : UpnpMap) (reservation : ExclusiveReservation)
    (ceiling : ℕ) : Attempt → Control MappingEffect
  | .notSent refusal => return localRefusal .upnpIgd refusal
  | .sent refusal error => return unreadProbe refusal error
  | .body bytes =>
    match classifyProbe bytes with
    | .present => return existingEntry
    | .unreadable refusal => return unreadProbe refusal .invalidResponse
    | .absent => do
      if ← askCancelled then return stoppedBeforeCreateWith .cancelled
      else
        host.afterAdd gateway input reservation ceiling
          (← host.attempt gateway input.descriptor (addAction input))

/-- `map_upnp`. -/
def mapUpnp (gateway : SelectedGateway) (input : UpnpMap) : Control MappingEffect :=
  match leaseCeiling input.maximumLeaseSec with
  | none => return localRefusal .upnpIgd .badLifetimeCeiling
  | some ceiling =>
    if input.internalPort.toNat < mappingHighPortMin then return localRefusal .upnpIgd .lowPort
    else if !usableIpv4 input.localAddress then return localRefusal .upnpIgd .badClientAddress
    else match input.exclusiveReservation with
    | none => return localRefusal .upnpIgd .missingReservation
    | some reservation =>
      if !reservation.authorizes gateway ∨ input.descriptor.gateway ≠ gateway.gateway then
        return localRefusal .upnpIgd .reservationGatewayMismatch
      else do
        host.afterProbe gateway input reservation ceiling
          (← host.attempt gateway input.descriptor (probeAction input))

end UpnpHost
