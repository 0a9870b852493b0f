import RuntimeCargo.MappingRuns
import RuntimeCargo.Traversal

/-!
# The mapping lifecycle

One authenticated session tries a few methods in turn. For each it binds a
fresh listener, measures the path without any help, asks the router for a
mapping, measures again through the mapping, deletes it and only then drops
the listener. A method that may have left something behind is the last one.

The session has budgets, and a part of them is set aside for deletes before
anything is sent. Every operation is charged before it starts. The adapters
know nothing of this: they talk through a transport (`BoundedControl`) that
asks the clock, asks whether to stop, and charges. It recognizes a delete
by its bytes, since an adapter may have to delete in the middle of a
create; a delete is charged to what was set aside, is made until the very
end and is not stopped.

All effects are those of a runtime that is injected, so that the lifecycle
is a program that calls it (`Runtime`), with any replies. The adapters'
programs are run inside it (`Program.simulate`).
-/

open Program (perform)

/-! ## The session -/

inductive MappingStop where
  | cancelled | expired | gracefulShutdown | deadline | budget | invalidBinding | unsupported
  | cleanupUncertain
deriving DecidableEq

/-- What the bootstrap and the operator say, apart from the grant. -/
structure MappingBindings where
  claimAuthorityDigest : String
  artifactDigest : String
  helper : TraversalHelperIdentity
  consentReference : String
  processorAllowlistDigest : String
  exclusiveReservationDigest : String

/-- **A session that was authenticated**: its descriptor is one of a mapping
run and was accepted, and the time was set aside from it. -/
structure MappingSession where
  descriptor : TraversalDescriptorV1
  consent : TraversalMappingConsent
  reservation : Reservation
  isMapping : descriptor.mode = .mapping
  hasConsent : descriptor.mapping = some consent
  valid : descriptor.validate = .ok ()
  reserve_eq : reservation.cleanupReserveMs = descriptor.budgets.cleanupReserveMs
  experiment_le : descriptor.budgets.experimentMs ≤ reservation.collectorEndMs
  end_le : reservation.collectorEndMs ≤ u64Max

namespace MappingSession

theorem validate_of_canStart {d : TraversalDescriptorV1} {nowMs jobExpiresAtMs reserve : ℕ}
    (h : d.canStart nowMs jobExpiresAtMs reserve = .ok ()) :
    d.validate = .ok () ∧ nowMs + d.budgets.experimentMs ≤ u64Max := by
  obtain ⟨_, hvalid, h⟩ := Except.bind_eq_ok.mp h
  obtain ⟨_, hvalidate, -⟩ := Except.bind_eq_ok.mp hvalid
  obtain ⟨finish, hfinish, -⟩ := Except.bind_eq_ok.mp h
  obtain ⟨rfl, hle⟩ := checkedAdd_eq_some (Option.okOr_eq_ok.mp hfinish)
  exact ⟨hvalidate, hle⟩

/-- Whether the grant is the one that was announced. -/
def isBound (d : TraversalDescriptorV1) (consent : TraversalMappingConsent)
    (bindings : MappingBindings) : Bool :=
  d.claimAuthorityDigest = bindings.claimAuthorityDigest
    && d.artifactDigest = bindings.artifactDigest
    && d.helperVersion = bindings.helper.version && d.helperDigest = bindings.helper.digest
    && consent.consentReference = bindings.consentReference
    && consent.processorAllowlistDigest = bindings.processorAllowlistDigest
    && consent.exclusiveReservationDigest = bindings.exclusiveReservationDigest

/-- `MappingSession::from_authenticated_bootstrap`. -/
def fromAuthenticatedBootstrap (descriptor : TraversalDescriptorV1) (bindings : MappingBindings)
    (nowMs jobExpiresAtMs : ℕ) : Except TraversalRefusal MappingSession :=
  match hstart : descriptor.canStart nowMs jobExpiresAtMs existingDeliveryReserveMs with
  | .error refusal => .error refusal
  | .ok () =>
    match hconsent : descriptor.mapping with
    | none => .error .invalidConsent
    | some consent =>
      if hmode : descriptor.mode = .mapping then
        if isBound descriptor consent bindings then
          .ok
            { descriptor
              consent
              reservation :=
                { experimentMs := descriptor.budgets.experimentMs
                  cleanupReserveMs := descriptor.budgets.cleanupReserveMs
                  deliveryReserveMs := existingDeliveryReserveMs
                  collectorEndMs := nowMs + descriptor.budgets.experimentMs
                  deliveryEndMs := nowMs + descriptor.budgets.experimentMs
                    + existingDeliveryReserveMs }
              isMapping := hmode
              hasConsent := hconsent
              valid := (validate_of_canStart hstart).1
              reserve_eq := rfl
              experiment_le := Nat.le_add_left _ _
              end_le := (validate_of_canStart hstart).2 }
        else .error .invalidBinding
      else .error .invalidBinding

variable (session : MappingSession)

/-- What is known of the descriptor. -/
theorem sound : session.descriptor.Sound session.consent :=
  TraversalDescriptorV1.sound_of_validate session.isMapping session.hasConsent session.valid

/-- The end of everything. -/
def collectorEnd : ℕ := session.reservation.collectorEndMs

/-- The end of ordinary work. -/
def activeEnd : ℕ := session.reservation.collectorEndMs - session.reservation.cleanupReserveMs

theorem activeEnd_le : session.activeEnd ≤ session.collectorEnd := Nat.sub_le _ _

end MappingSession

/-- One method: a protocol, and which port is mapped. -/
structure MappingMethodPlan where
  protocol : RouterProtocol
  transport : MappedPortProtocol
deriving DecidableEq

/-- The gateway, its reservation, and what discovery has found and spent. -/
structure MappingGateway where
  gateway : SelectedGateway
  reservation : ExclusiveReservation
  localAddress : Ipv4Addr
  externalAddress : Option Ipv4Addr
  igd : Option IgdControlDescriptor
  discoveryDatagrams : ℕ
  discoveryControlRequests : ℕ

/-! ## The runtime -/

/-- A listener that was bound. -/
structure MappingListener where
  port : UInt16
deriving DecidableEq

/-- A path that is to be measured. -/
structure MappingPathCheck where
  stage : TraversalStage
  method : TraversalMethod
  transport : TraversalTransport
  family : TraversalFamily
  port : ℕ
deriving DecidableEq

/-- What a measurement came to. -/
structure MappingPathEvidence where
  transcript : TraversalTranscriptV1
  echoedChallenge : Option Digest
deriving DecidableEq

/-- What the lifecycle asks of the runtime. A listener is dropped where it
goes out of scope. -/
inductive RuntimeCall where
  | nowMs
  | observedAddress
  | stop
  | nonce
  | bindFresh (transport : MappedPortProtocol)
  | pathCheck (listener : MappingListener) (check : MappingPathCheck) (deadlineMs : ℕ)
  | attestPath (transcript : TraversalTranscriptV1) (deadlineMs : ℕ)
  | routerExchange (destination : SocketAddr) (request : RouterRequest) (capacity deadlineMs : ℕ)
  | dropListener (listener : MappingListener)
deriving DecidableEq

/-- What it is told. -/
inductive RuntimeReply where
  | time (ms : ℕ)
  | address (address : Ipv4Addr)
  | stopped (stop : Option MappingStop)
  | drawn (nonce : Except MappingStop MappingNonce)
  | bound (listener : Except MappingStop MappingListener)
  | measured (evidence : Except MappingStop MappingPathEvidence)
  | attested (result : Except MappingStop Unit)
  | exchanged (reply : Except ControlRefusal (List UInt8))
  | dropped
deriving DecidableEq

namespace RuntimeReply

/-- The reply to `now_ms`. -/
def ms : RuntimeReply → ℕ
  | time ms => ms
  | _ => 0

/-- The reply to `observed_address`. -/
def observed : RuntimeReply → Ipv4Addr
  | .address a => a
  | _ => .unspecified

/-- The reply to `stop`. -/
def stop : RuntimeReply → Option MappingStop
  | stopped stop => stop
  | _ => none

/-- The reply to `nonce`. -/
def nonce : RuntimeReply → Except MappingStop MappingNonce
  | drawn nonce => nonce
  | _ => .error .unsupported

/-- The reply to `bind_fresh`. -/
def listener : RuntimeReply → Except MappingStop MappingListener
  | bound listener => listener
  | _ => .error .unsupported

/-- The reply to `path_check`. -/
def evidence : RuntimeReply → Except MappingStop MappingPathEvidence
  | measured evidence => evidence
  | _ => .error .unsupported

/-- The reply to `attest_path`. -/
def attestation : RuntimeReply → Except MappingStop Unit
  | attested result => result
  | _ => .error .unsupported

/-- The reply to `router_exchange`. -/
def reply : RuntimeReply → Except ControlRefusal (List UInt8)
  | exchanged reply => reply
  | _ => .error .bounded

end RuntimeReply

/-- A program that calls the runtime. -/
abbrev Runtime := Program RuntimeCall RuntimeReply

/-! ## What is reported -/

structure MappingPathSummary where
  stage : TraversalStage
  outcome : TraversalOutcome
  error : Option TraversalErrorClass

structure MappingMethodReport where
  plan : MappingMethodPlan
  baseline : Option MappingPathSummary := none
  create : Option TraversalOutcome := none
  grantedLeaseSec : Option ℕ := none
  verification : Option MappingPathSummary := none
  cleanup : TraversalCleanup := .notCreated
  expiryUnknown : Bool := false
  stopped : Option MappingStop := none

structure MappingRunReport where
  discovery : TraversalOutcome := .notStarted
  methods : List MappingMethodReport := []
  deferredMethods : ℕ := 0
  stopped : Option MappingStop := none
  sentDatagrams : ℕ := 0
  controlRequests : ℕ := 0
  externalDialbacks : ℕ := 0

/-! ## Accounting -/

/-- `METHOD_WINDOW_MS`. -/
def methodWindowMs : ℕ := 8000

/-- What is left, and what was spent. How often a charge was refused is not
kept by the code; it is here so that one can say that none was. -/
structure Accounting where
  ordinaryDatagrams : ℕ
  ordinaryControl : ℕ
  cleanupDatagrams : ℕ
  cleanupControl : ℕ
  dialbacks : ℕ
  sentDatagrams : ℕ := 0
  controlRequests : ℕ := 0
  externalDialbacks : ℕ := 0
  datagramBytes : ℕ
  refusals : ℕ := 0

/-- Whether a protocol is spoken in datagrams. -/
def RouterProtocol.isUdp (protocol : RouterProtocol) : Bool := protocol ≠ .upnpIgd

namespace MappingMethodPlan

/-- The ordinary control requests of a method. -/
def controls (plan : MappingMethodPlan) : ℕ := 4 + if plan.protocol.isUdp then 1 else 3

/-- The ordinary datagrams of a method. -/
def datagrams (plan : MappingMethodPlan) : ℕ :=
  plan.protocol.isUdp.toNat + 2 * (decide (plan.transport = .udp)).toNat

end MappingMethodPlan

namespace Accounting

/-- `Accounting::new`. -/
def new (b : TraversalBudgets) : Accounting where
  ordinaryDatagrams := b.outboundDatagrams - b.cleanupDatagrams
  ordinaryControl := b.controlRequests - b.cleanupControlRequests
  cleanupDatagrams := b.cleanupDatagrams
  cleanupControl := b.cleanupControlRequests
  dialbacks := b.externalDialbacks
  datagramBytes := b.datagramBytes

/-- `charge`, from the pool for deletes or from the ordinary one: whether it
was accepted, and what is left. -/
def charge (a : Accounting) (datagrams controls dialbacks : ℕ) (cleanup : Bool) :
    Bool × Accounting :=
  let d := if cleanup then a.cleanupDatagrams else a.ordinaryDatagrams
  let c := if cleanup then a.cleanupControl else a.ordinaryControl
  if d < datagrams ∨ c < controls ∨ a.dialbacks < dialbacks then
    (false, { a with refusals := a.refusals + 1 })
  else
    (true,
      { a with
        ordinaryDatagrams := if cleanup then a.ordinaryDatagrams else a.ordinaryDatagrams - datagrams
        ordinaryControl := if cleanup then a.ordinaryControl else a.ordinaryControl - controls
        cleanupDatagrams := if cleanup then a.cleanupDatagrams - datagrams else a.cleanupDatagrams
        cleanupControl := if cleanup then a.cleanupControl - controls else a.cleanupControl
        dialbacks := a.dialbacks - dialbacks
        sentDatagrams := a.sentDatagrams + datagrams
        controlRequests := a.controlRequests + controls
        externalDialbacks := a.externalDialbacks + dialbacks })

/-- `fits`: there is enough for some methods, deletes included. -/
def fits (a : Accounting) (plans : List MappingMethodPlan) (availableMs : ℕ) : Bool :=
  let controls := (plans.map MappingMethodPlan.controls).sum
  let datagrams := (plans.map MappingMethodPlan.datagrams).sum
  let deletesUdp := plans.countP (·.protocol.isUdp)
  controls ≤ a.ordinaryControl && datagrams ≤ a.ordinaryDatagrams
    && plans.length ≤ a.cleanupControl && deletesUdp ≤ a.cleanupDatagrams
    && 2 * plans.length ≤ a.dialbacks && plans.length * methodWindowMs ≤ availableMs
    && (datagrams + deletesUdp = 0 || a.datagramBytes ≥ 60)

end Accounting

/-! ## The transport of the adapters -/

/-- `ordinary`: why ordinary work may not go on, if so. -/
def ordinary (endMs : ℕ) : Runtime (Option MappingStop) := do
  match (← perform .stop).stop with
  | some stop => return some stop
  | none => return if (← perform .nowMs).ms ≥ endMs then some .deadline else none

/-- `delete_request`: a delete, by its bytes. -/
def deleteRequest (protocol : RouterProtocol) (request : List UInt8) : Bool :=
  match protocol with
  | .pcp => request.length = pcpMapPacketBytes && (request.drop 4).take 4 = [0, 0, 0, 0]
  | .natPmp => request.length = natpmpMapRequestBytes && (request.drop 8).take 4 = [0, 0, 0, 0]
  | .upnpIgd => decide (ascii "#DeletePortMapping\"" <:+: request)

/-- `BoundedControl`, apart from the runtime and the accounting. -/
structure BoundedControl where
  protocol : RouterProtocol
  ordinaryEnd : ℕ
  cleanupEnd : ℕ
  cleaning : Bool

namespace BoundedControl

variable (b : BoundedControl)

/-- Whether a request is charged to what is set aside for deletes. -/
def isCleanup (request : RouterRequest) : Bool :=
  b.cleaning || deleteRequest b.protocol request.bytes

/-- Until when a request may be made. -/
def endFor (request : RouterRequest) : ℕ :=
  if b.isCleanup request then b.cleanupEnd else b.ordinaryEnd

/-- Whether a reply counts: it fits, and if it is one to a delete it has come
before the end. -/
def accept (request : RouterRequest) (capacity : ℕ) (bytes : List UInt8) :
    Runtime (Except ControlRefusal (List UInt8)) := do
  if bytes.length > capacity then return .error .bounded
  else if b.isCleanup request then
    return if (← perform .nowMs).ms ≥ b.endFor request then .error .bounded else .ok bytes
  else return .ok bytes

/-- The request is charged, and made. -/
def send (destination : SocketAddr) (request : RouterRequest) (capacity : ℕ) (a : Accounting) :
    Runtime (Except ControlRefusal (List UInt8) × Accounting) :=
  if b.protocol.isUdp ∧ request.bytes.length > a.datagramBytes then return (.error .oversize, a)
  else match a.charge b.protocol.isUdp.toNat 1 0 (b.isCleanup request) with
  | (false, a) => return (.error .bounded, a)
  | (true, a) => do
    match (← perform (.routerExchange destination request capacity (b.endFor request))).reply with
    | .error refusal => return (.error refusal, a)
    | .ok bytes => return (← b.accept request capacity bytes, a)

/-- `BoundedControl::exchange`. -/
def exchange (destination : SocketAddr) (request : RouterRequest) (capacity : ℕ) (a : Accounting) :
    Runtime (Except ControlRefusal (List UInt8) × Accounting) := do
  if (← perform .nowMs).ms ≥ b.endFor request then return (.error .bounded, a)
  else if b.isCleanup request then b.send destination request capacity a
  else match (← perform .stop).stop with
  | some _ => return (.error .bounded, a)
  | none => b.send destination request capacity a

/-- What an adapter is told: it is never cancelled, so that a stop cannot
suppress a delete. -/
def handle : ControlCall → Accounting → Runtime (ControlReply × Accounting)
  | .cancelled, a => return (.flag false, a)
  | .exchange destination request capacity, a => do
    let (reply, a) ← b.exchange destination request capacity a
    return (.exchanged reply, a)

end BoundedControl

/-! ## A run -/

/-- How a method ends: it is the last one, for a reason, or the next one may
follow. -/
inductive MethodEnd where
  | broke (row : Option MappingMethodReport) (stop : MappingStop)
  | next (row : MappingMethodReport)

/-- The row of a method, if it has one. -/
def MethodEnd.row : MethodEnd → Option MappingMethodReport
  | broke row _ => row
  | next row => some row

/-- A row that stops. -/
def MappingMethodReport.halted (row : MappingMethodReport) (stop : MappingStop) : MethodEnd :=
  .broke (some { row with stopped := some stop }) stop

/-- `INBOUND_PORT_MIN`. -/
def inboundPortMin : ℕ := 20000

/-- `INBOUND_PORT_MAX`. -/
def inboundPortMax : ℕ := 60000

/-- A port the prober dials. -/
def isInboundPort (port : ℕ) : Bool := inboundPortMin ≤ port && port ≤ inboundPortMax

/-- `method`. -/
def methodOf : RouterProtocol → TraversalMethod
  | .pcp => .pcp
  | .natPmp => .natPmp
  | .upnpIgd => .upnpIgd

/-- `transport`. -/
def transportOf : MappedPortProtocol → TraversalTransport
  | .tcp => .tcp
  | .udp => .udp

/-- **A lifecycle**: the crates, the session and the gateway. -/
structure MappingLifecycle where
  host : UpnpHost
  session : MappingSession
  gateway : MappingGateway

namespace MappingLifecycle

variable (l : MappingLifecycle)

/-! ### Measuring a path -/

/-- Whether evidence is of the check that was made, at a time. -/
def isEvidenceOf (check : MappingPathCheck) (evidence : MappingPathEvidence) (nowMs : ℕ) : Bool :=
  let t := evidence.transcript
  (t.validateScope l.host.sha256 l.session.descriptor nowMs).isOk
    && t.authority = .externalPath && t.stage = check.stage && t.method = check.method
    && t.transport = check.transport && t.family = check.family
    && [TraversalOutcome.succeeded, .failed, .unverifiableEndpoint, .budgetExhausted,
        .proberNoEgress].contains t.outcome
    && (t.outcome ≠ .succeeded
      || evidence.echoedChallenge.any fun c => hexEncode c.toList = t.challenge)

/-- Evidence is checked and signed. -/
def attest (check : MappingPathCheck) (evidence : MappingPathEvidence) :
    Runtime (Except MappingStop MappingPathSummary) := do
  match ← ordinary l.session.activeEnd with
  | some stop => return .error stop
  | none =>
    if !l.isEvidenceOf check evidence (← perform .nowMs).ms then return .error .invalidBinding
    else match (← perform (.attestPath evidence.transcript l.session.activeEnd)).attestation with
    | .error stop => return .error stop
    | .ok () =>
      match ← ordinary l.session.activeEnd with
      | some stop => return .error stop
      | none =>
        return .ok ⟨check.stage, evidence.transcript.outcome, evidence.transcript.errorClass⟩

/-- `path`. -/
def path (listener : MappingListener) (check : MappingPathCheck) (a : Accounting) :
    Runtime (Except MappingStop MappingPathSummary × Accounting) := do
  match ← ordinary l.session.activeEnd with
  | some stop => return (.error stop, a)
  | none =>
    match a.charge (decide (check.transport = .udp)).toNat 2 1 false with
    | (false, a) => return (.error .budget, a)
    | (true, a) =>
      match (← perform (.pathCheck listener check l.session.activeEnd)).evidence with
      | .error stop => return (.error stop, a)
      | .ok evidence => return (← l.attest check evidence, a)

/-! ### One method -/

/-- The transport for a method. -/
def control (plan : MappingMethodPlan) (cleaning : Bool) : BoundedControl where
  protocol := plan.protocol
  ordinaryEnd := l.session.activeEnd
  cleanupEnd := l.session.collectorEnd
  cleaning := cleaning

/-- What the adapter of a method is given, if it can be called. -/
def mappingInput (plan : MappingMethodPlan) (port : UInt16) (nonce : MappingNonce) :
    Option MappingInput :=
  match plan.protocol with
  | .pcp => some (.pcp
      { localAddress := l.gateway.localAddress
        internalPort := port
        protocol := plan.transport
        nonce := nonce
        maximumLeaseSec := l.session.consent.maximumLeaseSec
        previousEpoch := none
        exclusiveReservation := some l.gateway.reservation })
  | .natPmp => some (.natPmp
      { internalPort := port
        protocol := plan.transport
        maximumLeaseSec := l.session.consent.maximumLeaseSec
        previousEpoch := none
        exclusiveReservation := some l.gateway.reservation })
  | .upnpIgd => l.gateway.igd.map fun igd => .upnp
      { descriptor := igd
        localAddress := l.gateway.localAddress
        internalPort := port
        protocol := plan.transport
        maximumLeaseSec := l.session.consent.maximumLeaseSec
        exclusiveReservation := some l.gateway.reservation }

/-- The address a mapping is said to have. -/
def mappedAddress (plan : MappingMethodPlan) (handle : OwnedMappingHandle) : Option Ipv4Addr :=
  if plan.protocol = .pcp then handle.externalAddress else l.gateway.externalAddress

/-- A path that cannot be measured. -/
def unverifiable : MappingPathSummary := ⟨.mappingVerify, .unverifiableEndpoint, none⟩

/-- The check of a path, before the mapping. -/
def baselineCheck (plan : MappingMethodPlan) (listener : MappingListener) : MappingPathCheck :=
  ⟨.baseline, .unassisted, transportOf plan.transport, .v4, listener.port.toNat⟩

/-- The check of a path, through the mapping. -/
def verifyCheck (plan : MappingMethodPlan) (handle : OwnedMappingHandle) : MappingPathCheck :=
  ⟨.mappingVerify, methodOf plan.protocol, transportOf plan.transport, .v4, handle.externalPort⟩

/-- The mapping is verified, where its address is the one that is observed. -/
def verify (plan : MappingMethodPlan) (listener : MappingListener) (handle : OwnedMappingHandle)
    (row : MappingMethodReport) (a : Accounting) : Runtime (MappingMethodReport × Accounting) :=
  match l.mappedAddress plan handle with
  | none => return ({ row with verification := some unverifiable }, a)
  | some address =>
    if !isInboundPort handle.externalPort then
      return ({ row with stopped := some .invalidBinding }, a)
    else do
      if address = (← perform .observedAddress).observed then
        match ← l.path listener (verifyCheck plan handle) a with
        | (.ok summary, a) => return ({ row with verification := some summary }, a)
        | (.error stop, a) => return ({ row with stopped := some stop }, a)
      else return ({ row with verification := some unverifiable }, a)

/-- What a delete comes to in the row. -/
def cleanedRow (row : MappingMethodReport) (deleted : MappingEffect) (unsent : Bool) :
    MappingMethodReport :=
  if deleted.cleanup = .confirmedDeleted then { row with cleanup := .confirmedDeleted }
  else if unsent then { row with cleanup := .leaseExpiryPending }
  else
    { row with
      cleanup := .deleteFailed
      expiryUnknown := deleted.cleanup = .expiryUnknown }

/-- The mapping is deleted, whatever has happened. -/
def cleanUp (plan : MappingMethodPlan) (handle : OwnedMappingHandle) (epoch : Option ℕ)
    (row : MappingMethodReport) (a : Accounting) : Runtime (MappingMethodReport × Accounting) := do
  let (deleted, after) ← (l.host.deleteOwnedMapping l.gateway.gateway handle
    (some l.gateway.reservation) epoch l.gateway.igd).simulate (l.control plan true).handle a
  return (cleanedRow row deleted (after.controlRequests = a.controlRequests), after)

/-- The verdict on a method. -/
def finish (row : MappingMethodReport) : MethodEnd :=
  let row := { row with expiryUnknown := row.expiryUnknown
    || row.cleanup = .creationOutcomeUnknown || row.cleanup = .expiryUnknown }
  let uncertain := row.cleanup ≠ .notCreated ∧ row.cleanup ≠ .confirmedDeleted
  if uncertain ∨ row.stopped.isSome then .broke (some row) (row.stopped.getD .cleanupUncertain)
  else .next row

/-- The lease that was adopted, if one was. -/
def adopted (created : MappingEffect) : Option OwnedMappingHandle :=
  created.handle.filter fun _ => created.cleanup = .leaseExpiryPending

/-- The row of a method after its create. -/
def createdRow (row : MappingMethodReport) (created : MappingEffect) : MappingMethodReport :=
  { row with
    create := some created.outcome
    grantedLeaseSec := created.grantedLifetimeSec
    cleanup := created.cleanup }

/-- Verification is for a create that succeeded. -/
def verifyCreated (plan : MappingMethodPlan) (listener : MappingListener)
    (handle : OwnedMappingHandle) (created : MappingEffect) (row : MappingMethodReport)
    (a : Accounting) : Runtime (MappingMethodReport × Accounting) :=
  if created.outcome = .succeeded then l.verify plan listener handle row a else return (row, a)

/-- After a create. -/
def afterCreate (plan : MappingMethodPlan) (listener : MappingListener)
    (row : MappingMethodReport) (created : MappingEffect) (a : Accounting) :
    Runtime (MethodEnd × Accounting) :=
  match adopted created with
  | none => return (finish (createdRow row created), a)
  | some handle => do
    let (row, a) ← l.verifyCreated plan listener handle created (createdRow row created) a
    let (row, a) ← l.cleanUp plan handle created.epoch row a
    return (finish row, a)

/-- The create. -/
def create (plan : MappingMethodPlan) (listener : MappingListener) (row : MappingMethodReport)
    (nonce : MappingNonce) (a : Accounting) : Runtime (MethodEnd × Accounting) :=
  match l.mappingInput plan listener.port nonce with
  | none => return (row.halted .unsupported, a)
  | some input => do
    let (created, a) ← (input.map l.host l.gateway.gateway).simulate (l.control plan false).handle a
    l.afterCreate plan listener row created a

/-- PCP needs a nonce. -/
def withNonce (plan : MappingMethodPlan) (listener : MappingListener) (row : MappingMethodReport)
    (a : Accounting) : Runtime (MethodEnd × Accounting) :=
  if plan.protocol = .pcp then do
    match (← perform .nonce).nonce with
    | .error _ => return (row.halted .unsupported, a)
    | .ok nonce =>
      if nonce = Vector.replicate 12 0 then return (row.halted .unsupported, a)
      else l.create plan listener row nonce a
  else l.create plan listener row (Vector.replicate 12 0) a

/-- Before a create there has to be enough for its delete, and time. -/
def afterBaseline (plan : MappingMethodPlan) (listener : MappingListener)
    (summary : MappingPathSummary) (a : Accounting) : Runtime (MethodEnd × Accounting) := do
  let row : MappingMethodReport := { plan, baseline := some summary }
  if summary.outcome ≠ .succeeded ∧ summary.outcome ≠ .failed then
    return (row.halted .unsupported, a)
  else match ← ordinary l.session.activeEnd with
  | some stop => return (row.halted stop, a)
  | none =>
    if a.cleanupControl = 0 ∨ a.cleanupDatagrams < plan.protocol.isUdp.toNat then
      return (row.halted .budget, a)
    else if min ((← perform .nowMs).ms + 1000) u64Max ≥ l.session.activeEnd then
      return (row.halted .budget, a)
    else l.withNonce plan listener row a

/-- A method, with its listener. -/
def withListener (plan : MappingMethodPlan) (listener : MappingListener) (a : Accounting) :
    Runtime (MethodEnd × Accounting) := do
  if !isInboundPort listener.port.toNat then return (.broke none .invalidBinding, a)
  else match ← l.path listener (baselineCheck plan listener) a with
  | (.error stop, a) => return (MappingMethodReport.halted { plan } stop, a)
  | (.ok summary, a) => l.afterBaseline plan listener summary a

/-- One method. -/
def runMethod (plan : MappingMethodPlan) (a : Accounting) : Runtime (MethodEnd × Accounting) := do
  match ← ordinary l.session.activeEnd with
  | some stop => return (.broke none stop, a)
  | none =>
    match (← perform (.bindFresh plan.transport)).listener with
    | .error stop => return (.broke none stop, a)
    | .ok listener =>
      let ended ← l.withListener plan listener a
      let _ ← perform (.dropListener listener)
      return ended

/-! ### All methods -/

/-- What the methods came to. -/
structure MethodsEnd where
  rows : List MappingMethodReport
  stopped : Option MappingStop
  accounting : Accounting

/-- One method after another. -/
def runMethods : List MappingMethodPlan → Accounting → Runtime MethodsEnd
  | [], a => return ⟨[], none, a⟩
  | plan :: plans, a => do
    match ← l.runMethod plan a with
    | (.broke row stop, a) => return ⟨row.toList, some stop, a⟩
    | (.next row, a) =>
      let rest ← runMethods plans a
      return { rest with rows := row :: rest.rows }

/-- The operations of a method are in the descriptor. -/
def planOk (plan : MappingMethodPlan) : Bool :=
  let operation : TraversalOperation := match plan.protocol with
    | .pcp => .mapPcp
    | .natPmp => .mapNatPmp
    | .upnpIgd => .mapUpnp
  let baseline : TraversalOperation := if plan.transport = .tcp then .baselineTcp else .baselineUdp
  l.session.descriptor.operations.contains operation
    && l.session.descriptor.operations.contains baseline

/-- What is refused before anything is charged. -/
def isRefused (plans : List MappingMethodPlan) (nowMs : ℕ) : Bool :=
  !(l.session.descriptor.validateAt nowMs).isOk || plans.isEmpty || plans.length > 3
    || !plans.all l.planOk || !decide plans.Nodup
    || !l.gateway.reservation.matchesBinding l.gateway.gateway
        l.session.consent.exclusiveReservationDigest

/-- The methods that are tried: all of them, or the first. -/
def selected (a : Accounting) (plans : List MappingMethodPlan) (availableMs : ℕ) :
    List MappingMethodPlan :=
  if a.fits plans availableMs then plans else plans.take 1

/-- What is reported once discovery was charged. -/
def startedReport (a : Accounting) (plans : List MappingMethodPlan) (availableMs : ℕ) :
    MappingRunReport where
  discovery := .succeeded
  deferredMethods := if a.fits plans availableMs then 0 else plans.length - 1
  sentDatagrams := a.sentDatagrams
  controlRequests := a.controlRequests

/-- The methods that fit are run. -/
def runSelected (plans : List MappingMethodPlan) (availableMs : ℕ) (a : Accounting) :
    Runtime (MappingRunReport × Accounting) :=
  let report := startedReport a plans availableMs
  let chosen := selected a plans availableMs
  if !a.fits chosen availableMs then return ({ report with stopped := some .budget }, a)
  else do
    let ended ← l.runMethods chosen a
    return ({ report with
      methods := ended.rows
      stopped := ended.stopped
      sentDatagrams := ended.accounting.sentDatagrams
      controlRequests := ended.accounting.controlRequests
      externalDialbacks := ended.accounting.externalDialbacks }, ended.accounting)

/-- `run_mapping_lifecycle`, with the accounting at its end. -/
def runMappingLifecycle (plans : List MappingMethodPlan) :
    Runtime (MappingRunReport × Accounting) := do
  let a := Accounting.new l.session.descriptor.budgets
  if l.isRefused plans (← perform .nowMs).ms then return ({ stopped := some .invalidBinding }, a)
  else match a.charge l.gateway.discoveryDatagrams l.gateway.discoveryControlRequests 0 false with
  | (false, a) => return ({ stopped := some .budget }, a)
  | (true, a) =>
    let now ← perform .nowMs
    l.runSelected plans (l.session.activeEnd - now.ms) a

end MappingLifecycle
