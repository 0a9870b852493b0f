import RuntimeCargo.Upnp

/-!
# What a mapping adapter may do

Whatever a router answers, a call of one of the three adapters goes one of
five ways. It sends nothing but a look at the table; or it sends its create
and the router refuses; or what came of the create stays unknown; or the
lease is adopted; or the grant cannot be used and is deleted. This is
`MapRun`, with what was exchanged on each of the ways and what the effect
then says. It is read off the programs once, here, and everything else that
is shown about the adapters is read off it.

The vocabulary is common to the protocols (`MappingInput`): the create a
call would send, when a reply refuses or grants it, the handles that belong
to it, and when a reply says that a mapping is gone.
-/

open UpnpHost

open Program

/-! ## One vocabulary for three protocols -/

/-- A mapping that is asked for. -/
inductive MappingInput where
  | pcp (input : PcpMap)
  | natPmp (input : NatPmpMap)
  | upnp (input : UpnpMap)

/-- The request that deletes a mapping; over UPnP it goes to a control URL. -/
def deleteRequestOf (control : Option IgdControlDescriptor) (handle : OwnedMappingHandle) :
    RouterRequest :=
  match handle.protocol, control with
  | .upnpIgd, some control =>
    .soap control (.deletePortMapping handle.externalPort handle.portProtocol)
  | _, _ => deletePacket handle

/-- A reply says that a mapping is gone: over PCP and NAT-PMP it belongs to
the mapping, is a success and has the lifetime zero. -/
def DeletedBy (handle : OwnedMappingHandle) (body : List UInt8) : Prop :=
  match handle.protocol with
  | .upnpIgd => interpretDelete body = .confirmed
  | protocol => ∃ parsed, decodeFor protocol body = .ok parsed
      ∧ deleteMatches handle parsed = true ∧ parsed.result = 0 ∧ parsed.lifetime = 0

namespace MappingInput

/-- The ceiling of the lease. -/
def maximumLeaseSec : MappingInput → ℕ
  | pcp input => input.maximumLeaseSec
  | natPmp input => input.maximumLeaseSec
  | upnp input => input.maximumLeaseSec

/-- The reservation the caller holds. -/
def reservation : MappingInput → Option ExclusiveReservation
  | pcp input => input.exclusiveReservation
  | natPmp input => input.exclusiveReservation
  | upnp input => input.exclusiveReservation

/-- The request that creates the mapping. -/
def create : MappingInput → RouterRequest
  | pcp input => input.request
  | natPmp input => input.request
  | upnp input => .soap input.descriptor (addAction input)

/-- The request that looks the mapping up, over UPnP. -/
def IsLook : MappingInput → RouterRequest → Prop
  | upnp input, request => request = .soap input.descriptor (probeAction input)
  | _, _ => False

/-- A reply to the create that belongs to it and carries an explicit
error. -/
def RefusedBy : MappingInput → List UInt8 → Prop
  | pcp input, body => ∃ parsed, input.decode body = .ok (parsed, true) ∧ parsed.result ≠ 0
  | natPmp input, body => ∃ parsed, input.decode body = .ok (parsed, true) ∧ parsed.result ≠ 0
  | upnp _, body => ∃ view, readSoap body = .ok view ∧ view.errorCode ≠ none

/-- A reply to the create that belongs to it and is a success. -/
def GrantedBy : MappingInput → List UInt8 → Prop
  | pcp input, body => ∃ parsed, input.decode body = .ok (parsed, true)
      ∧ parsed.versionOk = true ∧ parsed.opcodeOk = true ∧ parsed.result = 0
  | natPmp input, body => ∃ parsed, input.decode body = .ok (parsed, true)
      ∧ parsed.versionOk = true ∧ parsed.opcodeOk = true ∧ parsed.result = 0
  | upnp _, body => classifyAdd body = .accepted

/-- The control URL of the call, over UPnP. -/
def control : MappingInput → Option IgdControlDescriptor
  | upnp input => some input.descriptor
  | _ => none

/-- The digest a handle of this call carries: that of the reservation, if it
is one of this gateway. -/
def digestFor (input : MappingInput) (gateway : SelectedGateway) : Option Digest :=
  (input.reservation.filter (·.authorizes gateway)).map ExclusiveReservation.digest

section Owns

variable (host : UpnpHost) (gateway : SelectedGateway)

/-- `map_pcp`, `map_nat_pmp` or `map_upnp`. -/
def map : MappingInput → Control MappingEffect
  | pcp input => mapPcp gateway input
  | natPmp input => mapNatPmp gateway input
  | upnp input => host.mapUpnp gateway input

/-- **A handle of this call**: it has the protocol, the port and the client
of the create, and over PCP its nonce. -/
def Owns : MappingInput → OwnedMappingHandle → Prop
  | pcp input, h => h.protocol = .pcp ∧ h.portProtocol = input.protocol
      ∧ h.internalPort = input.internalPort.toNat ∧ h.client = input.localAddress
      ∧ h.nonce = some input.nonce ∧ h.reservationDigest = digestFor (pcp input) gateway
  | natPmp input, h => h.protocol = .natPmp ∧ h.portProtocol = input.protocol
      ∧ h.internalPort = input.internalPort.toNat
      ∧ h.reservationDigest = digestFor (natPmp input) gateway
      ∧ h.reservationDigest ≠ none
  | upnp input, h => h.protocol = .upnpIgd ∧ h.portProtocol = input.protocol
      ∧ h.internalPort = input.internalPort.toNat ∧ h.externalPort = input.internalPort.toNat
      ∧ h.client = input.localAddress
      ∧ h.nonce = some (host.controlFingerprint input.descriptor)
      ∧ h.reservationDigest = digestFor (upnp input) gateway ∧ h.reservationDigest ≠ none

end Owns

/-- At most one look. -/
def Looks (input : MappingInput) (xs : List Exchange) : Prop :=
  xs = [] ∨ ∃ x, xs = [x] ∧ input.IsLook x.request

/-- The way is clear for the create: over UPnP one look was answered as
absent. -/
def Cleared : MappingInput → List Exchange → Prop
  | upnp input, xs => ∃ x body, xs = [x]
      ∧ x.request = .soap input.descriptor (probeAction input) ∧ x.reply = .ok body
      ∧ classifyProbe body = .absent
  | _, xs => xs = []

theorem Cleared.looks {input : MappingInput} {xs : List Exchange} (h : input.Cleared xs) :
    input.Looks xs := by
  cases input with
  | pcp input | natPmp input => exact .inl h
  | upnp input =>
    obtain ⟨x, body, rfl, hx, -⟩ := h
    exact .inr ⟨x, rfl, hx⟩

end MappingInput

/-- Nobody knows when the mapping ends, or whether there is one. -/
def UnknownEnd (cleanup : TraversalCleanup) : Prop :=
  cleanup = .expiryUnknown ∨ cleanup = .creationOutcomeUnknown

/-- How a delete that was sent may end. -/
inductive DeleteEnd (handle : OwnedMappingHandle) (y : Exchange) : TraversalCleanup → Prop
  | confirmed {body : List UInt8} (hreply : y.reply = .ok body) (hbody : DeletedBy handle body) :
      DeleteEnd handle y .confirmedDeleted
  | failed : DeleteEnd handle y .deleteFailed
  | unknown : DeleteEnd handle y .expiryUnknown

/-- A request can be sent: it is well formed and its target is at the
gateway. -/
def Sendable (host : UpnpHost) (gateway : SelectedGateway) (descriptor : IgdControlDescriptor)
    (action : SoapAction) : Prop :=
  soapRequest descriptor action = .ok (.soap descriptor action)
    ∧ ∃ destination, upnpLocation host.urls gateway descriptor.controlTarget = .ok destination

section MapRun

variable (host : UpnpHost) (gateway : SelectedGateway) (input : MappingInput)

/-- **What a call of an adapter may do**: what it has exchanged, and the
effect. A run in which it was cancelled is marked as such. -/
inductive MapRun (cancelled : Prop) : List Exchange → MappingEffect → Prop
  /-- Nothing was sent but a look. -/
  | untouched {looks : List Exchange} {e : MappingEffect} (hlooks : input.Looks looks)
      (hend : e.cleanup = .notCreated ∨ UnknownEnd e.cleanup) (hhandle : e.handle = none)
      (houtcome : e.outcome ≠ .succeeded) : MapRun cancelled looks e
  /-- The router refused. -/
  | refused {l : List Exchange} {x : Exchange} {body : List UInt8} {e : MappingEffect}
      (hlooks : input.Cleared l) (hx : x.request = input.create) (hreply : x.reply = .ok body)
      (hbody : input.RefusedBy body) (hend : e.cleanup = .notCreated) (hhandle : e.handle = none)
      (houtcome : e.outcome ≠ .succeeded) : MapRun cancelled (l ++ [x]) e
  /-- What came of the create is not known. -/
  | unknown {l more : List Exchange} {x : Exchange} {e : MappingEffect}
      (hlooks : input.Cleared l) (hx : x.request = input.create) (hmore : input.Looks more)
      (hend : UnknownEnd e.cleanup) (hhandle : ∀ h ∈ e.handle, h.cleanupAuthorized = false)
      (houtcome : e.outcome ≠ .succeeded) : MapRun cancelled (l ++ x :: more) e
  /-- A finite lease was adopted. -/
  | adopted {l more : List Exchange} {x : Exchange} {body : List UInt8}
      {h : OwnedMappingHandle} {e : MappingEffect} (hlooks : input.Cleared l)
      (hx : x.request = input.create) (hreply : x.reply = .ok body)
      (hbody : input.GrantedBy body) (hmore : input.Looks more) (hend : e.cleanup = .leaseExpiryPending)
      (houtcome : e.outcome = .succeeded) (hhandle : e.handle = some h)
      (howns : input.Owns host gateway h) (hauthorized : h.cleanupAuthorized = true)
      (hlease : 1 ≤ h.grantedLifetimeSec ∧ h.grantedLifetimeSec ≤ input.maximumLeaseSec)
      (hgranted : e.grantedLifetimeSec = some h.grantedLifetimeSec)
      (hcontrol : ∀ c, input.control = some c → c.gateway = gateway.gateway
        ∧ Sendable host gateway c (.deletePortMapping h.externalPort h.portProtocol)) :
      MapRun cancelled (l ++ x :: more) e
  /-- A grant that cannot be used is deleted. -/
  | deleted {l more : List Exchange} {x y : Exchange} {body : List UInt8}
      {h : OwnedMappingHandle} {e : MappingEffect} (hlooks : input.Cleared l)
      (hx : x.request = input.create) (hreply : x.reply = .ok body)
      (hbody : input.GrantedBy body) (hmore : input.Looks more)
      (hy : y.request = deleteRequestOf input.control h) (hend : DeleteEnd h y e.cleanup)
      (hhandle : e.handle = some h) (howns : input.Owns host gateway h)
      (hreserved : h.reservationDigest ≠ none)
      (houtcome : e.outcome = .succeeded →
        h.protocol ≠ .upnpIgd ∧ input.maximumLeaseSec < mappingMaximumLeaseSec) :
      MapRun cancelled (l ++ x :: more ++ [y]) e
  /-- It would be deleted, but the call was cancelled. -/
  | abandoned {l more : List Exchange} {x : Exchange} {body : List UInt8}
      {h : OwnedMappingHandle} {e : MappingEffect} (hlooks : input.Cleared l)
      (hx : x.request = input.create) (hreply : x.reply = .ok body)
      (hbody : input.GrantedBy body) (hmore : input.Looks more) (hcancelled : cancelled)
      (hhandle : e.handle = some h) (howns : input.Owns host gateway h)
      (hend : e.cleanup ≠ .confirmedDeleted ∧ e.cleanup ≠ .notCreated)
      (houtcome : e.outcome ≠ .succeeded) : MapRun cancelled (l ++ x :: more) e

end MapRun

section Runs

variable {host : UpnpHost} {gateway : SelectedGateway} {handle : OwnedMappingHandle}
  {t : List (ControlCall × ControlReply)} {e : MappingEffect}

section MapRun

variable {input : MappingInput} {c c' : Prop} {xs : List Exchange}

theorem MapRun.mono (hc : c → c') (h : MapRun host gateway input c xs e) :
    MapRun host gateway input c' xs e := by
  cases h <;> grind [MapRun]

/-- A call that ends here has exchanged nothing more. -/
theorem MapRun.of_pure {ended : MappingEffect} (h : Yields (pure ended : Control _) t e)
    (hrun : MapRun host gateway input c xs ended) :
    MapRun host gateway input c (xs ++ exchanges t) e := by
  obtain ⟨rfl, rfl⟩ := yields_pure.mp h
  rwa [exchanges_nil, List.append_nil]

end MapRun

/-- A delete that was not sent. -/
structure NotDeleted (handle : OwnedMappingHandle) (e : MappingEffect) : Prop where
  cleanup : e.cleanup = .expiryUnknown ∨ e.cleanup = .leaseExpiryPending
  outcome : e.outcome ≠ .succeeded
  handle : e.handle = some handle

theorem NotDeleted.kept (h : NotDeleted handle e) :
    e.cleanup ≠ .confirmedDeleted ∧ e.cleanup ≠ .notCreated := by
  obtain hend | hend := h.cleanup
  all_goals
    rw [hend]
    exact ⟨nofun, nofun⟩

/-! ## The delete of a packet protocol -/

section SendDelete

variable {previousEpoch : Option ℕ} {n : ℕ}

theorem handle_deleteStart : (deleteStart handle n).handle = some handle := by
  grind [deleteStart]

theorem refusal_deleteStart (h : (deleteStart handle n).refusal = none) :
    1 ≤ handle.grantedLifetimeSec ∧ handle.grantedLifetimeSec ≤ mappingMaximumLeaseSec := by
  grind [deleteStart]

theorem outcome_deleteStart : (deleteStart handle n).outcome ≠ .succeeded := by
  unfold deleteStart
  dsimp only
  split <;> exact nofun

theorem classFor_eq_success {protocol : RouterProtocol} {result : ℕ}
    (h : classFor protocol result = .success) : protocol ≠ .upnpIgd ∧ result = 0 := by
  cases protocol <;> grind [classFor, pcpClass, natpmpClass]

/-- **How a delete ends**, by the reply that was heard: it is confirmed only
by a reply that says so, and reported as succeeded only for a lease that
was finite. -/
theorem deleteEnd_deleteJudged {reply : Except ControlRefusal (List UInt8)} {y : Exchange}
    (hy : ∀ body, reply = .ok body → y.reply = .ok body) :
    DeleteEnd handle y (deleteJudged handle previousEpoch n reply).cleanup
      ∧ (deleteJudged handle previousEpoch n reply).handle = some handle
      ∧ ((deleteJudged handle previousEpoch n reply).outcome = .succeeded →
        1 ≤ handle.grantedLifetimeSec
          ∧ handle.grantedLifetimeSec ≤ mappingMaximumLeaseSec) := by
  cases reply with
  | error refusal => exact ⟨.unknown, handle_deleteStart, nofun⟩
  | ok body =>
    cases hdecode : decodeFor handle.protocol body with
    | error fault =>
      simp only [deleteJudged, hdecode]
      exact ⟨.unknown, handle_deleteStart, nofun⟩
    | ok parsed =>
      simp only [deleteJudged, hdecode]
      split
      · exact ⟨.unknown, handle_deleteStart, nofun⟩
      next hmatches =>
        rw [Bool.or_eq_true, not_or, Bool.not_eq_true, Bool.not_eq_false'] at hmatches
        split
        next hsuccess =>
          obtain ⟨hprotocol, hresult⟩ := classFor_eq_success hsuccess.1
          refine ⟨.confirmed (hy body rfl) ?_, handle_deleteStart, fun houtcome => ?_⟩
          · unfold DeletedBy
            split
            · exact absurd ‹_› hprotocol
            · exact ⟨parsed, hdecode, hmatches.1, hresult, hsuccess.2⟩
          · by_cases hrefusal : (deleteStart handle n).refusal = none
            · exact refusal_deleteStart hrefusal
            · rw [if_neg hrefusal] at houtcome
              exact absurd houtcome outcome_deleteStart
        · exact ⟨.failed, handle_deleteStart, fun h => absurd h outcome_deleteStart⟩

theorem notDeleted_deleteCancelled : NotDeleted handle (deleteCancelled handle n) := by
  refine ⟨?_, ?_, ?_⟩ <;> grind [deleteCancelled, handle_deleteStart]

theorem deleteRequestOf_packet {control : Option IgdControlDescriptor}
    (hpacket : handle.protocol ≠ .upnpIgd) : deleteRequestOf control handle = deletePacket handle := by
  unfold deleteRequestOf
  grind

theorem deleteRequestOf_upnp {control : IgdControlDescriptor} (hprotocol : handle.protocol = .upnpIgd) :
    deleteRequestOf (some control) handle
      = .soap control (.deletePortMapping handle.externalPort handle.portProtocol) := by
  grind [deleteRequestOf]

/-- A packet that deletes is of a proper size. -/
theorem bytes_deletePacket (hpacket : handle.protocol ≠ .upnpIgd) :
    (deletePacket handle).bytes ≠ [] ∧ (deletePacket handle).bytes.length ≤ controlMaxBytes := by
  have hsize : (deletePacket handle).bytes.length = 60 ∨ (deletePacket handle).bytes.length = 12 := by
    unfold deletePacket
    split
    · exact .inl RouterRequest.length_bytes_pcp
    · exact .inr RouterRequest.length_bytes_natPmp
    · exact absurd ‹_› hpacket
  rw [← List.length_pos_iff]
  unfold controlMaxBytes
  omega

/-- **Sending a delete**: nothing was handed over, which happens only to a
call that is cancelled, or the delete was and the effect is judged by the
reply. -/
theorem yields_sendDelete (hpacket : handle.protocol ≠ .upnpIgd)
    (h : Yields (sendDelete handle gateway (deletePacket handle) previousEpoch n) t e) :
    (exchanges t = [] ∧ NotDeleted handle e ∧ ¬ Uncancelled t)
      ∨ ∃ y, exchanges t = [y] ∧ (∀ control, y.request = deleteRequestOf control handle)
        ∧ DeleteEnd handle y e.cleanup ∧ e.handle = some handle
        ∧ (e.outcome = .succeeded → 1 ≤ handle.grantedLifetimeSec
          ∧ handle.grantedLifetimeSec ≤ mappingMaximumLeaseSec) := by
  obtain ⟨u, hu, ⟨hstop, h⟩ | ⟨hun, h⟩⟩ := yields_unlessCancelled h
  · obtain ⟨rfl, rfl⟩ := yields_pure.mp h
    exact .inl ⟨hu, notDeleted_deleteCancelled, hstop⟩
  · obtain ⟨reply, hreply, rfl⟩ := yields_bind_pure.mp h
    rcases yields_exchangeWithGateway hreply with ⟨hnone, ⟨refusal, rfl⟩, hsize⟩ | hheard
    · obtain ⟨hne, hle⟩ := bytes_deletePacket hpacket
      refine .inl ⟨hu.trans hnone, ⟨.inl rfl, nofun, handle_deleteStart⟩, fun hall => ?_⟩
      rcases hsize (hun hall) with hempty | hlong
      · exact hne hempty
      · exact absurd hle (Nat.not_le_of_lt hlong)
    · obtain ⟨y, hex, -, hy, hbody⟩ := hheard
      exact .inr ⟨y, hu.trans hex, fun _ => hy.trans (deleteRequestOf_packet hpacket).symm,
        deleteEnd_deleteJudged hbody⟩

end SendDelete

/-! ## The create of a packet protocol -/

section PacketCreate

variable {input : MappingInput} {parts : MapParts}
  {decode : List UInt8 → Except DecodeFault (Parsed × Bool)} {classOf : ℕ → ServerClass}

/-- The parts of a create go with the call they are made for. -/
structure PacketCall (host : UpnpHost) (gateway : SelectedGateway) (input : MappingInput)
    (parts : MapParts) (decode : List UInt8 → Except DecodeFault (Parsed × Bool))
    (classOf : ℕ → ServerClass) : Prop where
  ceiling : parts.ceiling = input.maximumLeaseSec
  refused : ∀ {body parsed}, decode body = .ok (parsed, true) → parsed.result ≠ 0 →
    input.RefusedBy body
  granted : ∀ {body parsed}, decode body = .ok (parsed, true) → parsed.versionOk = true →
    parsed.opcodeOk = true → parsed.result = 0 → input.GrantedBy body
  success : ∀ {result}, classOf result = .success ↔ result = 0
  owns : ∀ port lifetime epoch authorized address, input.Owns host gateway
    { correlatedHandle parts port lifetime epoch authorized with externalAddress := address }
  packet : parts.protocol ≠ .upnpIgd
  reserved : parts.reservationAuthorizesDelete = true → parts.digest ≠ none
  cleared : input.Cleared []
  control : input.control = none

variable (hcall : PacketCall host gateway input parts decode classOf) {x : Exchange}
  {body : List UInt8} {parsed : Parsed} (hx : x.request = input.create)
  (hreply : x.reply = .ok body) (hdecode : decode body = .ok (parsed, true))
include hx hreply

/-- A grant that cannot be used is deleted at once, on the strength of the
reservation. -/
theorem mapRun_inlineDelete (hcleared : input.Cleared []) (hgranted : input.GrantedBy body)
    (howns : input.Owns host gateway handle) (hpacket : handle.protocol ≠ .upnpIgd)
    (hreserved : handle.reservationDigest ≠ none)
    (hlease : ¬(1 ≤ handle.grantedLifetimeSec
      ∧ handle.grantedLifetimeSec ≤ input.maximumLeaseSec))
    {previousEpoch : Option ℕ} {n : ℕ} {gatewayRebooted : Bool}
    (h : Yields (sendDelete handle gateway (deletePacket handle) previousEpoch n) t e) :
    MapRun host gateway input (¬ Uncancelled t) (x :: exchanges t)
      { e with gatewayRebooted := gatewayRebooted } := by
  rcases yields_sendDelete hpacket h with
    ⟨hnone, hnot, hcancelled⟩ | ⟨y, hex, hy, hend, hhandle, houtcome⟩
  · rw [hnone]
    exact .abandoned (l := []) hcleared hx hreply hgranted (.inl rfl) hcancelled hnot.handle howns
      hnot.kept hnot.outcome
  · rw [hex]
    show MapRun host gateway input _ ([] ++ x :: [] ++ [y]) _
    refine .deleted hcleared hx hreply hgranted (.inl rfl) (hy _) hend hhandle howns hreserved
      fun h => ⟨hpacket, ?_⟩
    have := houtcome h
    omega

include hcall hdecode

/-- What is done with a success. -/
theorem mapRun_adoptOrRefuse (hversion : parsed.versionOk = true)
    (hopcode : parsed.opcodeOk = true) (hresult : parsed.result = 0) {gatewayRebooted : Bool}
    (h : Yields (adoptOrRefuse (heard parts parsed) parts parsed gateway) t e) :
    MapRun host gateway input (¬ Uncancelled t) (x :: exchanges t)
      { e with gatewayRebooted := gatewayRebooted } := by
  have hgranted := hcall.granted hdecode hversion hopcode hresult
  unfold adoptOrRefuse at h
  split at h
  · obtain ⟨rfl, rfl⟩ := yields_pure.mp h
    exact .unknown (l := []) hcall.cleared hx (.inl rfl) (.inl rfl) nofun nofun
  · split at h
    · obtain ⟨rfl, rfl⟩ := yields_pure.mp h
      exact .unknown (l := []) hcall.cleared hx (.inl rfl) (.inl rfl) nofun nofun
    · split at h
      next hfinite =>
        simp only [finiteGrant, hcall.ceiling, Bool.not_eq_true', Bool.and_eq_false_iff,
          decide_eq_false_iff_not] at hfinite
        dsimp only at h
        split at h
        next hauthorized =>
          obtain ⟨rfl, rfl⟩ := yields_pure.mp h
          refine .unknown (l := []) hcall.cleared hx (.inl rfl) (.inl rfl) ?_ nofun
          rintro handle ⟨⟩
          exact (Bool.not_eq_true' _).mp hauthorized
        next hauthorized =>
          rw [Bool.not_eq_true', Bool.not_eq_false] at hauthorized
          exact mapRun_inlineDelete hx hreply hcall.cleared hgranted (hcall.owns _ _ _ _ none)
            hcall.packet (hcall.reserved hauthorized) (not_and_or.mpr hfinite) h
      next hfinite =>
        simp only [finiteGrant, hcall.ceiling, Bool.not_eq_true', Bool.not_eq_false,
          Bool.and_eq_true, decide_eq_true_eq] at hfinite
        obtain ⟨rfl, rfl⟩ := yields_pure.mp h
        exact .adopted (l := []) hcall.cleared hx hreply hgranted (.inl rfl) rfl rfl rfl
          (hcall.owns _ _ _ _ _) rfl hfinite rfl
          fun c hc => absurd (hcall.control.symm.trans hc) nofun

/-- What is done with a reply that belongs to the create. -/
theorem mapRun_afterCorrelated (h : Yields (afterCorrelated parts gateway classOf parsed) t e) :
    MapRun host gateway input (¬ Uncancelled t) (x :: exchanges t) e := by
  have hne : ∀ {c}, classOf parsed.result = c → c ≠ .success → parsed.result ≠ 0 :=
    fun hc hsuccess hzero => hsuccess (hc.symm.trans (hcall.success.mpr hzero))
  unfold afterCorrelated at h
  dsimp only at h
  split at h
  · obtain ⟨rfl, rfl⟩ := yields_pure.mp h
    by_cases hresult : parsed.result = 0
    · exact .unknown (l := []) hcall.cleared hx (.inl rfl) (.inl (if_pos hresult)) nofun
        (by simp [unsupportedReply, hresult])
    · exact .refused (l := []) hcall.cleared hx hreply (hcall.refused hdecode hresult)
        (if_neg hresult) rfl (by simp [unsupportedReply, hresult])
  next hheader =>
    rw [Bool.or_eq_true, not_or, Bool.not_eq_true', Bool.not_eq_false, Bool.not_eq_true',
      Bool.not_eq_false] at hheader
    split at h
    case h_5 hsuccess =>
      split at h
      · obtain ⟨rfl, rfl⟩ := yields_pure.mp h
        refine .unknown (l := []) hcall.cleared hx (.inl rfl) (.inl rfl) ?_ nofun
        rintro handle ⟨⟩
        rfl
      · obtain ⟨adopted, hadopted, rfl⟩ := yields_bind_pure.mp h
        exact mapRun_adoptOrRefuse hcall hx hreply hdecode hheader.1 hheader.2
          (hcall.success.mp hsuccess) hadopted
    -- an explicit error ends the call, in one of four ways that differ in words only
    case h_1 hclass | h_2 hclass | h_3 hclass | h_4 hclass =>
      exact .of_pure h (.refused (l := []) hcall.cleared hx hreply
        (hcall.refused hdecode (hne hclass nofun)) rfl rfl nofun)

omit hx hreply hdecode in
/-- **A create over PCP or NAT-PMP.** -/
theorem mapRun_exchangeCreate
    (h : Yields (exchangeCreate parts gateway input.create decode classOf) t e) :
    MapRun host gateway input (¬ Uncancelled t) (exchanges t) e := by
  obtain ⟨u, hu, ⟨hstop, h⟩ | ⟨hun, h⟩⟩ := yields_unlessCancelled h
  · obtain ⟨rfl, rfl⟩ := yields_pure.mp h
    rw [hu]
    exact .untouched (.inl rfl) (.inl rfl) rfl nofun
  · obtain ⟨t₁, t₂, reply, rfl, hreply, h⟩ := yields_bind.mp h
    rw [hu, exchanges_append]
    rcases yields_exchangeWithGateway hreply with ⟨hnone, ⟨refusal, rfl⟩, -⟩ | hheard
    · obtain ⟨rfl, rfl⟩ := yields_pure.mp h
      rw [hnone]
      exact .untouched (.inl rfl) (.inr (.inl rfl)) rfl nofun
    · obtain ⟨x, hex, -, hx, hbody⟩ := hheard
      rw [hex]
      -- a reply that was not heard, or does not belong to the create
      have hlost : ∀ {refusal error}, MapRun host gateway input (¬ Uncancelled t) [x]
          (lost parts.protocol 1 refusal error) :=
        .unknown (l := []) hcall.cleared hx (.inl rfl) (.inl rfl) nofun nofun
      cases reply with
      | error refusal => exact hlost.of_pure h
      | ok body =>
        unfold afterCreate at h
        dsimp only at h
        split at h
        · exact hlost.of_pure h
        · exact hlost.of_pure h
        · exact hlost.of_pure h
        next parsed hdecode =>
          have hrun := mapRun_afterCorrelated hcall hx (hbody body rfl) hdecode h
          exact hrun.mono fun hcancelled hall =>
            hcancelled ((uncancelled_append _ _).mp (hun hall)).2

end PacketCreate

theorem leaseCeiling_eq_some {n ceiling : ℕ} (h : leaseCeiling n = some ceiling) :
    ceiling = n ∧ mappingRequestedLeaseSec ≤ n ∧ n ≤ mappingMaximumLeaseSec := by
  grind [leaseCeiling]

theorem pcpClass_eq_success {result : ℕ} : pcpClass result = .success ↔ result = 0 :=
  ⟨fun h => (classFor_eq_success (show classFor .pcp result = .success from h)).2,
    fun h => by rw [h]; rfl⟩

theorem natpmpClass_eq_success {result : ℕ} : natpmpClass result = .success ↔ result = 0 :=
  ⟨fun h => (classFor_eq_success (show classFor .natPmp result = .success from h)).2,
    fun h => by rw [h]; rfl⟩

theorem packetCall_pcp {input : PcpMap} {ceiling : ℕ} (hceiling : ceiling = input.maximumLeaseSec) :
    PacketCall host gateway (.pcp input) (input.parts gateway ceiling) input.decode pcpClass where
  ceiling := hceiling
  refused hdecode hresult := ⟨_, hdecode, hresult⟩
  granted hdecode hversion hopcode hresult := ⟨_, hdecode, hversion, hopcode, hresult⟩
  success := pcpClass_eq_success
  owns _ _ _ _ _ := ⟨rfl, rfl, rfl, rfl, rfl, rfl⟩
  packet := nofun
  reserved h hdigest := by
    have hsome : (input.reservationFor gateway).isSome = true := h
    rw [Option.map_eq_none_iff.mp hdigest] at hsome
    exact absurd hsome (by decide)
  cleared := rfl
  control := rfl

theorem packetCall_natPmp {input : NatPmpMap} {ceiling : ℕ} {reservation : ExclusiveReservation}
    (hceiling : ceiling = input.maximumLeaseSec)
    (hreservation : input.exclusiveReservation = some reservation)
    (hauthorizes : reservation.authorizes gateway = true) :
    PacketCall host gateway (.natPmp input) (input.parts reservation ceiling) input.decode
      natpmpClass where
  ceiling := hceiling
  refused hdecode hresult := ⟨_, hdecode, hresult⟩
  granted hdecode hversion hopcode hresult := ⟨_, hdecode, hversion, hopcode, hresult⟩
  success := natpmpClass_eq_success
  owns _ _ _ _ _ := by
    refine ⟨rfl, rfl, rfl, ?_, nofun⟩
    rw [MappingInput.digestFor, MappingInput.reservation, hreservation, Option.filter_some,
      if_pos hauthorizes]
    rfl
  packet := nofun
  reserved _ := nofun
  cleared := rfl
  control := rfl

/-- A call that is refused before anything is sent. -/
theorem mapRun_localRefusal {input : MappingInput} {protocol : RouterProtocol}
    {refusal : MappingRefusal}
    (h : Yields (pure (localRefusal protocol refusal) : Control _) t e) :
    MapRun host gateway input (¬ Uncancelled t) (exchanges t) e := by
  obtain ⟨rfl, rfl⟩ := yields_pure.mp h
  refine .untouched (.inl rfl) (.inl rfl) rfl ?_
  cases refusal <;> exact nofun

/-- **Runs of `map_pcp`.** -/
theorem mapRun_pcp {input : PcpMap} (h : Yields (mapPcp gateway input) t e) :
    MapRun host gateway (.pcp input) (¬ Uncancelled t) (exchanges t) e := by
  unfold mapPcp at h
  split at h
  · exact mapRun_localRefusal h
  next ceiling hceiling =>
    split at h
    · exact mapRun_localRefusal h
    · split at h
      · exact mapRun_localRefusal h
      · split at h
        · exact mapRun_localRefusal h
        · exact mapRun_exchangeCreate (packetCall_pcp (leaseCeiling_eq_some hceiling).1) h

/-- **Runs of `map_nat_pmp`.** -/
theorem mapRun_natPmp {input : NatPmpMap} (h : Yields (mapNatPmp gateway input) t e) :
    MapRun host gateway (.natPmp input) (¬ Uncancelled t) (exchanges t) e := by
  unfold mapNatPmp at h
  split at h
  · exact mapRun_localRefusal h
  next ceiling hceiling =>
    split at h
    · exact mapRun_localRefusal h
    · split at h
      · exact mapRun_localRefusal h
      next reservation hreservation =>
        split at h
        · exact mapRun_localRefusal h
        next hauthorizes =>
          rw [Bool.not_eq_true', Bool.not_eq_false] at hauthorizes
          exact mapRun_exchangeCreate
            (packetCall_natPmp (leaseCeiling_eq_some hceiling).1 hreservation hauthorizes) h

/-! ## One SOAP request -/

section Attempt

variable {descriptor : IgdControlDescriptor} {action : SoapAction}

/-- A request that is well formed is not too long. -/
theorem soapRequest_eq_ok {request : RouterRequest}
    (h : soapRequest descriptor action = .ok request) :
    request = .soap descriptor action
      ∧ (soapText descriptor action).length ≤ upnpSoapMaxBytes := by
  grind [soapRequest]

theorem soapText_ne_nil : soapText descriptor action ≠ [] := by
  intro h
  have hlen := congrArg List.length h
  have hpost : (ascii "POST ").length = 5 := by decide
  simp only [soapText, List.length_append, List.length_nil, hpost] at hlen
  omega

/-- **One SOAP request**: nothing was sent, which happens only to a call
that is cancelled or to a request that cannot be sent, or the request was
sent and what is heard is what came back. -/
theorem yields_attempt {a : Attempt} (h : Yields (host.attempt gateway descriptor action) t a) :
    (exchanges t = [] ∧ (∃ refusal, a = .notSent refusal)
        ∧ (Uncancelled t → ¬ Sendable host gateway descriptor action))
      ∨ (Sendable host gateway descriptor action ∧ (∀ refusal, a ≠ .notSent refusal)
        ∧ ∃ x, exchanges t = [x] ∧ x.request = .soap descriptor action
          ∧ ∀ bytes, a = .body bytes → x.reply = .ok bytes) := by
  obtain ⟨u, hu, ⟨hstop, h⟩ | ⟨hun, h⟩⟩ := yields_unlessCancelled h
  · obtain ⟨rfl, rfl⟩ := yields_pure.mp h
    exact .inl ⟨hu, ⟨_, rfl⟩, fun hall => absurd hall hstop⟩
  · cases hrequest : soapRequest descriptor action with
    | error refusal =>
      rw [hrequest] at h
      obtain ⟨rfl, rfl⟩ := yields_pure.mp h
      refine .inl ⟨hu, ⟨_, rfl⟩, fun _ hsendable => ?_⟩
      cases hrequest.symm.trans hsendable.1
    | ok request =>
      obtain ⟨rfl, hlength⟩ := soapRequest_eq_ok hrequest
      rw [hrequest] at h
      obtain ⟨reply, hreply, rfl⟩ := yields_bind_pure.mp h
      rcases yields_exchangeUpnpSoap hreply with
        ⟨hnone, ⟨refusal, rfl⟩, hwhy⟩ | ⟨destination, hloc, -, -, reply, rfl, hheard⟩
      · refine .inl ⟨hu.trans hnone, ?_, fun hall hsendable => ?_⟩
        · cases refusal <;> exact ⟨_, rfl⟩
        · rcases hwhy (hun hall) with hempty | hlong | ⟨refusal, hrefused⟩
          · exact soapText_ne_nil hempty
          · exact absurd hlength (Nat.not_le_of_lt hlong)
          · obtain ⟨destination, hdestination⟩ := hsendable.2
            cases hdestination.symm.trans hrefused
      · obtain ⟨x, hex, -, hx, hbody⟩ := hheard
        refine .inr ⟨⟨hrequest, destination, hloc⟩, ?_, x, hu.trans hex, hx, ?_⟩
        · cases reply <;> exact nofun
        · intro bytes hbytes
          cases reply with
          | error refusal => cases hbytes
          | ok body =>
            obtain rfl := Attempt.body.inj hbytes
            exact hbody body rfl

end Attempt

/-! ## Deleting an owned mapping -/

section Delete

variable {reservation : Option ExclusiveReservation} {previousEpoch : Option ℕ}
  {control : Option IgdControlDescriptor}

theorem handle_ownedRefused : (ownedRefused handle).handle = some handle := by
  unfold ownedRefused
  split <;> rfl

/-- How a delete over UPnP ends, by the attempt. -/
theorem deleteEnd_ownedJudged {a : Attempt} {y : Exchange} (hprotocol : handle.protocol = .upnpIgd)
    (hsent : ∀ refusal, a ≠ .notSent refusal)
    (hy : ∀ bytes, a = .body bytes → y.reply = .ok bytes) :
    DeleteEnd handle y
      (ownedJudged handle (deleteAttempted a)).cleanup := by
  cases a with
  | notSent refusal => exact absurd rfl (hsent refusal)
  | sent refusal error => exact .unknown
  | body bytes =>
    show DeleteEnd handle y (ownedJudged handle (interpretDelete bytes)).cleanup
    cases hdelete : interpretDelete bytes with
    | notSent refusal => exact .unknown
    | confirmed =>
      refine .confirmed (hy bytes rfl) ?_
      rw [DeletedBy, hprotocol]
      exact hdelete
    | rejected => exact .failed
    | unknown refusal error => exact .unknown

theorem handle_ownedJudged {d : DeleteAttempt} :
    (ownedJudged handle d).handle = some handle := by
  cases d <;> exact handle_ownedRefused

theorem handle_ownedCancelled : (ownedCancelled handle).handle = some handle :=
  handle_ownedRefused

/-- A handle can be deleted here: the reservation goes with it, and over
UPnP so does the control URL. -/
def CanDelete (host : UpnpHost) (gateway : SelectedGateway) (handle : OwnedMappingHandle)
    (reservation : Option ExclusiveReservation) (control : Option IgdControlDescriptor) : Prop :=
  deleteAllowed handle gateway reservation = true
    ∧ (handle.protocol = .upnpIgd → ∃ c, control = some c
      ∧ host.controlMatches gateway handle c = true
      ∧ Sendable host gateway c (.deletePortMapping handle.externalPort handle.portProtocol))

theorem notDeleted_ownedCancelled : NotDeleted handle (ownedCancelled handle) := by
  refine ⟨?_, ?_, handle_ownedCancelled⟩ <;> grind [ownedCancelled]

/-- **Deleting over UPnP.** -/
theorem yields_deleteOwned (hprotocol : handle.protocol = .upnpIgd)
    (h : Yields (host.deleteOwned gateway handle control) t e) :
    (exchanges t = [] ∧ NotDeleted handle e
        ∧ (Uncancelled t → ∀ c, control = some c → host.controlMatches gateway handle c = true →
          ¬ Sendable host gateway c
            (.deletePortMapping handle.externalPort handle.portProtocol)))
      ∨ (control ≠ none ∧ ∃ y, exchanges t = [y] ∧ y.request = deleteRequestOf control handle
        ∧ DeleteEnd handle y e.cleanup ∧ e.handle = some handle) := by
  unfold deleteOwned at h
  split at h
  · obtain ⟨rfl, rfl⟩ := yields_pure.mp h
    exact .inl ⟨rfl, ⟨.inl rfl, nofun, rfl⟩, fun _ => nofun⟩
  next c =>
    split at h
    next hmismatch =>
      obtain ⟨rfl, rfl⟩ := yields_pure.mp h
      refine .inl ⟨rfl, ⟨.inl rfl, nofun, rfl⟩, fun _ c' hc hmatches => ?_⟩
      cases hc
      rcases hmismatch with hother | hother
      · exact absurd hprotocol hother
      · rw [hmatches] at hother
        exact absurd hother (by decide)
    · obtain ⟨u, hu, ⟨hstop, h⟩ | ⟨hun, h⟩⟩ := yields_unlessCancelled h
      · obtain ⟨rfl, rfl⟩ := yields_pure.mp h
        exact .inl ⟨hu, notDeleted_ownedCancelled, fun hall => absurd hall hstop⟩
      · obtain ⟨attempted, hattempted, rfl⟩ := yields_bind_pure.mp h
        obtain ⟨a, ha, rfl⟩ := yields_bind_pure.mp hattempted
        rcases yields_attempt ha with ⟨hnone, ⟨refusal, rfl⟩, hwhy⟩ | ⟨-, hsent, y, hex, hy, hbody⟩
        · refine .inl ⟨hu.trans hnone, ⟨.inl rfl, nofun, handle_ownedJudged⟩, ?_⟩
          intro hall c' hc _
          cases hc
          exact hwhy (hun hall)
        · exact .inr ⟨nofun, y, hu.trans hex, hy.trans (deleteRequestOf_upnp hprotocol).symm,
            deleteEnd_ownedJudged hprotocol hsent hbody, handle_ownedJudged⟩

/-- **Deleting an owned mapping**: nothing was sent, which happens only to a
call that is cancelled or to a handle that cannot be deleted here, or
exactly the delete of this handle was. -/
theorem yields_deleteOwnedMapping
    (h : Yields (host.deleteOwnedMapping gateway handle reservation previousEpoch control) t e) :
    (exchanges t = [] ∧ NotDeleted handle e
        ∧ (Uncancelled t → ¬ CanDelete host gateway handle reservation control))
      ∨ (deleteAllowed handle gateway reservation = true
        ∧ (handle.protocol = .upnpIgd → control ≠ none)
        ∧ ∃ y, exchanges t = [y] ∧ y.request = deleteRequestOf control handle
          ∧ DeleteEnd handle y e.cleanup ∧ e.handle = some handle) := by
  unfold deleteOwnedMapping at h
  split at h
  next hallowed =>
    rw [Bool.not_eq_true'] at hallowed
    obtain ⟨rfl, rfl⟩ := yields_pure.mp h
    refine .inl ⟨rfl, ⟨.inl rfl, nofun, rfl⟩, fun _ hcan => ?_⟩
    exact absurd (hallowed.symm.trans hcan.1) (by decide)
  next hallowed =>
    rw [Bool.not_eq_true', Bool.not_eq_false] at hallowed
    split at h
    next hprotocol =>
      rcases yields_deleteOwned hprotocol h with ⟨hnone, hnot, hwhy⟩ | hsent
      · refine .inl ⟨hnone, hnot, fun hall hcan => ?_⟩
        obtain ⟨c, hc, hmatches, hsendable⟩ := hcan.2 hprotocol
        exact hwhy hall c hc hmatches hsendable
      · exact .inr ⟨hallowed, fun _ => hsent.1, hsent.2⟩
    next hpacket =>
      rcases yields_sendDelete hpacket h with
        ⟨hnone, hnot, hcancelled⟩ | ⟨y, hex, hy, hend, hhandle, -⟩
      · exact .inl ⟨hnone, hnot, fun hall => absurd hall hcancelled⟩
      · exact .inr ⟨hallowed, fun hupnp => absurd hupnp hpacket, y, hex, hy control, hend, hhandle⟩

end Delete

/-! ## The create over UPnP -/

theorem length_decimal_mono {m n : ℕ} (h : m ≤ n) : (decimal m).length ≤ (decimal n).length := by
  have hpos : 0 < (Nat.toDigits 10 n).length := List.length_pos_of_ne_nil Nat.toDigits_ne_nil
  have hlt := (Nat.length_toDigits_le_iff (by decide) hpos).mp (Nat.le_refl _)
  rw [decimal, decimal, List.length_map, List.length_map]
  exact (Nat.length_toDigits_le_iff (by decide) hpos).mpr (Nat.lt_of_le_of_lt h hlt)

variable {descriptor : IgdControlDescriptor}

/-- The delete of a mapping is shorter than its add. -/
theorem length_soapText_delete_le {client : Ipv4Addr} {port : ℕ} {protocol : MappedPortProtocol} :
    (soapText descriptor (.deletePortMapping port protocol)).length
      ≤ (soapText descriptor (.addPortMapping client port protocol)).length := by
  have hdelete : (ascii "DeletePortMapping").length = 17 := by decide
  have hadd : (ascii "AddPortMapping").length = 14 := by decide
  have hfield : (ascii "<NewInternalPort>").length = 17 := by decide
  have henvelope : ((SoapAction.deletePortMapping port protocol).envelope
        descriptor.service.urn).length + 3
      ≤ ((SoapAction.addPortMapping client port protocol).envelope
        descriptor.service.urn).length := by
    simp only [SoapAction.envelope, SoapAction.name, SoapAction.fields, SoapAction.addFields,
      List.length_append, hdelete, hadd, hfield]
    omega
  have hdigits := length_decimal_mono (Nat.le_of_add_right_le henvelope)
  simp only [soapText, List.length_append, SoapAction.name, hdelete, hadd]
  omega

/-- Where an add can be sent, so can the delete of what it adds. -/
theorem sendable_delete {client : Ipv4Addr} {port : ℕ} {protocol : MappedPortProtocol}
    (h : Sendable host gateway descriptor (.addPortMapping client port protocol)) :
    Sendable host gateway descriptor (.deletePortMapping port protocol) := by
  have hle := @length_soapText_delete_le descriptor client port protocol
  grind [Sendable, soapRequest]

section UpnpCreate

variable {input : UpnpMap} {reservation : ExclusiveReservation} {ceiling lease : ℕ}

theorem classifyConfirm_eq_usable {body : List UInt8} {client : Ipv4Addr} {port : ℕ}
    {protocol : MappedPortProtocol}
    (h : classifyConfirm body client port protocol ceiling = .usable lease) :
    1 ≤ lease ∧ lease ≤ ceiling := by
  grind [classifyConfirm]

/-- A reply to the add that is neither a success nor unreadable has an error
code. -/
theorem errorCode_of_classifyAdd {body : List UInt8} {c : AddReply} (h : classifyAdd body = c)
    (haccepted : c ≠ .accepted) (hreadable : ∀ refusal, c ≠ .unreadable refusal) :
    ∃ view, readSoap body = .ok view ∧ view.errorCode ≠ none := by
  unfold classifyAdd at h
  split at h
  · exact absurd h.symm (hreadable _)
  next view hview =>
    split at h
    · exact absurd h.symm (hreadable _)
    · cases hcode : view.errorCode with
      | some code => exact ⟨view, hview, by rw [hcode]; exact nofun⟩
      | none =>
        rw [hcode] at h
        dsimp only at h
        split at h
        · exact absurd h.symm haccepted
        · exact absurd h.symm (hreadable _)

theorem fields_unusableReport {maximumLeaseSec : ℕ} {deleted : MappingEffect} :
    (unusableReport maximumLeaseSec lease deleted).cleanup = deleted.cleanup
      ∧ (unusableReport maximumLeaseSec lease deleted).handle = deleted.handle
      ∧ (unusableReport maximumLeaseSec lease deleted).outcome ≠ .succeeded := by
  have houtcome : ∀ p : Prop, [Decidable p] →
      (if p then TraversalOutcome.failed else .unsupportedFiniteLease) ≠ .succeeded := by
    intro p _
    split
    · exact nofun
    · exact nofun
  unfold unusableReport
  dsimp only
  split
  · exact ⟨rfl, rfl, houtcome _⟩
  · split
    · exact ⟨rfl, rfl, houtcome _⟩
    · exact ⟨rfl, rfl, houtcome _⟩

variable {a : Attempt} {t₁ t₂ : List (ControlCall × ControlReply)}

/-- What an attempt to look has exchanged is a look. -/
theorem looks_of_attempt
    (h : Yields (host.attempt gateway input.descriptor (probeAction input)) t a) :
    (MappingInput.upnp input).Looks (exchanges t) := by
  rcases yields_attempt h with ⟨hnone, -⟩ | ⟨-, -, z, hez, hz, -⟩
  · exact .inl hnone
  · exact .inr ⟨z, hez, hz⟩

variable (hreservation : input.exclusiveReservation = some reservation)
  (hauthorizes : reservation.authorizes gateway = true)
  (hgateway : input.descriptor.gateway = gateway.gateway)
include hreservation hauthorizes

theorem owns_ownedHandle : (MappingInput.upnp input).Owns host gateway
    (host.ownedHandle input reservation lease true) := by
  refine ⟨rfl, rfl, rfl, rfl, rfl, rfl, ?_, nofun⟩
  rw [MappingInput.digestFor, MappingInput.reservation, hreservation, Option.filter_some,
    if_pos hauthorizes]
  rfl

variable {looks more : List Exchange} {x : Exchange} {body : List UInt8}
  (hlooks : (MappingInput.upnp input).Cleared looks)
  (hx : x.request = (MappingInput.upnp input).create)
  (hreply : x.reply = .ok body) (hbody : classifyAdd body = .accepted)
  (hsendable : Sendable host gateway input.descriptor (addAction input))
include hgateway hlooks hx hreply hbody hsendable

/-- A lease that cannot be used is deleted at once. -/
theorem mapRun_cleanupUnusable (hmore : (MappingInput.upnp input).Looks more)
    (h : Yields (host.cleanupUnusable gateway input reservation lease) t e) :
    MapRun host gateway (.upnp input) (¬ Uncancelled t) (looks ++ x :: more ++ exchanges t) e := by
  obtain ⟨deleted, hdeleted, rfl⟩ := yields_bind_pure.mp h
  obtain ⟨hcleanup, hhandle, houtcome⟩ :=
    @fields_unusableReport lease input.maximumLeaseSec deleted
  have howns := @owns_ownedHandle host gateway input reservation lease hreservation hauthorizes
  have hcan : CanDelete host gateway (host.ownedHandle input reservation lease true)
      (some reservation) (some input.descriptor) := by
    refine ⟨?_, fun _ => ⟨_, rfl, ?_, sendable_delete hsendable⟩⟩
    · simp [deleteAllowed, ownedHandle, hauthorizes]
    · simp [controlMatches, ownedHandle, hgateway]
  rcases yields_deleteOwnedMapping hdeleted with
    ⟨hnone, hnot, hwhy⟩ | ⟨-, -, y, hex, hy, hend, hh⟩
  · rw [hnone, List.append_nil]
    refine .abandoned hlooks hx hreply hbody hmore (fun hall => hwhy hall hcan)
      (hhandle.trans hnot.handle) howns ?_ houtcome
    rw [hcleanup]
    exact hnot.kept
  · rw [hex]
    refine .deleted hlooks hx hreply hbody hmore hy ?_ (hhandle.trans hh) howns nofun
      fun hsucceeded => absurd hsucceeded houtcome
    rw [hcleanup]
    exact hend

/-- The second look at the entry decides. -/
theorem mapRun_afterConfirm (hceiling : ceiling = input.maximumLeaseSec)
    (hmore : (MappingInput.upnp input).Looks more)
    (h : Yields (host.afterConfirm gateway input reservation ceiling a) t e) :
    MapRun host gateway (.upnp input) (¬ Uncancelled t) (looks ++ x :: more ++ exchanges t) e := by
  have hlost : ∀ {refusal error}, MapRun host gateway (.upnp input) (¬ Uncancelled t)
      (looks ++ x :: more) (lostCreate 3 refusal error) :=
    .unknown hlooks hx hmore (.inr rfl) nofun nofun
  cases a with
  | notSent refusal | sent refusal error => exact hlost.of_pure h
  | body bytes =>
    unfold afterConfirm at h
    dsimp only at h
    split at h
    next lease husable =>
      have hlease := classifyConfirm_eq_usable husable
      rw [hceiling] at hlease
      refine .of_pure h (.adopted hlooks hx hreply hbody hmore rfl rfl rfl
        (owns_ownedHandle hreservation hauthorizes) rfl hlease rfl fun c hc => ?_)
      cases hc
      exact ⟨hgateway, sendable_delete hsendable⟩
    · exact mapRun_cleanupUnusable hreservation hauthorizes hgateway hlooks hx hreply hbody
        hsendable hmore h
    · exact hlost.of_pure h

omit hx hreply hbody hsendable

/-- The reply to the add decides whether there is a second look. -/
theorem mapRun_afterAdd (hceiling : ceiling = input.maximumLeaseSec)
    (ha : Yields (host.attempt gateway input.descriptor (addAction input)) t₁ a)
    (h : Yields (host.afterAdd gateway input reservation ceiling a) t₂ e) :
    MapRun host gateway (.upnp input) (¬ Uncancelled (t₁ ++ t₂)) (looks ++ exchanges (t₁ ++ t₂))
      e := by
  rw [exchanges_append]
  rcases yields_attempt ha with
    ⟨hnone, ⟨refusal, rfl⟩, -⟩ | ⟨hsendable, hsent, x, hex, hx, hheard⟩
  · rw [hnone]
    exact .of_pure h (.untouched hlooks.looks (.inl rfl) rfl nofun)
  · rw [hex, ← List.append_assoc]
    have hlost : ∀ {sent refusal error}, MapRun host gateway (.upnp input)
        (¬ Uncancelled (t₁ ++ t₂)) (looks ++ [x]) (lostCreate sent refusal error) :=
      .unknown hlooks hx (.inl rfl) (.inr rfl) nofun nofun
    cases a with
    | notSent refusal => exact absurd rfl (hsent refusal)
    | sent refusal error => exact hlost.of_pure h
    | body bytes =>
      unfold afterAdd at h
      dsimp only at h
      split at h
      case h_1 hclass | h_2 hclass | h_3 hclass =>
        exact .of_pure h (.refused hlooks hx (hheard bytes rfl)
          (errorCode_of_classifyAdd hclass nofun nofun) rfl rfl nofun)
      case h_4 => exact hlost.of_pure h
      case h_5 hclass =>
        obtain ⟨u, hu, ⟨hstop, h⟩ | ⟨hun, h⟩⟩ := yields_unlessCancelled h
        · rw [hu]
          exact hlost.of_pure h
        · obtain ⟨t₃, t₄, a, rfl, ha', h⟩ := yields_bind.mp h
          have hrun := mapRun_afterConfirm hreservation hauthorizes hgateway hlooks hx
            (hheard bytes rfl) hclass hsendable hceiling (looks_of_attempt ha') h
          rw [hu, exchanges_append, List.append_assoc]
          rw [List.append_assoc] at hrun
          refine hrun.mono fun hcancelled hall => hcancelled ?_
          have := hun ((uncancelled_append _ _).mp hall).2
          exact ((uncancelled_append _ _).mp this).2

omit hlooks

/-- The first look decides whether there is an add. -/
theorem mapRun_afterProbe (hceiling : ceiling = input.maximumLeaseSec)
    (ha : Yields (host.attempt gateway input.descriptor (probeAction input)) t₁ a)
    (h : Yields (host.afterProbe gateway input reservation ceiling a) t₂ e) :
    MapRun host gateway (.upnp input) (¬ Uncancelled (t₁ ++ t₂)) (exchanges (t₁ ++ t₂)) e := by
  have hlooks := looks_of_attempt ha
  rw [exchanges_append]
  -- where the look ends the call, nothing else was sent
  cases a with
  | notSent refusal =>
    exact .of_pure h (.untouched hlooks (.inl rfl) rfl (by cases refusal <;> exact nofun))
  | sent refusal error => exact .of_pure h (.untouched hlooks (.inl rfl) rfl nofun)
  | body bytes =>
    unfold afterProbe at h
    dsimp only at h
    split at h
    · exact .of_pure h (.untouched hlooks (.inl rfl) rfl nofun)
    · exact .of_pure h (.untouched hlooks (.inl rfl) rfl nofun)
    next habsent =>
      have hcleared : (MappingInput.upnp input).Cleared (exchanges t₁) := by
        rcases yields_attempt ha with ⟨-, ⟨refusal, hnot⟩, -⟩ | ⟨-, -, z, hez, hz, hheard⟩
        · cases hnot
        · exact ⟨z, bytes, hez, hz, hheard bytes rfl, habsent⟩
      obtain ⟨u, hu, ⟨hstop, h⟩ | ⟨hun, h⟩⟩ := yields_unlessCancelled h
      · rw [hu]
        exact .of_pure h (.untouched hlooks (.inl rfl) rfl nofun)
      · obtain ⟨t₃, t₄, a, rfl, ha', h⟩ := yields_bind.mp h
        rw [hu]
        refine (mapRun_afterAdd hreservation hauthorizes hgateway hcleared hceiling ha' h).mono
          fun hcancelled hall => hcancelled (hun ((uncancelled_append _ _).mp hall).2)

omit hreservation hauthorizes hgateway in
/-- **Runs of `map_upnp`.** -/
theorem mapRun_upnp (h : Yields (host.mapUpnp gateway input) t e) :
    MapRun host gateway (.upnp input) (¬ Uncancelled t) (exchanges t) e := by
  unfold mapUpnp at h
  split at h
  · exact mapRun_localRefusal h
  next ceiling hceiling =>
    split at h
    · exact mapRun_localRefusal h
    · split at h
      · exact mapRun_localRefusal h
      · split at h
        · exact mapRun_localRefusal h
        next reservation hreservation =>
          split at h
          · exact mapRun_localRefusal h
          next hgateway =>
            rw [not_or, Bool.not_eq_true', Bool.not_eq_false, not_ne_iff] at hgateway
            obtain ⟨t₁, t₂, a, rfl, ha, h⟩ := yields_bind.mp h
            exact mapRun_afterProbe hreservation hgateway.1 hgateway.2
              (leaseCeiling_eq_some hceiling).1 ha h

end UpnpCreate

/-- **Runs of an adapter.** -/
theorem mapRun_map {input : MappingInput} (h : Yields (input.map host gateway) t e) :
    MapRun host gateway input (¬ Uncancelled t) (exchanges t) e := by
  cases input with
  | pcp input => exact mapRun_pcp h
  | natPmp input => exact mapRun_natPmp h
  | upnp input => exact mapRun_upnp h

end Runs
