import RuntimeCargo.MappingRuns

/-!
# What the mapping adapters own

Two questions are settled here for the three adapters together. The first
is what a reported success means: a lease that is really held, with a
handle to delete it, and no longer than the caller allowed. The answer has
an exception. A grant above the caller's ceiling is refused and deleted,
but the helper that deletes measures it against two minutes and not against
that ceiling; so a lease between the two, once deleted, is reported as a
success (`success_sound_iff`). It happens exactly where the ceiling is
below two minutes, the protocol is PCP or NAT-PMP, and the caller holds the
reservation that lets it delete.

The second is whose mappings are deleted: only those whose create was sent
and granted in the same chain of calls, never one that stood in the table
before (`deletes_own_mappings`).
-/

open Program

/-! ## Calls that send something -/

namespace MappingInput

/-- The checks a call makes before it sends anything. -/
def Ready (gateway : SelectedGateway) : MappingInput → Prop
  | pcp input => mappingRequestedLeaseSec ≤ input.maximumLeaseSec
      ∧ input.maximumLeaseSec ≤ mappingMaximumLeaseSec
      ∧ mappingHighPortMin ≤ input.internalPort.toNat ∧ usableIpv4 input.localAddress = true
      ∧ input.nonce ≠ Vector.replicate 12 0
  | natPmp input => mappingRequestedLeaseSec ≤ input.maximumLeaseSec
      ∧ input.maximumLeaseSec ≤ mappingMaximumLeaseSec
      ∧ mappingHighPortMin ≤ input.internalPort.toNat
      ∧ ∃ r, input.exclusiveReservation = some r ∧ r.authorizes gateway = true
  | upnp input => ∃ r, input.exclusiveReservation = some r ∧ r.authorizes gateway = true

/-- The caller holds the reservation of this gateway. -/
def Reserved (input : MappingInput) (gateway : SelectedGateway) : Prop :=
  ∃ r, input.reservation = some r ∧ r.authorizes gateway = true

theorem reserved_of_digestFor {input : MappingInput} {gateway : SelectedGateway}
    (h : input.digestFor gateway ≠ none) : input.Reserved gateway := by
  cases hreservation : input.reservation.filter (·.authorizes gateway) with
  | none => exact absurd (by rw [digestFor, hreservation]; rfl) h
  | some r =>
    obtain ⟨hr, hauthorizes⟩ := Option.filter_eq_some_iff.mp hreservation
    exact ⟨r, hr, hauthorizes⟩

theorem digest_of_owns {host : UpnpHost} {gateway : SelectedGateway} {input : MappingInput}
    {h : OwnedMappingHandle} (howns : input.Owns host gateway h) :
    h.reservationDigest = input.digestFor gateway := by
  cases input with
  | pcp input => exact howns.2.2.2.2.2
  | natPmp input => exact howns.2.2.2.1
  | upnp input => exact howns.2.2.2.2.2.2.1

end MappingInput

section Ready

variable {host : UpnpHost} {gateway : SelectedGateway} {input : MappingInput}
  {t : List (ControlCall × ControlReply)} {e : MappingEffect}

/-- A call that has returned at once has exchanged nothing. -/
theorem exchanges_pure {a : MappingEffect} (h : Yields (pure a : Control _) t e) :
    exchanges t = [] := by
  rw [(yields_pure.mp h).1]
  rfl

/-- **Nothing is sent before the checks are passed.** -/
theorem ready_of_exchanges (h : Yields (input.map host gateway) t e) (hne : exchanges t ≠ []) :
    input.Ready gateway := by
  cases input with
  | pcp input =>
    unfold MappingInput.map mapPcp at h
    grind [exchanges_pure, leaseCeiling_eq_some, MappingInput.Ready]
  | natPmp input =>
    unfold MappingInput.map mapNatPmp at h
    grind [exchanges_pure, leaseCeiling_eq_some, MappingInput.Ready]
  | upnp input =>
    unfold MappingInput.map UpnpHost.mapUpnp at h
    grind [exchanges_pure, MappingInput.Ready]

end Ready

/-! ## A run in which a deleted lease is a success

Runs are put together here the way they were taken apart before, for a
router that grants two minutes and confirms the delete. -/

section Misreport

variable {gateway : SelectedGateway} {α : Type}

theorem yields_go {stop go : Control α} {u : List (ControlCall × ControlReply)} {a : α}
    (h : Yields go u a) :
    Yields (do if ← askCancelled then stop else go) ((.cancelled, .flag false) :: u) a :=
  yields_bind.mpr ⟨[(.cancelled, .flag false)], u, false, rfl,
    yields_askCancelled.mpr ⟨_, rfl, rfl⟩, h⟩

/-- The calls of one exchange that is not cancelled. -/
def exchangeTrace (gateway : SelectedGateway) (request : RouterRequest) (body : List UInt8) :
    List (ControlCall × ControlReply) :=
  [(.cancelled, .flag false),
    (.exchange ⟨gateway.gateway, routerControlPort⟩ request controlMaxBytes, .exchanged (.ok body)),
    (.cancelled, .flag false)]

theorem yields_exchangeTrace {request : RouterRequest} {body : List UInt8}
    (hne : request.bytes ≠ []) (hle : request.bytes.length ≤ controlMaxBytes)
    (hbody : body.length ≤ controlMaxBytes) :
    Yields (exchangeWithGateway gateway request) (exchangeTrace gateway request body) (.ok body) := by
  refine yields_go ?_
  rw [if_neg hne, if_neg (Nat.not_lt_of_le hle)]
  refine yields_bind.mpr ⟨[_], [_], .ok body, rfl, yields_exchange.mpr ⟨_, rfl, rfl⟩, ?_⟩
  refine yields_go ?_
  rw [if_neg (Nat.not_lt_of_le hbody)]
  exact .done _

variable {parts : MapParts} {decode : List UInt8 → Except DecodeFault (Parsed × Bool)}
  {classOf : ℕ → ServerClass} {request : RouterRequest} {parsed answered : Parsed}

/-- A delete that is confirmed is a success, if the lease was one of at most
two minutes. -/
theorem deleteJudged_confirmed {handle : OwnedMappingHandle} {previousEpoch n : ℕ}
    {gone : List UInt8}
    (hanswered : decodeFor handle.protocol gone = .ok answered)
    (hmatches : deleteMatches handle answered = true) (hepoch : previousEpoch ≤ answered.epoch)
    (hsuccess : classFor handle.protocol answered.result = .success) (hzero : answered.lifetime = 0)
    (hlease : 1 ≤ handle.grantedLifetimeSec
      ∧ handle.grantedLifetimeSec ≤ mappingMaximumLeaseSec) :
    (deleteJudged handle (some previousEpoch) n (.ok gone)).outcome = .succeeded
      ∧ (deleteJudged handle (some previousEpoch) n (.ok gone)).cleanup = .confirmedDeleted := by
  have hrebooted : rebooted (some previousEpoch) answered.epoch = false :=
    decide_eq_false (Nat.not_lt_of_le hepoch)
  have hstart : (deleteStart handle n).refusal = none := by
    rw [deleteStart, if_neg (by omega)]
    rfl
  simp only [deleteJudged, hanswered, hmatches, hrebooted, hsuccess, hzero, hstart, Bool.not_true,
    Bool.or_self, Bool.false_eq_true, if_false, and_self, if_true]

/-- **A grant above the ceiling and below two minutes, once deleted, is
reported as a success.** -/
theorem exists_misreport (body gone : List UInt8) (hne : request.bytes ≠ [])
    (hle : request.bytes.length ≤ controlMaxBytes)
    (hbody : body.length ≤ controlMaxBytes) (hgone : gone.length ≤ controlMaxBytes)
    (hdecode : decode body = .ok (parsed, true)) (hversion : parsed.versionOk = true)
    (hopcode : parsed.opcodeOk = true) (hclass : classOf parsed.result = .success)
    (hip : ¬(parsed.assignedIp = none ∧ parts.protocol = .pcp))
    (hceiling : parts.ceiling < parsed.lifetime) (hlifetime : parsed.lifetime = mappingMaximumLeaseSec)
    (hauthorized : parts.reservationAuthorizesDelete = true)
    (hpacket : parts.protocol ≠ .upnpIgd)
    (hanswered : decodeFor parts.protocol gone = .ok answered)
    (hmatches : deleteMatches (correlatedHandle parts parsed.assignedPort parsed.lifetime
      parsed.epoch true) answered = true) (hepoch : parsed.epoch ≤ answered.epoch)
    (hsuccess : classFor parts.protocol answered.result = .success)
    (hzero : answered.lifetime = 0) :
    ∃ t e, Yields (exchangeCreate parts gateway request decode classOf) t e
      ∧ e.outcome = .succeeded ∧ e.cleanup = .confirmedDeleted := by
  have hfinite : finiteGrant parts.ceiling parsed.lifetime = false := by
    rw [finiteGrant, Bool.and_eq_false_iff]
    exact .inr (decide_eq_false (Nat.not_le_of_lt hceiling))
  let handle := correlatedHandle parts parsed.assignedPort parsed.lifetime parsed.epoch true
  let judged := deleteJudged handle (some parsed.epoch) 1 (.ok gone)
  obtain ⟨hdeleteNe, hdeleteLe⟩ := @bytes_deletePacket handle hpacket
  have hlease : 1 ≤ parsed.lifetime ∧ parsed.lifetime ≤ mappingMaximumLeaseSec := by
    rw [hlifetime]
    decide
  obtain ⟨houtcome, hcleanup⟩ : judged.outcome = .succeeded ∧ judged.cleanup = .confirmedDeleted :=
    deleteJudged_confirmed hanswered hmatches hepoch hsuccess hzero hlease
  let deleting := (ControlCall.cancelled, ControlReply.flag false)
    :: (exchangeTrace gateway (deletePacket handle) gone ++ [])
  let ended := { judged with gatewayRebooted :=
    judged.gatewayRebooted || rebooted parts.previousEpoch parsed.epoch }
  -- the delete, then the refusal that sends it, then what leads to the refusal
  have hsend : Yields (sendDelete handle gateway (deletePacket handle) (some parsed.epoch) 1)
      deleting judged :=
    yields_go (yields_bind.mpr
      ⟨_, _, _, rfl, yields_exchangeTrace hdeleteNe hdeleteLe hgone, .done _⟩)
  have hadopt : Yields (adoptOrRefuse (heard parts parsed) parts parsed gateway) deleting
      judged := by
    unfold adoptOrRefuse
    rw [if_neg hip, hfinite, hauthorized, if_neg (fun h => absurd h.2 Bool.false_ne_true)]
    exact hsend
  have hcorrelated : Yields (afterCorrelated parts gateway classOf parsed) (deleting ++ [])
      ended := by
    unfold afterCorrelated
    dsimp only
    rw [hversion, hopcode, hclass, hfinite, Bool.and_false, Bool.false_and]
    exact yields_bind.mpr ⟨_, _, _, rfl, hadopt, .done _⟩
  have hafter : Yields (afterCreate parts gateway decode classOf (.ok body)) (deleting ++ [])
      ended := by
    unfold afterCreate
    dsimp only
    rw [hdecode]
    exact hcorrelated
  exact ⟨_, ended, yields_go (yields_bind.mpr
    ⟨_, _, _, rfl, yields_exchangeTrace hne hle hbody, hafter⟩), houtcome, hcleanup⟩

end Misreport

/-! ### Replies of such a router -/

theorem exists_nonce (nonce : MappingNonce) :
    ∃ a b c d e f g h i j k l, nonce.toList = [a, b, c, d, e, f, g, h, i, j, k, l] := by
  have hlen : nonce.toList.length = 12 := nonce.length_toList
  match nonce.toList, hlen with
  | [a, b, c, d, e, f, g, h, i, j, k, l], _ => exact ⟨a, b, c, d, e, f, g, h, i, j, k, l, rfl⟩

/-- A PCP success for a call, with the lease and the port 40000. -/
def pcpReply (input : PcpMap) (lifetime : UInt8) : List UInt8 :=
  [2, 0x81, 0, 0, 0, 0, 0, lifetime, 0, 0, 0, 0] ++ List.replicate 12 0 ++ input.nonce.toList
    ++ [input.protocol.pcp, 0, 0, 0] ++ beBytes 2 input.internalPort.toNat ++ [0x9c, 0x40]
    ++ ipv4Mapped ⟨192, 0, 2, 1⟩

/-- A NAT-PMP success for a call, with the lease and the port 40000. -/
def natPmpReply (input : NatPmpMap) (lifetime : UInt8) : List UInt8 :=
  [0, 0x80 + input.protocol.natpmp, 0, 0, 0, 0, 0, 0] ++ beBytes 2 input.internalPort.toNat
    ++ [0x9c, 0x40, 0, 0, 0, lifetime]

/-- What such a reply says over PCP. -/
def pcpGrant (input : PcpMap) (lifetime : UInt8) : Parsed where
  versionOk := true
  opcodeOk := true
  result := 0
  lifetime := lifetime.toNat
  epoch := 0
  protocol := input.protocol.pcp
  internalPort := input.internalPort.toNat
  assignedPort := 40000
  nonce := some input.nonce.toList
  assignedIp := some ⟨192, 0, 2, 1⟩

/-- What such a reply says over NAT-PMP. -/
def natPmpGrant (input : NatPmpMap) (lifetime : UInt8) : Parsed where
  versionOk := true
  opcodeOk := true
  result := 0
  lifetime := lifetime.toNat
  epoch := 0
  protocol := input.protocol.natpmp
  internalPort := input.internalPort.toNat
  assignedPort := 40000
  nonce := none
  assignedIp := none

theorem length_pcpReply {input : PcpMap} {lifetime : UInt8} :
    (pcpReply input lifetime).length = 60 := by
  simp [pcpReply, ipv4Mapped, Ipv4Addr.octets, length_beBytes]

theorem length_natPmpReply {input : NatPmpMap} {lifetime : UInt8} :
    (natPmpReply input lifetime).length = 16 := by
  simp [natPmpReply, length_beBytes]

theorem decodePcp_pcpReply (input : PcpMap) (lifetime : UInt8) :
    decodePcp (pcpReply input lifetime) = .ok (pcpGrant input lifetime) := by
  obtain ⟨a, b, c, d, e, f, g, h, i, j, k, l, hnonce⟩ := exists_nonce input.nonce
  have hlt := input.internalPort.toNat_lt
  have hlen := @length_pcpReply input lifetime
  rw [decodePcp, if_neg (by rw [hlen]; decide), if_neg (by rw [hlen]; decide), pcpReply, hnonce]
  simp [byteAt, u16At, u32At, ipv4Mapped, Ipv4Addr.octets, mappedIpv4, beBytes, pcpGrant, hnonce]
  exact ⟨by omega, by decide⟩

theorem decodeNatpmp_natPmpReply (input : NatPmpMap) (lifetime : UInt8) :
    decodeNatpmp (natPmpReply input lifetime) = .ok (natPmpGrant input lifetime) := by
  have hlt := input.internalPort.toNat_lt
  have hlen := @length_natPmpReply input lifetime
  rw [decodeNatpmp, if_neg (by rw [hlen]; decide), if_neg (by rw [hlen]; decide), natPmpReply]
  cases hprotocol : input.protocol with
  | tcp | udp =>
    simp [byteAt, u16At, u32At, beBytes, natPmpGrant, hprotocol, MappedPortProtocol.natpmp,
      MappedPortProtocol.fromNatpmp]
    exact ⟨by decide, by decide, by omega⟩

/-! ## What a reported success means -/

/-- A create that is reported as a success holds a lease of at most the
ceiling, with a handle that may be deleted. -/
def SoundSuccess (ceiling : ℕ) (e : MappingEffect) : Prop :=
  e.outcome = .succeeded → e.cleanup = .leaseExpiryPending
    ∧ ∃ h, e.handle = some h ∧ h.cleanupAuthorized = true ∧ 1 ≤ h.grantedLifetimeSec
      ∧ h.grantedLifetimeSec ≤ ceiling ∧ e.grantedLifetimeSec = some h.grantedLifetimeSec

namespace MappingInput

/-- The call is over PCP or NAT-PMP. -/
def IsPacket : MappingInput → Prop
  | upnp _ => False
  | _ => True

/-- **Where a deleted lease is reported as a success**: the call passes its
checks, it may delete, and its ceiling is below two minutes. -/
def Misreports (input : MappingInput) (gateway : SelectedGateway) : Prop :=
  input.IsPacket ∧ input.Ready gateway ∧ input.Reserved gateway
    ∧ input.maximumLeaseSec < mappingMaximumLeaseSec

end MappingInput

section Success

variable {host : UpnpHost} {gateway : SelectedGateway} {input : MappingInput}

theorem soundSuccess_of_not_misreports {t : List (ControlCall × ControlReply)} {e : MappingEffect}
    (hinput : ¬ input.Misreports gateway) (h : Yields (input.map host gateway) t e) :
    SoundSuccess input.maximumLeaseSec e := by
  intro houtcome
  have hrun := mapRun_map h
  have hready := ready_of_exchanges h
  generalize exchanges t = xs at hrun hready
  cases hrun with
  | untouched _ _ _ hnot | refused _ _ _ _ _ _ hnot | unknown _ _ _ _ _ hnot
  | abandoned _ _ _ _ _ _ _ _ _ hnot =>
    exact absurd houtcome hnot
  | adopted _ _ _ _ _ hend _ hhandle _ hauthorized hlease hgranted =>
    exact ⟨hend, _, hhandle, hauthorized, hlease.1, hlease.2, hgranted⟩
  | deleted _ _ _ _ _ _ _ _ howns hreserved hsucceeded =>
    obtain ⟨hpacket, hceiling⟩ := hsucceeded houtcome
    refine absurd ⟨?_, hready (by simp), ?_, hceiling⟩ hinput
    · cases input with
      | pcp input | natPmp input => trivial
      | upnp input => exact hpacket howns.1
    · rw [MappingInput.digest_of_owns howns] at hreserved
      exact MappingInput.reserved_of_digestFor hreserved

theorem exists_misreport_pcp {input : PcpMap} (h : (MappingInput.pcp input).Misreports gateway) :
    ∃ t e, Yields (mapPcp gateway input) t e ∧ e.outcome = .succeeded
      ∧ e.cleanup = .confirmedDeleted := by
  obtain ⟨-, ⟨hlow, hhigh, hport, husable, hnonce⟩, ⟨r, hr, hauthorizes⟩, hceiling⟩ := h
  have hmap : mapPcp gateway input = exchangeCreate (input.parts gateway input.maximumLeaseSec)
      gateway input.request input.decode pcpClass := by
    rw [mapPcp, leaseCeiling, if_pos ⟨hlow, hhigh⟩]
    dsimp only
    rw [if_neg (Nat.not_lt_of_le hport), husable, if_neg (by decide), if_neg hnonce]
  have hreserved : (input.reservationFor gateway).isSome = true := by
    rw [PcpMap.reservationFor, show input.exclusiveReservation = some r from hr,
      Option.filter_some, if_pos hauthorizes]
    rfl
  have hsize : input.request.bytes.length = 60 := RouterRequest.length_bytes_pcp
  have hne : input.request.bytes ≠ [] := List.ne_nil_of_length_pos (by rw [hsize]; decide)
  have hdecode : input.decode (pcpReply input 120) = .ok (pcpGrant input 120, true) := by
    rw [PcpMap.decode, decodePcp_pcpReply]
    simp [Except.map, pcpGrant]
  rw [hmap]
  refine exists_misreport (pcpReply input 120) (pcpReply input 0) hne (by rw [hsize]; decide)
    (by rw [length_pcpReply]; decide) (by rw [length_pcpReply]; decide) hdecode rfl rfl rfl
    (by rintro ⟨⟨⟩, -⟩) hceiling rfl hreserved (by rintro ⟨⟩) (decodePcp_pcpReply input 0) ?_ (Nat.le_refl _) rfl rfl
  simp [deleteMatches, correlatedHandle, PcpMap.parts, pcpGrant]

theorem exists_misreport_natPmp {input : NatPmpMap}
    (h : (MappingInput.natPmp input).Misreports gateway) :
    ∃ t e, Yields (mapNatPmp gateway input) t e ∧ e.outcome = .succeeded
      ∧ e.cleanup = .confirmedDeleted := by
  obtain ⟨-, ⟨hlow, hhigh, hport, r, hr, hauthorizes⟩, -, hceiling⟩ := h
  have hmap : mapNatPmp gateway input = exchangeCreate (input.parts r input.maximumLeaseSec)
      gateway input.request input.decode natpmpClass := by
    rw [mapNatPmp, leaseCeiling, if_pos ⟨hlow, hhigh⟩]
    dsimp only
    rw [if_neg (Nat.not_lt_of_le hport), hr]
    dsimp only
    rw [hauthorizes, if_neg (by decide)]
  have hsize : input.request.bytes.length = 12 := RouterRequest.length_bytes_natPmp
  have hne : input.request.bytes ≠ [] := List.ne_nil_of_length_pos (by rw [hsize]; decide)
  have hdecode : input.decode (natPmpReply input 120) = .ok (natPmpGrant input 120, true) := by
    rw [NatPmpMap.decode, decodeNatpmp_natPmpReply]
    simp [Except.map, natPmpGrant]
  rw [hmap]
  refine exists_misreport (natPmpReply input 120) (natPmpReply input 0) hne
    (by rw [hsize]; decide) (by rw [length_natPmpReply]; decide)
    (by rw [length_natPmpReply]; decide) hdecode rfl rfl rfl (by rintro ⟨-, ⟨⟩⟩) hceiling rfl
    rfl (by rintro ⟨⟩) (decodeNatpmp_natPmpReply input 0) ?_ (Nat.le_refl _) rfl rfl
  cases hprotocol : input.protocol <;>
    simp [deleteMatches, correlatedHandle, NatPmpMap.parts, natPmpGrant, hprotocol,
      MappedPortProtocol.natpmp, MappedPortProtocol.fromNatpmp]

/-- **A reported success is a held lease**, whatever the router replies – except
where a lease between the ceiling and two minutes is deleted. -/
theorem success_sound_iff (host : UpnpHost) (gateway : SelectedGateway) (input : MappingInput) :
    (∀ t e, Yields (input.map host gateway) t e → SoundSuccess input.maximumLeaseSec e)
      ↔ ¬ input.Misreports gateway := by
  constructor
  · intro hsound hinput
    have hbad : ∃ t e, Yields (input.map host gateway) t e ∧ e.outcome = .succeeded
        ∧ e.cleanup = .confirmedDeleted := by
      cases input with
      | pcp input => exact exists_misreport_pcp hinput
      | natPmp input => exact exists_misreport_natPmp hinput
      | upnp input => exact hinput.1.elim
    obtain ⟨t, e, hyields, houtcome, hcleanup⟩ := hbad
    have hpending := (hsound t e hyields houtcome).1
    cases hcleanup.symm.trans hpending
  · exact fun hinput t e h => soundSuccess_of_not_misreports hinput h

end Success

namespace OwnershipSample

/-- A gateway. -/
def gateway : SelectedGateway := ⟨⟨192, 0, 2, 1⟩⟩

/-- The reservation of it. -/
def reservation : ExclusiveReservation :=
  ⟨⟨192, 0, 2, 1⟩, Vector.replicate 32 9, by decide, by decide⟩

/-- A caller that allows a minute. -/
def pcp : PcpMap where
  localAddress := ⟨192, 0, 2, 10⟩
  internalPort := 40000
  protocol := .udp
  nonce := ⟨#[110, 111, 110, 99, 101, 45, 98, 121, 116, 101, 115, 33], rfl⟩
  maximumLeaseSec := 60
  previousEpoch := none
  exclusiveReservation := some reservation

/-- The control URL `http://192.0.2.1:5000/ctl`. -/
def control : IgdControlDescriptor := ⟨.wanIpConnection, ⟨192, 0, 2, 1⟩, 5000, ascii "/ctl", by decide⟩

/-- That URL, taken apart. -/
def url : HttpUrl where
  scheme := ascii "http"
  username := []
  password := none
  host := some (.ipv4 ⟨192, 0, 2, 1⟩)
  port := some 5000
  path := ascii "/ctl"
  query := none
  fragment := none

/-- The crates, on this URL and its fingerprint. -/
def host : UpnpHost where
  urls :=
    { parse := fun raw => if raw = control.controlTarget then some url else none
      join := fun _ _ => none
      path_noHash := by
        intro raw parsed h
        split at h
        · cases h
          decide
        · cases h
      query_noHash := by
        intro raw parsed query h hquery
        split at h
        · rw [← Option.some.inj h] at hquery
          cases hquery
        · exact absurd h nofun }
  sha256 := fun _ => ⟨#[215, 25, 85, 106, 175, 107, 53, 136, 4, 118, 80, 47, 163, 100, 231, 206, 26,
    134, 117, 55, 171, 110, 73, 153, 182, 67, 254, 186, 33, 76, 220, 233], rfl⟩

/-- The router grants two minutes and then confirms the delete. -/
def replies : List ControlReply :=
  [.flag false, .flag false, .exchanged (.ok (pcpReply pcp 120)), .flag false, .flag false,
    .flag false, .exchanged (.ok (pcpReply pcp 0)), .flag false]

end OwnershipSample

open OwnershipSample in
/-- A lease of two minutes, refused by a caller that allows one, is deleted
and reported as a success without a lease. -/
theorem deleted_lease_reported_as_success :
    ∃ t e, Yields (mapPcp gateway pcp) t e
      ∧ pcp.maximumLeaseSec = 60 ∧ e.grantedLifetimeSec = some 120
      ∧ e.outcome = .succeeded ∧ e.cleanup = .confirmedDeleted := by
  have hrun : ((mapPcp gateway pcp).feed replies).map (fun x =>
      (x.2.grantedLifetimeSec, x.2.outcome, x.2.cleanup))
      = some (some 120, .succeeded, .confirmedDeleted) := by decide +kernel
  obtain ⟨⟨t, e⟩, hfeed, heq⟩ := Option.map_eq_some_iff.mp hrun
  obtain ⟨hgranted, hrest⟩ := Prod.mk.inj heq
  obtain ⟨houtcome, hcleanup⟩ := Prod.mk.inj hrest
  exact ⟨t, e, yields_of_feed hfeed, rfl, hgranted, houtcome, hcleanup⟩

/-! ## Whose mappings are deleted -/

/-- A delete names the mapping of a create: the protocol and the port, over
PCP also the client and the nonce. -/
def SameMapping : RouterRequest → RouterRequest → Prop
  | .pcp client protocol port _ nonce _, .pcp client' protocol' port' _ nonce' _ =>
    client' = client ∧ protocol' = protocol ∧ port' = port ∧ nonce' = nonce
  | .natPmp protocol port _ _, .natPmp protocol' port' _ _ => protocol' = protocol ∧ port' = port
  | .soap _ (.addPortMapping _ port protocol), .soap _ (.deletePortMapping port' protocol') =>
    port' = port ∧ protocol' = protocol
  | _, _ => False

/-- A delete is of a mapping whose create was sent in this run and whose
success was received. -/
def OfGranted (input : MappingInput) (earlier : List Exchange) (delete : RouterRequest) : Prop :=
  ∃ y ∈ earlier, y.request = input.create ∧ SameMapping input.create delete
    ∧ ∃ body, y.reply = .ok body ∧ input.GrantedBy body

/-- **Only own mappings are touched.** -/
structure TouchesOwn (host : UpnpHost) (gateway : SelectedGateway) (input : MappingInput)
    (xs : List Exchange) (e : MappingEffect) : Prop where
  /-- NAT-PMP and UPnP only with the reservation of this gateway. -/
  reserved : ∀ x ∈ xs, x.request.needsReservation = true →
    ∃ r, input.reservation = some r ∧ r.gateway = gateway.gateway
  /-- A delete within the call. -/
  inline : ∀ before x after, xs = before ++ x :: after → x.request.isDelete = true →
    OfGranted input before x.request
  /-- A delete of the handle, in a later call. -/
  later : ∀ handle, e.handle = some handle → ∀ gateway' reservation epoch control u e',
    Yields (host.deleteOwnedMapping gateway' handle reservation epoch control) u e' →
    e'.handle = some handle ∧ ∀ x ∈ exchanges u, OfGranted input xs x.request
      ∧ (x.request.needsReservation = true →
        ∃ r, reservation = some r ∧ r.gateway = gateway'.gateway)
  /-- There is at most one add. -/
  oneAdd : (xs.countP fun x => x.request.isAdd) ≤ 1
  /-- It follows a look at the same entry, answered as absent. -/
  cleared : ∀ before x after, xs = before ++ x :: after → x.request.isAdd = true →
    ∃ y ∈ before, ∃ descriptor client port protocol body,
      x.request = .soap descriptor (.addPortMapping client port protocol)
        ∧ y.request = .soap descriptor (.getSpecificPortMappingEntry port protocol)
        ∧ y.reply = .ok body ∧ classifyProbe body = .absent
  /-- A mapping that is seen before the add stays. -/
  observed : ∀ before y after body, xs = before ++ y :: after →
    (∀ x ∈ before, x.request.isAdd = false) → y.request.isLook = true → y.reply = .ok body →
    classifyProbe body = .present → (∀ x ∈ xs, x.request.isDelete = false) ∧ e.handle = none

section Touches

variable {host : UpnpHost} {gateway : SelectedGateway} {input : MappingInput}

theorem isLook_of_looks {xs : List Exchange} (h : input.Looks xs) :
    ∀ x ∈ xs, x.request.isLook = true := by
  intro x hx
  rcases h with rfl | ⟨y, rfl, hy⟩
  · cases hx
  · rw [List.mem_singleton] at hx
    cases input with
    | pcp input | natPmp input => exact hy.elim
    | upnp input =>
      rw [hx, show y.request = _ from hy]
      rfl

/-- The requests of one kind are none of another. -/
theorem kinds_of_isLook {r : RouterRequest} (h : r.isLook = true) :
    r.isAdd = false ∧ r.isDelete = false := by
  cases r with
  | soap descriptor action =>
    cases action with
    | getSpecificPortMappingEntry port protocol => exact ⟨rfl, rfl⟩
    | addPortMapping client port protocol | deletePortMapping port protocol => cases h
  | pcp | natPmp | empty => cases h

theorem create_isDelete : input.create.isDelete = false ∧ input.create.isLook = false := by
  cases input with
  | pcp input | natPmp input | upnp input => exact ⟨rfl, rfl⟩

variable {h : OwnedMappingHandle}

/-- The delete of an own handle names the mapping of the create. -/
theorem delete_of_owns {control : Option IgdControlDescriptor} (howns : input.Owns host gateway h)
    (hcontrol : h.protocol = .upnpIgd → control ≠ none) :
    SameMapping input.create (deleteRequestOf control h)
      ∧ (deleteRequestOf control h).isDelete = true
      ∧ (deleteRequestOf control h).isAdd = false
      ∧ (deleteRequestOf control h).needsReservation = input.create.needsReservation := by
  cases input with
  | pcp input =>
    obtain ⟨hprotocol, hport, hinternal, hclient, hnonce, -⟩ := howns
    rw [deleteRequestOf_packet (by rw [hprotocol]; exact nofun), deletePacket, hprotocol]
    refine ⟨⟨hclient, hport, hinternal, ?_⟩, rfl, rfl, rfl⟩
    rw [hnonce]
    rfl
  | natPmp input =>
    obtain ⟨hprotocol, hport, hinternal, -⟩ := howns
    rw [deleteRequestOf_packet (by rw [hprotocol]; exact nofun), deletePacket, hprotocol]
    exact ⟨⟨hport, hinternal⟩, rfl, rfl, rfl⟩
  | upnp input =>
    obtain ⟨hprotocol, hport, -, hexternal, -⟩ := howns
    obtain ⟨c, rfl⟩ := Option.ne_none_iff_exists'.mp (hcontrol hprotocol)
    rw [deleteRequestOf_upnp hprotocol]
    exact ⟨⟨hexternal, hport⟩, rfl, rfl, rfl⟩

/-- The control URL of a call over UPnP is there. -/
theorem control_of_owns (howns : input.Owns host gateway h) :
    h.protocol = .upnpIgd → input.control ≠ none := by
  intro hprotocol
  cases input with
  | pcp input | natPmp input => exact absurd (howns.1.symm.trans hprotocol) nofun
  | upnp input => exact nofun

variable (host gateway input) in
/-- **The exchanges of a call**: looks alone, or a create that was cleared,
perhaps with a look and a delete of what was granted after it. -/
inductive CallShape : List Exchange → Prop
  | looks {xs : List Exchange} (hlooks : input.Looks xs) : CallShape xs
  | create {looks more : List Exchange} {x : Exchange} (hlooks : input.Cleared looks)
      (hx : x.request = input.create) (hmore : input.Looks more) : CallShape (looks ++ x :: more)
  | delete {looks more : List Exchange} {x y : Exchange} {body : List UInt8}
      {h : OwnedMappingHandle} (hlooks : input.Cleared looks) (hx : x.request = input.create)
      (hreply : x.reply = .ok body) (hbody : input.GrantedBy body) (hmore : input.Looks more)
      (hy : y.request = deleteRequestOf input.control h) (howns : input.Owns host gateway h) :
      CallShape (looks ++ x :: (more ++ [y]))

variable {cancelled : Prop} {xs : List Exchange} {e : MappingEffect}

theorem callShape_of_mapRun (h : MapRun host gateway input cancelled xs e) :
    CallShape host gateway input xs := by
  cases h with
  | untouched hlooks => exact .looks hlooks
  | refused hlooks hx => exact .create hlooks hx (.inl rfl)
  | unknown hlooks hx hmore | adopted hlooks hx _ _ hmore => exact .create hlooks hx hmore
  | deleted hlooks hx hreply hbody hmore hy _ _ howns =>
    rw [List.append_assoc, List.cons_append]
    exact .delete hlooks hx hreply hbody hmore hy howns
  | abandoned hlooks hx _ _ hmore => exact .create hlooks hx hmore

/-- **A handle that may be deleted** is one of a create that was granted. -/
theorem granted_of_handle (h : MapRun host gateway input cancelled xs e)
    {handle : OwnedMappingHandle} (hhandle : e.handle = some handle)
    (hauthorized : handle.cleanupAuthorized = true) :
    input.Owns host gateway handle
      ∧ ∃ x ∈ xs, x.request = input.create ∧ ∃ body, x.reply = .ok body ∧ input.GrantedBy body := by
  cases h with
  | untouched _ _ hnone | refused _ _ _ _ _ hnone => exact absurd (hnone.symm.trans hhandle) nofun
  | unknown _ _ _ _ hnot => exact absurd hauthorized (by rw [hnot handle hhandle]; exact nofun)
  | adopted _ hx hreply hbody _ _ _ hsome howns =>
    obtain rfl := Option.some.inj (hsome.symm.trans hhandle)
    exact ⟨howns, _, by simp, hx, _, hreply, hbody⟩
  | deleted _ hx hreply hbody _ _ _ hsome howns =>
    obtain rfl := Option.some.inj (hsome.symm.trans hhandle)
    exact ⟨howns, _, by simp, hx, _, hreply, hbody⟩
  | abandoned _ hx hreply hbody _ _ hsome howns =>
    obtain rfl := Option.some.inj (hsome.symm.trans hhandle)
    exact ⟨howns, _, by simp, hx, _, hreply, hbody⟩

namespace CallShape

/-- **What holds of looks, of the create and of the delete of an own handle**
holds of every request of a call. -/
theorem all (h : CallShape host gateway input xs) {P : RouterRequest → Prop}
    (hlook : ∀ request, input.IsLook request → P request) (hcreate : P input.create)
    (hdelete : ∀ handle, input.Owns host gateway handle → P (deleteRequestOf input.control handle)) :
    ∀ x ∈ xs, P x.request := by
  have hlooks : ∀ {ys : List Exchange}, input.Looks ys → ∀ x ∈ ys, P x.request := by
    intro ys hys x hx
    rcases hys with rfl | ⟨y, rfl, hy⟩
    · cases hx
    · rw [List.mem_singleton.mp hx]
      exact hlook _ hy
  intro z hz
  cases h with
  | looks h => exact hlooks h z hz
  | create h hx hmore =>
    rcases List.mem_append.mp hz with hz | hz
    · exact hlooks h.looks z hz
    · rcases List.mem_cons.mp hz with rfl | hz
      · rwa [hx]
      · exact hlooks hmore z hz
  | delete h hx _ _ hmore hy howns =>
    rcases List.mem_append.mp hz with hz | hz
    · exact hlooks h.looks z hz
    · rcases List.mem_cons.mp hz with rfl | hz
      · rwa [hx]
      · rcases List.mem_append.mp hz with hz | hz
        · exact hlooks hmore z hz
        · rw [List.mem_singleton.mp hz, hy]
          exact hdelete _ howns

/-- Every request of a call is of a protocol that needs a reservation, or
none is. -/
theorem needsReservation (h : CallShape host gateway input xs) :
    ∀ x ∈ xs, x.request.needsReservation = input.create.needsReservation := by
  refine h.all (P := fun r => r.needsReservation = input.create.needsReservation) ?_ rfl
    fun handle howns => (delete_of_owns howns (control_of_owns howns)).2.2.2
  intro request hlook
  cases input with
  | pcp input | natPmp input => exact hlook.elim
  | upnp input =>
    rw [show request = _ from hlook]
    rfl

/-- A delete within a call follows the create that was granted. -/
theorem ofGranted (h : CallShape host gateway input xs) {before after : List Exchange}
    {z : Exchange} (hxs : xs = before ++ z :: after) (hz : z.request.isDelete = true) :
    OfGranted input before z.request := by
  have hnot : ∀ {ys : List Exchange}, input.Looks ys → ∀ x ∈ ys, ¬ x.request.isDelete = true := by
    intro ys hlooks x hx hdelete
    rw [(kinds_of_isLook (isLook_of_looks hlooks x hx)).2] at hdelete
    cases hdelete
  have hcreate : ∀ {x : Exchange}, x.request = input.create → ¬ x.request.isDelete = true := by
    intro x hx
    rw [hx, create_isDelete.1]
    exact nofun
  have hmem : z ∈ xs := by
    rw [hxs]
    exact List.mem_append_right _ List.mem_cons_self
  cases h with
  | looks hlooks => exact absurd hz (hnot hlooks z hmem)
  | create hlooks hx hmore =>
    rcases List.mem_append.mp hmem with hmem | hmem
    · exact absurd hz (hnot hlooks.looks z hmem)
    · rcases List.mem_cons.mp hmem with rfl | hmem
      · exact absurd hz (hcreate hx)
      · exact absurd hz (hnot hmore z hmem)
  | @delete looks more x y body h hlooks hx hreply hbody hmore hy howns =>
    rw [← List.cons_append, ← List.append_assoc] at hxs
    obtain ⟨rfl, rfl⟩ := append_cons_unique hxs hz (P := fun x => x.request.isDelete = true)
      (fun w hw => by
        rcases List.mem_append.mp hw with hw | hw
        · exact hnot hlooks.looks w hw
        · rcases List.mem_cons.mp hw with rfl | hw
          · exact hcreate hx
          · exact hnot hmore w hw)
      (fun w hw => absurd hw List.not_mem_nil)
    rw [hy]
    exact ⟨x, List.mem_append_right _ List.mem_cons_self, hx,
      (delete_of_owns howns (control_of_owns howns)).1, body, hreply, hbody⟩

/-- **A call has a create at most once**, and adds only what was looked up
and absent. -/
theorem adds (h : CallShape host gateway input xs) :
    (∀ x ∈ xs, x.request.isAdd = false) ∨ ∃ looks x rest, xs = looks ++ x :: rest
      ∧ x.request = input.create ∧ input.Cleared looks
      ∧ (∀ z ∈ looks, z.request.isAdd = false) ∧ ∀ z ∈ rest, z.request.isAdd = false := by
  have hnot : ∀ {ys : List Exchange}, input.Looks ys → ∀ x ∈ ys, x.request.isAdd = false :=
    fun hlooks x hx => (kinds_of_isLook (isLook_of_looks hlooks x hx)).1
  cases h with
  | looks hlooks => exact .inl (hnot hlooks)
  | create hlooks hx hmore =>
    exact .inr ⟨_, _, _, rfl, hx, hlooks, hnot hlooks.looks, hnot hmore⟩
  | delete hlooks hx _ _ hmore hy howns =>
    refine .inr ⟨_, _, _, rfl, hx, hlooks, hnot hlooks.looks, fun z hz => ?_⟩
    rcases List.mem_append.mp hz with hz | hz
    · exact hnot hmore z hz
    · rw [List.mem_singleton.mp hz, hy]
      exact (delete_of_owns howns (control_of_owns howns)).2.2.1

/-- Only a call over UPnP looks. -/
theorem isAdd_create (h : CallShape host gateway input xs) {z : Exchange} (hz : z ∈ xs)
    (hlook : z.request.isLook = true) : input.create.isAdd = true := by
  refine h.all (P := fun r => r.isLook = true → input.create.isAdd = true) ?_ ?_ ?_ z hz hlook
  · intro request hrequest _
    cases input with
    | pcp input | natPmp input => exact hrequest.elim
    | upnp input => rfl
  · intro hcreate
    rw [create_isDelete.2] at hcreate
    cases hcreate
  · intro handle howns hdelete
    have := (delete_of_owns howns (control_of_owns howns)).2.1
    rw [(kinds_of_isLook hdelete).2] at this
    cases this

end CallShape

/-- Where the create was sent, nothing was seen before it. -/
theorem not_present_of_cleared {looks rest before after : List Exchange} {x y : Exchange}
    {body : List UInt8} (hlooks : input.Cleared looks) (hx : x.request = input.create)
    (hadd : input.create.isAdd = true) (hxs : looks ++ x :: rest = before ++ y :: after)
    (hbefore : ∀ z ∈ before, z.request.isAdd = false) (hlook : y.request.isLook = true)
    (hreply : y.reply = .ok body) : classifyProbe body ≠ .present := by
  intro hpresent
  cases input with
  | pcp input | natPmp input => cases hadd
  | upnp input =>
    obtain ⟨p, seen, rfl, -, hseen, habsent⟩ := hlooks
    match before with
    | [] =>
      obtain rfl := (List.cons.inj hxs).1
      rw [Except.ok.inj (hseen.symm.trans hreply), hpresent] at habsent
      cases habsent
    | [_] =>
      obtain rfl := (List.cons.inj (List.cons.inj hxs).2).1
      rw [hx] at hlook
      cases hlook
    | _ :: z :: _ =>
      obtain rfl := (List.cons.inj (List.cons.inj hxs).2).1
      have := hbefore x (by simp)
      rw [hx, hadd] at this
      cases this

/-- A mapping that was seen before the add stays. -/
theorem untouched_of_present (h : MapRun host gateway input cancelled xs e)
    {before after : List Exchange} {y : Exchange} {body : List UInt8}
    (hxs : xs = before ++ y :: after) (hbefore : ∀ x ∈ before, x.request.isAdd = false)
    (hlook : y.request.isLook = true) (hreply : y.reply = .ok body)
    (hpresent : classifyProbe body = .present) :
    (∀ x ∈ xs, x.request.isDelete = false) ∧ e.handle = none := by
  have hmem : y ∈ xs := by
    rw [hxs]
    exact List.mem_append_right _ List.mem_cons_self
  have hadd := (callShape_of_mapRun h).isAdd_create hmem hlook
  have hnever : ∀ {looks rest : List Exchange} {x : Exchange}, input.Cleared looks →
      x.request = input.create → looks ++ x :: rest ≠ before ++ y :: after :=
    fun hlooks hx heq =>
      not_present_of_cleared hlooks hx hadd heq hbefore hlook hreply hpresent
  cases h with
  | untouched hlooks _ hhandle =>
    exact ⟨fun x hx => (kinds_of_isLook (isLook_of_looks hlooks x hx)).2, hhandle⟩
  | refused hlooks hx | unknown hlooks hx | adopted hlooks hx => exact absurd hxs (hnever hlooks hx)
  | deleted hlooks hx =>
    rw [List.append_assoc, List.cons_append] at hxs
    exact absurd hxs (hnever hlooks hx)
  | abandoned hlooks hx => exact absurd hxs (hnever hlooks hx)

/-- What may be deleted may be deleted here: with the reservation, where the
protocol needs one. -/
theorem reserved_of_deleteAllowed {handle : OwnedMappingHandle}
    {reservation : Option ExclusiveReservation}
    (h : UpnpHost.deleteAllowed handle gateway reservation = true) :
    handle.cleanupAuthorized = true
      ∧ (handle.reservationDigest ≠ none →
        ∃ r, reservation = some r ∧ r.gateway = gateway.gateway) := by
  rw [UpnpHost.deleteAllowed, Bool.and_eq_true] at h
  refine ⟨h.1, fun hdigest => ?_⟩
  obtain ⟨digest, hd⟩ := Option.ne_none_iff_exists'.mp hdigest
  rw [hd] at h
  cases reservation with
  | none => cases h.2
  | some r =>
    have hauthorizes := (Bool.and_eq_true_iff.mp h.2).1
    exact ⟨r, rfl, of_decide_eq_true hauthorizes⟩

/-- A handle of a protocol that needs a reservation has one. -/
theorem reservationDigest_ne_none (howns : input.Owns host gateway h)
    (hneeds : input.create.needsReservation = true) : h.reservationDigest ≠ none := by
  cases input with
  | pcp input => cases hneeds
  | natPmp input => exact howns.2.2.2.2
  | upnp input => exact howns.2.2.2.2.2.2.2

end Touches

/-- **Only own mappings are deleted**, and a mapping is added over UPnP only
where none was seen. -/
theorem deletes_own_mappings (host : UpnpHost) (gateway : SelectedGateway) (input : MappingInput)
    {t : List (ControlCall × ControlReply)} {e : MappingEffect}
    (h : Yields (input.map host gateway) t e) :
    TouchesOwn host gateway input (exchanges t) e := by
  have hrun := mapRun_map h
  have hshape := callShape_of_mapRun hrun
  refine ⟨?_, fun before x after => hshape.ofGranted, ?_, ?_, ?_,
    fun before y after body => untouched_of_present hrun⟩
  · intro x hx hneeds
    have hready := ready_of_exchanges h (List.ne_nil_of_mem hx)
    rw [hshape.needsReservation x hx] at hneeds
    cases input with
    | pcp input => cases hneeds
    | natPmp input =>
      obtain ⟨-, -, -, r, hr, hauthorizes⟩ := hready
      exact ⟨r, hr, of_decide_eq_true hauthorizes⟩
    | upnp input =>
      obtain ⟨r, hr, hauthorizes⟩ := hready
      exact ⟨r, hr, of_decide_eq_true hauthorizes⟩
  · intro handle hhandle gateway' reservation epoch control u e' hdelete
    rcases yields_deleteOwnedMapping hdelete with
      ⟨hnone, hnot, -⟩ | ⟨hallowed, hcontrol, y, hex, hy, -, hh⟩
    · rw [hnone]
      exact ⟨hnot.handle, nofun⟩
    · refine ⟨hh, fun x hx => ?_⟩
      obtain ⟨hauthorized, hreserved⟩ := reserved_of_deleteAllowed hallowed
      obtain ⟨howns, z, hz, hcreate, hgranted⟩ := granted_of_handle hrun hhandle hauthorized
      obtain ⟨hsame, -, -, hneeds⟩ := delete_of_owns howns hcontrol
      rw [hex, List.mem_singleton] at hx
      rw [hx, hy, hneeds]
      exact ⟨⟨z, hz, hcreate, hsame, hgranted⟩,
        fun hneeds => hreserved (reservationDigest_ne_none howns hneeds)⟩
  · rcases hshape.adds with hnone | ⟨looks, x, rest, hxs, -, -, hlooks, hrest⟩
    · rw [List.countP_eq_zero.mpr fun x hx => by rw [hnone x hx]; exact nofun]
      exact Nat.zero_le 1
    · rw [hxs, List.countP_append, List.countP_cons,
        List.countP_eq_zero.mpr fun z hz => by rw [hlooks z hz]; exact nofun,
        List.countP_eq_zero.mpr fun z hz => by rw [hrest z hz]; exact nofun]
      split
      · exact Nat.le_refl 1
      · exact Nat.zero_le 1
  · intro before x after hxs hadd
    have hmem : x ∈ exchanges t := by
      rw [hxs]
      exact List.mem_append_right _ List.mem_cons_self
    rcases hshape.adds with hnone | ⟨looks, z, rest, hsplit, hz, hcleared, hlooks, hrest⟩
    · exact absurd ((hnone x hmem).symm.trans hadd) nofun
    · obtain ⟨rfl, rfl⟩ := append_cons_unique (hsplit.symm.trans hxs) hadd
        (P := fun x => x.request.isAdd = true) (fun w hw => by rw [hlooks w hw]; exact nofun)
        (fun w hw => by rw [hrest w hw]; exact nofun)
      rw [hz] at hadd ⊢
      cases input with
      | pcp input | natPmp input => cases hadd
      | upnp input =>
        obtain ⟨y, body, rfl, hy, hreply, habsent⟩ := hcleared
        exact ⟨y, List.mem_singleton_self y, input.descriptor, input.localAddress,
          input.internalPort.toNat, input.protocol, body, rfl, hy, hreply, habsent⟩

open OwnershipSample in
/-- A call that deletes what it was granted: the delete is the second
exchange, and it is of the mapping of the first. -/
theorem deletes_own_mapping_of_pcp :
    pcp.maximumLeaseSec = 60
      ∧ ∃ t e, Yields (mapPcp gateway pcp) t e
        ∧ (exchanges t).map (·.request.isDelete) = [false, true]
        ∧ TouchesOwn host gateway (.pcp pcp) (exchanges t) e := by
  have hrun : ((mapPcp gateway pcp).feed replies).map (fun x =>
      (exchanges x.1).map (·.request.isDelete))
      = some [false, true] := by decide +kernel
  obtain ⟨⟨t, e⟩, hfeed, heq⟩ := Option.map_eq_some_iff.mp hrun
  refine ⟨rfl, t, e, yields_of_feed hfeed, heq, ?_⟩
  exact deletes_own_mappings host gateway (.pcp pcp) (yields_of_feed hfeed)
