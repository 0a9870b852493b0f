import RuntimeCargo.Lifecycle
import RuntimeCargo.MappingOwnership

/-!
# What the lifecycle heeds before it acts

No ordinary operation may start at or after the active end, or after a stop
was seen, and none at all at or after the collector end. What the code can
know of time and of a stop is what it was told, so this is a condition on
the trace before each operation: the last reading of the clock, and all
replies to the question whether to stop.

Before each operation the code asks again, and what stands directly before
it in the trace says that it may start (`Guarded`). There is one exception:
after a path was measured the clock is read a second time, to check the
transcript, and that reading is not held against the active end
(`Judged`). What follows for a whole run is `timely_of_guarded`: the rule
is kept if the clock does not pass the active end between these two
readings, and if a stop that was seen once is seen again.

A delete is recognized by its bytes. That no other request is taken for one
(`deleteRequest_bytes`) rests on the path of a control URL having no `#`.
-/

open RouterRequest

open Program

/-! ## Deletes, by their bytes -/

section Bytes

/-- A byte that occurs once fixes where a text that starts with it can
stand. -/
theorem cons_infix_iff {x : UInt8} {pattern a b : List UInt8} (ha : x ∉ a) (hb : x ∉ b) :
    x :: pattern <:+: a ++ x :: b ↔ pattern <+: b := by
  constructor
  · rintro ⟨s, t, h⟩
    rw [List.append_assoc, List.cons_append] at h
    obtain ⟨rfl, -⟩ := append_cons_unique (P := fun y => y = x) h.symm rfl
      (fun y hy hyx => ha (hyx ▸ hy)) (fun y hy hyx => hb (hyx ▸ hy))
    exact ⟨t, (List.cons.inj (List.append_cancel_left h)).2⟩
  · rintro ⟨t, rfl⟩
    exact ⟨a, t, by rw [List.append_assoc, List.cons_append]⟩

/-- A request of a protocol, as it can be written. -/
def RouterRequest.IsOf : RouterProtocol → RouterRequest → Prop
  | .pcp, .pcp _ _ _ _ _ lifetime => lifetime < 256 ^ 4
  | .natPmp, .natPmp _ _ _ lifetime => lifetime < 256 ^ 4
  | .upnpIgd, .soap _ _ => True
  | _, _ => False

theorem beBytes_four_eq_zero {n : ℕ} (h : n < 256 ^ 4) : beBytes 4 n = [0, 0, 0, 0] ↔ n = 0 := by
  rw [show ([0, 0, 0, 0] : List UInt8) = beBytes 4 0 from rfl]
  exact ⟨fun heq => beBytes_inj h (by decide) heq, fun heq => by rw [heq]⟩

theorem hashByte_notMem_tupleFields {port : ℕ} {protocol : MappedPortProtocol} :
    hashByte ∉ SoapAction.tupleFields port protocol := by
  simp only [SoapAction.tupleFields, List.mem_append, hashByte_notMem_decimal, or_false, not_or]
  cases protocol <;> decide

variable {action : SoapAction}

theorem hashByte_notMem_fields : hashByte ∉ action.fields := by
  cases action with
  | getSpecificPortMappingEntry port protocol | deletePortMapping port protocol =>
    exact hashByte_notMem_tupleFields
  | addPortMapping client port protocol =>
    simp only [SoapAction.fields, SoapAction.addFields, List.mem_append,
      hashByte_notMem_tupleFields, hashByte_notMem_decimal, hashByte_notMem_display, or_false,
      false_or]
    decide +kernel

theorem hashByte_notMem_name : hashByte ∉ ascii action.name := by
  cases action with
  | getSpecificPortMappingEntry | addPortMapping | deletePortMapping =>
    rw [SoapAction.name]
    decide

theorem hashByte_notMem_urn {service : IgdServiceKind} : hashByte ∉ ascii service.urn := by
  cases service <;> decide

theorem hashByte_notMem_envelope {service : IgdServiceKind} :
    hashByte ∉ action.envelope service.urn := by
  simp only [SoapAction.envelope, List.mem_append, hashByte_notMem_name, hashByte_notMem_urn,
    hashByte_notMem_fields, or_false]
  decide +kernel

/-- The pattern that marks a delete starts the rest of a request behind its
`#` exactly if the action is a delete. -/
theorem prefix_name_iff {rest : List UInt8} :
    ascii "DeletePortMapping\"" <+: ascii action.name ++ ascii "\"" ++ rest
      ↔ (∃ port protocol, action = .deletePortMapping port protocol) := by
  have hdelete : ascii "DeletePortMapping\"" = ascii "DeletePortMapping" ++ ascii "\"" := by
    decide
  have hd : ascii "DeletePortMapping" = 68 :: ascii "eletePortMapping" := by decide
  have hg : ascii "GetSpecificPortMappingEntry" = 71 :: ascii "etSpecificPortMappingEntry" := by
    decide
  have ha : ascii "AddPortMapping" = 65 :: ascii "ddPortMapping" := by decide
  rw [hdelete]
  cases action with
  | getSpecificPortMappingEntry port protocol =>
    refine ⟨?_, by rintro ⟨_, _, ⟨⟩⟩⟩
    rintro ⟨t, h⟩
    rw [SoapAction.name, hd, hg] at h
    exact absurd (List.cons.inj h).1 (by decide)
  | addPortMapping client port protocol =>
    refine ⟨?_, by rintro ⟨_, _, ⟨⟩⟩⟩
    rintro ⟨t, h⟩
    rw [SoapAction.name, hd, ha] at h
    exact absurd (List.cons.inj h).1 (by decide)
  | deletePortMapping port protocol =>
    rw [SoapAction.name]
    exact ⟨fun _ => ⟨port, protocol, rfl⟩, fun _ => List.prefix_append _ _⟩

theorem infix_soapText_iff {descriptor : IgdControlDescriptor} :
    ascii "#DeletePortMapping\"" <:+: soapText descriptor action
      ↔ (∃ port protocol, action = .deletePortMapping port protocol) := by
  have hpattern : ascii "#DeletePortMapping\"" = hashByte :: ascii "DeletePortMapping\"" := by
    decide
  have hlength : ascii "\"\r\nContent-Length: " = ascii "\"" ++ ascii "\r\nContent-Length: " := by
    decide
  have hsplit : soapText descriptor action
      = (ascii "POST " ++ descriptor.pathAndQuery ++ ascii " HTTP/1.1\r\nHost: "
        ++ descriptor.gateway.display ++ ascii ":" ++ decimal descriptor.port
        ++ ascii "\r\nContent-Type: text/xml; charset=\"utf-8\"\r\nSOAPAction: \""
        ++ ascii descriptor.service.urn)
      ++ hashByte :: (ascii action.name ++ ascii "\"" ++ (ascii "\r\nContent-Length: "
        ++ decimal (action.envelope descriptor.service.urn).length
        ++ ascii "\r\nConnection: close\r\n\r\n" ++ action.envelope descriptor.service.urn)) := by
    rw [soapText, hlength]
    simp only [List.append_assoc, List.cons_append, List.nil_append]
  rw [hpattern, hsplit, cons_infix_iff, prefix_name_iff]
  · simp only [List.mem_append, descriptor.noHash, hashByte_notMem_display,
      hashByte_notMem_decimal, hashByte_notMem_urn, or_false]
    decide
  · simp only [List.mem_append, hashByte_notMem_name, hashByte_notMem_decimal,
      hashByte_notMem_envelope, or_false, false_or]
    decide

/-- **A delete is recognized**, and nothing else is taken for one, whatever
the path of the control URL. -/
theorem deleteRequest_bytes {protocol : RouterProtocol} {request : RouterRequest}
    (h : request.IsOf protocol) : deleteRequest protocol request.bytes = request.isDelete := by
  cases protocol with
  | pcp =>
    cases request with
    | pcp client mapped internalPort externalPort nonce lifetime =>
      have hfield : ((pcp client mapped internalPort externalPort nonce
          lifetime).bytes.drop 4).take 4 = beBytes 4 lifetime := by
        simp only [bytes, encodePcp, List.append_assoc]
        exact List.take_left' (length_beBytes 4 lifetime)
      rw [deleteRequest, hfield, length_bytes_pcp, isDelete]
      simp only [pcpMapPacketBytes, decide_true, Bool.true_and, beBytes_four_eq_zero h]
    | natPmp | soap | empty => exact h.elim
  | natPmp =>
    cases request with
    | natPmp mapped internalPort externalPort lifetime =>
      have hfield : ((natPmp mapped internalPort externalPort
          lifetime).bytes.drop 8).take 4 = beBytes 4 lifetime := by
        simp only [bytes, encodeNatpmp]
        rw [List.drop_left' (by simp [length_beBytes])]
        exact List.take_of_length_le (Nat.le_of_eq (length_beBytes 4 lifetime))
      rw [deleteRequest, hfield, length_bytes_natPmp, isDelete]
      simp only [natpmpMapRequestBytes, decide_true, Bool.true_and, beBytes_four_eq_zero h]
    | pcp | soap | empty => exact h.elim
  | upnpIgd =>
    cases request with
    | soap descriptor action =>
      unfold deleteRequest bytes isDelete
      cases action with
      | getSpecificPortMappingEntry port mapped =>
        refine decide_eq_false fun hinfix => ?_
        obtain ⟨_, _, ⟨⟩⟩ := infix_soapText_iff.mp hinfix
      | addPortMapping client port mapped =>
        refine decide_eq_false fun hinfix => ?_
        obtain ⟨_, _, ⟨⟩⟩ := infix_soapText_iff.mp hinfix
      | deletePortMapping port mapped =>
        exact decide_eq_true (infix_soapText_iff.mpr ⟨port, mapped, rfl⟩)
    | pcp | natPmp | empty => exact h.elim

end Bytes

/-! ## What an adapter may send -/

/-- The protocol of a call. -/
def MappingInput.protocol : MappingInput → RouterProtocol
  | pcp _ => .pcp
  | natPmp _ => .natPmp
  | upnp _ => .upnpIgd

section Requests

variable {host : UpnpHost} {gateway : SelectedGateway} {input : MappingInput}

variable {handle : OwnedMappingHandle}

theorem isOf_deletePacket (hpacket : handle.protocol ≠ .upnpIgd) :
    (deletePacket handle).IsOf handle.protocol ∧ (deletePacket handle).isDelete = true := by
  unfold deletePacket
  cases hprotocol : handle.protocol with
  | pcp | natPmp => exact ⟨show 0 < 256 ^ 4 by decide, rfl⟩
  | upnpIgd => exact absurd hprotocol hpacket

/-- A delete is of the protocol of its handle. -/
theorem isOf_deleteRequestOf {control : Option IgdControlDescriptor}
    (hcontrol : handle.protocol = .upnpIgd → control ≠ none) :
    (deleteRequestOf control handle).IsOf handle.protocol
      ∧ (deleteRequestOf control handle).isDelete = true := by
  by_cases hupnp : handle.protocol = .upnpIgd
  · obtain ⟨c, rfl⟩ := Option.ne_none_iff_exists'.mp (hcontrol hupnp)
    rw [deleteRequestOf_upnp hupnp, hupnp]
    exact ⟨trivial, rfl⟩
  · rw [deleteRequestOf_packet hupnp]
    exact isOf_deletePacket hupnp

theorem protocol_of_owns (howns : input.Owns host gateway handle) :
    handle.protocol = input.protocol := by
  cases input with
  | pcp input | natPmp input | upnp input => exact howns.1

/-- **The requests of a call are of its protocol.** -/
theorem isOf_of_callShape {xs : List Exchange} (h : CallShape host gateway input xs) :
    ∀ x ∈ xs, x.request.IsOf input.protocol := by
  refine h.all (P := fun r => r.IsOf input.protocol) ?_ ?_ ?_
  · intro request hlook
    cases input with
    | pcp input | natPmp input => exact hlook.elim
    | upnp input =>
      rw [show request = _ from hlook]
      trivial
  · cases input with
    | pcp input | natPmp input => exact show mappingRequestedLeaseSec < 256 ^ 4 by decide
    | upnp input => trivial
  · intro handle howns
    rw [← protocol_of_owns howns]
    exact (isOf_deleteRequestOf (control_of_owns howns)).1

end Requests

/-- A request that a transport is asked to make: of its protocol, and while
cleaning up a delete. -/
def BoundedControl.Serves (b : BoundedControl) (request : RouterRequest) : Prop :=
  request.IsOf b.protocol ∧ (b.cleaning = true → request.isDelete = true)

theorem BoundedControl.isCleanup_eq {b : BoundedControl} {request : RouterRequest}
    (h : b.Serves request) : b.isCleanup request = request.isDelete := by
  rw [isCleanup, deleteRequest_bytes h.1]
  cases hcleaning : b.cleaning with
  | true => exact (h.2 hcleaning).symm
  | false => rfl

/-! ## What stands before an operation -/

/-- A call of the runtime, and its reply. -/
abbrev RuntimeEvent := RuntimeCall × RuntimeReply

namespace RuntimeCall

/-- A delete. -/
def isDelete : RuntimeCall → Bool
  | routerExchange _ request _ _ => request.isDelete
  | _ => false

/-- An ordinary operation: it has an effect, and is not a delete. -/
def isOrdinary : RuntimeCall → Bool
  | nonce => true
  | bindFresh _ => true
  | pathCheck _ _ _ => true
  | attestPath _ _ => true
  | routerExchange _ request _ _ => !request.isDelete
  | _ => false

end RuntimeCall

section Guards

variable (endMs : ℕ)

/-- The code has just asked whether to stop and read the clock. -/
inductive Checked : List RuntimeEvent → Prop
  | asked {earlier : List RuntimeEvent} {r r' : RuntimeReply} (hstop : r.stop = none)
      (htime : r'.ms < endMs) : Checked (earlier ++ [(.stop, r)] ++ [(.nowMs, r')])
  | reread {earlier : List RuntimeEvent} {r r' r'' : RuntimeReply} (hstop : r.stop = none)
      (htime : r''.ms < endMs) :
      Checked (earlier ++ [(.stop, r)] ++ [(.nowMs, r')] ++ [(.nowMs, r'')])
  | routed {earlier : List RuntimeEvent} {r r' : RuntimeReply} (htime : r.ms < endMs)
      (hstop : r'.stop = none) : Checked (earlier ++ [(.nowMs, r)] ++ [(.stop, r')])

/-- A path was measured, the code has asked whether to stop and read the
clock – and has read it again. -/
inductive Judged : List RuntimeEvent → Prop
  | mk {earlier : List RuntimeEvent} {listener : MappingListener} {check : MappingPathCheck}
      {deadlineMs : ℕ} {r₀ r r' r'' : RuntimeReply} (hstop : r.stop = none)
      (htime : r'.ms < endMs) :
      Judged (earlier ++ [(.pathCheck listener check deadlineMs, r₀)] ++ [(.stop, r)]
        ++ [(.nowMs, r')] ++ [(.nowMs, r'')])

/-- The code has just read the clock. -/
inductive Timed : List RuntimeEvent → Prop
  | mk {earlier : List RuntimeEvent} {r : RuntimeReply} (htime : r.ms < endMs) :
      Timed (earlier ++ [(.nowMs, r)])

end Guards

/-- **What stands before each operation.** -/
def Guarded (session : MappingSession) (before : List RuntimeEvent) (x : RuntimeEvent) : Prop :=
  match x.1 with
  | .nonce => Checked session.activeEnd before
  | .bindFresh _ => Checked session.activeEnd before
  | .pathCheck _ _ _ => Checked session.activeEnd before
  | .attestPath _ _ => Judged session.activeEnd before
  | .routerExchange _ request _ _ =>
    if request.isDelete then Timed session.collectorEnd before
    else Checked session.activeEnd before
  | _ => True

/-! ## The program keeps to it -/

/-- Nothing is asked of the end. -/
def anyEnd {α : Type} (_ : α) (_ : List RuntimeEvent) : Prop := True

section Keeps

variable {l : MappingLifecycle} {before : List RuntimeEvent} {plan : MappingMethodPlan}
  {listener : MappingListener} {row : MappingMethodReport} {a : Accounting}

theorem follows_ordinary {session : MappingSession} {endMs : ℕ}
    {Q : Option MappingStop → List RuntimeEvent → Prop} (hstop : ∀ stop now, Q (some stop) now)
    (hgo : ∀ r r' : RuntimeReply, r.stop = none → r'.ms < endMs →
      Q none (before ++ [(.stop, r)] ++ [(.nowMs, r')])) :
    Follows (Guarded session) (ordinary endMs) before Q := by
  unfold ordinary
  refine follows_call (fun r => trivial) fun r => ?_
  cases hr : r.stop with
  | some stop => exact follows_pure (hstop stop _)
  | none =>
    refine follows_call (fun r' => trivial) fun r' => ?_
    refine follows_pure ?_
    split
    · exact hstop _ _
    · exact hgo r r' hr (Nat.lt_of_not_le ‹_›)

/-! What is asked before a call is settled case by case; the walk from one
call to the next is the same everywhere, and is left to these rules. -/

@[local grind ←]
theorem anyEnd_pure {α : Type} (x : α) :
    Follows (Guarded l.session) (pure x : Runtime α) before anyEnd := follows_pure trivial

@[local grind ←]
theorem anyEnd_call {α : Type} {c : RuntimeCall} {f : RuntimeReply → Runtime α}
    (hok : ∀ r, Guarded l.session before (c, r))
    (h : ∀ r, Follows (Guarded l.session) (f r) (before ++ [(c, r)]) anyEnd) :
    Follows (Guarded l.session) (perform c >>= f) before anyEnd := follows_call hok h

@[local grind ←]
theorem anyEnd_bind {α β : Type} {p : Runtime α} {f : α → Runtime β}
    (h : Follows (Guarded l.session) p before anyEnd)
    (hf : ∀ x now, Follows (Guarded l.session) (f x) now anyEnd) :
    Follows (Guarded l.session) (p >>= f) before anyEnd :=
  Follows.bind (h.mono fun x now _ => hf x now)

@[local grind ←]
theorem anyEnd_ordinary {α : Type} {endMs : ℕ} {f : Option MappingStop → Runtime α}
    (hstop : ∀ stop now, Follows (Guarded l.session) (f (some stop)) now anyEnd)
    (hgo : ∀ r r' : RuntimeReply, r.stop = none → r'.ms < endMs →
      Follows (Guarded l.session) (f none) (before ++ [(.stop, r)] ++ [(.nowMs, r')]) anyEnd) :
    Follows (Guarded l.session) (ordinary endMs >>= f) before anyEnd :=
  Follows.bind (follows_ordinary hstop hgo)

attribute [local grind =] Guarded
attribute [local grind ←] Checked.asked Checked.reread Checked.routed

@[local grind ←]
theorem follows_attest {earlier : List RuntimeEvent} {check check' : MappingPathCheck}
    {evidence : MappingPathEvidence} {deadlineMs : ℕ} {r₀ : RuntimeReply} :
    Follows (Guarded l.session) (l.attest check evidence)
      (earlier ++ [(.pathCheck listener check' deadlineMs, r₀)]) anyEnd := by
  unfold MappingLifecycle.attest
  refine anyEnd_ordinary (fun stop now => anyEnd_pure _) fun r r' hstop htime => ?_
  refine anyEnd_call (fun r'' => trivial) fun r'' => ?_
  split
  · exact anyEnd_pure _
  · refine anyEnd_call (fun x => Judged.mk hstop htime) fun x => ?_
    grind

@[local grind ←]
theorem follows_path {check : MappingPathCheck} :
    Follows (Guarded l.session) (l.path listener check a) before anyEnd := by
  unfold MappingLifecycle.path
  grind

/-- The transport of a method. -/
theorem follows_send {cleaning : Bool} {destination : SocketAddr} {request : RouterRequest}
    {capacity : ℕ} (hbefore : if request.isDelete then Timed l.session.collectorEnd before
      else Checked l.session.activeEnd before) :
    Follows (Guarded l.session) ((l.control plan cleaning).send destination request capacity a)
      before anyEnd := by
  unfold BoundedControl.send
  split
  · exact anyEnd_pure _
  · split
    · exact anyEnd_pure _
    · refine anyEnd_call (fun r => hbefore) fun r => ?_
      unfold BoundedControl.accept
      grind

theorem follows_exchange {cleaning : Bool} {destination : SocketAddr} {request : RouterRequest}
    {capacity : ℕ} (hserves : (l.control plan cleaning).Serves request) :
    Follows (Guarded l.session)
      ((l.control plan cleaning).exchange destination request capacity a) before anyEnd := by
  have hcleanup := BoundedControl.isCleanup_eq hserves
  unfold BoundedControl.exchange
  refine follows_call (fun r => trivial) fun r => ?_
  split
  · exact follows_pure trivial
  next htime =>
    rw [BoundedControl.endFor, hcleanup] at htime
    cases hdelete : request.isDelete with
    | true =>
      rw [hdelete, if_pos rfl] at htime
      rw [hcleanup, hdelete, if_pos rfl]
      refine follows_send ?_
      rw [hdelete, if_pos rfl]
      exact .mk (Nat.lt_of_not_le htime)
    | false =>
      rw [hdelete, if_neg Bool.false_ne_true] at htime
      rw [hcleanup, hdelete, if_neg Bool.false_ne_true]
      refine follows_call (fun r' => trivial) fun r' => ?_
      split
      · exact follows_pure trivial
      next hstop =>
        refine follows_send ?_
        rw [hdelete, if_neg Bool.false_ne_true]
        exact .routed (Nat.lt_of_not_le htime) hstop

variable {own : List (ControlCall × ControlReply)} {handle : OwnedMappingHandle}
  {plans : List MappingMethodPlan}

/-- **How the calls of an adapter are made**: it is told that it is not
cancelled, and its requests are passed on. -/
inductive BoundedControl.Passes (b : BoundedControl) :
    Accounting → List (ControlCall × ControlReply) → List RuntimeEvent → Accounting → Prop
  | nil (a : Accounting) : Passes b a [] [] a
  | cancelled {a a' own wire} (h : Passes b a own wire a') :
      Passes b a ((.cancelled, .flag false) :: own) wire a'
  | exchange {a a₁ a' own u wire destination request capacity reply}
      (hone : Yields (b.exchange destination request capacity a) u (reply, a₁))
      (h : Passes b a₁ own wire a') :
      Passes b a ((.exchange destination request capacity, .exchanged reply) :: own) (u ++ wire) a'

variable {a' : Accounting} {wire : List RuntimeEvent}

theorem passes_of_handled {b : BoundedControl} (h : Handled b.handle a own wire a') :
    b.Passes a own wire a' := by
  induction h with
  | nil s => exact .nil s
  | @cons s s₁ s₂ c r t t₁ t₂ hcall hrest ih =>
    cases c with
    | cancelled =>
      obtain ⟨rfl, ⟨⟩⟩ := yields_pure.mp hcall
      exact .cancelled ih
    | exchange destination request capacity =>
      obtain ⟨u, v, ⟨reply, s'⟩, rfl, hu, hv⟩ := yields_bind.mp hcall
      obtain ⟨rfl, ⟨⟩⟩ := yields_pure.mp hv
      rw [List.append_nil]
      exact .exchange hu ih

/-- **A call of an adapter**, through the transport. -/
theorem along_handled {cleaning : Bool}
    (h : Handled (l.control plan cleaning).handle a own wire a')
    (hserves : ∀ x ∈ exchanges own, (l.control plan cleaning).Serves x.request) :
    Along (Guarded l.session) before wire := by
  replace h := passes_of_handled h
  induction h generalizing before with
  | nil s => exact trivial
  | cancelled _ ih => exact ih hserves
  | exchange hone _ ih =>
    obtain ⟨hfirst, hrest⟩ := List.forall_mem_cons.mp hserves
    exact along_append.mpr ⟨(follows_exchange hfirst _ _ hone).1, ih hrest⟩

@[local grind ←]
theorem follows_cleanUp {epoch : Option ℕ} (hprotocol : handle.protocol = plan.protocol) :
    Follows (Guarded l.session) (l.cleanUp plan handle epoch row a) before anyEnd := by
  refine Follows.bind fun t x hyields => ⟨?_, follows_pure trivial⟩
  obtain ⟨own, hown, hhandled⟩ := yields_simulate.mp hyields
  refine along_handled hhandled fun y hy => ?_
  rcases yields_deleteOwnedMapping hown with ⟨hnone, -⟩ | ⟨-, hcontrol, z, hex, hz, -⟩
  · rw [hnone] at hy
    cases hy
  · rw [hex, List.mem_singleton] at hy
    obtain ⟨hof, hdelete⟩ := isOf_deleteRequestOf hcontrol
    rw [hy, hz]
    rw [hprotocol] at hof
    exact ⟨hof, fun _ => hdelete⟩

@[local grind ←]
theorem follows_verify :
    Follows (Guarded l.session) (l.verify plan listener handle row a) before anyEnd := by
  unfold MappingLifecycle.verify
  grind

theorem follows_afterCreate {created : MappingEffect}
    (hprotocol : ∀ handle, MappingLifecycle.adopted created = some handle →
      handle.protocol = plan.protocol) :
    Follows (Guarded l.session) (l.afterCreate plan listener row created a) before anyEnd := by
  unfold MappingLifecycle.afterCreate MappingLifecycle.verifyCreated
  grind

/-- The input of an adapter is of the protocol of the plan. -/
theorem protocol_mappingInput {port : UInt16} {nonce : MappingNonce} {input : MappingInput}
    (h : l.mappingInput plan port nonce = some input) : input.protocol = plan.protocol := by
  unfold MappingLifecycle.mappingInput at h
  split at h
  next hprotocol =>
    rw [← Option.some.inj h, hprotocol]
    rfl
  next hprotocol =>
    rw [← Option.some.inj h, hprotocol]
    rfl
  next hprotocol =>
    obtain ⟨igd, -, rfl⟩ := Option.map_eq_some_iff.mp h
    rw [hprotocol]
    rfl

/-- An adapter is never told that it is cancelled. -/
theorem uncancelled_of_handled {b : BoundedControl} (h : Handled b.handle a own wire a') :
    Uncancelled own := by
  replace h := passes_of_handled h
  induction h with
  | nil s => exact List.forall_mem_nil _
  | cancelled _ ih | exchange _ _ ih => exact List.forall_mem_cons.mpr ⟨rfl, ih⟩

/-- **What a create comes to**, and how it is carried out. -/
theorem mapRun_of_simulate {input : MappingInput} {created : MappingEffect}
    (h : Yields ((input.map l.host l.gateway.gateway).simulate (l.control plan false).handle a) wire
      (created, a')) :
    ∃ own, Handled (l.control plan false).handle a own wire a'
      ∧ MapRun l.host l.gateway.gateway input False (exchanges own) created := by
  obtain ⟨own, hown, hhandled⟩ := yields_simulate.mp h
  have hun := uncancelled_of_handled hhandled
  exact ⟨own, hhandled, (mapRun_map hown).mono fun hcancelled => hcancelled hun⟩

/-- **An adopted lease** is one whose create was granted, and its handle may
be deleted. -/
theorem owns_of_adopted {input : MappingInput} {xs : List Exchange} {created : MappingEffect}
    (hrun : MapRun l.host l.gateway.gateway input False xs created)
    (hadopted : MappingLifecycle.adopted created = some handle) :
    input.Owns l.host l.gateway.gateway handle ∧ handle.cleanupAuthorized = true
      ∧ (∀ c, input.control = some c → c.gateway = l.gateway.gateway.gateway
        ∧ Sendable l.host l.gateway.gateway c
            (.deletePortMapping handle.externalPort handle.portProtocol))
      ∧ ∃ looks x more, xs = looks ++ x :: more ∧ input.Cleared looks
        ∧ x.request = input.create ∧ input.Looks more := by
  obtain ⟨hhandle, hpending⟩ := Option.filter_eq_some_iff.mp hadopted
  rw [decide_eq_true_eq] at hpending
  cases hrun with
  | untouched _ _ hnone | refused _ _ _ _ _ hnone => exact absurd (hnone.symm.trans hhandle) nofun
  | unknown _ _ _ hend =>
    rcases hend with hend | hend
    · cases hend.symm.trans hpending
    · cases hend.symm.trans hpending
  | adopted hlooks hx _ _ hmore _ _ hsome howns hauthorized _ _ hcontrol =>
    obtain rfl := Option.some.inj (hsome.symm.trans hhandle)
    exact ⟨howns, hauthorized, hcontrol, _, _, _, rfl, hlooks, hx, hmore⟩
  | deleted _ _ _ _ _ _ hend =>
    rw [hpending] at hend
    cases hend
  | abandoned _ _ _ _ _ hcancelled => exact hcancelled.elim

@[local grind ←]
theorem follows_create {nonce : MappingNonce} :
    Follows (Guarded l.session) (l.create plan listener row nonce a) before anyEnd := by
  unfold MappingLifecycle.create
  split
  · exact anyEnd_pure _
  next input hinput =>
    refine Follows.bind fun t x hyields => ?_
    obtain ⟨own, hhandled, hrun⟩ := mapRun_of_simulate hyields
    refine ⟨along_handled hhandled fun y hy => ⟨?_, nofun⟩, follows_afterCreate ?_⟩
    · have hof := isOf_of_callShape (callShape_of_mapRun hrun) y hy
      rwa [protocol_mappingInput hinput] at hof
    · intro handle hadopted
      rw [protocol_of_owns (owns_of_adopted hrun hadopted).1, protocol_mappingInput hinput]

@[local grind ←]
theorem follows_withNonce (hbefore : Checked l.session.activeEnd before) :
    Follows (Guarded l.session) (l.withNonce plan listener row a) before anyEnd := by
  unfold MappingLifecycle.withNonce
  grind

@[local grind ←]
theorem follows_afterBaseline {summary : MappingPathSummary} :
    Follows (Guarded l.session) (l.afterBaseline plan listener summary a) before anyEnd := by
  -- saturation is out of reach: the active end is a 64-bit number
  have hle := Nat.le_trans l.session.activeEnd_le l.session.end_le
  unfold MappingLifecycle.afterBaseline
  grind

@[local grind ←]
theorem follows_withListener :
    Follows (Guarded l.session) (l.withListener plan listener a) before anyEnd := by
  unfold MappingLifecycle.withListener
  grind

@[local grind ←]
theorem follows_runMethod :
    Follows (Guarded l.session) (l.runMethod plan a) before anyEnd := by
  unfold MappingLifecycle.runMethod
  grind

@[local grind ←]
theorem follows_runMethods :
    Follows (Guarded l.session) (l.runMethods plans a) before anyEnd := by
  induction plans generalizing a before with
  | nil => exact anyEnd_pure _
  | cons plan plans ih =>
    unfold MappingLifecycle.runMethods
    grind

/-- **The whole run keeps to it.** -/
theorem follows_runMappingLifecycle :
    Follows (Guarded l.session) (l.runMappingLifecycle plans) before anyEnd := by
  refine anyEnd_call (fun r => trivial) fun r => ?_
  split
  · exact anyEnd_pure _
  · unfold MappingLifecycle.runSelected
    grind

end Keeps

/-! ## What follows for a run -/

/-- The code was told to stop. -/
def seesStop (x : RuntimeEvent) : Bool :=
  match x.1 with
  | .stop => x.2.stop.isSome
  | _ => false

/-- What the clock said, where it was read. -/
def reading (x : RuntimeEvent) : Option ℕ :=
  match x.1 with
  | .nowMs => some x.2.ms
  | _ => none

/-- The last reading of the clock. -/
def lastReading (t : List RuntimeEvent) : Option ℕ := (t.filterMap reading).getLast?

/-- **Nothing starts too late, or after a stop**: at each ordinary operation
the last reading of the clock is before the active end and no stop was seen,
and at each operation it is before the collector end. -/
structure Timely (session : MappingSession) (t : List RuntimeEvent) : Prop where
  ordinary : ∀ before x after, t = before ++ x :: after → x.1.isOrdinary = true →
    (∃ ms, lastReading before = some ms ∧ ms < session.activeEnd)
      ∧ ∀ y ∈ before, seesStop y = false
  all : ∀ before x after, t = before ++ x :: after →
    x.1.isOrdinary = true ∨ x.1.isDelete = true →
    ∃ ms, lastReading before = some ms ∧ ms < session.collectorEnd

/-- **What the runtime has to be like**: once it was seen, a stop is seen
again, and between the two readings after a path was measured the clock
does not pass the active end. -/
structure Steady (session : MappingSession) (t : List RuntimeEvent) : Prop where
  stops : ∀ earlier x later, t = earlier ++ x :: later → seesStop x = true →
    ∀ y ∈ later, y.1 = .stop → seesStop y = true
  clock : ∀ earlier listener check deadlineMs r₀ r r' r'' later,
    t = earlier ++ [(.pathCheck listener check deadlineMs, r₀)] ++ [(.stop, r)] ++ [(.nowMs, r')]
      ++ [(.nowMs, r'')] ++ later →
    r'.ms < session.activeEnd → r''.ms < session.activeEnd

section Timely

variable {session : MappingSession} {before after t : List RuntimeEvent} {x : RuntimeEvent}

/-- The code was told that it need not stop, and has not been told
otherwise since; and the clock was before some end when it was last read. -/
def Fresh (endMs : ℕ) (before : List RuntimeEvent) : Prop :=
  (∃ ms, lastReading before = some ms ∧ ms < endMs)
    ∧ ∃ earlier r later, before = earlier ++ (.stop, r) :: later ∧ r.stop = none
      ∧ ∀ y ∈ later, seesStop y = false

theorem lastReading_append {r : RuntimeReply} :
    lastReading (before ++ [(.nowMs, r)]) = some r.ms := by
  unfold lastReading
  rw [List.filterMap_append]
  exact List.getLast?_concat

theorem lastReading_append_stop {r : RuntimeReply} :
    lastReading (before ++ [(.stop, r)]) = lastReading before := by
  unfold lastReading
  rw [List.filterMap_append]
  exact congrArg List.getLast? (List.append_nil _)

theorem fresh_of_checked {endMs : ℕ} (h : Checked endMs before) : Fresh endMs before := by
  cases h with
  | @asked earlier r r' hstop htime =>
    refine ⟨⟨_, lastReading_append, htime⟩, earlier, r, [(.nowMs, r')], ?_, hstop, ?_⟩
    · exact List.append_assoc _ _ _
    · exact fun y hy => by rw [List.mem_singleton.mp hy]; rfl
  | @reread earlier r r' r'' hstop htime =>
    refine ⟨⟨_, lastReading_append, htime⟩, earlier, r, [(.nowMs, r'), (.nowMs, r'')], ?_, hstop,
      ?_⟩
    · rw [List.append_assoc, List.append_assoc]
      rfl
    · intro y hy
      rcases List.mem_cons.mp hy with rfl | hy
      · rfl
      · rw [List.mem_singleton.mp hy]
        rfl
  | @routed earlier r r' htime hstop =>
    refine ⟨⟨_, lastReading_append_stop.trans lastReading_append, htime⟩, _, r', [], rfl, hstop,
      fun y hy => absurd hy List.not_mem_nil⟩

/-- Where a path was measured, the second reading decides. -/
theorem fresh_of_judged (hsteady : Steady session t) (ht : t = before ++ after)
    (h : Judged session.activeEnd before) : Fresh session.activeEnd before := by
  cases h with
  | @mk earlier listener check deadlineMs r₀ r r' r'' hstop htime =>
    have hlate := hsteady.clock _ _ _ _ _ _ _ _ _ ht htime
    exact fresh_of_checked (.reread hstop hlate)

/-- No stop was seen, if what was seen last was none. -/
theorem no_stop_of_fresh {endMs : ℕ} (hsteady : Steady session t) (ht : t = before ++ after)
    (h : Fresh endMs before) : ∀ y ∈ before, seesStop y = false := by
  obtain ⟨-, earlier, r, later, rfl, hstop, hlater⟩ := h
  have hnone : seesStop (.stop, r) = false := by
    show r.stop.isSome = false
    rw [hstop]
    rfl
  intro y hy
  rcases List.mem_append.mp hy with hy | hy
  · obtain ⟨e₁, e₂, rfl⟩ := List.append_of_mem hy
    cases hsees : seesStop y with
    | false => rfl
    | true =>
      have hagain := hsteady.stops e₁ y (e₂ ++ (.stop, r) :: (later ++ after))
        (by rw [ht]; simp only [List.append_assoc, List.cons_append]) hsees (.stop, r)
        (List.mem_append_right _ List.mem_cons_self) rfl
      cases hagain.symm.trans hnone
  · rcases List.mem_cons.mp hy with rfl | hy
    · exact hnone
    · exact hlater y hy

/-- What stands before an ordinary operation says that it may start. -/
theorem fresh_of_guarded (hsteady : Steady session t) (ht : t = before ++ after)
    (h : Guarded session before x) (hx : x.1.isOrdinary = true) :
    Fresh session.activeEnd before := by
  obtain ⟨c, r⟩ := x
  cases c with
  | nonce | bindFresh transport | pathCheck listener check deadlineMs => exact fresh_of_checked h
  | attestPath transcript deadlineMs => exact fresh_of_judged hsteady ht h
  | routerExchange destination request capacity deadlineMs =>
    have hdelete : request.isDelete = false := by
      rw [← Bool.not_eq_true']
      exact hx
    unfold Guarded at h
    dsimp only at h
    rw [hdelete, if_neg Bool.false_ne_true] at h
    exact fresh_of_checked h
  | nowMs | observedAddress | stop | dropListener listener => cases hx

theorem timed_of_guarded (h : Guarded session before x) (hx : x.1.isDelete = true) :
    Timed session.collectorEnd before := by
  obtain ⟨c, r⟩ := x
  cases c with
  | routerExchange destination request capacity deadlineMs =>
    unfold Guarded at h
    dsimp only at h
    rwa [show request.isDelete = true from hx, if_pos rfl] at h
  | nonce | bindFresh transport | pathCheck listener check deadlineMs
  | attestPath transcript deadlineMs | nowMs | observedAddress | stop | dropListener listener =>
    cases hx

/-- **Runs of a steady runtime are timely.** -/
theorem timely_of_guarded (h : Along (Guarded session) [] t) (hsteady : Steady session t) :
    Timely session t := by
  have hguard : ∀ {before x after}, t = before ++ x :: after → Guarded session before x := by
    rintro before x after rfl
    exact h.at
  constructor
  · intro before x after ht hx
    have hfresh := fresh_of_guarded hsteady ht (hguard ht) hx
    exact ⟨hfresh.1, no_stop_of_fresh hsteady ht hfresh⟩
  · intro before x after ht hx
    rcases hx with hx | hx
    · obtain ⟨⟨ms, hms, hlt⟩, -⟩ := fresh_of_guarded hsteady ht (hguard ht) hx
      exact ⟨ms, hms, Nat.lt_of_lt_of_le hlt session.activeEnd_le⟩
    · obtain ⟨htime⟩ := timed_of_guarded (hguard ht) hx
      exact ⟨_, lastReading_append, htime⟩

end Timely
