import RuntimeCargo.LifecycleAccounting

/-!
# In which order the lifecycle acts

A run of the lifecycle is a sequence of runs of methods, and what is said
here is said method by method. Nothing is asked of the router before the
path was measured without its help. A lease that was adopted is deleted
once, before the listener is dropped – unless the clock says that the end
has come. And a method is followed by another only if it has left nothing
behind (`lifecycle_ordered`).

What a row says of the mapping is what the replies said
(`rows_reflect_replies`). A mapping that was not created was not asked for,
or was refused; one that was deleted was confirmed to be gone; and where a
reply to a create was lost nobody claims to know. Over UPnP there is a
second way to be gone: a delete that is answered with the error that there
is no such entry.

An adapter does not see the wire but the transport, which may refuse to
send and may drop a reply that comes too late (`Forwarded`).
-/

open Program
open MappingLifecycle (adopted baselineCheck cleanedRow createdRow finish)

/-- A run of one method. -/
structure MethodRun (l : MappingLifecycle) where
  plan : MappingMethodPlan
  start : Accounting
  trace : List RuntimeEvent
  ended : MethodEnd
  left : Accounting
  yields : Yields (l.runMethod plan start) trace (ended, left)

/-- The row of a run, if it has one. -/
def MethodRun.row {l : MappingLifecycle} (run : MethodRun l) : Option MappingMethodReport := run.ended.row

/-! ## The wire -/

/-- The exchange with the router that a call was. -/
def wireExchangeOf : RuntimeEvent → Option Exchange
  | (.routerExchange destination request _ _, r) => some ⟨destination, request, r.reply⟩
  | _ => none

/-- **What was exchanged with the router**, in order. -/
def wireExchanges (t : List RuntimeEvent) : List Exchange := t.filterMap wireExchangeOf

@[simp] theorem wireExchanges_nil : wireExchanges [] = [] := rfl

@[simp] theorem wireExchanges_append (t u : List RuntimeEvent) :
    wireExchanges (t ++ u) = wireExchanges t ++ wireExchanges u := List.filterMap_append

section Quiet

variable {α β : Type}

/-- A program that exchanges nothing with the router. -/
def Quiet (p : Runtime α) : Prop :=
  ∀ before, Follows (fun _ x => wireExchangeOf x = none) p before anyEnd

theorem wireExchanges_of_along {before t : List RuntimeEvent}
    (h : Along (fun _ x => wireExchangeOf x = none) before t) : wireExchanges t = [] := by
  induction t generalizing before with
  | nil => rfl
  | cons x t ih =>
    rw [wireExchanges, List.filterMap_cons_none h.1]
    exact ih h.2

theorem Quiet.wireExchanges {p : Runtime α} (h : Quiet p) {t : List RuntimeEvent} {a : α}
    (hyields : Yields p t a) : wireExchanges t = [] := wireExchanges_of_along (h [] t a hyields).1

@[local grind ←]
theorem quiet_pure (x : α) : Quiet (pure x : Runtime α) := fun _ => follows_pure trivial

@[local grind ←]
theorem quiet_call {c : RuntimeCall} {f : RuntimeReply → Runtime α}
    (hc : ∀ r, wireExchangeOf (c, r) = none) (hf : ∀ r, Quiet (f r)) : Quiet (perform c >>= f) :=
  fun _ => follows_call hc fun r => hf r _

@[local grind ←]
theorem quiet_bind {p : Runtime α} {f : α → Runtime β} (hp : Quiet p) (hf : ∀ x, Quiet (f x)) :
    Quiet (p >>= f) := fun before => Follows.bind ((hp before).mono fun x now _ => hf x now)

attribute [local grind =] wireExchangeOf

@[local grind ←]
theorem quiet_ordinary {endMs : ℕ} : Quiet (ordinary endMs) := by
  unfold ordinary
  grind

theorem quiet_path {l : MappingLifecycle} {listener : MappingListener} {check : MappingPathCheck}
    {a : Accounting} : Quiet (l.path listener check a) := by
  have hattest : ∀ evidence, Quiet (l.attest check evidence) := by
    intro evidence
    refine quiet_bind quiet_ordinary fun stop => ?_
    split
    · exact quiet_pure _
    · refine quiet_call (fun r => rfl) fun r => ?_
      grind
  refine quiet_bind quiet_ordinary fun stop => ?_
  grind

theorem quiet_verifyCreated {l : MappingLifecycle} {plan : MappingMethodPlan}
    {listener : MappingListener} {handle : OwnedMappingHandle} {created : MappingEffect}
    {row : MappingMethodReport} {a : Accounting} :
    Quiet (l.verifyCreated plan listener handle created row a) := by
  unfold MappingLifecycle.verifyCreated MappingLifecycle.verify
  grind [quiet_path]

end Quiet

/-! ## What the transport passes on -/

/-- **What an adapter has exchanged and what the wire has seen**: a request
was not sent, and there is no reply, or it was; and what the adapter has of
the reply is what came back. -/
inductive Forwarded : List Exchange → List Exchange → Prop
  | nil : Forwarded [] []
  | refused {x : Exchange} {xs ys : List Exchange} {refusal : ControlRefusal}
      (hreply : x.reply = .error refusal) (h : Forwarded xs ys) : Forwarded (x :: xs) ys
  | sent {x y : Exchange} {xs ys : List Exchange} (hrequest : y.request = x.request)
      (hreply : ∀ body, x.reply = .ok body → y.reply = .ok body) (h : Forwarded xs ys) :
      Forwarded (x :: xs) (y :: ys)

namespace Forwarded

variable {xs ys : List Exchange}

/-- What the wire has seen the adapter has asked for. -/
theorem exists_own (h : Forwarded xs ys) {y : Exchange} (hy : y ∈ ys) :
    ∃ x ∈ xs, x.request = y.request ∧ ∀ body, x.reply = .ok body → y.reply = .ok body := by
  induction h with
  | nil => cases hy
  | refused _ _ ih =>
    obtain ⟨x, hx, hrest⟩ := ih hy
    exact ⟨x, List.mem_cons_of_mem _ hx, hrest⟩
  | sent hrequest hreply _ ih =>
    rcases List.mem_cons.mp hy with rfl | hy
    · exact ⟨_, List.mem_cons_self, hrequest.symm, hreply⟩
    · obtain ⟨x, hx, hrest⟩ := ih hy
      exact ⟨x, List.mem_cons_of_mem _ hx, hrest⟩

/-- What the adapter has a reply to the wire has seen. -/
theorem exists_wire (h : Forwarded xs ys) {x : Exchange} {body : List UInt8} (hx : x ∈ xs)
    (hbody : x.reply = .ok body) : ∃ y ∈ ys, y.request = x.request ∧ y.reply = .ok body := by
  induction h with
  | nil => cases hx
  | refused hreply _ ih =>
    rcases List.mem_cons.mp hx with rfl | hx
    · cases hreply.symm.trans hbody
    · exact ih hx
  | sent hrequest hreply _ ih =>
    rcases List.mem_cons.mp hx with rfl | hx
    · exact ⟨_, List.mem_cons_self, hrequest, hreply body hbody⟩
    · obtain ⟨y, hy, hrest⟩ := ih hx
      exact ⟨y, List.mem_cons_of_mem _ hy, hrest⟩

end Forwarded

section Lifecycle

variable {l : MappingLifecycle} {plan : MappingMethodPlan} {listener : MappingListener}
  {row row' : MappingMethodReport} {a a' : Accounting} {t : List RuntimeEvent} {ended : MethodEnd}
  {own : List (ControlCall × ControlReply)} {handle : OwnedMappingHandle}

section Transport

variable {b : BoundedControl} {destination : SocketAddr} {request : RouterRequest} {capacity : ℕ}
  {reply : Except ControlRefusal (List UInt8)}

/-- The request is on the wire, and what is passed on is what came back. -/
def OnWire (request : RouterRequest) (reply : Except ControlRefusal (List UInt8))
    (t : List RuntimeEvent) : Prop :=
  ∃ y, wireExchanges t = [y] ∧ y.request = request
    ∧ ∀ body, reply = .ok body → y.reply = .ok body

theorem yields_send (h : Yields (b.send destination request capacity a) t (reply, a')) :
    (t = [] ∧ (∃ refusal, reply = .error refusal)
        ∧ (b.protocol.isUdp ∧ request.bytes.length > a.datagramBytes
          ∨ a.charge b.protocol.isUdp.toNat 1 0 (b.isCleanup request) = (false, a')))
      ∨ (a.charge b.protocol.isUdp.toNat 1 0 (b.isCleanup request) = (true, a')
        ∧ OnWire request reply t) := by
  unfold BoundedControl.send at h
  split at h
  next hsize =>
    obtain ⟨rfl, ⟨⟩⟩ := yields_pure.mp h
    exact .inl ⟨rfl, ⟨_, rfl⟩, .inl hsize⟩
  · split at h
    next a₁ hcharge =>
      obtain ⟨rfl, heq⟩ := yields_pure.mp h
      obtain ⟨hreply, rfl⟩ := Prod.mk.inj heq
      exact .inl ⟨rfl, ⟨_, hreply.symm⟩, .inr hcharge⟩
    next a₁ hcharge =>
      obtain ⟨r, u, rfl, hnext⟩ := yields_perform_bind.mp h
      split at hnext
      · obtain ⟨rfl, ⟨⟩⟩ := yields_pure.mp hnext
        exact .inr ⟨hcharge, _, rfl, rfl, nofun⟩
      next bytes hbytes =>
        obtain ⟨u₁, u₂, accepted, rfl, haccept, hend⟩ := yields_bind.mp hnext
        obtain ⟨rfl, heq⟩ := yields_pure.mp hend
        obtain ⟨rfl, rfl⟩ := Prod.mk.inj heq
        have haccepted : wireExchanges u₁ = [] ∧ ∀ body, accepted = .ok body → body = bytes := by
          unfold BoundedControl.accept at haccept
          split at haccept
          · obtain ⟨rfl, rfl⟩ := yields_pure.mp haccept
            exact ⟨rfl, nofun⟩
          · split at haccept
            · obtain ⟨r', v, rfl, hv⟩ := yields_perform_bind.mp haccept
              obtain ⟨rfl, rfl⟩ := yields_pure.mp hv
              refine ⟨rfl, fun body hbody => ?_⟩
              split at hbody
              · cases hbody
              · exact (Except.ok.inj hbody).symm
            · obtain ⟨rfl, rfl⟩ := yields_pure.mp haccept
              exact ⟨rfl, fun body hbody => (Except.ok.inj hbody).symm⟩
        refine .inr ⟨hcharge, ⟨destination, request, r.reply⟩, ?_, rfl, fun body hbody => ?_⟩
        · rw [List.append_nil]
          show _ :: wireExchanges u₁ = _
          rw [haccepted.1]
        · rw [haccepted.2 body hbody]
          exact hbytes

/-- **One request**: it was refused and nothing was sent, or it was sent. -/
theorem yields_boundedExchange
    (h : Yields (b.exchange destination request capacity a) t (reply, a')) :
    (wireExchanges t = [] ∧ ∃ refusal, reply = .error refusal) ∨ OnWire request reply t := by
  unfold BoundedControl.exchange at h
  obtain ⟨r, u, rfl, hnext⟩ := yields_perform_bind.mp h
  have hsent : ∀ {v}, Yields (b.send destination request capacity a) v (reply, a') →
      (wireExchanges v = [] ∧ ∃ refusal, reply = .error refusal) ∨ OnWire request reply v := by
    intro v hv
    rcases yields_send hv with ⟨rfl, hrefusal, -⟩ | ⟨-, hwire⟩
    · exact .inl ⟨rfl, hrefusal⟩
    · exact .inr hwire
  split at hnext
  · obtain ⟨rfl, ⟨⟩⟩ := yields_pure.mp hnext
    exact .inl ⟨rfl, _, rfl⟩
  · split at hnext
    · exact (hsent hnext :)
    · obtain ⟨r', v, rfl, hnext'⟩ := yields_perform_bind.mp hnext
      split at hnext'
      · obtain ⟨rfl, ⟨⟩⟩ := yields_pure.mp hnext'
        exact .inl ⟨rfl, _, rfl⟩
      · exact (hsent hnext' :)

/-- **What an adapter has exchanged is passed on.** -/
theorem forwarded_of_handled (h : Handled b.handle a own t a') :
    Forwarded (exchanges own) (wireExchanges t) := by
  replace h := passes_of_handled h
  induction h with
  | nil s => exact .nil
  | cancelled _ ih => exact ih
  | exchange hone _ ih =>
    rw [wireExchanges_append]
    rcases yields_boundedExchange hone with ⟨hnone, refusal, hrefusal⟩ | ⟨y, hwire, hy, hreply⟩
    · rw [hnone]
      exact .refused hrefusal ih
    · rw [hwire]
      exact .sent hy hreply ih

/-! ## The delete of an adopted lease -/

theorem passes_none (h : b.Passes a own t a') (hnone : exchanges own = []) :
    t = [] ∧ a' = a := by
  induction h with
  | nil s => exact ⟨rfl, rfl⟩
  | cancelled _ ih => exact ih hnone
  | exchange => cases hnone

/-- A call with one exchange is that exchange. -/
theorem passes_single {x : Exchange} (h : b.Passes a own t a') (hone : exchanges own = [x]) :
    ∃ destination capacity, Yields (b.exchange destination x.request capacity a) t (x.reply, a') := by
  induction h with
  | nil s => cases hone
  | cancelled _ ih => exact ih hone
  | exchange hfirst hrest ih =>
    obtain ⟨rfl, hnone⟩ := List.cons.inj hone
    obtain ⟨rfl, rfl⟩ := passes_none hrest hnone
    rw [List.append_nil]
    exact ⟨_, _, hfirst⟩

/-- There is enough for the delete of a method. -/
def CanPay (plan : MappingMethodPlan) (a : Accounting) : Prop :=
  (∀ r, deleteNeed plan r ≤ a.cleanupLeft r) ∧ (plan.protocol.isUdp = true → 60 ≤ a.datagramBytes)

theorem length_delete_le (hof : request.IsOf plan.protocol)
    (hudp : plan.protocol.isUdp = true) : request.bytes.length ≤ 60 := by
  cases hprotocol : plan.protocol with
  | upnpIgd =>
    rw [hprotocol] at hudp
    cases hudp
  | pcp | natPmp =>
    rw [hprotocol] at hof
    cases request with
    | pcp => exact Nat.le_of_eq RouterRequest.length_bytes_pcp
    | natPmp =>
      rw [RouterRequest.length_bytes_natPmp]
      decide
    | soap | empty => exact hof.elim

/-- **A delete that can be paid for is sent, unless the end has come.** -/
theorem yields_deleteExchange (hof : request.IsOf plan.protocol) (hpay : CanPay plan a)
    (h : Yields ((l.control plan true).exchange destination request capacity a) t (reply, a')) :
    (wireExchanges t = [] ∧ (∃ ms, lastReading t = some ms ∧ l.session.collectorEnd ≤ ms)
        ∧ a' = a ∧ ∃ refusal, reply = .error refusal)
      ∨ (OnWire request reply t ∧ a'.controlRequests = a.controlRequests + 1) := by
  have hcleanup : (l.control plan true).isCleanup request = true := rfl
  unfold BoundedControl.exchange at h
  obtain ⟨r, u, rfl, hnext⟩ := yields_perform_bind.mp h
  split at hnext
  next hlate =>
    obtain ⟨rfl, heq⟩ := yields_pure.mp hnext
    obtain ⟨hreply, rfl⟩ := Prod.mk.inj heq
    exact .inl ⟨rfl, ⟨r.ms, rfl, hlate⟩, rfl, _, hreply.symm⟩
  · rcases yields_send hnext with ⟨-, -, hsize | hcharge⟩ | ⟨hcharge, hwire⟩
    · have hle := length_delete_le hof hsize.1
      have hbytes := hpay.2 hsize.1
      exact absurd hsize.2 (by omega)
    · -- a charge that is refused means that the pool was short
      have hrefused := Metered.refused (k := deleteNeed plan) hcharge rfl rfl rfl fun _ => rfl
      have hsame := hrefused.covered (fun r => Nat.zero_le _) hpay.1
      rw [hcleanup] at hcharge
      unfold Accounting.charge at hcharge
      simp only [if_true] at hcharge
      split at hcharge
      · rw [← (Prod.mk.inj hcharge).2] at hsame
        exact absurd hsame (Nat.succ_ne_self _)
      · cases hcharge
    · refine .inr ⟨hwire, ?_⟩
      unfold Accounting.charge at hcharge
      rw [hcleanup] at hcharge
      simp only [if_true] at hcharge
      split at hcharge
      · cases hcharge
      · rw [← (Prod.mk.inj hcharge).2]

/-- **The lease was deleted, unless the end had come**, and the row says what
the reply says. -/
def Cleaned (l : MappingLifecycle) (handle : OwnedMappingHandle) (t : List RuntimeEvent)
    (row : MappingMethodReport) : Prop :=
  (wireExchanges t = [] ∧ (∃ ms, lastReading t = some ms ∧ l.session.collectorEnd ≤ ms)
      ∧ row.cleanup = .leaseExpiryPending)
    ∨ ∃ y, wireExchanges t = [y] ∧ y.request = deleteRequestOf l.gateway.igd handle
      ∧ y.request.isDelete = true
      ∧ (row.cleanup = .confirmedDeleted ∧ (∃ body, y.reply = .ok body ∧ DeletedBy handle body)
        ∨ row.cleanup = .deleteFailed)

theorem yields_cleanUp {epoch : Option ℕ} (hprotocol : handle.protocol = plan.protocol)
    (hcan : CanDelete l.host l.gateway.gateway handle (some l.gateway.reservation) l.gateway.igd)
    (hpay : CanPay plan a) (h : Yields (l.cleanUp plan handle epoch row a) t (row', a')) :
    Cleaned l handle t row' := by
  obtain ⟨t₁, t₂, ⟨deleted, a₁⟩, rfl, hsimulate, hend⟩ := yields_bind.mp h
  obtain ⟨rfl, ⟨⟩⟩ := yields_pure.mp hend
  rw [List.append_nil]
  obtain ⟨own, hown, hhandled⟩ := yields_simulate.mp hsimulate
  rcases yields_deleteOwnedMapping hown with ⟨-, -, hwhy⟩ | ⟨-, hcontrol, x, hex, hx, hdone, -⟩
  · exact absurd hcan (hwhy (uncancelled_of_handled hhandled))
  · obtain ⟨hof, hdelete⟩ := isOf_deleteRequestOf hcontrol
    rw [hprotocol, ← hx] at hof
    rw [← hx] at hdelete
    obtain ⟨destination, capacity, hexchange⟩ := passes_single (passes_of_handled hhandled) hex
    rcases yields_deleteExchange hof hpay hexchange with
      ⟨hnone, htime, rfl, refusal, hrefusal⟩ | ⟨⟨y, hwire, hy, hreply⟩, hcount⟩
    · refine .inl ⟨hnone, htime, ?_⟩
      have hnot : deleted.cleanup ≠ .confirmedDeleted := by
        intro hconfirmed
        rw [hconfirmed] at hdone
        obtain ⟨hok, -⟩ := hdone
        cases hrefusal.symm.trans hok
      unfold cleanedRow
      rw [if_neg hnot, if_pos (decide_eq_true rfl)]
    · refine .inr ⟨y, hwire, hy.trans hx, hy ▸ hdelete, ?_⟩
      unfold cleanedRow
      by_cases hconfirmed : deleted.cleanup = .confirmedDeleted
      · rw [if_pos hconfirmed]
        rw [hconfirmed] at hdone
        obtain ⟨hok, hbody⟩ := hdone
        exact .inl ⟨rfl, _, hreply _ hok, hbody⟩
      · rw [if_neg hconfirmed, if_neg (by rw [decide_eq_true_eq, hcount]; exact Nat.succ_ne_self _)]
        exact .inr rfl

end Transport

/-! ## A method -/

section Method

variable {summary : MappingPathSummary}

/-- **A lease that was adopted can be deleted here**: the reservation is the
one it was made with, and over UPnP so is the control URL. -/
theorem canDelete_of_adopted {port : UInt16} {nonce : MappingNonce} {input : MappingInput}
    {xs : List Exchange} {created : MappingEffect}
    (hinput : l.mappingInput plan port nonce = some input)
    (hrun : MapRun l.host l.gateway.gateway input False xs created)
    (hadopted : adopted created = some handle) :
    CanDelete l.host l.gateway.gateway handle (some l.gateway.reservation) l.gateway.igd := by
  obtain ⟨howns, hauthorized, hcontrol, -⟩ := owns_of_adopted hrun hadopted
  have hreservation : input.reservation = some l.gateway.reservation
      ∧ (input.protocol = .upnpIgd → input.control = l.gateway.igd) := by
    unfold MappingLifecycle.mappingInput at hinput
    split at hinput
    · cases hinput
      exact ⟨rfl, by rintro ⟨⟩⟩
    · cases hinput
      exact ⟨rfl, by rintro ⟨⟩⟩
    · obtain ⟨igd, higd, rfl⟩ := Option.map_eq_some_iff.mp hinput
      exact ⟨rfl, fun _ => higd.symm⟩
  have hdigest := MappingInput.digest_of_owns howns
  rw [MappingInput.digestFor, hreservation.1, Option.filter_some] at hdigest
  constructor
  · unfold UpnpHost.deleteAllowed
    rw [hauthorized, Bool.true_and]
    cases hgateway : l.gateway.reservation.authorizes l.gateway.gateway with
    | true =>
      rw [hgateway, if_pos rfl] at hdigest
      rw [hdigest]
      simp [hgateway]
    | false =>
      rw [hgateway, if_neg Bool.false_ne_true] at hdigest
      -- without the reservation only PCP can have adopted anything
      cases input with
      | pcp input =>
        rw [hdigest, howns.1]
        rfl
      | natPmp input => exact absurd hdigest howns.2.2.2.2
      | upnp input => exact absurd hdigest howns.2.2.2.2.2.2.2
  · intro hupnp
    cases input with
    | pcp input | natPmp input => cases howns.1.symm.trans hupnp
    | upnp input =>
      obtain ⟨hat, hsendable⟩ := hcontrol input.descriptor rfl
      refine ⟨input.descriptor, (hreservation.2 rfl).symm, ?_, hsendable⟩
      unfold UpnpHost.controlMatches
      rw [hat, howns.2.2.2.2.2.1]
      simp

/-- **The part of a method from its create on**: what comes before it says
nothing to the router. -/
inductive Creates (l : MappingLifecycle) (plan : MappingMethodPlan) (listener : MappingListener)
    (row : MappingMethodReport) (a : Accounting) : List RuntimeEvent → MethodEnd → Prop
  | mk {pre create after : List RuntimeEvent} {nonce : MappingNonce} {input : MappingInput}
      {effect : MappingEffect} {a₁ a₂ : Accounting} {ended : MethodEnd}
      (hpre : wireExchanges pre = [])
      (hinput : l.mappingInput plan listener.port nonce = some input)
      (hcreate : Yields ((input.map l.host l.gateway.gateway).simulate
        (l.control plan false).handle a) create (effect, a₁))
      (hafter : Yields (l.afterCreate plan listener row effect a₁) after (ended, a₂)) :
      Creates l plan listener row a (pre ++ create ++ after) ended

theorem Creates.prepend (h : Creates l plan listener row a t ended) {u : List RuntimeEvent}
    (hu : wireExchanges u = []) : Creates l plan listener row a (u ++ t) ended := by
  obtain ⟨hpre, hinput, hcreate, hafter⟩ := h
  rw [← List.append_assoc, ← List.append_assoc]
  refine .mk ?_ hinput hcreate hafter
  rw [wireExchanges_append, hu, hpre]
  rfl

/-- The method stops before it has asked for anything. -/
def Halted (row : MappingMethodReport) (t : List RuntimeEvent) (ended : MethodEnd) : Prop :=
  wireExchanges t = [] ∧ ∃ stop, ended = row.halted stop

theorem halted_of_pure {stop : MappingStop}
    (h : Yields (pure (row.halted stop, a) : Runtime _) t (ended, a')) : Halted row t ended := by
  obtain ⟨rfl, ⟨⟩⟩ := yields_pure.mp h
  exact ⟨rfl, _, rfl⟩

theorem creates_of_create {nonce : MappingNonce}
    (h : Yields (l.create plan listener row nonce a) t (ended, a')) :
    Halted row t ended ∨ Creates l plan listener row a t ended := by
  unfold MappingLifecycle.create at h
  split at h
  · exact .inl (halted_of_pure h)
  next input hinput =>
    obtain ⟨create, after, ⟨effect, a₁⟩, rfl, hcreate, hafter⟩ := yields_bind.mp h
    refine .inr ?_
    show Creates l plan listener row a ([] ++ create ++ after) ended
    exact .mk rfl hinput hcreate hafter

theorem creates_of_withNonce (h : Yields (l.withNonce plan listener row a) t (ended, a')) :
    Halted row t ended ∨ Creates l plan listener row a t ended := by
  unfold MappingLifecycle.withNonce at h
  split at h
  · obtain ⟨r, u, rfl, hnext⟩ := yields_perform_bind.mp h
    split at hnext
    · exact .inl (halted_of_pure hnext :)
    · split at hnext
      · exact .inl (halted_of_pure hnext :)
      · rcases creates_of_create hnext with hquiet | hcreates
        · exact .inl hquiet
        · exact .inr (hcreates.prepend (u := [_]) rfl)
  · exact creates_of_create h

/-- Before its create a method makes sure that it can pay for the delete. -/
theorem creates_of_afterBaseline
    (h : Yields (l.afterBaseline plan listener summary a) t (ended, a')) :
    Halted { plan, baseline := some summary } t ended
      ∨ (Creates l plan listener { plan, baseline := some summary } a t ended
        ∧ (summary.outcome = .succeeded ∨ summary.outcome = .failed)
        ∧ ∀ r, deleteNeed plan r ≤ a.cleanupLeft r) := by
  unfold MappingLifecycle.afterBaseline at h
  dsimp only at h
  split at h
  · exact .inl (halted_of_pure h)
  next houtcome =>
    obtain ⟨t₁, t₂, stop, rfl, hasked, hnext⟩ := yields_bind.mp h
    have hquiet := quiet_ordinary.wireExchanges hasked
    rw [Halted, wireExchanges_append, hquiet, List.nil_append]
    split at hnext
    · exact .inl (halted_of_pure hnext)
    · split at hnext
      · exact .inl (halted_of_pure hnext)
      next hpool =>
        obtain ⟨r, u, rfl, hnext'⟩ := yields_perform_bind.mp hnext
        split at hnext'
        · exact .inl (halted_of_pure hnext' :)
        · rcases creates_of_withNonce hnext' with hquiet' | hcreates
          · exact .inl hquiet'
          · refine .inr ⟨(hcreates.prepend (u := [_]) rfl).prepend hquiet, ?_, fun r => ?_⟩
            · by_cases hsucceeded : summary.outcome = .succeeded
              · exact .inl hsucceeded
              · by_cases hfailed : summary.outcome = .failed
                · exact .inr hfailed
                · exact absurd ⟨hsucceeded, hfailed⟩ houtcome
            · rw [not_or, Nat.not_lt] at hpool
              cases r with
              | datagrams => exact hpool.2
              | controls => exact Nat.pos_of_ne_zero hpool.1
              | dialbacks => exact Nat.le_refl 0

/-- **The path was measured without the router's help**: on a listener of
this method, before anything was exchanged, and it is known whether it
works. -/
structure Measured (l : MappingLifecycle) (plan : MappingMethodPlan) (listener : MappingListener)
    (before : List RuntimeEvent) : Prop where
  bound : ∃ r : RuntimeReply, (.bindFresh plan.transport, r) ∈ before ∧ r.listener = .ok listener
  silent : wireExchanges before = []
  baseline : ∃ (r : RuntimeReply) (evidence : MappingPathEvidence) (ms : ℕ),
    (.pathCheck listener (baselineCheck plan listener) l.session.activeEnd, r)
      ∈ before
    ∧ r.evidence = .ok evidence
    ∧ l.isEvidenceOf (baselineCheck plan listener) evidence ms = true
    ∧ (evidence.transcript.outcome = .succeeded ∨ evidence.transcript.outcome = .failed)

/-- A path that is reported was checked, and the evidence is of the check. -/
theorem yields_path {check : MappingPathCheck}
    (h : Yields (l.path listener check a) t (.ok summary, a')) :
    ∃ (r : RuntimeReply) (evidence : MappingPathEvidence) (ms : ℕ),
      (.pathCheck listener check l.session.activeEnd, r) ∈ t ∧ r.evidence = .ok evidence
        ∧ l.isEvidenceOf check evidence ms = true
        ∧ summary.outcome = evidence.transcript.outcome := by
  unfold MappingLifecycle.path at h
  obtain ⟨t₁, t₂, stop, rfl, -, hnext⟩ := yields_bind.mp h
  split at hnext
  · cases (yields_pure.mp hnext).2
  · split at hnext
    · cases (yields_pure.mp hnext).2
    · obtain ⟨r, u, rfl, hchecked⟩ := yields_perform_bind.mp hnext
      split at hchecked
      · cases (yields_pure.mp hchecked).2
      next evidence hevidence =>
        obtain ⟨u₁, u₂, attested, rfl, hattest, hend⟩ := yields_bind.mp hchecked
        obtain ⟨rfl, rfl⟩ := Prod.mk.inj (yields_pure.mp hend).2
        have hmem : (.pathCheck listener check l.session.activeEnd, r)
            ∈ t₁ ++ (.pathCheck listener check l.session.activeEnd, r) :: (u₁ ++ u₂) :=
          List.mem_append_right _ List.mem_cons_self
        unfold MappingLifecycle.attest at hattest
        obtain ⟨v₁, v₂, stop', rfl, -, hjudge⟩ := yields_bind.mp hattest
        split at hjudge
        · cases (yields_pure.mp hjudge).2
        · obtain ⟨now, w, rfl, hvalid⟩ := yields_perform_bind.mp hjudge
          split at hvalid
          · cases (yields_pure.mp hvalid).2
          next hscope =>
            obtain ⟨attestation, w', rfl, hattested⟩ := yields_perform_bind.mp hvalid
            split at hattested
            · cases (yields_pure.mp hattested).2
            · obtain ⟨x₁, x₂, stop'', rfl, -, hlast⟩ := yields_bind.mp hattested
              split at hlast
              · cases (yields_pure.mp hlast).2
              · have hsummary := Except.ok.inj (yields_pure.mp hlast).2
                refine ⟨r, evidence, now.ms, hmem, hevidence, ?_, ?_⟩
                · rwa [Bool.not_eq_true', Bool.not_eq_false] at hscope
                · rw [← hsummary]

/-- **A method that asks nothing of the router** is the last, and has created
nothing. -/
structure Silent (t : List RuntimeEvent) (ended : MethodEnd) : Prop where
  wire : wireExchanges t = []
  row : ∀ row ∈ ended.row, row.cleanup = .notCreated
  last : ∃ row stop, ended = .broke row stop

/-- **What a method does**: it asks nothing of the router, or it has measured
the path before, and can pay for a delete. -/
theorem measured_of_runMethod (hbytes : plan.protocol.isUdp = true → 60 ≤ a.datagramBytes)
    (h : Yields (l.runMethod plan a) t (ended, a')) :
    Silent t ended ∨ ∃ before rest listener r summary a₁,
      t = before ++ rest ++ [(.dropListener listener, r)] ∧ Measured l plan listener before
        ∧ Creates l plan listener { plan, baseline := some summary } a₁ rest ended
        ∧ CanPay plan a₁ := by
  unfold MappingLifecycle.runMethod at h
  obtain ⟨t₁, t₂, stop, rfl, hasked, hnext⟩ := yields_bind.mp h
  have hquiet := quiet_ordinary.wireExchanges hasked
  have hsilent : ∀ {u : List RuntimeEvent} {row : Option MappingMethodReport} {stop : MappingStop},
      wireExchanges u = [] → ended = .broke row stop → (∀ m ∈ row, m.cleanup = .notCreated) →
        Silent (t₁ ++ u) ended := by
    intro u row stop hu hended hrow
    refine ⟨by rw [wireExchanges_append, hquiet, hu]; rfl, ?_, row, stop, hended⟩
    rw [hended]
    exact hrow
  have hnone : ∀ m ∈ (none : Option MappingMethodReport), m.cleanup = .notCreated :=
    fun m hm => absurd hm (Option.not_mem_none m)
  split at hnext
  · obtain ⟨rfl, heq⟩ := yields_pure.mp hnext
    exact .inl (hsilent rfl (Prod.mk.inj heq).1.symm hnone)
  · obtain ⟨r, u, rfl, hbound⟩ := yields_perform_bind.mp hnext
    split at hbound
    · obtain ⟨rfl, heq⟩ := yields_pure.mp hbound
      exact .inl (hsilent rfl (Prod.mk.inj heq).1.symm hnone)
    next listener hlistener =>
      obtain ⟨u₁, u₂, ⟨ended', a₂⟩, rfl, hmethod, hdrop⟩ := yields_bind.mp hbound
      obtain ⟨r', v, rfl, hend⟩ := yields_perform_bind.mp hdrop
      obtain ⟨rfl, ⟨⟩⟩ := yields_pure.mp hend
      have hdropped : ∀ {w : List RuntimeEvent}, wireExchanges w = [] →
          wireExchanges ((.bindFresh plan.transport, r) ::
            (w ++ [(.dropListener listener, r')])) = [] := by
        intro w hw
        show wireExchanges (w ++ _) = []
        rw [wireExchanges_append, hw]
        rfl
      unfold MappingLifecycle.withListener at hmethod
      split at hmethod
      · obtain ⟨rfl, heq'⟩ := yields_pure.mp hmethod
        exact .inl (hsilent rfl (Prod.mk.inj heq').1.symm hnone)
      · obtain ⟨w₁, w₂, ⟨measured, a₁⟩, rfl, hpath, hrest⟩ := yields_bind.mp hmethod
        have hpathQuiet := quiet_path.wireExchanges hpath
        split at hrest
        · obtain ⟨rfl, heq'⟩ := yields_pure.mp hrest
          refine .inl (hsilent (hdropped ?_) (Prod.mk.inj heq').1.symm ?_)
          · rw [List.append_nil]
            exact hpathQuiet
          · intro m hm
            rw [← Option.some.inj hm]
        next summary a₁' heq' =>
          cases heq'
          rcases creates_of_afterBaseline hrest with ⟨hwire, stop', hended⟩ | ⟨hcreates, hknown, hpay⟩
          · refine .inl (hsilent (hdropped ?_) hended ?_)
            · rw [wireExchanges_append, hpathQuiet, hwire]
              rfl
            · intro m hm
              rw [← Option.some.inj hm]
          · obtain ⟨r'', evidence, ms, hmem, hevidence, hscope, hsame⟩ := yields_path hpath
            have hmetered := meters_path w₁ _ hpath
            refine .inr ⟨t₁ ++ (.bindFresh plan.transport, r) :: w₁, w₂, listener, r', summary, a₁,
              by simp, ⟨⟨r, by simp, hlistener⟩, ?_, r'', evidence, ms, by simp [hmem], hevidence,
                hscope, hsame ▸ hknown⟩, hcreates, hpay, fun hudp => ?_⟩
            · rw [wireExchanges_append, hquiet]
              exact hpathQuiet
            · rw [show a₁.datagramBytes = a.datagramBytes from hmetered.bytes]
              exact hbytes hudp

end Method

/-! ## What comes of a create -/

section Outcome

variable {a₁ a₂ : Accounting} {port : UInt16} {nonce : MappingNonce} {input : MappingInput}
  {create after : List RuntimeEvent} {effect : MappingEffect}

theorem finish_row (row : MappingMethodReport) :
    ∃ m, (finish row).row = some m ∧ m.cleanup = row.cleanup
      ∧ (UnknownEnd row.cleanup → m.expiryUnknown = true) := by
  unfold finish UnknownEnd
  grind [MethodEnd.row]

/-- Nothing is left behind. -/
def MappingMethodReport.IsClean (row : MappingMethodReport) : Prop :=
  row.cleanup = .notCreated ∨ row.cleanup = .confirmedDeleted

theorem isClean_of_finish {m : MappingMethodReport}
    (h : finish row = .next m) : m.IsClean := by
  unfold finish at h
  grind [MappingMethodReport.IsClean]

/-- Over a packet protocol, and over UPnP for a method of this lifecycle, the
delete is the one of the call. -/
theorem deleteRequestOf_input (hinput : l.mappingInput plan port nonce = some input)
    (howns : input.Owns l.host l.gateway.gateway handle) :
    deleteRequestOf l.gateway.igd handle = deleteRequestOf input.control handle := by
  have hprotocol := protocol_of_owns howns
  have hplan := protocol_mappingInput hinput
  by_cases hupnp : plan.protocol = .upnpIgd
  · unfold MappingLifecycle.mappingInput at hinput
    rw [hupnp] at hinput
    obtain ⟨igd, higd, rfl⟩ := Option.map_eq_some_iff.mp hinput
    rw [higd]
    rfl
  · have hpacket : handle.protocol ≠ .upnpIgd := by
      rw [hprotocol, hplan]
      exact hupnp
    rw [deleteRequestOf_packet hpacket, deleteRequestOf_packet hpacket]

/-- A create that was not adopted is the end of the method. -/
theorem finished_of_afterCreate (hadopted : adopted effect = none)
    (h : Yields (l.afterCreate plan listener row effect a) after (ended, a₂)) :
    after = [] ∧ ended = finish (createdRow row effect) := by
  unfold MappingLifecycle.afterCreate at h
  rw [hadopted] at h
  obtain ⟨rfl, ⟨⟩⟩ := yields_pure.mp h
  exact ⟨rfl, rfl⟩

/-- **An adopted lease** is deleted with the next request, unless the end has
come. -/
theorem cleaned_of_afterCreate (hinput : l.mappingInput plan port nonce = some input)
    (hpay : CanPay plan a)
    (hcreate : Yields ((input.map l.host l.gateway.gateway).simulate
      (l.control plan false).handle a) create (effect, a₁))
    (hadopted : adopted effect = some handle)
    (h : Yields (l.afterCreate plan listener row effect a₁) after (ended, a₂)) :
    ∃ row', ended = finish row' ∧ Cleaned l handle after row' := by
  obtain ⟨own, hhandled, hrun⟩ := mapRun_of_simulate hcreate
  obtain ⟨howns, -, -, looks, x, more, hxs, hlooks, hx, hmore⟩ := owns_of_adopted hrun hadopted
  have hplan := protocol_mappingInput hinput
  have hprotocol : handle.protocol = plan.protocol := (protocol_of_owns howns).trans hplan
  have hshape := callShape_of_mapRun hrun
  have hmetered := metered_handled hhandled fun x hx =>
    ⟨by rw [← show input.protocol = (l.control plan false).protocol from hplan]
        exact isOf_of_callShape hshape x hx, nofun⟩
  unfold MappingLifecycle.afterCreate at h
  rw [hadopted] at h
  obtain ⟨v, w, ⟨row₁, b⟩, rfl, hverify, hclean⟩ := yields_bind.mp h
  obtain ⟨w₁, w₂, ⟨row₂, b'⟩, rfl, hcleaned, hend⟩ := yields_bind.mp hclean
  obtain ⟨rfl, heq⟩ := yields_pure.mp hend
  have hquiet := quiet_verifyCreated.wireExchanges hverify
  have hverified : Metered _ noNeed a₁ v b := meters_verifyCreated v _ hverify
  -- neither the create nor the check of the path has spent anything set aside
  have hstill : CanPay plan b := by
    refine ⟨fun r => ?_, fun hudp => ?_⟩
    · have hcost := hmetered.cleanup_le r
      rw [hxs, (needs_of_create hplan hlooks hx hmore r).2] at hcost
      have hleft := hmetered.cleanup r
      have hcost' := hverified.cleanup_le r
      have hleft' := hverified.cleanup r
      have hneed := hpay.1 r
      simp only [noNeed] at hcost'
      omega
    · rw [hverified.bytes, hmetered.bytes]
      exact hpay.2 hudp
  refine ⟨row₂, (Prod.mk.inj heq).1.symm, ?_⟩
  rw [Cleaned, List.append_nil, wireExchanges_append, hquiet, List.nil_append]
  rcases yields_cleanUp hprotocol (canDelete_of_adopted hinput hrun hadopted) hstill hcleaned with
    ⟨hnone, ⟨ms, hread, hlate⟩, hpending⟩ | hsent
  · refine .inl ⟨hnone, ⟨ms, ?_, hlate⟩, hpending⟩
    unfold lastReading at hread ⊢
    rw [List.filterMap_append, List.getLast?_append, hread]
    rfl
  · exact .inr hsent

end Outcome

/-! ## The order of the calls -/

section Order

variable {plans : List MappingMethodPlan}

/-- **The lease is deleted once**, or the clock says that the end has come. -/
def DeletedOnce (l : MappingLifecycle) (handle : OwnedMappingHandle) (t : List RuntimeEvent) :
    Prop :=
  (∃ y, wireExchanges t = [y] ∧ y.request = deleteRequestOf l.gateway.igd handle
      ∧ y.request.isDelete = true)
    ∨ (wireExchanges t = [] ∧ ∃ ms, lastReading t = some ms ∧ l.session.collectorEnd ≤ ms)

/-- **The order in a method.** The router is asked for nothing, or only after
the path was measured without it; and a lease that is adopted is deleted,
once, before the listener is dropped. -/
inductive OrderedMethod (l : MappingLifecycle) (plan : MappingMethodPlan) :
    List RuntimeEvent → Prop
  | silent {t : List RuntimeEvent} (hwire : wireExchanges t = []) : OrderedMethod l plan t
  | created {before create : List RuntimeEvent} {listener : MappingListener} {nonce : MappingNonce}
      {input : MappingInput} {effect : MappingEffect} {a a' : Accounting} {r : RuntimeReply}
      (hmeasured : Measured l plan listener before)
      (hinput : l.mappingInput plan listener.port nonce = some input)
      (hcreate : Yields ((input.map l.host l.gateway.gateway).simulate
        (l.control plan false).handle a) create (effect, a'))
      (hnone : adopted effect = none) :
      OrderedMethod l plan (before ++ create ++ [(.dropListener listener, r)])
  | adopted {before create after : List RuntimeEvent} {listener : MappingListener}
      {nonce : MappingNonce} {input : MappingInput} {effect : MappingEffect}
      {handle : OwnedMappingHandle} {a a' : Accounting} {r : RuntimeReply}
      (hmeasured : Measured l plan listener before)
      (hinput : l.mappingInput plan listener.port nonce = some input)
      (hcreate : Yields ((input.map l.host l.gateway.gateway).simulate
        (l.control plan false).handle a) create (effect, a'))
      (hadopted : adopted effect = some handle)
      (hkept : ∀ y ∈ wireExchanges create, y.request.isDelete = false)
      (hdeleted : DeletedOnce l handle after) :
      OrderedMethod l plan (before ++ create ++ after ++ [(.dropListener listener, r)])

/-- The path stays measured while nothing is exchanged. -/
theorem Measured.append {before pre : List RuntimeEvent} (h : Measured l plan listener before)
    (hpre : wireExchanges pre = []) : Measured l plan listener (before ++ pre) := by
  obtain ⟨⟨r, hr, hlistener⟩, hsilent, r', evidence, ms, hmem, hrest⟩ := h
  refine ⟨⟨r, List.mem_append_left _ hr, hlistener⟩, ?_,
    r', evidence, ms, List.mem_append_left _ hmem, hrest⟩
  rw [wireExchanges_append, hsilent, hpre]
  rfl

theorem orderedMethod_of_creates {before : List RuntimeEvent} {r : RuntimeReply}
    (hmeasured : Measured l plan listener before) (hpay : CanPay plan a)
    (h : Creates l plan listener row a t ended) :
    OrderedMethod l plan (before ++ t ++ [(.dropListener listener, r)]) := by
  obtain @⟨pre, create, after, nonce, input, effect, a₁, a₂, ended, hpre, hinput, hcreate, hafter⟩ := h
  rw [← List.append_assoc before, ← List.append_assoc before]
  cases hadopted : adopted effect with
  | none =>
    obtain ⟨rfl, -⟩ := finished_of_afterCreate hadopted hafter
    rw [List.append_nil]
    exact .created (hmeasured.append hpre) hinput hcreate hadopted
  | some handle =>
    obtain ⟨own, hhandled, hrun⟩ := mapRun_of_simulate hcreate
    obtain ⟨-, -, -, looks, x, more, hxs, hlooks, hx, hmore⟩ := owns_of_adopted hrun hadopted
    refine .adopted (hmeasured.append hpre) hinput hcreate hadopted ?_ ?_
    · intro y hy
      obtain ⟨z, hz, hrequest, -⟩ := (forwarded_of_handled hhandled).exists_own hy
      rw [← hrequest]
      rw [hxs] at hz
      rcases List.mem_append.mp hz with hz | hz
      · exact (kinds_of_isLook (isLook_of_looks hlooks.looks z hz)).2
      · rcases List.mem_cons.mp hz with rfl | hz
        · rw [hx]
          exact create_isDelete.1
        · exact (kinds_of_isLook (isLook_of_looks hmore z hz)).2
    · obtain ⟨row', -, ⟨hnone, htime, -⟩ | ⟨y, hwire, hrequest, hdelete, -⟩⟩ :=
        cleaned_of_afterCreate hinput hpay hcreate hadopted hafter
      · exact .inr ⟨hnone, htime⟩
      · exact .inl ⟨y, hwire, hrequest, hdelete⟩

/-- A method that another follows has left nothing behind. -/
theorem isClean_of_creates {m : MappingMethodReport} (hpay : CanPay plan a)
    (h : Creates l plan listener row a t (.next m)) : m.IsClean := by
  generalize hended : MethodEnd.next m = ended at h
  obtain @⟨pre, create, after, nonce, input, effect, a₁, a₂, ended, hpre, hinput, hcreate, hafter⟩ := h
  cases hadopted : adopted effect with
  | none =>
    obtain ⟨-, hfinish⟩ := finished_of_afterCreate hadopted hafter
    exact isClean_of_finish (hfinish.symm.trans hended.symm)
  | some handle =>
    obtain ⟨row', hfinish, -⟩ := cleaned_of_afterCreate hinput hpay hcreate hadopted hafter
    exact isClean_of_finish (hfinish.symm.trans hended.symm)

/-- **A run is a sequence of runs of methods**, after the clock was read; its
rows are theirs. -/
structure InMethods (l : MappingLifecycle) (t : List RuntimeEvent) (rows : List MappingMethodReport)
    (start : List RuntimeEvent) (runs : List (MethodRun l)) : Prop where
  trace : t = start ++ runs.flatMap MethodRun.trace
  start : ∀ x ∈ start, x.1 = .nowMs
  rows : rows = runs.filterMap MethodRun.row

/-- Every method but the last has gone on to the next. -/
def Chained (runs : List (MethodRun l)) : Prop :=
  ∀ before next after, runs = before ++ next :: after →
    ∀ run ∈ before, ∃ row, run.ended = .next row

theorem chained_nil : Chained ([] : List (MethodRun l)) :=
  fun _ _ _ hruns => absurd hruns.symm (by simp)

theorem Chained.cons {run : MethodRun l} {runs : List (MethodRun l)} (h : Chained runs)
    (hrun : run.ended = .next row) : Chained (run :: runs) := by
  intro before next after hruns earlier hearlier
  cases before with
  | nil => cases hearlier
  | cons first before =>
    obtain ⟨rfl, htail⟩ := List.cons.inj hruns
    rcases List.mem_cons.mp hearlier with rfl | hearlier
    · exact ⟨row, hrun⟩
    · exact h before next after htail earlier hearlier

/-- **The methods, one after another.** -/
theorem exists_runs_of_runMethods {ended : MappingLifecycle.MethodsEnd}
    (h : Yields (l.runMethods plans a) t ended) :
    ∃ runs : List (MethodRun l), InMethods l t ended.rows [] runs ∧ Chained runs
      ∧ ∀ run ∈ runs, run.plan ∈ plans ∧ run.start.datagramBytes = a.datagramBytes := by
  induction plans generalizing a t ended with
  | nil =>
    obtain ⟨rfl, rfl⟩ := yields_pure.mp h
    exact ⟨[], ⟨rfl, List.forall_mem_nil _, rfl⟩, chained_nil, List.forall_mem_nil _⟩
  | cons plan plans ih =>
    obtain ⟨t₁, t₂, ⟨methodEnd, a₁⟩, rfl, hone, hrest⟩ := yields_bind.mp h
    have hbytes : a₁.datagramBytes = a.datagramBytes := (meters_runMethod t₁ _ hone).bytes
    cases methodEnd with
    | broke row stop =>
      obtain ⟨rfl, rfl⟩ := yields_pure.mp hrest
      refine ⟨[⟨plan, a, t₁, .broke row stop, a₁, hone⟩], ⟨by simp, List.forall_mem_nil _, ?_⟩, ?_, by simp⟩
      · cases row <;> rfl
      · intro before next after hruns
        simp [List.singleton_eq_append_iff] at hruns
        simp [hruns]
    | next row =>
      obtain ⟨rest, htail, rfl⟩ := yields_bind_pure.mp hrest
      obtain ⟨runs, hruns, hchained, hall⟩ := ih htail
      refine ⟨⟨plan, a, t₁, .next row, a₁, hone⟩ :: runs, ⟨?_, List.forall_mem_nil _, ?_⟩,
        hchained.cons rfl, ?_⟩
      · rw [List.nil_append, List.flatMap_cons, show t₂ = _ from hruns.trace]
        rfl
      · rw [show rest.rows = _ from hruns.rows]
        rfl
      · grind

theorem bytes_of_fits {availableMs : ℕ} (h : a.fits plans availableMs = true)
    (hplan : plan ∈ plans) (hudp : plan.protocol.isUdp = true) : 60 ≤ a.datagramBytes := by
  have hcount : 0 < plans.countP (·.protocol.isUdp) := List.countP_pos_iff.mpr ⟨plan, hplan, hudp⟩
  simp only [Accounting.fits, Bool.and_eq_true, Bool.or_eq_true, decide_eq_true_eq] at h
  omega

/-- Some readings of the clock and then methods, each of which could send its
delete in one datagram. -/
def HasRuns (l : MappingLifecycle) (t : List RuntimeEvent) (rows : List MappingMethodReport) :
    Prop :=
  ∃ (start : List RuntimeEvent) (runs : List (MethodRun l)),
    InMethods l t rows start runs ∧ Chained runs
      ∧ ∀ run ∈ runs, run.plan.protocol.isUdp = true → 60 ≤ run.start.datagramBytes

/-- **A run of the lifecycle** is some readings of the clock and then
methods. -/
theorem exists_runs {report : MappingRunReport}
    (h : Yields (l.runMappingLifecycle plans) t (report, a)) : HasRuns l t report.methods := by
  have hnone : ∀ {u : List RuntimeEvent}, (∀ x ∈ u, x.1 = .nowMs) → HasRuns l u [] :=
    fun {u} hu => ⟨u, [], ⟨(List.append_nil u).symm, hu, rfl⟩, chained_nil, List.forall_mem_nil _⟩
  unfold MappingLifecycle.runMappingLifecycle at h
  dsimp only at h
  obtain ⟨r, u, rfl, hrun⟩ := yields_perform_bind.mp h
  split at hrun
  · obtain ⟨rfl, ⟨⟩⟩ := yields_pure.mp hrun
    exact hnone (by simp)
  · split at hrun
    · obtain ⟨rfl, ⟨⟩⟩ := yields_pure.mp hrun
      exact hnone (by simp)
    · obtain ⟨r', v, rfl, hselected⟩ := yields_perform_bind.mp hrun
      unfold MappingLifecycle.runSelected at hselected
      dsimp only at hselected
      split at hselected
      · obtain ⟨rfl, ⟨⟩⟩ := yields_pure.mp hselected
        exact hnone (by simp)
      next hfits =>
        rw [Bool.not_eq_true, Bool.not_eq_false'] at hfits
        obtain ⟨ended, hmethods, ⟨⟩⟩ := yields_bind_pure.mp hselected
        obtain ⟨runs, hruns, hchained, hall⟩ := exists_runs_of_runMethods hmethods
        refine ⟨[(.nowMs, r), (.nowMs, r')], runs, ⟨?_, by simp, hruns.rows⟩, hchained,
          fun run hrun hudp => ?_⟩
        · rw [show v = _ from hruns.trace]
          rfl
        · obtain ⟨hmem, hbytes⟩ := hall run hrun
          rw [hbytes]
          exact bytes_of_fits hfits hmem hudp

/-- **The lifecycle acts in order**, whatever the runtime does: in each
method the path is measured before the router is asked, a lease that is
adopted is deleted exactly once – unless the clock says that the end has
come – before the listener is dropped, and a method is followed by another
only if its row says that nothing was created or that it is gone. -/
theorem lifecycle_ordered (l : MappingLifecycle) (plans : List MappingMethodPlan)
    {t : List RuntimeEvent} {report : MappingRunReport} {a : Accounting}
    (h : Yields (l.runMappingLifecycle plans) t (report, a)) :
    ∃ (start : List RuntimeEvent) (runs : List (MethodRun l)),
      InMethods l t report.methods start runs
        ∧ (∀ run ∈ runs, OrderedMethod l run.plan run.trace)
        ∧ ∀ before next after, runs = before ++ next :: after → ∀ run ∈ before,
          ∃ row, run.ended = .next row ∧ row.IsClean := by
  obtain ⟨start, runs, hruns, hchained, hbytes⟩ := exists_runs h
  refine ⟨start, runs, hruns, fun run hrun => ?_, fun before next after hsplit run hrun => ?_⟩
  · rcases measured_of_runMethod (hbytes run hrun) run.yields with
      hsilent | ⟨before, rest, listener, r, summary, a₁, htrace, hmeasured, hcreates, hpay⟩
    · exact .silent hsilent.wire
    · rw [htrace]
      exact orderedMethod_of_creates hmeasured hpay hcreates
  · obtain ⟨row, hended⟩ := hchained before next after hsplit run hrun
    have hmem : run ∈ runs := hsplit ▸ List.mem_append_left _ hrun
    have hyields := run.yields
    rw [hended] at hyields
    refine ⟨row, hended, ?_⟩
    rcases measured_of_runMethod (hbytes run hmem) hyields with
      hsilent | ⟨_, rest, listener, r, summary, a₁, -, -, hcreates, hpay⟩
    · obtain ⟨m, stop, hbroke⟩ := hsilent.last
      cases hbroke
    · exact isClean_of_creates hpay hcreates

end Order

end Lifecycle

open LifecycleSample in
/-- A lease over PCP that is kept for a while: its method is in order. -/
theorem kept_lease_in_order :
    plan = ⟨.pcp, .udp⟩
      ∧ ∃ t report a, Yields (lifecycle.runMappingLifecycle [plan]) t (report, a)
        ∧ report.methods.map (·.cleanup) = [.confirmedDeleted]
        ∧ ∃ (start : List RuntimeEvent) (runs : List (MethodRun lifecycle)),
          InMethods lifecycle t report.methods start runs
            ∧ ∀ run ∈ runs, OrderedMethod lifecycle run.plan run.trace := by
  obtain ⟨t, report, a, hrun, hcleanup, -, -⟩ := yields_kept
  obtain ⟨start, runs, hruns, hordered, -⟩ := lifecycle_ordered lifecycle [plan] hrun
  exact ⟨rfl, t, report, a, hrun, hcleanup, start, runs, hruns, hordered⟩

/-! ## What the rows say -/

section Rows

variable {host : UpnpHost} {gateway : SelectedGateway} {input : MappingInput} {xs : List Exchange}

/-- A request for a mapping: neither a look nor a delete. -/
def RouterRequest.isCreate (request : RouterRequest) : Bool := !request.isDelete && !request.isLook

/-- **A reply says that a mapping is gone.** Over PCP and NAT-PMP it belongs
to the mapping, is a success and has the lifetime zero; over UPnP it is the
response to a delete, or the error that there is no such entry. -/
def GoneBy (handle : OwnedMappingHandle) (body : List UInt8) : Prop :=
  match handle.protocol with
  | .upnpIgd => ∃ view, readSoap body = .ok view
      ∧ (view.response = some .delete ∧ view.errorCode = none
        ∨ view.response = some .fault ∧ view.errorCode = some upnpAbsent)
  | protocol => ∃ parsed, decodeFor protocol body = .ok parsed
      ∧ deleteMatches handle parsed = true ∧ parsed.result = 0 ∧ parsed.lifetime = 0

theorem goneBy_of_deletedBy {handle : OwnedMappingHandle} {body : List UInt8}
    (h : DeletedBy handle body) : GoneBy handle body := by
  unfold DeletedBy at h
  unfold GoneBy
  cases hprotocol : handle.protocol with
  | pcp | natPmp =>
    rw [hprotocol] at h
    exact h
  | upnpIgd =>
    rw [hprotocol] at h
    simp only [interpretDelete] at h
    split at h
    · cases h
    next view hview =>
      refine ⟨view, hview, ?_⟩
      grind

/-- **A row says what the replies said.** A mapping that was not created was
not asked for or was refused, one that was deleted was confirmed to be gone,
and where the reply to a create says neither yes nor no its end is not
known. -/
structure Reflects (host : UpnpHost) (gateway : SelectedGateway) (input : MappingInput)
    (wire : List Exchange) (row : MappingMethodReport) : Prop where
  notCreated : row.cleanup = .notCreated → ∀ y ∈ wire, y.request.isCreate = true →
    ∃ body, y.reply = .ok body ∧ input.RefusedBy body
  confirmed : row.cleanup = .confirmedDeleted → ∃ y ∈ wire, ∃ handle body,
    input.Owns host gateway handle ∧ y.request = deleteRequestOf input.control handle
      ∧ y.reply = .ok body ∧ GoneBy handle body
  lost : ∀ y ∈ wire, y.request.isCreate = true →
    (∀ body, y.reply = .ok body → ¬ input.RefusedBy body ∧ ¬ input.GrantedBy body) →
      UnknownEnd row.cleanup ∧ row.expiryUnknown = true

theorem isCreate_of_isLook {r : RouterRequest} (h : r.isLook = true) : r.isCreate = false := by
  rw [RouterRequest.isCreate, h, Bool.not_true, Bool.and_false]

theorem isCreate_of_isDelete {r : RouterRequest} (h : r.isDelete = true) : r.isCreate = false := by
  rw [RouterRequest.isCreate, h, Bool.not_true, Bool.false_and]

/-- The create of a call is the only one. -/
theorem eq_of_isCreate {looks rest : List Exchange} {x z : Exchange} (hlooks : input.Looks looks)
    (hrest : ∀ w ∈ rest, w.request.isCreate = false) (hz : z ∈ looks ++ x :: rest)
    (hcreate : z.request.isCreate = true) : z = x := by
  rcases List.mem_append.mp hz with hz | hz
  · rw [isCreate_of_isLook (isLook_of_looks hlooks z hz)] at hcreate
    cases hcreate
  · rcases List.mem_cons.mp hz with rfl | hz
    · rfl
    · rw [hrest z hz] at hcreate
      cases hcreate

theorem isCreate_of_looks (hlooks : input.Looks xs) : ∀ w ∈ xs, w.request.isCreate = false :=
  fun w hw => isCreate_of_isLook (isLook_of_looks hlooks w hw)

variable {wire : List Exchange}

/-- What the adapter has of the reply to its create the wire has seen. -/
theorem reply_of_isCreate {looks rest : List Exchange} {x y : Exchange} {body : List UInt8}
    (hforwarded : Forwarded (looks ++ x :: rest) wire) (hlooks : input.Looks looks)
    (hrest : ∀ w ∈ rest, w.request.isCreate = false) (hreply : x.reply = .ok body) (hy : y ∈ wire)
    (hcreate : y.request.isCreate = true) : y.reply = .ok body := by
  obtain ⟨z, hz, hrequest, hsame⟩ := hforwarded.exists_own hy
  rw [← hrequest] at hcreate
  rw [eq_of_isCreate hlooks hrest hz hcreate] at hsame
  exact hsame body hreply

/-- **A create that was not adopted.** -/
theorem reflects_of_mapRun {effect : MappingEffect} {m : MappingMethodReport}
    (hrun : MapRun host gateway input False xs effect) (hforwarded : Forwarded xs wire)
    (hnone : adopted effect = none) (hcleanup : m.cleanup = effect.cleanup)
    (hunknown : UnknownEnd effect.cleanup → m.expiryUnknown = true) :
    Reflects host gateway input wire m := by
  cases hrun with
  | untouched hlooks hend =>
    have hno : ∀ y ∈ wire, y.request.isCreate = false := by
      intro y hy
      obtain ⟨z, hz, hrequest, -⟩ := hforwarded.exists_own hy
      rw [← hrequest]
      exact isCreate_of_looks hlooks z hz
    constructor <;> grind [UnknownEnd]
  | refused hlooks hx hreply hbody hend =>
    have hseen : ∀ y ∈ wire, y.request.isCreate = true → y.reply = .ok _ :=
      fun y hy => reply_of_isCreate hforwarded hlooks.looks
        (fun w hw => absurd hw List.not_mem_nil) hreply hy
    constructor <;> grind
  | unknown hlooks hx hmore hend =>
    refine ⟨?_, ?_, fun y hy _ _ => ⟨hcleanup ▸ hend, hunknown hend⟩⟩ <;> grind [UnknownEnd]
  | adopted _ _ _ _ _ hend _ hhandle =>
    rw [adopted, hhandle, hend] at hnone
    cases hnone
  | @deleted looks more x d body handle effect hlooks hx hreply hbody hmore hd hend hhandle howns =>
    have hdelete : d.request.isCreate = false := by
      rw [hd]
      exact isCreate_of_isDelete (isOf_deleteRequestOf (control_of_owns howns)).2
    rw [List.append_assoc, List.cons_append] at hforwarded
    have hseen : ∀ y ∈ wire, y.request.isCreate = true → y.reply = .ok body := by
      refine fun y hy => reply_of_isCreate hforwarded hlooks.looks (fun w hw => ?_) hreply hy
      rcases List.mem_append.mp hw with hw | hw
      · exact isCreate_of_looks hmore w hw
      · rwa [List.mem_singleton.mp hw]
    refine ⟨fun hnone => ?_, fun hconfirmed => ?_, by grind⟩
    · rw [hcleanup.symm.trans hnone] at hend
      cases hend
    · rw [hcleanup.symm.trans hconfirmed] at hend
      obtain ⟨hok, hgone⟩ := hend
      obtain ⟨y, hy, hrequest, hok'⟩ := hforwarded.exists_wire (x := d) (by simp) hok
      exact ⟨y, hy, handle, _, howns, hrequest.trans hd, hok', goneBy_of_deletedBy hgone⟩
  | abandoned _ _ _ _ _ hcancelled => exact hcancelled.elim

/-- **What comes of a create is what the row says.** -/
theorem reflects_of_creates {l : MappingLifecycle} {plan : MappingMethodPlan}
    {listener : MappingListener} {row m : MappingMethodReport} {a : Accounting}
    {t : List RuntimeEvent} {ended : MethodEnd} (hpay : CanPay plan a)
    (h : Creates l plan listener row a t ended) (hm : ended.row = some m) :
    ∃ nonce input, l.mappingInput plan listener.port nonce = some input
      ∧ Reflects l.host l.gateway.gateway input (wireExchanges t) m := by
  obtain @⟨pre, create, after, nonce, input, effect, a₁, a₂, ended, hpre, hinput, hcreate, hafter⟩ := h
  refine ⟨nonce, input, hinput, ?_⟩
  obtain ⟨own, hhandled, hrun⟩ := mapRun_of_simulate hcreate
  have hforwarded := forwarded_of_handled hhandled
  rw [wireExchanges_append, wireExchanges_append, hpre, List.nil_append]
  cases hadopted : adopted effect with
  | none =>
    obtain ⟨rfl, rfl⟩ := finished_of_afterCreate hadopted hafter
    obtain ⟨m', hm', hcleanup, hunknown⟩ :=
      finish_row (createdRow row effect)
    obtain rfl := Option.some.inj (hm.symm.trans hm')
    rw [wireExchanges_nil, List.append_nil]
    exact reflects_of_mapRun hrun hforwarded hadopted hcleanup hunknown
  | some handle =>
    obtain ⟨row', rfl, hcleaned⟩ := cleaned_of_afterCreate hinput hpay hcreate hadopted hafter
    unfold Cleaned at hcleaned
    obtain ⟨m', hm', hcleanup, -⟩ := finish_row row'
    obtain rfl := Option.some.inj (hm.symm.trans hm')
    obtain ⟨howns, hauthorized, -, looks, x, more, hxs, hlooks, hx, hmore⟩ :=
      owns_of_adopted hrun hadopted
    -- the create was granted, and the delete is not a create
    have hgranted : ∀ y ∈ wireExchanges create ++ wireExchanges after, y.request.isCreate = true →
        ∃ body, y.reply = .ok body ∧ input.GrantedBy body := by
      intro y hy hiscreate
      rcases List.mem_append.mp hy with hy | hy
      · obtain ⟨hhandle, -⟩ := Option.filter_eq_some_iff.mp hadopted
        obtain ⟨-, x', hx', hrequest', body, hreply, hbody⟩ :=
          granted_of_handle hrun hhandle hauthorized
        rw [hxs] at hx' hforwarded
        have hcreated : x'.request.isCreate = true := by
          rw [RouterRequest.isCreate, hrequest', create_isDelete.1, create_isDelete.2]
          rfl
        rw [eq_of_isCreate hlooks.looks (isCreate_of_looks hmore) hx' hcreated] at hreply
        exact ⟨body, reply_of_isCreate hforwarded hlooks.looks (isCreate_of_looks hmore) hreply hy
          hiscreate, hbody⟩
      · grind [isCreate_of_isDelete]
    refine ⟨by grind, fun hconfirmed => ?_, by grind⟩
    rw [hcleanup] at hconfirmed
    rcases hcleaned with ⟨-, -, hend⟩ | ⟨d, hwire, hd, -, ⟨-, body, hok, hgone⟩ | hend⟩
    · cases hend.symm.trans hconfirmed
    · refine ⟨d, by simp [hwire], handle, body, howns, ?_, hok, goneBy_of_deletedBy hgone⟩
      rw [hd]
      exact deleteRequestOf_input hinput howns
    · cases hend.symm.trans hconfirmed

/-- **The rows of a run say what the replies said**: what was not created was
not asked for or was refused, what was deleted was confirmed to be gone –
over UPnP also with the error that there is no such entry – and a create
without an answer is reported with an unknown end. -/
theorem rows_reflect_replies (l : MappingLifecycle) (plans : List MappingMethodPlan)
    {t : List RuntimeEvent} {report : MappingRunReport} {a : Accounting}
    (h : Yields (l.runMappingLifecycle plans) t (report, a)) :
    ∃ (start : List RuntimeEvent) (runs : List (MethodRun l)),
      InMethods l t report.methods start runs ∧ ∀ run ∈ runs, ∀ row, run.row = some row →
        (wireExchanges run.trace = [] ∧ row.cleanup = .notCreated)
          ∨ ∃ port nonce input, l.mappingInput run.plan port nonce = some input
            ∧ Reflects l.host l.gateway.gateway input (wireExchanges run.trace) row := by
  obtain ⟨start, runs, hruns, -, hbytes⟩ := exists_runs h
  refine ⟨start, runs, hruns, fun run hrun row hrow => ?_⟩
  rcases measured_of_runMethod (hbytes run hrun) run.yields with
    hsilent | ⟨before, rest, listener, r, summary, a₁, htrace, hmeasured, hcreates, hpay⟩
  · exact .inl ⟨hsilent.wire, hsilent.row row hrow⟩
  · obtain ⟨nonce, input, hinput, hreflects⟩ := reflects_of_creates hpay hcreates hrow
    refine .inr ⟨listener.port, nonce, input, hinput, ?_⟩
    rw [htrace, wireExchanges_append, wireExchanges_append, hmeasured.silent, List.nil_append]
    show Reflects _ _ _ (wireExchanges rest ++ []) row
    rwa [List.append_nil]

end Rows

open LifecycleSample in
/-- The row of a lease over PCP that is kept for a while says that it is
gone, and so did the router. -/
theorem kept_lease_row_reflects :
    plan = ⟨.pcp, .udp⟩
      ∧ ∃ t report a, Yields (lifecycle.runMappingLifecycle [plan]) t (report, a)
        ∧ report.methods.map (·.cleanup) = [.confirmedDeleted]
        ∧ ∃ (start : List RuntimeEvent) (runs : List (MethodRun lifecycle)),
          InMethods lifecycle t report.methods start runs
            ∧ ∀ run ∈ runs, ∀ row, run.row = some row →
              (wireExchanges run.trace = [] ∧ row.cleanup = .notCreated)
                ∨ ∃ port nonce input, lifecycle.mappingInput run.plan port nonce = some input
                  ∧ Reflects lifecycle.host lifecycle.gateway.gateway input
                    (wireExchanges run.trace) row := by
  obtain ⟨t, report, a, hrun, hcleanup, -, -⟩ := yields_kept
  exact ⟨rfl, t, report, a, hrun, hcleanup, rows_reflect_replies lifecycle [plan] hrun⟩

namespace LifecycleSample

/-- The same lifecycle at a gateway with a control URL. -/
def upnpLifecycle : MappingLifecycle where
  host := OwnershipSample.host
  session := lifecycle.session
  gateway := { lifecycle.gateway with igd := some OwnershipSample.control }

/-- A lease of a minute that was adopted there. -/
def upnpHandle : OwnedMappingHandle :=
  OwnershipSample.host.ownedHandle
    { descriptor := OwnershipSample.control
      localAddress := ⟨192, 0, 2, 10⟩
      internalPort := 40000
      protocol := .udp
      maximumLeaseSec := 120
      exclusiveReservation := some OwnershipSample.reservation }
    OwnershipSample.reservation 60 true

/-- `HTTP/1.1 500`, with `<Fault><errorCode>714</errorCode></Fault>`. -/
def absentFault : List UInt8 :=
  [72, 84, 84, 80, 47, 49, 46, 49, 32, 53, 48, 48, 13, 10, 13, 10, 60, 70, 97, 117, 108, 116, 62, 60,
    101, 114, 114, 111, 114, 67, 111, 100, 101, 62, 55, 49, 52, 60, 47, 101, 114, 114, 111, 114, 67,
    111, 100, 101, 62, 60, 47, 70, 97, 117, 108, 116, 62]

end LifecycleSample

open LifecycleSample in
/-- A lease over UPnP is reported as deleted where the delete was answered
with an error. -/
theorem fault_reported_as_deleted :
    (readSoap absentFault).toOption.bind (·.errorCode) = some upnpAbsent
      ∧ ∃ t row a, Yields (upnpLifecycle.cleanUp ⟨.upnpIgd, .udp⟩
          upnpHandle none { plan := ⟨.upnpIgd, .udp⟩ } started) t
          (row, a)
        ∧ (wireExchanges t).map (·.reply.toOption) = [some absentFault]
        ∧ row.cleanup = .confirmedDeleted := by
  have hrun : ((upnpLifecycle.cleanUp ⟨.upnpIgd, .udp⟩
      upnpHandle none { plan := ⟨.upnpIgd, .udp⟩ } started).feed
        [.time 0, .exchanged (.ok absentFault), .time 0]).map (fun x =>
          ((wireExchanges x.1).map (·.reply.toOption), x.2.1.cleanup))
      = some ([some absentFault], .confirmedDeleted) := by decide +kernel
  obtain ⟨⟨t, row, a⟩, hfeed, heq⟩ := Option.map_eq_some_iff.mp hrun
  obtain ⟨hwire, hcleanup⟩ := Prod.mk.inj heq
  exact ⟨by decide +kernel, t, row, a, yields_of_feed hfeed, hwire, hcleanup⟩
