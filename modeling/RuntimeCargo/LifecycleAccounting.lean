import RuntimeCargo.LifecycleGuards

/-!
# What a run of the lifecycle spends

Three things are counted: datagrams, control requests and dialbacks. What a
call costs can be read off it (`RuntimeCall.cost`), so that what was spent
can be read off a trace and compared with what is reported and with what is
left in the two pools.

Every part of the program is metered (`Metered`): between its start and its
end the pools change by exactly what its trace costs, deletes against what
was set aside and all else against the rest, and it costs no more than it
may need. If that much is there at its start no charge is refused. The
needs add up over a method to what `fits` asks for, and so no charge is
refused once the methods fit (`lifecycle_within_budgets`).
-/

open OwnershipSample

open Program

/-! ## Costs -/

inductive Resource where
  | datagrams | controls | dialbacks

/-- What a request to the router costs: it is one control request, and one
datagram unless it is spoken over HTTP. -/
def RouterRequest.cost (request : RouterRequest) : Resource → ℕ
  | .datagrams => match request with
    | .soap _ _ => 0
    | _ => 1
  | .controls => 1
  | .dialbacks => 0

/-- What a measurement costs: two control requests and one dialback, which
over UDP is answered by one datagram. -/
def pathCost (transport : TraversalTransport) : Resource → ℕ
  | .datagrams => (decide (transport = .udp)).toNat
  | .controls => 2
  | .dialbacks => 1

/-- What a call costs. -/
def RuntimeCall.cost : RuntimeCall → Resource → ℕ
  | pathCheck _ check _ => pathCost check.transport
  | routerExchange _ request _ _ => request.cost
  | _ => fun _ => 0

/-- What the ordinary operations of a trace cost. -/
def ordinaryCost (r : Resource) (t : List RuntimeEvent) : ℕ :=
  (t.map fun x => if x.1.isDelete then 0 else x.1.cost r).sum

/-- What the deletes of a trace cost. -/
def cleanupCost (r : Resource) (t : List RuntimeEvent) : ℕ :=
  (t.map fun x => if x.1.isDelete then x.1.cost r else 0).sum

namespace Accounting

/-- What was spent. -/
def spent (a : Accounting) : Resource → ℕ
  | .datagrams => a.sentDatagrams
  | .controls => a.controlRequests
  | .dialbacks => a.externalDialbacks

/-- What is left for ordinary operations. -/
def ordinaryLeft (a : Accounting) : Resource → ℕ
  | .datagrams => a.ordinaryDatagrams
  | .controls => a.ordinaryControl
  | .dialbacks => a.dialbacks

/-- What is left for deletes. -/
def cleanupLeft (a : Accounting) : Resource → ℕ
  | .datagrams => a.cleanupDatagrams
  | .controls => a.cleanupControl
  | .dialbacks => 0

end Accounting

/-- The budget of a resource. -/
def TraversalBudgets.total (b : TraversalBudgets) : Resource → ℕ
  | .datagrams => b.outboundDatagrams
  | .controls => b.controlRequests
  | .dialbacks => b.externalDialbacks

/-- What is set aside for deletes. -/
def TraversalBudgets.reserved (b : TraversalBudgets) : Resource → ℕ
  | .datagrams => b.cleanupDatagrams
  | .controls => b.cleanupControlRequests
  | .dialbacks => 0

/-! ## Metering -/

/-- **A part of a run is metered**: the pools have changed by what its trace
costs, which is within some needs, and if these were covered no charge was
refused. -/
structure Metered (o c : Resource → ℕ) (a : Accounting) (t : List RuntimeEvent)
    (a' : Accounting) : Prop where
  spent : ∀ r, a'.spent r = a.spent r + ordinaryCost r t + cleanupCost r t
  ordinary : ∀ r, a'.ordinaryLeft r + ordinaryCost r t = a.ordinaryLeft r
  cleanup : ∀ r, a'.cleanupLeft r + cleanupCost r t = a.cleanupLeft r
  ordinary_le : ∀ r, ordinaryCost r t ≤ o r
  cleanup_le : ∀ r, cleanupCost r t ≤ c r
  bytes : a'.datagramBytes = a.datagramBytes
  covered : (∀ r, o r ≤ a.ordinaryLeft r) → (∀ r, c r ≤ a.cleanupLeft r) →
    a'.refusals = a.refusals

section Metered

variable {o o' c c' : Resource → ℕ} {a a₁ a₂ : Accounting} {t u : List RuntimeEvent}

theorem ordinaryCost_append {r : Resource} :
    ordinaryCost r (t ++ u) = ordinaryCost r t + ordinaryCost r u := by
  rw [ordinaryCost, List.map_append, List.sum_append]
  rfl

theorem cleanupCost_append {r : Resource} :
    cleanupCost r (t ++ u) = cleanupCost r t + cleanupCost r u := by
  rw [cleanupCost, List.map_append, List.sum_append]
  rfl

theorem Metered.mono (h : Metered o c a t a₁) (ho : ∀ r, o r ≤ o' r) (hc : ∀ r, c r ≤ c' r) :
    Metered o' c' a t a₁ where
  spent := h.spent
  ordinary := h.ordinary
  cleanup := h.cleanup
  ordinary_le r := Nat.le_trans (h.ordinary_le r) (ho r)
  cleanup_le r := Nat.le_trans (h.cleanup_le r) (hc r)
  bytes := h.bytes
  covered hordinary hcleanup := h.covered (fun r => Nat.le_trans (ho r) (hordinary r))
    fun r => Nat.le_trans (hc r) (hcleanup r)

/-- **Needs add up**: what is left after the first part covers the second. -/
theorem Metered.append (h : Metered o c a t a₁) (h' : Metered o' c' a₁ u a₂) :
    Metered (fun r => o r + o' r) (fun r => c r + c' r) a (t ++ u) a₂ where
  spent r := by
    rw [h'.spent, h.spent, ordinaryCost_append, cleanupCost_append]
    omega
  ordinary r := by
    rw [ordinaryCost_append, ← h.ordinary r, ← h'.ordinary r]
    omega
  cleanup r := by
    rw [cleanupCost_append, ← h.cleanup r, ← h'.cleanup r]
    omega
  ordinary_le r := by
    rw [ordinaryCost_append]
    exact Nat.add_le_add (h.ordinary_le r) (h'.ordinary_le r)
  cleanup_le r := by
    rw [cleanupCost_append]
    exact Nat.add_le_add (h.cleanup_le r) (h'.cleanup_le r)
  bytes := h'.bytes.trans h.bytes
  covered hordinary hcleanup := by
    rw [h'.covered ?_ ?_]
    · exact h.covered (fun r => Nat.le_of_add_right_le (hordinary r))
        fun r => Nat.le_of_add_right_le (hcleanup r)
    · intro r
      have hleft := h.ordinary r
      have hcost := h.ordinary_le r
      have hneed := hordinary r
      omega
    · intro r
      have hleft := h.cleanup r
      have hcost := h.cleanup_le r
      have hneed := hcleanup r
      omega

theorem Metered.nil : Metered o c a [] a where
  spent _ := rfl
  ordinary _ := rfl
  cleanup _ := rfl
  ordinary_le r := Nat.zero_le (o r)
  cleanup_le r := Nat.zero_le (c r)
  bytes := rfl
  covered _ _ := rfl

/-- A call that costs nothing. -/
theorem Metered.cons (h : Metered o c a t a₁) {x : RuntimeEvent} (hx : ∀ r, x.1.cost r = 0) :
    Metered o c a (x :: t) a₁ := by
  have hordinary : ∀ r, ordinaryCost r (x :: t) = ordinaryCost r t := by
    intro r
    rw [ordinaryCost, List.map_cons, List.sum_cons, hx, ite_self, Nat.zero_add]
    rfl
  have hcleanup : ∀ r, cleanupCost r (x :: t) = cleanupCost r t := by
    intro r
    rw [cleanupCost, List.map_cons, List.sum_cons, hx, ite_self, Nat.zero_add]
    rfl
  constructor
  · intro r
    rw [hordinary, hcleanup, h.spent]
  · intro r
    rw [hordinary, h.ordinary]
  · intro r
    rw [hcleanup, h.cleanup]
  · intro r
    rw [hordinary]
    exact h.ordinary_le r
  · intro r
    rw [hcleanup]
    exact h.cleanup_le r
  · exact h.bytes
  · exact h.covered

/-- A charge that is refused. -/
theorem Metered.refused {k : Resource → ℕ} {d n b : ℕ} {cleanup : Bool}
    (h : a.charge d n b cleanup = (false, a₁)) (hd : k .datagrams = d) (hn : k .controls = n)
    (hb : k .dialbacks = b) (hcleanup : cleanup = true → b = 0) :
    Metered (fun r => if cleanup then 0 else k r) (fun r => if cleanup then k r else 0) a [] a₁ := by
  unfold Accounting.charge at h
  dsimp only at h
  by_cases hshort : (if cleanup then a.cleanupDatagrams else a.ordinaryDatagrams) < d
      ∨ (if cleanup then a.cleanupControl else a.ordinaryControl) < n ∨ a.dialbacks < b
  · rw [if_pos hshort] at h
    obtain rfl := (Prod.mk.inj h).2
    refine ⟨fun r => by cases r <;> rfl, fun r => by cases r <;> rfl, fun r => by cases r <;> rfl,
      fun r => Nat.zero_le _, fun r => Nat.zero_le _, rfl, fun hordinary hclean => ?_⟩
    -- the pool was short of something, so that the need was not covered
    exfalso
    have h₁ := hordinary .datagrams
    have h₂ := hordinary .controls
    have h₃ := hordinary .dialbacks
    have h₄ := hclean .datagrams
    have h₅ := hclean .controls
    grind [Accounting.ordinaryLeft, Accounting.cleanupLeft]
  · rw [if_neg hshort] at h
    cases h

/-- **A charge that is accepted**, and the call it is for. -/
theorem Metered.charged {x : RuntimeEvent} {d n b : ℕ} {cleanup : Bool}
    (h : a.charge d n b cleanup = (true, a₁)) (hd : x.1.cost .datagrams = d)
    (hn : x.1.cost .controls = n) (hb : x.1.cost .dialbacks = b)
    (hdelete : x.1.isDelete = cleanup) (hcleanup : cleanup = true → b = 0) :
    Metered (fun r => if cleanup then 0 else x.1.cost r) (fun r => if cleanup then x.1.cost r else 0)
      a [x] a₁ := by
  have hordinary : ∀ r, ordinaryCost r [x] = if cleanup then 0 else x.1.cost r := by
    intro r
    rw [ordinaryCost, List.map_singleton, List.sum_singleton, hdelete]
  have hclean : ∀ r, cleanupCost r [x] = if cleanup then x.1.cost r else 0 := by
    intro r
    rw [cleanupCost, List.map_singleton, List.sum_singleton, hdelete]
  unfold Accounting.charge at h
  dsimp only at h
  by_cases hshort : (if cleanup then a.cleanupDatagrams else a.ordinaryDatagrams) < d
      ∨ (if cleanup then a.cleanupControl else a.ordinaryControl) < n ∨ a.dialbacks < b
  · rw [if_pos hshort] at h
    cases h
  · rw [if_neg hshort] at h
    obtain rfl := (Prod.mk.inj h).2
    refine ⟨fun r => ?_, fun r => ?_, fun r => ?_, fun r => (hordinary r).le, fun r => (hclean r).le,
      rfl, fun _ _ => rfl⟩
    · rw [hordinary, hclean]
      cases r <;> grind [Accounting.spent]
    · rw [hordinary]
      cases r <;> grind [Accounting.ordinaryLeft]
    · rw [hclean]
      cases r <;> grind [Accounting.cleanupLeft]

end Metered

/-! ## Programs -/

/-- **A program is metered**, whatever it is told. -/
def Meters {α : Type} (o c : Resource → ℕ) (a : Accounting) (p : Runtime (α × Accounting)) : Prop :=
  ∀ t x, Yields p t x → Metered o c a t x.2

section Rules

variable {α β : Type} {o o' c c' : Resource → ℕ} {a : Accounting}

@[grind ←]
theorem meters_pure {v : α} : Meters o c a (pure (v, a)) := by
  intro t x h
  obtain ⟨rfl, rfl⟩ := yields_pure.mp h
  exact .nil

variable {p : Runtime (α × Accounting)}

theorem Meters.bind {f : α × Accounting → Runtime (β × Accounting)} (h : Meters o c a p)
    (h' : ∀ x, Meters o' c' x.2 (f x)) :
    Meters (fun r => o r + o' r) (fun r => c r + c' r) a (p >>= f) := by
  intro t y hyields
  obtain ⟨t₁, t₂, x, rfl, hp, hf⟩ := yields_bind.mp hyields
  exact (h t₁ x hp).append (h' x t₂ y hf)

theorem Meters.mono (h : Meters o c a p) (ho : ∀ r, o r ≤ o' r) (hc : ∀ r, c r ≤ c' r) :
    Meters o' c' a p := fun t x hyields => (h t x hyields).mono ho hc

/-- The result is put into another form. -/
theorem Meters.map {f : α × Accounting → β} (h : Meters o c a p) :
    Meters o c a (p >>= fun x => pure (f x, x.2)) := by
  intro t y hyields
  obtain ⟨x, hp, rfl⟩ := yields_bind_pure.mp hyields
  exact h t x hp

@[grind ←]
theorem meters_call {call : RuntimeCall} {f : RuntimeReply → Runtime (α × Accounting)}
    (hcall : ∀ r, call.cost r = 0) (h : ∀ reply, Meters o c a (f reply)) :
    Meters o c a (perform call >>= f) := by
  intro t x hyields
  obtain ⟨reply, u, rfl, hf⟩ := yields_perform_bind.mp hyields
  exact (h reply u x hf).cons hcall

/-- A program whose calls cost nothing. -/
def Free (p : Runtime α) : Prop := ∀ before, Follows (fun _ x => ∀ r, x.1.cost r = 0) p before anyEnd

theorem Metered.free {a' : Accounting} {before t u : List RuntimeEvent}
    (ht : Along (fun _ x => ∀ r, x.1.cost r = 0) before t) (h : Metered o c a u a') :
    Metered o c a (t ++ u) a' := by
  induction t generalizing before with
  | nil => exact h
  | cons x t ih => exact (ih ht.2).cons ht.1

@[grind ←]
theorem Free.meters_bind {p : Runtime α} {f : α → Runtime (β × Accounting)} (hp : Free p)
    (h : ∀ v, Meters o c a (f v)) : Meters o c a (p >>= f) := by
  intro t x hyields
  obtain ⟨t₁, t₂, v, rfl, hv, hf⟩ := yields_bind.mp hyields
  exact (h v t₂ x hf).free (hp [] t₁ v hv).1

@[grind ←]
theorem free_pure (v : α) : Free (pure v : Runtime α) := fun _ => follows_pure trivial

@[grind ←]
theorem free_call {call : RuntimeCall} {f : RuntimeReply → Runtime α}
    (hcall : ∀ r, call.cost r = 0) (hf : ∀ reply, Free (f reply)) : Free (perform call >>= f) :=
  fun _ => follows_call (fun _ => hcall) fun reply => hf reply _

@[grind ←]
theorem free_bind {p : Runtime α} {f : α → Runtime β} (hp : Free p) (hf : ∀ v, Free (f v)) :
    Free (p >>= f) := fun before => Follows.bind ((hp before).mono fun v now _ => hf v now)

attribute [grind =] RuntimeCall.cost

@[grind ←]
theorem free_ordinary {endMs : ℕ} : Free (ordinary endMs) := by
  unfold ordinary
  grind

theorem free_attest {l : MappingLifecycle} {check : MappingPathCheck}
    {evidence : MappingPathEvidence} : Free (l.attest check evidence) := by
  refine free_bind free_ordinary fun stop => ?_
  split
  · exact free_pure _
  · refine free_call (fun r => rfl) fun r => ?_
    grind

end Rules

/-- Nothing is needed. -/
def noNeed (_ : Resource) : ℕ := 0

section Pieces

variable {l : MappingLifecycle} {plan : MappingMethodPlan} {listener : MappingListener}
  {row : MappingMethodReport} {a : Accounting}

/-- **A measurement** costs what it is charged for. -/
theorem meters_path {check : MappingPathCheck} :
    Meters (pathCost check.transport) noNeed a (l.path listener check a) := by
  unfold MappingLifecycle.path
  refine free_ordinary.meters_bind fun stop => ?_
  split
  · exact meters_pure
  · split
    next a₁ hcharge =>
      intro t x h
      obtain ⟨rfl, rfl⟩ := yields_pure.mp h
      exact Metered.refused (k := pathCost check.transport) hcharge rfl rfl rfl nofun
    next a₁ hcharge =>
      intro t x h
      obtain ⟨r, u, rfl, hnext⟩ := yields_perform_bind.mp h
      have hcall := Metered.charged (x := (.pathCheck listener check l.session.activeEnd, r)) hcharge
        rfl rfl rfl rfl nofun
      have hrest : Metered noNeed noNeed a₁ u x.2 := by
        split at hnext
        · exact meters_pure u x hnext
        · exact free_attest.meters_bind (fun v => meters_pure) u x hnext
      exact hcall.append hrest

/-- What a request needs of the ordinary pool. -/
def ordinaryNeed (request : RouterRequest) (r : Resource) : ℕ :=
  if request.isDelete then 0 else request.cost r

/-- What a request needs of what is set aside. -/
def cleanupNeed (request : RouterRequest) (r : Resource) : ℕ :=
  if request.isDelete then request.cost r else 0

variable {request : RouterRequest} {b : BoundedControl} {xs : List Exchange} {r : Resource}

/-- A request of a protocol costs what the transport charges for it. -/
theorem cost_datagrams (h : b.Serves request) :
    request.cost .datagrams = b.protocol.isUdp.toNat := by
  have hof := h.1
  cases hprotocol : b.protocol <;> rw [hprotocol] at hof <;> cases request <;>
    first | rfl | exact hof.elim

theorem meters_send {destination : SocketAddr} {capacity : ℕ} (hserves : b.Serves request) :
    Meters (ordinaryNeed request) (cleanupNeed request) a
      (b.send destination request capacity a) := by
  have hcleanup := BoundedControl.isCleanup_eq hserves
  have hcost := cost_datagrams hserves
  unfold BoundedControl.send
  split
  · exact meters_pure
  · rw [hcleanup]
    split
    next a₁ hcharge =>
      intro t x h
      obtain ⟨rfl, rfl⟩ := yields_pure.mp h
      exact Metered.refused hcharge hcost rfl rfl fun _ => rfl
    next a₁ hcharge =>
      intro t x h
      obtain ⟨r, u, rfl, hnext⟩ := yields_perform_bind.mp h
      have hcall := Metered.charged
        (x := (.routerExchange destination request capacity (b.endFor request), r)) hcharge hcost rfl
        rfl rfl fun _ => rfl
      have hrest : Metered noNeed noNeed a₁ u x.2 := by
        split at hnext
        · exact meters_pure u x hnext
        · refine Free.meters_bind ?_ (fun v => meters_pure) u x hnext
          unfold BoundedControl.accept
          grind
      exact hcall.append hrest

/-- **A request costs what it is charged for**, from its own pool. -/
theorem meters_exchange {destination : SocketAddr} {capacity : ℕ} (hserves : b.Serves request) :
    Meters (ordinaryNeed request) (cleanupNeed request) a
      (b.exchange destination request capacity a) := by
  unfold BoundedControl.exchange
  grind [meters_send]

/-- What the exchanges of an adapter need. -/
def ordinaryNeeds (xs : List Exchange) (r : Resource) : ℕ :=
  (xs.map fun x => ordinaryNeed x.request r).sum

@[inherit_doc ordinaryNeeds]
def cleanupNeeds (xs : List Exchange) (r : Resource) : ℕ :=
  (xs.map fun x => cleanupNeed x.request r).sum

/-- **A call of an adapter** costs what its requests cost. -/
theorem metered_handled {a' : Accounting} {own : List (ControlCall × ControlReply)}
    {wire : List RuntimeEvent} (h : Handled b.handle a own wire a')
    (hserves : ∀ x ∈ exchanges own, b.Serves x.request) :
    Metered (ordinaryNeeds (exchanges own)) (cleanupNeeds (exchanges own)) a wire a' := by
  replace h := passes_of_handled h
  induction h with
  | nil s => exact .nil
  | cancelled _ ih => exact ih hserves
  | exchange hone _ ih =>
    obtain ⟨hfirst, hrest⟩ := List.forall_mem_cons.mp hserves
    exact (meters_exchange hfirst _ _ hone).append (ih hrest)

/-- The need of a create. -/
def createNeed (plan : MappingMethodPlan) : Resource → ℕ
  | .datagrams => plan.protocol.isUdp.toNat
  | .controls => if plan.protocol.isUdp then 1 else 3
  | .dialbacks => 0

/-- The need of a delete. -/
def deleteNeed (plan : MappingMethodPlan) : Resource → ℕ
  | .datagrams => plan.protocol.isUdp.toNat
  | .controls => 1
  | .dialbacks => 0

theorem ordinaryNeeds_append {ys : List Exchange} :
    ordinaryNeeds (xs ++ ys) r = ordinaryNeeds xs r + ordinaryNeeds ys r := by
  rw [ordinaryNeeds, List.map_append, List.sum_append]
  rfl

theorem cleanupNeeds_append {ys : List Exchange} :
    cleanupNeeds (xs ++ ys) r = cleanupNeeds xs r + cleanupNeeds ys r := by
  rw [cleanupNeeds, List.map_append, List.sum_append]
  rfl

theorem ordinaryNeeds_cons {x : Exchange} :
    ordinaryNeeds (x :: xs) r = ordinaryNeed x.request r + ordinaryNeeds xs r := rfl

theorem cleanupNeeds_cons {x : Exchange} :
    cleanupNeeds (x :: xs) r = cleanupNeed x.request r + cleanupNeeds xs r := rfl

/-- The need of a look. -/
def lookNeed (protocol : RouterProtocol) : Resource → ℕ
  | .controls => if protocol.isUdp then 0 else 1
  | _ => 0

variable {host : UpnpHost} {gateway : SelectedGateway} {input : MappingInput}

theorem needs_of_looks (h : input.Looks xs) (r : Resource) :
    ordinaryNeeds xs r ≤ lookNeed input.protocol r ∧ cleanupNeeds xs r = 0 := by
  rcases h with rfl | ⟨x, rfl, hx⟩
  · exact ⟨Nat.zero_le _, rfl⟩
  · cases input with
    | pcp input | natPmp input => exact hx.elim
    | upnp input =>
      rw [ordinaryNeeds_cons, cleanupNeeds_cons, show x.request = _ from hx]
      cases r with
      | datagrams | controls | dialbacks => exact ⟨Nat.le_refl _, rfl⟩

/-- The create and the looks around it are within the need of a create. -/
theorem needs_of_create {looks more : List Exchange} {x : Exchange}
    (hplan : input.protocol = plan.protocol) (hlooks : input.Cleared looks)
    (hx : x.request = input.create) (hmore : input.Looks more) (r : Resource) :
    ordinaryNeeds (looks ++ x :: more) r ≤ createNeed plan r
      ∧ cleanupNeeds (looks ++ x :: more) r = 0 := by
  obtain ⟨hl, hlc⟩ := needs_of_looks hlooks.looks r
  obtain ⟨hm, hmc⟩ := needs_of_looks hmore r
  have hcreate : ordinaryNeed x.request r + 2 * lookNeed input.protocol r ≤ createNeed plan r
      ∧ cleanupNeed x.request r = 0 := by
    rw [hx]
    cases input with
    | pcp input | natPmp input | upnp input =>
      simp only [createNeed, ← hplan]
      cases r <;> exact ⟨Nat.le_refl _, rfl⟩
  rw [ordinaryNeeds_append, cleanupNeeds_append, ordinaryNeeds_cons, cleanupNeeds_cons]
  omega

/-- A delete is within the need of a delete. -/
theorem needs_of_delete (hof : request.IsOf plan.protocol) (hdelete : request.isDelete = true)
    (r : Resource) :
    ordinaryNeed request r = 0 ∧ cleanupNeed request r ≤ deleteNeed plan r := by
  have hcost := cost_datagrams (b := ⟨plan.protocol, 0, 0, false⟩) ⟨hof, nofun⟩
  rw [ordinaryNeed, cleanupNeed, hdelete, if_pos rfl, if_pos rfl]
  refine ⟨rfl, ?_⟩
  cases r with
  | datagrams => exact Nat.le_of_eq hcost
  | controls => exact Nat.le_refl 1
  | dialbacks => exact Nat.le_refl 0

/-- **A call of an adapter is within the needs of its method.** -/
theorem needs_of_callShape (hplan : input.protocol = plan.protocol)
    (h : CallShape host gateway input xs) (r : Resource) :
    ordinaryNeeds xs r ≤ createNeed plan r ∧ cleanupNeeds xs r ≤ deleteNeed plan r := by
  cases h with
  | looks hlooks =>
    obtain ⟨hl, hlc⟩ := needs_of_looks hlooks r
    have hle : lookNeed input.protocol r ≤ createNeed plan r := by
      rw [hplan]
      cases r with
      | datagrams => exact Nat.zero_le _
      | controls =>
        simp only [lookNeed, createNeed]
        split
        · exact Nat.zero_le 1
        · decide
      | dialbacks => exact Nat.zero_le _
    exact ⟨Nat.le_trans hl hle, by rw [hlc]; exact Nat.zero_le _⟩
  | create hlooks hx hmore =>
    obtain ⟨ho, hc⟩ := needs_of_create hplan hlooks hx hmore r
    exact ⟨ho, by rw [hc]; exact Nat.zero_le _⟩
  | @delete looks more x y body handle hlooks hx hreply hbody hmore hy howns =>
    obtain ⟨ho, hc⟩ := needs_of_create hplan hlooks hx hmore r
    obtain ⟨hof, hdelete⟩ := isOf_deleteRequestOf (control_of_owns howns)
    rw [protocol_of_owns howns, hplan, ← hy] at hof
    rw [← hy] at hdelete
    obtain ⟨hdo, hdc⟩ := needs_of_delete hof hdelete r
    rw [← List.cons_append, ← List.append_assoc, ordinaryNeeds_append, cleanupNeeds_append, hc,
      ordinaryNeeds_cons, cleanupNeeds_cons, hdo]
    exact ⟨ho, Nat.le_trans (Nat.le_of_eq (Nat.zero_add _)) hdc⟩

/-! ## A method -/

theorem meters_cleanUp {handle : OwnedMappingHandle} {epoch : Option ℕ}
    (hprotocol : handle.protocol = plan.protocol) :
    Meters noNeed (deleteNeed plan) a (l.cleanUp plan handle epoch row a) := by
  refine Meters.map fun t x hyields => ?_
  obtain ⟨own, hown, hhandled⟩ := yields_simulate.mp hyields
  rcases yields_deleteOwnedMapping hown with ⟨hnone, -⟩ | ⟨-, hcontrol, y, hex, hy, -⟩
  · have hmetered := metered_handled hhandled (by simp [hnone])
    rw [hnone] at hmetered
    exact hmetered.mono (fun r => Nat.le_refl 0) fun r => Nat.zero_le _
  · obtain ⟨hof, hdelete⟩ := isOf_deleteRequestOf hcontrol
    rw [hprotocol, ← hy] at hof
    rw [← hy] at hdelete
    have hmetered := metered_handled hhandled (by simpa [hex] using ⟨hof, fun _ => hdelete⟩)
    rw [hex] at hmetered
    exact hmetered.mono (fun r => Nat.le_of_eq (needs_of_delete hof hdelete r).1)
      fun r => (needs_of_delete hof hdelete r).2

theorem meters_verifyCreated {handle : OwnedMappingHandle} {created : MappingEffect} :
    Meters (pathCost (transportOf plan.transport)) noNeed a
      (l.verifyCreated plan listener handle created row a) := by
  have hpath : Meters (pathCost (transportOf plan.transport)) noNeed a
      (l.path listener (MappingLifecycle.verifyCheck plan handle) a) := meters_path
  unfold MappingLifecycle.verifyCreated
  split
  · unfold MappingLifecycle.verify
    split
    · exact meters_pure
    · split
      · exact meters_pure
      · refine meters_call (fun r => rfl) fun reply => ?_
        split
        · refine (hpath.bind fun x => (?_ : Meters noNeed noNeed x.2 _)).mono
            (fun r => Nat.le_refl _) fun r => Nat.le_refl 0
          split
          · exact meters_pure
          · exact meters_pure
        · exact meters_pure
  · exact meters_pure

/-- **A create and what follows it.** A lease that is adopted is deleted
afterwards, and then no delete was made before. -/
theorem meters_create {nonce : MappingNonce} :
    Meters (fun r => createNeed plan r + pathCost (transportOf plan.transport) r) (deleteNeed plan) a
      (l.create plan listener row nonce a) := by
  unfold MappingLifecycle.create
  split
  · exact meters_pure
  next input hinput =>
    have hplan := protocol_mappingInput hinput
    intro t y hyields
    obtain ⟨t₁, t₂, ⟨created, a₁⟩, rfl, hcreate, hafter⟩ := yields_bind.mp hyields
    obtain ⟨own, hhandled, hrun⟩ := mapRun_of_simulate hcreate
    have hshape := callShape_of_mapRun hrun
    have hmetered := metered_handled hhandled fun x hx =>
      ⟨by rw [← show input.protocol = (l.control plan false).protocol from hplan]
          exact isOf_of_callShape hshape x hx, nofun⟩
    unfold MappingLifecycle.afterCreate at hafter
    dsimp only at hafter
    cases hadopted : MappingLifecycle.adopted created with
    | none =>
      rw [hadopted] at hafter
      obtain ⟨rfl, rfl⟩ := yields_pure.mp hafter
      rw [List.append_nil]
      refine hmetered.mono (fun r => ?_) fun r => (needs_of_callShape hplan hshape r).2
      exact Nat.le_trans (needs_of_callShape hplan hshape r).1 (Nat.le_add_right _ _)
    | some handle =>
      rw [hadopted] at hafter
      obtain ⟨howns, -, -, looks, x, more, hxs, hlooks, hx, hmore⟩ :=
        owns_of_adopted hrun hadopted
      have hprotocol : handle.protocol = plan.protocol := (protocol_of_owns howns).trans hplan
      rw [hxs] at hmetered
      have hverify : Meters (pathCost (transportOf plan.transport)) noNeed a₁
          (l.verifyCreated plan listener handle created (MappingLifecycle.createdRow row created)
            a₁) := meters_verifyCreated
      have hclean : ∀ z : MappingMethodReport × Accounting, Meters noNeed (deleteNeed plan) z.2
          (l.cleanUp plan handle created.epoch z.1 z.2 >>= fun w =>
            pure (MappingLifecycle.finish w.1, w.2)) := fun z => (meters_cleanUp hprotocol).map
      refine (hmetered.append ((hverify.bind hclean) t₂ y hafter)).mono (fun r => ?_) fun r => ?_
      · have hle := (needs_of_create hplan hlooks hx hmore r).1
        show ordinaryNeeds _ r + (pathCost (transportOf plan.transport) r + 0) ≤ _
        omega
      · have hzero := (needs_of_create hplan hlooks hx hmore r).2
        show cleanupNeeds _ r + (0 + deleteNeed plan r) ≤ _
        omega

/-- The need of a method. -/
def methodNeed (plan : MappingMethodPlan) (r : Resource) : ℕ :=
  pathCost (transportOf plan.transport) r
    + (createNeed plan r + pathCost (transportOf plan.transport) r)

theorem meters_afterBaseline {summary : MappingPathSummary} :
    Meters (fun r => createNeed plan r + pathCost (transportOf plan.transport) r) (deleteNeed plan) a
      (l.afterBaseline plan listener summary a) := by
  have hnonce : ∀ row, Meters (fun r => createNeed plan r + pathCost (transportOf plan.transport) r)
      (deleteNeed plan) a (l.withNonce plan listener row a) := by
    unfold MappingLifecycle.withNonce
    grind [meters_create]
  unfold MappingLifecycle.afterBaseline
  grind

/-- **A method is within its need**, and needs one delete. -/
theorem meters_runMethod : Meters (methodNeed plan) (deleteNeed plan) a (l.runMethod plan a) := by
  unfold MappingLifecycle.runMethod
  refine free_ordinary.meters_bind fun stop => ?_
  split
  · exact meters_pure
  · refine meters_call (fun r => rfl) fun reply => ?_
    split
    · exact meters_pure
    next listener hlistener =>
      have hmethod : Meters (methodNeed plan) (deleteNeed plan) a
          (l.withListener plan listener a) := by
        unfold MappingLifecycle.withListener
        split
        · exact meters_pure
        · have hpath : Meters (pathCost (transportOf plan.transport)) noNeed a
              (l.path listener (MappingLifecycle.baselineCheck plan listener) a) := meters_path
          refine (hpath.bind fun x => ?_).mono (fun r => Nat.le_refl _)
            fun r => Nat.le_of_eq (Nat.zero_add _)
          split
          · exact meters_pure
          · exact meters_afterBaseline
      have hdrop : ∀ x : MethodEnd × Accounting, Meters noNeed noNeed x.2
          (perform (.dropListener listener) >>= fun _ => pure x) :=
        fun x => meters_call (fun r => rfl) fun reply => meters_pure
      exact (hmethod.bind hdrop).mono (fun r => Nat.le_refl _) fun r => Nat.le_refl _

/-- What some methods need. -/
def methodNeeds (plans : List MappingMethodPlan) (r : Resource) : ℕ :=
  (plans.map fun plan => methodNeed plan r).sum

@[inherit_doc methodNeeds]
def deleteNeeds (plans : List MappingMethodPlan) (r : Resource) : ℕ :=
  (plans.map fun plan => deleteNeed plan r).sum

theorem metered_runMethods {plans : List MappingMethodPlan} {t : List RuntimeEvent}
    {ended : MappingLifecycle.MethodsEnd} (h : Yields (l.runMethods plans a) t ended) :
    Metered (methodNeeds plans) (deleteNeeds plans) a t ended.accounting := by
  induction plans generalizing a t ended with
  | nil =>
    obtain ⟨rfl, rfl⟩ := yields_pure.mp h
    exact .nil
  | cons plan plans ih =>
    obtain ⟨t₁, t₂, ⟨methodEnd, a₁⟩, rfl, hone, hrest⟩ := yields_bind.mp h
    have hmetered := meters_runMethod t₁ (methodEnd, a₁) hone
    have htail : Metered (methodNeeds plans) (deleteNeeds plans) a₁ t₂ ended.accounting := by
      cases methodEnd with
      | broke row stop =>
        obtain ⟨rfl, rfl⟩ := yields_pure.mp hrest
        exact .nil
      | next row =>
        obtain ⟨rest, htail, rfl⟩ := yields_bind_pure.mp hrest
        exact (ih htail :)
    exact hmetered.append htail

end Pieces

/-! ## A run -/

section Run

/-- What is reported to have been spent. -/
def MappingRunReport.spent (report : MappingRunReport) : Resource → ℕ
  | .datagrams => report.sentDatagrams
  | .controls => report.controlRequests
  | .dialbacks => report.externalDialbacks

/-- What discovery has spent before. -/
def MappingGateway.discovered (gateway : MappingGateway) : Resource → ℕ
  | .datagrams => gateway.discoveryDatagrams
  | .controls => gateway.discoveryControlRequests
  | .dialbacks => 0

/-- `fits` asks for what the methods need. -/
theorem needs_of_fits {a : Accounting} {plans : List MappingMethodPlan} {availableMs : ℕ}
    (h : a.fits plans availableMs = true) (r : Resource) :
    methodNeeds plans r ≤ a.ordinaryLeft r ∧ deleteNeeds plans r ≤ a.cleanupLeft r := by
  have hcontrols : methodNeeds plans .controls = (plans.map MappingMethodPlan.controls).sum
      ∧ methodNeeds plans .datagrams = (plans.map MappingMethodPlan.datagrams).sum
      ∧ methodNeeds plans .dialbacks = 2 * plans.length
      ∧ deleteNeeds plans .controls = plans.length
      ∧ deleteNeeds plans .datagrams = plans.countP (·.protocol.isUdp)
      ∧ deleteNeeds plans .dialbacks = 0 := by
    clear h
    induction plans with
    | nil => exact ⟨rfl, rfl, rfl, rfl, rfl, rfl⟩
    | cons plan plans ih =>
      obtain ⟨h₁, h₂, h₃, h₄, h₅, h₆⟩ := ih
      have htransport : (decide (transportOf plan.transport = .udp)).toNat
          = (decide (plan.transport = .udp)).toNat := by
        cases plan.transport <;> rfl
      simp only [methodNeeds, deleteNeeds, List.map_cons, List.sum_cons, List.length_cons,
        List.countP_cons] at h₁ h₂ h₃ h₄ h₅ h₆ ⊢
      rw [h₁, h₂, h₃, h₄, h₅, h₆]
      simp only [methodNeed, deleteNeed, createNeed, pathCost, MappingMethodPlan.controls,
        MappingMethodPlan.datagrams, htransport]
      refine ⟨by omega, by omega, by omega, by omega, ?_, trivial⟩
      cases plan.protocol.isUdp with
      | true => exact Nat.add_comm _ _
      | false => exact Nat.zero_add _
  obtain ⟨h₁, h₂, h₃, h₄, h₅, h₆⟩ := hcontrols
  simp only [Accounting.fits, Bool.and_eq_true, decide_eq_true_eq] at h
  obtain ⟨⟨⟨⟨⟨⟨hcontrol, hdatagrams⟩, hdeletes⟩, hudp⟩, hdialbacks⟩, -⟩, -⟩ := h
  cases r with
  | datagrams => exact ⟨h₂ ▸ hdatagrams, h₅ ▸ hudp⟩
  | controls => exact ⟨h₁ ▸ hcontrol, h₄ ▸ hdeletes⟩
  | dialbacks => exact ⟨h₃ ▸ hdialbacks, Nat.le_of_eq h₆⟩

variable {l : MappingLifecycle}

/-- The pools at the start of a run. -/
theorem pools_new (r : Resource) :
    (Accounting.new l.session.descriptor.budgets).spent r = 0
      ∧ (Accounting.new l.session.descriptor.budgets).ordinaryLeft r
          + l.session.descriptor.budgets.reserved r = l.session.descriptor.budgets.total r
      ∧ (Accounting.new l.session.descriptor.budgets).cleanupLeft r
          = l.session.descriptor.budgets.reserved r := by
  have hsound := l.session.sound
  have hd := hsound.cleanupDatagrams_le
  have hc := hsound.cleanupControl_le
  cases r with
  | datagrams => exact ⟨rfl, Nat.sub_add_cancel hd, rfl⟩
  | controls => exact ⟨rfl, Nat.sub_add_cancel hc, rfl⟩
  | dialbacks => exact ⟨rfl, rfl, rfl⟩

/-- Discovery is charged like an ordinary operation. -/
theorem pools_discovered {a a₁ : Accounting}
    (h : a.charge l.gateway.discoveryDatagrams l.gateway.discoveryControlRequests 0 false
      = (true, a₁)) (r : Resource) :
    a₁.spent r = a.spent r + l.gateway.discovered r
      ∧ a₁.ordinaryLeft r + l.gateway.discovered r = a.ordinaryLeft r
      ∧ a₁.cleanupLeft r = a.cleanupLeft r ∧ a₁.refusals = a.refusals := by
  unfold Accounting.charge at h
  simp only [Bool.false_eq_true, if_false] at h
  split at h
  · cases h
  next henough =>
    obtain rfl := (Prod.mk.inj h).2
    rw [not_or, not_or, Nat.not_lt, Nat.not_lt] at henough
    cases r with
    | datagrams => exact ⟨rfl, Nat.sub_add_cancel henough.1, rfl, rfl⟩
    | controls => exact ⟨rfl, Nat.sub_add_cancel henough.2.1, rfl, rfl⟩
    | dialbacks => exact ⟨rfl, rfl, rfl, rfl⟩

/-- **The books of a run**: what is reported is what was charged, within the
budgets; ordinary operations leave what is set aside, and deletes keep to
it. -/
structure Booked (l : MappingLifecycle) (t : List RuntimeEvent) (report : MappingRunReport) :
    Prop where
  reported : ∀ r, report.spent r = (if report.discovery = .succeeded then l.gateway.discovered r
    else 0) + ordinaryCost r t + cleanupCost r t
  within : ∀ r, report.spent r ≤ l.session.descriptor.budgets.total r
  ordinary : ∀ r, (if report.discovery = .succeeded then l.gateway.discovered r else 0)
    + ordinaryCost r t + l.session.descriptor.budgets.reserved r
      ≤ l.session.descriptor.budgets.total r
  cleanup : ∀ r, cleanupCost r t ≤ l.session.descriptor.budgets.reserved r

/-- A run that ends before anything is charged. -/
theorem booked_of_unspent {t : List RuntimeEvent} {report : MappingRunReport}
    (hdiscovery : report.discovery ≠ .succeeded) (hspent : ∀ r, report.spent r = 0)
    (hordinary : ∀ r, ordinaryCost r t = 0) (hcleanup : ∀ r, cleanupCost r t = 0) :
    Booked l t report := by
  have hpools : ∀ r, l.session.descriptor.budgets.reserved r
      ≤ l.session.descriptor.budgets.total r := by
    intro r
    rw [← (@pools_new l r).2.1]
    exact Nat.le_add_left _ _
  constructor
  · intro r
    rw [hspent, if_neg hdiscovery, hordinary, hcleanup]
  · intro r
    rw [hspent]
    exact Nat.zero_le _
  · intro r
    rw [if_neg hdiscovery, hordinary, Nat.zero_add]
    exact hpools r
  · intro r
    rw [hcleanup]
    exact Nat.zero_le _

/-- A run that was metered from where discovery was charged. -/
theorem booked_of_metered {a₁ a₂ : Accounting} {t : List RuntimeEvent}
    {report : MappingRunReport} {o c : Resource → ℕ}
    (hcharge : (Accounting.new l.session.descriptor.budgets).charge l.gateway.discoveryDatagrams
      l.gateway.discoveryControlRequests 0 false = (true, a₁))
    (h : Metered o c a₁ t a₂) (hdiscovery : report.discovery = .succeeded)
    (hspent : ∀ r, report.spent r = a₂.spent r) : Booked l t report := by
  have hpools : ∀ r, report.spent r = l.gateway.discovered r + ordinaryCost r t + cleanupCost r t
      ∧ l.gateway.discovered r + ordinaryCost r t + l.session.descriptor.budgets.reserved r
        ≤ l.session.descriptor.budgets.total r
      ∧ cleanupCost r t ≤ l.session.descriptor.budgets.reserved r := by
    intro r
    obtain ⟨hzero, htotal, hreserved⟩ := @pools_new l r
    obtain ⟨hfirst, hleft, hset, -⟩ := pools_discovered hcharge r
    have hs := h.spent r
    have ho := h.ordinary r
    have hc := h.cleanup r
    have hr := hspent r
    omega
  constructor
  · intro r
    rw [if_pos hdiscovery]
    exact (hpools r).1
  · intro r
    obtain ⟨h₁, h₂, h₃⟩ := hpools r
    omega
  · intro r
    rw [if_pos hdiscovery]
    exact (hpools r).2.1
  · exact fun r => (hpools r).2.2

/-- **The lifecycle keeps its books and its times**, whatever the runtime
does: what is reported was charged and is within the budgets, ordinary
operations never use what is set aside for deletes, once the methods fit no
charge is refused – and with a steady runtime nothing starts too late or
after a stop. -/
theorem lifecycle_within_budgets (l : MappingLifecycle) (plans : List MappingMethodPlan)
    {t : List RuntimeEvent} {report : MappingRunReport} {a : Accounting}
    (h : Yields (l.runMappingLifecycle plans) t (report, a)) :
    Booked l t report ∧ (report.discovery = .succeeded → a.refusals = 0)
      ∧ (Steady l.session t → Timely l.session t) := by
  have htimely : Steady l.session t → Timely l.session t := fun hsteady =>
    timely_of_guarded (follows_runMappingLifecycle t (report, a) h).1 hsteady
  refine and_assoc.mp ⟨?_, htimely⟩
  unfold MappingLifecycle.runMappingLifecycle at h
  dsimp only at h
  obtain ⟨r, u, rfl, hrun⟩ := yields_perform_bind.mp h
  split at hrun
  · obtain ⟨rfl, ⟨⟩⟩ := yields_pure.mp hrun
    exact ⟨booked_of_unspent nofun (fun r => by cases r <;> rfl) (fun r => rfl) fun r => rfl,
      nofun⟩
  · split at hrun
    · obtain ⟨rfl, ⟨⟩⟩ := yields_pure.mp hrun
      exact ⟨booked_of_unspent nofun (fun r => by cases r <;> rfl) (fun r => rfl) fun r => rfl,
        nofun⟩
    next a₁ hcharge =>
      have hnone : a₁.refusals = 0 := (pools_discovered hcharge .controls).2.2.2
      have hdialbacks : a₁.spent .dialbacks = 0 := (pools_discovered hcharge .dialbacks).1
      obtain ⟨r', v, rfl, hselected⟩ := yields_perform_bind.mp hrun
      unfold MappingLifecycle.runSelected at hselected
      dsimp only at hselected
      split at hselected
      · obtain ⟨rfl, heq⟩ := yields_pure.mp hselected
        obtain ⟨rfl, rfl⟩ := Prod.mk.inj heq
        have hfree : Metered noNeed noNeed a₁ [(.nowMs, r), (.nowMs, r')] a₁ :=
          (Metered.nil.cons fun _ => rfl).cons fun _ => rfl
        refine ⟨booked_of_metered hcharge hfree rfl fun r => ?_, fun _ => hnone⟩
        cases r with
        | datagrams | controls => rfl
        | dialbacks => exact hdialbacks.symm
      next hfits =>
        rw [Bool.not_eq_true, Bool.not_eq_false'] at hfits
        obtain ⟨ended, hmethods, ⟨⟩⟩ := yields_bind_pure.mp hselected
        have hmetered := metered_runMethods hmethods
        refine ⟨booked_of_metered hcharge ((hmetered.cons fun _ => rfl).cons fun _ => rfl) rfl
          fun r => by cases r <;> rfl, fun _ => ?_⟩
        exact (hmetered.covered (fun r => (needs_of_fits hfits r).1)
          fun r => (needs_of_fits hfits r).2).trans hnone

end Run

namespace LifecycleSample

/-- The digest of the reservation. -/
def digest : String := "sha256:" ++ hexEncode reservation.digest.toList

/-- Consent to a mapping over PCP. -/
def consent : TraversalMappingConsent where
  consentReference := "c"
  processorAllowlistDigest := digest
  exclusiveReservationDigest := digest
  priorUncertaintyResolved := true
  finiteExpiryVerified := true
  expiresAtMs := 100000
  protocols := [.pcp]
  requestedLeaseSec := 60
  maximumLeaseSec := 120

/-- A descriptor with it. -/
def descriptor : TraversalDescriptorV1 where
  version := 1
  runId := hexEncode (List.replicate 16 10)
  mode := .mapping
  claimAuthorityDigest := digest
  profileVersion := "1"
  catalogVersion := "1"
  artifactDigest := digest
  helperVersion := "1"
  helperDigest := digest
  endpointSetRevision := "1"
  issuedAtMs := 0
  expiresAtMs := 100000
  deadlineMs := 60000
  operations := [.baselineUdp, .mapPcp]
  budgets := ⟨20000, 4000, 10, 100, 12, 4, 0, 1, 2, 2⟩
  mapping := some consent
  pair := none
  participantRole := none

/-- The digest of its canonical form. -/
def binding : Digest := ⟨#[233, 61, 201, 244, 28, 232, 6, 112, 39, 207, 33, 232, 148, 161, 144, 118,
  195, 255, 129, 123, 194, 126, 186, 13, 82, 16, 78, 26, 251, 9, 179, 199], rfl⟩

theorem eq_ok_of_toOption {ε : Type} {x : Except ε Unit} (h : x.toOption = some ()) : x = .ok () := by
  cases x with
  | ok _ => rfl
  | error _ => cases h

theorem descriptor_valid : descriptor.validate = .ok () := by
  have hsize : descriptor.toJson.sizeBound ≤ traversalBlockMaxBytes := by decide +kernel
  rw [TraversalDescriptorV1.validate, bounded_of_sizeBound hsize]
  exact eq_ok_of_toOption (by decide +kernel)

/-- A path that was measured and does not work. -/
def transcript : TraversalTranscriptV1 where
  version := 1
  domain := "proof.liskov.network-traversal-external-path.v1"
  descriptorDigest := "sha256:" ++ hexEncode binding.toList
  runId := descriptor.runId
  pairId := none
  participantRole := none
  authority := .externalPath
  stage := .baseline
  method := .unassisted
  transport := .udp
  family := .v4
  challenge := hexEncode (List.replicate 32 7)
  peerChallenge := none
  expiresAtMs := 100000
  outcome := .failed
  elapsedMs := 100
  grantedLeaseSec := none
  cleanup := none
  protocolError := none
  errorClass := some .timeout

/-- A lifecycle of twenty seconds, four of which are set aside. -/
def lifecycle : MappingLifecycle where
  host := { host with sha256 := fun _ => binding }
  session :=
    { descriptor
      consent
      reservation := ⟨20000, 4000, 15000, 20000, 35000⟩
      isMapping := rfl
      hasConsent := rfl
      valid := descriptor_valid
      reserve_eq := rfl
      experiment_le := Nat.le_refl _
      end_le := by decide }
  gateway := ⟨gateway, reservation, ⟨192, 0, 2, 10⟩, none, none, 0, 0⟩

/-- PCP for a UDP port. -/
def plan : MappingMethodPlan := ⟨.pcp, .udp⟩

/-- The port. -/
def listener : MappingListener := ⟨40000⟩

/-- The accounting after discovery. -/
def started : Accounting := Accounting.new descriptor.budgets

/-- The events of a path that is measured, where the clock is at some time
when the evidence is checked. -/
def pathTrace (ms : ℕ) : List RuntimeEvent :=
  [(.stop, .stopped none), (.nowMs, .time 0),
    (.pathCheck listener (MappingLifecycle.baselineCheck plan listener) 16000,
      .measured (.ok ⟨transcript, none⟩)),
    (.stop, .stopped none), (.nowMs, .time 100), (.nowMs, .time ms),
    (.attestPath transcript 16000, .attested (.ok ())), (.stop, .stopped none),
    (.nowMs, .time ms)]

/-- The events of a run with this method. -/
def runTrace (u : List RuntimeEvent) : List RuntimeEvent :=
  [(.nowMs, .time 0), (.nowMs, .time 0), (.stop, .stopped none), (.nowMs, .time 0),
    (.bindFresh .udp, .bound (.ok listener))] ++ u ++ [(.dropListener listener, .dropped)]

/-- The events of a run in which the clock passes the end of ordinary work
while the evidence is checked. -/
def lateTrace : List RuntimeEvent := runTrace (pathTrace 16000)

theorem yields_late :
    ∃ report a, Yields (lifecycle.runMappingLifecycle [plan]) lateTrace (report, a) := by
  have hfeed : ((lifecycle.runMappingLifecycle [plan]).feed (lateTrace.map Prod.snd)).map Prod.fst
      = some lateTrace := by decide +kernel
  obtain ⟨⟨t, report, a⟩, hrun, rfl⟩ := Option.map_eq_some_iff.mp hfeed
  exact ⟨report, a, yields_of_feed hrun⟩

/-- The router grants a minute over PCP and confirms the delete. -/
def replies : List RuntimeReply :=
  [.stopped none, .time 200, .time 200, .drawn (.ok pcp.nonce), .time 300,
    .stopped none, .exchanged (.ok (pcpReply pcp 60)), .address ⟨192, 0, 2, 2⟩,
    .time 400, .exchanged (.ok (pcpReply pcp 0)), .time 500]

/-- No stop was seen and the clock is not at the end of ordinary work. -/
def isCalm (t : List RuntimeEvent) : Bool :=
  t.all fun x => !seesStop x && (reading x).all (· < 16000)

/-- **A run that keeps a lease for a while** and deletes it, all in time. -/
theorem yields_kept :
    ∃ t report a, Yields (lifecycle.runMappingLifecycle [plan]) t (report, a)
      ∧ report.methods.map (·.cleanup) = [.confirmedDeleted] ∧ report.discovery = .succeeded
      ∧ isCalm t = true := by
  have hfeed : ((lifecycle.runMappingLifecycle [plan]).feed
      ((runTrace (pathTrace 150)).dropLast.map Prod.snd ++ replies ++ [.dropped])).map
        (fun x => (x.2.1.methods.map (·.cleanup), x.2.1.discovery, isCalm x.1))
      = some ([.confirmedDeleted], .succeeded, true) := by decide +kernel
  obtain ⟨⟨t, report, a⟩, hrun, heq⟩ := Option.map_eq_some_iff.mp hfeed
  obtain ⟨hcleanup, hrest⟩ := Prod.mk.inj heq
  obtain ⟨hdiscovery, hcalm⟩ := Prod.mk.inj hrest
  exact ⟨t, report, a, yields_of_feed hrun, hcleanup, hdiscovery, hcalm⟩

theorem steady_of_isCalm {t : List RuntimeEvent} (h : isCalm t = true) :
    Steady lifecycle.session t := by
  have hall : ∀ x ∈ t, seesStop x = false ∧ ∀ ms ∈ reading x, ms < 16000 := by
    intro x hx
    have hone := List.all_eq_true.mp h x hx
    rw [Bool.and_eq_true, Bool.not_eq_true', Option.all_eq_true] at hone
    exact ⟨hone.1, fun ms hms => of_decide_eq_true (hone.2 ms hms)⟩
  refine ⟨fun earlier x later ht hx => ?_, ?_⟩
  · have hmem : x ∈ t := by
      rw [ht]
      exact List.mem_append_right _ List.mem_cons_self
    rw [(hall x hmem).1] at hx
    cases hx
  · intro earlier listener check deadlineMs r₀ r r' r'' later ht _
    refine (hall (.nowMs, r'') ?_).2 _ rfl
    rw [ht]
    simp

end LifecycleSample

open LifecycleSample in
/-- A lease that is kept for a while and deleted: the run is within its
budgets and in time. -/
theorem kept_lease_within_budgets :
    plan = ⟨.pcp, .udp⟩
      ∧ ∃ t report a, Yields (lifecycle.runMappingLifecycle [plan]) t (report, a)
        ∧ report.methods.map (·.cleanup) = [.confirmedDeleted]
        ∧ Booked lifecycle t report ∧ a.refusals = 0 ∧ Timely lifecycle.session t := by
  obtain ⟨t, report, a, hrun, hcleanup, hdiscovery, hcalm⟩ := yields_kept
  obtain ⟨hbooked, hrefusals, htimely⟩ := lifecycle_within_budgets lifecycle [plan] hrun
  exact ⟨rfl, t, report, a, hrun, hcleanup, hbooked, hrefusals hdiscovery,
    htimely (steady_of_isCalm hcalm)⟩

open LifecycleSample in
/-- The clock is at the end of ordinary work when the evidence of a path is
checked, and it is sent to be signed all the same. -/
theorem attested_after_active_end :
    lifecycle.session.activeEnd = 16000
      ∧ ∃ report a, Yields (lifecycle.runMappingLifecycle [plan]) lateTrace (report, a)
        ∧ ∃ before r after, lateTrace = before ++ (.attestPath transcript 16000, r) :: after
          ∧ lastReading before = some 16000 := by
  obtain ⟨report, a, hrun⟩ := yields_late
  refine ⟨rfl, report, a, hrun, lateTrace.take 11, .attested (.ok ()), lateTrace.drop 12, rfl, ?_⟩
  decide +kernel
