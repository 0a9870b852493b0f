import RuntimeCargo.Coverage
import RuntimeCargo.JobSecrets

/-!
# What the producer of coverage results may do

Whatever the clock, the collectors, the sampler, the signer and the delivery
do: unless the authorization is valid nothing is measured, signed or sent;
one result is signed, at most, and what is sent is that result with its
signature, twice at most, to the origin of the bootstrap and before the
authorization has expired (`coverage_sent_as_authorized`).

Three things are said of a trace. The first event that has an effect is
preceded by a reading of the clock at which authorization and grant are
valid (`Granted`); a delivery is preceded by a reading before the end of the
authorization; and what was signed and sent is counted (`Unsent`, `Sent`).
-/

open Program

/-- A call of the producer and its reply. -/
abbrev CoverageEvent := CoverageCall × CoverageReply

/-! ## What can be read off a trace -/

/-- Whether a call measures, signs or sends something. -/
def CoverageCall.hasEffect : CoverageCall → Bool
  | nowMs | cancelled => false
  | collectAndroid | collectExecution | sample .. | signEd25519 _ | deliver .. => true

namespace CoverageEvent

/-- The message, where one is signed. -/
def message (x : CoverageEvent) : Option String :=
  match x.1 with
  | .signEd25519 message => some message
  | _ => none

/-- The place and the body, where something is sent. -/
def delivery (x : CoverageEvent) : Option (String × String) :=
  match x.1 with
  | .deliver url body => some (url, body)
  | _ => none

/-- The reading, where the clock is asked. -/
def reading (x : CoverageEvent) : Option ℕ :=
  match x.1 with
  | .nowMs => x.2.now
  | _ => none

end CoverageEvent

/-- The messages that were signed. -/
def signedMessages (t : List CoverageEvent) : List String := t.filterMap CoverageEvent.message

/-- What was sent. -/
def deliveries (t : List CoverageEvent) : List (String × String) :=
  t.filterMap CoverageEvent.delivery

/-! ## Valid authorizations -/

/-- **The authorization is that of this bootstrap**: it is well formed, names
the prober that is known and this runtime, and a grant in it is well formed
and bound to the artifact; and results are sent to the origin of the
bootstrap. -/
structure Authorized (urls : SubmitUrls) (fromValue : Json → Option CoverageFactAuthorization)
    (bootstrap : RuntimeBootstrapResponse) (factAuthorization : Option Json)
    (coverage : CoverageAuthorization) : Prop where
  decoded : factAuthorization.bind fromValue = some coverage.authorization
  wellFormed : coverage.authorization.structurallyValid = true
  prober : ∀ u ∈ coverage.authorization.networkProberUrl, u = networkProberUrl
  grant : ∀ g ∈ coverage.authorization.networkTraversal,
    g.grantStructureOk coverage.authorization.artifactDigest dormantHelper = true
  deploymentId : coverage.authorization.deploymentId = bootstrap.deploymentId
  jobId : coverage.authorization.jobId = bootstrap.jobId
  processorId : coverage.authorization.processorId = bootstrap.processorId
  origin : ∃ base, urls.parse bootstrap.slipwayUrl = some base ∧ base.isPlain = true
    ∧ coverage.submitUrl = urls.render { base with path := coverageResultPath }

theorem submitUrl_eq {urls : SubmitUrls} {slipwayUrl blockSubmitUrl url : String}
    (h : coverageSubmitUrl urls slipwayUrl blockSubmitUrl = some url) :
    ∃ base, urls.parse slipwayUrl = some base ∧ base.isPlain = true
      ∧ url = urls.render { base with path := coverageResultPath } := by
  obtain ⟨base, hbase, h⟩ := Option.bind_eq_some_iff.mp h
  split at h
  · cases h
  rename_i hplain
  rw [Bool.or_eq_true, not_or, Bool.not_eq_true', Bool.not_eq_false] at hplain
  obtain ⟨block, -, h⟩ := Option.bind_eq_some_iff.mp h
  split at h
  · exact ⟨base, hbase, hplain.1, (Option.some.inj h).symm⟩
  · cases h

theorem authorized_of_take {urls : SubmitUrls}
    {fromValue : Json → Option CoverageFactAuthorization} {bootstrap : RuntimeBootstrapResponse}
    {factAuthorization : Option Json} {coverage : CoverageAuthorization}
    (h : takeCoverageAuthorization urls fromValue bootstrap factAuthorization = some coverage) :
    Authorized urls fromValue bootstrap factAuthorization coverage := by
  obtain ⟨raw, rfl, h⟩ := Option.bind_eq_some_iff.mp h
  obtain ⟨a, hdecoded, h⟩ := Option.bind_eq_some_iff.mp h
  split at h
  · cases h
  rename_i hvalid
  split at h
  · cases h
  rename_i hbound
  obtain ⟨submitUrl, hurl, h⟩ := Option.bind_eq_some_iff.mp h
  cases h
  simp only [Bool.or_eq_true, not_or, Bool.not_eq_true', Bool.not_eq_false, Option.any_eq_true,
    decide_eq_true_eq, not_exists, not_and, not_not, ne_eq] at hvalid hbound
  exact ⟨hdecoded, hvalid.1.1, hvalid.1.2, hvalid.2, hbound.1.1, hbound.1.2, hbound.2,
    submitUrl_eq hurl⟩

/-- A grant is accepted at a time: it is well formed, bound to the artifact
and the helper, and has begun and not ended. -/
def GrantAccepted (helper : TraversalHelperIdentity) (a : CoverageFactAuthorization) (nowMs : ℕ) :
    Prop :=
  ∀ g ∈ a.networkTraversal, g.check a.artifactDigest helper = .ok ()
    ∧ g.descriptor.validateAt nowMs = .ok ()

/-- **Authorization and grant are valid** when the clock is read first. -/
def Granted (helper : TraversalHelperIdentity) (coverage : CoverageAuthorization)
    (t : List CoverageEvent) : Prop :=
  ∃ x nowMs, t.head? = some x ∧ x.reading = some nowMs
    ∧ coverage.authorization.validAt nowMs = true
    ∧ GrantAccepted helper coverage.authorization nowMs

/-! ## What was signed and sent -/

section Sent

variable {coverage : CoverageAuthorization} {t : List CoverageEvent} {x : CoverageEvent}

theorem signedMessages_append (hx : x.message = none) :
    signedMessages (t ++ [x]) = signedMessages t :=
  filterMap_concat_none hx

theorem deliveries_append (hx : x.delivery = none) : deliveries (t ++ [x]) = deliveries t :=
  filterMap_concat_none hx

/-- Nothing was signed or sent. -/
structure Unsent (t : List CoverageEvent) : Prop where
  signed : signedMessages t = []
  sent : deliveries t = []

theorem Unsent.append (h : Unsent t) (hmessage : x.message = none) (hdelivery : x.delivery = none) :
    Unsent (t ++ [x]) :=
  ⟨(signedMessages_append hmessage).trans h.signed, (deliveries_append hdelivery).trans h.sent⟩

/-- **One result was signed**, and it was sent as often as said, each time
with the signature, to the same place and not too long. -/
structure Sent (coverage : CoverageAuthorization) (t : List CoverageEvent)
    (result : CoverageResultV1) (signature : String) (times : ℕ) : Prop where
  authorization : result.authorization = coverage.authorization
  signed : signedMessages t = [result.message]
  reply : ∃ x ∈ t, x.message = some result.message ∧ x.2.signed = some signature
  size : (result.body signature).utf8ByteSize ≤ maxSubmissionBytes
  sent : deliveries t = List.replicate times (coverage.submitUrl, result.body signature)

variable {result : CoverageResultV1} {signature : String} {times : ℕ}

theorem Sent.append (h : Sent coverage t result signature times) (hmessage : x.message = none)
    (hdelivery : x.delivery = none) : Sent coverage (t ++ [x]) result signature times := by
  obtain ⟨y, hy, hreply⟩ := h.reply
  exact ⟨h.authorization, (signedMessages_append hmessage).trans h.signed,
    ⟨y, List.mem_append_left _ hy, hreply⟩, h.size, (deliveries_append hdelivery).trans h.sent⟩

theorem Sent.deliver (h : Sent coverage t result signature times) {r : CoverageReply} :
    Sent coverage (t ++ [(.deliver coverage.submitUrl (result.body signature), r)]) result signature
      (times + 1) := by
  obtain ⟨y, hy, hreply⟩ := h.reply
  refine ⟨h.authorization, (signedMessages_append rfl).trans h.signed,
    ⟨y, List.mem_append_left _ hy, hreply⟩, h.size, ?_⟩
  rw [deliveries, List.filterMap_append, List.replicate_succ']
  exact congrArg (· ++ [_]) h.sent

/-- **What was signed and sent when the producer is done.** -/
inductive Settled (coverage : CoverageAuthorization) (t : List CoverageEvent) : Prop
  | nothing (h : Unsent t)
  /-- A result was signed, or the signer was asked to, and nothing was sent. -/
  | signed {result : CoverageResultV1} (h : result.authorization = coverage.authorization)
      (hsigned : signedMessages t = [result.message]) (hsent : deliveries t = [])
  /-- A result was signed and sent, twice at most. -/
  | sent {result : CoverageResultV1} {signature : String} {times : ℕ} (htimes : times ≤ 2)
      (h : Sent coverage t result signature times)

end Sent

/-! ## The parts of the producer -/

section Parts

variable {sha256 : List UInt8 → Digest} {hasSampler : Bool} {helper : TraversalHelperIdentity}
  {coverage : CoverageAuthorization} {observation : CoverageContactObservation}

/-- **What is heeded at a call**: nothing has an effect before authorization
and grant were found valid, and nothing is sent unless the clock was read
just before and the authorization has not expired. -/
def CoverageRule (helper : TraversalHelperIdentity) (coverage : CoverageAuthorization)
    (before : List CoverageEvent) (x : CoverageEvent) : Prop :=
  (x.1.hasEffect = true → Granted helper coverage before)
    ∧ ∀ url body, x.1 = .deliver url body → ∃ y now, before.getLast? = some y
      ∧ y.reading = some now ∧ now < coverage.authorization.expiresAtMs

theorem Granted.append {t u : List CoverageEvent} (h : Granted helper coverage t) :
    Granted helper coverage (t ++ u) := by
  obtain ⟨x, nowMs, hhead, hvalid⟩ := h
  refine ⟨x, nowMs, ?_, hvalid⟩
  rw [List.head?_append, hhead]
  rfl

/-- A call that sends nothing is allowed once authorization and grant were
found valid. -/
theorem rule_of_granted {before : List CoverageEvent} {x : CoverageEvent}
    (h : Granted helper coverage before) (hx : x.delivery = none) :
    CoverageRule helper coverage before x := by
  refine ⟨fun _ => h, fun url body hcall => ?_⟩
  unfold CoverageEvent.delivery at hx
  rw [hcall] at hx
  cases hx

variable {before : List CoverageEvent}

theorem follows_captureHardware (h : Granted helper coverage before) (hunsent : Unsent before) :
    Follows (CoverageRule helper coverage) (captureHardware sha256 coverage) before
      fun _ t => Granted helper coverage t ∧ Unsent t := by
  unfold captureHardware
  split
  · exact follows_pure ⟨h, hunsent⟩
  refine follows_call (fun _ => rule_of_granted h rfl) fun started => ?_
  have h₁ := h.append (u := [(.nowMs, started)])
  have hunsent₁ := hunsent.append (x := (.nowMs, started)) rfl rfl
  cases started.now with
  | none => exact follows_pure ⟨h₁, hunsent₁⟩
  | some startedMs =>
    refine follows_call (fun _ => rule_of_granted h₁ rfl) fun android => ?_
    refine follows_call (fun _ => rule_of_granted h₁.append rfl) fun execution => ?_
    refine follows_call (fun _ => rule_of_granted h₁.append.append rfl) fun completed => ?_
    have hunsent₂ := ((hunsent₁.append (x := (.collectAndroid, android)) rfl rfl).append
      (x := (.collectExecution, execution)) rfl rfl).append (x := (.nowMs, completed)) rfl rfl
    cases completed.now with
    | none | some completedMs => exact follows_pure ⟨h₁.append.append.append, hunsent₂⟩

theorem follows_sampleNetwork (h : Granted helper coverage before) (hunsent : Unsent before) :
    Follows (CoverageRule helper coverage) (sampleNetwork hasSampler coverage.authorization) before
      fun _ t => Granted helper coverage t ∧ Unsent t := by
  unfold sampleNetwork
  cases coverage.authorization.networkProberUrl with
  | none => exact follows_pure ⟨h, hunsent⟩
  | some url =>
    dsimp only
    split
    · exact follows_pure ⟨h, hunsent⟩
    refine follows_call (fun _ => rule_of_granted h rfl) fun started => ?_
    have hunsent₁ := hunsent.append (x := (.nowMs, started)) rfl rfl
    cases started.now with
    | none => exact follows_pure ⟨h.append, hunsent₁⟩
    | some startedMs =>
      dsimp only
      split
      · exact follows_pure ⟨h.append, hunsent₁⟩
      · refine follows_call (fun _ => rule_of_granted h.append rfl) fun output => ?_
        exact follows_pure ⟨h.append.append, hunsent₁.append rfl rfl⟩

variable {result : CoverageResultV1}

/-- **The deliveries**: each one after a look at the clock. -/
theorem follows_deliverTimes {signature : String} (n : ℕ) {times : ℕ}
    (h : Granted helper coverage before) (hsent : Sent coverage before result signature times)
    (htimes : times + n ≤ 2) :
    Follows (CoverageRule helper coverage) (deliverTimes coverage (result.body signature) n) before
      fun _ t => Settled coverage t := by
  induction n generalizing before times with
  | zero => exact follows_pure (.sent htimes hsent)
  | succ n ih =>
    refine follows_call (fun _ => rule_of_granted h rfl) fun clock => ?_
    have hsent₁ := hsent.append (x := (.nowMs, clock)) rfl rfl
    have hdone : Settled coverage (before ++ [(.nowMs, clock)]) :=
      .sent (by omega) hsent₁
    cases hnow : clock.now with
    | none => exact follows_pure hdone
    | some now =>
      dsimp only
      split
      · exact follows_pure hdone
      rename_i hearly
      refine follows_call (fun _ => ⟨fun _ => h.append, ?_⟩) fun delivered => ?_
      · rintro _ _ ⟨⟩
        exact ⟨(.nowMs, clock), now, List.getLast?_concat .., hnow, Nat.lt_of_not_le hearly⟩
      split
      · exact follows_pure (.sent (by omega) hsent₁.deliver)
      · exact ih h.append.append hsent₁.deliver (by omega)

theorem follows_submit (h : Granted helper coverage before) (hunsent : Unsent before)
    (hresult : result.authorization = coverage.authorization) :
    Follows (CoverageRule helper coverage) (submit coverage result) before
      fun _ t => Settled coverage t := by
  refine follows_call (fun _ => rule_of_granted h rfl) fun signer => ?_
  have hsigned : signedMessages (before ++ [(.signEd25519 result.message, signer)])
      = [result.message] := by
    rw [signedMessages, List.filterMap_append]
    exact congrArg (· ++ [_]) hunsent.signed
  have hnothing : deliveries (before ++ [(.signEd25519 result.message, signer)]) = [] :=
    (deliveries_append rfl).trans hunsent.sent
  have hstop : Settled coverage (before ++ [(.signEd25519 result.message, signer)]) :=
    .signed hresult hsigned hnothing
  cases hsignature : signer.signed with
  | none => exact follows_pure hstop
  | some signature =>
    dsimp only
    split
    · exact follows_pure hstop
    rename_i hsize
    have hreply : ∃ x ∈ before ++ [(.signEd25519 result.message, signer)],
        CoverageEvent.message x = some result.message ∧ x.2.signed = some signature :=
      ⟨_, List.mem_append_right _ List.mem_cons_self, rfl, hsignature⟩
    have hsent : Sent coverage (before ++ [(.signEd25519 result.message, signer)]) result signature
        0 := ⟨hresult, hsigned, hreply, Nat.le_of_not_lt hsize, hnothing⟩
    exact follows_deliverTimes 2 h.append hsent le_rfl

theorem authorization_of_assemble {a : CoverageFactAuthorization}
    {hardware : Option (CoverageOutcome × String)} {network : Option NetworkSampleOutput}
    (h : assemble sha256 a observation hardware network = .ok result) :
    result.authorization = a := by
  obtain ⟨-, h⟩ := require_bind_eq_ok.mp h
  obtain ⟨-, h⟩ := require_bind_eq_ok.mp h
  cases h
  rfl

theorem follows_measureAndSubmit (h : Granted helper coverage before) (hunsent : Unsent before) :
    Follows (CoverageRule helper coverage)
      (measureAndSubmit sha256 hasSampler coverage observation) before
      fun _ t => Settled coverage t := by
  refine Follows.bind ((follows_captureHardware h hunsent).mono fun captured t ⟨h, hunsent⟩ => ?_)
  cases captured with
  | error outcome => exact follows_pure (.nothing hunsent)
  | ok hardware =>
    refine Follows.bind ((follows_sampleNetwork h hunsent).mono fun network t ⟨h, hunsent⟩ => ?_)
    cases hresult : assemble sha256 coverage.authorization observation hardware network with
    | error outcome => exact follows_pure (.nothing hunsent)
    | ok result => exact follows_submit h hunsent (authorization_of_assemble hresult)

/-! ## The whole producer -/

/-- A grant that has too little time left is still a valid one. -/
theorem validateAt_of_canStart {d : TraversalDescriptorV1} {nowMs jobExpiresAtMs reserveMs : ℕ}
    {outcome : Except TraversalRefusal Unit} (hvalid : d.validate = .ok ())
    (h : d.canStart nowMs jobExpiresAtMs reserveMs = outcome)
    (houtcome : outcome = .ok () ∨ outcome = .error .insufficientTime) :
    d.validateAt nowMs = .ok () := by
  cases hat : d.validateAt nowMs with
  | ok u => rfl
  | error refusal =>
    -- What `validate_at` refuses for is not the lack of time.
    have hrefusal : refusal = .notYetValid ∨ refusal = .expired := by
      unfold TraversalDescriptorV1.validateAt at hat
      rw [hvalid] at hat
      rcases require_bind_eq_error hat with hrefusal | hended
      · exact .inl hrefusal
      · unfold require at hended
        split at hended
        · cases hended
        · exact .inr (Except.error.inj hended).symm
    have hcan : d.canStart nowMs jobExpiresAtMs reserveMs = .error refusal := by
      unfold TraversalDescriptorV1.canStart
      rw [hat]
      rfl
    rw [h] at hcan
    rcases houtcome with rfl | rfl
    · cases hcan
    · cases hcan
      rcases hrefusal with hrefusal | hrefusal
      · cases hrefusal
      · cases hrefusal

theorem follows_reserveTraversal {nowMs : ℕ} (hunsent : Unsent before) :
    Follows (CoverageRule helper coverage)
      (reserveTraversal coverage.authorization.networkTraversal nowMs
        coverage.authorization.expiresAtMs coverage.authorization.artifactDigest helper) before
      fun outcome t => ((∃ refusal, outcome = .refused refusal)
          ∨ GrantAccepted helper coverage.authorization nowMs)
        ∧ (∃ u, t = before ++ u) ∧ Unsent t := by
  have hstay : ∃ u, before = before ++ u := ⟨[], (List.append_nil before).symm⟩
  unfold reserveTraversal
  cases hgrant : coverage.authorization.networkTraversal with
  | none =>
    refine follows_pure ⟨.inr fun g hg => ?_, hstay, hunsent⟩
    rw [hgrant] at hg
    exact absurd hg (Option.not_mem_none g)
  | some capability =>
    dsimp only
    cases hcheck : capability.check coverage.authorization.artifactDigest helper with
    | error refusal => exact follows_pure ⟨.inl ⟨refusal, rfl⟩, hstay, hunsent⟩
    | ok _ =>
      dsimp only
      have hvalid : capability.descriptor.validate = .ok () := by
        obtain ⟨-, hcheck⟩ := require_bind_eq_ok.mp hcheck
        obtain ⟨-, hcheck⟩ := require_bind_eq_ok.mp hcheck
        obtain ⟨_, hvalid, -⟩ := Except.bind_eq_ok.mp hcheck
        exact hvalid
      have haccepted (hat : capability.descriptor.validateAt nowMs = .ok ()) :
          GrantAccepted helper coverage.authorization nowMs := by
        intro g hg
        rw [hgrant] at hg
        obtain rfl := Option.mem_some.mp hg
        exact ⟨hcheck, hat⟩
      cases hstart : capability.descriptor.canStart nowMs coverage.authorization.expiresAtMs
        existingDeliveryReserveMs with
      | error refusal =>
        cases refusal with
        | insufficientTime =>
          have hat := validateAt_of_canStart hvalid hstart (.inr rfl)
          exact follows_pure ⟨.inr (haccepted hat), hstay, hunsent⟩
        | _ => exact follows_pure ⟨.inl ⟨_, rfl⟩, hstay, hunsent⟩
      | ok _ =>
        have hok := haccepted (validateAt_of_canStart hvalid hstart (.inl rfl))
        refine follows_call (fun _ => ⟨nofun, nofun⟩) fun cancelled => ?_
        have hunsent₁ := hunsent.append (x := (.cancelled, cancelled)) rfl rfl
        split
        · exact follows_pure ⟨.inr hok, ⟨_, rfl⟩, hunsent₁⟩
        · exact follows_pure ⟨.inr hok, ⟨_, rfl⟩, hunsent₁⟩

/-- **The producer heeds its rule**, and in the end has signed one result at
most. -/
theorem follows_runCoverageProducer :
    Follows (CoverageRule helper coverage)
      (runCoverageProducer sha256 hasSampler helper coverage observation) []
      fun _ t => Settled coverage t := by
  refine follows_call (fun _ => ⟨nofun, nofun⟩) fun clock => ?_
  have hunsent : Unsent [(.nowMs, clock)] := ⟨rfl, rfl⟩
  cases hnow : clock.now with
  | none => exact follows_pure (.nothing hunsent)
  | some nowMs =>
    dsimp only
    split
    · exact follows_pure (.nothing hunsent)
    rename_i hvalid
    rw [Bool.not_eq_true', Bool.not_eq_false] at hvalid
    refine Follows.bind ((follows_reserveTraversal hunsent).mono ?_)
    rintro outcome _ ⟨haccepted, ⟨u, rfl⟩, hunsent⟩
    have hgo (hgrant : GrantAccepted helper coverage.authorization nowMs) :
        Follows (CoverageRule helper coverage)
          (measureAndSubmit sha256 hasSampler coverage observation) ([(.nowMs, clock)] ++ u)
          fun _ t => Settled coverage t :=
      follows_measureAndSubmit ⟨(.nowMs, clock), nowMs, rfl, hnow, hvalid, hgrant⟩ hunsent
    cases outcome with
    | refused refusal => exact follows_pure (.nothing hunsent)
    | absent | reserved reservation | skippedBudget => exact hgo (haccepted.resolve_left nofun)

end Parts

/-! ## The task -/

section Task

variable (sha256 : List UInt8 → Digest) (hasSampler : Bool) (helper : TraversalHelperIdentity)
  (urls : SubmitUrls) (fromValue : Json → Option CoverageFactAuthorization)
  (bootstrap : RuntimeBootstrapResponse) (factAuthorization : Option Json)
  (observation : CoverageContactObservation)

variable {sha256 hasSampler helper urls fromValue bootstrap factAuthorization observation} in
theorem coverageTask_of_take {coverage : CoverageAuthorization}
    (h : takeCoverageAuthorization urls fromValue bootstrap factAuthorization = some coverage) :
    coverageTask sha256 hasSampler helper urls fromValue bootstrap factAuthorization observation
      = runCoverageProducer sha256 hasSampler helper coverage observation
        >>= fun outcome => pure (some outcome) := by
  unfold coverageTask
  rw [h]

/-- **What the producer does is authorized**, whatever the clock, the
collectors, the sampler, the signer and the delivery reply. Either nothing is
measured, signed or sent; or authorization and grant are those of this
bootstrap and valid when the clock is read first. Then at most one result is
signed, in its canonical form; what is sent is that result with its signature,
at most twice and to the origin of the bootstrap; and before something is
sent the clock says that the authorization has not expired. -/
theorem coverage_sent_as_authorized {t : List CoverageEvent}
    {outcome : Option CoverageProducerOutcome}
    (h : Yields (coverageTask sha256 hasSampler helper urls fromValue bootstrap factAuthorization
      observation) t outcome) :
    (∀ x ∈ t, x.1.hasEffect = false)
      ∨ ∃ coverage, Authorized urls fromValue bootstrap factAuthorization coverage
        ∧ Granted helper coverage t ∧ Settled coverage t
        ∧ ∀ before url body r after, t = before ++ (.deliver url body, r) :: after →
          ∃ y now, before.getLast? = some y ∧ CoverageEvent.reading y = some now
            ∧ now < coverage.authorization.expiresAtMs := by
  cases htake : takeCoverageAuthorization urls fromValue bootstrap factAuthorization with
  | none =>
    unfold coverageTask at h
    rw [htake] at h
    obtain ⟨rfl, -⟩ := yields_pure.mp h
    exact .inl fun x hx => absurd hx List.not_mem_nil
  | some coverage =>
    rw [coverageTask_of_take htake] at h
    obtain ⟨result, hrun, -⟩ := yields_bind_pure.mp h
    obtain ⟨halong, hsettled⟩ := follows_runCoverageProducer t result hrun
    by_cases heffect : ∀ x ∈ t, x.1.hasEffect = false
    · exact .inl heffect
    · -- The first call with an effect was made after the grant was accepted.
      obtain ⟨x, hx⟩ := not_forall.mp heffect
      obtain ⟨hmem, hcalls⟩ := Classical.not_imp.mp hx
      obtain ⟨before, after, rfl⟩ := List.append_of_mem hmem
      have hgranted := halong.at.1 ((Bool.not_eq_false _).mp hcalls)
      refine .inr ⟨coverage, authorized_of_take htake, hgranted.append, hsettled, ?_⟩
      intro before' url body r after' heq
      rw [heq] at halong
      exact halong.at.2 url body rfl

end Task

namespace CoverageSample

def bootstrap : RuntimeBootstrapResponse :=
  { sampleBootstrap with deploymentId := "d", jobId := "j", processorId := "p" }

/-- An authorization for that bootstrap, without a prober and without a
grant. -/
def authorization : CoverageFactAuthorization where
  domain := coverageResultDomain
  applicationId := "a"
  policyVersionId := "v"
  policyDigest := "sha256:" ++ sampleHex 64
  artifactDigest := "sha256:" ++ sampleHex 64
  cycleId := "c"
  target := ⟨"t", "p", .javascript, .pinned⟩
  deploymentId := "d"
  jobId := "j"
  processorId := "p"
  probeVersion := "1"
  profileVersion := "1"
  sequence := 0
  issuedAtMs := 0
  expiresAtMs := 100000
  challenge := "0x" ++ sampleHex 64
  replaySubject := "r"
  submitUrl := "https://core/api/jobs/coverage-result"
  networkProberUrl := none
  networkTraversal := none

/-- The library for URLs, on the two of the sample. -/
def urls : SubmitUrls where
  parse s := some ⟨"https", some "core", "", none, some 443,
    if s = "https://core" then "/" else coverageResultPath, none, none⟩
  render url := "https://core" ++ url.path

def zeroHash : List UInt8 → Digest := fun _ => Vector.replicate 32 0

def coverage : CoverageAuthorization := ⟨authorization, "https://core/api/jobs/coverage-result"⟩

def result : CoverageResultV1 :=
  let outcomes := [localOutcome "runtime-bootstrap" 10 20]
  ⟨authorization, outcomes, none, none,
    metricDigest zeroHash (.arr (outcomes.map CoverageOutcome.toJson))⟩

theorem structurallyValid_authorization : authorization.structurallyValid = true := by
  decide +kernel

theorem take_eq : takeCoverageAuthorization urls (fun _ => some authorization) bootstrap
    (some .null) = some coverage := by decide +kernel

/-- The result is measured, and the signer refuses. -/
def trace : List CoverageEvent :=
  [(.nowMs, .time (some 30)), (.signEd25519 result.message, .signature none)]

theorem yields_run : Yields (runCoverageProducer zeroHash true dormantHelper coverage ⟨10, 20⟩)
    trace .signingFailed := by
  have hsubmit : Yields (submit coverage result) trace.tail .signingFailed :=
    yields_perform_bind.mpr ⟨_, [], rfl, yields_pure.mpr ⟨rfl, rfl⟩⟩
  have hmeasure : Yields (measureAndSubmit zeroHash true coverage ⟨10, 20⟩) trace.tail
      .signingFailed := by
    refine yields_bind.mpr ⟨[], _, .ok none, rfl, yields_pure.mpr ⟨rfl, rfl⟩, ?_⟩
    refine yields_bind.mpr ⟨[], _, none, rfl, yields_pure.mpr ⟨rfl, rfl⟩, ?_⟩
    have hassemble : assemble zeroHash coverage.authorization ⟨10, 20⟩ none none = .ok result := rfl
    rw [hassemble]
    exact hsubmit
  exact yields_perform_bind.mpr ⟨_, _, rfl, hmeasure⟩

theorem yields_task : Yields (coverageTask zeroHash true dormantHelper urls
    (fun _ => some authorization) bootstrap (some .null) ⟨10, 20⟩) trace (some .signingFailed) := by
  rw [coverageTask_of_take take_eq]
  exact yields_bind.mpr ⟨trace, [], .signingFailed, rfl, yields_run, yields_pure.mpr ⟨rfl, rfl⟩⟩

end CoverageSample

open CoverageSample in
/-- A run in which the signer is asked, and refuses. -/
theorem refused_signature_as_authorized :
    authorization.structurallyValid = true
      ∧ ∃ coverage, Authorized urls (fun _ => some authorization) bootstrap (some .null)
          coverage ∧ Granted dormantHelper coverage trace ∧ Settled coverage trace := by
  refine ⟨structurallyValid_authorization, ?_⟩
  rcases coverage_sent_as_authorized _ _ _ _ _ _ _ _ yields_task with
    hquiet | ⟨coverage, hauthorized, hgranted, hsettled, -⟩
  · have hsign : (CoverageCall.signEd25519 result.message).hasEffect = false :=
      hquiet _ (List.mem_cons_of_mem _ List.mem_cons_self)
    cases hsign
  · exact ⟨coverage, hauthorized, hgranted, hsettled⟩
