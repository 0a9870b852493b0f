import RuntimeCargo.CoverageRuns
import RuntimeCargo.Timed

/-!
# Time for the deliveries

The sample of the network takes time, and after it the result is delivered,
if need be twice. The producer therefore takes a sample only if the
authorization holds for another forty seconds: thirty for the sample and five
for each delivery. But the sampler takes four more seconds, for asking the
prober to dial back. So there is room for both deliveries if and only if more
than forty-four seconds are left (`sample_leaves_room_iff`), and between
forty and forty-four seconds a sample may be taken whose second delivery is
over too late.
-/

open Program

/-- `RESULT_ATTEMPT_TIMEOUT`, in milliseconds. -/
def resultAttemptTimeoutMs : ℕ := 5000

/-- **The budgets**: the clock is read in no time and shows the time, the
sampler takes its two budgets at most, signing takes no time, and a delivery
takes its own limit at most. -/
def CoverageBudgets (x : Stamped CoverageCall CoverageReply) : Prop :=
  match x.call with
  | .nowMs => x.stop = x.start ∧ ∀ now, x.reply.now = some now → now = x.start
  | .sample .. => x.stop ≤ x.start + (sampleBudgetMs + inboundBudgetMs)
  | .signEd25519 _ => x.stop = x.start
  | .deliver .. => x.stop ≤ x.start + resultAttemptTimeoutMs
  | _ => True

/-- Whether a call takes a sample. -/
def CoverageCall.isSample : CoverageCall → Bool
  | sample .. => true
  | _ => false

/-- Whether a call delivers something. -/
def CoverageCall.isDelivery : CoverageCall → Bool
  | deliver .. => true
  | _ => false

/-- **There was room for both deliveries**: whatever was delivered was so
before the authorization had expired, and nothing was left out because it
had. -/
def RoomForBoth (coverage : CoverageAuthorization)
    (t : List (Stamped CoverageCall CoverageReply)) (outcome : CoverageProducerOutcome) : Prop :=
  (∀ x ∈ t, x.call.isDelivery = true → x.stop < coverage.authorization.expiresAtMs)
    ∧ outcome ≠ .authorizationExpired

/-- The time that both deliveries and the sample may take. -/
def sampleAndDeliveriesMs : ℕ := sampleBudgetMs + inboundBudgetMs + 2 * resultAttemptTimeoutMs

/-! ## With enough time -/

section Room

variable {sha256 : List UInt8 → Digest} {hasSampler : Bool} {helper : TraversalHelperIdentity}
  {coverage : CoverageAuthorization} {observation : CoverageContactObservation} {now : ℕ}

/-- What is done in the budgets, nothing else taking time. -/
abbrev InBudgets {α : Type} (p : Program CoverageCall CoverageReply α) (now : ℕ)
    (Q : α → List (Stamped CoverageCall CoverageReply) → ℕ → Prop) : Prop :=
  Times (· = ·) CoverageBudgets p now Q

/-- Neither a sample nor a delivery. -/
def Aside (t : List (Stamped CoverageCall CoverageReply)) : Prop :=
  ∀ x ∈ t, x.call.isSample = false ∧ x.call.isDelivery = false

variable {t : List (Stamped CoverageCall CoverageReply)} {x : Stamped CoverageCall CoverageReply}
  {left : ℕ} {outcome : CoverageProducerOutcome}

theorem aside_cons (hsample : x.call.isSample = false) (hdelivery : x.call.isDelivery = false)
    (h : Aside t) : Aside (x :: t) :=
  List.forall_mem_cons.mpr ⟨⟨hsample, hdelivery⟩, h⟩

theorem aside_nil : Aside [] := List.forall_mem_nil _

theorem times_captureHardware :
    InBudgets (captureHardware sha256 coverage) now fun _ t _ => Aside t := by
  unfold captureHardware
  split
  · exact times_pure aside_nil
  refine times_call fun clock _ _ _ _ _ => ?_
  cases clock.now with
  | none => exact times_pure (aside_cons rfl rfl aside_nil)
  | some started =>
    refine times_call fun _ _ _ _ _ _ => times_call fun _ _ _ _ _ _ =>
      times_call fun clock' _ _ _ _ _ => ?_
    cases clock'.now with
    | none | some completed =>
      exact times_pure (aside_cons rfl rfl (aside_cons rfl rfl (aside_cons rfl rfl
        (aside_cons rfl rfl aside_nil))))

theorem times_reserveTraversal {grant : Option TraversalCapabilityV1} {nowMs expiresAtMs : ℕ}
    {artifactDigest : String} :
    InBudgets (reserveTraversal grant nowMs expiresAtMs artifactDigest helper) now
      fun _ t _ => Aside t := by
  unfold reserveTraversal
  split
  · exact times_pure aside_nil
  split
  · exact times_pure aside_nil
  split
  · exact times_pure aside_nil
  · exact times_pure aside_nil
  · refine times_call fun _ _ _ _ _ _ => ?_
    split
    · exact times_pure (aside_cons rfl rfl aside_nil)
    · exact times_pure (aside_cons rfl rfl aside_nil)

/-- A sample was taken, and this much time was left when it was. -/
def SampledWith (coverage : CoverageAuthorization) (left : ℕ)
    (t : List (Stamped CoverageCall CoverageReply)) : Prop :=
  ∃ x ∈ t, x.call.isSample = true ∧ coverage.authorization.expiresAtMs - x.start = left

theorem not_sampledWith_of_aside (h : Aside t) : ¬ SampledWith coverage left t := by
  rintro ⟨x, hx, hsample, -⟩
  rw [(h x hx).1] at hsample
  exact Bool.false_ne_true hsample

/-- **The sample**: it is taken only with the reserve left, and it is over
after its budgets. -/
theorem times_sampleNetwork (left : ℕ) :
    InBudgets (sampleNetwork hasSampler coverage.authorization) now fun _ t stop =>
      (∀ x ∈ t, x.call.isDelivery = false)
        ∧ (SampledWith coverage left t → existingDeliveryReserveMs ≤ left
          ∧ coverage.authorization.expiresAtMs ≤ stop + left
          ∧ stop + left ≤ coverage.authorization.expiresAtMs + (sampleBudgetMs + inboundBudgetMs)) := by
  have hnothing : ∀ stop t, Aside t → (∀ x ∈ t, x.call.isDelivery = false)
      ∧ (SampledWith coverage left t → existingDeliveryReserveMs ≤ left
        ∧ coverage.authorization.expiresAtMs ≤ stop + left
        ∧ stop + left ≤ coverage.authorization.expiresAtMs + (sampleBudgetMs + inboundBudgetMs)) :=
    fun stop t h => ⟨fun x hx => (h x hx).2, fun hs => absurd hs (not_sampledWith_of_aside h)⟩
  unfold sampleNetwork
  cases coverage.authorization.networkProberUrl with
  | none => exact times_pure (hnothing _ _ aside_nil)
  | some url =>
    dsimp only
    split
    · exact times_pure (hnothing _ _ aside_nil)
    refine times_call fun reply start stop _ _ hok => ?_
    cases hnow : reply.now with
    | none => exact times_pure (hnothing _ _ (aside_cons rfl rfl aside_nil))
    | some started =>
      obtain ⟨hstop, hreads⟩ : stop = start ∧ ∀ now, reply.now = some now → now = start := hok
      obtain rfl := hreads started hnow
      obtain rfl : stop = started := hstop
      dsimp only
      split
      · exact times_pure (hnothing _ _ (aside_cons rfl rfl aside_nil))
      next hreserve =>
        refine times_call fun _ start' stop' hflow hle hbudget => times_pure ⟨?_, ?_⟩
        · exact List.forall_mem_cons.mpr
            ⟨rfl, List.forall_mem_cons.mpr ⟨rfl, List.forall_mem_nil _⟩⟩
        · rintro ⟨z, hz, hsample, hleft⟩
          have hlong : stop' ≤ start' + (sampleBudgetMs + inboundBudgetMs) := hbudget
          obtain rfl | hz := List.mem_cons.mp hz
          · cases hsample
          · obtain rfl := List.mem_singleton.mp hz
            have hstart : stop = start' := hflow
            dsimp only at hleft
            unfold existingDeliveryReserveMs at hreserve ⊢
            omega

/-- What a part of the producer that comes after the sample is asked for: it
takes no other sample, and there is room for its deliveries if it has this much
time. -/
def AfterSample (coverage : CoverageAuthorization) (now needed : ℕ)
    (outcome : CoverageProducerOutcome) (t : List (Stamped CoverageCall CoverageReply)) : Prop :=
  (∀ x ∈ t, x.call.isSample = false)
    ∧ (now + needed < coverage.authorization.expiresAtMs → RoomForBoth coverage t outcome)

theorem afterSample_nil {needed : ℕ} (h : outcome ≠ .authorizationExpired) :
    AfterSample coverage now needed outcome [] :=
  ⟨List.forall_mem_nil _, fun _ => ⟨List.forall_mem_nil _, h⟩⟩

/-- One more call, which takes some of the time that is needed. -/
theorem afterSample_cons {needed needed' : ℕ} (hsample : x.call.isSample = false)
    (htime : x.stop + needed' ≤ now + needed) (h : AfterSample coverage x.stop needed' outcome t) :
    AfterSample coverage now needed outcome (x :: t) := by
  refine ⟨List.forall_mem_cons.mpr ⟨hsample, h.1⟩, fun hroom => ?_⟩
  have hrest := h.2 (Nat.lt_of_le_of_lt htime hroom)
  exact ⟨List.forall_mem_cons.mpr ⟨fun _ => by omega, hrest.1⟩, hrest.2⟩

/-- The deliveries are over in time if there is time for each of them. -/
theorem times_deliverTimes (body : String) (n : ℕ) :
    InBudgets (deliverTimes coverage body n) now fun outcome t _ =>
      AfterSample coverage now (n * resultAttemptTimeoutMs) outcome t := by
  induction n generalizing now with
  | zero => exact times_pure (afterSample_nil nofun)
  | succ n ih =>
    refine times_call fun reply start stop hflow _ hok => ?_
    obtain ⟨hstop, hreads⟩ : stop = start ∧ ∀ now, reply.now = some now → now = start := hok
    obtain rfl : now = start := hflow
    obtain rfl : stop = now := hstop
    cases hnow : reply.now with
    | none => exact times_pure (afterSample_cons rfl (le_refl _) (afterSample_nil nofun))
    | some time =>
      obtain rfl := hreads time hnow
      dsimp only
      split
      next hlate =>
        -- it has expired, so there was no time for a delivery
        refine times_pure ⟨List.forall_mem_cons.mpr ⟨rfl, List.forall_mem_nil _⟩, fun hroom => ?_⟩
        exact absurd (Nat.lt_of_le_of_lt (Nat.le_add_right _ _) hroom) (Nat.not_lt.mpr hlate)
      refine times_call fun _ start' stop' hflow' hle hok' => ?_
      have hshort : stop' ≤ start' + resultAttemptTimeoutMs := hok'
      have hstart : time = start' := hflow'
      have hover : stop' + n * resultAttemptTimeoutMs
          ≤ time + (n + 1) * resultAttemptTimeoutMs := by
        rw [Nat.succ_mul]
        omega
      split
      · exact times_pure (afterSample_cons rfl (le_refl _)
          (afterSample_cons rfl hover (afterSample_nil nofun)))
      · exact ih.mono fun outcome t _ ht =>
          afterSample_cons rfl (le_refl _) (afterSample_cons rfl hover ht)

theorem times_submit (result : CoverageResultV1) :
    InBudgets (submit coverage result) now fun outcome t _ =>
      AfterSample coverage now (2 * resultAttemptTimeoutMs) outcome t := by
  unfold submit
  refine times_call fun reply start stop hflow _ hok => ?_
  obtain rfl : stop = start := hok
  obtain rfl : now = stop := hflow
  cases reply.signed with
  | none => exact times_pure (afterSample_cons rfl (le_refl _) (afterSample_nil nofun))
  | some signature =>
    dsimp only
    split
    · exact times_pure (afterSample_cons rfl (le_refl _) (afterSample_nil nofun))
    · exact (times_deliverTimes _ 2).mono fun outcome t _ ht => afterSample_cons rfl (le_refl _) ht

/-- The only thing that can be wrong with what was measured. -/
theorem assemble_eq_error {a : CoverageFactAuthorization}
    {hardware : Option (CoverageOutcome × String)} {network : Option NetworkSampleOutput}
    (h : assemble sha256 a observation hardware network = .error outcome) :
    outcome = .envelopeUnrepresentable := by
  unfold assemble require at h
  dsimp only at h
  split at h
  · split at h
    · cases h
    · exact (Except.error.inj h).symm
  · exact (Except.error.inj h).symm

/-- What the producer is to do if the sample was taken with this much time
left. -/
def Leaves (coverage : CoverageAuthorization) (left : ℕ)
    (t : List (Stamped CoverageCall CoverageReply)) (outcome : CoverageProducerOutcome) : Prop :=
  SampledWith coverage left t → RoomForBoth coverage t outcome

theorem leaves_of_aside (h : Aside t) :
    Leaves coverage left t outcome :=
  fun hs => absurd hs (not_sampledWith_of_aside h)

/-- What comes before, aside, makes no difference. -/
theorem leaves_append {s : List (Stamped CoverageCall CoverageReply)} (hs : Aside s)
    (h : Leaves coverage left t outcome) : Leaves coverage left (s ++ t) outcome := by
  rintro ⟨x, hx, hsample, hleft⟩
  have hxt : x ∈ t := by
    refine (List.mem_append.mp hx).resolve_left fun hxs => ?_
    rw [(hs x hxs).1] at hsample
    exact Bool.false_ne_true hsample
  have hroom := h ⟨x, hxt, hsample, hleft⟩
  refine ⟨List.forall_mem_append.mpr ⟨fun y hy hdelivery => ?_, hroom.1⟩, hroom.2⟩
  rw [(hs y hy).2] at hdelivery
  exact absurd hdelivery Bool.false_ne_true

theorem times_measureAndSubmit
    (hleft : left < existingDeliveryReserveMs ∨ sampleAndDeliveriesMs < left) :
    InBudgets (measureAndSubmit sha256 hasSampler coverage observation) now fun outcome t _ =>
      Leaves coverage left t outcome := by
  refine Times.bind (times_captureHardware.mono fun hardware s _ hs => ?_)
  cases hardware with
  | error outcome => exact times_pure (leaves_append hs (leaves_of_aside aside_nil))
  | ok hardware =>
    refine Times.mono (Times.bind ((times_sampleNetwork left).mono fun network u stop hu => ?_))
      fun outcome t _ ht => leaves_append hs ht
    have hrest : ∀ t outcome, AfterSample coverage stop (2 * resultAttemptTimeoutMs) outcome t →
        Leaves coverage left (u ++ t) outcome := by
      rintro t outcome ht ⟨x, hx, hsample, hx'⟩
      have hxu : x ∈ u := by
        refine (List.mem_append.mp hx).resolve_right fun hxt => ?_
        rw [ht.1 x hxt] at hsample
        exact Bool.false_ne_true hsample
      obtain ⟨hreserve, hfrom, hto⟩ := hu.2 ⟨x, hxu, hsample, hx'⟩
      have henough : stop + 2 * resultAttemptTimeoutMs < coverage.authorization.expiresAtMs := by
        unfold sampleAndDeliveriesMs at hleft
        omega
      have hroom := ht.2 henough
      refine ⟨List.forall_mem_append.mpr ⟨fun y hy hdelivery => ?_, hroom.1⟩, hroom.2⟩
      rw [hu.1 y hy] at hdelivery
      exact absurd hdelivery Bool.false_ne_true
    cases hassembled : assemble sha256 coverage.authorization observation hardware network with
    | error outcome =>
      obtain rfl := assemble_eq_error hassembled
      exact times_pure (hrest _ _ (afterSample_nil nofun))
    | ok result => exact (times_submit result).mono fun outcome t _ ht => hrest _ _ ht

theorem times_runCoverageProducer
    (hleft : left < existingDeliveryReserveMs ∨ sampleAndDeliveriesMs < left) :
    InBudgets (runCoverageProducer sha256 hasSampler helper coverage observation) now
      fun outcome t _ => Leaves coverage left t outcome := by
  refine times_call fun clock start stop _ _ _ => ?_
  have hclock : Aside [⟨.nowMs, clock, start, stop⟩] := aside_cons rfl rfl aside_nil
  cases clock.now with
  | none => exact times_pure (leaves_of_aside hclock)
  | some nowMs =>
    dsimp only
    split
    · exact times_pure (leaves_of_aside hclock)
    refine Times.mono (Times.bind (times_reserveTraversal.mono fun reserved s _ hs => ?_))
      fun outcome t _ ht => leaves_append hclock ht
    cases reserved with
    | refused reason => exact times_pure (leaves_append hs (leaves_of_aside aside_nil))
    | absent =>
      exact (times_measureAndSubmit hleft).mono fun outcome t _ ht => leaves_append hs ht
    | reserved reservation =>
      exact (times_measureAndSubmit hleft).mono fun outcome t _ ht => leaves_append hs ht
    | skippedBudget =>
      exact (times_measureAndSubmit hleft).mono fun outcome t _ ht => leaves_append hs ht

end Room

/-! ## With too little time -/

namespace CoverageTimeSample

open CoverageSample

/-- The authorization of the sample, with a prober. -/
def probing : CoverageAuthorization :=
  { coverage with
    authorization := { authorization with networkProberUrl := some networkProberUrl } }

/-- What the sampler returns. -/
def output : NetworkSampleOutput := ⟨skippedSample 0, none⟩

def result : CoverageResultV1 :=
  let outcomes := localOutcome "runtime-bootstrap" 10 20 :: (skippedSample 0).coverageOutcomes
  ⟨probing.authorization, outcomes, some (skippedSample 0), none,
    metricDigest zeroHash (.arr (outcomes.map CoverageOutcome.toJson))⟩

/-- Every call takes as long as it may, and neither delivery comes through. -/
def calls (now : ℕ) : List (Stamped CoverageCall CoverageReply) :=
  [⟨.nowMs, .time (some now), now, now⟩,
    ⟨.nowMs, .time (some now), now, now⟩,
    ⟨.sample networkProberUrl probing.authorization.challenge now, .sampled output,
      now, now + 34000⟩,
    ⟨.signEd25519 result.message, .signature (some ""), now + 34000, now + 34000⟩,
    ⟨.nowMs, .time (some (now + 34000)), now + 34000, now + 34000⟩,
    ⟨.deliver probing.submitUrl (result.body ""), .flag false, now + 34000, now + 39000⟩,
    ⟨.nowMs, .time (some (now + 39000)), now + 39000, now + 39000⟩,
    ⟨.deliver probing.submitUrl (result.body ""), .flag false, now + 39000, now + 44000⟩]

theorem size_body : (result.body "").utf8ByteSize ≤ maxSubmissionBytes := by
  rw [CoverageResultV1.body, size_canonicalJsonBytes]
  exact (Json.size_le_sizeBound _).trans (by decide +kernel)

variable {now : ℕ}

theorem validAt_probing (h : now < 100000) :
    probing.authorization.validAt now = true := by
  have hissued : decide (probing.authorization.issuedAtMs
      ≤ saturatingAdd now authorizationFutureToleranceMs) = true := decide_eq_true (Nat.zero_le _)
  have hexpires : decide (now < probing.authorization.expiresAtMs) = true := decide_eq_true h
  rw [CoverageFactAuthorization.validAt, hissued, hexpires]
  rfl

theorem yields_deliver (h : now + 39000 < 100000) :
    Yields (deliverTimes probing (result.body "") 2)
      (((calls now).drop 4).map Stamped.event) .deliveryFailed := by
  have hfirst : ¬ now + 34000 ≥ probing.authorization.expiresAtMs := by
    show ¬ now + 34000 ≥ 100000
    omega
  have hsecond : ¬ now + 39000 ≥ probing.authorization.expiresAtMs := by
    show ¬ now + 39000 ≥ 100000
    omega
  refine yields_perform_bind.mpr ⟨_, _, rfl, ?_⟩
  dsimp only [CoverageReply.now]
  rw [if_neg hfirst]
  refine .call ?_
  refine yields_perform_bind.mpr ⟨_, _, rfl, ?_⟩
  dsimp only [CoverageReply.now]
  rw [if_neg hsecond]
  exact yields_perform_bind.mpr ⟨_, _, rfl, yields_pure.mpr ⟨rfl, rfl⟩⟩

theorem yields_submit (h : now + 39000 < 100000) :
    Yields (submit probing result) (((calls now).drop 3).map Stamped.event) .deliveryFailed := by
  refine yields_perform_bind.mpr ⟨_, _, rfl, ?_⟩
  dsimp only [CoverageReply.signed]
  rw [if_neg (Nat.not_lt.mpr size_body)]
  exact yields_deliver h

theorem yields_probing (h : now + 39000 < 100000) (hreserve : now + 40000 ≤ 100000) :
    Yields (runCoverageProducer zeroHash true dormantHelper probing ⟨10, 20⟩)
      ((calls now).map Stamped.event) .deliveryFailed := by
  have hnow : now < 100000 := by omega
  have henough : ¬ probing.authorization.expiresAtMs - now < existingDeliveryReserveMs := by
    show ¬ 100000 - now < 40000
    omega
  have hassemble : assemble zeroHash probing.authorization ⟨10, 20⟩ none (some output)
      = .ok result := rfl
  have hsample : Yields (sampleNetwork true probing.authorization)
      ((((calls now).drop 1).take 2).map Stamped.event) (some output) := by
    refine yields_perform_bind.mpr ⟨_, _, rfl, ?_⟩
    dsimp only [CoverageReply.now]
    rw [if_neg henough]
    exact yields_perform_bind.mpr ⟨_, _, rfl, yields_pure.mpr ⟨rfl, rfl⟩⟩
  have hmeasure : Yields (measureAndSubmit zeroHash true probing ⟨10, 20⟩)
      (((calls now).drop 1).map Stamped.event) .deliveryFailed := by
    refine yields_bind.mpr ⟨[], _, .ok none, rfl, yields_pure.mpr ⟨rfl, rfl⟩, ?_⟩
    refine yields_bind.mpr ⟨_, _, some output, rfl, hsample, ?_⟩
    rw [hassemble]
    exact yields_submit h
  refine yields_perform_bind.mpr ⟨_, _, rfl, ?_⟩
  dsimp only [CoverageReply.now]
  rw [validAt_probing hnow]
  exact hmeasure

theorem lasts_calls (now : ℕ) : Lasts (· = ·) CoverageBudgets now (calls now) (now + 44000) := by
  have hclock : ∀ time : ℕ, CoverageBudgets ⟨.nowMs, .time (some time), time, time⟩ :=
    fun time => ⟨rfl, fun _ h => (Option.some.inj h).symm⟩
  refine ⟨rfl, le_refl _, hclock _, rfl, le_refl _, hclock _, ?_⟩
  refine ⟨rfl, Nat.le_add_right _ _, le_refl _, rfl, le_refl _, rfl, ?_⟩
  refine ⟨rfl, le_refl _, hclock _, rfl, by dsimp only; omega, ?_, ?_⟩
  · show now + 39000 ≤ now + 34000 + 5000
    omega
  refine ⟨rfl, le_refl _, hclock _, rfl, by dsimp only; omega, ?_, rfl⟩
  show now + 44000 ≤ now + 39000 + 5000
  omega

/-- With forty seconds left and no more than forty-four, the second delivery is
over too late. -/
theorem not_leaves {left : ℕ} (hfrom : 40000 ≤ left) (hto : left ≤ 44000) :
    ¬ Leaves probing left (calls (100000 - left)) .deliveryFailed := by
  intro h
  have hsampled : SampledWith probing left (calls (100000 - left)) := by
    refine ⟨_, List.mem_cons_of_mem _ (List.mem_cons_of_mem _ List.mem_cons_self), rfl, ?_⟩
    show 100000 - (100000 - left) = left
    omega
  have hlast : (100000 - left) + 44000 < 100000 :=
    (h hsampled).1 _ (List.getLast_mem (List.cons_ne_nil _ _)) rfl
  omega

end CoverageTimeSample

/-! ## How much time is enough -/

/-- **A sample leaves room for both deliveries if and only if more than
forty-four seconds are left when it is taken** – or fewer than forty, for then
it is not taken. -/
theorem sample_leaves_room_iff (left : ℕ) :
    (∀ (sha256 : List UInt8 → Digest) (hasSampler : Bool) (helper : TraversalHelperIdentity)
      (coverage : CoverageAuthorization) (observation : CoverageContactObservation)
      (now stop : ℕ) (t : List (Stamped CoverageCall CoverageReply))
      (outcome : CoverageProducerOutcome),
      Yields (runCoverageProducer sha256 hasSampler helper coverage observation)
        (t.map Stamped.event) outcome →
      Lasts (· = ·) CoverageBudgets now t stop →
      SampledWith coverage left t → RoomForBoth coverage t outcome)
    ↔ left < existingDeliveryReserveMs ∨ sampleAndDeliveriesMs < left := by
  constructor
  · intro h
    by_contra hnot
    rw [not_or, Nat.not_lt, Nat.not_lt] at hnot
    have hfrom : 40000 ≤ left := hnot.1
    have hto : left ≤ 44000 := hnot.2
    exact CoverageTimeSample.not_leaves hfrom hto
      (h _ _ _ _ _ _ _ _ _ (CoverageTimeSample.yields_probing (by omega) (by omega))
        (CoverageTimeSample.lasts_calls _))
  · intro hleft sha256 hasSampler helper coverage observation now stop t outcome hyields hlasts
    exact times_runCoverageProducer hleft t outcome stop hyields hlasts

open CoverageSample CoverageTimeSample in
/-- **With forty seconds left a sample is taken, and the second delivery, in its
own limit like everything else, ends four seconds after the authorization.** -/
theorem sample_without_room :
    ∃ (now stop : ℕ) (t : List (Stamped CoverageCall CoverageReply))
      (outcome : CoverageProducerOutcome),
      Yields (runCoverageProducer zeroHash true dormantHelper probing ⟨10, 20⟩)
          (t.map Stamped.event) outcome
        ∧ Lasts (· = ·) CoverageBudgets now t stop
        ∧ SampledWith probing 40000 t ∧ ¬ RoomForBoth probing t outcome
        ∧ probing.authorization.expiresAtMs + 4000 = stop := by
  have hsampled : SampledWith probing 40000 (calls (100000 - 40000)) :=
    ⟨_, List.mem_cons_of_mem _ (List.mem_cons_of_mem _ List.mem_cons_self), rfl, rfl⟩
  have hleaves := not_leaves (le_refl 40000) (show 40000 ≤ 44000 by decide)
  exact ⟨_, _, _, _, yields_probing (by decide) (by decide), lasts_calls _, hsampled,
    fun hroom => hleaves fun _ => hroom, rfl⟩
