import RuntimeCargo.LifecycleAccounting

/-!
# Two halves of a pair

A pair experiment is run by two helpers, and each reports its own half: a
transcript under its own descriptor. `validate_pair_transcripts` joins the
halves, after the two runtime signatures were verified one by one, and what it
accepts is meant as corroboration: *one helper cannot turn its signature into
peer corroboration*.

What the joining compares is read off the code here. The two descriptors are
one descriptor but for role and claim authority (`counterpart_of_pair`), each
transcript lies in the scope of its own (`scope_of_validateScope`), the
challenges cross. The slots of the pair are compared too, by launch instance
and by claim authority – but not by **runtime signer**, the key under which a
half is signed: `corroborates_iff_signers` says that an accepted pair is
corroborated exactly when its descriptor happens to name two keys, and
`one_signer_corroborates_itself` has a pair that is accepted with one.
-/

/-! ## The joining -/

/-- The descriptor of the other half: the same frozen experiment, with the
other's role and claim authority. -/
def TraversalDescriptorV1.counterpart (first second : TraversalDescriptorV1) :
    TraversalDescriptorV1 :=
  { first with
    participantRole := second.participantRole
    claimAuthorityDigest := second.claimAuthorityDigest }

/-- `validate_traversal_pair`. -/
def validateTraversalPair (first second : TraversalDescriptorV1) :
    Except TraversalRefusal Unit := do
  first.validate
  second.validate
  require (¬(first.mode ≠ .pair ∨ first.participantRole ≠ some .first
    ∨ second.participantRole ≠ some .second)) .invalidPair
  require (first.counterpart second = second) .invalidPair

/-- `validate_pair_transcripts`. -/
def validatePairTranscripts (sha256 : List UInt8 → Digest)
    (firstDescriptor secondDescriptor : TraversalDescriptorV1)
    (first second : TraversalTranscriptV1) (nowMs : ℕ) : Except TraversalRefusal Unit := do
  validateTraversalPair firstDescriptor secondDescriptor
  first.validateScope sha256 firstDescriptor nowMs
  second.validateScope sha256 secondDescriptor nowMs
  require (¬(first.authority ≠ .helperObservedPeer ∨ second.authority ≠ .helperObservedPeer
    ∨ first.stage ≠ second.stage ∨ first.transport ≠ second.transport
    ∨ first.family ≠ second.family ∨ first.outcome ≠ .succeeded ∨ second.outcome ≠ .succeeded
    ∨ first.peerChallenge ≠ some second.challenge
    ∨ second.peerChallenge ≠ some first.challenge)) .invalidProof

/-! ## What it is for -/

/-- A transcript in the scope of a descriptor, for the given role: it carries
the digest of this descriptor, and its run, pair, role and end. -/
structure TraversalTranscriptV1.BelongsTo (sha256 : List UInt8 → Digest)
    (t : TraversalTranscriptV1) (d : TraversalDescriptorV1) (role : TraversalParticipantRole) :
    Prop where
  digest : d.bindingDigest sha256 = .ok t.descriptorDigest
  run : t.runId = d.runId
  ends : t.expiresAtMs = d.expiresAtMs
  role : t.participantRole = some role ∧ d.participantRole = some role
  pair : t.pairId = d.pair.map TraversalPair.pairId

/-- The slots of a pair are those of two helpers. -/
structure TraversalPair.Apart (p : TraversalPair) : Prop where
  launches : p.first.launchInstanceDigest ≠ p.second.launchInstanceDigest
  authorities : p.first.claimAuthorityDigest ≠ p.second.claimAuthorityDigest
  signers : p.first.runtimeSigner ≠ p.second.runtimeSigner

/-- **Corroboration**: two halves of one experiment, each under its own
descriptor, that name each other and come from two helpers. -/
structure Corroborates (sha256 : List UInt8 → Digest) (d₁ d₂ : TraversalDescriptorV1)
    (t₁ t₂ : TraversalTranscriptV1) : Prop where
  experiment : d₁.counterpart d₂ = d₂
  first : t₁.BelongsTo sha256 d₁ .first
  second : t₂.BelongsTo sha256 d₂ .second
  crossed : t₁.peerChallenge = some t₂.challenge ∧ t₂.peerChallenge = some t₁.challenge
  phase : t₁.stage = t₂.stage ∧ t₁.transport = t₂.transport ∧ t₁.family = t₂.family
  slots : ∃ p, d₁.pair = some p ∧ d₂.pair = some p
    ∧ p.first.claimAuthorityDigest = d₁.claimAuthorityDigest
    ∧ p.second.claimAuthorityDigest = d₂.claimAuthorityDigest ∧ p.Apart

/-! ## What the parts say -/

theorem counterpart_of_pair {d₁ d₂ : TraversalDescriptorV1}
    (h : validateTraversalPair d₁ d₂ = .ok ()) :
    d₁.validate = .ok () ∧ d₂.validate = .ok () ∧ d₁.mode = .pair
      ∧ d₁.participantRole = some .first ∧ d₂.participantRole = some .second
      ∧ d₁.counterpart d₂ = d₂ := by
  obtain ⟨⟨⟩, h₁, h⟩ := Except.bind_eq_ok.mp h
  obtain ⟨⟨⟩, h₂, h⟩ := Except.bind_eq_ok.mp h
  obtain ⟨hroles, h⟩ := require_bind_eq_ok.mp h
  obtain ⟨hmode, hfirst, hsecond⟩ :
      d₁.mode = .pair ∧ d₁.participantRole = some .first ∧ d₂.participantRole = some .second := by
    simpa using hroles
  exact ⟨h₁, h₂, hmode, hfirst, hsecond, require_eq_ok.mp h⟩

theorem scope_of_validateScope {sha256 : List UInt8 → Digest} {t : TraversalTranscriptV1}
    {d : TraversalDescriptorV1} {role : TraversalParticipantRole} {nowMs : ℕ}
    (hrole : d.participantRole = some role) (h : t.validateScope sha256 d nowMs = .ok ()) :
    t.BelongsTo sha256 d role := by
  obtain ⟨-, -, h⟩ := Except.bind_eq_ok.mp h
  obtain ⟨-, -, h⟩ := Except.bind_eq_ok.mp h
  obtain ⟨binding, hbinding, h⟩ := Except.bind_eq_ok.mp h
  obtain ⟨⟨rfl, hrun, hends, htrole, hpair⟩, -⟩ := require_bind_eq_ok.mp h
  exact ⟨hbinding, hrun, hends, ⟨htrole.trans hrole, hrole⟩, hpair⟩

/-- What `validate` says of the slots: launch instance and claim authority are
compared, and the descriptor's own authority is that of its role's slot. -/
theorem slots_of_validate {d : TraversalDescriptorV1} {role : TraversalParticipantRole}
    (hmode : d.mode = .pair) (hrole : d.participantRole = some role)
    (h : d.validate = .ok ()) :
    ∃ p, d.pair = some p
      ∧ p.first.launchInstanceDigest ≠ p.second.launchInstanceDigest
      ∧ p.first.claimAuthorityDigest ≠ p.second.claimAuthorityDigest
      ∧ (if role = .first then p.first else p.second).claimAuthorityDigest
          = d.claimAuthorityDigest := by
  obtain ⟨-, h⟩ := require_bind_eq_ok.mp h
  obtain ⟨-, h⟩ := require_bind_eq_ok.mp h
  obtain ⟨-, -, h⟩ := Except.bind_eq_ok.mp h
  obtain ⟨-, h⟩ := require_bind_eq_ok.mp h
  obtain ⟨-, h⟩ := require_bind_eq_ok.mp h
  obtain ⟨-, h⟩ := require_bind_eq_ok.mp h
  obtain ⟨-, -, h⟩ := Except.bind_eq_ok.mp h
  obtain ⟨⟨⟩, hslots, -⟩ := Except.bind_eq_ok.mp h
  cases hpair : d.pair with
  | none => simp [TraversalDescriptorV1.checkPair, hmode, hpair] at hslots
  | some p =>
    simp only [TraversalDescriptorV1.checkPair, hmode, hpair, hrole, require_eq_ok] at hslots
    simp only [not_or, not_not] at hslots
    obtain ⟨-, -, hfirst, hsecond, hlaunch, hauthority, -, hown⟩ := hslots
    refine ⟨p, rfl, hlaunch, hauthority, ?_⟩
    cases role with
    | first => simpa [hfirst] using hown
    | second => simpa [hfirst, hsecond] using hown

/-! ## The halves of an accepted pair -/

/-- **An accepted pair is corroborated exactly when its slots name two runtime
signers.** Everything else that makes two helpers of the halves is compared. -/
theorem corroborates_iff_signers (sha256 : List UInt8 → Digest)
    (d₁ d₂ : TraversalDescriptorV1) (t₁ t₂ : TraversalTranscriptV1) (nowMs : ℕ)
    (h : validatePairTranscripts sha256 d₁ d₂ t₁ t₂ nowMs = .ok ()) :
    Corroborates sha256 d₁ d₂ t₁ t₂
      ↔ ∀ p ∈ d₁.pair, p.first.runtimeSigner ≠ p.second.runtimeSigner := by
  obtain ⟨⟨⟩, hpair, h⟩ := Except.bind_eq_ok.mp h
  obtain ⟨⟨⟩, hscope₁, h⟩ := Except.bind_eq_ok.mp h
  obtain ⟨⟨⟩, hscope₂, h⟩ := Except.bind_eq_ok.mp h
  have hfields := require_eq_ok.mp h
  simp only [not_or, not_not] at hfields
  obtain ⟨-, -, hstage, htransport, hfamily, -, -, hcross₁, hcross₂⟩ := hfields
  obtain ⟨hvalid₁, hvalid₂, hmode, hfirst, hsecond, hcounterpart⟩ := counterpart_of_pair hpair
  -- mode and pair of the second descriptor are those of the first
  have hmode₂ : d₂.mode = .pair := by rw [← hcounterpart]; exact hmode
  have hpairs : d₂.pair = d₁.pair := by rw [← hcounterpart]; rfl
  obtain ⟨p, hp, hlaunch, hauthority, hown₁⟩ := slots_of_validate hmode hfirst hvalid₁
  obtain ⟨q, hq, -, -, hown₂⟩ := slots_of_validate hmode₂ hsecond hvalid₂
  obtain rfl : p = q := Option.some.inj (hp.symm.trans (hpairs.symm.trans hq))
  constructor
  · intro hcorroborates r hr
    obtain ⟨r', hr', -, -, -, hapart⟩ := hcorroborates.slots
    obtain rfl : r = r' := Option.some.inj (hr.symm.trans hr')
    exact hapart.signers
  · intro hsigners
    exact
      { experiment := hcounterpart
        first := scope_of_validateScope hfirst hscope₁
        second := scope_of_validateScope hsecond hscope₂
        crossed := ⟨hcross₁, hcross₂⟩
        phase := ⟨hstage, htransport, hfamily⟩
        slots := ⟨p, hp, hq, hown₁, hown₂, hlaunch, hauthority, hsigners p hp⟩ }

namespace PairSample

/-- A digest by one of its bytes. -/
def digest (b : UInt8) : String := "sha256:" ++ hexEncode (List.replicate 32 b)

/-- A hash with one value, the same for both descriptors. -/
def sha256 : List UInt8 → Digest := fun _ => ⟨Array.replicate 32 9, rfl⟩

/-- A pair, its slots under the same key or not. -/
def pair (same : Bool) : TraversalPair where
  pairId := hexEncode (List.replicate 16 2)
  expiresAtMs := 100000
  first := ⟨.first, digest 3, digest 4, "0x" ++ hexEncode (List.replicate 32 5)⟩
  second := ⟨.second, digest 6, digest 7,
    "0x" ++ hexEncode (List.replicate 32 (if same then 5 else 12))⟩

/-- The descriptor of a role. -/
def descriptor (same : Bool) (role : TraversalParticipantRole) : TraversalDescriptorV1 :=
  { LifecycleSample.descriptor with
    mode := .pair
    claimAuthorityDigest := if role = .first then digest 4 else digest 7
    operations := [.registerEndpoint, .pairDirectUdp]
    budgets := ⟨20000, 4000, 10, 100, 12, 4, 0, 0, 0, 0⟩
    mapping := none
    pair := some (pair same)
    participantRole := some role }

/-- What the helper of a role reports: the peer's challenge came back. -/
def transcript (role : TraversalParticipantRole) : TraversalTranscriptV1 :=
  { LifecycleSample.transcript with
    domain := "proof.liskov.network-traversal-helper-direct.v1"
    descriptorDigest := digest 9
    pairId := some (hexEncode (List.replicate 16 2))
    participantRole := some role
    authority := .helperObservedPeer
    stage := .direct
    method := .pair
    challenge := hexEncode (List.replicate 32 (if role = .first then 10 else 11))
    peerChallenge := some (hexEncode (List.replicate 32 (if role = .first then 11 else 10)))
    outcome := .succeeded
    errorClass := none }

/-- The joining of the two halves, under one key or two. -/
def join (same : Bool) : Except TraversalRefusal Unit :=
  validatePairTranscripts sha256 (descriptor same .first) (descriptor same .second)
    (transcript .first) (transcript .second) 1000

theorem isSha256Text_digest (b : UInt8) : isSha256Text (digest b) = true :=
  isSha256Text_hexEncode ⟨Array.replicate 32 b, rfl⟩

theorem checkParticipant_slot (role : TraversalParticipantRole) (a b key : UInt8) :
    TraversalDescriptorV1.checkParticipant
      ⟨role, digest a, digest b, "0x" ++ hexEncode (List.replicate 32 key)⟩ = true := by
  have hhex := isLowerHex_hexEncode (List.replicate 32 key)
  rw [List.length_replicate] at hhex
  rw [TraversalDescriptorV1.checkParticipant, isSha256Text_digest, isSha256Text_digest,
    stripStart_append, Option.any_some, hhex]
  rfl

theorem descriptor_valid (same : Bool) (role : TraversalParticipantRole) :
    (descriptor same role).validate = .ok () := by
  have hsize : (descriptor same role).toJson.sizeBound ≤ traversalBlockMaxBytes := by
    cases same <;> cases role <;> decide +kernel
  rw [TraversalDescriptorV1.validate, bounded_of_sizeBound hsize]
  simp only [TraversalDescriptorV1.checkPair, descriptor, pair, LifecycleSample.descriptor,
    LifecycleSample.digest, List.all_cons, List.any_cons, isSha256Text_hexEncode,
    checkParticipant_slot]
  cases same <;> cases role <;> decide +kernel

theorem transcript_valid (role : TraversalParticipantRole) :
    (transcript role).validate = .ok () := by
  have hsize : (transcript role).toJson.sizeBound ≤ traversalBlockMaxBytes := by
    cases role <;> decide +kernel
  rw [TraversalTranscriptV1.validate, bounded_of_sizeBound hsize]
  simp only [transcript, isSha256Text_digest]
  cases role <;> decide +kernel

/-- The joining accepts, whether or not the keys are the same. -/
theorem join_eq_ok (same : Bool) : join same = .ok () := by
  simp only [join, validatePairTranscripts, validateTraversalPair,
    TraversalTranscriptV1.validateScope, TraversalDescriptorV1.validateAt,
    TraversalDescriptorV1.bindingDigest, descriptor_valid, transcript_valid]
  cases same <;> decide +kernel

end PairSample

open PairSample in
/-- **One key signs both halves, and they are accepted.** -/
theorem one_signer_corroborates_itself :
    join true = .ok () ∧ (pair true).first.runtimeSigner = (pair true).second.runtimeSigner
      ∧ ¬ Corroborates sha256 (descriptor true .first) (descriptor true .second)
          (transcript .first) (transcript .second) := by
  refine ⟨join_eq_ok true, rfl, fun h => ?_⟩
  obtain ⟨p, hp, -, -, -, hapart⟩ := h.slots
  obtain rfl : pair true = p := Option.some.inj hp
  exact hapart.signers rfl

open PairSample in
theorem two_signers_corroborate :
    join false = .ok () ∧ Corroborates sha256 (descriptor false .first)
      (descriptor false .second) (transcript .first) (transcript .second) := by
  refine ⟨join_eq_ok false,
    (corroborates_iff_signers _ _ _ _ _ _ (join_eq_ok false)).mpr fun p hp => ?_⟩
  obtain rfl : pair false = p := Option.some.inj hp
  decide +kernel
