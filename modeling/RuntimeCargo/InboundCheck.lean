import RuntimeCargo.NetworkSample
import RuntimeCargo.Trace

/-!
# Asking to be dialled

To learn whether it can be reached the device opens a port and asks a prober
to dial it, once over each family of addresses it has a way out by. The
prober answers each request with a verdict, and the verdicts are put into one
block. This is the model of `inbound_check` of `network_sample/transport.rs`.

A verdict says itself which family it is about and which challenge it was
made for, and the block says no more. What is in it can be trusted to be an
answer to what was asked only if each answer is about the family it was asked
over and about the challenge that was sent, and neither is looked at: the
filter that is there for it compares the region, which `validate` has done.
So the block is faithful exactly if the prober is (`faithful_iff_honest`).
-/

open Program

/-! ## The model -/

/-- What comes back of a request, if anything: the status and the chunks of
the body, of which one may fail. -/
structure ProberResponse where
  status : ℕ
  chunks : List (Option (List UInt8))
deriving DecidableEq

/-- `status_error`. -/
def statusError (status : ℕ) : NetworkError :=
  if status = 404 then .tokenRefused else if status = 429 then .rateLimited else .httpStatus

/-- The chunks of a body, up to a limit. -/
def gatherChunks (bytes : List UInt8) :
    List (Option (List UInt8)) → Except NetworkError (List UInt8)
  | [] => .ok bytes
  | none :: _ => .error .invalidResponse
  | some chunk :: rest =>
    if bytes.length + chunk.length > 4096 then .error .invalidResponse
    else gatherChunks (bytes ++ chunk) rest

/-- `bounded_json`. -/
def boundedJson (response : ProberResponse) : Except NetworkError (List UInt8) :=
  if 200 ≤ response.status ∧ response.status < 300 then gatherChunks [] response.chunks
  else .error (statusError response.status)

/-- What the check asks for. -/
inductive InboundCall where
  /-- `bind_listeners`. -/
  | bindListeners
  /-- `POST /v1/inbound-check`, over one family. -/
  | request (family : InboundFamily) (challenge : String) (port : ℕ)
  /-- The time since the start. -/
  | elapsedMs
deriving DecidableEq

/-- What it is told. -/
inductive InboundReply where
  | port (port : Option ℕ)
  | response (response : Option ProberResponse)
  | time (ms : ℕ)
deriving DecidableEq

namespace InboundReply

def bound : InboundReply → Option ℕ
  | port p => p
  | _ => none

def received : InboundReply → Option ProberResponse
  | response r => r
  | _ => none

def elapsed : InboundReply → ℕ
  | time ms => ms
  | _ => 0

end InboundReply

section Check

variable (fromSlice : List UInt8 → Option InboundFamilyVerdict) (challenge : String)

/-- The verdict of a response, if it is one. -/
def verdictOf (response : Option ProberResponse) : Option InboundFamilyVerdict := do
  let bytes ← (boundedJson (← response)).toOption
  let verdict ← fromSlice bytes
  if verdict.isValid then some verdict else none

/-- The requests are made at once; the verdicts are in the order of the
families. -/
def askAll (port : ℕ) :
    List InboundFamily → Program InboundCall InboundReply (List (Option InboundFamilyVerdict))
  | [] => return []
  | family :: rest => do
    let response := (← perform (.request family challenge port)).received
    return verdictOf fromSlice response :: (← askAll port rest)

/-- The families there is a client for. -/
def usableFamilies (c4 c6 : Bool) : List InboundFamily :=
  (if c4 then [.v4] else []) ++ (if c6 then [.v6] else [])

/-- The verdicts that are carried, by their region. -/
def carried (verdicts : List (Option InboundFamilyVerdict)) : List InboundFamilyVerdict :=
  verdicts.reduceOption.filter fun v => v.region = "lhr"

/-- The block, unless it is not usable. -/
def blockOf (startedAtMs elapsedMs : ℕ) (verdicts : List (Option InboundFamilyVerdict)) :
    Option InboundReachabilityV1 :=
  let block : InboundReachabilityV1 :=
    ⟨1, startedAtMs, min elapsedMs inboundBudgetMs, carried verdicts⟩
  if block.isValid then some block else none

/-- **`inbound_check`.** -/
def inboundCheck (c4 c6 : Bool) (startedAtMs : ℕ) :
    Program InboundCall InboundReply (Option InboundReachabilityV1) := do
  if (usableFamilies c4 c6).isEmpty then return none
  else
    match (← perform .bindListeners).bound with
    | none => return none
    | some port =>
      let verdicts ← askAll fromSlice challenge port (usableFamilies c4 c6)
      let elapsed := (← perform .elapsedMs).elapsed
      return blockOf startedAtMs elapsed verdicts

end Check

/-! ## What a run is -/

/-- A call of the check and its reply. -/
abbrev InboundEvent := InboundCall × InboundReply

section Runs

variable {fromSlice : List UInt8 → Option InboundFamilyVerdict} {challenge : String}

theorem isValid_of_verdictOf {response : Option ProberResponse} {v : InboundFamilyVerdict}
    (h : verdictOf fromSlice response = some v) : v.isValid = true := by
  obtain ⟨r, -, h⟩ := Option.bind_eq_some_iff.mp h
  obtain ⟨bytes, -, h⟩ := Option.bind_eq_some_iff.mp h
  obtain ⟨verdict, -, h⟩ := Option.bind_eq_some_iff.mp h
  split at h
  · cases h
    assumption
  · cases h

theorem region_of_isValid {v : InboundFamilyVerdict} (h : v.isValid = true) : v.region = "lhr" := by
  simp only [InboundFamilyVerdict.isValid, Bool.and_eq_true, decide_eq_true_eq] at h
  exact h.1.1.1.1.1.1.1.2

variable {verdicts : List (Option InboundFamilyVerdict)} {t : List InboundEvent}
  {families : List InboundFamily} {block : InboundReachabilityV1}

/-- **The filter lets every verdict through.** -/
theorem carried_eq (h : ∀ v, some v ∈ verdicts → v.isValid = true) :
    carried verdicts = verdicts.reduceOption := by
  refine List.filter_eq_self.mpr fun v hv => ?_
  exact decide_eq_true (region_of_isValid (h v (List.reduceOption_mem_iff.mp hv)))

/-- Each family was asked over once, and its verdict is that of the reply. -/
theorem yields_askAll {port : ℕ}
    (h : Yields (askAll fromSlice challenge port families) t verdicts) :
    ∀ f verdict, (f, verdict) ∈ families.zip verdicts
      ↔ ∃ p r, (.request f challenge p, r) ∈ t ∧ verdictOf fromSlice r.received = verdict := by
  induction families generalizing t verdicts with
  | nil =>
    obtain ⟨rfl, rfl⟩ := yields_pure.mp h
    intro f verdict
    constructor
    · exact fun hmem => absurd hmem List.not_mem_nil
    · rintro ⟨p, r, hmem, -⟩
      cases hmem
  | cons family rest ih =>
    obtain ⟨reply, u, rfl, hrest⟩ := yields_perform_bind.mp h
    obtain ⟨others, hothers, rfl⟩ := yields_bind_pure.mp hrest
    intro f verdict
    rw [List.zip_cons_cons, List.mem_cons, ih hothers f verdict]
    constructor
    · rintro (heq | ⟨p, r, hmem, hr⟩)
      · cases heq
        exact ⟨port, reply, List.mem_cons_self, rfl⟩
      · exact ⟨p, r, List.mem_cons_of_mem _ hmem, hr⟩
    · rintro ⟨p, r, hmem, hr⟩
      rcases List.mem_cons.mp hmem with heq | hmem
      · obtain ⟨hcall, rfl⟩ := Prod.mk.inj heq
        obtain ⟨rfl, -, -⟩ := InboundCall.request.inj hcall
        exact .inl (congrArg (f, ·) hr.symm)
      · exact .inr ⟨p, r, hmem, hr⟩

theorem length_of_askAll {port : ℕ}
    (h : Yields (askAll fromSlice challenge port families) t verdicts) :
    verdicts.length = families.length := by
  induction families generalizing t verdicts with
  | nil =>
    obtain ⟨rfl, rfl⟩ := yields_pure.mp h
    rfl
  | cons family rest ih =>
    obtain ⟨reply, u, rfl, hrest⟩ := yields_perform_bind.mp h
    obtain ⟨others, hothers, rfl⟩ := yields_bind_pure.mp hrest
    exact congrArg (· + 1) (ih hothers)

/-- **An answer over a family**: the reply to the request made over it has
that verdict. -/
def AnsweredOver (fromSlice : List UInt8 → Option InboundFamilyVerdict) (challenge : String)
    (t : List InboundEvent) (f : InboundFamily) (v : InboundFamilyVerdict) : Prop :=
  ∃ port r, (.request f challenge port, r) ∈ t ∧ verdictOf fromSlice r.received = some v

/-- What a run that gives a block is made of. -/
theorem yields_inboundCheck {c4 c6 : Bool} {startedAtMs : ℕ}
    (h : Yields (inboundCheck fromSlice challenge c4 c6 startedAtMs) t (some block)) :
    ∃ families verdicts, block.isValid = true ∧ block.families = carried verdicts
      ∧ verdicts.length = List.length families
      ∧ ∀ f v, (f, some v) ∈ families.zip verdicts ↔ AnsweredOver fromSlice challenge t f v := by
  unfold inboundCheck at h
  split at h
  · cases (yields_pure.mp h).2
  obtain ⟨bound, u, rfl, hbind⟩ := yields_perform_bind.mp h
  cases hport : bound.bound with
  | none =>
    rw [hport] at hbind
    cases (yields_pure.mp hbind).2
  | some port =>
    rw [hport] at hbind
    obtain ⟨t₁, t₂, verdicts, rfl, hask, hrest⟩ := yields_bind.mp hbind
    obtain ⟨elapsed, t₃, rfl, hdone⟩ := yields_perform_bind.mp hrest
    obtain ⟨rfl, hblock⟩ := yields_pure.mp hdone
    unfold blockOf at hblock
    dsimp only at hblock
    split at hblock
    case isFalse => cases hblock
    rename_i hvalid
    cases hblock
    refine ⟨usableFamilies c4 c6, verdicts, hvalid, rfl, length_of_askAll hask, fun f v => ?_⟩
    rw [yields_askAll hask]
    constructor
    · rintro ⟨p, r, hmem, hr⟩
      exact ⟨p, r, List.mem_cons_of_mem _ (List.mem_append_left _ hmem), hr⟩
    · rintro ⟨p, r, hmem, hr⟩
      rcases List.mem_cons.mp hmem with heq | hmem
      · cases heq
      rcases List.mem_append.mp hmem with hmem | hmem
      · exact ⟨p, r, hmem, hr⟩
      · exact absurd (Prod.mk.inj (List.mem_singleton.mp hmem)).1 nofun

/-! ## Faithful blocks -/

/-- The digest of the challenge, as a verdict names it. -/
def challengeDigest (sha256 : List UInt8 → Digest) (challenge : String) : String :=
  "sha256:" ++ hexEncode (sha256 (utf8 challenge)).toList

/-- **A block is faithful**: each verdict in it is the answer to the request
over its own family, and names the challenge. -/
def FaithfulBlock (sha256 : List UInt8 → Digest)
    (fromSlice : List UInt8 → Option InboundFamilyVerdict) (challenge : String)
    (t : List InboundEvent) (block : InboundReachabilityV1) : Prop :=
  ∀ v ∈ block.families, AnsweredOver fromSlice challenge t v.family v
    ∧ v.challengeDigest = challengeDigest sha256 challenge

/-- **The prober is honest**: each verdict it answers with is about the family
it was asked over, and about the challenge. -/
def HonestProber (sha256 : List UInt8 → Digest)
    (fromSlice : List UInt8 → Option InboundFamilyVerdict) (challenge : String)
    (t : List InboundEvent) : Prop :=
  ∀ f v, AnsweredOver fromSlice challenge t f v →
    v.family = f ∧ v.challengeDigest = challengeDigest sha256 challenge

/-- A value that is there once is there for one reason. -/
theorem eq_of_mem_zip {α β : Type} {as : List α} {bs : List (Option β)} {a a' : α} {b : β}
    (hnodup : bs.reduceOption.Nodup) (h : (a, some b) ∈ as.zip bs) (h' : (a', some b) ∈ as.zip bs) :
    a = a' := by
  induction as generalizing bs with
  | nil => cases h
  | cons c as ih =>
    cases bs with
    | nil => cases h
    | cons o bs =>
      have hlater {a : α} (hmem : (a, some b) ∈ as.zip bs) : b ∈ bs.reduceOption :=
        List.reduceOption_mem_iff.mpr (List.of_mem_zip hmem).2
      rw [List.zip_cons_cons, List.mem_cons] at h h'
      cases o with
      | none =>
        rw [List.reduceOption_cons_of_none] at hnodup
        exact ih hnodup (h.resolve_left nofun) (h'.resolve_left nofun)
      | some d =>
        rw [List.reduceOption_cons_of_some, List.nodup_cons] at hnodup
        rcases h with h | h
        · rcases h' with h' | h'
          · rw [(Prod.mk.inj h).1, (Prod.mk.inj h').1]
          · exact absurd (Option.some.inj (Prod.mk.inj h).2 ▸ hlater h') hnodup.1
        · rcases h' with h' | h'
          · exact absurd (Option.some.inj (Prod.mk.inj h').2 ▸ hlater h) hnodup.1
          · exact ih hnodup.2 h h'

theorem nodup_of_isValid (h : block.isValid = true) :
    block.families.Nodup := by
  simp only [InboundReachabilityV1.isValid, Bool.and_eq_true, decide_eq_true_eq] at h
  exact List.Nodup.of_map _ h.1.2

theorem exists_mem_zip {α β : Type} {as : List α} {bs : List β} {b : β}
    (hlength : bs.length = as.length) (h : b ∈ bs) : ∃ a, (a, b) ∈ as.zip bs := by
  rw [← List.map_snd_zip hlength.le] at h
  obtain ⟨⟨a, b'⟩, hmem, rfl⟩ := List.mem_map.mp h
  exact ⟨a, hmem⟩

end Runs

section Faithful

variable (sha256 : List UInt8 → Digest) (fromSlice : List UInt8 → Option InboundFamilyVerdict)
  (challenge : String) (c4 c6 : Bool) (startedAtMs : ℕ)

/-- **The block is faithful exactly if the prober is honest.** A verdict
about another family, or about another challenge, is carried like any other;
and where one is about the family of another request it does not get in
twice, so that it is not excused by that. -/
theorem faithful_iff_honest {t : List InboundEvent} {block : InboundReachabilityV1}
    (h : Yields (inboundCheck fromSlice challenge c4 c6 startedAtMs) t (some block)) :
    FaithfulBlock sha256 fromSlice challenge t block
      ↔ HonestProber sha256 fromSlice challenge t := by
  obtain ⟨families, verdicts, hvalid, hcarried, hlength, hanswered⟩ := yields_inboundCheck h
  have hall : ∀ v, some v ∈ verdicts → v.isValid = true := by
    intro v hv
    obtain ⟨f, hmem⟩ := exists_mem_zip hlength hv
    obtain ⟨port, r, -, hr⟩ := (hanswered f v).mp hmem
    exact isValid_of_verdictOf hr
  rw [carried_eq hall] at hcarried
  constructor
  · intro hfaithful f v hv
    have hmem := (hanswered f v).mpr hv
    have hin : v ∈ block.families := by
      rw [hcarried]
      exact List.reduceOption_mem_iff.mpr (List.of_mem_zip hmem).2
    obtain ⟨hown, hdigest⟩ := hfaithful v hin
    have hnodup := nodup_of_isValid hvalid
    rw [hcarried] at hnodup
    exact ⟨eq_of_mem_zip hnodup ((hanswered v.family v).mpr hown) hmem, hdigest⟩
  · intro hhonest v hv
    rw [hcarried] at hv
    obtain ⟨f, hmem⟩ := exists_mem_zip hlength (List.reduceOption_mem_iff.mp hv)
    obtain ⟨hfamily, hdigest⟩ := hhonest f v ((hanswered f v).mp hmem)
    rw [hfamily]
    exact ⟨(hanswered f v).mp hmem, hdigest⟩

end Faithful

/-! ## A prober that is not asked -/

namespace InboundSample

def hexText : String := String.ofList (List.replicate 64 'a')

def challenge : String := "0x" ++ hexText

/-- SHA-256, on that challenge. -/
def sha256 : List UInt8 → Digest := fun _ =>
  #v[0x8d, 0x8b, 0x3c, 0xc1, 0x60, 0xbb, 0x72, 0x8e, 0x13, 0xdb, 0x1c, 0x03, 0x27, 0x41, 0xad, 0x95,
    0x66, 0xb3, 0xaf, 0xfd, 0x16, 0xfc, 0x0c, 0x80, 0x5d, 0x3c, 0xaf, 0x86, 0x36, 0x94, 0x64, 0x3e]

/-- A verdict about the second family, for the challenge. -/
def verdict : InboundFamilyVerdict :=
  ⟨1, challengeDigest sha256 challenge, "lhr", .v6, .connectFailed, 0, hexText, none, hexText⟩

/-- The text of the verdict. -/
def body : List UInt8 := utf8 verdict.toJson.render

/-- The reader of answers, on that text. -/
def fromSlice (bytes : List UInt8) : Option InboundFamilyVerdict :=
  if bytes = body then some verdict else none

def response : ProberResponse := ⟨200, [some body]⟩

theorem verdictOf_response : verdictOf fromSlice (some response) = some verdict := by
  decide +kernel

def block : InboundReachabilityV1 := ⟨1, 0, 0, [verdict]⟩

/-- The request over one family, answered with the verdict. -/
def trace (family : InboundFamily) : List InboundEvent :=
  [(.bindListeners, .port (some 20000)),
    (.request family challenge 20000, .response (some response)), (.elapsedMs, .time 0)]

/-- A run over one family. -/
theorem yields_check (c4 : Bool) : Yields (inboundCheck fromSlice challenge c4 (!c4) 0)
    (trace (if c4 then .v4 else .v6)) (some block) := by
  have hfeed : (inboundCheck fromSlice challenge c4 (!c4) 0).feed
      [.port (some 20000), .response (some response), .time 0]
        = some (trace (if c4 then .v4 else .v6), some block) := by
    revert c4
    decide +kernel
  exact yields_of_feed hfeed

end InboundSample

open InboundSample in
/-- **A verdict on a family that was not asked over is carried**: the only
request goes over the first family, and the block is about the second. -/
theorem unasked_family_carried :
    ∃ t block, Yields (inboundCheck fromSlice challenge true false 0) t (some block)
      ∧ ∃ v ∈ block.families, ∀ port r, (.request v.family challenge port, r) ∉ t := by
  refine ⟨trace .v4, block, yields_check true, verdict, List.mem_cons_self, fun port r hmem => ?_⟩
  rcases List.mem_cons.mp hmem with heq | hmem
  · cases heq
  rcases List.mem_cons.mp hmem with heq | hmem
  · exact absurd (InboundCall.request.inj (Prod.mk.inj heq).1).1 nofun
  · exact absurd (Prod.mk.inj (List.mem_singleton.mp hmem)).1 nofun

open InboundSample in
/-- An honest answer over the second family. -/
theorem answer_over_own_family :
    Yields (inboundCheck fromSlice challenge false true 0) (trace .v6) (some block)
      ∧ FaithfulBlock sha256 fromSlice challenge (trace .v6) block := by
  have hrun : Yields (inboundCheck fromSlice challenge false true 0) (trace .v6) (some block) :=
    yields_check false
  refine ⟨hrun, (faithful_iff_honest sha256 fromSlice challenge false true 0 hrun).mpr ?_⟩
  rintro f v ⟨port, r, hmem, hr⟩
  rcases List.mem_cons.mp hmem with heq | hmem
  · cases heq
  rcases List.mem_cons.mp hmem with heq | hmem
  · obtain ⟨hcall, rfl⟩ := Prod.mk.inj heq
    obtain ⟨rfl, -, -⟩ := InboundCall.request.inj hcall
    obtain rfl := Option.some.inj (verdictOf_response.symm.trans hr)
    exact ⟨rfl, rfl⟩
  · exact absurd (Prod.mk.inj (List.mem_singleton.mp hmem)).1 nofun
