import RuntimeCargo.LogBatch

/-!
# Flushing the pending records

`flush_once` is what the log worker does with its pending records. It
resolves the sink if it has none, builds a batch if none is outstanding
and posts it. A reply is accepted when its status is a success and the
chain it reports, or the chain the worker then asks for, has moved beyond
the last sequence number of the batch; the records of the batch then
leave the pending list. A conflict over the sequence rebases the batch
onto the chain of the reply and posts again, at most three times. After
any other reply the batch stays outstanding and the next flush posts the
same one.

The step talks to the service and reads the clock, and shares nothing
else with the rest of the program, so it is one function of the worker
and of what the world answers (`FlushIo`). It keeps an account of the
batches it posted, each with the pending list it was posted from and the
one it left (`Posted`): the statements about what is sent, lost or sent
twice are about that account.

Acceptance removes records by *number*: the code pops as many as the batch
carried. That they are the ones it carried is the property `Carries`, an
invariant of the worker and not of this function, which keeps it
(`flushOnce_sound`).
-/

/-! ## Replies -/

/-- A reply of the log service, its body as `serde_json` reads it; `none`
is a body that is not JSON. -/
structure LogHttpResponse where
  status : ℕ
  body : Option Json

namespace LogHttpResponse

/-- A status from 200 to 299. -/
def success (response : LogHttpResponse) : Prop :=
  200 ≤ response.status ∧ response.status < 300

instance (response : LogHttpResponse) : Decidable response.success := by
  unfold success
  exact inferInstance

end LogHttpResponse

/-- A text of 66 bytes, `0x` and hexadecimal digits. -/
def isHash (s : String) : Bool :=
  s.utf8ByteSize = 66 && s.toList.take 2 = ['0', 'x'] && (s.toList.drop 2).all isAsciiHexDigit

/-- `parse_chain`: the head of a chain. A chain starts at sequence 1, and
has a previous hash exactly when it has moved beyond it. -/
def parseChain (value : Json) : Option (ℕ × Option String) := do
  let nextSequence ← (value.get "nextSequence").asU64
  if nextSequence = 0 then none
  else
    let previousHash ←
      match value.get? "previousHash" with
      | none => some none
      | some .null => some none
      | some (.str s) =>
        if isHash s then some (some (String.ofList (s.toList.map Char.toLower))) else none
      | some _ => none
    if decide (nextSequence = 1) = previousHash.isNone then some (nextSequence, previousHash)
    else none

/-- `parse_chain_response`. -/
def parseChainResponse (body : Option Json) : Option (ℕ × Option String) :=
  body.bind fun value => parseChain (value.get "chain")

/-- `response_error_code`. -/
def responseErrorCode (body : Option Json) : Option String :=
  body.bind fun value => (value.get "error").asStr

/-- `resume_sink`, given the reply to its request. -/
def resumeSink (sinkId : String) (reply : Option LogHttpResponse) :
    Option (ℕ × Option String) := do
  let response ← reply
  if response.success then
    let parsed ← response.body
    if (parsed.get "sinkId").asStr = some sinkId then parseChain (parsed.get "chain") else none
  else none

/-- `trim_end_matches('/')`. -/
def trimEndSlashes (s : String) : String :=
  String.ofList (s.toList.reverse.dropWhile fun c => c = '/').reverse

/-- `derive_resume_url`. -/
def deriveResumeUrl (writeUrl : String) : Option String :=
  if "/events".toList.isSuffixOf writeUrl.toList then
    some (String.ofList (writeUrl.toList.take (writeUrl.length - 7)) ++ "/resume")
  else none

/-- An optional URL of a reply: an invalid one is an error, an absent one
is not. -/
def optionalUrl (ctx : LogContext) (value : Json) : Option (Option String) :=
  match value.asStr with
  | some text => (ctx.normalizedHttpsUrl text).map some
  | none => some none

/-- `parse_registration`. -/
def parseRegistration (ctx : LogContext) (body : Option Json) (baseUrl jobId : String) :
    Option ResolvedSink := do
  let value ← body
  let sink := (value.get? "sink").getD value
  let sinkId ← (sink.get "sinkId").asStr
  let writeUrl ← optionalUrl ctx (sink.get "writeUrl")
  let writeUrl := writeUrl.getD
    (trimEndSlashes baseUrl ++ "/v1/sinks/" ++ ctx.encodePathSegment sinkId ++ "/events")
  let resumeUrl ← optionalUrl ctx (sink.get "resumeUrl")
  let resumeUrl ← resumeUrl.orElse fun _ => deriveResumeUrl writeUrl
  let chain ← parseChain (value.get "chain")
  some
    { sinkId := sinkId
      jobId := jobId
      writeUrl := writeUrl
      resumeUrl := resumeUrl
      nextSequence := chain.1
      previousHash := chain.2 }

/-- `resolve_sink`, given the reply to its one request: to resume the
configured sink, or to register one. -/
def resolveSink (ctx : LogContext) (reply : Option LogHttpResponse) : Option ResolvedSink :=
  match ctx.mode with
  | .prebound sinkId jobId writeUrl resumeUrl => do
    let chain ← resumeSink sinkId reply
    some
      { sinkId := sinkId
        jobId := jobId
        writeUrl := writeUrl
        resumeUrl := resumeUrl
        nextSequence := chain.1
        previousHash := chain.2 }
  | .factory _ _ baseUrl jobId => do
    let response ← reply
    if response.success then parseRegistration ctx response.body baseUrl jobId else none

/-! ## The flush -/

/-- The state `flush_once` works on. -/
structure LogWorker where
  resolved : Option ResolvedSink
  pendingRecords : List EncryptedRecord
  pendingBatch : Option Batch

/-- What the world answers during one flush. A reply of `none` is a
request that failed before there was a status. -/
structure FlushIo where
  /-- The reply to the request that resolves the sink. -/
  resolve : Option LogHttpResponse
  /-- The reply to each post, counted from zero. -/
  post : ℕ → Option LogHttpResponse
  /-- The reply to the request for the chain after an accepted post. -/
  resume : Option LogHttpResponse
  /-- The readings of the clock, for each build. -/
  clock : ℕ → ℕ → String

/-- **One post.** The batch, the pending list it was posted from, whether
it was accepted and the pending list after that. -/
structure Posted where
  batch : Batch
  pending : List EncryptedRecord
  accepted : Bool
  remaining : List EncryptedRecord

/-- What a flush returns: the worker, whether it is `Ok`, and its posts. -/
structure Flushed where
  worker : LogWorker
  ok : Bool
  posts : List Posted

/-- The chain an accepted reply leads to: the one in its body, or the one
the sink reports when asked. -/
def acceptedChain (io : FlushIo) (resolved : ResolvedSink) (response : LogHttpResponse) :
    Option (ℕ × Option String) :=
  (parseChainResponse response.body).orElse fun _ => resumeSink resolved.sinkId io.resume

/-- `MAX_SEQUENCE_REBASE_ATTEMPTS`. -/
def maxSequenceRebaseAttempts : ℕ := 3

/-- The worker after its batch was accepted. -/
def LogWorker.accept (w : LogWorker) (resolved : ResolvedSink) (batch : Batch)
    (chain : ℕ × Option String) : LogWorker :=
  { resolved := some { resolved with nextSequence := chain.1, previousHash := chain.2 }
    pendingRecords := w.pendingRecords.drop batch.encrypted.length
    pendingBatch := none }

/-- The account of a post that was not accepted. -/
def Posted.refused (batch : Batch) (pending : List EncryptedRecord) : Posted :=
  { batch := batch, pending := pending, accepted := false, remaining := pending }

/-- What the reply to a post means. -/
inductive Outcome where
  /-- The chain has moved beyond the batch. -/
  | accepted (chain : ℕ × Option String)
  /-- The sequence is taken; the chain is here. -/
  | conflict (chain : ℕ × Option String)
  | failed

/-- Reads the reply to a post. -/
def replyOutcome (io : FlushIo) (resolved : ResolvedSink) (batch : Batch) :
    Option LogHttpResponse → Outcome
  | none => .failed
  | some response =>
    if response.success then
      match acceptedChain io resolved response with
      | none => .failed
      | some chain => if chain.1 ≤ batch.sequenceEnd then .failed else .accepted chain
    else if response.status = 409
        ∧ responseErrorCode response.body = some "sequence_conflict" then
      match parseChainResponse response.body with
      | none => .failed
      | some chain => .conflict chain
    else .failed

/-- The loop of `flush_once`, with the number of rebases left. -/
def postLoop (ctx : LogContext) (io : FlushIo) : ℕ → LogWorker → Flushed
  | left, w =>
    match w.pendingBatch, w.resolved with
    | some batch, some resolved =>
      let refused := Posted.refused batch w.pendingRecords
      match replyOutcome io resolved batch (io.post (maxSequenceRebaseAttempts - left)), left with
      | .accepted chain, _ =>
        let w' := w.accept resolved batch chain
        ⟨w', true, [{ refused with accepted := true, remaining := w'.pendingRecords }]⟩
      | .conflict chain, left + 1 =>
        let rebased := { resolved with nextSequence := chain.1, previousHash := chain.2 }
        match buildBatch ctx (some rebased) w.pendingRecords
            (io.clock (maxSequenceRebaseAttempts - left)) with
        -- a rebuild that fails keeps the new chain and the old batch
        | none => ⟨{ w with resolved := some rebased }, false, [refused]⟩
        | some rebuilt =>
          let rest := postLoop ctx io left
            { w with resolved := some rebased, pendingBatch := some rebuilt }
          { rest with posts := refused :: rest.posts }
      | .conflict _, 0 => ⟨w, false, [refused]⟩
      | .failed, _ => ⟨w, false, [refused]⟩
    | _, _ => ⟨w, false, []⟩

/-- The sink a flush uses: the one it has, or the one it resolves. -/
def LogWorker.sink (ctx : LogContext) (io : FlushIo) (w : LogWorker) : Option ResolvedSink :=
  w.resolved.orElse fun _ => resolveSink ctx io.resolve

/-- **`flush_once`.** -/
def flushOnce (ctx : LogContext) (io : FlushIo) (w : LogWorker) : Flushed :=
  match w.pendingBatch with
  | some _ => postLoop ctx io maxSequenceRebaseAttempts w
  | none =>
    if w.pendingRecords = [] then ⟨w, true, []⟩
    else
      match w.sink ctx io with
      | none => ⟨w, false, []⟩
      | some resolved =>
        let w := { w with resolved := some resolved }
        match buildBatch ctx w.resolved w.pendingRecords (io.clock 0) with
        | none => ⟨w, false, []⟩
        | some batch =>
          postLoop ctx io maxSequenceRebaseAttempts { w with pendingBatch := some batch }

/-! ## What a flush does to the pending list -/

/-- **A batch carries the front of the pending list.** The outstanding
batch is a non-empty prefix of the pending records, all of the batch's own
origin, and the sink it goes to is known. -/
def LogWorker.Carries (w : LogWorker) : Prop :=
  ∀ b ∈ w.pendingBatch, b.encrypted ≠ [] ∧ b.encrypted <+: w.pendingRecords
    ∧ (∀ record ∈ b.encrypted, record.origin = b.origin) ∧ w.resolved ≠ none

/-- **An exact post**: the batch is the first entries of the pending list,
and the pending list loses exactly those if the post is accepted and
nothing otherwise. -/
def Posted.Exact (p : Posted) : Prop :=
  p.batch.encrypted = p.pending.take p.batch.encrypted.length
    ∧ p.remaining
      = if p.accepted then p.pending.drop p.batch.encrypted.length else p.pending

/-- The records of the accepted posts, in the order they were posted. -/
def acceptedRecords (posts : List Posted) : List EncryptedRecord :=
  (posts.filter fun p => p.accepted).flatMap fun p => p.batch.encrypted

@[simp] theorem acceptedRecords_nil : acceptedRecords [] = [] := rfl

@[simp] theorem acceptedRecords_append (ps qs : List Posted) :
    acceptedRecords (ps ++ qs) = acceptedRecords ps ++ acceptedRecords qs := by
  simp [acceptedRecords]

@[simp] theorem acceptedRecords_refused (batch : Batch) (pending : List EncryptedRecord)
    (ps : List Posted) :
    acceptedRecords (Posted.refused batch pending :: ps) = acceptedRecords ps := rfl

variable {pending : List EncryptedRecord} {batch : Batch} {w : LogWorker} {ctx : LogContext}
  {io : FlushIo}

/-- A post that is not accepted is exact if its batch is a prefix. -/
theorem Posted.exact_refused (h : batch.encrypted <+: pending) :
    (Posted.refused batch pending).Exact :=
  ⟨List.prefix_iff_eq_take.mp h, rfl⟩

/-- **What a flush guarantees**, over the pending list it started from:
its posts are exact, the batch it leaves outstanding carries the front of
the list, and the records of the list are those it delivered followed by
those it left. -/
structure Flushed.Sound (pending : List EncryptedRecord) (r : Flushed) : Prop where
  exact : ∀ p ∈ r.posts, p.Exact
  carries : r.worker.Carries
  split : acceptedRecords r.posts ++ r.worker.pendingRecords = pending

/-- A worker that changed nothing but its chain is sound after one
refused post. -/
theorem Flushed.sound_refused (hw : w.Carries) (hb : batch.encrypted <+: w.pendingRecords) :
    Flushed.Sound w.pendingRecords
      ⟨w, false, [Posted.refused batch w.pendingRecords]⟩ where
  exact p hp := by
    obtain rfl := List.mem_singleton.mp hp
    exact Posted.exact_refused hb
  carries := hw
  split := rfl

/-- A batch just built carries the front of the pending list. -/
theorem LogWorker.carries_of_buildBatch {resolved : ResolvedSink} {clock : ℕ → String} {b : Batch}
    (h : buildBatch ctx (some resolved) pending clock = some b) :
    LogWorker.Carries ⟨some resolved, pending, some b⟩ := by
  intro b' hb'
  cases hb'
  obtain ⟨hne, hpre, -, -, -⟩ := buildBatch_eq_some h
  exact ⟨hne, hpre.trans (frontRun_prefix_pending _ _),
    fun record hr => origin_of_mem_frontRun (hpre.subset hr), by simp⟩

/-- The chain of the sink plays no part in what a batch carries. -/
theorem LogWorker.Carries.withResolved (hw : w.Carries) (resolved : ResolvedSink) :
    LogWorker.Carries { w with resolved := some resolved } :=
  fun b hb => ⟨(hw b hb).1, (hw b hb).2.1, (hw b hb).2.2.1, by simp⟩

/-- An accepted post is sound: it takes what it carried. -/
theorem Flushed.sound_accepted (hb : batch.encrypted <+: w.pendingRecords)
    (resolved : ResolvedSink) (chain : ℕ × Option String) :
    Flushed.Sound w.pendingRecords
      ⟨w.accept resolved batch chain, true,
        [{ Posted.refused batch w.pendingRecords with
            accepted := true
            remaining := (w.accept resolved batch chain).pendingRecords }]⟩ where
  exact p hp := by
    obtain rfl := List.mem_singleton.mp hp
    exact ⟨List.prefix_iff_eq_take.mp hb, rfl⟩
  carries b hb := absurd hb (by simp [LogWorker.accept])
  split := by
    obtain ⟨rest, hrest⟩ := hb
    simp [acceptedRecords, Posted.refused, LogWorker.accept, ← hrest]

/-- A refused post in front of a sound flush of the same list. -/
theorem Flushed.Sound.cons_refused {r : Flushed} (h : r.Sound pending)
    (hb : batch.encrypted <+: pending) :
    Flushed.Sound pending { r with posts := Posted.refused batch pending :: r.posts } where
  exact p hp := by
    rcases List.mem_cons.mp hp with rfl | hp
    · exact Posted.exact_refused hb
    · exact h.exact p hp
  carries := h.carries
  split := h.split

/-- **The loop is sound.** By induction on the rebases left: a rebased
batch is rebuilt from the same pending list, so the posts before the last
one change nothing. -/
theorem postLoop_sound (ctx : LogContext) (io : FlushIo) (left : ℕ) (hw : w.Carries) :
    (postLoop ctx io left w).Sound w.pendingRecords := by
  induction left using Nat.strong_induction_on generalizing w with
  | h left ih =>
    unfold postLoop
    split
    case h_1 batch resolved hbatch hresolved =>
      have hpre := (hw batch hbatch).2.1
      simp only
      split
      case h_1 => exact Flushed.sound_accepted hpre _ _
      case h_2 chain k hout =>
        split
        · exact Flushed.sound_refused (hw.withResolved _) hpre
        next rebuilt hbuild =>
          exact (ih k (Nat.lt_succ_self k)
            (LogWorker.carries_of_buildBatch hbuild)).cons_refused hpre
      case h_3 => exact Flushed.sound_refused hw hpre
      case h_4 => exact Flushed.sound_refused hw hpre
    case h_2 => exact ⟨by simp, hw, rfl⟩

/-- **Every flush is sound**, from any worker whose outstanding batch
carries the front of its list. -/
theorem flushOnce_sound (ctx : LogContext) (io : FlushIo) (hw : w.Carries) :
    (flushOnce ctx io w).Sound w.pendingRecords := by
  unfold flushOnce
  split
  case h_1 => exact postLoop_sound ctx io _ hw
  case h_2 hnone =>
    split
    · exact ⟨by simp, hw, rfl⟩
    · split
      · exact ⟨by simp, hw, rfl⟩
      · simp only
        split
        · exact ⟨by simp, hw.withResolved _, rfl⟩
        next hbuild =>
          exact postLoop_sound ctx io _ (LogWorker.carries_of_buildBatch hbuild)

/-! ## Flushes that succeed -/

/-- **A post that is accepted ends the loop.** If every post of the loop
is accepted there was one, and the outstanding batch left with its
records. -/
theorem postLoop_of_accepted {left : ℕ} (hbatch : w.pendingBatch = some batch)
    (hresolved : w.resolved ≠ none)
    (hacc : ∀ p ∈ (postLoop ctx io left w).posts, p.accepted = true) :
    (postLoop ctx io left w).ok = true ∧ (postLoop ctx io left w).worker.pendingBatch = none
      ∧ (postLoop ctx io left w).worker.pendingRecords
        = w.pendingRecords.drop batch.encrypted.length := by
  obtain ⟨resolved, hresolved⟩ := Option.ne_none_iff_exists'.mp hresolved
  unfold postLoop at hacc ⊢
  simp only [hbatch, hresolved] at hacc ⊢
  -- in every branch but one the first post of the account is a refused one
  split at hacc
  case h_1 => exact ⟨rfl, rfl, rfl⟩
  case h_2 =>
    split at hacc
    · exact absurd (hacc _ (List.mem_singleton_self _)) (by simp [Posted.refused])
    · exact absurd (hacc _ List.mem_cons_self) (by simp [Posted.refused])
  case h_3 => exact absurd (hacc _ (List.mem_singleton_self _)) (by simp [Posted.refused])
  case h_4 => exact absurd (hacc _ (List.mem_singleton_self _)) (by simp [Posted.refused])

/-- A flush that has to build its batch is a flush of the batch built. -/
theorem flushOnce_build (resolved : ResolvedSink) (batch : Batch) (hnone : w.pendingBatch = none)
    (hne : w.pendingRecords ≠ []) (hsink : w.sink ctx io = some resolved)
    (hbuild : buildBatch ctx (some resolved) w.pendingRecords (io.clock 0) = some batch) :
    flushOnce ctx io w
      = postLoop ctx io maxSequenceRebaseAttempts
          { w with resolved := some resolved, pendingBatch := some batch } := by
  unfold flushOnce
  simp only [hnone, hne, if_false, hsink, hbuild]

/-- The next flush has a batch to post, or can build one: the sink
resolves and the front of the pending list leaves room for the sequence
and the identifier. -/
def LogWorker.Ready (ctx : LogContext) (io : FlushIo) (w : LogWorker) : Prop :=
  w.pendingBatch = none → w.pendingRecords ≠ [] →
    ∃ resolved, w.sink ctx io = some resolved ∧ HasRoom resolved w.pendingRecords
      ∧ FirstFits ctx resolved w.pendingRecords (io.clock 0)
      ∧ GapFree ctx resolved w.pendingRecords (io.clock 0)

/-- Every post of a flush is accepted. -/
def AllAccepted (ctx : LogContext) (io : FlushIo) (w : LogWorker) : Prop :=
  ∀ p ∈ (flushOnce ctx io w).posts, p.accepted = true

/-- With all posts accepted no batch stays outstanding. -/
theorem flushOnce_pendingBatch (hnone : w.pendingBatch = none) (hacc : AllAccepted ctx io w) :
    (flushOnce ctx io w).worker.pendingBatch = none := by
  unfold AllAccepted at hacc
  unfold flushOnce at hacc ⊢
  simp only [hnone] at hacc ⊢
  split
  · exact hnone
  next hne =>
    simp only [hne, if_false] at hacc
    split at hacc
    · exact hnone
    · split at hacc
      · rfl
      · exact (postLoop_of_accepted rfl (by simp) hacc).2.1

/-- **An accepted flush makes the pending list shorter.** -/
theorem flushOnce_progress (hw : w.Carries) (hready : w.Ready ctx io)
    (hacc : AllAccepted ctx io w) (hne : w.pendingRecords ≠ []) :
    (flushOnce ctx io w).ok = true ∧ (flushOnce ctx io w).worker.pendingBatch = none
      ∧ (flushOnce ctx io w).worker.pendingRecords.length < w.pendingRecords.length := by
  have hshort : ∀ b : Batch, b.encrypted ≠ [] →
      (w.pendingRecords.drop b.encrypted.length).length < w.pendingRecords.length := by
    intro b hb
    have h₁ := List.length_pos_of_ne_nil hb
    have h₂ := List.length_pos_of_ne_nil hne
    rw [List.length_drop]
    omega
  unfold AllAccepted at hacc
  unfold flushOnce at hacc ⊢
  split at hacc
  case h_1 b hb =>
    obtain ⟨hb₁, -, -, hres⟩ := hw b hb
    obtain ⟨hok, hnone, hdrop⟩ := postLoop_of_accepted hb hres hacc
    exact ⟨hok, hnone, hdrop ▸ hshort b hb₁⟩
  case h_2 hnone =>
    obtain ⟨resolved, hsink, hroom, hfirst, hgap⟩ := hready hnone hne
    obtain ⟨b, hbuild⟩ := (buildBatch_isSome_iff ctx resolved hne hroom hfirst).mpr hgap
    simp only [hne, if_false, hsink, hbuild] at hacc ⊢
    obtain ⟨hok, hnone', hdrop⟩ := postLoop_of_accepted rfl (by simp) hacc
    exact ⟨hok, hnone', hdrop ▸ hshort b (buildBatch_eq_some hbuild).1⟩
