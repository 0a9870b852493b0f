import RuntimeCargo.LogEffects
import RuntimeCargo.LogProgress

/-!
# What a post carries, over whole runs

A batch is posted some time after it was built. In between the worker may
have received records, and a customer record goes in front of those of the
provider. The log is sound when this never shows: each batch is, at the
moment it is posted, the front of the pending list, so that the records an
accepted post removes are the ones it carried, and nothing is lost or sent
twice (`View.Sound`).

It is sound in every run in which the worker does not admit evidence of
customer drops while a batch of the provider is outstanding
(`posts_carry_the_front`). All other ways to put a record in front of an
outstanding batch discard the batch; this one, at the very end of the
program, does not. `staleBatch_run` is a run in which it happens: the
stale batch is posted and accepted, the evidence is popped in its place
and never sent, and the provider's record stays to be sent again.
-/

open LogSystem

/-- **The log is sound**: the pending list is in order, the outstanding
batch is its front, every post was exact, and the records of each origin
that were ever admitted are those delivered followed by those pending. -/
structure View.Sound (v : View) : Prop where
  ordered : Ordered v.worker.pendingRecords
  carries : v.worker.Carries
  exact : ∀ p ∈ v.posts, p.Exact
  conserved : ∀ origin, ofOrigin origin v.admitted
    = ofOrigin origin (acceptedRecords v.posts ++ v.worker.pendingRecords)

/-- The worker does not admit evidence of customer drops while a batch of
the provider is outstanding. -/
def EvidenceSafe (s : LogSystem) (a : LogAction) : Prop :=
  ∀ io chunks, a = .worker io → s.pc = .takeBytes .finishCustomer chunks →
    ¬ (chunks = 0 ∧ s.dropped.bytes = 0) → ∀ b ∈ s.worker.pendingBatch, b.origin = .customer

/-- The log is sound at the start. -/
theorem sound_initial : initial.view.Sound where
  ordered := List.Pairwise.nil
  carries b hb := absurd hb (by simp [initial, view])
  exact p hp := absurd hp (by simp [initial, view])
  conserved _ := rfl

/-- An admission keeps the log sound if the outstanding batch survives
it. -/
theorem View.Sound.enter {v : View} (hv : v.Sound) {w : LogWorker} {record : EncryptedRecord}
    (hadmitted : Admitted v.worker w record) (hcarries : w.Carries) :
    View.Sound { v with worker := w, admitted := v.admitted ++ [record] } where
  ordered := hadmitted.ordered
  carries := hcarries
  exact := hv.exact
  conserved origin := by
    simp only [ofOrigin_append, hadmitted.append origin, hv.conserved origin,
      List.append_assoc]

/-- A flush keeps the log sound. -/
theorem View.Sound.flush {v : View} (hv : v.Sound) (ctx : LogContext) (io : FlushIo) :
    View.Sound { v with
      worker := (flushOnce ctx io v.worker).worker
      posts := v.posts ++ (flushOnce ctx io v.worker).posts } := by
  have hsound := flushOnce_sound ctx io hv.carries
  constructor
  · have hordered := hv.ordered
    rw [Ordered, ← hsound.split] at hordered
    exact (List.pairwise_append.mp hordered).2.1
  · exact hsound.carries
  · intro p hp
    rcases List.mem_append.mp hp with hp | hp
    · exact hv.exact p hp
    · exact hsound.exact p hp
  · intro origin
    rw [hv.conserved origin, acceptedRecords_append, List.append_assoc, hsound.split]

/-- What the queue holds and what was received play no part. -/
theorem View.Sound.of_eq {v u : View} (hv : v.Sound) (hworker : u.worker = v.worker)
    (hadmitted : u.admitted = v.admitted) (hposts : u.posts = v.posts) : u.Sound where
  ordered := hworker ▸ hv.ordered
  carries := hworker ▸ hv.carries
  exact := hposts ▸ hv.exact
  conserved origin := by rw [hadmitted, hposts, hworker, hv.conserved origin]

/-- **A step keeps the log sound.** -/
theorem step_sound {ctx : LogContext} {s t : LogSystem} {a : LogAction} (hs : s.view.Sound)
    (hsafe : EvidenceSafe s a) (h : logStep ctx s a = some t) : t.view.Sound := by
  rcases a.worker_or with ⟨io, rfl⟩ | ha
  · cases (worker_step h).effect with
    | move hview => exact hview ▸ hs
    | chunk chunk rest w record _ _ hadm hview =>
      obtain ⟨-, -, hadmitted, hcarries⟩ := admitChunk_eq_some hs.ordered hs.carries hadm
      exact hview ▸ (hs.enter hadmitted hcarries).of_eq rfl rfl rfl
    | drop chunk rest _ _ _ hview | finish rest _ hview => exact hview ▸ hs.of_eq rfl rfl rfl
    | runtimeSsh r w record hadm hview =>
      obtain ⟨-, hadmitted, hcarries⟩ := admitRuntimeSsh_eq_some hs.ordered hs.carries hadm
      exact hview ▸ hs.enter hadmitted hcarries
    | evidence e chunks w record hpc hsome hadm hview =>
      obtain ⟨-, -, hadmitted, hcarries⟩ := admitEvidence_eq_some hs.ordered hs.carries hadm
      refine hview ▸ hs.enter hadmitted (hcarries fun horigin => ?_)
      -- of the three calls only the one in `finish_prioritized` is the customer's
      cases e with
      | drained caller finish => exact absurd horigin (by simp [Evidence.origin])
      | finishCustomer => exact hsafe io chunks rfl hpc hsome
      | finishRuntimeSsh => exact absurd horigin (by simp [Evidence.origin])
    | flush _ hview => exact hview ▸ hs.flush ctx io.flush
  · cases (producer_step ha h).effect with
    | frame _ hview | queue chunk hview | finish _ hview => exact hview ▸ hs.of_eq rfl rfl rfl

/-- **A post carries the front of the pending list.** In every run that
does not admit evidence of customer drops over an outstanding batch of the
provider, each batch posted is the first entries of the pending list at
that moment; an accepted post removes exactly those and a refused one
nothing; and the records of each origin ever admitted are, in order, those
of the accepted batches and those still pending. -/
theorem posts_carry_the_front {ctx : LogContext} {s : LogSystem}
    (h : Reaches (logStep ctx) EvidenceSafe initial s) :
    (∀ p ∈ s.history.posts,
      p.batch.encrypted = p.pending.take p.batch.encrypted.length
        ∧ p.remaining
          = if p.accepted then p.pending.drop p.batch.encrypted.length else p.pending)
      ∧ ∀ origin, ofOrigin origin s.history.admitted
        = ofOrigin origin (acceptedRecords s.history.posts)
          ++ ofOrigin origin s.worker.pendingRecords := by
  have hsound := h.invariant (fun s => s.view.Sound) sound_initial
    fun u a v hu hok hstep => step_sound hu hok hstep
  exact ⟨hsound.exact, fun origin => by
    rw [← ofOrigin_append]
    exact hsound.conserved origin⟩

/-! ## Concrete runs

The runs below are executed by the kernel, except for the builds of
batches: what a build returns is read from its specification, since the
records of these runs are small. -/

/-- The sample sink further along its chain. -/
def sampleSinkAt (next : ℕ) : ResolvedSink :=
  { sampleSink with nextSequence := next, previousHash := some sampleHash }

/-- The value of every record sealed in these runs. -/
def sampleValue : Json :=
  sealedValue (hexEncode (List.replicate 12 0)) (hexEncode []) (hexEncode (List.replicate 16 0))

/-- Sums of equal parts, without building the list. -/
theorem sum_map_of_forall {records : List EncryptedRecord} {n : ℕ}
    (h : ∀ r ∈ records, r.value.size + 1 = n) :
    (records.map fun r => r.value.size + 1).sum = records.length * n := by
  rw [List.map_congr_left h, List.map_const', List.sum_replicate_nat]

variable {sink : ResolvedSink}

/-- **Small records fit**, whatever their number, in the batches of a sink
early in its chain. -/
theorem allFit_sample {front : EncryptedRecord} {rest : List EncryptedRecord}
    (hsink : sink = sampleSink ∨ sink = sampleSinkAt 40)
    (hvalue : ∀ r ∈ front :: rest, r.value = sampleValue) :
    AllFit sampleContext sink front (front :: rest) fun _ => sampleTime := by
  intro m hm _
  beta_reduce
  have hlen : (frontRun front.origin (front :: rest)).length ≤ 32 := List.length_take_le _ _
  have hnext : sink.nextSequence ≤ 40 := by
    rcases hsink with rfl | rfl <;> decide
  have hsize : sampleValue.size + 1 = 113 := by decide +kernel
  have hnum : ∀ k < 80, (Json.num (k : ℕ)).size ≤ 2 := by decide +kernel
  have hhash : ((sink.previousHash.map Json.str).getD .null).size ≤ 68 := by
    rcases hsink with rfl | rfl <;> decide +kernel
  have hids : sink.sinkId = sampleSink.sinkId ∧ sink.jobId = sampleSink.jobId := by
    rcases hsink with rfl | rfl <;> exact ⟨rfl, rfl⟩
  have hmem : ∀ r ∈ (frontRun front.origin (front :: rest)).take m, r.value.size + 1 = 113 := by
    intro r hr
    rw [hvalue r ((frontRun_prefix_pending _ _).subset (List.mem_of_mem_take hr)), hsize]
  have heq := encodedSize_eq sampleContext sink front.origin
    ((frontRun front.origin (front :: rest)).take m) sampleTime
  rw [sum_map_of_forall hmem, List.length_take, Nat.min_eq_left hm, hids.1, hids.2] at heq
  have hframe := (size_sampleFrame front.origin).trans_le (c := 377) (by
    cases front.origin <;> decide)
  have hstart := hnum sink.nextSequence (by omega)
  have hend := hnum (sink.nextSequence + (m - 1)) (by omega)
  rw [Batch.idSize, maxBatchBytes]
  omega

/-- There is room for the sequence early in a chain. -/
theorem hasRoom_sample (hsink : sink = sampleSink ∨ sink = sampleSinkAt 40)
    (pending : List EncryptedRecord) : HasRoom sink pending := by
  intro front _
  have hlen : (frontRun front.origin pending).length ≤ 32 := List.length_take_le _ _
  have hnext : sink.nextSequence ≤ 40 := by
    rcases hsink with rfl | rfl <;> decide
  rw [u64Max]
  omega

/-- Small records are sent at once: the whole front run is built into a
batch. -/
theorem buildBatch_sample (front : EncryptedRecord) (rest : List EncryptedRecord)
    (hsink : sink = sampleSink ∨ sink = sampleSinkAt 40)
    (hvalue : ∀ r ∈ front :: rest, r.value = sampleValue) :
    ∃ b, buildBatch sampleContext (some sink) (front :: rest) (fun _ => sampleTime) = some b
      ∧ b.encrypted = frontRun front.origin (front :: rest)
      ∧ b.sequenceEnd < sink.nextSequence + 32 := by
  obtain ⟨b, hb, henc⟩ := buildBatch_of_allFit sampleContext sink (hasRoom_sample hsink _)
    (allFit_sample hsink hvalue)
  refine ⟨b, hb, henc, ?_⟩
  have hlen : (frontRun front.origin (front :: rest)).length ≤ 32 := List.length_take_le _ _
  obtain ⟨hne, -, -, -, hend⟩ := buildBatch_eq_some hb
  have hpos := List.length_pos_of_ne_nil hne
  rw [henc] at hpos hend
  omega

/-- A flush of small records to a service that accepts them. -/
theorem flushOnce_sample {w : LogWorker} {front : EncryptedRecord}
    {rest : List EncryptedRecord} (hw : w = ⟨none, front :: rest, none⟩)
    (hvalue : ∀ r ∈ front :: rest, r.value = sampleValue) :
    ∃ b, b.encrypted = frontRun front.origin (front :: rest)
      ∧ flushOnce sampleContext (sampleIo 40) w
        = ⟨⟨some (sampleSinkAt 40), (front :: rest).drop b.encrypted.length, none⟩, true,
            [⟨b, front :: rest, true, (front :: rest).drop b.encrypted.length⟩]⟩ := by
  obtain ⟨b, hb, henc, hend⟩ := buildBatch_sample front rest (Or.inl rfl) hvalue
  refine ⟨b, henc, ?_⟩
  have hend : ¬ 40 ≤ b.sequenceEnd := by
    rw [show sampleSink.nextSequence = 1 from rfl] at hend
    omega
  rw [flushOnce_build sampleSink b (by rw [hw]) (by simp [hw])
    (by rw [hw]; rfl) (by rw [hw]; exact hb)]
  have hout : replyOutcome (sampleIo 40) sampleSink b (some (sampleReply 40))
      = .accepted (40, some sampleHash) := by
    have hchain : acceptedChain (sampleIo 40) sampleSink (sampleReply 40)
        = some (40, some sampleHash) := by decide
    simp only [replyOutcome, hchain, hend, if_false]
    exact if_pos (by decide)
  unfold postLoop
  simp only [hw, sampleIo] at hout ⊢
  simp only [hout]
  rfl

/-- One byte of customer output. -/
def sampleChunk : OutputChunk where
  outputSequence := 0
  processAttempt := 1
  stream := "stdout"
  timestamp := sampleTime
  bytes := [65]

/-- A step of the worker in a world that answers well. -/
def sampleStep (next : ℕ) : StepIo where
  iv := some (List.replicate 12 0)
  timestamp := sampleTime
  flush := sampleIo next
  deadlinePassed := false

/-- The steps at which no batch is posted. -/
def quiet (s : LogSystem) (_ : LogAction) : Bool :=
  match s.pc with
  | .flush => false
  | .finishFlush => false
  | _ => true

/-- A customer process writes 33 chunks before the worker looks, and the
worker drains the queue. -/
def burst : List LogAction :=
  .spawnReader
    :: ((List.replicate 33 [LogAction.readChunk 0 sampleChunk false, .reader 0]).flatten
      ++ List.replicate 39 (.worker (sampleStep 40)))

/-- The state after the burst: 32 chunks are pending, and one was
dropped. -/
def burstState : LogSystem :=
  (runActions (logStep sampleContext) quiet initial burst).getD initial

set_option maxRecDepth 10000 in
theorem runActions_burst :
    runActions (logStep sampleContext) quiet initial burst = some burstState := rfl

/-- The pending list after the burst. -/
def burstPending : List EncryptedRecord := burstState.worker.pendingRecords

set_option maxRecDepth 10000 in
theorem burstState_worker : burstState.worker = ⟨none, burstPending, none⟩ := rfl

/-- The sealed form of a chunk. -/
def sealedChunk : EncryptedRecord where
  value := sampleValue
  origin := .customer
  plaintext := chunkRecord sampleContext sampleChunk

set_option maxRecDepth 10000 in
theorem burstPending_eq : burstPending = List.replicate 32 sealedChunk := rfl

/-- **The flush after the burst**: the 32 chunks are sent in one batch. -/
theorem flushOnce_burst :
    ∃ b, b.encrypted = burstPending
      ∧ flushOnce sampleContext (sampleIo 40) burstState.worker
        = ⟨⟨some (sampleSinkAt 40), [], none⟩, true, [⟨b, burstPending, true, []⟩]⟩ := by
  have hvalue : ∀ r ∈ burstPending, r.value = sampleValue := by
    intro r hr
    rw [burstPending_eq] at hr
    rw [List.eq_of_mem_replicate hr]
    rfl
  have hcons : burstPending = sealedChunk :: List.replicate 31 sealedChunk := burstPending_eq
  have hrun : frontRun sealedChunk.origin burstPending = burstPending := by
    rw [burstPending_eq, frontRun, List.takeWhile_replicate, if_pos (by decide),
      List.take_replicate]
    rfl
  rw [hcons] at hvalue
  obtain ⟨b, henc, hflush⟩ := flushOnce_sample (hcons ▸ burstState_worker) hvalue
  rw [← hcons, hrun] at henc
  refine ⟨b, henc, ?_⟩
  rw [hflush, ← hcons, henc, List.drop_length]

/-- The chunks of the burst have been delivered in a batch. -/
def afterBurst (b : Batch) : LogSystem where
  worker := ⟨some (sampleSinkAt 40), [], none⟩
  pc := .poll
  customerQueue := []
  runtimeSshQueue := []
  dropped := ⟨1, 1⟩
  runtimeDropped := ⟨0, 0⟩
  queuedBytes := 0
  budget := 33
  runtimeSshBudget := 0
  sender := true
  readers := [⟨true, .idle⟩]
  emitters := []
  history :=
    { queued := List.replicate 33 sampleChunk
      queuedAtFinish := none
      received := List.replicate 33 sampleChunk
      finishReceived := false
      admitted := burstPending
      posts := [⟨b, burstPending, true, []⟩]
      recorded := ⟨1, 1⟩ }

set_option maxRecDepth 10000 in
theorem flushed_burstState (b : Batch) :
    burstState.flushed
        ⟨⟨some (sampleSinkAt 40), [], none⟩, true, [⟨b, burstPending, true, []⟩]⟩ .poll
      = afterBurst b := rfl

/-- The worker is not taking the counters of the customer's drops. -/
def notReporting (s : LogSystem) (_ : LogAction) : Bool :=
  match s.pc with
  | .takeBytes .finishCustomer _ => false
  | _ => true

set_option maxRecDepth 10000 in
/-- After the burst the one post was exact: it carried the 32 records that
were admitted. -/
theorem burst_posts_carry_the_front :
    ∃ b, Reaches (logStep sampleContext) EvidenceSafe initial (afterBurst b)
      ∧ b.encrypted = burstPending.take b.encrypted.length
      ∧ ofOrigin .customer burstPending = ofOrigin .customer b.encrypted := by
  obtain ⟨b, -, hflush⟩ := flushOnce_burst
  have hburst : runActions (logStep sampleContext) notReporting initial burst
      = some burstState := rfl
  have hsafe : ∀ s a, notReporting s a = true → EvidenceSafe s a := by
    intro s a hcheck io chunks _ hpc
    simp [notReporting, hpc] at hcheck
  have hreach := (reaches_of_runActions (fun a _ s => hsafe s a) Reaches.refl hburst).tail
    (u := afterBurst b) (.worker (sampleStep 40)) (hsafe _ _ rfl)
    (by rw [← flushed_burstState, ← hflush]; rfl)
  obtain ⟨hposts, hconserved⟩ := posts_carry_the_front hreach
  refine ⟨b, hreach, (hposts ⟨b, burstPending, true, []⟩ List.mem_cons_self).1, ?_⟩
  simpa [afterBurst, acceptedRecords] using hconserved .customer

/-! ## A stale batch -/

/-- A record of the provider. -/
def sampleSshRecord : RuntimeSshRecord where
  event := "runtime.access.stage"
  timestamp := sampleTime
  details := .null
  admittedBytes := 4
  critical := true

/-- Its sealed form. -/
def sampleSshSealed : EncryptedRecord where
  value := sampleValue
  origin := .runtimeSsh
  plaintext := baseRecord sampleContext sampleTime "runtime.access.stage" .null

/-- The evidence of the chunk the burst dropped. -/
def burstEvidence : EncryptedRecord where
  value := sampleValue
  origin := .customer
  plaintext := evidenceRecord sampleContext sampleTime .customer 1 1

/-- The provider emits the record, and the worker receives it. -/
def emitSsh : List LogAction :=
  [.emit sampleSshRecord false, .emitter 0, .emitter 0]
    ++ List.replicate 3 (.worker (sampleStep 40))

/-- The program ends, and the worker receives `Finish`. -/
def finishLog : List LogAction := .finish :: List.replicate 9 (.worker (sampleStep 40))

/-- A world in which a post fails. -/
def failedPost : FlushIo := { sampleIo 40 with post := fun _ => none }

/-- An outstanding batch stays after a post that fails. -/
theorem flushOnce_failed {b : Batch} {pending : List EncryptedRecord} {w : LogWorker}
    (hw : w = ⟨some (sampleSinkAt 40), pending, none⟩) (hne : pending ≠ [])
    (hb : buildBatch sampleContext (some (sampleSinkAt 40)) pending (fun _ => sampleTime)
      = some b) :
    flushOnce sampleContext failedPost w
      = ⟨⟨some (sampleSinkAt 40), pending, some b⟩, false, [Posted.refused b pending]⟩ := by
  rw [flushOnce_build (sampleSinkAt 40) b (by rw [hw])
    (by rw [hw]; exact hne) (by rw [hw]; rfl) (by rw [hw]; exact hb), hw]
  rfl

/-- An outstanding batch is posted as it is. -/
theorem flushOnce_outstanding {b : Batch} (pending : List EncryptedRecord)
    (hend : b.sequenceEnd < 80) :
    flushOnce sampleContext (sampleIo 80) ⟨some (sampleSinkAt 40), pending, some b⟩
      = ⟨⟨some (sampleSinkAt 80), pending.drop b.encrypted.length, none⟩, true,
          [⟨b, pending, true, pending.drop b.encrypted.length⟩]⟩ := by
  have hout : replyOutcome (sampleIo 80) (sampleSinkAt 40) b (some (sampleReply 80))
      = .accepted (80, some sampleHash) := by
    have hchain : acceptedChain (sampleIo 80) (sampleSinkAt 40) (sampleReply 80)
        = some (80, some sampleHash) := by decide
    have hle : ¬ 80 ≤ b.sequenceEnd := by omega
    simp only [replyOutcome, hchain, hle, if_false]
    exact if_pos (by decide)
  unfold flushOnce postLoop
  simp only [sampleIo] at hout ⊢
  simp only [hout]
  rfl

section Stale

variable (b b' : Batch)

/-- The provider's record has been received. -/
def afterEmit : LogSystem :=
  { afterBurst b with
    worker := ⟨some (sampleSinkAt 40), [sampleSshSealed], none⟩
    pc := .flush
    history :=
      { (afterBurst b).history with admitted := burstPending ++ [sampleSshSealed] } }

/-- The post of its batch has failed. -/
def afterFailure : LogSystem :=
  (afterEmit b).flushed
    ⟨⟨some (sampleSinkAt 40), [sampleSshSealed], some b'⟩, false,
      [Posted.refused b' [sampleSshSealed]]⟩ .poll

/-- `Finish` has been received, and the evidence is pending. -/
def atFinish : LogSystem :=
  { afterFailure b b' with
    worker := ⟨some (sampleSinkAt 40), [burstEvidence, sampleSshSealed], some b'⟩
    pc := .finishFlush
    dropped := ⟨0, 0⟩
    sender := false
    history :=
      { (afterFailure b b').history with
        queuedAtFinish := some (List.replicate 33 sampleChunk)
        finishReceived := true
        admitted := burstPending ++ [sampleSshSealed] ++ [burstEvidence] } }

/-- The batch of the provider has been posted again, and accepted. -/
def afterStale : LogSystem :=
  (atFinish b b').flushed
    ⟨⟨some (sampleSinkAt 80), [sampleSshSealed], none⟩, true,
      [⟨b', [burstEvidence, sampleSshSealed], true, [sampleSshSealed]⟩]⟩ .finishFlush

set_option maxRecDepth 10000 in
theorem runActions_emitSsh :
    runActions (logStep sampleContext) quiet (afterBurst b) emitSsh = some (afterEmit b) := rfl

theorem runActions_finishLog :
    runActions (logStep sampleContext) quiet (afterFailure b b') finishLog
      = some (atFinish b b') := rfl

end Stale

/-- The run that posts a stale batch. -/
theorem reaches_afterStale : ∃ b b', b.encrypted = burstPending
    ∧ b'.encrypted = [sampleSshSealed]
    ∧ Reaches (logStep sampleContext) (fun _ _ => True) initial (afterStale b b') := by
  obtain ⟨b, henc, hflush⟩ := flushOnce_burst
  obtain ⟨b', hb', henc', hend'⟩ := buildBatch_sample sampleSshSealed []
    (Or.inr rfl) (by simp [sampleSshSealed])
  have henc' : b'.encrypted = [sampleSshSealed] := henc'
  refine ⟨b, b', henc, henc', ?_⟩
  have hrun : ∀ {s t : LogSystem} {as : List LogAction},
      Reaches (logStep sampleContext) (fun _ _ => True) initial s →
      runActions (logStep sampleContext) quiet s as = some t →
      Reaches (logStep sampleContext) (fun _ _ => True) initial t :=
    fun h₀ h => reaches_of_runActions (fun _ _ _ _ => trivial) h₀ h
  have hburst : logStep sampleContext burstState (.worker (sampleStep 40))
      = some (afterBurst b) := by
    rw [← flushed_burstState, ← hflush]
    rfl
  have hfail : logStep sampleContext (afterEmit b)
      (.worker { sampleStep 40 with flush := failedPost }) = some (afterFailure b b') := by
    rw [afterFailure, ← flushOnce_failed (w := (afterEmit b).worker) rfl (by simp) hb']
    rfl
  have hstale : logStep sampleContext (atFinish b b') (.worker (sampleStep 80))
      = some (afterStale b b') := by
    have hpost := flushOnce_outstanding (b := b') [burstEvidence, sampleSshSealed]
      (lt_trans hend' (by decide))
    rw [henc'] at hpost
    rw [logStep, workerStep_finishFlush (s := atFinish b b') rfl (by simp [atFinish]) rfl,
      show (sampleStep 80).flush = sampleIo 80 from rfl,
      show (atFinish b b').worker
        = ⟨some (sampleSinkAt 40), [burstEvidence, sampleSshSealed], some b'⟩ from rfl, hpost]
    rfl
  exact (hrun ((hrun ((hrun Reaches.refl runActions_burst).tail _ trivial hburst)
    (runActions_emitSsh b)).tail _ trivial hfail) (runActions_finishLog b b')).tail
    _ trivial hstale

/-- **A stale batch is posted.** A chunk is dropped, a batch of the
provider's fails to be posted, and the program ends: the worker admits the
evidence of the drop in front of the outstanding batch and posts that
batch. It is accepted and is not the front of the pending list. Of the 33
customer records admitted 32 are left, delivered or pending, and of the
one provider record there are two. -/
theorem staleBatch_run :
    ∃ s, Reaches (logStep sampleContext) (fun _ _ => True) initial s
      ∧ (∃ p ∈ s.history.posts, p.accepted = true
        ∧ p.batch.encrypted ≠ p.pending.take p.batch.encrypted.length)
      ∧ (ofOrigin .customer s.history.admitted).length = 33
      ∧ (ofOrigin .customer (acceptedRecords s.history.posts ++ s.worker.pendingRecords)).length
        = 32
      ∧ (ofOrigin .runtimeSsh s.history.admitted).length = 1
      ∧ (ofOrigin .runtimeSsh
          (acceptedRecords s.history.posts ++ s.worker.pendingRecords)).length = 2 := by
  obtain ⟨b, b', henc, henc', hreach⟩ := reaches_afterStale
  have hadmitted : (afterStale b b').history.admitted
      = burstPending ++ [sampleSshSealed] ++ [burstEvidence] := rfl
  have hposts : (afterStale b b').history.posts
      = [⟨b, burstPending, true, []⟩, Posted.refused b' [sampleSshSealed],
          ⟨b', [burstEvidence, sampleSshSealed], true, [sampleSshSealed]⟩] := rfl
  have haccepted : acceptedRecords (afterStale b b').history.posts
      = burstPending ++ [sampleSshSealed] := by
    rw [hposts]
    simp [acceptedRecords, Posted.refused, henc, henc']
  have hcustomer : ofOrigin .customer burstPending = burstPending :=
    ofOrigin_of_forall fun r hr => by
      rw [burstPending_eq] at hr
      rw [List.eq_of_mem_replicate hr]
      rfl
  have hssh : ofOrigin .runtimeSsh burstPending = [] :=
    ofOrigin_of_forall_ne fun r hr => by
      rw [burstPending_eq] at hr
      rw [List.eq_of_mem_replicate hr]
      decide
  have hlength : burstPending.length = 32 := by rw [burstPending_eq, List.length_replicate]
  refine ⟨afterStale b b', hreach, ?_, ?_, ?_, ?_, ?_⟩
  · refine ⟨⟨b', [burstEvidence, sampleSshSealed], true, [sampleSshSealed]⟩, ?_, rfl, ?_⟩
    · rw [hposts]
      simp
    · simp only [henc']
      intro h
      exact absurd (congrArg (List.map EncryptedRecord.origin) h) (by decide)
  · rw [hadmitted, ofOrigin_append, ofOrigin_append, hcustomer, List.length_append,
      List.length_append, hlength]
    rfl
  · rw [haccepted, ofOrigin_append, ofOrigin_append, hcustomer, List.length_append,
      List.length_append, hlength]
    rfl
  · rw [hadmitted, ofOrigin_append, ofOrigin_append, hssh]
    rfl
  · rw [haccepted, ofOrigin_append, ofOrigin_append, hssh]
    rfl

/-! ## The bytes reserved for the provider -/

/-- A step keeps the reserved bytes equal to those held. -/
theorem ReservedEffect.conserves {s t : LogSystem} (h : ReservedEffect s t)
    (hs : s.queuedBytes = s.heldBytes ∧ s.queuedBytes ≤ runtimeSshQueueMemoryBytes) :
    t.queuedBytes = t.heldBytes ∧ t.queuedBytes ≤ runtimeSshQueueMemoryBytes := by
  cases h <;> omega
