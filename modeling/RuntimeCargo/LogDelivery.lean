import RuntimeCargo.LogOrder

/-!
# Whether queued output is delivered

A chunk that `enqueue_chunk` put in the queue should reach the service.
The worker takes chunks from the queue in order, keeps customer records in
the order it admitted them and removes them from the front, so what is
delivered is what was queued, in queue order, up to where the worker is.
When it acknowledges `Finish` it is past everything queued before
`Finish`.

Two things can come in between, even if the service answers well
throughout. `drain_prioritized` goes on while fewer than 64 records are
pending in all, but `admit_chunk` drops a chunk once 32 customer records
are pending; so a burst of more than 32 chunks is received beyond what is
admitted, and the rest is dropped although the queue had room for it
(`burst_loses_a_chunk`). And a batch that does not leave room for its
identifier is never built.

`queued_output_delivered` excludes exactly these: the worker never
receives a chunk while 32 customer records are pending, and the batches of
the last flushes leave room for their identifiers.
-/

open LogSystem

/-! ## The output in a list -/

/-- The chunks in a queue. -/
def chunksOf (queue : List LogWork) : List OutputChunk :=
  queue.filterMap fun
    | .chunk chunk => some chunk
    | _ => none

@[simp] theorem chunksOf_append (xs ys : List LogWork) :
    chunksOf (xs ++ ys) = chunksOf xs ++ chunksOf ys :=
  List.filterMap_append

@[simp] theorem chunksOf_cons_chunk (chunk : OutputChunk) (rest : List LogWork) :
    chunksOf (.chunk chunk :: rest) = chunk :: chunksOf rest := rfl

@[simp] theorem chunksOf_cons_finish (rest : List LogWork) :
    chunksOf (.finish :: rest) = chunksOf rest := rfl

/-- The output among some records: the plain records of customer
output. -/
def outputRecords (records : List EncryptedRecord) : List Json :=
  ((ofOrigin .customer records).filter fun r => eventOf r.plaintext = some outputEvent).map
    EncryptedRecord.plaintext

@[simp] theorem outputRecords_append (xs ys : List EncryptedRecord) :
    outputRecords (xs ++ ys) = outputRecords xs ++ outputRecords ys := by
  simp [outputRecords]

variable {record : EncryptedRecord} {ctx : LogContext} {a : LogAction} {s : LogSystem}

/-- The record of a chunk is output. -/
theorem outputRecords_chunk {chunk : OutputChunk} (horigin : record.origin = .customer)
    (hplain : record.plaintext = chunkRecord ctx chunk) :
    outputRecords [record] = [chunkRecord ctx chunk] := by
  have hevent : eventOf record.plaintext = some outputEvent := by rw [hplain]; rfl
  rw [outputRecords, ofOrigin_singleton, if_pos horigin,
    List.filter_cons_of_pos (by rw [hevent]; rfl), List.filter_nil, List.map_singleton,
    hplain]

/-- A record of the provider is not. -/
theorem outputRecords_runtimeSsh (h : record.origin = .runtimeSsh) :
    outputRecords [record] = [] := by
  simp [outputRecords, ofOrigin_singleton, h]

/-- Evidence is not output. -/
theorem outputRecords_evidence {timestamp : String} {origin : LogOrigin} {chunks bytes : ℕ}
    (hplain : record.plaintext = evidenceRecord ctx timestamp origin chunks bytes) :
    outputRecords [record] = [] := by
  have hevent : eventOf record.plaintext ≠ some outputEvent := by
    rw [hplain, evidenceRecord, eventOf_baseRecord]
    cases origin <;> decide
  by_cases h : record.origin = .customer <;>
    simp [outputRecords, ofOrigin_singleton, h, hevent]

/-! ## The conditions -/

/-- **The world serves the log well**: encryption never fails, the time of
the last flushes is not over, the sink resolves and every post is
accepted. -/
def WellServed (ctx : LogContext) (s : LogSystem) (a : LogAction) : Prop :=
  ∀ io, a = .worker io →
    (∀ record origin, encryptRecord ctx io.iv record origin ≠ none)
      ∧ io.deadlinePassed = false
      ∧ (s.pc = .flush ∨ s.pc = .finishFlush →
        s.worker.sink ctx io.flush ≠ none ∧ AllAccepted ctx io.flush s.worker)

/-- **The worker stays within its caps**: it does not receive a chunk
while 32 customer records are pending, and in its last flushes the batch
of the customer's records fits with its identifier. -/
def WithinCaps (ctx : LogContext) (s : LogSystem) (a : LogAction) : Prop :=
  (s.receiving = true → (∃ chunk rest, s.customerQueue = .chunk chunk :: rest) →
      (∃ io, a = .worker io) →
      (ofOrigin .customer s.worker.pendingRecords).length < maxBatchRecords)
    ∧ ∀ io, a = .worker io → s.pc = .finishFlush →
      ofOrigin .customer s.worker.pendingRecords ≠ [] → s.worker.Ready ctx io.flush

/-! ## The invariant -/

/-- **Where `Finish` is.** Before it is queued it is nowhere; then it is
in the queue, behind the chunks queued before it; then the worker has
received it, and all of those before it. -/
def View.FinishPlaced (v : View) : Prop :=
  match v.queuedAtFinish with
  | none => .finish ∉ v.customerQueue ∧ v.finishReceived = false
  | some q => v.sender = false
    ∧ (v.finishReceived = false ∧ (∃ ahead behind, v.customerQueue = ahead ++ .finish :: behind
          ∧ .finish ∉ ahead ∧ .finish ∉ behind ∧ q = v.received ++ chunksOf ahead)
      ∨ v.finishReceived = true ∧ .finish ∉ v.customerQueue ∧ q <+: v.received)

/-- **The log is delivering**: it is sound, no batch is outstanding, the
output admitted is the chunks received, and the chunks queued are those
received and those in the queue. -/
structure View.Delivering (ctx : LogContext) (v : View) : Prop where
  sound : v.Sound
  noBatch : v.worker.pendingBatch = none
  outputs : outputRecords v.admitted = v.received.map (chunkRecord ctx)
  queued : v.queued = v.received ++ chunksOf v.customerQueue
  placed : v.FinishPlaced

section Placed

variable {v : View}

/-- Receiving a chunk from the front of the queue. -/
theorem View.FinishPlaced.receive {chunk : OutputChunk} {rest : List LogWork}
    (hv : v.FinishPlaced) (hqueue : v.customerQueue = .chunk chunk :: rest) :
    View.FinishPlaced { v with
      customerQueue := rest
      received := v.received ++ [chunk] } := by
  unfold View.FinishPlaced at hv ⊢
  cases hq : v.queuedAtFinish with
  | none =>
    simp only [hq, hqueue] at hv ⊢
    exact ⟨fun h => hv.1 (List.mem_cons_of_mem _ h), hv.2⟩
  | some q =>
    simp only [hq, hqueue] at hv ⊢
    obtain ⟨hs, ⟨hf, ahead, behind, heq, hahead, hbehind, rfl⟩ | ⟨hf, hnot, hpre⟩⟩ := hv
    · refine ⟨hs, Or.inl ⟨hf, ?_⟩⟩
      cases ahead with
      | nil => simp at heq
      | cons x ahead =>
        cases heq
        exact ⟨ahead, behind, rfl, fun h => hahead (List.mem_cons_of_mem _ h), hbehind,
          by simp⟩
    · exact ⟨hs, Or.inr ⟨hf, fun h => hnot (List.mem_cons_of_mem _ h),
        hpre.trans (List.prefix_append _ _)⟩⟩

/-- Receiving `Finish` from the front of the queue. -/
theorem View.FinishPlaced.receiveFinish {rest : List LogWork} (hv : v.FinishPlaced)
    (hqueue : v.customerQueue = .finish :: rest) :
    View.FinishPlaced { v with customerQueue := rest, finishReceived := true } := by
  unfold View.FinishPlaced at hv ⊢
  cases hq : v.queuedAtFinish with
  | none =>
    simp only [hq, hqueue] at hv
    exact absurd List.mem_cons_self hv.1
  | some q =>
    simp only [hq, hqueue] at hv ⊢
    obtain ⟨hs, ⟨-, ahead, behind, heq, hahead, hbehind, rfl⟩ | ⟨-, hnot, -⟩⟩ := hv
    · refine ⟨hs, Or.inr ⟨trivial, ?_⟩⟩
      cases ahead with
      | nil =>
        obtain ⟨-, rfl⟩ := List.cons.inj heq
        exact ⟨hbehind, by simp [chunksOf]⟩
      | cons x ahead =>
        obtain ⟨rfl, -⟩ := List.cons.inj heq
        exact absurd List.mem_cons_self hahead
    · exact absurd List.mem_cons_self hnot

/-- Queueing a chunk. -/
theorem View.FinishPlaced.queue (hv : v.FinishPlaced) (chunk : OutputChunk) :
    View.FinishPlaced { v with
      customerQueue := v.customerQueue ++ [.chunk chunk]
      queued := v.queued ++ [chunk] } := by
  have hchunk : ∀ {q : List LogWork}, .finish ∉ q → .finish ∉ q ++ [LogWork.chunk chunk] := by
    intro q hq h
    rcases List.mem_append.mp h with h | h
    · exact hq h
    · simp at h
  unfold View.FinishPlaced at hv ⊢
  cases hq : v.queuedAtFinish with
  | none =>
    simp only [hq] at hv ⊢
    exact ⟨hchunk hv.1, hv.2⟩
  | some q =>
    simp only [hq] at hv ⊢
    obtain ⟨hs, ⟨hf, ahead, behind, heq, hahead, hbehind, rfl⟩ | ⟨hf, hnot, hpre⟩⟩ := hv
    · exact ⟨hs, Or.inl ⟨hf, ahead, behind ++ [.chunk chunk],
        by rw [heq, List.append_assoc, List.cons_append], hahead, hchunk hbehind, rfl⟩⟩
    · exact ⟨hs, Or.inr ⟨hf, hchunk hnot, hpre⟩⟩

/-- Queueing `Finish`, which can only be done once. -/
theorem View.FinishPlaced.queueFinish (hv : v.FinishPlaced) (hsender : v.sender = true)
    (hqueued : v.queued = v.received ++ chunksOf v.customerQueue) :
    View.FinishPlaced { v with
      customerQueue := v.customerQueue ++ [.finish]
      sender := false
      queuedAtFinish := some v.queued } := by
  unfold View.FinishPlaced at hv ⊢
  cases hq : v.queuedAtFinish with
  | none =>
    simp only [hq] at hv ⊢
    exact ⟨trivial, Or.inl ⟨hv.2, v.customerQueue, [], rfl, hv.1, by simp, hqueued⟩⟩
  | some q =>
    simp only [hq, hsender] at hv
    exact absurd hv.1 (by simp)

end Placed

section Steps

variable {ctx : LogContext} {s t : LogSystem} {a : LogAction} {io : StepIo}

/-- With all posts accepted a step of the worker leaves no batch
outstanding. -/
theorem worker_noBatch (hnone : s.worker.pendingBatch = none)
    (hposts : s.pc = .flush ∨ s.pc = .finishFlush → AllAccepted ctx io.flush s.worker)
    (h : workerStep ctx io s = some t) : t.view.worker.pendingBatch = none := by
  cases (worker_step h).effect with
  | move hview | drop _ _ _ _ _ hview | finish _ _ hview =>
    rw [hview]
    exact hnone
  | chunk _ _ _ _ _ _ hadm hview =>
    rw [hview]
    exact admitChunk_pendingBatch hnone hadm
  | runtimeSsh _ _ _ hadm hview =>
    rw [hview]
    exact admitRuntimeSsh_pendingBatch hnone hadm
  | evidence _ _ _ _ _ _ hadm hview =>
    rw [hview]
    exact admitEvidence_pendingBatch hnone hadm
  | flush hpc hview =>
    rw [hview]
    exact flushOnce_pendingBatch hnone (hposts (hpc.imp id And.left))

/-- A step that touches neither the queue nor what was received, and
admits no output, goes on delivering. -/
theorem View.Delivering.keep {v u : View} (hv : v.Delivering ctx) (hsound : u.Sound)
    (hbatch : u.worker.pendingBatch = none)
    (houtputs : outputRecords u.admitted = outputRecords v.admitted)
    (hu : u = { v with worker := u.worker, admitted := u.admitted, posts := u.posts }) :
    u.Delivering ctx := by
  rw [hu] at hsound hbatch houtputs ⊢
  exact ⟨hsound, hbatch, houtputs.trans hv.outputs, hv.queued, hv.placed⟩

/-- **A step of the worker goes on delivering**, if the world serves it
well and it stays within its caps. -/
theorem worker_delivering (hs : s.view.Delivering ctx) (hserved : WellServed ctx s (.worker io))
    (hcaps : WithinCaps ctx s (.worker io)) (h : workerStep ctx io s = some t) :
    t.view.Delivering ctx := by
  obtain ⟨hencrypt, -, hflush⟩ := hserved io rfl
  have hnone : s.worker.pendingBatch = none := hs.noBatch
  have hsound : t.view.Sound := by
    refine step_sound (a := .worker io) hs.sound (fun _ _ _ _ _ b hb => ?_) h
    rw [hnone] at hb
    cases hb
  have hbatch := worker_noBatch hnone (fun hpc => (hflush hpc).2) h
  cases (worker_step h).effect with
  | move hview => exact hview ▸ hs
  | chunk chunk rest w record hreceiving hqueue hadm hview =>
    obtain ⟨horigin, hplain, -, -⟩ :=
      admitChunk_eq_some hs.sound.ordered hs.sound.carries hadm
    rw [hview] at hsound hbatch ⊢
    refine ⟨hsound, hbatch, ?_, ?_, hs.placed.receive hqueue⟩
    · simp only [outputRecords_append, outputRecords_chunk horigin hplain, List.map_append,
        List.map_singleton]
      exact congrArg (· ++ [chunkRecord ctx chunk]) hs.outputs
    · have hq := hs.queued
      simp only [view, hqueue, chunksOf_cons_chunk] at hq ⊢
      rw [hq, List.append_assoc, List.singleton_append]
  | drop chunk rest hreceiving hqueue hadm hview =>
    have hroom := hcaps.1 hreceiving ⟨chunk, rest, hqueue⟩ ⟨io, rfl⟩
    exact absurd hadm (admitChunk_ne_none hroom (hencrypt _ _))
  | finish rest hqueue hview =>
    rw [hview] at hsound ⊢
    refine ⟨hsound, hnone, hs.outputs, ?_, hs.placed.receiveFinish hqueue⟩
    have hq := hs.queued
    simp only [view, hqueue, chunksOf_cons_finish] at hq ⊢
    exact hq
  | runtimeSsh r w record hadm hview =>
    obtain ⟨horigin, -, -⟩ := admitRuntimeSsh_eq_some hs.sound.ordered hs.sound.carries hadm
    refine hs.keep hsound hbatch ?_ (by rw [hview])
    rw [hview]
    simp only [outputRecords_append, outputRecords_runtimeSsh horigin, List.append_nil]
    rfl
  | evidence e chunks w record hpc hsome hadm hview =>
    obtain ⟨-, hplain, -, -⟩ := admitEvidence_eq_some hs.sound.ordered hs.sound.carries hadm
    refine hs.keep hsound hbatch ?_ (by rw [hview])
    rw [hview]
    simp only [outputRecords_append, outputRecords_evidence hplain, List.append_nil]
    rfl
  | flush hpc hview => exact hs.keep hsound hbatch (by rw [hview]) (by rw [hview])

/-- A step of a producer goes on delivering. -/
theorem producer_delivering (hs : s.view.Delivering ctx) (ha : ∀ io, a ≠ .worker io)
    (h : logStep ctx s a = some t) : t.view.Delivering ctx := by
  cases (producer_step ha h).effect with
  | frame hsender hview =>
    rw [hview]
    refine ⟨hs.sound.of_eq rfl rfl rfl, hs.noBatch, hs.outputs, hs.queued, ?_⟩
    have hplaced := hs.placed
    unfold View.FinishPlaced at hplaced ⊢
    cases hq : s.view.queuedAtFinish with
    | none => simpa only [hq] using hplaced
    | some q =>
      simp only [hq] at hplaced ⊢
      refine ⟨?_, hplaced.2⟩
      cases ht : t.sender with
      | false => rfl
      | true => exact absurd hplaced.1 (by simp [view, hsender ht])
  | queue chunk hview =>
    rw [hview]
    refine ⟨hs.sound.of_eq rfl rfl rfl, hs.noBatch, hs.outputs, ?_, hs.placed.queue chunk⟩
    have hq := hs.queued
    simp only [view, chunksOf_append] at hq ⊢
    rw [hq, List.append_assoc]
    rfl
  | finish hsender hview =>
    rw [hview]
    refine ⟨hs.sound.of_eq rfl rfl rfl, hs.noBatch, hs.outputs, ?_,
      hs.placed.queueFinish hsender hs.queued⟩
    have hq := hs.queued
    simp only [view, chunksOf_append, chunksOf_cons_finish] at hq ⊢
    rw [hq]
    exact (List.append_nil _).symm ▸ rfl

/-- `Finish` stays received. -/
theorem worker_finishReceived (h : workerStep ctx io s = some t)
    (hs : s.history.finishReceived = true) : t.history.finishReceived = true := by
  have hkeep : t.view.finishReceived = true := by
    cases (worker_step h).effect with
    | finish _ _ hview => rw [hview]
    | move hview | chunk _ _ _ _ _ _ _ hview | drop _ _ _ _ _ hview | runtimeSsh _ _ _ _ hview
    | evidence _ _ _ _ _ _ _ hview | flush _ hview =>
      rw [hview]
      exact hs
  exact hkeep

/-- **What the worker leaves behind**: when it acknowledges `Finish` no
customer record is pending, if there was time and the posts of its last
flushes were accepted. -/
theorem acknowledged_empty (hs : s.view.Sound) (hdeadline : io.deadlinePassed = false)
    (hready : ofOrigin .customer s.worker.pendingRecords ≠ [] → s.worker.Ready ctx io.flush)
    (hacc : s.pc = .finishFlush → AllAccepted ctx io.flush s.worker)
    (h : workerStep ctx io s = some t) (ht : t.pc = .stopped true) :
    ofOrigin .customer t.worker.pendingRecords = [] := by
  obtain ⟨hpc, ⟨hworker, hdone⟩ | ⟨hworker, hne, hfailed⟩⟩ := worker_acknowledges h ht
  · rcases hdone with hnil | hpassed
    · rw [hworker, hnil, ofOrigin_nil]
    · exact absurd hpassed (by simp [hdeadline])
  · have hsplit := congrArg (ofOrigin .customer) (flushOnce_sound ctx io.flush hs.carries).split
    rw [ofOrigin_append] at hsplit
    -- a flush fails only with no customer record in front
    have hempty : ofOrigin .customer s.worker.pendingRecords = [] := by
      by_contra hcustomer
      have hok := (flushOnce_progress hs.carries (hready hcustomer) (hacc hpc) hne).1
      rw [show s.view.worker = s.worker from rfl] at hok
      exact absurd hok (by simp [hfailed])
    rw [hworker]
    exact (List.append_eq_nil_iff.mp (hsplit.trans hempty)).2

end Steps

/-- **What holds all along** a run that is well served and within the
caps. -/
structure DeliveryInvariant (ctx : LogContext) (s : LogSystem) : Prop where
  delivering : s.view.Delivering ctx
  finishing : s.pc.finishing = true → s.history.finishReceived = true
  acknowledged : s.pc = .stopped true → ofOrigin .customer s.worker.pendingRecords = []

theorem deliveryInvariant_initial (ctx : LogContext) :
    DeliveryInvariant ctx initial where
  delivering :=
    { sound := sound_initial
      noBatch := rfl
      outputs := rfl
      queued := rfl
      placed := ⟨by simp [view, initial], rfl⟩ }
  finishing h := absurd h (by simp [initial, Pc.finishing])
  acknowledged h := absurd h (by simp [initial])

/-- A step keeps it. -/
theorem step_deliveryInvariant {t : LogSystem} (hs : DeliveryInvariant ctx s)
    (hok : WellServed ctx s a ∧ WithinCaps ctx s a) (h : logStep ctx s a = some t) :
    DeliveryInvariant ctx t := by
  rcases a.worker_or with ⟨io, rfl⟩ | ha
  · obtain ⟨-, hdeadline, hflush⟩ := hok.1 io rfl
    refine ⟨worker_delivering hs.delivering hok.1 hok.2 h, fun hfinishing => ?_, fun hstop => ?_⟩
    case refine_2 =>
      have hpc := (worker_acknowledges h hstop).1
      exact acknowledged_empty hs.delivering.sound hdeadline (hok.2.2 io rfl hpc)
        (fun hpc => (hflush (Or.inr hpc)).2) h hstop
    obtain ⟨finish, hedge, hreceived⟩ := (worker_step h).edge
    rcases hedge.finishing hfinishing with hp | hp
    · exact worker_finishReceived h (hs.finishing hp)
    · exact hreceived hp
  · have hdelivering := producer_delivering hs.delivering ha h
    obtain ⟨hpc, heffect, -, -⟩ := producer_step ha h
    have hsame : t.worker = s.worker
        ∧ t.history.finishReceived = s.history.finishReceived := by
      cases heffect with
      | frame _ hview | queue _ hview | finish _ hview =>
        exact ⟨congrArg View.worker hview, congrArg View.finishReceived hview⟩
    refine ⟨hdelivering, ?_, ?_⟩
    · rw [hpc, hsame.2]
      exact hs.finishing
    · rw [hpc, hsame.1]
      exact hs.acknowledged

/-- Encryption does not fail in the concrete runs. -/
theorem encryptRecord_sample (next : ℕ) (record : Json) (origin : LogOrigin) :
    encryptRecord sampleContext (sampleStep next).iv record origin ≠ none := by
  intro h
  cases h

/-- A step of the worker that posts nothing is well served. -/
theorem wellServed_quiet (ha : a = .worker (sampleStep 40) ∨ ∀ io, a ≠ .worker io)
    (hquiet : quiet s a = true) :
    WellServed sampleContext s a := by
  intro io hio
  rcases ha with rfl | ha
  · obtain rfl := LogAction.worker.inj hio
    refine ⟨encryptRecord_sample 40, rfl, fun hpc => ?_⟩
    rcases hpc with hpc | hpc <;> simp [quiet, hpc] at hquiet
  · exact absurd hio (ha io)

/-- A customer process writes some chunks before the worker looks, and the
program ends. -/
def chunksThenFinish (n steps : ℕ) : List LogAction :=
  .spawnReader
    :: ((List.replicate n [LogAction.readChunk 0 sampleChunk false, .reader 0]).flatten
      ++ .finish :: List.replicate steps (.worker (sampleStep 40)))

theorem mem_chunksThenFinish {n steps : ℕ} (h : a ∈ chunksThenFinish n steps) :
    a = .worker (sampleStep 40) ∨ ∀ io, a ≠ .worker io := by
  simp only [chunksThenFinish, List.mem_cons, List.mem_append, List.mem_flatten,
    List.mem_replicate] at h
  rcases h with rfl | ⟨l, ⟨-, rfl⟩, hl⟩ | rfl | ⟨-, rfl⟩
  · exact Or.inr (by simp)
  · right
    simp only [List.mem_cons, List.not_mem_nil, or_false] at hl
    rcases hl with rfl | rfl <;> simp
  · exact Or.inr (by simp)
  · exact Or.inl rfl

/-- The log once the worker has received `Finish` behind some chunks and
is about to flush. -/
def finishState (n dropped : ℕ) (pending : List EncryptedRecord) : LogSystem :=
  { initial with
    worker := ⟨none, pending, none⟩
    pc := .finishFlush
    dropped := ⟨dropped, dropped⟩
    budget := n
    sender := false
    readers := [⟨true, .idle⟩]
    history :=
      { queued := List.replicate n sampleChunk
        queuedAtFinish := some (List.replicate n sampleChunk)
        received := List.replicate n sampleChunk
        finishReceived := true
        admitted := pending
        posts := []
        recorded := ⟨dropped, dropped⟩ } }

/-- A flush whose one batch took all that was pending. -/
def sentAll (pending : List EncryptedRecord) (b : Batch) : Flushed :=
  ⟨⟨some (sampleSinkAt 40), [], none⟩, true, [⟨b, pending, true, []⟩]⟩

/-- The log once the worker has flushed what was pending and acknowledged
`Finish`. -/
def LogSystem.acknowledged (s : LogSystem) (b : Batch) : LogSystem :=
  { s.flushed (sentAll s.worker.pendingRecords b) .finishFlush with pc := .stopped true }

section LastFlush

variable {s : LogSystem} {pending : List EncryptedRecord} {b : Batch}

/-- The last two steps of the worker: a flush that is accepted, and the
acknowledgement. -/
theorem reaches_acknowledged {ok : LogSystem → LogAction → Prop} (hpc : s.pc = .finishFlush)
    (hworker : s.worker = ⟨none, pending, none⟩) (hne : pending ≠ [])
    (hflush : flushOnce sampleContext (sampleIo 40) ⟨none, pending, none⟩ = sentAll pending b)
    (hfirst : ok s (.worker (sampleStep 40)))
    (hsecond : ok (s.flushed (sentAll pending b) .finishFlush) (.worker (sampleStep 40)))
    (h : Reaches (logStep sampleContext) ok initial s) :
    Reaches (logStep sampleContext) ok initial (s.acknowledged b) := by
  have hpending : s.worker.pendingRecords = pending := by rw [hworker]
  have hstep : logStep sampleContext s (.worker (sampleStep 40))
      = some (s.flushed (sentAll pending b) .finishFlush) := by
    rw [logStep, workerStep_finishFlush hpc (hpending ▸ hne) rfl, hworker,
      show (sampleStep 40).flush = sampleIo 40 from rfl, hflush]
    rfl
  unfold acknowledged
  rw [hpending]
  exact (h.tail _ hfirst hstep).tail _ hsecond rfl

/-- The last two steps are well served. -/
theorem wellServed_lastFlush (hworker : s.worker = ⟨none, pending, none⟩)
    (hflush : flushOnce sampleContext (sampleIo 40) ⟨none, pending, none⟩ = sentAll pending b) :
    WellServed sampleContext s (.worker (sampleStep 40))
      ∧ WellServed sampleContext (s.flushed (sentAll pending b) .finishFlush)
        (.worker (sampleStep 40)) := by
  constructor
  · intro io hio
    obtain rfl := LogAction.worker.inj hio
    refine ⟨encryptRecord_sample 40, rfl, fun _ => ⟨by rw [hworker]; nofun, ?_⟩⟩
    unfold AllAccepted
    rw [hworker, show (sampleStep 40).flush = sampleIo 40 from rfl, hflush]
    simp [sentAll]
  · intro io hio
    obtain rfl := LogAction.worker.inj hio
    refine ⟨encryptRecord_sample 40, rfl, fun _ => ⟨nofun, fun p hp => ?_⟩⟩
    exact absurd hp (by simp [flushOnce, sentAll, flushed])

end LastFlush

set_option maxRecDepth 10000 in
/-- **A burst runs to its end**: 33 chunks, then `Finish`. -/
theorem reaches_burstAcknowledged :
    ∃ b, b.encrypted = burstPending
      ∧ Reaches (logStep sampleContext) (WellServed sampleContext) initial
        ((finishState 33 1 burstPending).acknowledged b) := by
  obtain ⟨b, henc, hflush⟩ := flushOnce_burst
  rw [burstState_worker] at hflush
  have hrun : runActions (logStep sampleContext) quiet initial
      (chunksThenFinish 33 42) = some (finishState 33 1 burstPending) := rfl
  have hreach := reaches_of_runActions
    (fun a ha s => wellServed_quiet (s := s) (mem_chunksThenFinish ha)) Reaches.refl hrun
  obtain ⟨hfirst, hsecond⟩ :=
    wellServed_lastFlush (s := finishState 33 1 burstPending) rfl hflush
  exact ⟨b, henc, reaches_acknowledged rfl rfl (by rw [burstPending_eq]; simp) hflush hfirst
    hsecond hreach⟩

/-- A quiet step with room for a chunk. -/
def roomy (s : LogSystem) (a : LogAction) : Bool :=
  quiet s a && (ofOrigin .customer s.worker.pendingRecords).length < maxBatchRecords

theorem withinCaps_roomy (h : roomy s a = true) :
    quiet s a = true ∧ WithinCaps sampleContext s a := by
  simp only [roomy, Bool.and_eq_true, decide_eq_true_eq] at h
  refine ⟨h.1, fun _ _ _ => h.2, fun io _ hpc => ?_⟩
  simp [quiet, hpc] at h
