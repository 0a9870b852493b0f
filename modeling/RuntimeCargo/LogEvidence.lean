import RuntimeCargo.LogDelivery

/-!
# Whether dropped output is reported

Output that is dropped is counted, and the counts are to be reported as
evidence: a record of its own that says how many chunks and bytes are
missing. For the customer this happens once, when the worker has received
`Finish`. It takes the two counters, admits a record with what they held
and flushes.

So whether all that was counted is reported depends on when the counters
are taken and on whether they are. They are not if 32 customer records are
pending at that moment, which is what a burst leaves behind
(`burst_not_reported`); nor if the worker never receives `Finish`, because
the queue had no room for it and the senders then went away. What is
counted after the counters were taken is not reported either, and a drop
is counted in two steps, so that the counters may be taken between them.
`dropped_output_reported` is the account under conditions that exclude
these.
-/

open DroppedOutput

/-! ## What is reported -/

/-- The drops a record reports: those in the details of evidence of the
customer's. -/
def evidenceOf (record : EncryptedRecord) : DroppedOutput :=
  if record.origin = .customer
      ∧ eventOf record.plaintext = some (LogOrigin.droppedEvent .customer) then
    { chunks := (((record.plaintext.get "details").get "droppedChunks").asU64).getD 0
      bytes := (((record.plaintext.get "details").get "droppedBytes").asU64).getD 0 }
  else ⟨0, 0⟩

/-- The drops some records report together. -/
def reportedTotals (records : List EncryptedRecord) : DroppedOutput where
  chunks := (records.map fun r => (evidenceOf r).chunks).sum
  bytes := (records.map fun r => (evidenceOf r).bytes).sum

/-- The sum of two counts. -/
def DroppedOutput.add (a b : DroppedOutput) : DroppedOutput :=
  ⟨a.chunks + b.chunks, a.bytes + b.bytes⟩

@[simp] theorem DroppedOutput.add_zero (a : DroppedOutput) : a.add ⟨0, 0⟩ = a := rfl

@[simp] theorem DroppedOutput.zero_add (a : DroppedOutput) :
    add ⟨0, 0⟩ a = a := by
  simp [add]

theorem DroppedOutput.eq_zero_of_add {a b : DroppedOutput} (h : a.add b = ⟨0, 0⟩) :
    a = ⟨0, 0⟩ := by
  obtain ⟨hchunks, hbytes⟩ := mk.inj h
  cases a
  exact congrArg₂ mk (Nat.eq_zero_of_add_eq_zero_right hchunks)
    (Nat.eq_zero_of_add_eq_zero_right hbytes)

theorem reportedTotals_append (xs ys : List EncryptedRecord) :
    reportedTotals (xs ++ ys) = (reportedTotals xs).add (reportedTotals ys) := by
  simp [reportedTotals, add]

theorem reportedTotals_singleton (record : EncryptedRecord) :
    reportedTotals [record] = evidenceOf record := by
  simp [reportedTotals]

/-- Only the customer's records report its drops. -/
theorem reportedTotals_ofOrigin (records : List EncryptedRecord) :
    reportedTotals (ofOrigin .customer records) = reportedTotals records := by
  induction records with
  | nil => rfl
  | cons r rest ih =>
    rw [← List.singleton_append, ofOrigin_append, reportedTotals_append, reportedTotals_append,
      ih, ofOrigin_singleton]
    split
    · rfl
    next hr =>
      rw [reportedTotals_singleton, evidenceOf, if_neg fun h => hr h.1]
      rfl

variable {ctx : LogContext} {record : EncryptedRecord} {s t : LogSystem} {a : LogAction}

/-- A chunk's record reports nothing. -/
theorem evidenceOf_chunk {chunk : OutputChunk} (hplain : record.plaintext = chunkRecord ctx chunk) :
    evidenceOf record = ⟨0, 0⟩ := by
  have hevent : eventOf record.plaintext = some outputEvent := by rw [hplain]; rfl
  refine if_neg fun h => ?_
  rw [hevent] at h
  exact absurd h.2 (by decide)

/-- A provider's record reports nothing of the customer's. -/
theorem evidenceOf_runtimeSsh (h : record.origin = .runtimeSsh) :
    evidenceOf record = ⟨0, 0⟩ :=
  if_neg fun hc => absurd hc.1 (by simp [h])

/-- **Evidence reports what it was made from**, as long as that fits in 64
bits. -/
theorem evidenceOf_evidence {timestamp : String} {chunks bytes : ℕ}
    (horigin : record.origin = .customer)
    (hplain : record.plaintext = evidenceRecord ctx timestamp .customer chunks bytes)
    (hchunks : chunks ≤ u64Max) (hbytes : bytes ≤ u64Max) :
    evidenceOf record = ⟨chunks, bytes⟩ := by
  have hu64 : ∀ n : ℕ, n ≤ u64Max → (Json.num n).asU64 = some n := by
    intro n hn
    rw [u64Max] at hn
    rw [Json.asU64, if_pos (by omega), Int.toNat_natCast]
  have hdetails : record.plaintext.get "details" = evidenceDetails ctx .customer chunks bytes := by
    rw [hplain]
    exact details_baseRecord _ _ _ _
  have hevent : eventOf record.plaintext = some (LogOrigin.droppedEvent .customer) := by
    rw [hplain]
    exact eventOf_baseRecord _ _ _ _
  rw [evidenceOf, if_pos ⟨horigin, hevent⟩, hdetails]
  show (⟨((Json.num chunks).asU64).getD 0, ((Json.num bytes).asU64).getD 0⟩ : DroppedOutput) = _
  rw [hu64 chunks hchunks, hu64 bytes hbytes]
  rfl

/-! ## The conditions -/

/-- Every post is accepted and encryption never fails. -/
def PostsAccepted (ctx : LogContext) (s : LogSystem) (a : LogAction) : Prop :=
  ∀ io, a = .worker io →
    (∀ record origin, encryptRecord ctx io.iv record origin ≠ none)
      ∧ (s.pc = .flush ∨ s.pc = .finishFlush → AllAccepted ctx io.flush s.worker)

theorem WellServed.postsAccepted (h : WellServed ctx s a) : PostsAccepted ctx s a := fun io hio =>
  ⟨(h io hio).1, fun hpc => ((h io hio).2.2 hpc).2⟩

/-- **The worker makes its report**: when it turns to the customer's
counters fewer than 32 customer records are pending, its last flushes have
the time and the room for what they send, and if it ends without `Finish`
nothing has been counted. -/
def MakesReport (ctx : LogContext) (s : LogSystem) (a : LogAction) : Prop :=
  ∀ io, a = .worker io →
    (s.pc = .takeChunks .finishCustomer →
      (ofOrigin .customer s.worker.pendingRecords).length < maxBatchRecords)
    ∧ (s.pc = .finishFlush → io.deadlinePassed = false
      ∧ (ofOrigin .customer s.worker.pendingRecords ≠ [] → s.worker.Ready ctx io.flush))
    ∧ (s.pc.disconnecting = true → s.dropped = ⟨0, 0⟩)

/-- **Drops are counted in time**: no counter overflows, and no reader
counts a drop after the worker has taken the counter. -/
def CountedInTime (s : LogSystem) (a : LogAction) : Prop :=
  (∀ io bytes next, a = .worker io →
    (s.pc = .recordChunks .customer bytes next → s.dropped.chunks + 1 ≤ u64Max)
    ∧ (s.pc = .recordBytes .customer bytes next → s.dropped.bytes + bytes ≤ u64Max))
  ∧ ∀ i sender bytes, a = .reader i → s.pc.gone = false →
    (s.readers[i]? = some ⟨sender, .recordChunks bytes⟩ →
      s.pc.phase = .counting ∧ s.dropped.chunks + 1 ≤ u64Max)
    ∧ (s.readers[i]? = some ⟨sender, .recordBytes bytes⟩ →
      (s.pc.phase = .counting ∨ ∃ chunks, s.pc.phase = .taking chunks)
        ∧ s.dropped.bytes + bytes ≤ u64Max)

/-! ## The account -/

/-- **The account of the customer's drops**, by phase: they are in the
counters, then partly in the worker's hands, then in a record. -/
def Accounted (s : LogSystem) : Prop :=
  match s.pc.phase with
  | .counting => s.dropped = s.history.recorded ∧ reportedTotals s.history.admitted = ⟨0, 0⟩
      ∧ s.dropped.chunks ≤ u64Max ∧ s.dropped.bytes ≤ u64Max
  | .taking chunks => chunks = s.history.recorded.chunks
      ∧ s.dropped.bytes = s.history.recorded.bytes
      ∧ reportedTotals s.history.admitted = ⟨0, 0⟩ ∧ chunks ≤ u64Max ∧ s.dropped.bytes ≤ u64Max
  | .reported => reportedTotals s.history.admitted = s.history.recorded
  | .lost => s.history.recorded = ⟨0, 0⟩ ∧ reportedTotals s.history.admitted = ⟨0, 0⟩
  | .broken => True

section Account

variable {ctx : LogContext} {io : StepIo} {s t : LogSystem} {a : LogAction}

/-- Without overflow a count is the sum. -/
theorem saturatingAdd_of_le {a b : ℕ} (h : a + b ≤ u64Max) : saturatingAdd a b = a + b :=
  Nat.min_eq_left h

/-- **Only the worker's own report adds to what is reported.** -/
theorem worker_totals (hs : s.view.Sound) (h : workerStep ctx io s = some t)
    (hpc : ∀ chunks, s.pc ≠ .takeBytes .finishCustomer chunks) :
    reportedTotals t.history.admitted = reportedTotals s.history.admitted := by
  have hadd : ∀ record : EncryptedRecord, evidenceOf record = ⟨0, 0⟩ →
      t.history.admitted = s.history.admitted ++ [record] →
      reportedTotals t.history.admitted = reportedTotals s.history.admitted := by
    intro record hzero hadmitted
    rw [hadmitted, reportedTotals_append, reportedTotals_singleton, hzero,
      add_zero]
  cases (worker_step h).effect with
  | move hview => exact congrArg reportedTotals (congrArg View.admitted hview)
  | chunk chunk rest w record _ _ hadm hview =>
    obtain ⟨-, hplain, -, -⟩ := admitChunk_eq_some hs.ordered hs.carries hadm
    exact hadd record (evidenceOf_chunk hplain) (congrArg View.admitted hview)
  | drop _ _ _ _ _ hview | finish _ _ hview =>
    exact congrArg reportedTotals (congrArg View.admitted hview)
  | runtimeSsh r w record hadm hview =>
    obtain ⟨horigin, -, -⟩ := admitRuntimeSsh_eq_some hs.ordered hs.carries hadm
    exact hadd record (evidenceOf_runtimeSsh horigin) (congrArg View.admitted hview)
  | evidence e chunks w record hp _ hadm hview =>
    obtain ⟨horigin, -, -, -⟩ := admitEvidence_eq_some hs.ordered hs.carries hadm
    refine hadd record (evidenceOf_runtimeSsh (horigin.trans ?_)) (congrArg View.admitted hview)
    cases e with
    | finishCustomer => exact absurd hp (hpc chunks)
    | _ => rfl
  | flush _ hview => exact congrArg reportedTotals (congrArg View.admitted hview)

/-- **The report carries what was taken.** -/
theorem worker_reports (hs : s.view.Sound) (h : workerStep ctx io s = some t) {chunks : ℕ}
    (hencrypt : ∀ record origin, encryptRecord ctx io.iv record origin ≠ none)
    (hpc : s.pc = .takeBytes .finishCustomer chunks) (hchunks : chunks ≤ u64Max)
    (hbytes : s.dropped.bytes ≤ u64Max)
    (hzero : reportedTotals s.history.admitted = ⟨0, 0⟩) :
    reportedTotals t.history.admitted = ⟨chunks, s.dropped.bytes⟩ := by
  unfold workerStep at h
  simp only [hpc] at h
  split at h
  next hnone =>
    cases h
    rw [hnone.1, show s.dropped.bytes = 0 from hnone.2]
    exact hzero
  · split at h <;> cases h
    next w record hadm =>
      obtain ⟨horigin, hplain, -, -⟩ := admitEvidence_eq_some hs.ordered hs.carries hadm
      show reportedTotals (s.history.admitted ++ [record]) = _
      rw [reportedTotals_append, hzero, reportedTotals_singleton, zero_add]
      exact evidenceOf_evidence horigin hplain hchunks hbytes
    next hadm =>
      unfold admitEvidence at hadm
      obtain ⟨r, hr⟩ := Option.ne_none_iff_exists'.mp
        (hencrypt (evidenceRecord ctx io.timestamp .customer chunks s.dropped.bytes) .customer)
      have hr' : encryptRecord ctx io.iv (evidenceRecord ctx io.timestamp
          Evidence.finishCustomer.origin chunks
          (LogSystem.droppedOf Evidence.finishCustomer.origin s).bytes)
            Evidence.finishCustomer.origin = some r := hr
      rw [hr'] at hadm
      exact absurd hadm (by simp [Evidence.origin])

/-- A drop that is counted before the counters are taken stays in the
account. -/
theorem accounted_countChunk (hacc : Accounted s) (hphase : s.pc.phase = .counting)
    (hroom : s.dropped.chunks + 1 ≤ u64Max) (ht : t.pc.phase = .counting)
    (htotals : reportedTotals t.history.admitted = reportedTotals s.history.admitted)
    (hdropped : t.dropped = s.dropped.countChunk)
    (hrecorded : t.history.recorded
      = { s.history.recorded with chunks := s.history.recorded.chunks + 1 }) : Accounted t := by
  unfold Accounted at hacc ⊢
  rw [hphase] at hacc
  rw [ht]
  obtain ⟨heq, hzero, hc, hb⟩ := hacc
  refine ⟨?_, htotals.trans hzero, ?_, ?_⟩
  · rw [hdropped, hrecorded, ← heq, countChunk, saturatingAdd_of_le hroom]
  · rw [hdropped]
    exact Nat.min_le_right _ _
  · rw [hdropped]
    exact hb

/-- So do its bytes. -/
theorem accounted_countBytes {bytes : ℕ} (hacc : Accounted s) (hphase : s.pc.phase = .counting)
    (hroom : s.dropped.bytes + bytes ≤ u64Max) (ht : t.pc.phase = .counting)
    (htotals : reportedTotals t.history.admitted = reportedTotals s.history.admitted)
    (hdropped : t.dropped = s.dropped.countBytes bytes)
    (hrecorded : t.history.recorded
      = { s.history.recorded with bytes := s.history.recorded.bytes + bytes }) :
    Accounted t := by
  unfold Accounted at hacc ⊢
  rw [hphase] at hacc
  rw [ht]
  obtain ⟨heq, hzero, hc, hb⟩ := hacc
  refine ⟨?_, htotals.trans hzero, ?_, ?_⟩
  · rw [hdropped, hrecorded, ← heq, countBytes, saturatingAdd_of_le hroom]
  · rw [hdropped]
    exact hc
  · rw [hdropped]
    exact Nat.min_le_right _ _

/-- Once the worker is gone the account is closed: the counters are no
longer part of it. -/
theorem accounted_of_gone (hacc : Accounted s) (hgone : s.pc.gone = true) (ht : t.pc = s.pc)
    (hadmitted : t.history.admitted = s.history.admitted)
    (hrecorded : t.history.recorded = s.history.recorded) : Accounted t := by
  unfold Accounted at hacc ⊢
  rw [ht, hadmitted, hrecorded]
  cases hp : s.pc with
  | stopped acknowledged =>
    rw [hp] at hacc
    cases acknowledged <;> exact hacc
  | panicked => trivial
  | _ => simp [hp, Pc.gone] at hgone

/-- **A step of the worker keeps the account.** -/
theorem worker_accounted (hs : s.view.Sound) (hacc : Accounted s)
    (hposts : PostsAccepted ctx s (.worker io)) (hreport : MakesReport ctx s (.worker io))
    (htime : CountedInTime s (.worker io)) (h : workerStep ctx io s = some t) : Accounted t := by
  obtain ⟨hencrypt, -⟩ := hposts io rfl
  obtain ⟨hroom, -, hlost⟩ := hreport io rfl
  cases (worker_step h).counters with
  | same hdropped hrecorded hphase htaking =>
    have htotals := worker_totals hs h fun chunks hpc => htaking chunks (by rw [hpc]; rfl)
    unfold Accounted at hacc ⊢
    rw [hphase]
    cases hp : s.pc.phase with
    | taking chunks => exact absurd hp (htaking chunks)
    | broken => trivial
    | _ =>
      rw [hp] at hacc
      simp only [hdropped, hrecorded, htotals] at hacc ⊢
      exact hacc
  | chunk bytes next hpc hdropped hrecorded hphase =>
    exact accounted_countChunk hacc (by rw [hpc]; rfl) ((htime.1 io bytes next rfl).1 hpc) hphase
      (worker_totals hs h fun chunks hp => by simp [hpc] at hp) hdropped hrecorded
  | bytes bytes next hpc hdropped hrecorded hphase =>
    exact accounted_countBytes hacc (by rw [hpc]; rfl) ((htime.1 io bytes next rfl).2 hpc) hphase
      (worker_totals hs h fun chunks hp => by simp [hpc] at hp) hdropped hrecorded
  | skip hpc hfull => exact absurd (hroom hpc) (not_lt.mpr hfull)
  | take hpc ht hbytes hrecorded =>
    have htotals := worker_totals hs h fun chunks hp => by simp [hpc] at hp
    unfold Accounted at hacc ⊢
    rw [hpc] at hacc
    obtain ⟨heq, hzero, hc, hb⟩ := hacc
    rw [ht]
    exact ⟨by rw [hrecorded, ← heq], by rw [hbytes, hrecorded, ← heq], htotals.trans hzero, hc,
      hbytes ▸ hb⟩
  | report chunks hpc hphase hrecorded =>
    unfold Accounted at hacc ⊢
    rw [hpc] at hacc
    obtain ⟨hchunks, hbytes, hzero, hc, hb⟩ := hacc
    rw [hphase]
    show reportedTotals t.history.admitted = t.history.recorded
    rw [worker_reports hs h hencrypt hpc hc hb hzero, hrecorded, hchunks, hbytes]
  | lose hpc ht hrecorded =>
    have hcounting : s.pc.phase = .counting := by
      unfold Pc.disconnecting at hpc
      split at hpc
      case h_1 hp => rw [hp]; rfl
      case h_2 hp => rw [hp]; rfl
      case h_3 => cases hpc
    have htotals := worker_totals hs h fun chunks hp => by simp [hp, Pc.disconnecting] at hpc
    unfold Accounted at hacc ⊢
    rw [hcounting] at hacc
    rw [ht]
    exact ⟨by rw [hrecorded, ← hacc.1, hlost hpc], htotals.trans hacc.2.1⟩
  | panic ht => rw [Accounted, ht]; trivial

/-- **A step of a producer keeps the account**, if it counts in time. -/
theorem producer_accounted (hacc : Accounted s) (ha : ∀ io, a ≠ .worker io)
    (htime : CountedInTime s a) (h : logStep ctx s a = some t) : Accounted t := by
  obtain ⟨hpc, heffect, -, -⟩ := producer_step ha h
  have hadmitted : t.history.admitted = s.history.admitted := by
    cases heffect with
    | frame _ hview | queue _ hview | finish _ hview => exact congrArg View.admitted hview
  have htotals := congrArg reportedTotals hadmitted
  cases (producer_step ha h).counters with
  | same hdropped hrecorded =>
    unfold Accounted at hacc ⊢
    rwa [hpc, hadmitted, hdropped, hrecorded]
  | chunk i sender bytes hi hreader hdropped hrecorded =>
    cases hgone : s.pc.gone with
    | true => exact accounted_of_gone hacc hgone hpc hadmitted (hrecorded.trans (if_pos hgone))
    | false =>
      obtain ⟨hphase, hroom⟩ := (htime.2 i sender bytes hi hgone).1 hreader
      exact accounted_countChunk hacc hphase hroom (by rw [hpc, hphase]) htotals hdropped
        (hrecorded.trans (if_neg (by simp [hgone])))
  | bytes i sender bytes hi hreader hdropped hrecorded =>
    cases hgone : s.pc.gone with
    | true => exact accounted_of_gone hacc hgone hpc hadmitted (hrecorded.trans (if_pos hgone))
    | false =>
      have hadd := hrecorded.trans (if_neg (by simp [hgone]))
      obtain ⟨hcounted, hroom⟩ := (htime.2 i sender bytes hi hgone).2 hreader
      rcases hcounted with hphase | ⟨chunks, hphase⟩
      · exact accounted_countBytes hacc hphase hroom (by rw [hpc, hphase]) htotals hdropped hadd
      · -- the bytes still reach the counter that has not been taken
        have hsum : t.dropped.bytes = s.dropped.bytes + bytes := by
          rw [hdropped]
          exact saturatingAdd_of_le hroom
        unfold Accounted at hacc ⊢
        rw [hphase] at hacc
        rw [hpc, hphase]
        obtain ⟨hchunks, hbytes, hzero, hc, -⟩ := hacc
        exact ⟨by rw [hadd, hchunks], by rw [hsum, hadd, hbytes], htotals.trans hzero, hc,
          hsum ▸ hroom⟩

end Account

/-- **What holds all along** a run whose drops are counted in time and
whose worker makes its report. -/
structure EvidenceInvariant (s : LogSystem) : Prop where
  sound : s.view.Sound
  noBatch : s.worker.pendingBatch = none
  accounted : Accounted s
  acknowledged : s.pc = .stopped true → ofOrigin .customer s.worker.pendingRecords = []

/-- A step keeps it. -/
theorem step_evidenceInvariant (hs : EvidenceInvariant s)
    (hok : PostsAccepted ctx s a ∧ MakesReport ctx s a ∧ CountedInTime s a)
    (h : logStep ctx s a = some t) : EvidenceInvariant t := by
  obtain ⟨hposts, hreport, htime⟩ := hok
  have hsound : t.view.Sound := step_sound hs.sound
    (fun _ _ _ _ _ b hb => absurd hb (by simp [hs.noBatch])) h
  rcases a.worker_or with ⟨io, rfl⟩ | ha
  · refine ⟨hsound, worker_noBatch hs.noBatch (hposts io rfl).2 h,
      worker_accounted hs.sound hs.accounted hposts hreport htime h, fun hstop => ?_⟩
    have hpc := (worker_acknowledges h hstop).1
    obtain ⟨-, hflush, -⟩ := hreport io rfl
    exact acknowledged_empty hs.sound (hflush hpc).1 (hflush hpc).2
      (fun hpc => (hposts io rfl).2 (Or.inr hpc)) h hstop
  · obtain ⟨hpc, heffect, -, -⟩ := producer_step ha h
    have hworker : t.worker = s.worker := by
      cases heffect with
      | frame _ hview | queue _ hview | finish _ hview => exact congrArg View.worker hview
    refine ⟨hsound, hworker ▸ hs.noBatch, producer_accounted hs.accounted ha htime h, ?_⟩
    rw [hpc, hworker]
    exact hs.acknowledged

/-- **Dropped output is reported.** In every run in which posts are
accepted and encryption does not fail, drops are counted in time and the
worker makes its report, once the worker has stopped the evidence in the
accepted batches adds up to the customer's drops counted while it
ran. -/
theorem dropped_output_reported {ctx : LogContext} {s : LogSystem} {acknowledged : Bool}
    (h : Reaches (logStep ctx)
      (fun s a => PostsAccepted ctx s a ∧ MakesReport ctx s a ∧ CountedInTime s a)
      LogSystem.initial s)
    (hstop : s.pc = .stopped acknowledged) :
    reportedTotals (acceptedRecords s.history.posts) = s.history.recorded := by
  have hinv := h.invariant EvidenceInvariant
    ⟨sound_initial, rfl, ⟨rfl, rfl, by decide, by decide⟩,
      fun h => absurd h (by simp [LogSystem.initial])⟩
    fun u a v hu hok hstep => step_evidenceInvariant hu hok hstep
  have hconserved := congrArg reportedTotals (hinv.sound.conserved .customer)
  rw [reportedTotals_ofOrigin, reportedTotals_ofOrigin, reportedTotals_append] at hconserved
  have haccounted := hinv.accounted
  unfold Accounted at haccounted
  rw [hstop] at haccounted
  cases acknowledged with
  | true =>
    have hpending : reportedTotals s.worker.pendingRecords = ⟨0, 0⟩ := by
      rw [← reportedTotals_ofOrigin, hinv.acknowledged hstop]
      rfl
    rw [show s.view.worker = s.worker from rfl, hpending, add_zero] at hconserved
    exact hconserved.symm.trans haccounted
  | false =>
    obtain ⟨hrecorded, hzero⟩ := haccounted
    rw [hrecorded]
    exact eq_zero_of_add (hconserved.symm.trans hzero)

/-! ## A drop that goes unreported -/

/-- **A burst is not reported.** With every post accepted and `Finish`
received, one chunk is counted as dropped, and the accepted batches hold
no evidence of it: 32 records were pending when the worker turned to the
counters. -/
theorem burst_not_reported :
    ∃ s, Reaches (logStep sampleContext) (PostsAccepted sampleContext) LogSystem.initial s
      ∧ s.pc = .stopped true ∧ s.history.recorded = ⟨1, 1⟩
      ∧ reportedTotals (acceptedRecords s.history.posts) = ⟨0, 0⟩ := by
  obtain ⟨b, henc, hreach⟩ := reaches_burstAcknowledged
  refine ⟨(finishState 33 1 burstPending).acknowledged b, hreach.mono fun _ _ hok => hok.postsAccepted, rfl, rfl, ?_⟩
  have haccepted : acceptedRecords ((finishState 33 1 burstPending).acknowledged b).history.posts
      = burstPending := by
    rw [← henc]
    exact List.append_nil _
  have hzero : evidenceOf sealedChunk = ⟨0, 0⟩ := evidenceOf_chunk rfl
  rw [haccepted, burstPending_eq, reportedTotals, List.map_replicate, List.map_replicate, hzero]
  rfl

/-! ## A drop that is reported -/

/-- A reader that starts after the program has ended finds no sender, and
counts what it reads as dropped; then the worker receives `Finish`. -/
def lateChunk : List LogAction :=
  [.finish, .spawnReader, .readChunk 0 sampleChunk false, .reader 0, .reader 0]
    ++ List.replicate 9 (.worker (sampleStep 40))

/-- A step in the run: no post, room for a report, and drops counted while
the worker polls. -/
def timely (s : LogSystem) (a : LogAction) : Bool :=
  quiet s a && !s.pc.disconnecting
    && (ofOrigin .customer s.worker.pendingRecords).length < maxBatchRecords
    && match s.pc, a with
      | .recordChunks .customer _ _, .worker _ => false
      | .recordBytes .customer _ _, .worker _ => false
      | .poll, .reader i =>
        match s.readers[i]? with
        | some ⟨_, .recordChunks _⟩ => s.dropped.chunks + 1 ≤ u64Max
        | some ⟨_, .recordBytes bytes⟩ => s.dropped.bytes + bytes ≤ u64Max
        | _ => true
      | _, .reader _ => false
      | _, _ => true

/-- The state before the last flush. -/
def lateState : LogSystem :=
  { finishState 0 0 [burstEvidence] with
    budget := 1
    readers := [⟨false, .idle⟩]
    history :=
      { (finishState 0 0 [burstEvidence]).history with recorded := ⟨1, 1⟩ } }

section Late

variable {s : LogSystem} {a : LogAction}

theorem postsAccepted_timely (ha : a ∈ lateChunk) (h : timely s a = true) :
    PostsAccepted sampleContext s a := by
  intro io hio
  have hio' : io = sampleStep 40 := by
    simp only [lateChunk, List.mem_append, List.mem_cons, List.mem_replicate, hio] at ha
    simpa using ha
  subst hio'
  refine ⟨encryptRecord_sample 40, fun hpc => ?_⟩
  rcases hpc with hpc | hpc <;> simp [timely, quiet, hpc] at h

theorem makesReport_timely (h : timely s a = true) : MakesReport sampleContext s a := by
  intro io _
  simp only [timely, Bool.and_eq_true, Bool.not_eq_true', decide_eq_true_eq] at h
  obtain ⟨⟨⟨hquiet, hdisconnecting⟩, hroom⟩, -⟩ := h
  refine ⟨fun _ => hroom, fun hpc => ?_, fun hpc => ?_⟩
  · simp [quiet, hpc] at hquiet
  · simp [hdisconnecting] at hpc

theorem countedInTime_timely (h : timely s a = true) : CountedInTime s a := by
  simp only [timely, Bool.and_eq_true] at h
  obtain ⟨-, h⟩ := h
  refine ⟨fun io bytes next ha => ?_, fun i sender bytes ha _ => ?_⟩
  · subst ha
    constructor <;> intro hpc <;> simp [hpc] at h
  · subst ha
    split at h
    case h_3 i' hpc ha =>
      obtain rfl := LogAction.reader.inj ha
      constructor <;> intro hreader <;> simp only [hreader, decide_eq_true_eq] at h
      · exact ⟨by rw [hpc]; rfl, h⟩
      · exact ⟨Or.inl (by rw [hpc]; rfl), h⟩
    all_goals simp_all

/-- The conditions at the last flush. -/
theorem makesReport_lastFlush (hpc : s.pc = .finishFlush)
    (hready : ofOrigin .customer s.worker.pendingRecords ≠ [] →
      s.worker.Ready sampleContext (sampleIo 40)) :
    MakesReport sampleContext s (.worker (sampleStep 40))
      ∧ CountedInTime s (.worker (sampleStep 40)) := by
  refine ⟨fun io hio => ?_, fun io bytes next _ => ?_, fun i sender bytes ha => by cases ha⟩
  · obtain rfl := LogAction.worker.inj hio
    exact ⟨by simp [hpc], fun _ => ⟨rfl, hready⟩, by simp [hpc, Pc.disconnecting]⟩
  · constructor <;> simp [hpc]

end Late

set_option maxRecDepth 10000 in
/-- The chunk that came late is reported: the evidence in the batch says
that one chunk of one byte is missing. -/
theorem lateChunk_reported :
    ∃ b, Reaches (logStep sampleContext)
        (fun s a => PostsAccepted sampleContext s a ∧ MakesReport sampleContext s a
          ∧ CountedInTime s a)
        LogSystem.initial (lateState.acknowledged b)
      ∧ reportedTotals (acceptedRecords [⟨b, [burstEvidence], true, []⟩]) = ⟨1, 1⟩ := by
  have hvalue : ∀ r ∈ [burstEvidence], r.value = sampleValue := by
    intro r hr
    rw [List.mem_singleton.mp hr]
    rfl
  obtain ⟨b, henc, hflush⟩ := flushOnce_sample (w := ⟨none, [burstEvidence], none⟩) rfl hvalue
  have hone : b.encrypted.length = 1 := by rw [henc]; rfl
  rw [hone] at hflush
  have hrun : runActions (logStep sampleContext) timely LogSystem.initial lateChunk
      = some lateState := rfl
  have hok : ∀ a ∈ lateChunk, ∀ s, timely s a = true → PostsAccepted sampleContext s a
      ∧ MakesReport sampleContext s a ∧ CountedInTime s a := fun a ha s h =>
    ⟨postsAccepted_timely ha h, makesReport_timely h, countedInTime_timely h⟩
  have hreach := reaches_of_runActions hok Reaches.refl hrun
  obtain ⟨hfirst, hsecond⟩ := wellServed_lastFlush (s := lateState) rfl hflush
  have hready : LogWorker.Ready sampleContext (sampleIo 40) ⟨none, [burstEvidence], none⟩ :=
    fun _ _ => ⟨sampleSink, rfl, hasRoom_sampleSink _,
      (allFit_sample (Or.inl rfl) hvalue).firstFits sampleContext sampleSink,
      (allFit_sample (Or.inl rfl) hvalue).gapFree sampleContext sampleSink⟩
  have hstopped := reaches_acknowledged rfl rfl (by simp) hflush
    ⟨hfirst.postsAccepted, makesReport_lastFlush rfl fun _ => hready⟩
    ⟨hsecond.postsAccepted, makesReport_lastFlush rfl fun h => absurd rfl h⟩ hreach
  exact ⟨b, hstopped, dropped_output_reported hstopped rfl⟩
