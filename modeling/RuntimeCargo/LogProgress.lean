import RuntimeCargo.LogFlush

/-!
# Whether the log makes progress

A flush that is accepted makes the pending list shorter, so a worker whose
posts are accepted should empty its list in as many flushes as it has
records. It does (`buildBatch_gapFree_and_flushes_empty`) as long as the
records the selection stops at leave room for the identifier of the batch
(`GapFree`). The 79 bytes between the two measurements are all that can go
wrong.

When they do, nothing recovers. The build fails before anything is posted
and changes nothing, so the next flush chooses the same records and fails
the same way: `nearFullBatch_stalls` exhibits eleven records of ordinary
size, each of which could be sent on its own, from which no number of
flushes ever sends one.
-/

/-- The worker after a number of flushes, each with its own answers from
the world. -/
def flushes (ctx : LogContext) (io : ℕ → FlushIo) : ℕ → LogWorker → LogWorker
  | 0, w => w
  | n + 1, w => (flushOnce ctx (io n) (flushes ctx io n w)).worker

section Runs

variable {ctx : LogContext} {io : ℕ → FlushIo} {w : LogWorker}

/-- The outstanding batch carries the front of the list after any number
of flushes. -/
theorem flushes_carries (ctx : LogContext) (io : ℕ → FlushIo) (hw : w.Carries) (n : ℕ) :
    (flushes ctx io n w).Carries := by
  induction n with
  | zero => exact hw
  | succ n ih => exact (flushOnce_sound ctx (io n) ih).carries

/-- **Each flush sends something.** The list is empty or has lost a record
for each flush. -/
theorem flushes_length (hw : w.Carries) {n : ℕ}
    (hrun : ∀ i < n, (flushes ctx io i w).Ready ctx (io i)
      ∧ AllAccepted ctx (io i) (flushes ctx io i w)) :
    (flushes ctx io n w).pendingRecords = []
      ∨ (flushes ctx io n w).pendingRecords.length + n ≤ w.pendingRecords.length := by
  induction n with
  | zero => exact Or.inr (le_refl _)
  | succ n ih =>
    have hcarries := flushes_carries ctx io hw n
    obtain ⟨hready, hacc⟩ := hrun n (Nat.lt_succ_self n)
    by_cases hne : (flushes ctx io n w).pendingRecords = []
    · -- what is left of an empty list is empty
      have hsplit := (flushOnce_sound ctx (io n) hcarries).split
      rw [hne] at hsplit
      exact Or.inl (List.append_eq_nil_iff.mp hsplit).2
    · obtain ⟨-, -, hlt⟩ := flushOnce_progress hcarries hready hacc hne
      have hle := (ih fun i hi => hrun i (Nat.lt_succ_of_lt hi)).resolve_left hne
      right
      rw [flushes]
      omega

end Runs

/-- **The log makes progress exactly when batches leave room for their
identifiers.** A build from a list whose first record fits returns a
non-empty batch of the front origin's first records, within the limit,
if and only if the records selected leave room for the identifier; and
where they do, accepted flushes empty the list. -/
theorem buildBatch_gapFree_and_flushes_empty (ctx : LogContext) :
    (∀ (resolved : ResolvedSink) (pending : List EncryptedRecord) (clock : ℕ → String),
      pending ≠ [] → HasRoom resolved pending → FirstFits ctx resolved pending clock →
      ((∃ b, buildBatch ctx (some resolved) pending clock = some b
          ∧ b.encrypted ≠ [] ∧ b.encrypted <+: frontRun b.origin pending
          ∧ (∃ front, pending.head? = some front ∧ b.origin = front.origin)
          ∧ b.size ≤ maxBatchBytes)
        ↔ GapFree ctx resolved pending clock))
    ∧ (∀ (io : ℕ → FlushIo) (w : LogWorker) (n : ℕ), w.Carries →
      (∀ i < n, (flushes ctx io i w).Ready ctx (io i)
        ∧ AllAccepted ctx (io i) (flushes ctx io i w)) →
      w.pendingRecords.length ≤ n → (flushes ctx io n w).pendingRecords = []) := by
  constructor
  · intro resolved pending clock hne hroom hfirst
    rw [← buildBatch_isSome_iff ctx resolved hne hroom hfirst]
    constructor
    · rintro ⟨b, hb, -⟩
      exact ⟨b, hb⟩
    · rintro ⟨b, hb⟩
      obtain ⟨hne, hpre, hsize, hfront, -⟩ := buildBatch_eq_some hb
      exact ⟨b, hb, hne, hpre, hfront, hsize⟩
  · intro io w n hw hrun hlen
    rcases flushes_length hw hrun with hnil | hle
    · exact hnil
    · exact List.eq_nil_of_length_eq_zero (by omega)

/-! ## A batch that is never sent -/

/-- **The size of a batch** is that of an empty batch at the start of a
chain, of what it says of its place in the chain, and of its records with
a comma between them. -/
theorem encodedSize_eq (ctx : LogContext) (resolved : ResolvedSink) (origin : LogOrigin)
    (records : List EncryptedRecord) (createdAt : String) :
    encodedSize ctx resolved origin records createdAt + 6
      = Json.size (Batch.toJson
          { sinkId := resolved.sinkId
            jobId := resolved.jobId
            writerPublicKey := ctx.publicKeyHex
            sequenceStart := 0
            sequenceEnd := 0
            previousHash := none
            createdAt := createdAt
            encrypted := []
            labels := ctx.labels
            origin := origin
            batchId := none })
        + (Json.num (resolved.nextSequence : ℕ)).size
        + (Json.num (resolved.nextSequence + (records.length - 1) : ℕ)).size
        + ((resolved.previousHash.map Json.str).getD .null).size
        + ((records.map fun r => r.value.size + 1).sum - 1) := by
  have hzero : (Json.num (0 : ℕ)).size = 1 := by decide
  have hnull : Json.null.size = 4 := by decide
  simp only [encodedSize, Batch.size, size_canonicalJsonBytes, Batch.toJson, Batch.members,
    Json.size_obj, Json.memberSize, Json.size_arr, List.map_map, List.map_cons, List.map_nil,
    List.cons_append, List.nil_append, Option.map_none, Option.getD_none, Option.toList_none,
    List.sum_cons, List.sum_nil, Function.comp_def, hzero, hnull]
  omega

/-- A worker's context for concrete runs. The ciphers of the examples hide
nothing; only the lengths and the shape of what they return matter. -/
def sampleContext : LogContext where
  labels := ⟨"app", "deployment", "instance"⟩
  mode := .prebound "sink" "job" "https://log/sinks/sink/events" "https://log/sinks/sink/resume"
  context := none
  publicKeyHex := String.ofList (List.replicate 64 'a')
  sha256 _ := Vector.replicate 32 0
  base64Url bytes := hexEncode bytes
  sealInPlaceAppendTag _ _ := some (List.replicate 16 0)
  normalizedHttpsUrl := some
  encodePathSegment := id

/-- The sink of that context at the start of its chain. -/
def sampleSink : ResolvedSink where
  sinkId := "sink"
  jobId := "job"
  writeUrl := "https://log/sinks/sink/events"
  resumeUrl := "https://log/sinks/sink/resume"
  nextSequence := 1
  previousHash := none

/-- A reading of the clock. -/
def sampleTime : String := "2026-01-01T00:00:00.000Z"

/-- A customer record whose ciphertext is 17776 bytes, which an output
chunk of control characters reaches: 23702 characters in base64. -/
def longRecord : EncryptedRecord where
  value := sealedValue (String.ofList (List.replicate 16 'A'))
    (String.ofList (List.replicate 23702 'A')) (String.ofList (List.replicate 22 'A'))
  origin := .customer
  plaintext := .null

/-- The bytes of a string of one plain character. -/
theorem size_str_replicate (n : ℕ) :
    (Json.str (String.ofList (List.replicate n 'A'))).size = n + 2 := by
  have hplain : ∀ c ∈ (String.ofList (List.replicate n 'A')).toList, Json.Plain c := by
    intro c hc
    rw [String.toList_ofList] at hc
    rw [List.eq_of_mem_replicate hc]
    decide
  rw [Json.size_str_of_plain hplain]
  induction n with
  | zero => rfl
  | succ n ih =>
    have hn : (String.ofList (List.replicate n 'A')).utf8ByteSize = n := by
      have := ih fun c hc => hplain c (by
        rw [String.toList_ofList] at hc ⊢
        exact List.mem_cons_of_mem _ hc)
      omega
    rw [List.replicate_succ, ← List.singleton_append, String.ofList_append,
      String.utf8ByteSize_append, hn, ← String.singleton_eq_ofList,
      String.utf8ByteSize_singleton, show ('A').utf8Size = 1 from rfl]
    omega

/-- The bytes of a sealed record, by the length of its ciphertext. -/
theorem size_sealedValue_replicate (n : ℕ) :
    (sealedValue (String.ofList (List.replicate 16 'A'))
      (String.ofList (List.replicate n 'A'))
      (String.ofList (List.replicate 22 'A'))).size = n + 94 := by
  have hrest : Json.memberSize ("v", .num 1) = 5 ∧ Json.memberSize ("alg", .str "A256GCM") = 15
      ∧ (Json.quote "iv").utf8ByteSize = 4 ∧ (Json.quote "ciphertext").utf8ByteSize = 12
      ∧ (Json.quote "tag").utf8ByteSize = 5 := by
    decide
  obtain ⟨hv, halg, hiv, hct, htag⟩ := hrest
  rw [sealedValue, Json.size_obj]
  simp only [List.map_cons, List.map_nil, List.sum_cons, List.sum_nil, hv, halg]
  simp only [Json.memberSize, size_str_replicate, hiv, hct, htag]
  omega

/-- The size of an empty batch of the sample sink. -/
theorem size_sampleFrame (origin : LogOrigin) :
    Json.size (Batch.toJson
      { sinkId := sampleSink.sinkId
        jobId := sampleSink.jobId
        writerPublicKey := sampleContext.publicKeyHex
        sequenceStart := 0
        sequenceEnd := 0
        previousHash := none
        createdAt := sampleTime
        encrypted := []
        labels := sampleContext.labels
        origin := origin
        batchId := none })
      = match origin with | .customer => 376 | .runtimeSsh => 377 := by
  simp only [Batch.toJson, Batch.members, Json.size_obj, Json.memberSize, List.map_cons,
    List.cons_append, List.nil_append, Option.map_none, Option.toList_none, List.map_nil,
    List.sum_cons, List.sum_nil]
  cases origin <;> decide +kernel

/-- The size of a batch of the first `n` of eleven such records. -/
theorem encodedSize_longRecord {n : ℕ} (hn : n < 12) (hpos : 0 < n) :
    encodedSize sampleContext sampleSink .customer (List.replicate n longRecord) sampleTime
      = 376 + (if n < 10 then 0 else 1) + (n * 23797 - 1) := by
  have hsize : longRecord.value.size + 1 = 23797 :=
    congrArg (· + 1) (size_sealedValue_replicate 23702)
  have hdigits : ∀ m < 12, 0 < m →
      (Json.num (1 + (m - 1) : ℕ)).size = 1 + if m < 10 then 0 else 1 := by
    decide
  have hone : (Json.num (1 : ℕ)).size = 1 := by decide
  have hnull : ((sampleSink.previousHash.map Json.str).getD .null).size = 4 := by decide
  have heq := encodedSize_eq sampleContext sampleSink .customer
    (List.replicate n longRecord) sampleTime
  rw [size_sampleFrame, hnull, List.map_replicate, List.sum_replicate_nat, hsize,
    List.length_replicate, show sampleSink.nextSequence = 1 from rfl, hone,
    hdigits n hn hpos] at heq
  dsimp only at heq
  omega

/-- Eleven of them. -/
def nearFullPending : List EncryptedRecord := List.replicate 11 longRecord

/-- All eleven are the front run. -/
theorem frontRun_nearFullPending : frontRun .customer nearFullPending = nearFullPending := by
  rw [frontRun, nearFullPending, List.takeWhile_replicate,
    if_pos (by decide), List.take_replicate]
  rfl

/-- **The selection takes all eleven records**, for it does not count the
identifier. -/
theorem stopsAt_nearFullPending :
    StopsAt sampleContext sampleSink .customer (fun _ => sampleTime) nearFullPending 11 := by
  refine ⟨le_refl _, ?_, Or.inl rfl⟩
  intro m hm hle
  rw [nearFullPending, List.take_replicate, Nat.min_eq_left hle,
    encodedSize_longRecord (by omega) hm, maxBatchBytes]
  split <;> omega

/-- Each of the records could be sent on its own. -/
theorem firstFits_longRecord (rest : List EncryptedRecord) :
    FirstFits sampleContext sampleSink (longRecord :: rest) fun _ => sampleTime := by
  intro front hfront i
  cases hfront
  have hone : encodedSize sampleContext sampleSink .customer [longRecord] sampleTime = 24172 :=
    encodedSize_longRecord (n := 1) (by decide) (by decide)
  rw [show longRecord.origin = .customer from rfl, hone]
  decide

/-- There is room for the sequence at the start of a chain. -/
theorem hasRoom_sampleSink (pending : List EncryptedRecord) : HasRoom sampleSink pending := by
  intro front _
  have hle : (frontRun front.origin pending).length ≤ 32 := List.length_take_le _ _
  rw [show sampleSink.nextSequence = 1 from rfl, u64Max]
  omega

/-- **Eleven records that are never sent.** The first of them fits in a
batch with its identifier and there is room for the sequence, but the
batch of all eleven is one byte short of the limit before its identifier,
so it is selected and then refused; and no number of flushes, whatever the
service answers, changes that. -/
theorem nearFullBatch_stalls :
    nearFullPending ≠ [] ∧ HasRoom sampleSink nearFullPending
      ∧ FirstFits sampleContext sampleSink nearFullPending (fun _ => sampleTime)
      ∧ buildBatch sampleContext (some sampleSink) nearFullPending (fun _ => sampleTime) = none
      ∧ ∀ io : ℕ → FlushIo, (∀ n, (io n).clock 0 = fun _ => sampleTime) → ∀ n,
        (flushes sampleContext io n ⟨some sampleSink, nearFullPending, none⟩).pendingRecords
          = nearFullPending := by
  have hne : nearFullPending ≠ [] := by simp [nearFullPending]
  have hroom := hasRoom_sampleSink nearFullPending
  have hfirst : FirstFits sampleContext sampleSink nearFullPending fun _ => sampleTime :=
    firstFits_longRecord _
  have hnone : buildBatch sampleContext (some sampleSink) nearFullPending
      (fun _ => sampleTime) = none := by
    rw [Option.eq_none_iff_forall_ne_some]
    intro b hb
    have hgap := (buildBatch_isSome_iff sampleContext sampleSink hne hroom hfirst).mp ⟨b, hb⟩
    have hfit := hgap longRecord rfl 11 (by
      rw [show longRecord.origin = .customer from rfl, frontRun_nearFullPending]
      exact stopsAt_nearFullPending)
    rw [show longRecord.origin = .customer from rfl, frontRun_nearFullPending,
      show nearFullPending.take 11 = List.replicate 11 longRecord from rfl,
      encodedSize_longRecord (by decide) (by decide)] at hfit
    exact absurd hfit (by decide)
  refine ⟨hne, hroom, hfirst, hnone, ?_⟩
  intro io hclock n
  have hstay : flushes sampleContext io n ⟨some sampleSink, nearFullPending, none⟩
      = ⟨some sampleSink, nearFullPending, none⟩ := by
    induction n with
    | zero => rfl
    | succ n ih =>
      rw [flushes, ih, flushOnce]
      simp only [hne, if_false, LogWorker.sink, Option.orElse_some, hclock, hnone]
  rw [hstay]

/-! ## A batch that is -/

/-- The hash of the examples. -/
def sampleHash : String :=
  "0x0000000000000000000000000000000000000000000000000000000000000000"

/-- The reply of a service whose chain has moved to a sequence number. -/
def sampleReply (next : ℕ) : LogHttpResponse where
  status := 200
  body := some (.obj [("chain",
    .obj [("nextSequence", .num next), ("previousHash", .str sampleHash)])])

/-- A world in which the sink is at the start of its chain and posts move
it on. -/
def sampleIo (next : ℕ) : FlushIo where
  resolve := some
    { status := 200
      body := some (.obj [("sinkId", .str "sink"), ("chain", .obj [("nextSequence", .num 1)])]) }
  post _ := some (sampleReply next)
  resume := none
  clock _ _ := sampleTime

/-- A batch of one of the records. -/
def sampleBatch : Batch where
  sinkId := "sink"
  jobId := "job"
  writerPublicKey := sampleContext.publicKeyHex
  sequenceStart := 1
  sequenceEnd := 1
  previousHash := none
  createdAt := sampleTime
  encrypted := [longRecord]
  labels := sampleContext.labels
  origin := .customer
  batchId := some "0x00"

/-- One record is sent at once: its batch builds, and one flush empties the
list. -/
theorem longRecord_sent :
    (∃ b, buildBatch sampleContext (some sampleSink) [longRecord] (fun _ => sampleTime) = some b
      ∧ b.encrypted ≠ [] ∧ b.encrypted <+: frontRun b.origin [longRecord]
      ∧ (∃ front, [longRecord].head? = some front ∧ b.origin = front.origin)
      ∧ b.size ≤ maxBatchBytes)
    ∧ (flushes sampleContext (fun _ => sampleIo 2) 1
        ⟨some sampleSink, [longRecord], some sampleBatch⟩).pendingRecords = [] := by
  obtain ⟨hbuild, hflush⟩ := buildBatch_gapFree_and_flushes_empty sampleContext
  have hrun : frontRun longRecord.origin [longRecord] = [longRecord] := rfl
  have hone : encodedSize sampleContext sampleSink .customer [longRecord] sampleTime = 24172 :=
    encodedSize_longRecord (n := 1) (by decide) (by decide)
  constructor
  · refine (hbuild sampleSink [longRecord] (fun _ => sampleTime) (by simp)
      (hasRoom_sampleSink _) (firstFits_longRecord [])).mpr ?_
    rintro front hfront n ⟨hle, -, hstop⟩
    cases hfront
    rw [hrun, show longRecord.origin = .customer from rfl] at *
    match n, hle, hstop with
    | 0, _, Or.inr hbig =>
      rw [show [longRecord].take (0 + 1) = [longRecord] from rfl, hone] at hbig
      exact absurd hbig (by decide)
    | 1, _, _ =>
      rw [show [longRecord].take 1 = [longRecord] from rfl, hone]
      decide
  · refine hflush (fun _ => sampleIo 2) _ 1 ?_ ?_ (le_refl _)
    · intro b hb
      cases hb
      refine ⟨List.cons_ne_nil _ _, List.prefix_refl _, ?_, by simp⟩
      intro record hrecord
      obtain rfl := List.mem_singleton.mp hrecord
      rfl
    · intro i hi
      obtain rfl : i = 0 := by omega
      refine ⟨fun hnone => absurd hnone (by simp [flushes]), ?_⟩
      have hall : ((flushOnce sampleContext (sampleIo 2)
          ⟨some sampleSink, [longRecord], some sampleBatch⟩).posts.all
            fun p => p.accepted) = true := by
        decide
      exact fun p hp => List.all_eq_true.mp hall p hp
