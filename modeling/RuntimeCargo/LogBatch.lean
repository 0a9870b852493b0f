import RuntimeCargo.Wire

/-!
# Log batches

The log worker sends encrypted records in batches. A batch is one JSON
object: the sink and the job, the range of chain sequence numbers it
covers, the records, a few labels and, last, an identifier that is the
digest of everything else. `build_batch` chooses the records. It takes
them from the front of the pending list, all of one origin and at most
32, and stops at the first one that makes the batch larger than 256 KiB.

The choice is made on the batch *without* its identifier, and the
identifier is 79 bytes long (`Batch.size_withId`). A batch that fits
without it by less than that passes the selection and is then refused by
the final check, which measures the finished batch. Nothing is removed
from the pending list when this happens, so the next attempt chooses the
same records again.

`buildBatch_isSome_iff` is the exact account: among the prefixes of the
front run that pass the selection, the longest one is what is sent, and
the build succeeds exactly when that prefix still fits with 79 more
bytes.

Every batch reads the clock when it is assembled, once for each candidate
and once for the batch itself, so the readings are an input: `clock n` is
the one taken for the candidate of `n` records and `clock 0` the one of
the finished batch. Nothing is assumed about them, not even that their
texts have one length.
-/

/-- The most records one batch carries. -/
def maxBatchRecords : ℕ := 32

/-- The most bytes one batch may be. -/
def maxBatchBytes : ℕ := 256 * 1024

/-- Who wrote a record. -/
inductive LogOrigin where
  | customer
  | runtimeSsh
  deriving DecidableEq, Repr

namespace LogOrigin

/-- The value of the `logOrigin` label. -/
def label : LogOrigin → String
  | customer => "customer"
  | runtimeSsh => "runtime_ssh"

/-- The value of the `source` label. -/
def source : LogOrigin → String
  | customer => "runtime-cargo-supervisor"
  | runtimeSsh => "runtime-ssh-tailscaled"

/-- The event under which an origin reports what it dropped. -/
def droppedEvent : LogOrigin → String
  | customer => "runtime.cargo.output.dropped"
  | runtimeSsh => "runtime.access.tailscale.logs_dropped"

end LogOrigin

/-- The labels that bind a batch to one runtime. -/
structure RuntimeLabels where
  applicationUid : String
  deploymentId : String
  runtimeInstanceId : String

/-- Where the worker sends its records: a sink given by the configuration,
or one it registers with a factory. -/
inductive SinkMode where
  | prebound (sinkId jobId writeUrl resumeUrl : String)
  | factory (factoryToken factoryId baseUrl jobId : String)

/-- A sink the worker has resolved, with the head of its chain. -/
structure ResolvedSink where
  sinkId : String
  jobId : String
  writeUrl : String
  resumeUrl : String
  nextSequence : ℕ
  previousHash : Option String

/-- **An encrypted record.** The code keeps the sealed value and its
origin. `plaintext` is the value that was sealed; no function of the
worker reads it, and it is there to say what a batch carries. -/
structure EncryptedRecord where
  value : Json
  origin : LogOrigin
  plaintext : Json

/-- The value a sealed record is sent as. -/
def sealedValue (iv ciphertext tag : String) : Json :=
  .obj [("v", .num 1), ("alg", .str "A256GCM"), ("iv", .str iv),
    ("ciphertext", .str ciphertext), ("tag", .str tag)]

/-- What a worker is given once and never changes: its configuration, its
keys and the functions of the libraries it calls. -/
structure LogContext where
  labels : RuntimeLabels
  /-- The sink the configuration names. -/
  mode : SinkMode
  /-- The configured context, added to every record. -/
  context : Option String
  /-- The writer's public key, in hexadecimal. -/
  publicKeyHex : String
  /-- SHA-256 of a text. -/
  sha256 : String → Digest
  /-- URL-safe base64 without padding. -/
  base64Url : List UInt8 → String
  /-- AES-256-GCM under the configured key: the ciphertext and, behind it,
  the tag. -/
  sealInPlaceAppendTag : (iv : List UInt8) → (plaintext : String) → Option (List UInt8)
  /-- `Url::parse` followed by the checks of an HTTPS URL. -/
  normalizedHttpsUrl : String → Option String
  /-- Percent-encoding of a path segment. -/
  encodePathSegment : String → String

/-- A batch, before or after its identifier is added. -/
structure Batch where
  sinkId : String
  jobId : String
  writerPublicKey : String
  sequenceStart : ℕ
  sequenceEnd : ℕ
  previousHash : Option String
  createdAt : String
  encrypted : List EncryptedRecord
  labels : RuntimeLabels
  /-- The origin, written as the labels `source` and `logOrigin`. -/
  origin : LogOrigin
  batchId : Option String

namespace Batch

/-- The members a batch always has. -/
def members (b : Batch) : List (String × Json) :=
  [("sinkId", .str b.sinkId),
    ("jobId", .str b.jobId),
    ("writerPublicKey", .str b.writerPublicKey),
    ("sequenceStart", .num b.sequenceStart),
    ("sequenceEnd", .num b.sequenceEnd),
    ("previousHash", (b.previousHash.map Json.str).getD .null),
    ("createdAt", .str b.createdAt),
    ("encrypted", .arr (b.encrypted.map EncryptedRecord.value)),
    ("labels", .obj
      [("applicationUid", .str b.labels.applicationUid),
        ("deploymentId", .str b.labels.deploymentId),
        ("runtimeInstanceId", .str b.labels.runtimeInstanceId),
        ("source", .str b.origin.source),
        ("logOrigin", .str b.origin.label)])]

/-- The batch as a JSON object. -/
def toJson (b : Batch) : Json :=
  .obj (b.members ++ (b.batchId.map fun id => ("batchId", Json.str id)).toList)

/-- The bytes of the canonical text of the batch. -/
def size (b : Batch) : ℕ := (canonicalJsonBytes b.toJson).utf8ByteSize

/-- The batch with its identifier: the digest of what it was before. -/
def withId (ctx : LogContext) (b : Batch) : Batch :=
  { b with
    batchId := some ("0x" ++ hexEncode (ctx.sha256 (canonicalJsonBytes b.toJson)).toList) }

@[simp] theorem encrypted_withId (ctx : LogContext) (b : Batch) :
    (b.withId ctx).encrypted = b.encrypted := rfl

@[simp] theorem origin_withId (ctx : LogContext) (b : Batch) :
    (b.withId ctx).origin = b.origin := rfl

/-- The bytes the identifier adds to a batch: a comma, the key, a colon
and 66 characters between quotation marks. -/
def idSize : ℕ := 79

/-- The identifier needs no escape and is 66 bytes long. -/
theorem size_batchId (d : Digest) :
    (Json.str ("0x" ++ hexEncode d.toList)).size = 68 := by
  rw [size_str_hexEncode, Vector.length_toList]

/-- **The identifier makes every batch 79 bytes longer.** -/
theorem size_withId (ctx : LogContext) {b : Batch} (h : b.batchId = none) :
    (b.withId ctx).size = b.size + idSize := by
  have hbase : b.toJson = .obj b.members := by
    rw [toJson, h]
    exact congrArg Json.obj (List.append_nil _)
  have hid : (b.withId ctx).toJson = .obj (b.members ++ [("batchId", Json.str
      ("0x" ++ hexEncode (ctx.sha256 (canonicalJsonBytes b.toJson)).toList))]) := rfl
  rw [size, size, size_canonicalJsonBytes, size_canonicalJsonBytes, hid, hbase,
    Json.size_obj_append (by simp [members]), Json.memberSize, size_batchId,
    show (Json.quote "batchId").utf8ByteSize = 9 by decide, idSize]

end Batch

/-! ## Choosing the records -/

/-- `batch_without_id`: the batch of the given records, unless there are
none or the sequence would overflow. -/
def batchWithoutId (ctx : LogContext) (resolved : ResolvedSink)
    (selected : List EncryptedRecord) (origin : LogOrigin) (createdAt : String) :
    Option Batch := do
  let last ← checkedSub selected.length 1
  let sequenceEnd ← checkedAdd resolved.nextSequence last
  some
    { sinkId := resolved.sinkId
      jobId := resolved.jobId
      writerPublicKey := ctx.publicKeyHex
      sequenceStart := resolved.nextSequence
      sequenceEnd := sequenceEnd
      previousHash := resolved.previousHash
      createdAt := createdAt
      encrypted := selected
      labels := ctx.labels
      origin := origin
      batchId := none }

/-- The records `build_batch` looks at: those at the front of the pending
list that share an origin, at most 32 of them. -/
def frontRun (origin : LogOrigin) (pending : List EncryptedRecord) :
    List EncryptedRecord :=
  (pending.takeWhile fun record => record.origin = origin).take maxBatchRecords

/-- The selection loop of `build_batch`: records are added one at a time
while the candidate without an identifier fits. -/
def selectRecords (ctx : LogContext) (resolved : ResolvedSink) (origin : LogOrigin)
    (clock : ℕ → String) :
    List EncryptedRecord → List EncryptedRecord → Option (List EncryptedRecord)
  | selected, [] => some selected
  | selected, record :: rest =>
    (batchWithoutId ctx resolved (selected ++ [record]) origin
        (clock (selected.length + 1))).bind fun candidate =>
      if maxBatchBytes < candidate.size then some selected
      else selectRecords ctx resolved origin clock (selected ++ [record]) rest

/-- `build_batch`. -/
def buildBatch (ctx : LogContext) (resolved : Option ResolvedSink)
    (pending : List EncryptedRecord) (clock : ℕ → String) : Option Batch := do
  let resolved ← resolved
  let front ← pending.head?
  let selected ← selectRecords ctx resolved front.origin clock []
    (frontRun front.origin pending)
  if selected.isEmpty then none
  else
    let batch ← batchWithoutId ctx resolved selected front.origin (clock 0)
    if maxBatchBytes < (batch.withId ctx).size then none else some (batch.withId ctx)

/-! ## What the selection chooses

The candidate of a list of records has a size whether or not its sequence
numbers fit, and all the arithmetic below is about that size. With room
for the sequence, the loop is the search for the first prefix that does
not fit. -/

section Selection

variable (ctx : LogContext) (resolved : ResolvedSink) (origin : LogOrigin)

/-- The size of the batch of some records, before its identifier. -/
def encodedSize (records : List EncryptedRecord) (createdAt : String) : ℕ :=
  Batch.size
    { sinkId := resolved.sinkId
      jobId := resolved.jobId
      writerPublicKey := ctx.publicKeyHex
      sequenceStart := resolved.nextSequence
      sequenceEnd := resolved.nextSequence + (records.length - 1)
      previousHash := resolved.previousHash
      createdAt := createdAt
      encrypted := records
      labels := ctx.labels
      origin := origin
      batchId := none }

/-- **What `batch_without_id` returns**: the records under their origin,
with no identifier and the size just defined. -/
theorem batchWithoutId_eq_some {records : List EncryptedRecord} {createdAt : String}
    {b : Batch} (h : batchWithoutId ctx resolved records origin createdAt = some b) :
    records ≠ [] ∧ b.encrypted = records ∧ b.origin = origin ∧ b.batchId = none
      ∧ b.size = encodedSize ctx resolved origin records createdAt
      ∧ b.sequenceEnd = resolved.nextSequence + (records.length - 1) := by
  unfold batchWithoutId at h
  obtain ⟨last, hlast, h⟩ := Option.bind_eq_some_iff.mp h
  obtain ⟨sequenceEnd, hend, h⟩ := Option.bind_eq_some_iff.mp h
  unfold checkedSub at hlast
  split at hlast
  next hone =>
    cases hlast
    obtain ⟨rfl, -⟩ := checkedAdd_eq_some hend
    cases h
    refine ⟨?_, rfl, rfl, rfl, rfl, rfl⟩
    rintro rfl
    exact absurd hone (by decide)
  · cases hlast

/-- With room for the sequence a non-empty list of records is a batch. -/
theorem batchWithoutId_isSome (records : List EncryptedRecord) (createdAt : String)
    (hne : records ≠ [])
    (hroom : resolved.nextSequence + records.length ≤ u64Max + 1) :
    ∃ b, batchWithoutId ctx resolved records origin createdAt = some b := by
  have hlen : 1 ≤ records.length := List.length_pos_of_ne_nil hne
  unfold batchWithoutId checkedSub
  rw [if_pos hlen, Option.bind_eq_bind, Option.bind_some,
    checkedAdd_of_le (by omega)]
  exact ⟨_, rfl⟩

/-- The `n` records at the front of a run pass the selection. -/
def FitsUpTo (clock : ℕ → String) (run : List EncryptedRecord) (n : ℕ) : Prop :=
  ∀ m, 0 < m → m ≤ n →
    encodedSize ctx resolved origin (run.take m) (clock m) ≤ maxBatchBytes

/-- **The loop stops at `n` records**: they and every shorter prefix fit
without an identifier, and there is no next record or it makes the batch
too large. -/
def StopsAt (clock : ℕ → String) (run : List EncryptedRecord) (n : ℕ) : Prop :=
  n ≤ run.length ∧ FitsUpTo ctx resolved origin clock run n
    ∧ (n = run.length ∨ maxBatchBytes
        < encodedSize ctx resolved origin (run.take (n + 1)) (clock (n + 1)))

/-- **The loop finds where it stops**, from any prefix it has already
accepted. The induction is on the records it has not looked at. -/
theorem selectRecords_spec (clock : ℕ → String) (run : List EncryptedRecord)
    (hroom : resolved.nextSequence + run.length ≤ u64Max + 1)
    (selected rest : List EncryptedRecord) (hrun : run = selected ++ rest)
    (hfits : FitsUpTo ctx resolved origin clock run selected.length) :
    ∃ n, selectRecords ctx resolved origin clock selected rest = some (run.take n)
      ∧ StopsAt ctx resolved origin clock run n := by
  induction rest generalizing selected with
  | nil =>
    refine ⟨run.length, ?_, le_refl _, ?_, Or.inl rfl⟩
    · rw [List.take_length, hrun, List.append_nil, selectRecords]
    · rwa [hrun, List.append_nil] at hfits ⊢
  | cons record rest ih =>
    have hlen : run.length = selected.length + (rest.length + 1) := by
      rw [hrun, List.length_append, List.length_cons]
    have htake : run.take (selected.length + 1) = selected ++ [record] := by
      rw [hrun, List.take_length_add_append]
      rfl
    obtain ⟨b, hb⟩ := batchWithoutId_isSome ctx resolved origin
      (selected ++ [record]) (clock (selected.length + 1)) (by simp)
      (by rw [List.length_append, List.length_singleton]; omega)
    have hsize := (batchWithoutId_eq_some ctx resolved origin hb).2.2.2.2.1
    rw [selectRecords, hb, Option.bind_some]
    by_cases hbig : maxBatchBytes < b.size
    · refine ⟨selected.length, ?_, by omega, hfits, Or.inr ?_⟩
      · rw [if_pos hbig, hrun, List.take_left]
      · rw [htake, ← hsize]
        exact hbig
    · rw [if_neg hbig]
      refine ih (selected ++ [record]) (by rw [hrun, List.append_assoc]; rfl) ?_
      intro m hm hle
      rw [List.length_append, List.length_singleton] at hle
      rcases Nat.lt_or_ge m (selected.length + 1) with hlt | hge
      · exact hfits m hm (by omega)
      · obtain rfl : m = selected.length + 1 := by omega
        rw [htake, ← hsize]
        omega

/-- The place where the loop stops is unique. -/
theorem StopsAt.unique {clock : ℕ → String} {run : List EncryptedRecord} {n m : ℕ}
    (hn : StopsAt ctx resolved origin clock run n)
    (hm : StopsAt ctx resolved origin clock run m) : n = m := by
  -- of two different stops the later one passed the record the earlier refused
  have hlt : ∀ {i j : ℕ}, StopsAt ctx resolved origin clock run i →
      StopsAt ctx resolved origin clock run j → ¬ i < j := by
    intro i j hi hj hij
    rcases hi.2.2 with heq | hbig
    · exact absurd hj.1 (by omega)
    · exact absurd (hj.2.1 (i + 1) (by omega) (by omega)) (by omega)
  exact le_antisymm (not_lt.mp (hlt hm hn)) (not_lt.mp (hlt hn hm))

/-- Whatever the clock and the sequence, the loop returns the records it
has and some of those it was still to look at. -/
theorem selectRecords_eq_some {clock : ℕ → String} {selected rest r : List EncryptedRecord}
    (h : selectRecords ctx resolved origin clock selected rest = some r) :
    ∃ n, r = selected ++ rest.take n := by
  induction rest generalizing selected with
  | nil =>
    rw [selectRecords] at h
    exact ⟨0, by rw [← Option.some.inj h, List.take_nil, List.append_nil]⟩
  | cons record rest ih =>
    rw [selectRecords] at h
    obtain ⟨candidate, -, h⟩ := Option.bind_eq_some_iff.mp h
    split at h
    · exact ⟨0, by rw [← Option.some.inj h, List.take_zero, List.append_nil]⟩
    · obtain ⟨n, rfl⟩ := ih h
      exact ⟨n + 1, by rw [List.append_assoc, List.take_succ_cons]; rfl⟩

end Selection

/-! ## What a build returns -/

/-- The front run begins the pending list. -/
theorem frontRun_prefix_pending (origin : LogOrigin) (pending : List EncryptedRecord) :
    frontRun origin pending <+: pending :=
  (List.take_prefix _ _).trans (List.takeWhile_prefix _)

variable {pending : List EncryptedRecord}

/-- All of the front run has the origin it was asked for. -/
theorem origin_of_mem_frontRun {origin : LogOrigin} {record : EncryptedRecord}
    (h : record ∈ frontRun origin pending) :
    record.origin = origin := by
  have hall := List.all_takeWhile (p := fun r : EncryptedRecord => r.origin = origin)
    (l := pending)
  exact of_decide_eq_true (List.all_eq_true.mp hall record (List.mem_of_mem_take h))

/-- **A batch carries the front of the pending list**: at least one
record, all of the batch's own origin, in no more than 256 KiB with the
identifier, under the next sequence numbers of the chain. -/
theorem buildBatch_eq_some {ctx : LogContext} {resolved : ResolvedSink} {clock : ℕ → String}
    {b : Batch} (h : buildBatch ctx (some resolved) pending clock = some b) :
    b.encrypted ≠ [] ∧ b.encrypted <+: frontRun b.origin pending ∧ b.size ≤ maxBatchBytes
      ∧ (∃ front, pending.head? = some front ∧ b.origin = front.origin)
      ∧ b.sequenceEnd = resolved.nextSequence + (b.encrypted.length - 1) := by
  unfold buildBatch at h
  obtain ⟨_, hresolved, hrest⟩ := Option.bind_eq_some_iff.mp h
  cases hresolved
  obtain ⟨front, hfront, hrest⟩ := Option.bind_eq_some_iff.mp hrest
  obtain ⟨selected, hselected, hrest⟩ := Option.bind_eq_some_iff.mp hrest
  split at hrest
  · cases hrest
  · obtain ⟨batch, hbatch, hcheck⟩ := Option.bind_eq_some_iff.mp hrest
    obtain ⟨hne, henc, horigin, -, -, hend⟩ := batchWithoutId_eq_some _ _ _ hbatch
    obtain ⟨n, rfl⟩ := selectRecords_eq_some _ _ _ hselected
    split at hcheck
    · cases hcheck
    next hsize =>
      cases hcheck
      refine ⟨by simpa [henc] using hne, ?_, not_lt.mp hsize, ⟨front, hfront, ?_⟩, ?_⟩
      · rw [Batch.encrypted_withId, Batch.origin_withId, henc, horigin, List.nil_append]
        exact List.take_prefix _ _
      · rw [Batch.origin_withId, horigin]
      · rw [Batch.encrypted_withId, henc]
        exact hend

section Build

variable (ctx : LogContext) (resolved : ResolvedSink)

/-- There are sequence numbers left for the front run. -/
def HasRoom (pending : List EncryptedRecord) : Prop :=
  ∀ front ∈ pending.head?,
    resolved.nextSequence + (frontRun front.origin pending).length ≤ u64Max + 1

/-- The first pending record alone fits in a batch with its identifier,
whatever the clock reads. -/
def FirstFits (pending : List EncryptedRecord) (clock : ℕ → String) : Prop :=
  ∀ front ∈ pending.head?, ∀ i,
    encodedSize ctx resolved front.origin [front] (clock i) + Batch.idSize ≤ maxBatchBytes

/-- **The batch leaves room for its identifier**: where the selection
stops, the records still fit with the 79 bytes it did not count. -/
def GapFree (pending : List EncryptedRecord) (clock : ℕ → String) : Prop :=
  ∀ front ∈ pending.head?, ∀ n,
    StopsAt ctx resolved front.origin clock (frontRun front.origin pending) n →
      encodedSize ctx resolved front.origin ((frontRun front.origin pending).take n)
        (clock 0) + Batch.idSize ≤ maxBatchBytes

/-- The front of the pending list begins the front run. -/
theorem frontRun_cons (front : EncryptedRecord) (rest : List EncryptedRecord) :
    frontRun front.origin (front :: rest)
      = front :: (rest.takeWhile fun r => r.origin = front.origin).take 31 := by
  rw [frontRun, List.takeWhile_cons_of_pos (by simp), maxBatchRecords,
    List.take_succ_cons]

/-- **What a build does**, with room for the sequence and a first record
that fits on its own: it takes the records the selection stops at, and
fails exactly when they do not fit with the identifier. -/
theorem buildBatch_stops {front : EncryptedRecord} {rest : List EncryptedRecord}
    {clock : ℕ → String} (hroom : HasRoom resolved (front :: rest))
    (hfirst : FirstFits ctx resolved (front :: rest) clock) :
    ∃ n b, StopsAt ctx resolved front.origin clock (frontRun front.origin (front :: rest)) n
      ∧ b.encrypted = (frontRun front.origin (front :: rest)).take n
      ∧ buildBatch ctx (some resolved) (front :: rest) clock
        = if maxBatchBytes < encodedSize ctx resolved front.origin
              ((frontRun front.origin (front :: rest)).take n) (clock 0) + Batch.idSize
          then none else some b := by
  have hroom := hroom front rfl
  obtain ⟨n, hselect, hstops⟩ := selectRecords_spec ctx resolved front.origin clock _
    hroom [] (frontRun front.origin (front :: rest)) rfl (fun m hm hle => by
      rw [List.length_nil] at hle
      omega)
  -- the first record fits, so the selection is not empty
  have hpos : n ≠ 0 := by
    rintro rfl
    have hone := hfirst front rfl (0 + 1)
    rcases hstops.2.2 with hlen | hbig
    · rw [frontRun_cons] at hlen
      cases hlen
    · rw [frontRun_cons, List.take_succ_cons, List.take_zero] at hbig
      exact absurd hone (by omega)
  have hsel : (frontRun front.origin (front :: rest)).take n ≠ [] := by
    rw [frontRun_cons]
    obtain ⟨k, rfl⟩ := Nat.exists_eq_succ_of_ne_zero hpos
    simp
  obtain ⟨b, hb⟩ := batchWithoutId_isSome ctx resolved front.origin _ (clock 0) hsel
    (by
      rw [List.length_take]
      exact le_trans (Nat.add_le_add_left (Nat.min_le_right _ _) _) hroom)
  obtain ⟨-, henc, -, hid, hsize, -⟩ := batchWithoutId_eq_some ctx resolved front.origin hb
  refine ⟨n, b.withId ctx, hstops, henc, ?_⟩
  unfold buildBatch
  simp only [Option.bind_eq_bind, Option.bind_some, List.head?_cons, hselect,
    List.isEmpty_iff, hsel, if_false, hb, Batch.size_withId ctx hid, hsize]

/-- **When a build succeeds.** With room for the sequence and a first
record that fits on its own, `build_batch` returns a batch exactly when
the records it selected leave room for the identifier. -/
theorem buildBatch_isSome_iff {pending : List EncryptedRecord} {clock : ℕ → String}
    (hne : pending ≠ []) (hroom : HasRoom resolved pending)
    (hfirst : FirstFits ctx resolved pending clock) :
    (∃ b, buildBatch ctx (some resolved) pending clock = some b)
      ↔ GapFree ctx resolved pending clock := by
  obtain ⟨front, rest, rfl⟩ := List.exists_cons_of_ne_nil hne
  obtain ⟨n, b, hstops, -, hbuild⟩ := buildBatch_stops ctx resolved hroom hfirst
  rw [hbuild]
  constructor
  · rintro ⟨b', hb'⟩ front' hfront' m hm
    cases hfront'
    obtain rfl := hstops.unique ctx resolved front.origin hm
    split at hb'
    · cases hb'
    · omega
  · intro hgap
    exact ⟨b, if_neg (not_lt.mpr (hgap front rfl n hstops))⟩

/-- Every prefix of the front run fits with an identifier, at every
reading of the clock. -/
def AllFit (front : EncryptedRecord) (pending : List EncryptedRecord) (clock : ℕ → String) :
    Prop :=
  ∀ m ≤ (frontRun front.origin pending).length, ∀ i,
    encodedSize ctx resolved front.origin ((frontRun front.origin pending).take m) (clock i)
      + Batch.idSize ≤ maxBatchBytes

section AllFit

variable {front : EncryptedRecord} {rest : List EncryptedRecord} {clock : ℕ → String}

theorem AllFit.firstFits (h : AllFit ctx resolved front (front :: rest) clock) :
    FirstFits ctx resolved (front :: rest) clock := by
  intro front' hfront' i
  cases hfront'
  have hone := h 1 (by rw [frontRun_cons, List.length_cons]; omega) i
  rwa [frontRun_cons, List.take_succ_cons, List.take_zero] at hone

theorem AllFit.gapFree (h : AllFit ctx resolved front (front :: rest) clock) :
    GapFree ctx resolved (front :: rest) clock := by
  intro front' hfront' n hstops
  cases hfront'
  exact h n hstops.1 0

/-- A front run that fits as a whole is sent as a whole. -/
theorem buildBatch_of_allFit (hroom : HasRoom resolved (front :: rest))
    (h : AllFit ctx resolved front (front :: rest) clock) :
    ∃ b, buildBatch ctx (some resolved) (front :: rest) clock = some b
      ∧ b.encrypted = frontRun front.origin (front :: rest) := by
  obtain ⟨n, b, ⟨hle, -, hstop⟩, henc, hbuild⟩ :=
    buildBatch_stops ctx resolved hroom (h.firstFits ctx resolved)
  refine ⟨b, by rw [hbuild, if_neg (not_lt.mpr (h n hle 0))], ?_⟩
  rcases hstop with rfl | hbig
  · rw [henc, List.take_length]
  · rcases Nat.lt_or_ge n (frontRun front.origin (front :: rest)).length with hlt | hge
    · exact absurd (h (n + 1) hlt (n + 1)) (by omega)
    · rw [henc, List.take_of_length_le hge]

end AllFit

end Build
