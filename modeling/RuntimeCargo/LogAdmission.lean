import RuntimeCargo.LogFlush

/-!
# Admitting records

Three things become records of the pending list: a chunk of customer
output, a record of the Runtime-SSH provider, and the evidence that some
of either were dropped. Each is written as a JSON value, encrypted and
put in its place: a customer record in front of the first Runtime-SSH
record, a Runtime-SSH record at the end. The pending list is therefore
customer records followed by Runtime-SSH records (`Ordered`), and each
admission adds one record at the end of its own half.

Admission is also where the code keeps the outstanding batch honest, in
one of two places. A customer record goes in front of every Runtime-SSH
record, hence in front of an outstanding Runtime-SSH batch, which then no
longer is the front of the list. `admit_chunk` discards such a batch, to
be rebuilt; `admit_drop_evidence_for` does not. `admitChunk_eq_some` needs
no hypothesis about the batch for that reason, and
`admitEvidence_eq_some` needs one.
-/

/-- A piece of customer output, as read from one of its streams. -/
structure OutputChunk where
  outputSequence : ℕ
  processAttempt : ℕ
  stream : String
  timestamp : String
  bytes : List UInt8

/-- A record of the Runtime-SSH provider. -/
structure RuntimeSshRecord where
  event : String
  timestamp : String
  details : Json
  admittedBytes : ℕ
  /-- Lifecycle, stage and panic records outrank raw lines. -/
  critical : Bool

/-! ## The records -/

/-- `base_record`. -/
def baseRecord (ctx : LogContext) (timestamp event : String) (details : Json) : Json :=
  .obj ([("timestamp", .str timestamp), ("event", .str event), ("details", details)]
    ++ (ctx.context.map fun context => ("context", Json.str context)).toList)

/-- The event of a record. -/
def eventOf (record : Json) : Option String := (record.get "event").asStr

@[simp] theorem eventOf_baseRecord (ctx : LogContext) (timestamp event : String)
    (details : Json) : eventOf (baseRecord ctx timestamp event details) = some event := rfl

@[simp] theorem details_baseRecord (ctx : LogContext) (timestamp event : String)
    (details : Json) : (baseRecord ctx timestamp event details).get "details" = details := rfl

/-- The event of customer output. -/
def outputEvent : String := "runtime.cargo.output"

/-- The record of a chunk. Bytes that are not UTF-8 are sent in base64. -/
def chunkRecord (ctx : LogContext) (chunk : OutputChunk) : Json :=
  let content : String × (String × Json) :=
    match String.fromUTF8? ⟨chunk.bytes.toArray⟩ with
    | some text => ("utf8", ("text", .str text))
    | none => ("base64url", ("bytes", .str (ctx.base64Url chunk.bytes)))
  baseRecord ctx chunk.timestamp outputEvent
    (.obj [("runtimeInstanceId", .str ctx.labels.runtimeInstanceId),
      ("processAttempt", .num chunk.processAttempt),
      ("outputSequence", .num chunk.outputSequence),
      ("stream", .str chunk.stream),
      ("encoding", .str content.1),
      ("byteLength", .num chunk.bytes.length),
      ("truncated", .bool false),
      content.2])

/-- The details of the evidence that some output was dropped. -/
def evidenceDetails (ctx : LogContext) (origin : LogOrigin) (chunks bytes : ℕ) : Json :=
  match origin with
  | .runtimeSsh =>
    .obj [("providerKind", .str "tailscale"),
      ("component", .str "tailscaled"),
      ("format", .str "lifecycle"),
      ("droppedLines", .num chunks),
      ("droppedBytes", .num bytes),
      ("truncated", .bool true)]
  | .customer =>
    .obj [("runtimeInstanceId", .str ctx.labels.runtimeInstanceId),
      ("droppedChunks", .num chunks),
      ("droppedBytes", .num bytes),
      ("truncated", .bool true)]

/-- The evidence that some output was dropped. -/
def evidenceRecord (ctx : LogContext) (timestamp : String) (origin : LogOrigin)
    (chunks bytes : ℕ) : Json :=
  baseRecord ctx timestamp origin.droppedEvent (evidenceDetails ctx origin chunks bytes)

/-- `encrypt_record`, given the random nonce if one could be drawn. -/
def encryptRecord (ctx : LogContext) (iv : Option (List UInt8)) (record : Json)
    (origin : LogOrigin) : Option EncryptedRecord := do
  let iv ← iv
  let buffer ← ctx.sealInPlaceAppendTag iv (canonicalJsonBytes record)
  let split ← checkedSub buffer.length 16
  some
    { value := sealedValue (ctx.base64Url iv) (ctx.base64Url (buffer.take split))
        (ctx.base64Url (buffer.drop split))
      origin := origin
      plaintext := record }

variable {origin : LogOrigin} {records pending : List EncryptedRecord}

/-- What encryption keeps of a record. -/
theorem encryptRecord_eq_some {ctx : LogContext} {iv : Option (List UInt8)} {record : Json}
    {r : EncryptedRecord} (h : encryptRecord ctx iv record origin = some r) :
    r.origin = origin ∧ r.plaintext = record := by
  unfold encryptRecord at h
  obtain ⟨iv, -, hrest⟩ := Option.bind_eq_some_iff.mp h
  obtain ⟨buffer, -, hrest⟩ := Option.bind_eq_some_iff.mp hrest
  obtain ⟨split, -, hrest⟩ := Option.bind_eq_some_iff.mp hrest
  cases hrest
  exact ⟨rfl, rfl⟩

/-! ## The two halves of the pending list -/

/-- The records of one origin. -/
def ofOrigin (origin : LogOrigin) (records : List EncryptedRecord) : List EncryptedRecord :=
  records.filter fun record => record.origin = origin

/-- **Customer records come first**: behind a Runtime-SSH record there
are only others. -/
def Ordered (pending : List EncryptedRecord) : Prop :=
  pending.Pairwise fun a b => a.origin = .runtimeSsh → b.origin = .runtimeSsh

@[simp] theorem ofOrigin_nil (origin : LogOrigin) : ofOrigin origin [] = [] := rfl

@[simp] theorem ofOrigin_append (origin : LogOrigin) (xs ys : List EncryptedRecord) :
    ofOrigin origin (xs ++ ys) = ofOrigin origin xs ++ ofOrigin origin ys :=
  List.filter_append _ _

theorem ofOrigin_singleton (origin : LogOrigin) (record : EncryptedRecord) :
    ofOrigin origin [record] = if record.origin = origin then [record] else [] := by
  by_cases h : record.origin = origin <;> simp [ofOrigin, h]

theorem origin_of_mem_ofOrigin {record : EncryptedRecord} (h : record ∈ ofOrigin origin records) :
    record.origin = origin := of_decide_eq_true (List.mem_filter.mp h).2

/-- A list of one origin, seen from that origin. -/
theorem ofOrigin_of_forall (h : ∀ record ∈ records, record.origin = origin) :
    ofOrigin origin records = records :=
  List.filter_eq_self.mpr fun record hr => decide_eq_true (h record hr)

/-- A list of one origin, seen from another. -/
theorem ofOrigin_of_forall_ne (h : ∀ record ∈ records, record.origin ≠ origin) :
    ofOrigin origin records = [] :=
  List.filter_eq_nil_iff.mpr fun record hr => by simpa using h record hr

@[simp] theorem ofOrigin_ofOrigin (origin : LogOrigin) (records : List EncryptedRecord) :
    ofOrigin origin (ofOrigin origin records) = ofOrigin origin records :=
  ofOrigin_of_forall fun _ => origin_of_mem_ofOrigin

theorem ofOrigin_ofOrigin_ne {origin' : LogOrigin} (h : origin ≠ origin')
    (records : List EncryptedRecord) : ofOrigin origin (ofOrigin origin' records) = [] :=
  ofOrigin_of_forall_ne fun _ hr => (origin_of_mem_ofOrigin hr).trans_ne h.symm

/-- Records of the customer followed by records of the provider are in
order. -/
theorem ordered_append {cs ss : List EncryptedRecord}
    (hcs : ∀ record ∈ cs, record.origin = .customer)
    (hss : ∀ record ∈ ss, record.origin = .runtimeSsh) : Ordered (cs ++ ss) := by
  refine List.pairwise_append.mpr ⟨?_, ?_, fun _ _ b hb _ => hss b hb⟩
  · exact List.pairwise_of_forall_sublist fun hab h =>
      absurd h (by simp [hcs _ (hab.subset List.mem_cons_self)])
  · exact List.pairwise_of_forall_sublist fun hab _ => hss _ (hab.subset (by simp))

/-- The place of a customer record: in front of the first Runtime-SSH
record, or at the end. -/
def insertCustomer (record : EncryptedRecord) (pending : List EncryptedRecord) :
    List EncryptedRecord :=
  pending.insertIdx (pending.findIdx fun r => r.origin = .runtimeSsh) record

/-- A customer record goes between the two halves. -/
theorem insertCustomer_eq (h : Ordered pending) (record : EncryptedRecord) :
    insertCustomer record pending
      = ofOrigin .customer pending ++ record :: ofOrigin .runtimeSsh pending := by
  induction pending with
  | nil => rfl
  | cons x xs ih =>
    obtain ⟨hx, hxs⟩ := List.pairwise_cons.mp h
    have hih := ih hxs
    unfold insertCustomer at hih ⊢
    cases horigin : x.origin with
    | customer =>
      rw [List.findIdx_cons, horigin]
      simp [ofOrigin, horigin] at hih ⊢
      exact hih
    | runtimeSsh =>
      have hall : ∀ r ∈ x :: xs, r.origin = .runtimeSsh := by
        rintro r (_ | ⟨_, hr⟩)
        · exact horigin
        · exact hx r hr horigin
      rw [ofOrigin_of_forall hall, ofOrigin_of_forall_ne fun r hr => by simp [hall r hr],
        List.findIdx_cons, horigin]
      rfl

/-- A Runtime-SSH record goes to the end. -/
theorem Ordered.push (h : Ordered pending) {record : EncryptedRecord}
    (hr : record.origin = .runtimeSsh) :
    Ordered (pending ++ [record]) :=
  List.pairwise_append.mpr ⟨h, List.pairwise_singleton _ _, fun _ _ b hb _ => by
    rw [List.mem_singleton.mp hb, hr]⟩

/-! ## The admissions -/

/-- `admit_chunk`; `none` is a chunk to be recorded as dropped. -/
def admitChunk (ctx : LogContext) (iv : Option (List UInt8)) (w : LogWorker)
    (chunk : OutputChunk) : Option (LogWorker × EncryptedRecord) :=
  if maxBatchRecords ≤ (ofOrigin .customer w.pendingRecords).length then none
  else do
    let record ← encryptRecord ctx iv (chunkRecord ctx chunk) .customer
    some
      ({ w with
          -- a provider batch that has not been accepted is rebuilt
          pendingBatch := w.pendingBatch.filter fun b => b.origin ≠ .runtimeSsh
          pendingRecords := insertCustomer record w.pendingRecords },
        record)

/-- The pending Runtime-SSH records at which a record is refused: a
critical one has three times the headroom. -/
def RuntimeSshRecord.cap (record : RuntimeSshRecord) : ℕ :=
  if record.critical then maxBatchRecords * 3 else maxBatchRecords

/-- `admit_runtime_ssh`; `none` is a record to be recorded as dropped. -/
def admitRuntimeSsh (ctx : LogContext) (iv : Option (List UInt8)) (w : LogWorker)
    (record : RuntimeSshRecord) : Option (LogWorker × EncryptedRecord) :=
  if record.cap ≤ (ofOrigin .runtimeSsh w.pendingRecords).length then none
  else do
    let encrypted ← encryptRecord ctx iv
      (baseRecord ctx record.timestamp record.event record.details) .runtimeSsh
    some ({ w with pendingRecords := w.pendingRecords ++ [encrypted] }, encrypted)

/-- `admit_drop_evidence_for`, once it has taken the counters. -/
def admitEvidence (ctx : LogContext) (iv : Option (List UInt8)) (timestamp : String)
    (w : LogWorker) (origin : LogOrigin) (chunks bytes : ℕ) :
    Option (LogWorker × EncryptedRecord) := do
  let record ← encryptRecord ctx iv (evidenceRecord ctx timestamp origin chunks bytes) origin
  match origin with
  | .customer =>
    some ({ w with pendingRecords := insertCustomer record w.pendingRecords }, record)
  | .runtimeSsh =>
    some ({ w with pendingRecords := w.pendingRecords ++ [record] }, record)

/-- **What an admission does to the pending list**: it stays in order, and
the record is the last of its own half. -/
structure Admitted (w w' : LogWorker) (record : EncryptedRecord) : Prop where
  ordered : Ordered w'.pendingRecords
  append : ∀ origin, ofOrigin origin w'.pendingRecords
    = ofOrigin origin w.pendingRecords ++ ofOrigin origin [record]

section Admission

variable {ctx : LogContext} {iv : Option (List UInt8)} {timestamp : String}
variable {w w' : LogWorker} {record : EncryptedRecord}

/-- A customer record inserted in its place is admitted. -/
theorem admitted_insertCustomer (hord : Ordered w.pendingRecords)
    (hr : record.origin = .customer)
    (hw' : w'.pendingRecords = insertCustomer record w.pendingRecords) :
    Admitted w w' record := by
  have heq : w'.pendingRecords = (ofOrigin .customer w.pendingRecords ++ [record])
      ++ ofOrigin .runtimeSsh w.pendingRecords := by
    rw [hw', insertCustomer_eq hord, List.append_assoc, List.singleton_append]
  constructor
  · rw [heq]
    refine ordered_append (fun r hmem => ?_) fun _ => origin_of_mem_ofOrigin
    rcases List.mem_append.mp hmem with hmem | hmem
    · exact origin_of_mem_ofOrigin hmem
    · rw [List.mem_singleton.mp hmem, hr]
  · intro origin
    rw [heq, ofOrigin_append, ofOrigin_append]
    cases origin with
    | customer =>
      rw [ofOrigin_ofOrigin, ofOrigin_ofOrigin_ne (by decide), List.append_nil]
    | runtimeSsh =>
      rw [ofOrigin_ofOrigin, ofOrigin_ofOrigin_ne (by decide), ofOrigin_singleton,
        if_neg (by simp [hr]), List.append_nil, List.nil_append, List.append_nil]

/-- A Runtime-SSH record pushed to the end is admitted. -/
theorem admitted_push (hord : Ordered w.pendingRecords) (hr : record.origin = .runtimeSsh)
    (hw' : w'.pendingRecords = w.pendingRecords ++ [record]) : Admitted w w' record :=
  ⟨hw' ▸ hord.push hr, fun origin => by rw [hw', ofOrigin_append]⟩

/-- The outstanding batch survives what is added behind it. -/
theorem LogWorker.Carries.append (hw : w.Carries) (extra : List EncryptedRecord) :
    LogWorker.Carries { w with pendingRecords := w.pendingRecords ++ extra } :=
  fun b hb => ⟨(hw b hb).1, (hw b hb).2.1.trans (List.prefix_append _ _),
    (hw b hb).2.2.1, (hw b hb).2.2.2⟩

/-- An outstanding customer batch survives a customer record, which goes
behind all customer records. -/
theorem carries_insertCustomer (hord : Ordered w.pendingRecords) (hw : w.Carries)
    (batch : Option Batch) (hbatch : ∀ b ∈ batch, b ∈ w.pendingBatch ∧ b.origin = .customer) :
    LogWorker.Carries
      { w with
        pendingBatch := batch
        pendingRecords := insertCustomer record w.pendingRecords } := by
  intro b hb
  obtain ⟨hmem, hcustomer⟩ := hbatch b hb
  obtain ⟨hne, hpre, horigin, hres⟩ := hw b hmem
  refine ⟨hne, ?_, horigin, hres⟩
  have hhalf : b.encrypted <+: ofOrigin .customer w.pendingRecords := by
    rw [← ofOrigin_of_forall fun r hr => (horigin r hr).trans hcustomer]
    exact hpre.filter _
  rw [insertCustomer_eq hord]
  exact hhalf.trans (List.prefix_append _ _)

variable {chunk : OutputChunk}

/-- **A chunk that is admitted**: there was room, the record is the
chunk's, and the outstanding batch still carries the front of the
list. -/
theorem admitChunk_eq_some (hord : Ordered w.pendingRecords) (hw : w.Carries)
    (h : admitChunk ctx iv w chunk = some (w', record)) :
    record.origin = .customer ∧ record.plaintext = chunkRecord ctx chunk
      ∧ Admitted w w' record ∧ w'.Carries := by
  unfold admitChunk at h
  split at h
  · cases h
  · obtain ⟨r, hr, hrest⟩ := Option.bind_eq_some_iff.mp h
    cases hrest
    obtain ⟨horigin, hplain⟩ := encryptRecord_eq_some hr
    refine ⟨horigin, hplain, admitted_insertCustomer hord horigin rfl,
      carries_insertCustomer hord hw _ fun b hb => ?_⟩
    obtain ⟨hmem, hne⟩ := Option.filter_eq_some_iff.mp hb
    refine ⟨hmem, ?_⟩
    cases hb' : b.origin with
    | customer => rfl
    | runtimeSsh => simp [hb'] at hne

/-- A chunk is dropped only when the customer's half is full or the
encryption fails. -/
theorem admitChunk_ne_none
    (hroom : (ofOrigin .customer w.pendingRecords).length < maxBatchRecords)
    (hencrypt : encryptRecord ctx iv (chunkRecord ctx chunk) .customer ≠ none) :
    admitChunk ctx iv w chunk ≠ none := by
  obtain ⟨record, hrecord⟩ := Option.ne_none_iff_exists'.mp hencrypt
  unfold admitChunk
  rw [if_neg (not_le.mpr hroom), hrecord]
  simp

/-- **A Runtime-SSH record that is admitted.** -/
theorem admitRuntimeSsh_eq_some {r : RuntimeSshRecord} (hord : Ordered w.pendingRecords)
    (hw : w.Carries) (h : admitRuntimeSsh ctx iv w r = some (w', record)) :
    record.origin = .runtimeSsh ∧ Admitted w w' record ∧ w'.Carries := by
  unfold admitRuntimeSsh at h
  split at h
  · cases h
  · obtain ⟨encrypted, hr, hrest⟩ := Option.bind_eq_some_iff.mp h
    cases hrest
    have horigin := (encryptRecord_eq_some hr).1
    exact ⟨horigin, admitted_push hord horigin rfl, hw.append _⟩

/-- **Evidence that is admitted.** The outstanding batch still carries the
front of the list unless the evidence is the customer's and the batch is
not. -/
theorem admitEvidence_eq_some {origin : LogOrigin} {chunks bytes : ℕ}
    (hord : Ordered w.pendingRecords) (hw : w.Carries)
    (h : admitEvidence ctx iv timestamp w origin chunks bytes = some (w', record)) :
    record.origin = origin
      ∧ record.plaintext = evidenceRecord ctx timestamp origin chunks bytes
      ∧ Admitted w w' record
      ∧ ((origin = .customer → ∀ b ∈ w.pendingBatch, b.origin = .customer) → w'.Carries) := by
  unfold admitEvidence at h
  obtain ⟨r, hr, hrest⟩ := Option.bind_eq_some_iff.mp h
  obtain ⟨horigin, hplain⟩ := encryptRecord_eq_some hr
  cases origin with
  | customer =>
    cases hrest
    exact ⟨horigin, hplain, admitted_insertCustomer hord horigin rfl, fun hsafe =>
      carries_insertCustomer hord hw _ fun b hb => ⟨hb, hsafe rfl b hb⟩⟩
  | runtimeSsh =>
    cases hrest
    exact ⟨horigin, hplain, admitted_push hord horigin rfl, fun _ => hw.append _⟩

/-! With no batch outstanding an admission leaves none. -/

theorem admitChunk_pendingBatch (hnone : w.pendingBatch = none)
    (h : admitChunk ctx iv w chunk = some (w', record)) : w'.pendingBatch = none := by
  unfold admitChunk at h
  split at h
  · cases h
  · obtain ⟨r, -, hrest⟩ := Option.bind_eq_some_iff.mp h
    cases hrest
    simp [hnone]

theorem admitRuntimeSsh_pendingBatch {r : RuntimeSshRecord} (hnone : w.pendingBatch = none)
    (h : admitRuntimeSsh ctx iv w r = some (w', record)) : w'.pendingBatch = none := by
  unfold admitRuntimeSsh at h
  split at h
  · cases h
  · obtain ⟨encrypted, -, hrest⟩ := Option.bind_eq_some_iff.mp h
    cases hrest
    exact hnone

theorem admitEvidence_pendingBatch {origin : LogOrigin} {chunks bytes : ℕ}
    (hnone : w.pendingBatch = none)
    (h : admitEvidence ctx iv timestamp w origin chunks bytes = some (w', record)) :
    w'.pendingBatch = none := by
  unfold admitEvidence at h
  obtain ⟨r, -, hrest⟩ := Option.bind_eq_some_iff.mp h
  cases origin <;>
    · cases hrest
      exact hnone

end Admission
