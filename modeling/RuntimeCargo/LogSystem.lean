import RuntimeCargo.LogAdmission
import RuntimeCargo.Transition

/-!
# The log system

Customer output and the records of the Runtime-SSH provider reach the log
through two bounded queues. Threads that read the output of the customer's
processes put chunks in one, the provider's emitters put records in the
other, and a single worker takes from both, customer first, and sends what
it took. What does not get through is counted in two pairs of counters,
one for each origin, and reported as evidence. The end of the program is a
last item in the customer queue, `Finish`, which the worker acknowledges.

The model is the interleaving of all of these. A step is one action of one
thread on what the threads share: the queues, the counters and the bytes
reserved for the provider's queue. What a thread does on its own between
two such actions belongs to the step before it. Recording a drop and
taking the counters each touch two counters one after the other
(`DroppedOutput::record`, `DroppedOutput::take`), and so are two steps
each: another thread may run between the two.

The worker's control is its program counter. `Pc` has one case for each
place in `run_prioritized` and the functions it calls at which the worker
touches shared state or talks to the service, with what that place still
has to remember: who called the drain, whether `Finish` was seen.

`History` is not part of the program. It records what happened, for the
statements about whole runs: the chunks that were queued and received, the
records admitted, the posts, and the drops recorded while the worker was
running.
-/

/-! ## What the threads share -/

/-- The items one queue holds. -/
def outputQueueCapacity : ℕ := 128

/-- The most bytes one chunk of customer output has. -/
def outputChunkBytes : ℕ := 3 * 1024

/-- Bytes of customer output admitted per second. -/
def outputBytesPerSecond : ℕ := 256 * 1024

/-- Bytes of raw provider lines admitted per second. -/
def runtimeSshBytesPerSecond : ℕ := 64 * 1024

/-- Bytes the provider's queue may hold. -/
def runtimeSshQueueMemoryBytes : ℕ := 1024 * 1024

/-- An item of a queue. -/
inductive LogWork where
  | chunk (chunk : OutputChunk)
  | runtimeSsh (record : RuntimeSshRecord)
  | finish

/-- `DroppedOutput`: two counters, each atomic on its own. -/
structure DroppedOutput where
  chunks : ℕ
  bytes : ℕ

/-- The first half of `DroppedOutput::record`. -/
def DroppedOutput.countChunk (d : DroppedOutput) : DroppedOutput :=
  { d with chunks := saturatingAdd d.chunks 1 }

/-- The second half of `DroppedOutput::record`. -/
def DroppedOutput.countBytes (d : DroppedOutput) (bytes : ℕ) : DroppedOutput :=
  { d with bytes := saturatingAdd d.bytes bytes }

/-- `ByteBudget::admit`, on the bytes admitted in the current window; the
new total if the bytes are admitted. -/
def admitBytes (limit admitted : ℕ) (windowElapsed : Bool) (bytes : ℕ) : ℕ × Bool :=
  let admitted := if windowElapsed then 0 else admitted
  match checkedAdd admitted bytes with
  | none => (admitted, false)
  | some next => if limit < next then (admitted, false) else (next, true)

/-! ## The threads that produce -/

/-- What a reader of customer output is in the middle of. -/
inductive ReaderOp where
  | idle
  /-- The chunk is about to be put in the queue. -/
  | sending (chunk : OutputChunk)
  /-- A drop is about to be counted. -/
  | recordChunks (bytes : ℕ)
  /-- A drop has been counted and its bytes have not. -/
  | recordBytes (bytes : ℕ)

/-- A thread that reads one stream of a customer process. A thread started
after the logger gave its sender away has none. -/
structure Reader where
  sender : Bool
  op : ReaderOp

/-- What an emitter of the provider is in the middle of. -/
inductive EmitterOp where
  | reserving (record : RuntimeSshRecord)
  | sending (record : RuntimeSshRecord)
  /-- The queue was full: the reservation is about to be given back. -/
  | releasing (record : RuntimeSshRecord)
  | recordChunks (bytes : ℕ)
  | recordBytes (bytes : ℕ)

/-! ## The worker's control -/

/-- Who called `drain_prioritized`. -/
inductive DrainCaller where
  /-- A chunk was received. -/
  | chunk
  /-- `Finish` was received. -/
  | finish
  /-- All senders are gone. -/
  | disconnected
  deriving DecidableEq

/-- A call of `admit_drop_evidence_for`. -/
inductive Evidence where
  /-- For the provider, at the end of a drain; `finish` says whether the
  drain received `Finish`. -/
  | drained (caller : DrainCaller) (finish : Bool)
  /-- For the customer, in `finish_prioritized`. -/
  | finishCustomer
  /-- For the provider, in `finish_prioritized`. -/
  | finishRuntimeSsh
  deriving DecidableEq

/-- Whose drops a call reports. -/
def Evidence.origin : Evidence → LogOrigin
  | drained _ _ => .runtimeSsh
  | finishCustomer => .customer
  | finishRuntimeSsh => .runtimeSsh

/-- Where the worker goes on once a received item has been dealt with. -/
inductive Next where
  | drainCustomer (caller : DrainCaller)
  | drainRuntimeSsh (caller : DrainCaller) (finish : Bool)
  | flush

/-- **The worker's program counter.** -/
inductive Pc where
  /-- The loop polls the customer queue. -/
  | poll
  /-- The loop polls the provider's queue. -/
  | pollRuntimeSsh
  /-- The loop waits for the customer queue. -/
  | wait
  /-- The first loop of `drain_prioritized`. -/
  | drainCustomer (caller : DrainCaller)
  /-- The second loop of `drain_prioritized`. -/
  | drainRuntimeSsh (caller : DrainCaller) (finish : Bool)
  /-- A provider record was received: its bytes are released and it is
  admitted. -/
  | release (record : RuntimeSshRecord) (next : Next)
  /-- A drop is about to be counted. -/
  | recordChunks (origin : LogOrigin) (bytes : ℕ) (next : Next)
  /-- A drop has been counted and its bytes have not. -/
  | recordBytes (origin : LogOrigin) (bytes : ℕ) (next : Next)
  /-- `admit_drop_evidence_for` is about to take the first counter. -/
  | takeChunks (evidence : Evidence)
  /-- It is about to take the second. -/
  | takeBytes (evidence : Evidence) (chunks : ℕ)
  /-- `flush_once`, in the loop. -/
  | flush
  /-- The loop of `finish_prioritized`. -/
  | finishFlush
  /-- The worker is gone, having acknowledged `Finish` or not. -/
  | stopped (acknowledged : Bool)
  /-- An arm marked `unreachable!` was reached. -/
  | panicked

/-- The place an item's continuation stands for. -/
def Next.pc : Next → Pc
  | drainCustomer caller => .drainCustomer caller
  | drainRuntimeSsh caller finish => .drainRuntimeSsh caller finish
  | flush => .flush

/-- Where a call of `admit_drop_evidence_for` returns to. -/
def Evidence.pc : Evidence → Pc
  | drained .chunk false => .flush
  | drained .chunk true => .takeChunks .finishCustomer
  | drained .finish _ => .takeChunks .finishCustomer
  | drained .disconnected _ => .stopped false
  | finishCustomer => .takeChunks .finishRuntimeSsh
  | finishRuntimeSsh => .finishFlush

/-- The worker no longer receives. -/
def Pc.gone : Pc → Bool
  | stopped _ => true
  | panicked => true
  | _ => false

/-! ## The state -/

/-- What has happened so far. -/
structure History where
  /-- The chunks put in the customer queue. -/
  queued : List OutputChunk
  /-- Those put there before `Finish`, once `Finish` is there. -/
  queuedAtFinish : Option (List OutputChunk)
  /-- The chunks the worker has received. -/
  received : List OutputChunk
  /-- Whether the worker has received `Finish`. -/
  finishReceived : Bool
  /-- The records that entered the pending list. -/
  admitted : List EncryptedRecord
  /-- The batches posted. -/
  posts : List Posted
  /-- The customer drops counted while the worker was running. -/
  recorded : DroppedOutput

/-- **The state of the log.** -/
structure LogSystem where
  worker : LogWorker
  pc : Pc
  customerQueue : List LogWork
  runtimeSshQueue : List LogWork
  /-- The drops of each origin that are still to be reported. -/
  dropped : DroppedOutput
  runtimeDropped : DroppedOutput
  /-- Bytes reserved for the provider's queue. -/
  queuedBytes : ℕ
  /-- Bytes admitted in the current second, from the customer and from the
  provider's raw lines. -/
  budget : ℕ
  runtimeSshBudget : ℕ
  /-- Whether the logger still has its sender. -/
  sender : Bool
  readers : List Reader
  emitters : List EmitterOp
  history : History

/-- The log before anything has happened. -/
def LogSystem.initial : LogSystem where
  worker := ⟨none, [], none⟩
  pc := .poll
  customerQueue := []
  runtimeSshQueue := []
  dropped := ⟨0, 0⟩
  runtimeDropped := ⟨0, 0⟩
  queuedBytes := 0
  budget := 0
  runtimeSshBudget := 0
  sender := true
  readers := []
  emitters := []
  history :=
    { queued := []
      queuedAtFinish := none
      received := []
      finishReceived := false
      admitted := []
      posts := []
      recorded := ⟨0, 0⟩ }

namespace LogSystem

/-- No sender of the customer queue is left. -/
def disconnected (s : LogSystem) : Bool :=
  !s.sender && s.readers.all fun reader => !reader.sender

/-- Counts one drop of an origin. -/
def countChunk (origin : LogOrigin) (s : LogSystem) : LogSystem :=
  { s with
    dropped := if origin = .customer then s.dropped.countChunk else s.dropped
    runtimeDropped :=
      if origin = .runtimeSsh then s.runtimeDropped.countChunk else s.runtimeDropped
    history :=
      { s.history with
        recorded :=
          if origin = .customer ∧ ¬ s.pc.gone then
            { s.history.recorded with chunks := s.history.recorded.chunks + 1 }
          else s.history.recorded } }

/-- Counts the bytes of a drop of an origin. -/
def countBytes (origin : LogOrigin) (bytes : ℕ) (s : LogSystem) : LogSystem :=
  { s with
    dropped := if origin = .customer then s.dropped.countBytes bytes else s.dropped
    runtimeDropped :=
      if origin = .runtimeSsh then s.runtimeDropped.countBytes bytes else s.runtimeDropped
    history :=
      { s.history with
        recorded :=
          if origin = .customer ∧ ¬ s.pc.gone then
            { s.history.recorded with bytes := s.history.recorded.bytes + bytes }
          else s.history.recorded } }

/-- The counters of an origin. -/
def droppedOf (origin : LogOrigin) (s : LogSystem) : DroppedOutput :=
  match origin with
  | .customer => s.dropped
  | .runtimeSsh => s.runtimeDropped

/-- Replaces the counters of an origin. -/
def setDropped (origin : LogOrigin) (d : DroppedOutput) (s : LogSystem) : LogSystem :=
  { s with
    dropped := if origin = .customer then d else s.dropped
    runtimeDropped := if origin = .runtimeSsh then d else s.runtimeDropped }

/-- The worker takes a record into its pending list. -/
def enter (s : LogSystem) (w : LogWorker) (record : EncryptedRecord) (pc : Pc) : LogSystem :=
  { s with
    worker := w
    pc := pc
    history := { s.history with admitted := s.history.admitted ++ [record] } }

/-- The worker has flushed. -/
def flushed (s : LogSystem) (r : Flushed) (pc : Pc) : LogSystem :=
  { s with
    worker := r.worker
    pc := pc
    history := { s.history with posts := s.history.posts ++ r.posts } }

end LogSystem

/-! ## The worker -/

/-- What the world answers during one step of the worker. -/
structure StepIo where
  /-- The nonce drawn for a record, if one could be drawn. -/
  iv : Option (List UInt8)
  /-- The time written in evidence. -/
  timestamp : String
  /-- The answers to a flush. -/
  flush : FlushIo
  /-- Whether the time for the last flushes is over. -/
  deadlinePassed : Bool

/-- A chunk is received and admitted, or about to be recorded as
dropped; the drain of `caller` goes on. -/
def receiveChunk (ctx : LogContext) (io : StepIo) (s : LogSystem) (chunk : OutputChunk)
    (rest : List LogWork) (caller : DrainCaller) : LogSystem :=
  let s := { s with
    customerQueue := rest
    history := { s.history with received := s.history.received ++ [chunk] } }
  match admitChunk ctx io.iv s.worker chunk with
  | some (w, record) => s.enter w record (.drainCustomer caller)
  | none =>
    { s with pc := .recordChunks .customer chunk.bytes.length (.drainCustomer caller) }

/-- `Finish` is received. -/
def receiveFinish (s : LogSystem) (rest : List LogWork) (pc : Pc) : LogSystem :=
  { s with
    customerQueue := rest
    pc := pc
    history := { s.history with finishReceived := true } }

/-- **One step of the worker.** -/
def workerStep (ctx : LogContext) (io : StepIo) (s : LogSystem) : Option LogSystem :=
  match s.pc with
  | .poll =>
    match s.customerQueue with
    | .chunk chunk :: rest => some (receiveChunk ctx io s chunk rest .chunk)
    | .finish :: rest => some (receiveFinish s rest (.drainCustomer .finish))
    | .runtimeSsh _ :: _ => some { s with pc := .panicked }
    | [] => some { s with pc := .pollRuntimeSsh }
  | .pollRuntimeSsh =>
    match s.runtimeSshQueue with
    | .runtimeSsh record :: rest =>
      some { s with runtimeSshQueue := rest, pc := .release record .flush }
    | [] => some { s with pc := .wait }
    | _ :: _ => some { s with pc := .panicked }
  | .wait =>
    match s.customerQueue with
    | .chunk chunk :: rest => some (receiveChunk ctx io s chunk rest .chunk)
    | .finish :: rest => some (receiveFinish s rest (.drainCustomer .finish))
    | .runtimeSsh _ :: _ => some { s with pc := .panicked }
    | [] =>
      some { s with pc := if s.disconnected then .drainCustomer .disconnected else .poll }
  | .drainCustomer caller =>
    if s.worker.pendingRecords.length < maxBatchRecords * 2 then
      match s.customerQueue with
      | .chunk chunk :: rest => some (receiveChunk ctx io s chunk rest caller)
      | .finish :: rest => some (receiveFinish s rest (.drainRuntimeSsh caller true))
      | .runtimeSsh _ :: _ => some { s with pc := .panicked }
      | [] => some { s with pc := .drainRuntimeSsh caller false }
    else some { s with pc := .drainRuntimeSsh caller false }
  | .drainRuntimeSsh caller finish =>
    if s.worker.pendingRecords.length < maxBatchRecords * 2 then
      match s.runtimeSshQueue with
      | .runtimeSsh record :: rest =>
        some { s with
          runtimeSshQueue := rest
          pc := .release record (.drainRuntimeSsh caller finish) }
      | [] => some { s with pc := .takeChunks (.drained caller finish) }
      | _ :: _ => some { s with pc := .panicked }
    else some { s with pc := .takeChunks (.drained caller finish) }
  | .release record next =>
    let s := { s with queuedBytes := s.queuedBytes - record.admittedBytes }
    match admitRuntimeSsh ctx io.iv s.worker record with
    | some (w, encrypted) => some (s.enter w encrypted next.pc)
    | none => some { s with pc := .recordChunks .runtimeSsh record.admittedBytes next }
  | .recordChunks origin bytes next =>
    some { s.countChunk origin with pc := .recordBytes origin bytes next }
  | .recordBytes origin bytes next => some { s.countBytes origin bytes with pc := next.pc }
  | .takeChunks evidence =>
    if maxBatchRecords ≤ (ofOrigin evidence.origin s.worker.pendingRecords).length then
      some { s with pc := evidence.pc }
    else
      let d := s.droppedOf evidence.origin
      some { s.setDropped evidence.origin { d with chunks := 0 } with
        pc := .takeBytes evidence d.chunks }
  | .takeBytes evidence chunks =>
    let d := s.droppedOf evidence.origin
    let s := s.setDropped evidence.origin { d with bytes := 0 }
    if chunks = 0 ∧ d.bytes = 0 then some { s with pc := evidence.pc }
    else
      match admitEvidence ctx io.iv io.timestamp s.worker evidence.origin chunks d.bytes with
      | some (w, record) => some (s.enter w record evidence.pc)
      | none => some { s with pc := evidence.pc }
  | .flush => some (s.flushed (flushOnce ctx io.flush s.worker) .poll)
  | .finishFlush =>
    if s.worker.pendingRecords = [] ∨ io.deadlinePassed then
      some { s with pc := .stopped true }
    else
      let r := flushOnce ctx io.flush s.worker
      some (s.flushed r (if r.ok then .finishFlush else .stopped true))
  | .stopped _ => none
  | .panicked => none

/-! ## The producers -/

/-- A reader has read a chunk: `enqueue_chunk` asks the budget and looks
for a sender. -/
def readChunk (s : LogSystem) (i : ℕ) (chunk : OutputChunk) (windowElapsed : Bool) :
    Option LogSystem :=
  match s.readers[i]? with
  | some ⟨sender, .idle⟩ =>
    if chunk.bytes ≠ [] ∧ chunk.bytes.length ≤ outputChunkBytes then
      let (budget, admitted) :=
        admitBytes outputBytesPerSecond s.budget windowElapsed chunk.bytes.length
      let op := if admitted && sender then ReaderOp.sending chunk
        else .recordChunks chunk.bytes.length
      some { s with budget := budget, readers := s.readers.set i ⟨sender, op⟩ }
    else none
  | _ => none

/-- A reader goes on with what it is in the middle of. -/
def readerStep (s : LogSystem) (i : ℕ) : Option LogSystem :=
  match s.readers[i]? with
  | some ⟨sender, .sending chunk⟩ =>
    if s.pc.gone ∨ outputQueueCapacity ≤ s.customerQueue.length then
      some { s with readers := s.readers.set i ⟨sender, .recordChunks chunk.bytes.length⟩ }
    else
      some { s with
        customerQueue := s.customerQueue ++ [.chunk chunk]
        readers := s.readers.set i ⟨sender, .idle⟩
        history := { s.history with queued := s.history.queued ++ [chunk] } }
  | some ⟨sender, .recordChunks bytes⟩ =>
    some { s.countChunk .customer with readers := s.readers.set i ⟨sender, .recordBytes bytes⟩ }
  | some ⟨sender, .recordBytes bytes⟩ =>
    some { s.countBytes .customer bytes with readers := s.readers.set i ⟨sender, .idle⟩ }
  | _ => none

/-- A record of the provider: a raw line asks the budget, a critical
record does not. -/
def emit (s : LogSystem) (record : RuntimeSshRecord) (windowElapsed : Bool) : LogSystem :=
  if record.critical then { s with emitters := s.emitters ++ [.reserving record] }
  else
    let (budget, admitted) :=
      admitBytes runtimeSshBytesPerSecond s.runtimeSshBudget windowElapsed record.admittedBytes
    let op := if admitted then EmitterOp.reserving record
      else .recordChunks record.admittedBytes
    { s with runtimeSshBudget := budget, emitters := s.emitters ++ [op] }

/-- `reserve_queue_bytes`. -/
def reserveQueueBytes (queued bytes : ℕ) : Option ℕ :=
  (checkedAdd queued bytes).filter fun next => next ≤ runtimeSshQueueMemoryBytes

/-- An emitter goes on with what it is in the middle of. -/
def emitterStep (s : LogSystem) (i : ℕ) : Option LogSystem :=
  match s.emitters[i]? with
  | some (.reserving record) =>
    match reserveQueueBytes s.queuedBytes record.admittedBytes with
    | some next =>
      some { s with queuedBytes := next, emitters := s.emitters.set i (.sending record) }
    | none => some { s with emitters := s.emitters.set i (.recordChunks record.admittedBytes) }
  | some (.sending record) =>
    if s.pc.gone ∨ outputQueueCapacity ≤ s.runtimeSshQueue.length then
      some { s with emitters := s.emitters.set i (.releasing record) }
    else
      some { s with
        runtimeSshQueue := s.runtimeSshQueue ++ [.runtimeSsh record]
        emitters := s.emitters.eraseIdx i }
  | some (.releasing record) =>
    some { s with
      queuedBytes := s.queuedBytes - record.admittedBytes
      emitters := s.emitters.set i (.recordChunks record.admittedBytes) }
  | some (.recordChunks bytes) =>
    some { s.countChunk .runtimeSsh with emitters := s.emitters.set i (.recordBytes bytes) }
  | some (.recordBytes bytes) =>
    some { s.countBytes .runtimeSsh bytes with emitters := s.emitters.eraseIdx i }
  | none => none

/-- `OutputLogger::finish`: the sender is given away, and `Finish` is
queued if there is room. -/
def finishLogger (s : LogSystem) : LogSystem :=
  if s.sender then
    if s.pc.gone ∨ outputQueueCapacity ≤ s.customerQueue.length then { s with sender := false }
    else
      { s with
        sender := false
        customerQueue := s.customerQueue ++ [.finish]
        history := { s.history with queuedAtFinish := some s.history.queued } }
  else s

/-! ## Steps -/

/-- An action of one of the threads. -/
inductive LogAction where
  | worker (io : StepIo)
  /-- The output of a customer process is captured. -/
  | spawnReader
  /-- The stream of a reader ends. -/
  | endReader (i : ℕ)
  | readChunk (i : ℕ) (chunk : OutputChunk) (windowElapsed : Bool)
  | reader (i : ℕ)
  | emit (record : RuntimeSshRecord) (windowElapsed : Bool)
  | emitter (i : ℕ)
  | finish

/-- **One step of the log.** -/
def logStep (ctx : LogContext) (s : LogSystem) : LogAction → Option LogSystem
  | .worker io => workerStep ctx io s
  | .spawnReader => some { s with readers := s.readers ++ [⟨s.sender, .idle⟩] }
  | .endReader i =>
    match s.readers[i]? with
    | some ⟨_, .idle⟩ => some { s with readers := s.readers.eraseIdx i }
    | _ => none
  | .readChunk i chunk windowElapsed => readChunk s i chunk windowElapsed
  | .reader i => readerStep s i
  | .emit record windowElapsed => some (emit s record windowElapsed)
  | .emitter i => emitterStep s i
  | .finish => some (finishLogger s)
