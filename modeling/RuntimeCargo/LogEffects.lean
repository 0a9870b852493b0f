import RuntimeCargo.LogSystem

/-!
# What a step of the log can do

The step function has some forty branches, and most of them leave most of
the state alone. The invariants of a run are each about a part of the
state that changes in few ways, so the branches are gone through once,
here, and sorted by their effect on four parts: the worker with its pending
list, the customer queue and what the history says of them (`Effect`), the
worker's place (`Edge`), the counters of dropped customer output
(`CounterEffect`) and the bytes reserved for the provider's queue
(`ReservedEffect`). `worker_step` and `producer_step` say that every step
has one of the effects on each.
-/

open LogSystem

/-- The part of the state the worker's progress is read from. -/
structure View where
  worker : LogWorker
  customerQueue : List LogWork
  sender : Bool
  queued : List OutputChunk
  queuedAtFinish : Option (List OutputChunk)
  received : List OutputChunk
  finishReceived : Bool
  admitted : List EncryptedRecord
  posts : List Posted

/-- The view of a state. -/
def LogSystem.view (s : LogSystem) : View where
  worker := s.worker
  customerQueue := s.customerQueue
  sender := s.sender
  queued := s.history.queued
  queuedAtFinish := s.history.queuedAtFinish
  received := s.history.received
  finishReceived := s.history.finishReceived
  admitted := s.history.admitted
  posts := s.history.posts

/-- The next step of the worker takes an item from the customer queue, if
there is one. -/
def LogSystem.receiving (s : LogSystem) : Bool :=
  match s.pc with
  | .poll => true
  | .wait => true
  | .drainCustomer _ => s.worker.pendingRecords.length < maxBatchRecords * 2
  | _ => false

/-- **What a step of the worker does to the view.** -/
inductive Effect (ctx : LogContext) (io : StepIo) (s t : LogSystem) : Prop
  /-- It moves on, counts or takes counters. -/
  | move (hview : t.view = s.view)
  /-- It receives a chunk and admits it. -/
  | chunk (chunk : OutputChunk) (rest : List LogWork) (w : LogWorker)
      (record : EncryptedRecord) (hreceiving : s.receiving = true)
      (hqueue : s.customerQueue = .chunk chunk :: rest)
      (hadm : admitChunk ctx io.iv s.worker chunk = some (w, record))
      (hview : t.view = { s.view with
        worker := w
        customerQueue := rest
        received := s.history.received ++ [chunk]
        admitted := s.history.admitted ++ [record] })
  /-- It receives a chunk and drops it. -/
  | drop (chunk : OutputChunk) (rest : List LogWork) (hreceiving : s.receiving = true)
      (hqueue : s.customerQueue = .chunk chunk :: rest)
      (hadm : admitChunk ctx io.iv s.worker chunk = none)
      (hview : t.view = { s.view with
        customerQueue := rest
        received := s.history.received ++ [chunk] })
  /-- It receives `Finish`. -/
  | finish (rest : List LogWork) (hqueue : s.customerQueue = .finish :: rest)
      (hview : t.view = { s.view with customerQueue := rest, finishReceived := true })
  /-- It admits a record of the provider. -/
  | runtimeSsh (r : RuntimeSshRecord) (w : LogWorker) (record : EncryptedRecord)
      (hadm : admitRuntimeSsh ctx io.iv s.worker r = some (w, record))
      (hview : t.view = { s.view with
        worker := w
        admitted := s.history.admitted ++ [record] })
  /-- It admits evidence of drops. -/
  | evidence (e : Evidence) (chunks : ℕ) (w : LogWorker) (record : EncryptedRecord)
      (hpc : s.pc = .takeBytes e chunks)
      (hsome : ¬ (chunks = 0 ∧ (s.droppedOf e.origin).bytes = 0))
      (hadm : admitEvidence ctx io.iv io.timestamp s.worker e.origin chunks
        (s.droppedOf e.origin).bytes = some (w, record))
      (hview : t.view = { s.view with
        worker := w
        admitted := s.history.admitted ++ [record] })
  /-- It flushes. -/
  | flush (hpc : s.pc = .flush ∨ s.pc = .finishFlush ∧ s.worker.pendingRecords ≠ [])
      (hview : t.view = { s.view with
        worker := (flushOnce ctx io.flush s.worker).worker
        posts := s.history.posts ++ (flushOnce ctx io.flush s.worker).posts })

/-! ## The worker's control flow -/

/-- **The control-flow graph of the worker.** An edge from one place to
another, marked when the worker receives `Finish` along it. -/
inductive Edge : Bool → Pc → Pc → Prop
  | polled : Edge false .poll .pollRuntimeSsh
  | polledRuntimeSsh : Edge false .pollRuntimeSsh .wait
  | timeout : Edge false .wait .poll
  | disconnected : Edge false .wait (.drainCustomer .disconnected)
  | chunk {p : Pc} (hp : p = .poll ∨ p = .wait) : Edge false p (.drainCustomer .chunk)
  | dropped {p : Pc} (hp : p = .poll ∨ p = .wait) (bytes : ℕ) :
      Edge false p (.recordChunks .customer bytes (.drainCustomer .chunk))
  | finish {p : Pc} (hp : p = .poll ∨ p = .wait) : Edge true p (.drainCustomer .finish)
  | drainChunk (caller : DrainCaller) :
      Edge false (.drainCustomer caller) (.drainCustomer caller)
  | drainDropped (caller : DrainCaller) (bytes : ℕ) :
      Edge false (.drainCustomer caller) (.recordChunks .customer bytes (.drainCustomer caller))
  | drainFinish (caller : DrainCaller) :
      Edge true (.drainCustomer caller) (.drainRuntimeSsh caller true)
  | drainedCustomer (caller : DrainCaller) :
      Edge false (.drainCustomer caller) (.drainRuntimeSsh caller false)
  | runtimeSsh (record : RuntimeSshRecord) :
      Edge false .pollRuntimeSsh (.release record .flush)
  | drainRuntimeSsh (caller : DrainCaller) (finish : Bool) (record : RuntimeSshRecord) :
      Edge false (.drainRuntimeSsh caller finish)
        (.release record (.drainRuntimeSsh caller finish))
  | drained (caller : DrainCaller) (finish : Bool) :
      Edge false (.drainRuntimeSsh caller finish) (.takeChunks (.drained caller finish))
  | released (record : RuntimeSshRecord) (next : Next) :
      Edge false (.release record next) next.pc
  | releasedDropped (record : RuntimeSshRecord) (next : Next) (bytes : ℕ) :
      Edge false (.release record next) (.recordChunks .runtimeSsh bytes next)
  | recordedChunks (origin : LogOrigin) (bytes : ℕ) (next : Next) :
      Edge false (.recordChunks origin bytes next) (.recordBytes origin bytes next)
  | recordedBytes (origin : LogOrigin) (bytes : ℕ) (next : Next) :
      Edge false (.recordBytes origin bytes next) next.pc
  | takeSkipped (e : Evidence) : Edge false (.takeChunks e) e.pc
  | tookChunks (e : Evidence) (chunks : ℕ) :
      Edge false (.takeChunks e) (.takeBytes e chunks)
  | tookBytes (e : Evidence) (chunks : ℕ) : Edge false (.takeBytes e chunks) e.pc
  | flushed : Edge false .flush .poll
  | finishFlushed : Edge false .finishFlush .finishFlush
  | stopped : Edge false .finishFlush (.stopped true)
  | panicked {p : Pc} : Edge false p .panicked

/-- An item received on the way to the acknowledgement. -/
def Next.finishing : Next → Bool
  | drainCustomer caller => caller = .finish
  | drainRuntimeSsh caller finish => caller = .finish || finish
  | flush => false

/-- A report on the way to the acknowledgement. -/
def Evidence.finishing : Evidence → Bool
  | drained caller finish => caller = .finish || finish
  | finishCustomer => true
  | finishRuntimeSsh => true

/-- The worker is on its way to acknowledge `Finish`, or has done so. -/
def Pc.finishing : Pc → Bool
  | drainCustomer caller => caller = .finish
  | drainRuntimeSsh caller finish => caller = .finish || finish
  | release _ next => next.finishing
  | recordChunks _ _ next => next.finishing
  | recordBytes _ _ next => next.finishing
  | takeChunks e => e.finishing
  | takeBytes e _ => e.finishing
  | finishFlush => true
  | stopped acknowledged => acknowledged
  | _ => false

theorem Next.finishing_pc (next : Next) : next.pc.finishing = next.finishing := by
  cases next <;> rfl

theorem Evidence.finishing_of_pc {e : Evidence} (h : e.pc.finishing = true) :
    e.finishing = true := by
  cases e with
  | drained caller finish => cases caller <;> cases finish <;> first | rfl | exact h
  | finishCustomer | finishRuntimeSsh => rfl

/-- No report is followed by the acknowledgement at once. -/
theorem Evidence.pc_ne_acknowledged (e : Evidence) : e.pc ≠ .stopped true := by
  cases e with
  | drained caller finish => cases caller <;> cases finish <;> simp [Evidence.pc]
  | finishCustomer | finishRuntimeSsh => simp [Evidence.pc]

/-- **The worker turns to the acknowledgement only along an edge marked
with `Finish`.** -/
theorem Edge.finishing {finish : Bool} {p q : Pc} (h : Edge finish p q)
    (hq : q.finishing = true) : p.finishing = true ∨ finish = true := by
  cases h with
  | finish | drainFinish => exact Or.inr rfl
  | drainedCustomer caller => exact Or.inl (by simpa [Pc.finishing] using hq)
  | released record next | recordedBytes origin bytes next =>
    exact Or.inl (next.finishing_pc.symm.trans hq)
  | takeSkipped e | tookBytes e => exact Or.inl (Evidence.finishing_of_pc hq)
  | finishFlushed | stopped => exact Or.inl rfl
  | _ => exact Or.inl (by first | exact hq | exact absurd hq (by simp [Pc.finishing, Next.finishing]))

/-! ## The counters -/

/-- Where the worker is with the customer's counters. -/
inductive Phase where
  /-- They hold all that was counted. -/
  | counting
  /-- The first has been taken and the second has not. -/
  | taking (chunks : ℕ)
  /-- Both have been taken. -/
  | reported
  /-- The worker stopped without taking them. -/
  | lost
  /-- The worker panicked. -/
  | broken

/-- The phase at a place. -/
def Pc.phase : Pc → Phase
  | takeBytes .finishCustomer chunks => .taking chunks
  | takeChunks .finishRuntimeSsh => .reported
  | takeBytes .finishRuntimeSsh _ => .reported
  | finishFlush => .reported
  | stopped true => .reported
  | stopped false => .lost
  | panicked => .broken
  | _ => .counting

/-- The worker is about to stop because all senders are gone. -/
def Pc.disconnecting : Pc → Bool
  | takeChunks (.drained .disconnected _) => true
  | takeBytes (.drained .disconnected _) _ => true
  | _ => false

/-- **What a step of the worker does to the customer's counters.** -/
inductive CounterEffect (s t : LogSystem) : Prop
  | same (hdropped : t.dropped = s.dropped)
      (hrecorded : t.history.recorded = s.history.recorded) (hphase : t.pc.phase = s.pc.phase)
      (htaking : ∀ chunks, s.pc.phase ≠ .taking chunks)
  /-- A drop is counted. -/
  | chunk (bytes : ℕ) (next : Next) (hpc : s.pc = .recordChunks .customer bytes next)
      (hdropped : t.dropped = s.dropped.countChunk)
      (hrecorded : t.history.recorded
        = { s.history.recorded with chunks := s.history.recorded.chunks + 1 })
      (hphase : t.pc.phase = .counting)
  /-- The bytes of a drop are counted. -/
  | bytes (bytes : ℕ) (next : Next) (hpc : s.pc = .recordBytes .customer bytes next)
      (hdropped : t.dropped = s.dropped.countBytes bytes)
      (hrecorded : t.history.recorded
        = { s.history.recorded with bytes := s.history.recorded.bytes + bytes })
      (hphase : t.pc.phase = .counting)
  /-- The report is skipped. -/
  | skip (hpc : s.pc = .takeChunks .finishCustomer)
      (hfull : maxBatchRecords ≤ (ofOrigin .customer s.worker.pendingRecords).length)
  /-- The first counter is taken. -/
  | take (hpc : s.pc = .takeChunks .finishCustomer)
      (ht : t.pc = .takeBytes .finishCustomer s.dropped.chunks)
      (hbytes : t.dropped.bytes = s.dropped.bytes)
      (hrecorded : t.history.recorded = s.history.recorded)
  /-- The second counter is taken. -/
  | report (chunks : ℕ) (hpc : s.pc = .takeBytes .finishCustomer chunks)
      (hphase : t.pc.phase = .reported) (hrecorded : t.history.recorded = s.history.recorded)
  /-- The worker stops without a report. -/
  | lose (hpc : s.pc.disconnecting = true) (ht : t.pc = .stopped false)
      (hrecorded : t.history.recorded = s.history.recorded)
  | panic (ht : t.pc = .panicked)

theorem Next.phase_pc (next : Next) : next.pc.phase = .counting := by
  cases next <;> rfl

/-- A report of the provider's is made in one phase. -/
theorem Evidence.phase_takeBytes {e : Evidence} (h : e ≠ .finishCustomer) (chunks : ℕ) :
    (Pc.takeBytes e chunks).phase = (Pc.takeChunks e).phase := by
  cases e with
  | drained caller finish => rfl
  | finishCustomer => exact absurd rfl h
  | finishRuntimeSsh => rfl

/-- Where it leads: on, or to the end without a report of the
customer's. -/
theorem Evidence.phase_pc {e : Evidence} (h : e ≠ .finishCustomer) :
    e.pc.phase = (Pc.takeChunks e).phase
      ∨ e.pc = .stopped false ∧ ∃ finish, e = .drained .disconnected finish := by
  cases e with
  | drained caller finish =>
    cases caller with
    | chunk => cases finish <;> exact Or.inl rfl
    | finish => exact Or.inl rfl
    | disconnected => exact Or.inr ⟨rfl, finish, rfl⟩
  | finishCustomer => exact absurd rfl h
  | finishRuntimeSsh => exact Or.inl rfl

/-- All reports but one are the provider's. -/
theorem Evidence.origin_of_ne {e : Evidence} (h : e ≠ .finishCustomer) :
    e.origin = .runtimeSsh := by
  cases e with
  | finishCustomer => exact absurd rfl h
  | _ => rfl

/-! ## The bytes reserved -/

/-- The bytes an emitter has reserved for the record in its hands. -/
def EmitterOp.held : EmitterOp → ℕ
  | sending record => record.admittedBytes
  | releasing record => record.admittedBytes
  | _ => 0

/-- The bytes reserved for an item in the provider's queue. -/
def LogWork.held : LogWork → ℕ
  | runtimeSsh record => record.admittedBytes
  | _ => 0

/-- The bytes reserved for the record in the worker's hands. -/
def Pc.held : Pc → ℕ
  | release record _ => record.admittedBytes
  | _ => 0

/-- **The bytes of the records that are reserved and not yet released**:
those in an emitter's hands, in the queue and in the worker's hands. -/
def LogSystem.heldBytes (s : LogSystem) : ℕ :=
  (s.emitters.map EmitterOp.held).sum + (s.runtimeSshQueue.map LogWork.held).sum + s.pc.held

/-- **What a step does to the bytes reserved.** -/
inductive ReservedEffect (s t : LogSystem) : Prop
  | same (hqueued : t.queuedBytes = s.queuedBytes) (hheld : t.heldBytes = s.heldBytes)
  | reserve (bytes : ℕ) (hqueued : t.queuedBytes = s.queuedBytes + bytes)
      (hroom : t.queuedBytes ≤ runtimeSshQueueMemoryBytes)
      (hheld : t.heldBytes = s.heldBytes + bytes)
  | release (bytes : ℕ) (hqueued : t.queuedBytes = s.queuedBytes - bytes)
      (hheld : s.heldBytes = t.heldBytes + bytes)

theorem Next.held_pc (next : Next) : next.pc.held = 0 := by
  cases next <;> rfl

theorem Evidence.held_pc (e : Evidence) : e.pc.held = 0 := by
  cases e with
  | drained caller finish => cases caller <;> cases finish <;> rfl
  | finishCustomer | finishRuntimeSsh => rfl

/-! ## The worker -/

/-- **What a step of the worker does** to each part of the state. -/
structure WorkerStep (ctx : LogContext) (io : StepIo) (s t : LogSystem) : Prop where
  effect : Effect ctx io s t
  edge : ∃ finish, Edge finish s.pc t.pc ∧ (finish = true → t.history.finishReceived = true)
  counters : CounterEffect s t
  reserved : ReservedEffect s t

/-- The customer's counters, and what is reserved outside the worker. -/
def LogSystem.aside (s : LogSystem) :
    DroppedOutput × DroppedOutput × ℕ × List EmitterOp × List LogWork :=
  (s.dropped, s.history.recorded, s.queuedBytes, s.emitters, s.runtimeSshQueue)

section Worker

variable {ctx : LogContext} {io : StepIo} {s t : LogSystem} {p : Pc}

theorem ReservedEffect.still (hqueued : t.queuedBytes = s.queuedBytes)
    (hemitters : t.emitters = s.emitters) (hqueue : t.runtimeSshQueue = s.runtimeSshQueue)
    (hheld : t.pc.held = s.pc.held) : ReservedEffect s t :=
  .same hqueued (by rw [heldBytes, hemitters, hqueue, hheld, heldBytes])

/-- A report of the provider's leaves the customer's counters alone. -/
theorem counters_of_providerReport {e : Evidence} (he : e ≠ .finishCustomer)
    (hs : s.pc = .takeChunks e ∨ ∃ chunks, s.pc = .takeBytes e chunks) (ht : t.pc = e.pc)
    (hdropped : t.dropped = s.dropped)
    (hrecorded : t.history.recorded = s.history.recorded) : CounterEffect s t := by
  have hphase : s.pc.phase = (Pc.takeChunks e).phase := by
    rcases hs with hs | ⟨chunks, hs⟩
    · rw [hs]
    · rw [hs, e.phase_takeBytes he]
  have htaking : ∀ k, (Pc.takeChunks e).phase ≠ .taking k := by
    cases e <;> simp [Pc.phase]
  rcases e.phase_pc he with hp | ⟨hstop, finish, rfl⟩
  · exact .same hdropped hrecorded (by rw [ht, hp, hphase]) (fun k => hphase ▸ htaking k)
  · refine .lose ?_ (ht.trans hstop) hrecorded
    rcases hs with hs | ⟨chunks, hs⟩ <;> rw [hs] <;> rfl

/-- A step between two places where nothing is counted. -/
theorem CounterEffect.counting {p : Pc} (hpc : s.pc = p) (hp : p.phase = .counting)
    (ht : t.pc.phase = .counting) (hdropped : t.dropped = s.dropped)
    (hrecorded : t.history.recorded = s.history.recorded) : CounterEffect s t :=
  .same hdropped hrecorded (by rw [ht, hpc, hp]) (by simp [hpc, hp])

/-- A step that touches neither the counters nor what is reserved. -/
theorem WorkerStep.still (hpc : s.pc = p) (hphase : t.pc.phase = p.phase)
    (htaking : ∀ chunks, p.phase ≠ .taking chunks) (hheld : t.pc.held = p.held)
    (heffect : Effect ctx io s t)
    (hedge : ∃ finish, Edge finish p t.pc ∧ (finish = true → t.history.finishReceived = true))
    (haside : t.aside = s.aside) : WorkerStep ctx io s t := by
  subst hpc
  simp only [LogSystem.aside, Prod.mk.injEq] at haside
  obtain ⟨hdropped, hrecorded, hqueued, hemitters, hqueue⟩ := haside
  exact ⟨heffect, hedge, .same hdropped hrecorded hphase htaking,
    .still hqueued hemitters hqueue hheld⟩

/-- Receiving a chunk admits it, or leaves it to be counted as dropped. -/
theorem WorkerStep.chunk {chunk : OutputChunk} {rest : List LogWork} {caller : DrainCaller}
    (hpc : s.pc = p) (hphase : p.phase = .counting) (hheld : p.held = 0)
    (hreceiving : s.receiving = true) (hqueue : s.customerQueue = .chunk chunk :: rest)
    (hkeep : Edge false p (.drainCustomer caller))
    (hdrop : ∀ bytes, Edge false p (.recordChunks .customer bytes (.drainCustomer caller))) :
    WorkerStep ctx io s (receiveChunk ctx io s chunk rest caller) := by
  have htaking : ∀ chunks, p.phase ≠ .taking chunks := by simp [hphase]
  unfold receiveChunk
  cases hadm : admitChunk ctx io.iv s.worker chunk with
  | none =>
    simp only [hadm]
    exact .still hpc hphase.symm htaking hheld.symm (.drop chunk rest hreceiving hqueue hadm rfl)
      ⟨false, hdrop _, nofun⟩ rfl
  | some r =>
    simp only [hadm]
    exact .still hpc hphase.symm htaking hheld.symm
      (.chunk chunk rest r.1 r.2 hreceiving hqueue hadm rfl) ⟨false, hkeep, nofun⟩ rfl

/-- Receiving a record of the provider takes it out of the queue. -/
theorem WorkerStep.receive {record : RuntimeSshRecord} {rest : List LogWork} {next : Next}
    (hpc : s.pc = p) (hphase : p.phase = .counting) (hheld : p.held = 0)
    (hqueue : s.runtimeSshQueue = .runtimeSsh record :: rest)
    (hedge : Edge false p (.release record next)) :
    WorkerStep ctx io s { s with runtimeSshQueue := rest, pc := .release record next } := by
  refine ⟨.move rfl, ⟨false, hpc ▸ hedge, nofun⟩, .counting hpc hphase rfl rfl rfl, .same rfl ?_⟩
  simp only [heldBytes, hpc, hheld, hqueue, List.map_cons, List.sum_cons]
  simp only [LogWork.held, Pc.held]
  omega

theorem WorkerStep.panic (hpc : s.pc = p) (hheld : p.held = 0) :
    WorkerStep ctx io s { s with pc := .panicked } :=
  ⟨.move rfl, ⟨false, .panicked, nofun⟩, .panic rfl,
    .still rfl rfl rfl (by rw [hpc, hheld]; rfl)⟩

/-- **Every step of the worker has one of the effects on each part.** -/
theorem worker_step (h : workerStep ctx io s = some t) : WorkerStep ctx io s t := by
  unfold workerStep at h
  split at h
  case h_13 | h_14 => cases h
  case h_1 hpc | h_3 hpc =>
    split at h <;> cases h
    case h_1 chunk rest hqueue =>
      exact .chunk hpc rfl rfl (by simp [receiving, hpc]) hqueue (.chunk (by simp))
        (.dropped (by simp))
    case h_2 rest hqueue =>
      exact .still hpc rfl nofun rfl (.finish rest hqueue rfl)
        ⟨true, .finish (by simp), fun _ => rfl⟩ rfl
    case h_3 => exact .panic hpc rfl
    case h_4 =>
      first
      | exact .still hpc rfl nofun rfl (.move rfl) ⟨false, .polled, nofun⟩ rfl
      | cases s.disconnected
        · exact .still hpc rfl nofun rfl (.move rfl) ⟨false, .timeout, nofun⟩ rfl
        · exact .still hpc rfl nofun rfl (.move rfl) ⟨false, .disconnected, nofun⟩ rfl
  case h_2 hpc =>
    split at h <;> cases h
    case h_1 record rest hqueue => exact .receive hpc rfl rfl hqueue (.runtimeSsh record)
    case h_2 => exact .still hpc rfl nofun rfl (.move rfl) ⟨false, .polledRuntimeSsh, nofun⟩ rfl
    case h_3 => exact .panic hpc rfl
  case h_4 caller hpc =>
    split at h
    next hroom =>
      split at h <;> cases h
      case h_1 chunk rest hqueue =>
        exact .chunk hpc rfl rfl (by simp [receiving, hpc, hroom]) hqueue
          (.drainChunk caller) (.drainDropped caller)
      case h_2 rest hqueue =>
        exact .still hpc rfl nofun rfl (.finish rest hqueue rfl)
          ⟨true, .drainFinish caller, fun _ => rfl⟩ rfl
      case h_3 => exact .panic hpc rfl
      case h_4 =>
        exact .still hpc rfl nofun rfl (.move rfl) ⟨false, .drainedCustomer caller, nofun⟩ rfl
    · cases h
      exact .still hpc rfl nofun rfl (.move rfl) ⟨false, .drainedCustomer caller, nofun⟩ rfl
  case h_5 caller finish hpc =>
    split at h
    · split at h <;> cases h
      case h_1 record rest hqueue =>
        exact .receive hpc rfl rfl hqueue (.drainRuntimeSsh caller finish record)
      case h_2 =>
        exact .still hpc rfl nofun rfl (.move rfl) ⟨false, .drained caller finish, nofun⟩ rfl
      case h_3 => exact .panic hpc rfl
    · cases h
      exact .still hpc rfl nofun rfl (.move rfl) ⟨false, .drained caller finish, nofun⟩ rfl
  case h_6 record next hpc =>
    dsimp only at h
    split at h <;> cases h
    case h_1 w encrypted hadm =>
      exact ⟨.runtimeSsh record w encrypted hadm rfl, ⟨false, hpc ▸ .released record next, nofun⟩,
        .counting hpc rfl next.phase_pc rfl rfl, .release _ rfl
          (by simp only [heldBytes, enter, hpc, next.held_pc]; rfl)⟩
    case h_2 =>
      exact ⟨.move rfl, ⟨false, hpc ▸ .releasedDropped record next _, nofun⟩,
        .counting hpc rfl rfl rfl rfl, .release _ rfl
          (by simp [heldBytes, hpc, Pc.held])⟩
  case h_7 origin bytes next hpc =>
    have hgone : s.pc.gone = false := by rw [hpc]; rfl
    cases h
    refine ⟨.move rfl, ⟨false, hpc ▸ .recordedChunks origin bytes next, nofun⟩, ?_,
      .still rfl rfl rfl (by rw [hpc]; rfl)⟩
    cases origin with
    | customer => exact .chunk bytes next hpc rfl (by simp [countChunk, hgone]) rfl
    | runtimeSsh => exact .counting hpc rfl rfl rfl rfl
  case h_8 origin bytes next hpc =>
    have hgone : s.pc.gone = false := by rw [hpc]; rfl
    cases h
    refine ⟨.move rfl, ⟨false, hpc ▸ .recordedBytes origin bytes next, nofun⟩, ?_,
      .still rfl rfl rfl (by rw [hpc]; exact next.held_pc)⟩
    cases origin with
    | customer =>
      exact .bytes bytes next hpc rfl (by simp [countBytes, hgone]) next.phase_pc
    | runtimeSsh => exact .counting hpc rfl next.phase_pc rfl rfl
  case h_9 e hpc =>
    split at h <;> cases h
    next hfull =>
      refine ⟨.move rfl, ⟨false, hpc ▸ .takeSkipped e, nofun⟩, ?_,
        .still rfl rfl rfl (by rw [hpc]; exact e.held_pc)⟩
      by_cases he : e = .finishCustomer
      · subst he
        exact .skip hpc hfull
      · exact counters_of_providerReport he (Or.inl hpc) rfl rfl rfl
    · refine ⟨.move rfl, ⟨false, hpc ▸ .tookChunks e _, nofun⟩, ?_,
        .still rfl rfl rfl (by rw [hpc]; rfl)⟩
      by_cases he : e = .finishCustomer
      · subst he
        exact .take hpc rfl rfl rfl
      · refine .same (by simp [setDropped, e.origin_of_ne he]) rfl ?_ ?_
        · exact (e.phase_takeBytes he _).trans (by rw [hpc])
        · rw [hpc]
          cases e <;> simp [Pc.phase]
  case h_10 e chunks hpc =>
    -- whatever becomes of the evidence, the counter has been taken
    have hrest : ∀ t : LogSystem, t.pc = e.pc → t.history.recorded = s.history.recorded →
        t.dropped = (s.setDropped e.origin { s.droppedOf e.origin with bytes := 0 }).dropped →
        t.queuedBytes = s.queuedBytes → t.emitters = s.emitters →
        t.runtimeSshQueue = s.runtimeSshQueue → Effect ctx io s t → WorkerStep ctx io s t := by
      intro t ht hrecorded hdropped hqueued hemitters hqueue heffect
      refine ⟨heffect, ⟨false, by rw [hpc, ht]; exact .tookBytes e chunks, nofun⟩, ?_,
        .still hqueued hemitters hqueue (by rw [hpc, ht]; exact e.held_pc)⟩
      by_cases he : e = .finishCustomer
      · subst he
        exact .report chunks hpc (by rw [ht]; rfl) hrecorded
      · exact counters_of_providerReport he (Or.inr ⟨chunks, hpc⟩) ht
          (by simp [hdropped, setDropped, e.origin_of_ne he]) hrecorded
    dsimp only at h
    split at h
    · cases h
      exact hrest _ rfl rfl rfl rfl rfl rfl (.move rfl)
    next hsome =>
      split at h <;> cases h
      case h_1 w record hadm =>
        exact hrest _ rfl rfl rfl rfl rfl rfl (.evidence e chunks w record hpc hsome hadm rfl)
      case h_2 => exact hrest _ rfl rfl rfl rfl rfl rfl (.move rfl)
  case h_11 hpc =>
    cases h
    exact .still hpc rfl nofun rfl (.flush (Or.inl hpc) rfl) ⟨false, .flushed, nofun⟩ rfl
  case h_12 hpc =>
    split at h <;> cases h
    · exact .still hpc rfl nofun rfl (.move rfl) ⟨false, .stopped, nofun⟩ rfl
    next hne =>
      have heffect := fun pc => Effect.flush (t := s.flushed (flushOnce ctx io.flush s.worker) pc)
        (Or.inr ⟨hpc, fun hnil => hne (Or.inl hnil)⟩) rfl
      split
      · exact .still hpc rfl nofun rfl (heffect _) ⟨false, .finishFlushed, nofun⟩ rfl
      · exact .still hpc rfl nofun rfl (heffect _) ⟨false, .stopped, nofun⟩ rfl

/-- The last flushes, while there is something to send and time to do
it. -/
theorem workerStep_finishFlush (hpc : s.pc = .finishFlush) (hne : s.worker.pendingRecords ≠ [])
    (hdeadline : io.deadlinePassed = false) :
    workerStep ctx io s
      = some (s.flushed (flushOnce ctx io.flush s.worker)
          (if (flushOnce ctx io.flush s.worker).ok then .finishFlush else .stopped true)) := by
  unfold workerStep
  simp only [hpc, hne, hdeadline, Bool.false_eq_true, or_self, if_false]

/-- **How the worker comes to acknowledge `Finish`**: from its last
flushes, with nothing left to send, no time left, or a flush that
failed. -/
theorem worker_acknowledges (h : workerStep ctx io s = some t) (ht : t.pc = .stopped true) :
    s.pc = .finishFlush
      ∧ (t.worker = s.worker ∧ (s.worker.pendingRecords = [] ∨ io.deadlinePassed = true)
        ∨ t.worker = (flushOnce ctx io.flush s.worker).worker
          ∧ s.worker.pendingRecords ≠ [] ∧ (flushOnce ctx io.flush s.worker).ok = false) := by
  obtain ⟨finish, hedge, -⟩ := (worker_step h).edge
  have hpc : s.pc = .finishFlush := by
    rw [ht] at hedge
    generalize hp : s.pc = p, hq : Pc.stopped true = q at hedge
    cases hedge with
    | stopped => rfl
    | released record next | recordedBytes origin bytes next => cases next <;> simp [Next.pc] at hq
    | takeSkipped e | tookBytes e => exact absurd hq e.pc_ne_acknowledged.symm
    | _ => simp at hq
  refine ⟨hpc, ?_⟩
  unfold workerStep at h
  simp only [hpc] at h
  split at h <;> cases h
  next hdone =>
    exact Or.inl ⟨rfl, hdone⟩
  next hmore =>
    refine Or.inr ⟨rfl, fun hnil => hmore (Or.inl hnil), ?_⟩
    cases hok : (flushOnce ctx io.flush s.worker).ok with
    | false => rfl
    | true => simp [flushed, hok] at ht

end Worker

/-! ## The producers -/

/-- **What a step of a producer does to the view**: nothing, or it puts an
item at the end of the customer queue. -/
inductive ProducerEffect (s t : LogSystem) : Prop
  /-- At most the sender of the logger goes away. -/
  | frame (hsender : t.sender = true → s.sender = true)
      (hview : t.view = { s.view with sender := t.sender })
  /-- A reader queues a chunk. -/
  | queue (chunk : OutputChunk)
      (hview : t.view = { s.view with
        customerQueue := s.customerQueue ++ [.chunk chunk]
        queued := s.history.queued ++ [chunk] })
  /-- The logger queues `Finish`, once. -/
  | finish (hsender : s.sender = true)
      (hview : t.view = { s.view with
        customerQueue := s.customerQueue ++ [.finish]
        sender := false
        queuedAtFinish := some s.history.queued })

/-- An action is the worker's or a producer's. -/
theorem LogAction.worker_or (a : LogAction) :
    (∃ io, a = .worker io) ∨ ∀ io, a ≠ .worker io := by
  cases a with
  | worker io => exact Or.inl ⟨io, rfl⟩
  | _ => exact Or.inr fun io => by simp

/-- **What a step of a producer does to the customer's counters**: a reader
counts a drop, or the bytes of one. -/
inductive ProducerCounters (s t : LogSystem) (a : LogAction) : Prop
  | same (hdropped : t.dropped = s.dropped)
      (hrecorded : t.history.recorded = s.history.recorded)
  | chunk (i : ℕ) (sender : Bool) (bytes : ℕ) (ha : a = .reader i)
      (hreader : s.readers[i]? = some ⟨sender, .recordChunks bytes⟩)
      (hdropped : t.dropped = s.dropped.countChunk)
      (hrecorded : t.history.recorded
        = if s.pc.gone then s.history.recorded
          else { s.history.recorded with chunks := s.history.recorded.chunks + 1 })
  | bytes (i : ℕ) (sender : Bool) (bytes : ℕ) (ha : a = .reader i)
      (hreader : s.readers[i]? = some ⟨sender, .recordBytes bytes⟩)
      (hdropped : t.dropped = s.dropped.countBytes bytes)
      (hrecorded : t.history.recorded
        = if s.pc.gone then s.history.recorded
          else { s.history.recorded with bytes := s.history.recorded.bytes + bytes })

/-- **What a step of a producer does** to each part of the state; the
worker stays where it is. -/
structure ProducerStep (s t : LogSystem) (a : LogAction) : Prop where
  pc : t.pc = s.pc
  effect : ProducerEffect s t
  counters : ProducerCounters s t a
  reserved : ReservedEffect s t

section Producers

variable {ctx : LogContext} {s t : LogSystem} {a : LogAction} {i : ℕ}

/-- What the emitters hold is what one of them holds and the rest. -/
theorem sum_held {l : List EmitterOp} {op : EmitterOp} (h : l[i]? = some op) :
    (l.map EmitterOp.held).sum = op.held + ((l.eraseIdx i).map EmitterOp.held).sum
      ∧ ∀ op', ((l.set i op').map EmitterOp.held).sum
        = EmitterOp.held op' + ((l.eraseIdx i).map EmitterOp.held).sum := by
  obtain ⟨hi, rfl⟩ := List.getElem?_eq_some_iff.mp h
  exact ⟨((List.getElem_cons_eraseIdx_perm hi).map EmitterOp.held).sum_eq.symm,
    fun op' => ((List.set_perm_cons_eraseIdx hi op').map EmitterOp.held).sum_eq⟩

/-- **An emitter reserves what it then holds and releases what it
held.** -/
theorem emitter_reserved (h : emitterStep s i = some t) : ReservedEffect s t := by
  cases hop : s.emitters[i]? with
  | none => simp [emitterStep, hop] at h
  | some op =>
    obtain ⟨hsum, hset⟩ := sum_held hop
    cases op with
    | reserving record =>
      simp only [emitterStep, hop] at h
      split at h <;> cases h
      next next hnext =>
        obtain ⟨hadd, hroom⟩ := Option.filter_eq_some_iff.mp hnext
        refine .reserve record.admittedBytes (checkedAdd_eq_some hadd).1 (by simpa using hroom) ?_
        simp only [heldBytes, hsum, hset, EmitterOp.held]
        omega
      · exact .same rfl (by simp only [heldBytes, hsum, hset, EmitterOp.held])
    | sending record =>
      simp only [emitterStep, hop] at h
      split at h <;> cases h
      · exact .same rfl (by simp only [heldBytes, hsum, hset, EmitterOp.held])
      · refine .same rfl ?_
        simp [heldBytes, hsum, EmitterOp.held, LogWork.held]
        omega
    | releasing record =>
      simp only [emitterStep, hop] at h
      cases h
      refine .release record.admittedBytes rfl ?_
      simp only [heldBytes, hsum, hset, EmitterOp.held]
      omega
    | recordChunks bytes | recordBytes bytes =>
      simp only [emitterStep, hop] at h
      cases h
      exact .same rfl
        (by simp [heldBytes, countChunk, countBytes, hsum, hset,
          EmitterOp.held, -List.map_set])

/-- **Every step of a producer has one of the effects on each part.** -/
theorem producer_step (ha : ∀ io, a ≠ .worker io) (h : logStep ctx s a = some t) :
    ProducerStep s t a := by
  cases a with
  | worker io => exact absurd rfl (ha io)
  | spawnReader =>
    cases h
    exact ⟨rfl, .frame id rfl, .same rfl rfl, .same rfl rfl⟩
  | endReader i =>
    simp only [logStep] at h
    split at h
    · cases h
      exact ⟨rfl, .frame id rfl, .same rfl rfl, .same rfl rfl⟩
    · cases h
  | readChunk i chunk windowElapsed =>
    simp only [logStep, readChunk] at h
    split at h
    · split at h
      · cases h
        exact ⟨rfl, .frame id rfl, .same rfl rfl, .same rfl rfl⟩
      · cases h
    · cases h
  | reader i =>
    simp only [logStep, readerStep] at h
    split at h
    case h_1 sender chunk _ =>
      split at h <;> cases h
      · exact ⟨rfl, .frame id rfl, .same rfl rfl, .same rfl rfl⟩
      · exact ⟨rfl, .queue chunk rfl, .same rfl rfl, .same rfl rfl⟩
    case h_2 sender bytes hreader =>
      cases h
      refine ⟨rfl, .frame id rfl, .chunk i sender bytes rfl hreader rfl ?_, .same rfl rfl⟩
      cases hgone : s.pc.gone <;> simp [countChunk, hgone]
    case h_3 sender bytes hreader =>
      cases h
      refine ⟨rfl, .frame id rfl, .bytes i sender bytes rfl hreader rfl ?_, .same rfl rfl⟩
      cases hgone : s.pc.gone <;> simp [countBytes, hgone]
    case h_4 => cases h
  | emit record windowElapsed =>
    cases h
    have hheld : ∀ op : EmitterOp, op.held = 0 →
        ((s.emitters ++ [op]).map EmitterOp.held).sum = (s.emitters.map EmitterOp.held).sum := by
      intro op hop
      simp [hop]
    unfold emit
    split
    · exact ⟨rfl, .frame id rfl, .same rfl rfl,
        .same rfl (by rw [heldBytes, hheld _ rfl]; rfl)⟩
    · refine ⟨rfl, .frame id rfl, .same rfl rfl, .same rfl ?_⟩
      rw [heldBytes, hheld _ (by split <;> rfl)]
      rfl
  | emitter i =>
    have hreserved := emitter_reserved h
    simp only [logStep, emitterStep] at h
    split at h
    case h_1 | h_2 =>
      split at h <;> cases h
      all_goals exact ⟨rfl, .frame id rfl, .same rfl rfl, hreserved⟩
    case h_6 => cases h
    all_goals
      cases h
      exact ⟨rfl, .frame id rfl, .same rfl rfl, hreserved⟩
  | finish =>
    cases h
    unfold finishLogger
    split
    next hsender =>
      split
      · exact ⟨rfl, .frame (fun _ => hsender) rfl, .same rfl rfl, .same rfl rfl⟩
      · exact ⟨rfl, .finish hsender rfl, .same rfl rfl, .same rfl rfl⟩
    · exact ⟨rfl, .frame id rfl, .same rfl rfl, .same rfl rfl⟩

end Producers
