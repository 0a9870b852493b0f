import RuntimeCargo.AccessSetup
import RuntimeCargo.LogSystem

/-!
# A panic in the setup

The setup runs in a thread of its own. A panic inside it is caught there, is
written to the log with the text it was raised with, and becomes an error like
any other. The text is cut to 600 bytes first, and a cut that does not fall
between two characters is a panic of its own, which nothing catches: the
thread ends without a word, and who waits for it is told that the setup has
failed, not that it has panicked, and finds no record.

So a panic is reported as one if and only if there is no logger, or its text
has no character across the 600th byte (`panic_is_reported_iff`).
-/

/-! ## Cutting a text -/

/-- The characters at the start that make up exactly some bytes. -/
def takeBytes : List Char → ℕ → Option (List Char)
  | _, 0 => some []
  | [], _ + 1 => none
  | c :: cs, n + 1 =>
    if c.utf8Size ≤ n + 1 then (takeBytes cs (n + 1 - c.utf8Size)).map (c :: ·) else none

/-- `String::truncate`, which panics if the cut is not between two
characters. -/
def truncate (s : String) (n : ℕ) : Option String :=
  if n ≤ s.utf8ByteSize then (takeBytes s.toList n).map String.ofList else some s

/-- The text can be cut: it is not longer, or it has a part of that length at
its start. -/
def Cuttable (s : String) (n : ℕ) : Prop :=
  s.utf8ByteSize < n ∨ ∃ start rest : String, s = start ++ rest ∧ start.utf8ByteSize = n

/-- One character more at the start. -/
theorem size_ofList_cons (c : Char) (cs : List Char) :
    (String.ofList (c :: cs)).utf8ByteSize = c.utf8Size + (String.ofList cs).utf8ByteSize := by
  rw [← List.singleton_append, String.ofList_append, String.utf8ByteSize_append,
    ← String.singleton_eq_ofList, String.utf8ByteSize_singleton]

/-- **What is taken** is the part at the start that has so many bytes. -/
theorem takeBytes_eq_some {cs start : List Char} {n : ℕ} :
    takeBytes cs n = some start
      ↔ (∃ rest, cs = start ++ rest) ∧ (String.ofList start).utf8ByteSize = n := by
  induction cs generalizing start n with
  | nil =>
    cases n with
    | zero =>
      constructor
      · intro h
        cases h
        exact ⟨⟨[], rfl⟩, rfl⟩
      · rintro ⟨⟨rest, heq⟩, -⟩
        rw [(List.append_eq_nil_iff.mp heq.symm).1]
        rfl
    | succ n =>
      constructor
      · exact fun h => absurd h nofun
      · rintro ⟨⟨rest, heq⟩, hsize⟩
        rw [(List.append_eq_nil_iff.mp heq.symm).1] at hsize
        cases hsize
  | cons c cs ih =>
    have hpos := c.utf8Size_pos
    cases n with
    | zero =>
      constructor
      · intro h
        cases h
        exact ⟨⟨c :: cs, rfl⟩, rfl⟩
      · rintro ⟨-, hsize⟩
        cases start with
        | nil => rfl
        | cons d start =>
          rw [size_ofList_cons] at hsize
          have := d.utf8Size_pos
          omega
    | succ n =>
      rw [takeBytes]
      by_cases hfits : c.utf8Size ≤ n + 1
      · rw [if_pos hfits, Option.map_eq_some_iff]
        constructor
        · rintro ⟨taken, htaken, rfl⟩
          obtain ⟨⟨rest, rfl⟩, hsize⟩ := ih.mp htaken
          refine ⟨⟨rest, rfl⟩, ?_⟩
          rw [size_ofList_cons, hsize]
          omega
        · rintro ⟨⟨rest, heq⟩, hsize⟩
          cases start with
          | nil => cases hsize
          | cons d start =>
            cases heq
            rw [size_ofList_cons] at hsize
            exact ⟨start, ih.mpr ⟨⟨rest, rfl⟩, by omega⟩, rfl⟩
      · rw [if_neg hfits]
        constructor
        · exact fun h => absurd h nofun
        · rintro ⟨⟨rest, heq⟩, hsize⟩
          cases start with
          | nil => cases hsize
          | cons d start =>
            cases heq
            rw [size_ofList_cons] at hsize
            omega

/-- **A cut panics if and only if it is not between two characters.** -/
theorem isSome_truncate (s : String) (n : ℕ) : (truncate s n).isSome = true ↔ Cuttable s n := by
  rw [truncate, Cuttable]
  by_cases hle : n ≤ s.utf8ByteSize
  · rw [if_pos hle, Option.isSome_map, Option.isSome_iff_exists, or_iff_right (by omega)]
    constructor
    · rintro ⟨start, h⟩
      obtain ⟨⟨rest, heq⟩, hsize⟩ := takeBytes_eq_some.mp h
      refine ⟨String.ofList start, String.ofList rest, ?_, hsize⟩
      rw [← String.ofList_append, ← heq, String.ofList_toList]
    · rintro ⟨start, rest, rfl, hsize⟩
      refine ⟨start.toList, takeBytes_eq_some.mpr ⟨⟨rest.toList, String.toList_append⟩, ?_⟩⟩
      rw [String.ofList_toList, hsize]
  · rw [if_neg hle]
    exact ⟨fun _ => .inl (by omega), fun _ => rfl⟩

/-! ## The queue of the log -/

/-- The provider's queue, as its emitters see it. -/
structure SshQueue where
  queuedBytes : ℕ
  records : List RuntimeSshRecord
  /-- The receiver is gone. -/
  gone : Bool
  dropped : DroppedOutput

/-- `DroppedOutput::record`. -/
def DroppedOutput.record (d : DroppedOutput) (bytes : ℕ) : DroppedOutput :=
  d.countChunk.countBytes bytes

/-- `enqueue_critical`. What was reserved for a record that could not be sent is
released. -/
def enqueueCritical (q : SshQueue) (record : RuntimeSshRecord) : SshQueue :=
  match reserveQueueBytes q.queuedBytes record.admittedBytes with
  | none => { q with dropped := q.dropped.record record.admittedBytes }
  | some queued =>
    if q.gone ∨ outputQueueCapacity ≤ q.records.length then
      { q with
        queuedBytes := queued - record.admittedBytes
        dropped := q.dropped.record record.admittedBytes }
    else { q with queuedBytes := queued, records := q.records ++ [record] }

/-- There is room for a record. -/
def SshQueue.HasRoom (q : SshQueue) (record : RuntimeSshRecord) : Prop :=
  q.queuedBytes + record.admittedBytes ≤ runtimeSshQueueMemoryBytes ∧ q.gone = false
    ∧ q.records.length < outputQueueCapacity

/-- A record for which there is room is queued. -/
theorem mem_enqueueCritical {q : SshQueue} {record : RuntimeSshRecord} (h : q.HasRoom record) :
    record ∈ (enqueueCritical q record).records := by
  obtain ⟨hbytes, hgone, hlength⟩ := h
  have hu64 : runtimeSshQueueMemoryBytes ≤ u64Max := by decide
  have hreserve : reserveQueueBytes q.queuedBytes record.admittedBytes
      = some (q.queuedBytes + record.admittedBytes) := by
    rw [reserveQueueBytes, checkedAdd, if_pos (Nat.le_trans hbytes hu64)]
    exact Option.filter_some_pos (decide_eq_true hbytes)
  have hsent : ¬ (q.gone = true ∨ outputQueueCapacity ≤ q.records.length) := by
    rw [hgone]
    exact fun h => h.elim Bool.false_ne_true (Nat.not_le.mpr hlength)
  rw [enqueueCritical, hreserve]
  dsimp only
  rw [if_neg hsent]
  exact List.mem_append_right _ (List.mem_singleton_self _)

/-- What is queued stays. -/
theorem records_enqueueCritical (q : SshQueue) (record : RuntimeSshRecord) :
    q.records <+: (enqueueCritical q record).records := by
  rw [enqueueCritical]
  split
  · exact List.prefix_refl _
  · split
    · exact List.prefix_refl _
    · exact List.prefix_append _ _

/-! ## Reports -/

/-- What a logger knows of the provider: `provider_kind` and `component`. -/
structure SshLogIdentity where
  providerKind : String
  component : String

/-- A record that outranks raw lines. -/
def criticalRecord (event timestamp : String) (details : Json) : RuntimeSshRecord :=
  ⟨event, timestamp, details, (canonicalJsonBytes details).utf8ByteSize, true⟩

/-- The record of a panic. -/
def panicRecord (identity : SshLogIdentity) (timestamp stage message : String) :
    RuntimeSshRecord :=
  criticalRecord "runtime.access.panic" timestamp
    (.obj [("providerKind", .str identity.providerKind), ("format", .str "panic"),
      ("stage", .str stage), ("message", .str message)])

/-- `panic_report`; none if it panics. -/
def panicReport (identity : SshLogIdentity) (timestamp stage message : String) (q : SshQueue) :
    Option SshQueue :=
  (truncate message 600).map fun text => enqueueCritical q (panicRecord identity timestamp stage text)

/-- `stage`, without what is null. -/
def stageRecord (identity : SshLogIdentity) (timestamp stage : String) (elapsedMs : ℕ)
    (outcome : String) (code : Option AccessCode) : RuntimeSshRecord :=
  criticalRecord "runtime.access.stage" timestamp
    (.obj ([("providerKind", .str identity.providerKind), ("component", .str identity.component),
      ("format", .str "stage"), ("stage", .str stage), ("elapsedMs", .num elapsedMs),
      ("outcome", .str outcome)] ++ (code.map fun code => ("code", Json.str code.name)).toList))

/-! ## The thread of the setup -/

/-- What a panic was raised with. -/
inductive PanicPayload where
  | str (text : String)
  | string (text : String)
  | other

/-- `panic_message`. -/
def panicMessage : PanicPayload → String
  | .str text => text
  | .string text => text
  | .other => "non-string panic payload"

/-- How the setup came to its end. -/
inductive SetupEnd where
  | returned (result : Except AccessCode (Option AccessSession))
  | panicked (payload : PanicPayload)

/-- The thread: what it hands over, if it does not panic itself, and what it
leaves of the queue. -/
def setupThread (logger : Option SshLogIdentity) (timestamp : String) (q : SshQueue) :
    SetupEnd → Option (Except AccessCode (Option AccessSession)) × SshQueue
  | .returned result => (some result, q)
  | .panicked payload =>
    match logger with
    | none => (some (.error .setupPanicked), q)
    | some identity =>
      match panicReport identity timestamp "access_setup" (panicMessage payload) q with
      | none => (none, q)
      | some q => (some (.error .setupPanicked), q)

/-- What became of the thread. -/
inductive ThreadFate where
  /-- It could not be started. -/
  | refused
  /-- It is not over when the time is up. -/
  | late
  | over (setupEnd : SetupEnd)

/-- `run_with_external_deadline`: the thread hands over its result, or is gone
without one. -/
def runWithExternalDeadline (logger : Option SshLogIdentity) (timestamp : String) (q : SshQueue) :
    ThreadFate → Except AccessCode (Option AccessSession) × SshQueue
  | .refused => (.error .setupFailed, q)
  | .late => (.error .setupTimeout, q)
  | .over setupEnd =>
    match setupThread logger timestamp q setupEnd with
    | (some result, q) => (result, q)
    | (none, q) => (.error .setupFailed, q)

/-- How a result is named in the log. -/
def setupOutcome (accessPresent : Bool) : Except AccessCode (Option AccessSession) → String
  | .ok (some _) => "ok_session"
  | .ok none => if accessPresent then "ok_none_access_present" else "ok_none_access_absent"
  | .error _ => "err"

/-- The code of a result that is an error. -/
def resultCode : Except AccessCode (Option AccessSession) → Option AccessCode
  | .ok _ => none
  | .error code => some code

/-- `setup_runtime_access_within`. -/
def setupRuntimeAccessWithin (logger : Option SshLogIdentity) (timestamp : String)
    (elapsedMs : ℕ) (accessPresent : Bool) (fate : ThreadFate) (q : SshQueue) :
    Except AccessCode (Option AccessSession) × SshQueue :=
  let (result, q) := runWithExternalDeadline logger timestamp q fate
  match logger with
  | none => (result, q)
  | some identity =>
    (result, enqueueCritical q (stageRecord identity timestamp "setup_return" elapsedMs
      (setupOutcome accessPresent result) (resultCode result)))

/-! ## When a panic is reported -/

/-- **A panic is reported**: there is no second one, the error says so, and a
record names the stage and what the panic said, if there is a logger and room
in the queue. -/
structure PanicReported (logger : Option SshLogIdentity) (timestamp : String) (elapsedMs : ℕ)
    (accessPresent : Bool) (payload : PanicPayload) (q : SshQueue) : Prop where
  caught : (setupThread logger timestamp q (.panicked payload)).1.isSome = true
  error : (setupRuntimeAccessWithin logger timestamp elapsedMs accessPresent
    (.over (.panicked payload)) q).1 = .error .setupPanicked
  recorded : ∀ identity, logger = some identity → ∃ text,
    truncate (panicMessage payload) 600 = some text
      ∧ (q.HasRoom (panicRecord identity timestamp "access_setup" text) →
        panicRecord identity timestamp "access_setup" text
          ∈ (setupRuntimeAccessWithin logger timestamp elapsedMs accessPresent
            (.over (.panicked payload)) q).2.records)

/-- A text that cannot be cut ends the thread. -/
theorem setupThread_of_truncate (identity : SshLogIdentity) (timestamp : String)
    {payload : PanicPayload} (q : SshQueue) (h : truncate (panicMessage payload) 600 = none) :
    setupThread (some identity) timestamp q (.panicked payload) = (none, q) := by
  rw [setupThread, panicReport, h]
  rfl

/-- **A panic in the setup is reported as one if and only if** there is no
logger, or the text of the panic can be cut at its 600th byte. -/
theorem panic_is_reported_iff (logger : Option SshLogIdentity) (timestamp : String)
    (elapsedMs : ℕ) (accessPresent : Bool) (payload : PanicPayload) (q : SshQueue) :
    PanicReported logger timestamp elapsedMs accessPresent payload q
      ↔ logger = none ∨ Cuttable (panicMessage payload) 600 := by
  cases logger with
  | none =>
    refine ⟨fun _ => .inl rfl, fun _ => ⟨rfl, rfl, fun identity heq => absurd heq nofun⟩⟩
  | some identity =>
    rw [or_iff_right nofun, ← isSome_truncate]
    constructor
    · intro h
      obtain ⟨text, htext, -⟩ := h.recorded identity rfl
      rw [htext]
      rfl
    · intro h
      obtain ⟨text, htext⟩ := Option.isSome_iff_exists.mp h
      have hreport : panicReport identity timestamp "access_setup" (panicMessage payload) q
          = some (enqueueCritical q (panicRecord identity timestamp "access_setup" text)) := by
        rw [panicReport, htext]
        rfl
      have hthread : setupThread (some identity) timestamp q (.panicked payload)
          = (some (.error .setupPanicked),
            enqueueCritical q (panicRecord identity timestamp "access_setup" text)) := by
        rw [setupThread, hreport]
      have hwithin : setupRuntimeAccessWithin (some identity) timestamp elapsedMs accessPresent
          (.over (.panicked payload)) q = (.error .setupPanicked,
            enqueueCritical (enqueueCritical q (panicRecord identity timestamp "access_setup" text))
              (stageRecord identity timestamp "setup_return" elapsedMs "err"
                (some .setupPanicked))) := by
        rw [setupRuntimeAccessWithin, runWithExternalDeadline, hthread]
        rfl
      refine ⟨?_, ?_, fun identity' heq => ⟨text, htext, fun hroom => ?_⟩⟩
      · rw [hthread]
        rfl
      · rw [hwithin]
      · cases heq
        rw [hwithin]
        exact (records_enqueueCritical _ _).subset (mem_enqueueCritical hroom)

namespace PanicSample

def identity : SshLogIdentity := ⟨"tailscale", "tailscaled"⟩

/-- A queue with all its room. -/
def queue : SshQueue := ⟨0, [], false, ⟨0, 0⟩⟩

/-- A text of 601 bytes, the last two of which are one character. -/
def text : String := String.ofList (List.replicate 599 'a' ++ ['é'])

theorem takeBytes_replicate (k n : ℕ) (cs : List Char) :
    takeBytes (List.replicate k 'a' ++ cs) (k + n)
      = (takeBytes cs n).map (List.replicate k 'a' ++ ·) := by
  induction k with
  | zero =>
    rw [Nat.zero_add]
    exact Option.map_id'.symm
  | succ k ih =>
    have hone : 'a'.utf8Size = 1 := rfl
    have hsum : k + 1 + n = (k + n) + 1 := by omega
    rw [List.replicate_succ, List.cons_append, hsum, takeBytes, hone, if_pos (by omega),
      Nat.add_sub_cancel, ih, Option.map_map]
    rfl

/-- A cut in the middle of the last character. -/
theorem truncate_across (k : ℕ) :
    truncate (String.ofList (List.replicate k 'a' ++ ['é'])) (k + 1) = none := by
  have hsize : (String.ofList (List.replicate k 'a' ++ ['é'])).utf8ByteSize = k + 2 := by
    rw [String.ofList_append, String.utf8ByteSize_append, size_ofList_replicate,
      show 'a'.utf8Size = 1 from rfl, Nat.mul_one]
    rfl
  rw [truncate, hsize, if_pos (by omega), String.toList_ofList, takeBytes_replicate]
  rfl

theorem truncate_text : truncate text 600 = none := truncate_across 599

end PanicSample

open PanicSample in
/-- **A text that is cut within a character is lost**: the panic is returned as
a failed setup, and of the room in the queue only the line of the end is
used. -/
theorem panic_across_cut_is_lost :
    setupRuntimeAccessWithin (some identity) "" 0 true (.over (.panicked (.string text))) queue
        = (.error .setupFailed, enqueueCritical queue
          (stageRecord identity "" "setup_return" 0 "err" (some .setupFailed)))
      ∧ ¬ PanicReported (some identity) "" 0 true (.string text) queue := by
  have hthread : setupThread (some identity) "" queue (.panicked (.string text)) = (none, queue) :=
    setupThread_of_truncate identity "" queue truncate_text
  constructor
  · rw [setupRuntimeAccessWithin, runWithExternalDeadline, hthread]
    rfl
  · intro h
    have hcaught := h.caught
    rw [hthread] at hcaught
    exact absurd hcaught Bool.false_ne_true
