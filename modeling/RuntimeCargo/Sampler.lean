import RuntimeCargo.Transition

/-!
# Sampling on another thread

The supervisor reports how much memory is in use and how hot the device is. To
read either may hang, so it is read on a thread of its own and the supervisor
waits for a short time only. Two channels with room for one message connect
the two: a request goes one way and a summary comes back. If the time is over
first, the call returns without a summary and notes that one is *outstanding*;
the next call throws it away, if it has come by then, before it makes a request
of its own.

The two samplers are the same but for what is asked and what is answered, so
there is one model of both (`Sampler`). The caller and the thread take one step
at a time in any order, the thread may stop for any length of time between two
of its steps and may die at any of them, and a wait may be over at any moment.
A read is kept together with the number of calls that had been made when it
began (`Reading.begun`), which is how a late reply can be told from one that is
in time.
-/

/-- A read: what it was made for, how many calls had been made when it began,
and what it gave. -/
structure Reading (ρ σ : Type) where
  request : ρ
  begun : ℕ
  summary : σ
deriving DecidableEq

/-- Where the thread is. Its end of the requests is dropped before its end of
the replies. -/
inductive ReaderThread (ρ σ : Type) where
  | waiting
  | reading (request : ρ) (begun : ℕ)
  | replying (reading : Reading ρ σ)
  | closing
  | gone
deriving DecidableEq

/-- Where the caller is, in `Worker::sample_within`. -/
inductive SampleCaller (ρ : Type) where
  | idle
  | collecting (request : ρ)
  | requesting (request : ρ)
  | waiting (request : ρ)
deriving DecidableEq

/-- A call that has returned, and the read it has returned if any. -/
structure SampleCall (ρ σ : Type) where
  call : ℕ
  request : ρ
  reading : Option (Reading ρ σ)
deriving DecidableEq

/-- `MemorySampler` and `ThermalSampler`, with the thread and the channels. -/
structure Sampler (ρ σ : Type) where
  /-- Whether there is a `Worker`. -/
  usable : Bool
  outstanding : Bool
  requests : List ρ
  replies : List (Reading ρ σ)
  thread : ReaderThread ρ σ
  caller : SampleCaller ρ
  /-- How many calls were made. -/
  calls : ℕ
  returned : List (SampleCall ρ σ)
deriving DecidableEq

/-- What is done: by the caller, and from `take` on by the thread. -/
inductive SamplerAction (ρ σ : Type) where
  | call (request : ρ)
  | collect
  | request
  | receive
  | expire
  | hangUp
  | take
  | read (summary : σ)
  | reply
  | finish
  | die
  | leave

variable {ρ σ : Type}

namespace ReaderThread

/-- A read that was begun and is not answered. -/
def pending : ReaderThread ρ σ → ℕ
  | reading .. | replying _ => 1
  | _ => 0

def isGone : ReaderThread ρ σ → Bool
  | closing | gone => true
  | _ => false

/-- What is read, if anything, is read for this request, since so many calls
had been made. -/
def ReadsFor (request : ρ) (begun : ℕ) : ReaderThread ρ σ → Prop
  | reading w n => w = request ∧ n = begun
  | replying r => r.request = request ∧ r.begun = begun
  | _ => True

theorem readsFor_of_pending {thread : ReaderThread ρ σ} {request : ρ} {begun : ℕ}
    (h : thread.pending = 0) : thread.ReadsFor request begun := by
  cases thread <;> simp_all [pending, ReadsFor]

end ReaderThread

/-- What a call gives: the summary it has got, or the one for want of any –
`MemorySummary::unread`, or none at all of the temperatures. -/
def SampleCall.value (unread : σ) (c : SampleCall ρ σ) : σ :=
  (c.reading.map Reading.summary).getD unread

namespace Sampler

/-- `start`, where the thread may be refused. -/
def start (spawned : Bool) : Sampler ρ σ :=
  ⟨spawned, false, [], [], if spawned then .waiting else .gone, .idle, 0, []⟩

/-- The room of either channel. -/
def room : ℕ := 1

/-- A call returns; a worker that is not alive is dropped. -/
def returns (s : Sampler ρ σ) (request : ρ) (reading : Option (Reading ρ σ)) (alive : Bool) :
    Sampler ρ σ :=
  { s with
    usable := s.usable && alive
    caller := .idle
    returned := s.returned ++ [⟨s.calls, request, reading⟩] }

/-- The thread drops its end of the requests. -/
def close (s : Sampler ρ σ) : Sampler ρ σ := { s with thread := .closing, requests := [] }

/-- One step, if it can be taken. -/
def step (s : Sampler ρ σ) : SamplerAction ρ σ → Option (Sampler ρ σ)
  | .call w =>
    if s.caller matches .idle then
      let s := { s with calls := s.calls + 1 }
      if s.usable then
        some { s with caller := if s.outstanding then .collecting w else .requesting w }
      else some (s.returns w none true)
    else none
  | .collect =>
    match s.caller, s.replies with
    | .collecting w, _ :: rest =>
      some { s with replies := rest, outstanding := false, caller := .requesting w }
    | .collecting w, [] => some (s.returns w none !(s.thread matches .gone))
    | _, _ => none
  | .request =>
    match s.caller with
    | .requesting w =>
      if s.thread.isGone then some (s.returns w none false)
      else if s.requests.length ≥ room then some (s.returns w none true)
      else some { s with requests := s.requests ++ [w], caller := .waiting w }
    | _ => none
  | .receive =>
    match s.caller, s.replies with
    | .waiting w, r :: rest => some ({ s with replies := rest }.returns w (some r) true)
    | _, _ => none
  | .expire =>
    match s.caller with
    | .waiting w => some ({ s with outstanding := true }.returns w none true)
    | _ => none
  | .hangUp =>
    match s.caller, s.replies, s.thread with
    | .waiting w, [], .gone => some (s.returns w none false)
    | _, _, _ => none
  | .take =>
    match s.thread, s.requests with
    | .waiting, w :: rest => some { s with thread := .reading w s.calls, requests := rest }
    | _, _ => none
  | .read summary =>
    match s.thread with
    | .reading w n => some { s with thread := .replying ⟨w, n, summary⟩ }
    | _ => none
  | .reply =>
    match s.thread with
    | .replying r =>
      if s.usable = false then some s.close
      else if s.replies.length ≥ room then none
      else some { s with replies := s.replies ++ [r], thread := .waiting }
    | _ => none
  | .finish =>
    match s.thread, s.requests with
    | .waiting, [] => if s.usable then none else some s.close
    | _, _ => none
  | .die => if s.thread.isGone then none else some s.close
  | .leave => if s.thread matches .closing then some { s with thread := .gone } else none

/-- What is asked for and not yet thrown away or returned. -/
def inFlight (s : Sampler ρ σ) : ℕ :=
  s.requests.length + s.thread.pending + s.replies.length

/-! ## What holds throughout -/

/-- **The flag is in step with the channels**: unless a reply is outstanding or
waited for, nothing is in flight, and what is in flight while it is waited for
was asked for in this call. -/
structure Sound (s : Sampler ρ σ) : Prop where
  one : s.inFlight ≤ 1
  quiet : s.usable = true → s.outstanding = false → (∀ w, s.caller ≠ .waiting w) → s.inFlight = 0
  calling : s.caller ≠ .idle → s.usable = true
  collecting : ∀ w, s.caller = .collecting w → s.outstanding = true
  requesting : ∀ w, s.caller = .requesting w → s.outstanding = false
  asked : ∀ w, s.caller = .waiting w → ∀ w' ∈ s.requests, w' = w
  reads : ∀ w, s.caller = .waiting w → s.thread.ReadsFor w s.calls
  replied : ∀ w, s.caller = .waiting w → ∀ r ∈ s.replies, r.request = w ∧ r.begun = s.calls
  own : ∀ c ∈ s.returned, ∀ r, c.reading = some r → r.request = c.request ∧ r.begun = c.call

variable {s t u : Sampler ρ σ} {a : SamplerAction ρ σ}

theorem sound_start (spawned : Bool) : Sound (start spawned : Sampler ρ σ) := by
  cases spawned <;> constructor <;> simp [start, inFlight, ReaderThread.pending]

/-- What is in flight moves on or is lost, and is what was asked for. -/
theorem Sound.moves {requests : List ρ} {replies : List (Reading ρ σ)} {thread : ReaderThread ρ σ}
    (h : Sound s) (hle : requests.length + thread.pending + replies.length ≤ s.inFlight)
    (hown : ∀ w, s.caller = .waiting w → (∀ w' ∈ requests, w' = w) ∧ thread.ReadsFor w s.calls
      ∧ ∀ r ∈ replies, r.request = w ∧ r.begun = s.calls) :
    Sound { s with requests := requests, replies := replies, thread := thread } :=
  ⟨Nat.le_trans hle h.one, fun husable hout hcaller =>
    Nat.le_zero.mp (h.quiet husable hout hcaller ▸ hle), h.calling, h.collecting, h.requesting,
    fun w hw => (hown w hw).1, fun w hw => (hown w hw).2.1, fun w hw => (hown w hw).2.2, h.own⟩

theorem Sound.close (h : Sound s) : Sound s.close := by
  refine h.moves ?_ fun w hw => ⟨nofun, trivial, h.replied w hw⟩
  simp only [inFlight, ReaderThread.pending, List.length_nil]
  omega

/-- A call that has returned waits for nothing. -/
theorem sound_returns {w : ρ} {reading : Option (Reading ρ σ)} {alive : Bool}
    (one : s.inFlight ≤ 1)
    (quiet : s.usable = true → alive = true → s.outstanding = false → s.inFlight = 0)
    (own : ∀ c ∈ s.returned, ∀ r, c.reading = some r → r.request = c.request ∧ r.begun = c.call)
    (hreading : ∀ r, reading = some r → r.request = w ∧ r.begun = s.calls) :
    Sound (s.returns w reading alive) := by
  refine ⟨one, fun husable hout _ => ?_, fun hne => absurd rfl hne, nofun, nofun, nofun, nofun,
    nofun, List.forall_mem_append.mpr ⟨own, List.forall_mem_singleton.mpr hreading⟩⟩
  obtain ⟨husable, halive⟩ := Bool.and_eq_true_iff.mp husable
  exact quiet husable halive hout

theorem Sound.step (h : Sound s) (hstep : s.step a = some t) : Sound t := by
  obtain ⟨one, quiet, calling, collecting, requesting, asked, reads, replied, own⟩ := id h
  cases a <;> simp only [Sampler.step] at hstep
  case call w =>
    split at hstep
    next hcaller =>
      rw [if_pos rfl] at hstep
      split_ifs at hstep with husable hout <;> cases hstep
      · exact ⟨one, fun _ hnot _ => (by cases hnot.symm.trans hout), fun _ => husable,
          fun _ _ => hout, nofun, nofun, nofun, nofun, own⟩
      · rw [Bool.not_eq_true] at hout
        exact ⟨one, fun _ _ _ => quiet husable hout (by rw [hcaller]; nofun), fun _ => husable,
          nofun, fun _ _ => hout, nofun, nofun, nofun, own⟩
      · exact sound_returns one (fun h => absurd h husable) own nofun
    next => cases hstep
  case collect =>
    split at hstep <;> cases hstep
    next w r rest hcaller hreplies =>
      -- the reply that was outstanding was all there was
      have hnone : s.requests.length + s.thread.pending + rest.length = 0 := by
        rw [inFlight, hreplies] at one
        exact Nat.le_zero.mp (Nat.le_of_succ_le_succ one)
      exact ⟨Nat.le_succ_of_le (Nat.le_of_eq hnone), fun _ _ _ => hnone,
        fun _ => calling (by rw [hcaller]; nofun), nofun, fun _ _ => rfl, nofun, nofun, nofun, own⟩
    next w hcaller hreplies =>
      exact sound_returns one (fun _ _ hnot => by cases hnot.symm.trans (collecting w hcaller)) own
        nofun
  case request =>
    split at hstep
    next w hcaller =>
      have husable : s.usable = true := calling (by rw [hcaller]; nofun)
      have hquiet : s.inFlight = 0 := quiet husable (requesting w hcaller) (by rw [hcaller]; nofun)
      have hreturns : ∀ alive, Sound (s.returns w none alive) :=
        fun _ => sound_returns one (fun _ _ _ => hquiet) own nofun
      split_ifs at hstep <;> cases hstep
      · exact hreturns _
      · exact hreturns _
      · -- nothing is in flight, so that all there is from here on is of this call
        obtain ⟨⟨hrequests, hthread⟩, hreplies⟩ :
            (s.requests = [] ∧ s.thread.pending = 0) ∧ s.replies = [] := by
          simpa [inFlight] using hquiet
        refine ⟨?_, fun _ _ hne => absurd rfl (hne w), fun _ => husable, nofun, nofun, ?_, ?_, ?_,
          own⟩
        · simp [inFlight, hrequests, hthread, hreplies]
        · rintro _ ⟨⟩
          simp [hrequests]
        · exact fun _ _ => ReaderThread.readsFor_of_pending hthread
        · simp [hreplies]
    next => cases hstep
  case receive =>
    split at hstep <;> cases hstep
    next w r rest hcaller hreplies =>
      rw [inFlight, hreplies] at one
      refine sound_returns (Nat.le_of_succ_le one)
        (fun _ _ _ => Nat.le_zero.mp (Nat.le_of_succ_le_succ one)) own ?_
      rintro _ ⟨⟩
      exact replied w hcaller r (hreplies ▸ List.mem_cons_self)
  case expire =>
    split at hstep <;> cases hstep
    exact sound_returns one nofun own nofun
  case hangUp =>
    split at hstep <;> cases hstep
    exact sound_returns one nofun own nofun
  case take =>
    split at hstep <;> cases hstep
    next w rest hthread hrequests =>
      refine h.moves ?_ fun w' hcaller => ?_
      · rw [inFlight, hthread, hrequests]
        exact Nat.le_refl _
      · have hasked := asked w' hcaller
        rw [hrequests, List.forall_mem_cons] at hasked
        exact ⟨hasked.2, ⟨hasked.1, rfl⟩, replied w' hcaller⟩
  case read summary =>
    split at hstep <;> cases hstep
    next w n hthread =>
      refine h.moves ?_ fun w' hcaller => ⟨asked w' hcaller, ?_, replied w' hcaller⟩
      · rw [inFlight, hthread]
        exact Nat.le_refl _
      · have hreads := reads w' hcaller
        rwa [hthread] at hreads
  case reply =>
    split at hstep
    next r hthread =>
      split_ifs at hstep <;> cases hstep
      · exact h.close
      · refine h.moves ?_ fun w' hcaller => ⟨asked w' hcaller, trivial, ?_⟩
        · rw [inFlight, hthread, List.length_append]
          simp only [ReaderThread.pending, List.length_singleton]
          omega
        · have hreads := reads w' hcaller
          rw [hthread] at hreads
          exact List.forall_mem_append.mpr ⟨replied w' hcaller, List.forall_mem_singleton.mpr hreads⟩
    next => cases hstep
  case finish =>
    split at hstep
    · split_ifs at hstep
      cases hstep
      exact h.close
    · cases hstep
  case die =>
    split_ifs at hstep
    cases hstep
    exact h.close
  case leave =>
    split_ifs at hstep
    cases hstep
    refine h.moves ?_ fun w hcaller => ⟨asked w hcaller, trivial, replied w hcaller⟩
    simp only [inFlight, ReaderThread.pending]
    omega

/-! ## When the thread is gone -/

/-- **Nothing is waited for any more**, but by the call during which the thread
was lost. -/
structure Lost (n : ℕ) (s : Sampler ρ σ) : Prop where
  gone : s.thread.isGone = true
  later : n ≤ s.calls
  last : ∀ w, s.caller = .waiting w → s.calls = n
  unread : ∀ c ∈ s.returned, n < c.call → c.reading = none

theorem Lost.step {n : ℕ} (h : Lost n s) (hstep : s.step a = some t) : Lost n t := by
  obtain ⟨gone, later, last, unread⟩ := h
  cases a <;> simp only [Sampler.step] at hstep
  all_goals constructor <;> grind [returns, close, ReaderThread.isGone]

/-- The calls are counted, and those that have returned are among them. -/
theorem call_le (h : ∀ c ∈ s.returned, c.call ≤ s.calls) (hstep : s.step a = some t) :
    ∀ c ∈ t.returned, c.call ≤ t.calls := by
  cases a <;> simp only [Sampler.step] at hstep
  all_goals grind [returns, close]

/-- **Each call returns its own read, or none.** However the caller and the
thread take turns, how long the thread takes and wherever it dies: what a call
returns was read for its request, by a read that began after the call and
before the next one; no more than one read is asked for at a time; and once the
thread is gone, every further call gives the summary for want of any. -/
theorem returns_own_read (unread : σ) (spawned : Bool)
    (h : Reaches step (fun _ _ => True) (start spawned) s) :
    (∀ c ∈ s.returned, c.value unread = unread
        ∨ ∃ r, c.reading = some r ∧ r.request = c.request ∧ r.begun = c.call)
      ∧ s.inFlight ≤ 1
      ∧ (s.thread.isGone = true → ∀ t, Reaches step (fun _ _ => True) s t →
        ∀ c ∈ t.returned, s.calls < c.call → c.value unread = unread) := by
  have hsound : Sound s :=
    h.invariant Sound (sound_start spawned) fun _ _ _ hu _ hstep => hu.step hstep
  have hcalls : ∀ c ∈ s.returned, c.call ≤ s.calls :=
    h.invariant (fun u => ∀ c ∈ u.returned, c.call ≤ u.calls) (by simp [start])
      fun _ _ _ hu _ hstep => call_le hu hstep
  refine ⟨fun c hc => ?_, hsound.one, fun hgone t ht c hc hlate => ?_⟩
  · cases hreading : c.reading with
    | none => exact .inl (by simp [SampleCall.value, hreading])
    | some r => exact .inr ⟨r, rfl, hsound.own c hc r hreading⟩
  · have hlost : Lost s.calls t := by
      refine ht.invariant (Lost s.calls) ⟨hgone, Nat.le_refl _, fun _ _ => rfl, ?_⟩
        fun _ _ _ hu _ hstep => hu.step hstep
      exact fun c hc hlater => absurd (hcalls c hc) (Nat.not_le.mpr hlater)
    simp [SampleCall.value, hlost.unread c hc hlate]

/-- Two calls, of which the first is over before its reply comes. -/
def lateReply : List (SamplerAction ℕ ℕ) :=
  [.call 1, .request, .take, .expire, .read 10, .reply, .call 2, .collect, .request, .take,
    .read 20, .reply, .receive]

/-- The second call throws the late reply away and returns its own. -/
theorem late_reply_not_returned :
    ∃ s, Reaches step (fun _ _ => True) (start true) s
      ∧ s.returned = [⟨1, 1, none⟩, ⟨2, 2, some ⟨2, 2, 20⟩⟩] ∧ s.inFlight ≤ 1 := by
  have hrun : runActions step (fun _ _ => true) (start true) lateReply
      = some ⟨true, false, [], [], .waiting, .idle, 2, [⟨1, 1, none⟩, ⟨2, 2, some ⟨2, 2, 20⟩⟩]⟩ := by
    decide
  have hreaches : Reaches step (fun _ _ => True) (start true) _ :=
    reaches_of_runActions (fun _ _ _ _ => trivial) .refl hrun
  exact ⟨_, hreaches, rfl, (returns_own_read 0 true hreaches).2.1⟩

/-! ## Every call returns -/

/-- How many steps of its own a call has left at most. -/
def stepsLeft : SampleCaller ρ → ℕ
  | .idle => 0
  | .waiting _ => 1
  | .requesting _ => 2
  | .collecting _ => 3

/-- The numbers of the calls that have returned, and of the one under way. -/
def counted (s : Sampler ρ σ) : List ℕ :=
  s.returned.map SampleCall.call ++ if s.caller matches .idle then [] else [s.calls]

theorem counted_step (h : s.counted = List.range' 1 s.calls) (hstep : s.step a = some t) :
    t.counted = List.range' 1 t.calls := by
  cases a <;> simp only [Sampler.step] at hstep
  all_goals grind [counted, returns, close, List.range'_1_concat]

/-- The caller goes on, whatever the thread is doing. -/
theorem exists_stepsLeft_lt (h : s.caller ≠ .idle) :
    ∃ a ∈ [.collect, .request, .expire], ∃ t, s.step a = some t
      ∧ stepsLeft t.caller < stepsLeft s.caller := by
  cases hcaller : s.caller with
  | idle => exact absurd hcaller h
  | collecting w =>
    refine ⟨.collect, by simp, ?_⟩
    cases hreplies : s.replies <;> simp [step, hcaller, hreplies, stepsLeft, returns]
  | requesting w =>
    refine ⟨.request, by simp, ?_⟩
    simp only [step, hcaller]
    split_ifs <;> simp [stepsLeft, returns]
  | waiting w =>
    refine ⟨.expire, by simp, ?_⟩
    simp [step, hcaller, stepsLeft, returns]

/-- Only a call takes the caller further from its end. -/
theorem stepsLeft_le (hstep : s.step a = some t) :
    stepsLeft t.caller ≤ stepsLeft s.caller ∨ ∃ w, a = .call w := by
  cases a <;> simp only [Sampler.step] at hstep
  all_goals grind [stepsLeft, returns, close]

end Sampler
