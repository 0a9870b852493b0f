import RuntimeCargo.NetworkSample
import RuntimeCargo.Transition

/-!
# Answering the prober

While the prober's answers are outstanding the device listens on its port,
reads a nonce from whoever dials and writes back a signature. There is a
thread for each socket; they are to stop at a deadline, or when as many
connections have been answered as there are families to be dialled over. This
is the model of `InboundListeners::serve` and of `answer`.

A listener looks at the flag and at the clock before it accepts, and at
neither afterwards. The flag is set by the thread that waits for the
listeners, when one of them has ended – but a listener that does not fail
ends only because of the flag or the deadline, so that the first one to end
has waited for the deadline. And a read that is given the time that is left
is given it again for the next byte. So nothing limits what a listener signs
but the deadline, and that does not limit a peer that sends its bytes one by
one. What is meant to hold does so if the peers do not ask for more
(`serve_bounded`): the condition is on who dials and when, step by step
(`Modest`).

Times are counted in milliseconds.
-/

/-! ## One listener -/

/-- Where the thread of a listener is. -/
inductive ListenerPhase where
  /-- The head of the loop. -/
  | head
  | accepting
  /-- It waits ten milliseconds. -/
  | sleeping (wakeAt : ℕ)
  /-- A connection was accepted. -/
  | connected
  /-- It waits for the next bytes of a nonce, so long at most. -/
  | reading (since timeout got : ℕ)
  /-- The signer was asked. -/
  | signing
  | writing
  | done
deriving DecidableEq

structure Listener where
  phase : ListenerPhase
  answered : ℕ

/-- What happens to a listener. -/
inductive ListenerEvent where
  /-- It looks at the flag and at the clock. -/
  | look
  | wouldBlock
  | acceptFails
  | accepts
  | wakes
  /-- The timeouts are set, or they cannot be. -/
  | configures (ok : Bool)
  /-- Some bytes arrive. -/
  | receives (bytes : ℕ)
  /-- The connection is closed, fails, or nothing has arrived in time. -/
  | readFails
  /-- The signer has returned a signature, or something else. -/
  | signs (ok : Bool)
  | writes (ok : Bool)

namespace Listener

/-- Back to the head of the loop. -/
def again (l : Listener) : Listener := { l with phase := .head }

/-- **One step of a listener.** -/
def step (deadline now : ℕ) (stop : Bool) (l : Listener) : ListenerEvent → Option Listener
  | .look =>
    if l.phase = .head then
      some { l with phase := if stop ∨ deadline ≤ now then .done else .accepting }
    else none
  | .wouldBlock =>
    if l.phase = .accepting then some { l with phase := .sleeping (now + 10) } else none
  | .acceptFails => if l.phase = .accepting then some { l with phase := .done } else none
  | .accepts => if l.phase = .accepting then some { l with phase := .connected } else none
  | .wakes =>
    match l.phase with
    | .sleeping wakeAt => if wakeAt ≤ now then some l.again else none
    | _ => none
  | .configures ok =>
    if l.phase = .connected then
      if deadline - now = 0 ∨ ok = false then some l.again
      else some { l with phase := .reading now (deadline - now) 0 }
    else none
  | .receives bytes =>
    match l.phase with
    | .reading since timeout got =>
      -- Each read is given the whole timeout, the one after it as well.
      if bytes = 0 ∨ since + timeout < now ∨ got + bytes > inboundNonceBytes then none
      else if got + bytes = inboundNonceBytes then some { l with phase := .signing }
      else some { l with phase := .reading now timeout (got + bytes) }
    | _ => none
  | .readFails =>
    match l.phase with
    | .reading .. => some l.again
    | _ => none
  | .signs ok =>
    if l.phase = .signing then
      some (if ok then { l with phase := .writing } else l.again)
    else none
  | .writes ok =>
    if l.phase = .writing then
      some (if ok then ⟨.head, l.answered + 1⟩ else l.again)
    else none

/-- Whether a step makes the signer be asked: the nonce is whole. -/
def asksSigner (l : Listener) : ListenerEvent → Bool
  | .receives bytes =>
    match l.phase with
    | .reading _ _ got => got + bytes = inboundNonceBytes
    | _ => false
  | _ => false

end Listener

/-! ## All of them -/

/-- The listeners and the thread that waits for them. -/
structure Serving where
  listeners : List Listener
  /-- How many listeners have been waited for. -/
  joined : ℕ
  served : ℕ
  stop : Bool
  now : ℕ
  /-- When the signer was asked, the last time first. -/
  asked : List ℕ

inductive ServeEvent where
  /-- Time passes. -/
  | tick (ms : ℕ)
  | listener (i : ℕ) (event : ListenerEvent)
  /-- The next listener has ended. -/
  | join

namespace Serving

/-- Before anything has happened. -/
def initial (listeners now : ℕ) : Serving :=
  ⟨List.replicate listeners ⟨.head, 0⟩, 0, 0, false, now, []⟩

/-- The connections that were answered. -/
def answered (s : Serving) : ℕ := (s.listeners.map Listener.answered).sum

/-- **One step of `serve`.** -/
def step (deadline budget : ℕ) (s : Serving) : ServeEvent → Option Serving
  | .tick ms => some { s with now := s.now + ms }
  | .listener i event => do
    let l ← s.listeners[i]?
    let next ← l.step deadline s.now s.stop event
    return { s with
      listeners := s.listeners.set i next
      asked := if l.asksSigner event then s.now :: s.asked else s.asked }
  | .join => do
    let l ← s.listeners[s.joined]?
    if l.phase = .done then
      let served := s.served + l.answered
      return { s with
        joined := s.joined + 1
        served := served
        stop := s.stop || served ≥ budget }
    else none

/-- `serve` has returned. -/
def hasReturned (s : Serving) : Bool := s.joined = s.listeners.length

end Serving

/-! ## What is meant to hold -/

/-- **The limits of `serve`**: no more nonces are signed than the budget
allows, none at the deadline or later, and once so many connections have been
answered no listener goes on. -/
structure KeepsLimits (deadline budget : ℕ) (s : Serving) : Prop where
  count : s.asked.length ≤ budget
  time : ∀ t ∈ s.asked, t < deadline
  ends : budget ≤ s.answered → ∀ l ∈ s.listeners, l.phase = .head →
    l.step deadline s.now s.stop .look = some { l with phase := .done }

/-- **The peers do not ask for more**: as a nonce becomes whole there are
fewer than the budget and it is before the deadline, and before the deadline
fewer connections are answered than the budget allows. -/
def Modest (deadline budget : ℕ) (s : Serving) : ServeEvent → Prop
  | .listener i (.receives bytes) => ∀ l, s.listeners[i]? = some l →
      l.asksSigner (.receives bytes) = true → s.asked.length < budget ∧ s.now < deadline
  | .listener _ (.writes true) => s.answered + 1 < budget ∨ deadline ≤ s.now
  | _ => True

namespace Listener

variable {deadline now : ℕ} {stop : Bool} {l next : Listener} {event : ListenerEvent}

/-- Only a signature that was written counts. -/
theorem answered_step (h : l.step deadline now stop event = some next) :
    next.answered = l.answered ∨ event = .writes true ∧ next.answered = l.answered + 1 := by
  cases event with
  | writes ok =>
    rw [step] at h
    split at h
    case isFalse => cases h
    cases h
    cases ok with
    | true => exact .inr ⟨rfl, rfl⟩
    | false => exact .inl rfl
  | signs ok =>
    rw [step] at h
    split at h
    case isFalse => cases h
    cases h
    cases ok with
    | true | false => exact .inl rfl
  | _ =>
    refine .inl ?_
    simp only [step] at h
    repeat' split at h
    all_goals cases h <;> rfl

end Listener

/-- What replacing an element does to a sum. -/
theorem sum_map_set {α : Type} {f : α → ℕ} {l : List α} {i : ℕ} {a b : α} (h : l[i]? = some a) :
    ((l.set i b).map f).sum + f a = (l.map f).sum + f b := by
  induction l generalizing i with
  | nil => cases h
  | cons c l ih =>
    cases i with
    | zero =>
      obtain rfl := Option.some.inj h
      show f b + (l.map f).sum + f c = f c + (l.map f).sum + f b
      omega
    | succ i =>
      have hrest := ih h
      show f c + ((l.set i b).map f).sum + f a = f c + (l.map f).sum + f b
      omega

namespace Serving

variable {deadline budget : ℕ}

/-- What is kept by steps that do not ask for more. -/
structure Limited (deadline budget : ℕ) (s : Serving) : Prop where
  count : s.asked.length ≤ budget
  time : ∀ t ∈ s.asked, t < deadline
  room : s.answered < budget ∨ deadline ≤ s.now

theorem limited_initial (listeners start : ℕ) (h : 0 < budget) :
    Limited deadline budget (initial listeners start) := by
  refine ⟨Nat.zero_le _, nofun, .inl ?_⟩
  have hzero : (initial listeners start).answered = 0 := by
    show ((List.replicate listeners (⟨.head, 0⟩ : Listener)).map Listener.answered).sum = 0
    induction listeners with
    | zero => rfl
    | succ n ih =>
      rw [List.replicate_succ, List.map_cons, List.sum_cons, ih]
  rw [hzero]
  exact h

/-- The signer is asked while there is room and time. -/
theorem asks_modest {s : Serving} {i : ℕ} {event : ListenerEvent} {l : Listener}
    (hmodest : Modest deadline budget s (.listener i event)) (hl : s.listeners[i]? = some l)
    (hasks : l.asksSigner event = true) : s.asked.length < budget ∧ s.now < deadline := by
  cases event with
  | receives bytes => exact hmodest l hl hasks
  | _ => cases hasks

theorem limited_step {s next : Serving} {event : ServeEvent} (h : Limited deadline budget s)
    (hmodest : Modest deadline budget s event) (hstep : s.step deadline budget event = some next) :
    Limited deadline budget next := by
  cases event with
  | tick ms =>
    cases hstep
    exact ⟨h.count, h.time, h.room.imp_right fun hlate => Nat.le_add_right_of_le hlate⟩
  | join =>
    obtain ⟨l, hl, hrest⟩ := Option.bind_eq_some_iff.mp hstep
    split at hrest
    · cases hrest
      exact ⟨h.count, h.time, h.room⟩
    · cases hrest
  | listener i event =>
    obtain ⟨l, hl, hrest⟩ := Option.bind_eq_some_iff.mp hstep
    obtain ⟨l', hl', hrest⟩ := Option.bind_eq_some_iff.mp hrest
    cases hrest
    have hsum := sum_map_set (f := Listener.answered) (b := l') hl
    have hasked : ∀ t ∈ (if l.asksSigner event then s.now :: s.asked else s.asked),
        t ∈ s.asked ∨ l.asksSigner event = true ∧ t = s.now := by
      intro t ht
      split at ht
      next hasks =>
        rcases List.mem_cons.mp ht with rfl | ht
        · exact .inr ⟨hasks, rfl⟩
        · exact .inl ht
      · exact .inl ht
    refine ⟨?_, fun t ht => ?_, ?_⟩
    · show (if l.asksSigner event then s.now :: s.asked else s.asked).length ≤ budget
      split
      next hasks =>
        exact (asks_modest hmodest hl hasks).1
      · exact h.count
    · rcases hasked t ht with ht | ⟨hasks, rfl⟩
      · exact h.time t ht
      · exact (asks_modest hmodest hl hasks).2
    · rcases Listener.answered_step hl' with hsame | ⟨rfl, hmore⟩
      · refine h.room.imp_left fun hlt => ?_
        show ((s.listeners.set i l').map Listener.answered).sum < budget
        have hle : (s.listeners.map Listener.answered).sum < budget := hlt
        omega
      · have hwrites : s.answered + 1 < budget ∨ deadline ≤ s.now := hmodest
        refine hwrites.imp_left fun hlt => ?_
        show ((s.listeners.set i l').map Listener.answered).sum < budget
        have hle : (s.listeners.map Listener.answered).sum + 1 < budget := hlt
        omega

end Serving

/-! ## Runs -/

namespace ServeSample

/-- A connection that sends its nonce at once and is answered. -/
def connection : List ServeEvent :=
  [.listener 0 .look, .listener 0 .accepts, .listener 0 (.configures true),
    .listener 0 (.receives 32), .listener 0 (.signs true), .listener 0 (.writes true)]

/-- A connection whose nonce comes byte by byte, each of them in time. -/
def trickle : List ServeEvent :=
  [.listener 0 .look, .listener 0 .accepts, .listener 0 (.configures true), .tick 3000,
    .listener 0 (.receives 31), .tick 3000, .listener 0 (.receives 1)]

/-- A listener on its own. -/
def alone (phase : ListenerPhase) (answered : ℕ) (asked : List ℕ) : Serving :=
  ⟨[⟨phase, answered⟩], 0, 0, false, 0, asked⟩

/-- One connection is answered, of two that may be. -/
theorem reaches_answer : Reaches (Serving.step 4000 2) (Modest 4000 2) (Serving.initial 1 0)
    (alone .head 1 [0]) := by
  have haccepts : Reaches (Serving.step 4000 2) (Modest 4000 2) (Serving.initial 1 0)
      (alone .connected 0 []) :=
    (Reaches.refl.tail (ServeEvent.listener 0 .look) trivial rfl).tail (ServeEvent.listener 0 .accepts) trivial rfl
  have hreads := haccepts.tail (u := alone (.reading 0 4000 0) 0 [])
    (ServeEvent.listener 0 (.configures true)) trivial rfl
  have hasks := hreads.tail (u := alone .signing 0 [0]) (ServeEvent.listener 0 (.receives 32))
    (fun _ _ _ => ⟨by decide, by decide⟩) rfl
  have hsigns := hasks.tail (u := alone .writing 0 [0]) (ServeEvent.listener 0 (.signs true)) trivial rfl
  exact hsigns.tail (ServeEvent.listener 0 (.writes true)) (.inl (by decide)) rfl

end ServeSample
