import RuntimeCargo.NetworkCollect

/-!
# The exchange of datagrams

For three seconds the sampler sends a datagram every tenth of a second and
notes what comes back. This is the model of `Live::udp`. The loop waits for
the first of three things: the end, the time for the next datagram, or a
datagram from the other side. If more than one is ready, any of them is
taken, and by the time the loop gets to run again it may be late.

What the loop has noted is checked later, like all of a sample
(`NetworkSampleV1.udpClauses`). Most of what is checked holds however late the
loop is: what came back answers something that was sent, once, after it was
sent and before the end. But the times of sending have to increase from one
datagram to the next, and they are microseconds, cut off at the end. They do
if and only if no two datagrams leave in one microsecond and none leaves
after one that has left at the end or later (`udp_checked_iff`). After a
stall beyond the end nothing keeps the loop from sending two
(`late_datagrams_refused`), and then the whole sample is refused.
-/

open NetworkSampleV1 Stamped

open Program

/-! ## The loop -/

/-- What the loop was waiting for. -/
inductive UdpChoice where
  | stop
  /-- The time for the next datagram. -/
  | sendDue
  /-- A datagram, cut off after 65 bytes. -/
  | datagram (bytes : List UInt8)
  | receiveFailed

inductive UdpCall where
  | bind
  | connect
  /-- `select!`: the branch that sends is there only with a time for the next
  datagram. Times are in microseconds since the start. -/
  | select (sendAt : Option ℕ)
  /-- `start.elapsed()`. -/
  | elapsed
  | send (packet : List UInt8)

inductive UdpReply where
  | done (b : Bool)
  | chosen (choice : UdpChoice)
  | time (us : ℕ)

namespace UdpReply

/-- Whether a call has gone well; a datagram, if all of it was sent before the
end. -/
def ok : UdpReply → Bool
  | done b => b
  | _ => false

/-- The reply of `select!`. -/
def choice : UdpReply → UdpChoice
  | chosen choice => choice
  | _ => .stop

/-- The reply of the clock. -/
def us : UdpReply → ℕ
  | time us => us
  | _ => 0

end UdpReply

/-- What was sent and what came back. -/
structure UdpLog where
  sentUs : List ℕ
  echoes : List UdpEcho

inductive UdpPhase where
  | looping (x : UdpLog)
  | ended (x : UdpLog)

/-- `UDP_BYTES`. -/
def udpBytes : ℕ := 64

/-- What every datagram is marked with. -/
def datagramMark : List UInt8 := [76, 78, 80, 49]

/-- A number of some bytes, the high ones first. -/
def ofBeBytes (bytes : List UInt8) : ℕ := bytes.foldl (fun n b => n * 256 + b.toNat) 0

/-- The end of the exchange. -/
def udpStopUs : ℕ := 3000000

section Loop

variable (token : List UInt8)

/-- The datagram of a number, sent at some time. -/
def udpPacket (sequence sentUs : ℕ) : List UInt8 :=
  token ++ beBytes 2 sequence ++ beBytes 8 sentUs ++ datagramMark ++ List.replicate 18 0

/-- The number that a datagram answers, if it answers one that was sent and
was not answered before. -/
def echoOf (x : UdpLog) (bytes : List UInt8) : Option ℕ :=
  if bytes.length ≠ udpBytes ∨ bytes.take 32 ≠ token ∨ (bytes.drop 42).take 4 ≠ datagramMark
      ∨ (bytes.drop 46).any (· ≠ 0) then none
  else
    let sequence := ofBeBytes ((bytes.drop 32).take 2)
    if x.sentUs.length ≤ sequence ∨ x.echoes.any (fun e => e.sequence = sequence) then none
    else if ofBeBytes ((bytes.drop 34).take 8) ≠ x.sentUs.getD sequence 0 then none
    else some sequence

/-- The next datagram is sent. -/
def sendNext (x : UdpLog) : Program UdpCall UdpReply UdpPhase := do
  let sent := min (← perform .elapsed).us udpStopUs
  if (← perform (.send (udpPacket token x.sentUs.length sent))).ok then
    return .looping { x with sentUs := x.sentUs ++ [sent] }
  else return .ended x

/-- A datagram has come. -/
def receiveDatagram (x : UdpLog) (bytes : List UInt8) : Program UdpCall UdpReply UdpPhase :=
  match echoOf token x bytes with
  | none => return .looping x
  | some sequence => do
    let received := min (← perform .elapsed).us udpStopUs
    return .looping { x with echoes := x.echoes ++ [⟨sequence, received⟩] }

/-- When the next datagram is to be sent, if there is one. -/
def sendAt (x : UdpLog) : Option ℕ :=
  if x.sentUs.length < 20 then some (x.sentUs.length * 100000) else none

/-- What is done about what the loop was waiting for. -/
def respond (x : UdpLog) : UdpChoice → Program UdpCall UdpReply UdpPhase
  | .stop | .receiveFailed => return .ended x
  | .sendDue => sendNext token x
  | .datagram bytes => receiveDatagram token x bytes

/-- **One turn of the loop.** -/
def udpTurn : UdpPhase → Program UdpCall UdpReply UdpPhase
  | .ended x => return .ended x
  | .looping x => do respond token x (← perform (.select (sendAt x))).choice

end Loop

/-- What is returned when the loop is over. -/
def finishUdp (offset : ℕ) (x : UdpLog) : Program UdpCall UdpReply UdpSample := do
  let durationUs := min (← perform .elapsed).us udpStopUs
  return if !x.echoes.isEmpty then ⟨.succeeded, offset, durationUs, x.sentUs, x.echoes, none⟩
    else ⟨.unreachable, offset, durationUs, x.sentUs, x.echoes,
      some (if !x.sentUs.isEmpty then .timeout else .connectFailed)⟩

/-- The token of a challenge: 32 bytes in hexadecimal digits. -/
def udpToken (challenge : String) : Option (List UInt8) :=
  (hexDecode ((stripStart "0x" challenge).getD "").toList).filter fun token => token.length = 32

/-- The socket, or why there is none. -/
def openUdp (hasV4 : Bool) (challenge : String) :
    Program UdpCall UdpReply (Except NetworkError (List UInt8)) :=
  if !hasV4 then return .error .connectFailed
  else
    match udpToken challenge with
    | none => return .error .tokenRefused
    | some token => do
      if !(← perform .bind).ok then return .error .connectFailed
      else if !(← perform .connect).ok then return .error .connectFailed
      else return .ok token

/-- **`Live::udp` has returned**, with a trace: at once if there is no
socket, and otherwise when the loop is over. -/
inductive UdpReturns (hasV4 : Bool) (challenge : String) (offset : ℕ) :
    List (UdpCall × UdpReply) → UdpSample → Prop
  | early {t : List (UdpCall × UdpReply)} {e : NetworkError}
      (hopen : Yields (openUdp hasV4 challenge) t (.error e)) :
      UdpReturns hasV4 challenge offset t ⟨.unreachable, offset, 0, [], [], some e⟩
  | late {t₀ t₁ t₂ : List (UdpCall × UdpReply)} {token : List UInt8} {x : UdpLog}
      {udp : UdpSample} (hopen : Yields (openUdp hasV4 challenge) t₀ (.ok token))
      (hloop : Turns (udpTurn token) (.looping ⟨[], []⟩) t₁ (.ended x))
      (hfinish : Yields (finishUdp offset x) t₂ udp) :
      UdpReturns hasV4 challenge offset (t₀ ++ (t₁ ++ t₂)) udp

/-! ## Schedules -/

/-- **What may happen, and when**: the clock shows the time, the end does not
come before it is due, and neither does a datagram. -/
def UdpSchedule (x : Stamped UdpCall UdpReply) : Prop :=
  match x.call with
  | .elapsed => x.start ≤ x.reply.us ∧ x.reply.us ≤ x.stop
  | .select sendAt =>
    match x.reply.choice with
    | .stop => udpStopUs ≤ x.stop
    | .sendDue => ∃ us, sendAt = some us ∧ us ≤ x.stop
    | _ => True
  | _ => True

/-- The times at which the datagrams were sent that were sent, as the clock
was read before. -/
def sendTimes : Option ℕ → List (UdpCall × UdpReply) → List ℕ
  | _, [] => []
  | last, (.send _, r) :: t => (if r.ok then last.toList else []) ++ sendTimes none t
  | _, (.elapsed, r) :: t => sendTimes (some r.us) t
  | _, (.bind, _) :: t | _, (.connect, _) :: t | _, (.select _, _) :: t => sendTimes none t

/-- **The datagrams leave one after another**, and none leaves after one that
has left at the end or later. -/
def Spaced (times : List ℕ) : Prop := times.IsChain fun a b => a < b ∧ a < udpStopUs

/-! ## What the loop keeps -/

section Times

/-- Times are read off a trace part by part, where a part does not begin with
a datagram that is sent. -/
theorem sendTimes_append {u : List (UdpCall × UdpReply)}
    (hfresh : ∀ last, sendTimes last u = sendTimes none u) (last : Option ℕ)
    (t : List (UdpCall × UdpReply)) :
    sendTimes last (t ++ u) = sendTimes last t ++ sendTimes none u := by
  induction t generalizing last with
  | nil => exact hfresh last
  | cons x t ih =>
    obtain ⟨c, r⟩ := x
    cases c with
    | send packet =>
      show _ ++ sendTimes none (t ++ u) = (_ ++ sendTimes none t) ++ _
      rw [ih, List.append_assoc]
    | bind | connect | select sendAt => exact ih none
    | elapsed => exact ih (some r.us)

/-- The times of sending increase exactly if the datagrams are spaced. -/
theorem isChain_stamps_iff (times : List ℕ) :
    (times.map (min · udpStopUs)).IsChain (· < ·) ↔ Spaced times := by
  rw [List.isChain_map]
  have hpair : ∀ a b : ℕ, min a udpStopUs < min b udpStopUs ↔ a < b ∧ a < udpStopUs := by
    intro a b
    omega
  simp only [hpair]
  rfl

end Times

/-- **What holds however late the loop is**, of what was sent and came back
until now. -/
structure UdpLog.Going (x : UdpLog) (before : List (Stamped UdpCall UdpReply)) (now : ℕ) : Prop where
  stamps : x.sentUs = (sendTimes none (before.map event)).map (min · udpStopUs)
  few : x.sentUs.length ≤ 20
  past : ∀ us ∈ x.sentUs, us ≤ now
  arrivals : x.echoes.IsChain fun a b => a.receivedUs ≤ b.receivedUs
  heard : ∀ e ∈ x.echoes, e.receivedUs ≤ now ∧ e.receivedUs ≤ udpStopUs
  answers : ∀ e ∈ x.echoes, ∃ sent, x.sentUs[e.sequence]? = some sent ∧ sent ≤ e.receivedUs
  once : (x.echoes.map UdpEcho.sequence).Nodup

namespace UdpLog.Going

variable {x : UdpLog} {before : List (Stamped UdpCall UdpReply)} {now later : ℕ}

theorem stamp_le (h : x.Going before now) : ∀ us ∈ x.sentUs, us ≤ udpStopUs := by
  intro us hus
  rw [h.stamps] at hus
  obtain ⟨time, -, rfl⟩ := List.mem_map.mp hus
  exact Nat.min_le_right _ _

variable {u : List (Stamped UdpCall UdpReply)}

/-- Time passes, and nothing is sent. -/
theorem wait (h : x.Going before now) (hle : now ≤ later)
    (hquiet : ∀ last, sendTimes last (u.map event) = []) : Going x (before ++ u) later := by
  refine ⟨?_, h.few, fun us hus => (h.past us hus).trans hle, h.arrivals,
    fun e he => ⟨(h.heard e he).1.trans hle, (h.heard e he).2⟩, h.answers, h.once⟩
  rw [List.map_append, sendTimes_append fun last => by rw [hquiet, hquiet], hquiet,
    List.append_nil]
  exact h.stamps

/-- One more datagram is sent. -/
theorem send (h : x.Going before now) {us : ℕ} (hus : us ≤ later) (hnow : now ≤ us)
    (hfew : x.sentUs.length < 20) (hsend : ∀ last, sendTimes last (u.map event) = [us]) :
    Going { x with sentUs := x.sentUs ++ [min us udpStopUs] } (before ++ u) later := by
  refine ⟨?_, ?_, ?_, h.arrivals, fun e he => ?_, fun e he => ?_, h.once⟩
  · rw [List.map_append, sendTimes_append fun last => by rw [hsend, hsend], hsend,
      List.map_append]
    exact congrArg (· ++ [min us udpStopUs]) h.stamps
  · rw [List.length_append]
    exact hfew
  · intro sent hsent
    obtain hsent | hsent := List.mem_append.mp hsent
    · exact (h.past sent hsent).trans (hnow.trans hus)
    · rw [List.mem_singleton.mp hsent]
      exact (Nat.min_le_left _ _).trans hus
  · exact ⟨(h.heard e he).1.trans (hnow.trans hus), (h.heard e he).2⟩
  · obtain ⟨sent, hsent, hle⟩ := h.answers e he
    exact ⟨sent, List.getElem?_append_left (List.getElem?_eq_some_iff.mp hsent).1 ▸ hsent, hle⟩

/-- One more echo has come. -/
theorem hear (h : x.Going before now) {us sequence : ℕ} (hus : us ≤ later) (hnow : now ≤ us)
    (hsent : sequence < x.sentUs.length) (hnew : ∀ e ∈ x.echoes, e.sequence ≠ sequence)
    (hquiet : ∀ last, sendTimes last (u.map event) = []) :
    Going { x with echoes := x.echoes ++ [⟨sequence, min us udpStopUs⟩] } (before ++ u) later := by
  have hwait := h.wait (hnow.trans hus) hquiet
  refine ⟨hwait.stamps, h.few, hwait.past, ?_, ?_, ?_, ?_⟩
  · refine List.isChain_append.mpr ⟨h.arrivals, .singleton _, fun a ha b hb => ?_⟩
    cases hb
    obtain ⟨hpast, hstop⟩ := h.heard a (List.mem_of_getLast? ha)
    exact Nat.le_min.mpr ⟨hpast.trans hnow, hstop⟩
  · intro e he
    obtain he | he := List.mem_append.mp he
    · exact hwait.heard e he
    · rw [List.mem_singleton.mp he]
      exact ⟨(Nat.min_le_left _ _).trans hus, Nat.min_le_right _ _⟩
  · intro e he
    obtain he | he := List.mem_append.mp he
    · exact h.answers e he
    · rw [List.mem_singleton.mp he]
      have hmem := List.getElem_mem hsent
      exact ⟨_, List.getElem?_eq_getElem hsent,
        Nat.le_min.mpr ⟨(h.past _ hmem).trans hnow, h.stamp_le _ hmem⟩⟩
  · rw [List.map_append, List.map_singleton, List.nodup_append]
    refine ⟨h.once, List.nodup_singleton _, fun a ha b hb => ?_⟩
    obtain ⟨e, he, rfl⟩ := List.mem_map.mp ha
    rw [List.mem_singleton.mp hb]
    exact hnew e he

end UdpLog.Going

/-- What holds of the loop and after it. -/
def UdpPhase.Going : UdpPhase → List (Stamped UdpCall UdpReply) → ℕ → Prop
  | .looping x | .ended x => UdpLog.Going x

theorem echoOf_spec {token : List UInt8} {x : UdpLog} {bytes : List UInt8} {sequence : ℕ}
    (h : echoOf token x bytes = some sequence) :
    sequence < x.sentUs.length ∧ ∀ e ∈ x.echoes, e.sequence ≠ sequence := by
  unfold echoOf at h
  split at h
  · cases h
  dsimp only at h
  split at h
  · cases h
  rename_i hnew
  split at h
  · cases h
  cases h
  rw [not_or, Nat.not_le, List.any_eq_true] at hnew
  exact ⟨hnew.1, fun e he heq => hnew.2 ⟨e, he, decide_eq_true heq⟩⟩

/-- **One turn keeps it**, whatever is chosen and however long it takes. -/
theorem times_udpTurn {token : List UInt8} (phase : UdpPhase)
    (before : List (Stamped UdpCall UdpReply)) (now : ℕ) (h : phase.Going before now) :
    Times (· ≤ ·) UdpSchedule (udpTurn token phase) now
      fun phase' u stop => phase'.Going (before ++ u) stop := by
  cases phase with
  | ended x =>
    refine times_pure ?_
    rw [List.append_nil]
    exact h
  | looping x =>
    refine times_call fun reply start stop hflow hle hok => ?_
    have hnow : now ≤ stop := Nat.le_trans hflow hle
    cases hchoice : reply.choice with
    | stop | receiveFailed => exact times_pure (h.wait hnow fun _ => rfl)
    | sendDue =>
      have hdue : ∃ us, sendAt x = some us ∧ us ≤ stop := by
        have hok : match reply.choice with
          | .stop => udpStopUs ≤ stop
          | .sendDue => ∃ us, sendAt x = some us ∧ us ≤ stop
          | _ => True := hok
        rw [hchoice] at hok
        exact hok
      have hfew : x.sentUs.length < 20 := by
        obtain ⟨us, hsome, -⟩ := hdue
        unfold sendAt at hsome
        split at hsome
        · assumption
        · cases hsome
      refine times_call fun clock start' stop' hflow' hle' hok' => ?_
      have hreading : start' ≤ clock.us ∧ clock.us ≤ stop' := hok'
      have hlate : now ≤ clock.us := hnow.trans (Nat.le_trans hflow' hreading.1)
      refine times_call fun sent start'' stop'' hflow'' hle'' _ => ?_
      have hstop : clock.us ≤ stop'' := hreading.2.trans (Nat.le_trans hflow'' hle'')
      cases hsent : sent.ok with
      | true =>
        refine times_pure (h.send hstop hlate hfew fun last => ?_)
        show (if sent.ok then [clock.us] else []) ++ [] = [clock.us]
        rw [hsent]
        rfl
      | false =>
        refine times_pure (h.wait (hlate.trans hstop) fun last => ?_)
        show (if sent.ok then [clock.us] else []) ++ [] = []
        rw [hsent]
        rfl
    | datagram bytes =>
      show Times _ _ (receiveDatagram token x bytes) _ _
      unfold receiveDatagram
      cases hecho : echoOf token x bytes with
      | none => exact times_pure (h.wait hnow fun _ => rfl)
      | some sequence =>
        obtain ⟨hsent, hnew⟩ := echoOf_spec hecho
        refine times_call fun clock start' stop' hflow' hle' hok' => ?_
        have hreading : start' ≤ clock.us ∧ clock.us ≤ stop' := hok'
        exact times_pure (h.hear hreading.2 (hnow.trans (Nat.le_trans hflow' hreading.1)) hsent hnew
          fun _ => rfl)

/-! ## The end of it -/

/-- What is checked of the datagrams, as far as it does not concern the order
of the times of sending. -/
theorem udpClauses_iff_of_going {x : UdpLog} {before : List (Stamped UdpCall UdpReply)}
    {now us : ℕ} (h : x.Going before now) (hnow : now ≤ us) {udp : UdpSample}
    (hsent : udp.sentUs = x.sentUs) (hechoes : udp.echoes = x.echoes)
    (hduration : udp.durationUs = min us udpStopUs)
    (hstatus : udp.status = if !x.echoes.isEmpty then .succeeded else .unreachable) :
    udpClauses udp = true
      ↔ Spaced (sendTimes none (before.map event)) := by
  have hstamps : ∀ sent ∈ x.sentUs, sent ≤ min us udpStopUs :=
    fun sent hmem => Nat.le_min.mpr ⟨(h.past sent hmem).trans hnow, h.stamp_le sent hmem⟩
  have hanswers : ∀ e ∈ x.echoes, ∃ sent, x.sentUs[e.sequence]? = some sent
      ∧ sent ≤ e.receivedUs ∧ e.receivedUs ≤ min us udpStopUs := by
    intro e he
    obtain ⟨sent, hget, hle⟩ := h.answers e he
    obtain ⟨hpast, hstop⟩ := h.heard e he
    exact ⟨sent, hget, hle, Nat.le_min.mpr ⟨hpast.trans hnow, hstop⟩⟩
  have hfewer : x.echoes.length ≤ x.sentUs.length := by
    have hsub : x.echoes.map UdpEcho.sequence ⊆ List.range x.sentUs.length := by
      intro i hi
      obtain ⟨e, he, rfl⟩ := List.mem_map.mp hi
      obtain ⟨sent, hget, -⟩ := h.answers e he
      exact List.mem_range.mpr (List.getElem?_eq_some_iff.mp hget).1
    have hlength := (h.once.subperm hsub).length_le
    rw [List.length_map, List.length_range] at hlength
    exact hlength
  have hok : echoesOk udp = true := by
    unfold echoesOk
    rw [hechoes, hsent, hduration, Bool.and_eq_true, List.all_eq_true, decide_eq_true_eq]
    refine ⟨fun e he => ?_, h.once⟩
    obtain ⟨sent, hget, hle, hlast⟩ := hanswers e he
    rw [hget, Option.any_some, Bool.and_eq_true, decide_eq_true_eq, decide_eq_true_eq]
    exact ⟨hle, hlast⟩
  have hwell : (!(decide (udp.status = .succeeded) && udp.echoes.isEmpty)) = true := by
    rw [hechoes, hstatus]
    cases x.echoes.isEmpty <;> rfl
  have hskipped : (!(decide (udp.status = .skippedBudget) && !udp.sentUs.isEmpty)) = true := by
    rw [hstatus]
    cases x.echoes.isEmpty <;> rfl
  have hall : (udp.sentUs.all fun sent => decide (sent ≤ udp.durationUs)) = true := by
    rw [hsent, hduration, List.all_eq_true]
    exact fun sent hmem => decide_eq_true (hstamps sent hmem)
  have harrivals : inOrder (fun a b => decide (a.receivedUs ≤ b.receivedUs))
      udp.echoes = true := by
    rw [hechoes, inOrder_iff]
    exact h.arrivals.imp fun a b hab => decide_eq_true hab
  have hlimit : udp.durationUs ≤ 3000000 := hduration ▸ Nat.min_le_right us udpStopUs
  have hfew : udp.sentUs.length ≤ 20 := hsent ▸ h.few
  have hfewer' : udp.echoes.length ≤ udp.sentUs.length := by rw [hechoes, hsent]; exact hfewer
  unfold udpClauses
  simp only [hok, hwell, hskipped, hall, harrivals, hlimit, hfew, hfewer', decide_true,
    Bool.and_true, Bool.true_and]
  rw [inOrder_iff, ← isChain_stamps_iff, ← h.stamps, hsent]
  simp only [decide_eq_true_eq]

theorem sendTimes_openUdp {hasV4 : Bool} {challenge : String} {t : List (UdpCall × UdpReply)}
    {e : Except NetworkError (List UInt8)} (h : Yields (openUdp hasV4 challenge) t e)
    (u : List (UdpCall × UdpReply)) : sendTimes none (t ++ u) = sendTimes none u := by
  unfold openUdp at h
  split at h
  · obtain ⟨rfl, -⟩ := yields_pure.mp h
    rfl
  split at h
  · obtain ⟨rfl, -⟩ := yields_pure.mp h
    rfl
  · obtain ⟨bound, t₁, rfl, hbound⟩ := yields_perform_bind.mp h
    split at hbound
    · obtain ⟨rfl, -⟩ := yields_pure.mp hbound
      rfl
    · obtain ⟨connected, t₂, rfl, hconnected⟩ := yields_perform_bind.mp hbound
      split at hconnected
      · obtain ⟨rfl, -⟩ := yields_pure.mp hconnected
        rfl
      · obtain ⟨rfl, -⟩ := yields_pure.mp hconnected
        rfl

/-- **When the exchange passes the check.** Whatever is chosen, received and
sent, and however late: what is returned passes the check of its datagrams if
and only if they left one after another, and none after one that had left at
the end or later. -/
theorem udp_checked_iff (hasV4 : Bool) (challenge : String) (offset now stop : ℕ)
    (t : List (Stamped UdpCall UdpReply)) (udp : UdpSample)
    (hreturns : UdpReturns hasV4 challenge offset (t.map event) udp)
    (hlasts : Lasts (· ≤ ·) UdpSchedule now t stop) :
    udpClauses udp = true ↔ Spaced (sendTimes none (t.map event)) := by
  generalize hevents : t.map event = events at hreturns
  cases hreturns with
  | early hopen =>
    have hquiet := sendTimes_openUdp hopen []
    rw [List.append_nil] at hquiet
    rw [hquiet]
    exact iff_of_true rfl .nil
  | late hopen hloop hfinish =>
    obtain ⟨u₀, u, rfl, rfl, hrest⟩ := List.map_eq_append_iff.mp hevents
    obtain ⟨u₁, u₂, rfl, rfl, rfl⟩ := List.map_eq_append_iff.mp hrest
    obtain ⟨mid₀, -, hlasts⟩ := lasts_append.mp hlasts
    obtain ⟨mid, hlasts₁, hlasts₂⟩ := lasts_append.mp hlasts
    have hstart : UdpPhase.Going (.looping ⟨[], []⟩) [] mid₀ :=
      ⟨rfl, Nat.zero_le _, nofun, .nil, nofun, nofun, .nil⟩
    have hover := Turns.times times_udpTurn hloop hlasts₁ hstart
    obtain ⟨clock, t', hu₂, hpure⟩ := yields_perform_bind.mp hfinish
    obtain ⟨rfl, hudp⟩ := yields_pure.mp hpure
    obtain ⟨y, u', rfl, hy, hnil⟩ := List.map_eq_cons_iff.mp hu₂
    obtain rfl := List.map_eq_nil_iff.mp hnil
    obtain ⟨call, reply, start, last⟩ := y
    cases hy
    have hreading : start ≤ reply.us ∧ reply.us ≤ last := hlasts₂.2.2.1
    have hquiet : sendTimes none (u₁.map event ++ [(.elapsed, reply)])
        = sendTimes none (u₁.map event) := by
      rw [sendTimes_append (fun _ => rfl)]
      exact List.append_nil _
    rw [sendTimes_openUdp hopen]
    show _ ↔ Spaced (sendTimes none (u₁.map event ++ [(.elapsed, reply)]))
    rw [hquiet]
    refine udpClauses_iff_of_going hover (Nat.le_trans hlasts₂.1 hreading.1) ?_ ?_ ?_ ?_
    · rw [← hudp]
      split <;> rfl
    · rw [← hudp]
      split <;> rfl
    · rw [← hudp]
      split <;> rfl
    · rw [← hudp]
      split <;> rfl

/-! ## Two datagrams -/

namespace UdpExchangeSample

def token : List UInt8 := List.replicate 32 0

def challenge : String := "0x" ++ hexEncode token

theorem udpToken_challenge : udpToken challenge = some token := by
  rw [udpToken, challenge, stripStart_append, Option.getD_some, hexDecode_hexEncode]
  rfl

/-- One datagram is sent at some time. -/
def sending (sequence us : ℕ) : List (Stamped UdpCall UdpReply) :=
  [⟨.select (some (sequence * 100000)), .chosen .sendDue, us, us⟩, ⟨.elapsed, .time us, us, us⟩,
    ⟨.send (udpPacket token sequence (min us udpStopUs)), .done true, us, us⟩]

/-- Two datagrams are sent, and then the end has come. -/
def trace (first second stop : ℕ) : List (Stamped UdpCall UdpReply) :=
  [⟨.bind, .done true, 0, 0⟩, ⟨.connect, .done true, 0, 0⟩]
    ++ ((sending 0 first ++ (sending 1 second ++ [⟨.select (some (2 * 100000)), .chosen .stop, stop, stop⟩]))
      ++ [⟨.elapsed, .time stop, stop, stop⟩])

/-- What is returned: nothing has come back. -/
def returned (first second stop : ℕ) : UdpSample :=
  ⟨.unreachable, 0, min stop udpStopUs, [min first udpStopUs, min second udpStopUs], [],
    some .timeout⟩

theorem returns_sample (first second stop : ℕ) :
    UdpReturns true challenge 0 ((trace first second stop).map event)
      (returned first second stop) := by
  let sent : List ℕ := [min first udpStopUs, min second udpStopUs]
  have hopen : Yields (openUdp true challenge) [(.bind, .done true), (.connect, .done true)]
      (.ok token) := by
    unfold openUdp
    rw [udpToken_challenge]
    exact yields_perform_bind.mpr ⟨_, _, rfl, yields_perform_bind.mpr
      ⟨_, _, rfl, yields_pure.mpr ⟨rfl, rfl⟩⟩⟩
  have hfirst : Yields (udpTurn token (.looping ⟨[], []⟩)) ((sending 0 first).map event)
      (.looping ⟨[min first udpStopUs], []⟩) :=
    .call (.call (.call (.done _)))
  have hsecond : Yields (udpTurn token (.looping ⟨[min first udpStopUs], []⟩))
      ((sending 1 second).map event) (.looping ⟨sent, []⟩) :=
    .call (.call (.call (.done _)))
  have hstop : Yields (udpTurn token (.looping ⟨sent, []⟩))
      [(.select (some (2 * 100000)), .chosen .stop)] (.ended ⟨sent, []⟩) := .call (.done _)
  have hloop := ((Turns.start.turn hfirst).turn hsecond).turn hstop
  have hfinish : Yields (finishUdp 0 ⟨sent, []⟩) [(.elapsed, .time stop)]
      (returned first second stop) := .call (.done _)
  have hreturns := UdpReturns.late hopen hloop hfinish
  simp only [trace, List.map_append]
  simp only [List.nil_append, List.append_assoc] at hreturns ⊢
  exact hreturns

theorem lasts_sample {first second stop : ℕ} (hfirst : first ≤ second) (hdue : 100000 ≤ second)
    (hsecond : second ≤ stop) (hstop : udpStopUs ≤ stop) :
    Lasts (· ≤ ·) UdpSchedule 0 (trace first second stop) stop :=
  ⟨le_rfl, le_rfl, trivial, le_rfl, le_rfl, trivial,
    Nat.zero_le _, le_rfl, ⟨0, rfl, Nat.zero_le _⟩, le_rfl, le_rfl, ⟨le_rfl, le_rfl⟩, le_rfl, le_rfl,
    trivial, hfirst, le_rfl, ⟨100000, rfl, hdue⟩, le_rfl, le_rfl, ⟨le_rfl, le_rfl⟩, le_rfl, le_rfl,
    trivial, hsecond, le_rfl, hstop, le_rfl, le_rfl, ⟨le_rfl, le_rfl⟩, rfl⟩

end UdpExchangeSample

open UdpExchangeSample in
/-- The loop is stalled beyond the end, and then two datagrams that are due
are sent before it stops: no sample with what is returned passes the check. -/
theorem late_datagrams_refused :
    UdpReturns true challenge 0 ((trace 3100000 3100005 3100010).map event)
        (returned 3100000 3100005 3100010)
      ∧ Lasts (· ≤ ·) UdpSchedule 0 (trace 3100000 3100005 3100010) 3100010
      ∧ udpClauses (returned 3100000 3100005 3100010) = false
      ∧ ∀ s : NetworkSampleV1, s.udp = returned 3100000 3100005 3100010 →
        s.validate ≠ .ok () := by
  refine ⟨returns_sample _ _ _, lasts_sample (by decide) (by decide) (by decide)
    (show 3000000 ≤ 3100010 by decide), ?_, fun s hs => ?_⟩
  · decide +kernel
  · have hbad : udpOk s.udp (s.durationMs * 1000) = false := by
      have horder : inOrder (fun a b => decide (a < b)) s.udp.sentUs = false := by
        rw [hs]
        decide +kernel
      simp only [udpOk, horder, Bool.and_false, Bool.false_and]
    have hinvalid : s.isValid = false := by
      simp only [isValid, hbad, Bool.and_false, Bool.false_and]
    rw [validate, hinvalid]
    rintro ⟨⟩

open UdpExchangeSample in
/-- Two datagrams that leave in time. -/
theorem spaced_datagrams_checked :
    Lasts (· ≤ ·) UdpSchedule 0 (trace 20 100030 3000040) 3000040
      ∧ udpClauses (returned 20 100030 3000040) = true := by
  have hlasts : Lasts (· ≤ ·) UdpSchedule 0 (trace 20 100030 3000040) 3000040 :=
    lasts_sample (by decide) (by decide) (by decide) (show 3000000 ≤ 3000040 by decide)
  refine ⟨hlasts, (udp_checked_iff _ _ _ _ _ _ _ (returns_sample 20 100030 3000040) hlasts).mpr ?_⟩
  show Spaced [20, 100030]
  exact List.isChain_cons_cons.mpr ⟨⟨by decide, show 20 < 3000000 by decide⟩, .singleton _⟩
