import RuntimeCargo.SampleMetrics
import RuntimeCargo.Timed

/-!
# How a sample is collected

The collector prepares, exchanges datagrams and climbs the ladder of
transfers, as long as there is time, and asks for a receipt at the end. This
is the model of `collect_sample`. Whatever it measures with is given to it as
a transport with a clock of its own, in microseconds since the start, so that
the collector is a program here and the clock is what its calls are timed
with.

What is collected is checked elsewhere, by a function that knows nothing of
the collector (`NetworkSampleV1.validate`): the order of the transfers, which
of them may be made, how long they may take. That it accepts everything the
collector returns is a fact about both (`collected_sample_valid`). It is
carried along the ladder by what holds of the transfers that were made so far
and of the time it is now (`Climbed`).

One thing has to be asked of the transport beyond what it is asked in so many
words: that it calls no transfer skipped that has taken time or moved bytes.
The collector writes down what it is told, and the check refuses it
(`skipped_with_bytes_refused`).
-/

open Program

/-! ## The transport -/

inductive TransportCall where
  | elapsedUs
  | prepare
  | udp
  | transfer (id : NetworkLegId)
  | receipt

inductive TransportReply where
  | time (us : ℕ)
  | prepared (ipv4 ipv6 : Bool) (error : Option NetworkError)
  | exchanged (udp : UdpSample)
  | transferred (leg : NetworkLeg)
  | receipted (receipt : Except NetworkError NetworkReceipt)

namespace TransportReply

/-- The reply of the clock. -/
def us : TransportReply → ℕ
  | time us => us
  | _ => 0

/-- The reply to `prepare`. -/
def egress : TransportReply → Bool × Bool × Option NetworkError
  | prepared ipv4 ipv6 error => (ipv4, ipv6, error)
  | _ => (false, false, none)

/-- The reply to `udp`. -/
def sample : TransportReply → UdpSample
  | exchanged udp => udp
  | _ => skippedUdp 0

/-- The reply to `transfer`. -/
def leg : TransportReply → NetworkLeg
  | transferred leg => leg
  | _ => ⟨.download1m, .unreachable, 0, 0, 0, none⟩

/-- The reply to `receipt`. -/
def outcome : TransportReply → Except NetworkError NetworkReceipt
  | receipted outcome => outcome
  | _ => .error .receiptUnavailable

end TransportReply

/-! ## The collector -/

section Collect

/-- A transfer may be made: the one it builds on went well and fast
enough. -/
def eligible (legs : List NetworkLeg) (id : NetworkLegId) : Bool :=
  id.prior.all fun prior => legs.any fun l => l.id = prior && l.status = .succeeded
    && 0 < l.durationUs
    && if id = .download100m then l.durationUs < 4000000 else 4000 ≤ l.bytes * 8000 / l.durationUs

/-- The transfers, in their order. -/
def ladder : List NetworkLegId := [.download1m, .upload1m, .download10m, .upload10m, .download100m]

/-- The datagrams, unless there is too little time for them. -/
def collectUdp : Program TransportCall TransportReply UdpSample := do
  let start := min (← perform .elapsedUs).us 30000000
  if (← perform .elapsedUs).us + 3000000 ≤ 29000000 then return (← perform .udp).sample
  else return skippedUdp start

/-- One transfer, if it may be made: it is skipped if there is too little time
for it. -/
def collectLeg (legs : List NetworkLeg) (id : NetworkLegId) :
    Program TransportCall TransportReply (List NetworkLeg) := do
  if !eligible legs id then return legs
  else
    let start := min (← perform .elapsedUs).us 30000000
    if start + id.timeoutMs * 1000 > 29000000 then
      return legs ++ [⟨id, .skippedBudget, start, 0, 0, some .budgetExhausted⟩]
    else return legs ++ [(← perform (.transfer id)).leg]

/-- Some transfers. -/
def collectLegs : List NetworkLegId → List NetworkLeg →
    Program TransportCall TransportReply (List NetworkLeg)
  | [], legs => return legs
  | id :: rest, legs => do collectLegs rest (← collectLeg legs id)

/-- The receipt, or why there is none. -/
def collectReceipt :
    Program TransportCall TransportReply (Except NetworkError NetworkReceipt) := do
  if (← perform .elapsedUs).us ≤ 29000000 then return (← perform .receipt).outcome
  else return .error .receiptUnavailable

/-- A receipt that does not agree with the sample is dropped. -/
def settleReceipt (s : NetworkSampleV1) : NetworkSampleV1 :=
  if s.receipt.isSome && !s.isValid then
    { s with receipt := none, errors := s.errors ++ [.receiptUnavailable] }
  else s

/-- What was measured, put together. -/
def assembleSample (startedAtMs : ℕ) (egress : Bool × Bool × Option NetworkError) (udp : UdpSample)
    (legs : List NetworkLeg) (receipt : Except NetworkError NetworkReceipt) (elapsedUs : ℕ) :
    NetworkSampleV1 :=
  let s : NetworkSampleV1 :=
    { version := 1
      startedAtMs := startedAtMs
      durationMs := min ((elapsedUs + 999) / 1000) sampleBudgetMs
      region := "lhr"
      ipv4Egress := egress.1
      ipv6Egress := egress.2.1
      legs := legs
      udp := udp
      metrics := ⟨none, none, none, none, none, none⟩
      receipt := receipt.toOption
      errors := egress.2.2.toList ++ match receipt with
        | .ok _ => []
        | .error e => [e] }
  { s with metrics := s.deriveMetrics }

/-- **`collect_sample`.** -/
def collectSample (startedAtMs : ℕ) : Program TransportCall TransportReply NetworkSampleV1 := do
  let egress := (← perform .prepare).egress
  let udp ← collectUdp
  let legs ← collectLegs ladder []
  let receipt ← collectReceipt
  let elapsed := (← perform .elapsedUs).us
  return settleReceipt (assembleSample startedAtMs egress udp legs receipt elapsed)

/-- `collect_bounded`: the sample, if it was collected in time. -/
def collectBounded (startedAtMs : ℕ) : Option NetworkSampleV1 → NetworkSampleV1
  | some sample => sample
  | none => { skippedSample startedAtMs with
      durationMs := sampleBudgetMs, errors := [.timeout] }

end Collect

/-! ## What is asked of the transport -/

namespace NetworkSampleV1

/-- The checks of the datagrams that concern nothing but them. -/
def udpClauses (udp : UdpSample) : Bool :=
  udp.sentUs.length ≤ 20 && udp.echoes.length ≤ udp.sentUs.length && udp.durationUs ≤ 3000000
    && inOrder (fun a b => a < b) udp.sentUs && udp.sentUs.all (· ≤ udp.durationUs)
    && inOrder (fun a b => a.receivedUs ≤ b.receivedUs) udp.echoes && echoesOk udp
    && !(udp.status = .succeeded && udp.echoes.isEmpty)
    && !(udp.status = .skippedBudget && !udp.sentUs.isEmpty)

end NetworkSampleV1

/-- What a transfer is: it lasts as long as it may, moves no more than its
bytes, and if it went well exactly those. -/
structure FairLeg (id : NetworkLegId) (leg : NetworkLeg) : Prop where
  requested : leg.id = id
  duration : leg.durationUs ≤ id.timeoutMs * 1000
  bytes : leg.bytes ≤ id.bytes
  succeeded : leg.status = .succeeded → leg.bytes = id.bytes ∧ leg.error = none

/-- **The contract of a transport**, for one call: its clock does not go
beyond the time of a sample, and what it records lies between the call and
the return. -/
def TransportContract (x : Stamped TransportCall TransportReply) : Prop :=
  x.stop ≤ 30000000 ∧
    match x.call with
    | .elapsedUs => x.start ≤ x.reply.us ∧ x.reply.us ≤ x.stop
    | .udp => x.start ≤ x.reply.sample.startOffsetUs
        ∧ x.reply.sample.startOffsetUs + x.reply.sample.durationUs ≤ x.stop
        ∧ NetworkSampleV1.udpClauses x.reply.sample = true
    | .transfer id => x.start ≤ x.reply.leg.startOffsetUs
        ∧ x.reply.leg.startOffsetUs + x.reply.leg.durationUs ≤ x.stop ∧ FairLeg id x.reply.leg
    | .prepare | .receipt => True

/-- What was skipped has taken no time and moved no bytes. -/
def TrueSkip (leg : NetworkLeg) : Prop :=
  leg.status = .skippedBudget → leg.bytes = 0 ∧ leg.durationUs = 0

/-- No transfer is called skipped that was made. -/
def TrueSkips (x : Stamped TransportCall TransportReply) : Prop :=
  ∀ id, x.call = .transfer id → TrueSkip x.reply.leg

/-! ## Up the ladder -/

namespace NetworkSampleV1

theorem inOrder_iff {α : Type} {ok : α → α → Bool} {l : List α} :
    inOrder ok l = true ↔ l.IsChain fun a b => ok a b = true := by
  induction l with
  | nil => exact iff_of_true rfl .nil
  | cons a l ih =>
    cases l with
    | nil => exact iff_of_true rfl (.singleton a)
    | cons b l =>
      rw [List.isChain_cons_cons, ← ih]
      exact Bool.and_eq_true_iff

end NetworkSampleV1

theorem saturatingAdd_le {a b c : ℕ} (h : a + b ≤ c) : saturatingAdd a b ≤ c :=
  (Nat.min_le_left _ _).trans h

/-- More transfers, more of what builds on them. -/
theorem eligible_append {legs more : List NetworkLeg} {id : NetworkLegId}
    (h : eligible legs id = true) : eligible (legs ++ more) id = true := by
  unfold eligible at h ⊢
  rw [Option.all_eq_true] at h ⊢
  intro prior hprior
  rw [List.any_append, h prior hprior, Bool.true_or]

/-- **What holds after some of the transfers**: they are among those that
were due, one after another, and each had what it builds on. -/
structure Climbed (udp : UdpSample) (legs : List NetworkLeg) (due : List NetworkLegId) (now : ℕ) :
    Prop where
  datagrams : udp.startOffsetUs + udp.durationUs ≤ now
  ids : (legs.map NetworkLeg.id).Sublist due
  times : legs.IsChain fun a b => a.startOffsetUs + a.durationUs ≤ b.startOffsetUs
  first : ∀ l ∈ legs.head?, udp.startOffsetUs + udp.durationUs ≤ l.startOffsetUs
  ended : ∀ l ∈ legs, l.startOffsetUs + l.durationUs ≤ now
  fair : ∀ l ∈ legs, FairLeg l.id l ∧ TrueSkip l
  priors : ∀ l ∈ legs, eligible legs l.id = true

section Climb

variable {udp : UdpSample} {legs : List NetworkLeg} {due : List NetworkLegId} {now stop : ℕ}
  {id : NetworkLegId}

theorem Climbed.later (h : Climbed udp legs due now) (hle : now ≤ stop) :
    Climbed udp legs due stop :=
  ⟨h.datagrams.trans hle, h.ids, h.times, h.first, fun l hl => (h.ended l hl).trans hle, h.fair, h.priors⟩

/-- A transfer that may not be made. -/
theorem Climbed.pass (h : Climbed udp legs due now) : Climbed udp legs (due ++ [id]) now :=
  ⟨h.datagrams, h.ids.trans (List.sublist_append_left due [id]), h.times, h.first, h.ended, h.fair,
    h.priors⟩

/-- One more transfer. -/
theorem Climbed.push (h : Climbed udp legs due now) {leg : NetworkLeg}
    (hid : leg.id = id) (hmay : eligible legs id = true) (hstart : now ≤ leg.startOffsetUs)
    (hstop : leg.startOffsetUs + leg.durationUs ≤ stop) (hfair : FairLeg id leg)
    (hskip : TrueSkip leg) : Climbed udp (legs ++ [leg]) (due ++ [id]) stop := by
  have hle : now ≤ stop := hstart.trans ((Nat.le_add_right _ _).trans hstop)
  refine ⟨h.datagrams.trans hle, ?_, ?_, ?_, ?_, ?_, ?_⟩
  · rw [List.map_append, List.map_singleton, hid]
    exact h.ids.append_right [id]
  · refine List.isChain_append.mpr ⟨h.times, .singleton leg, fun a ha b hb => ?_⟩
    cases hb
    exact (h.ended a (List.mem_of_getLast? ha)).trans hstart
  · intro l hl
    rw [List.head?_append] at hl
    cases hhead : legs.head? with
    | none =>
      rw [hhead] at hl
      cases hl
      exact h.datagrams.trans hstart
    | some l' =>
      rw [hhead] at hl
      cases hl
      exact h.first _ hhead
  · intro l hl
    obtain hl | hl := List.mem_append.mp hl
    · exact (h.ended l hl).trans hle
    · rw [List.mem_singleton.mp hl]
      exact hstop
  · intro l hl
    obtain hl | hl := List.mem_append.mp hl
    · exact h.fair l hl
    · rw [List.mem_singleton.mp hl, hid]
      exact ⟨hfair, hskip⟩
  · intro l hl
    obtain hl | hl := List.mem_append.mp hl
    · exact eligible_append (h.priors l hl)
    · rw [List.mem_singleton.mp hl, hid]
      exact eligible_append hmay

end Climb

/-- A transport that keeps its contract and calls nothing skipped that was
made. -/
def Honest (x : Stamped TransportCall TransportReply) : Prop := TransportContract x ∧ TrueSkips x

/-- The times of a run with gaps between its calls. -/
abbrev Collects {α : Type} (p : Program TransportCall TransportReply α) (now : ℕ)
    (Q : α → ℕ → Prop) : Prop :=
  Times (· ≤ ·) Honest p now fun a _ stop => Q a stop

section Collects

variable {udp : UdpSample} {legs : List NetworkLeg} {due : List NetworkLegId} {now : ℕ}

/-- The datagrams. -/
theorem collects_collectUdp :
    Collects collectUdp now fun udp stop =>
      udp.startOffsetUs + udp.durationUs ≤ stop ∧ NetworkSampleV1.udpClauses udp = true := by
  refine times_call fun clock _ mid hflow hle hok => ?_
  refine times_call fun _ _ stop hflow' hle' hok' => ?_
  obtain ⟨⟨hbound, hclock⟩, -⟩ := hok
  split
  · refine times_call fun _ _ _ hflow'' hle'' hok'' => ?_
    obtain ⟨⟨-, hudp⟩, -⟩ := hok''
    exact times_pure ⟨hudp.2.1, hudp.2.2⟩
  · refine times_pure ⟨?_, rfl⟩
    show min clock.us 30000000 + 0 ≤ stop
    have hreading : clock.us ≤ mid := hclock.2
    omega

/-- One transfer. -/
theorem collects_collectLeg (id : NetworkLegId) (h : Climbed udp legs due now) :
    Collects (collectLeg legs id) now fun legs' stop => Climbed udp legs' (due ++ [id]) stop := by
  unfold collectLeg
  by_cases hmay : eligible legs id = true
  · rw [hmay]
    refine times_call fun clock start mid hflow hle hok => ?_
    have hreading : start ≤ clock.us ∧ clock.us ≤ mid := hok.1.2
    have hbound : mid ≤ 30000000 := hok.1.1
    have hnow : now ≤ clock.us := Nat.le_trans hflow hreading.1
    dsimp only
    split
    · -- there is too little time
      have hmin : min clock.us 30000000 = clock.us := by omega
      rw [hmin]
      refine times_pure (h.push rfl hmay hnow hreading.2 ⟨rfl, Nat.zero_le _, Nat.zero_le _, nofun⟩
        fun _ => ⟨rfl, rfl⟩)
    · refine times_call fun _ start' _ hflow' hle' hok' => ?_
      obtain ⟨⟨-, hstart, hstop, hfair⟩, hskips⟩ := hok'
      have hnext : now ≤ start' := hnow.trans (hreading.2.trans hflow')
      exact times_pure (h.push hfair.requested hmay (hnext.trans hstart) hstop hfair
        (hskips id rfl))
  · rw [Bool.eq_false_of_not_eq_true hmay]
    exact times_pure h.pass

/-- **Up the ladder.** -/
theorem collects_collectLegs (rest : List NetworkLegId) (h : Climbed udp legs due now) :
    Collects (collectLegs rest legs) now fun legs' stop => Climbed udp legs' (due ++ rest) stop := by
  induction rest generalizing legs due now with
  | nil =>
    rw [List.append_nil]
    exact times_pure h
  | cons id rest ih =>
    refine Times.bind ((collects_collectLeg id h).mono fun legs' t stop h' => ?_)
    have hrest := ih h'
    rw [List.append_assoc] at hrest
    exact hrest

/-- The receipt may be any. -/
theorem collects_collectReceipt (h : Climbed udp legs due now) :
    Collects collectReceipt now fun _ stop => Climbed udp legs due stop := by
  refine times_call fun _ _ _ hflow hle hok => ?_
  split
  · refine times_call fun _ _ _ hflow' hle' hok' => ?_
    exact times_pure (h.later (Nat.le_trans hflow (hle.trans (Nat.le_trans hflow' hle'))))
  · exact times_pure (h.later (Nat.le_trans hflow hle))

end Collects

/-! ## What the check makes of it -/

namespace NetworkSampleV1

variable {s : NetworkSampleV1} {now : ℕ}

theorem bytes_le (id : NetworkLegId) : id.bytes ≤ 100000000 := by
  cases id <;> decide

theorem legsInOrder_of_climbed (h : Climbed s.udp s.legs ladder now) : s.legsInOrder = true := by
  have hranks : ladder.Pairwise fun a b => a.rank < b.rank := by decide
  have hids : (s.legs.map NetworkLeg.id).Pairwise fun a b => a.rank < b.rank :=
    hranks.sublist h.ids
  have hlegs : s.legs.Pairwise fun a b => a.id.rank < b.id.rank := by
    rw [List.pairwise_map] at hids
    exact hids
  have hchain : s.legs.IsChain fun a b => a.id.rank < b.id.rank := hlegs.isChain
  unfold legsInOrder
  rw [Bool.and_eq_true, inOrder_iff, Option.all_eq_true]
  constructor
  · rw [List.isChain_iff_getElem] at hchain ⊢
    intro i hi
    rw [Bool.and_eq_true, decide_eq_true_eq, decide_eq_true_eq]
    exact ⟨hchain i hi, saturatingAdd_le (List.isChain_iff_getElem.mp h.times i hi)⟩
  · intro l hl
    exact decide_eq_true (saturatingAdd_le (h.first l hl))

theorem priorsOk_of_climbed (h : Climbed s.udp s.legs ladder now) : s.priorsOk = true := by
  unfold priorsOk
  rw [List.all_eq_true]
  intro leg hleg
  have hmay := h.priors leg hleg
  unfold eligible at hmay
  rw [Option.all_eq_true] at hmay ⊢
  intro prior hprior
  obtain ⟨l, hl, hgood⟩ := List.any_eq_true.mp (hmay prior hprior)
  have hbytes := (h.fair l hl).1.bytes.trans (bytes_le l.id)
  have hfits : l.bytes * 8000 ≤ u64Max := by
    unfold u64Max
    omega
  refine List.any_eq_true.mpr ⟨l, hl, ?_⟩
  unfold admits
  simp only [Bool.and_eq_true, decide_eq_true_eq] at hgood ⊢
  obtain ⟨⟨⟨hid, hstatus⟩, hpos⟩, hfast⟩ := hgood
  refine ⟨hid, ⟨hstatus, hpos⟩, ?_⟩
  split at hfast
  next hlargest =>
    rw [if_pos hlargest]
    exact hfast
  next hother =>
    rw [if_neg hother, decide_eq_true hfits]
    exact hfast

theorem legs_legOk_of_climbed (h : Climbed s.udp s.legs ladder now) {limitUs : ℕ}
    (hlimit : now ≤ limitUs) : s.legs.all (legOk limitUs) = true := by
  rw [List.all_eq_true]
  intro leg hleg
  obtain ⟨hfair, hskip⟩ := h.fair leg hleg
  have hover := saturatingAdd_le ((h.ended leg hleg).trans hlimit)
  unfold legOk
  simp only [Bool.and_eq_true, decide_eq_true_eq, Bool.not_eq_true', Bool.and_eq_false_iff,
    decide_eq_false_iff_not, Bool.or_eq_false_iff, not_not]
  refine ⟨⟨⟨⟨hfair.bytes, hfair.duration⟩, hover⟩, ?_⟩, ?_⟩
  · by_cases hstatus : leg.status = .succeeded
    · obtain ⟨hbytes, herror⟩ := hfair.succeeded hstatus
      exact .inr ⟨by simpa using hbytes, by rw [herror]; rfl⟩
    · exact .inl hstatus
  · by_cases hstatus : leg.status = .skippedBudget
    · obtain ⟨hbytes, hduration⟩ := hskip hstatus
      exact .inr ⟨by simpa using hbytes, by simpa using hduration⟩
    · exact .inl hstatus

theorem nodup_of_climbed (h : Climbed s.udp s.legs ladder now) :
    (s.legs.map NetworkLeg.id).Nodup :=
  h.ids.nodup (by decide)

/-- **What was collected passes the check**, as long as there is no
receipt. -/
theorem isValid_of_climbed (h : Climbed s.udp s.legs ladder now)
    (hudp : udpClauses s.udp = true) (hlimit : now ≤ s.durationMs * 1000)
    (hduration : s.durationMs ≤ sampleBudgetMs) (hversion : s.version = 1)
    (hregion : s.region = "lhr") (hstart : s.startedAtMs ≤ 9007199254710991)
    (herrors : s.errors.length ≤ 4) (hreceipt : s.receipt = none)
    (hmetrics : s.metrics = s.deriveMetrics) : s.isValid = true := by
  have hfew : s.legs.length ≤ 5 := by
    have hlength := h.ids.length_le
    rw [List.length_map] at hlength
    exact hlength
  have hover := saturatingAdd_le (h.datagrams.trans hlimit)
  simp only [udpClauses, Bool.and_eq_true, decide_eq_true_eq] at hudp
  obtain ⟨⟨⟨⟨⟨⟨⟨⟨hsent, hechoed⟩, hlasts⟩, hsends⟩, hstamps⟩, harrivals⟩, hechoes⟩, hwell⟩, hskipped⟩ :=
    hudp
  have hbounds : s.boundsOk = true := by
    simp [boundsOk, hversion, hregion, hduration, hstart, herrors, hfew, hsent, hechoed]
  have hudpOk : udpOk s.udp (s.durationMs * 1000) = true := by
    simp [udpOk, hlasts, hover, hsends, hstamps, harrivals]
  unfold isValid
  simp only [hbounds, legsInOrder_of_climbed h, priorsOk_of_climbed h, nodup_of_climbed h,
    legs_legOk_of_climbed h hlimit, hudpOk, hechoes, hwell, hskipped, hreceipt, Bool.and_true,
    decide_true, Option.all_none, Bool.true_and]
  exact decide_eq_true hmetrics

/-- The bytes of the transfers of one direction. -/
def bytesOf (s : NetworkSampleV1) (download : Bool) : ℕ :=
  ((s.legs.filter fun l => l.id.download = download).map NetworkLeg.bytes).sum

/-- **What is accounted for** is at most what the ladder holds. -/
theorem bytesOf_le (h : Climbed s.udp s.legs ladder now) (download : Bool) :
    s.bytesOf download
      ≤ ((ladder.filter fun id => id.download = download).map NetworkLegId.bytes).sum := by
  have hbytes : s.bytesOf download
      ≤ ((s.legs.filter fun l => l.id.download = download).map fun l => l.id.bytes).sum :=
    List.sum_le_sum fun l hl => (h.fair l (List.mem_filter.mp hl).1).1.bytes
  have hfilter : (s.legs.filter fun l => l.id.download = download).map (fun l => l.id.bytes)
      = ((s.legs.map NetworkLeg.id).filter fun id => id.download = download).map
        NetworkLegId.bytes := by
    rw [List.filter_map, List.map_map]
    rfl
  rw [hfilter] at hbytes
  refine hbytes.trans (List.Sublist.sum_le_sum ((h.ids.filter _).map _) ?_)
  exact fun a _ => Nat.zero_le a

end NetworkSampleV1

/-! ## The whole collector -/

/-- A sample is valid once its receipt is settled if it is without one. -/
theorem isValid_settleReceipt {s : NetworkSampleV1} (hnone : s.receipt = none → s.isValid = true)
    (hdropped : NetworkSampleV1.isValid { s with
      receipt := none, errors := s.errors ++ [.receiptUnavailable] } = true) :
    (settleReceipt s).isValid = true := by
  unfold settleReceipt
  split_ifs with hbad
  · exact hdropped
  · cases hreceipt : s.receipt with
    | none => exact hnone hreceipt
    | some receipt =>
      rw [hreceipt, Option.isSome_some, Bool.true_and, Bool.not_eq_true', Bool.not_eq_false] at hbad
      exact hbad

theorem bytesOf_settleReceipt (s : NetworkSampleV1) (download : Bool) :
    (settleReceipt s).bytesOf download = s.bytesOf download := by
  unfold settleReceipt
  split <;> rfl

/-- **Every sample that is collected is valid** and accounts for what the
ladder holds at most. -/
theorem collects_collectSample {startedAtMs : ℕ} (hstart : startedAtMs ≤ 9007199254710991)
    (now : ℕ) :
    Collects (collectSample startedAtMs) now fun s _ => s.isValid = true
      ∧ s.bytesOf true ≤ 111000000 ∧ s.bytesOf false ≤ 11000000 := by
  refine times_call fun seen _ _ hflow hle hok => ?_
  refine Times.bind (collects_collectUdp.mono fun udp t mid ⟨hdatagrams, hudp⟩ => ?_)
  have hfoot : Climbed udp [] [] mid :=
    ⟨hdatagrams, .slnil, .nil, nofun, nofun, nofun, nofun⟩
  refine Times.bind ((collects_collectLegs ladder hfoot).mono fun legs t mid hclimbed => ?_)
  rw [List.nil_append] at hclimbed
  refine Times.bind ((collects_collectReceipt hclimbed).mono fun receipt t mid hclimbed => ?_)
  refine times_call fun clock start stop hflow' hle' hok' => times_pure ?_
  have hreading : start ≤ clock.us ∧ clock.us ≤ stop := hok'.1.2
  have hbound : stop ≤ 30000000 := hok'.1.1
  have htop := hclimbed.later (Nat.le_trans hflow' hreading.1)
  -- the time is rounded up to milliseconds
  have hrounded : clock.us ≤ min ((clock.us + 999) / 1000) sampleBudgetMs * 1000 := by
    unfold sampleBudgetMs
    omega
  have hegress : seen.egress.2.2.toList.length ≤ 1 := by
    cases seen.egress.2.2 with
    | none => exact Nat.zero_le 1
    | some e => exact le_rfl
  refine ⟨isValid_settleReceipt (fun hnone => ?_) ?_, ?_, ?_⟩
  · refine NetworkSampleV1.isValid_of_climbed htop hudp hrounded (Nat.min_le_right _ _) rfl rfl
      hstart ?_ hnone rfl
    refine (List.length_append ..).trans_le ?_
    cases receipt with
    | ok receipt => exact hegress.trans (by decide)
    | error e => exact Nat.add_le_add hegress (show 1 ≤ 3 by decide)
  · refine NetworkSampleV1.isValid_of_climbed htop hudp hrounded (Nat.min_le_right _ _) rfl rfl
      hstart ?_ rfl rfl
    refine (List.length_append ..).trans_le (Nat.add_le_add (c := 1) (b := 3) ?_ le_rfl)
    refine (List.length_append ..).trans_le ?_
    cases receipt with
    | ok receipt => exact hegress.trans (by decide)
    | error e => exact Nat.add_le_add hegress (show 1 ≤ 2 by decide)
  · rw [bytesOf_settleReceipt]
    exact NetworkSampleV1.bytesOf_le htop true
  · rw [bytesOf_settleReceipt]
    exact NetworkSampleV1.bytesOf_le htop false

/-- **A transfer is started only if there is time for it**: the clock was
read just before. -/
def TransferRule (before : List (TransportCall × TransportReply))
    (x : TransportCall × TransportReply) : Prop :=
  ∀ id, x.1 = .transfer id → ∃ r, before.getLast? = some (.elapsedUs, r)
    ∧ r.us + id.timeoutMs * 1000 ≤ 29000000

section Rule

variable {before : List (TransportCall × TransportReply)}

theorem follows_collectLeg (legs : List NetworkLeg) (id : NetworkLegId) :
    Follows TransferRule (collectLeg legs id) before fun _ _ => True := by
  unfold collectLeg
  split
  · exact follows_pure trivial
  refine follows_call (fun _ => nofun) fun clock => ?_
  dsimp only
  split
  · exact follows_pure trivial
  next htime =>
    refine follows_call (fun _ => ?_) fun _ => follows_pure trivial
    rintro _ ⟨⟩
    refine ⟨clock, List.getLast?_concat .., ?_⟩
    omega

theorem follows_collectLegs (rest : List NetworkLegId) (legs : List NetworkLeg) :
    Follows TransferRule (collectLegs rest legs) before fun _ _ => True := by
  induction rest generalizing legs before with
  | nil => exact follows_pure trivial
  | cons id rest ih => exact Follows.bind ((follows_collectLeg legs id).mono fun _ _ _ => ih _)

theorem follows_collectSample (startedAtMs : ℕ) :
    Follows TransferRule (collectSample startedAtMs) before fun _ _ => True := by
  refine follows_call (fun _ => nofun) fun _ => Follows.bind ?_
  refine follows_call (fun _ => nofun) fun _ => follows_call (fun _ => nofun) fun _ => ?_
  have hrest : ∀ (udp : UdpSample) (egress : Bool × Bool × Option NetworkError)
      (before : List (TransportCall × TransportReply)),
      Follows TransferRule (collectLegs ladder [] >>= fun legs => collectReceipt >>= fun receipt =>
        perform .elapsedUs >>= fun clock => pure (settleReceipt
          (assembleSample startedAtMs egress udp legs receipt clock.us))) before
        fun _ _ => True := by
    intro udp egress before
    refine Follows.bind ((follows_collectLegs ladder []).mono fun legs _ _ => Follows.bind ?_)
    refine follows_call (fun _ => nofun) fun clock => ?_
    split
    · refine follows_call (fun _ => nofun) fun _ => follows_pure ?_
      exact follows_call (fun _ => nofun) fun _ => follows_pure trivial
    · refine follows_pure ?_
      exact follows_call (fun _ => nofun) fun _ => follows_pure trivial
  split
  · exact follows_call (fun _ => nofun) fun _ => follows_pure (hrest _ _ _)
  · exact follows_pure (hrest _ _ _)

end Rule

/-- **What is collected is what may be sent.** With a transport that keeps its
contract, whatever receipt it returns, and from any time a sample may begin
at: the sample passes the check, no transfer was started whose time would
have run beyond 29 seconds, and at most 111 megabytes were fetched and 11
sent. -/
theorem collected_sample_valid (startedAtMs : ℕ) (hstart : startedAtMs ≤ 9007199254710991)
    {now stop : ℕ} {t : List (Stamped TransportCall TransportReply)} {s : NetworkSampleV1}
    (hrun : Yields (collectSample startedAtMs) (t.map Stamped.event) s)
    (hlasts : Lasts (· ≤ ·) Honest now t stop) :
    s.validate = .ok ()
      ∧ (∀ before id r after, t.map Stamped.event = before ++ (.transfer id, r) :: after →
        ∃ clock, before.getLast? = some (.elapsedUs, clock)
          ∧ clock.us + id.timeoutMs * 1000 ≤ 29000000)
      ∧ s.bytesOf true ≤ 111000000 ∧ s.bytesOf false ≤ 11000000 := by
  obtain ⟨hvalid, hbytes⟩ := collects_collectSample hstart now t s stop hrun hlasts
  refine ⟨if_pos hvalid, fun before id r after heq => ?_, hbytes⟩
  have hfollows : Follows TransferRule (collectSample startedAtMs) [] fun _ _ => True :=
    follows_collectSample startedAtMs
  have halong := (hfollows _ _ hrun).1
  rw [heq] at halong
  exact halong.at id rfl

/-! ## A transfer that moved a byte -/

namespace CollectSample

/-- What the transport replies at the very start: it is reachable, no
datagram was sent, and each transfer has moved one byte and has some
status. -/
def replyTo (status : NetworkStatus) : TransportCall → TransportReply
  | .elapsedUs => .time 0
  | .prepare => .prepared true false none
  | .udp => .exchanged ⟨.unreachable, 0, 0, [], [], some .connectFailed⟩
  | .transfer id => .transferred ⟨id, status, 0, 0, 1, some .timeout⟩
  | .receipt => .receipted (.error .receiptUnavailable)

/-- The calls that are made while no transfer goes well. -/
def calls : List TransportCall :=
  [.prepare, .elapsedUs, .elapsedUs, .udp, .elapsedUs, .transfer .download1m, .elapsedUs,
    .transfer .upload1m, .elapsedUs, .receipt, .elapsedUs]

def trace (status : NetworkStatus) : List (Stamped TransportCall TransportReply) :=
  calls.map fun c => ⟨c, replyTo status c, 0, 0⟩

/-- The sample. -/
def sample (status : NetworkStatus) : NetworkSampleV1 :=
  settleReceipt (assembleSample 0 (true, false, none)
    ⟨.unreachable, 0, 0, [], [], some .connectFailed⟩
    [⟨.download1m, status, 0, 0, 1, some .timeout⟩, ⟨.upload1m, status, 0, 0, 1, some .timeout⟩]
    (.error .receiptUnavailable) 0)

theorem yields_collect {status : NetworkStatus} (h : status ≠ .succeeded) :
    Yields (collectSample 0) ((trace status).map Stamped.event) (sample status) := by
  have hfeed : ∀ status, (collectSample 0).feed ((trace status).map Stamped.reply)
      = some ((trace status).map Stamped.event, sample status) →
        Yields (collectSample 0) ((trace status).map Stamped.event) (sample status) :=
    fun _ => Program.yields_of_feed
  cases status with
  | succeeded => exact absurd rfl h
  | failed => exact hfeed .failed rfl
  | skippedBudget => exact hfeed .skippedBudget rfl
  | unreachable => exact hfeed .unreachable rfl

theorem lasts_trace {status : NetworkStatus} (h : status ≠ .succeeded) :
    Lasts (· ≤ ·) TransportContract 0 (trace status) 0 := by
  have hfair : ∀ id, FairLeg id ⟨id, status, 0, 0, 1, some .timeout⟩ := by
    intro id
    refine ⟨rfl, Nat.zero_le _, ?_, fun hstatus => absurd hstatus h⟩
    show 1 ≤ id.bytes
    cases id <;> decide
  have hclock : TransportContract ⟨.elapsedUs, .time 0, 0, 0⟩ :=
    ⟨Nat.zero_le _, le_rfl, le_rfl⟩
  have hleg : ∀ id, TransportContract ⟨.transfer id, replyTo status (.transfer id), 0, 0⟩ :=
    fun id => ⟨Nat.zero_le _, le_rfl, le_rfl, hfair id⟩
  exact ⟨le_rfl, le_rfl, ⟨Nat.zero_le _, trivial⟩, le_rfl, le_rfl, hclock, le_rfl, le_rfl, hclock,
    le_rfl, le_rfl, ⟨Nat.zero_le _, le_rfl, le_rfl, rfl⟩, le_rfl, le_rfl, hclock, le_rfl, le_rfl,
    hleg _, le_rfl, le_rfl, hclock, le_rfl, le_rfl, hleg _, le_rfl, le_rfl, hclock, le_rfl, le_rfl,
    ⟨Nat.zero_le _, trivial⟩, le_rfl, le_rfl, hclock, rfl⟩

end CollectSample

open CollectSample in
/-- A transport calls a transfer skipped that has moved a byte: the sample
does not pass the check. -/
theorem skipped_with_bytes_refused :
    Yields (collectSample 0) ((trace .skippedBudget).map Stamped.event) (sample .skippedBudget)
      ∧ Lasts (· ≤ ·) TransportContract 0 (trace .skippedBudget) 0
      ∧ (sample .skippedBudget).validate ≠ .ok () := by
  refine ⟨yields_collect nofun, lasts_trace nofun, ?_⟩
  have hbad : (sample .skippedBudget).isValid = false := by decide +kernel
  rw [NetworkSampleV1.validate, hbad]
  nofun

open CollectSample in
/-- A transport on which every transfer fails. -/
theorem failed_transfers_valid :
    Lasts (· ≤ ·) Honest 0 (trace .failed) 0 ∧ (sample .failed).validate = .ok () := by
  have hne : NetworkStatus.failed ≠ .succeeded := nofun
  have hhonest : Lasts (· ≤ ·) Honest 0 (trace .failed) 0 := by
    have hskips : ∀ x ∈ trace .failed, TrueSkips x := by
      intro x hx
      obtain ⟨c, -, rfl⟩ := List.mem_map.mp hx
      rintro id rfl
      exact nofun
    exact (lasts_trace hne).and hskips
  exact ⟨hhonest, (collected_sample_valid 0 (Nat.zero_le _) (yields_collect hne) hhonest).1⟩
