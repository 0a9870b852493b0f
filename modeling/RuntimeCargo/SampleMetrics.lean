import RuntimeCargo.NetworkSample

/-!
# The figures of a sample

`derive_metrics` computes with numbers of 64 bits, looks places up in a list
and divides. Here it is written so that every such step may fail
(`deriveMetricsChecked`), and it is shown that none does for a sample whose
records are in order (`metrics_in_range`).

Of the figures themselves, the rates, the loss and the two quantiles are
read off the records. The jitter is not: it is an average that forgets, kept
in sixteenths and rounded at each step. What holds it below the largest
difference is a bound that the rounding respects – sixteen times the
difference and seven (`jitterOf_bounds`).
-/

/-! ## Steps that may fail -/

/-- A result that fits in 64 unsigned bits. -/
def fitU64 (n : ℕ) : Option ℕ := if n ≤ u64Max then some n else none

/-- A result that fits in 64 signed bits. -/
def fitI64 (n : ℤ) : Option ℤ := if -2 ^ 63 ≤ n ∧ n < 2 ^ 63 then some n else none

/-- A division by something that is not zero. -/
def checkedDiv (a b : ℕ) : Option ℕ := if b = 0 then none else some (a / b)

theorem fitU64_eq {n : ℕ} (h : n ≤ u64Max) : fitU64 n = some n := if_pos h

theorem fitI64_eq {n : ℤ} (hlow : -2 ^ 63 ≤ n) (hhigh : n < 2 ^ 63) : fitI64 n = some n :=
  if_pos ⟨hlow, hhigh⟩

theorem checkedDiv_eq {a b : ℕ} (h : 0 < b) : checkedDiv a b = some (a / b) :=
  if_neg (Nat.ne_of_gt h)

/-- The estimate after one more round trip. -/
def nextJitter (jitter last rtt : ℤ) : Option ℤ := do
  let difference ← fitI64 (rtt - last)
  let size ← fitI64 |difference|
  let rounded ← fitI64 (jitter + 8)
  let change ← fitI64 (size - rounded / 16)
  fitI64 (jitter + change)

/-- What the loop over the echoes has gathered. -/
structure RoundTrips where
  rtts : List ℕ
  jitter : ℤ
  previous : Option ℤ

/-- One more round trip. -/
def RoundTrips.push (t : RoundTrips) (rtt : ℕ) : Option RoundTrips := do
  let signed ← fitI64 rtt
  let jitter ← t.previous.elim (some t.jitter) fun last => nextJitter t.jitter last signed
  return ⟨t.rtts ++ [rtt], jitter, some signed⟩

/-- One echo: one that answers nothing is passed over. -/
def RoundTrips.take (sentUs : List ℕ) (t : RoundTrips) (echo : UdpEcho) : Option RoundTrips :=
  sentUs[echo.sequence]?.elim (some t) fun sent => t.push (echo.receivedUs - sent)

/-- The loop. -/
def roundTrips (udp : UdpSample) : Option RoundTrips :=
  udp.echoes.foldlM (RoundTrips.take udp.sentUs) ⟨[], 0, none⟩

def medianChecked (rtts : List ℕ) : Option (Option ℕ) :=
  if rtts.isEmpty then some none
  else do
    let last ← checkedSub rtts.length 1
    let low ← rtts[last / 2]?
    let high ← rtts[rtts.length / 2]?
    let sum ← fitU64 (low + high)
    return some (sum / 2)

def p90Checked (rtts : List ℕ) : Option (Option ℕ) :=
  if rtts.isEmpty then some none
  else do
    let ninefold ← fitU64 (rtts.length * 9)
    let place ← checkedSub ((ninefold + 9) / 10) 1
    let rtt ← rtts[place]?
    return some rtt

def jitterChecked (rtts : List ℕ) (jitter : ℤ) : Option (Option ℕ) :=
  if rtts.length < 2 then some none
  else if 0 ≤ jitter / 16 then some (some (jitter / 16).toNat)
  else none

def lossChecked (sent echoed : ℕ) : Option (Option ℕ) :=
  if sent = 0 then some none
  else do
    let lost ← fitU64 ((sent - echoed) * 10000)
    let share ← checkedDiv lost sent
    if share < 2 ^ 16 then some (some share) else none

namespace NetworkSampleV1

/-- The transfers of one direction that went well and took time. -/
def measured (s : NetworkSampleV1) (download : Bool) : List NetworkLeg :=
  s.legs.filter fun l => l.id.download = download && l.status = .succeeded && 0 < l.durationUs

def rateChecked (s : NetworkSampleV1) (download : Bool) : Option (Option ℕ) :=
  (maxByKey (fun l => l.id.bytes) (s.measured download)).elim (some none) fun l => do
    let bits ← fitU64 (l.bytes * 8000)
    let rate ← checkedDiv bits l.durationUs
    return some rate

/-- **`derive_metrics`, step by step**: nothing if a result does not fit, a
place is not there or a divisor is zero. -/
def deriveMetricsChecked (s : NetworkSampleV1) : Option NetworkMetrics := do
  let trips ← roundTrips s.udp
  let rtts := trips.rtts.insertionSort (· ≤ ·)
  let median ← medianChecked rtts
  let download ← s.rateChecked true
  let upload ← s.rateChecked false
  let p90 ← p90Checked rtts
  let jitter ← jitterChecked rtts trips.jitter
  let loss ← lossChecked s.udp.sentUs.length rtts.length
  return ⟨download, upload, median, p90, jitter, loss⟩

/-- The checks of `validate` apart from the one of the figures. -/
def recordsOk (s : NetworkSampleV1) : Bool :=
  let limitUs := s.durationMs * 1000
  s.boundsOk && s.legsInOrder && s.priorsOk
    && decide (s.legs.map NetworkLeg.id).Nodup && s.legs.all (legOk limitUs)
    && udpOk s.udp limitUs && echoesOk s.udp
    && !(s.udp.status = .succeeded && s.udp.echoes.isEmpty)
    && !(s.udp.status = .skippedBudget && !s.udp.sentUs.isEmpty)
    && s.receipt.all (receiptOk s)

end NetworkSampleV1

/-! ## The jitter -/

variable {bound : ℤ} {rtts : List ℕ}

/-- One step of the estimate. -/
theorem jitter_step {jitter size : ℤ} (hlow : 0 ≤ jitter) (hhigh : jitter ≤ 16 * bound + 7)
    (hsize : 0 ≤ size) (hbound : size ≤ bound) :
    0 ≤ jitter + (size - (jitter + 8) / 16)
      ∧ jitter + (size - (jitter + 8) / 16) ≤ 16 * bound + 7 := by
  omega

/-- No two round trips in a row are further apart. -/
def StepsWithin (bound : ℤ) (rtts : List ℕ) : Prop :=
  ∀ p ∈ rtts.zip rtts.tail, (((p.2 : ℤ) - p.1).natAbs : ℤ) ≤ bound

theorem StepsWithin.head {last rtt : ℕ} {rest : List ℕ}
    (h : StepsWithin bound (last :: rtt :: rest)) : (((rtt : ℤ) - last).natAbs : ℤ) ≤ bound :=
  h (last, rtt) List.mem_cons_self

theorem StepsWithin.tail {last : ℕ} {rest : List ℕ} (h : StepsWithin bound (last :: rest)) :
    StepsWithin bound rest := by
  cases rest with
  | nil => exact fun p hp => absurd hp List.not_mem_nil
  | cons rtt rest => exact fun p hp => h p (List.mem_cons_of_mem _ hp)

/-- **The estimate is held by the largest difference**: it never gets above
sixteen times the difference and seven, which is the largest number that
the rounding takes back to the difference. -/
theorem jitterOf_bounds {jitter : ℤ} (hclose : StepsWithin bound rtts) (hlow : 0 ≤ jitter)
    (hhigh : jitter ≤ 16 * bound + 7) :
    0 ≤ jitterOf jitter rtts ∧ jitterOf jitter rtts ≤ 16 * bound + 7 := by
  induction rtts generalizing jitter with
  | nil => exact ⟨hlow, hhigh⟩
  | cons last rest ih =>
    cases rest with
    | nil => exact ⟨hlow, hhigh⟩
    | cons rtt rest =>
      obtain ⟨hlow', hhigh'⟩ := jitter_step hlow hhigh (Int.natCast_nonneg _) hclose.head
      exact ih hclose.tail hlow' hhigh'

/-- The largest difference is one of them. -/
theorem exists_close (h : 2 ≤ rtts.length) :
    ∃ p ∈ rtts.zip rtts.tail, StepsWithin ((p.2 : ℤ) - p.1).natAbs rtts := by
  have hne : (rtts.zip rtts.tail).toFinset.Nonempty := by
    rw [List.toFinset_nonempty_iff, ← List.length_pos_iff, List.length_zip, List.length_tail]
    omega
  obtain ⟨p, hp, hmax⟩ := Finset.exists_max_image _ (fun p : ℕ × ℕ => ((p.2 : ℤ) - p.1).natAbs) hne
  refine ⟨p, List.mem_toFinset.mp hp, fun q hq => ?_⟩
  exact Int.ofNat_le.mpr (hmax q (List.mem_toFinset.mpr hq))

/-- **No step of the estimate fails** as long as the round trips are within a
bound far below the largest number. -/
theorem nextJitter_eq {jitter : ℤ} {last rtt : ℕ} (hlow : 0 ≤ jitter)
    (hhigh : jitter ≤ 16 * 3000000 + 7) (hlast : last ≤ 3000000) (hrtt : rtt ≤ 3000000) :
    nextJitter jitter last rtt
      = some (jitter + (((rtt : ℤ) - last).natAbs - (jitter + 8) / 16)) := by
  have hsize : 0 ≤ |(rtt : ℤ) - last| ∧ |(rtt : ℤ) - last| ≤ 3000000 := by
    rw [← Int.natCast_natAbs]
    omega
  unfold nextJitter
  simp only [Option.bind_eq_bind]
  rw [fitI64_eq (by omega) (by omega), Option.bind_some, fitI64_eq (by omega) (by omega),
    Option.bind_some, fitI64_eq (by omega) (by omega), Option.bind_some,
    fitI64_eq (by omega) (by omega), Option.bind_some, fitI64_eq (by omega) (by omega),
    Int.natCast_natAbs]

theorem close_of_le {bound : ℕ} (h : ∀ rtt ∈ rtts, rtt ≤ bound) :
    StepsWithin bound rtts := by
  intro p hp
  have h₁ := h p.1 (List.of_mem_zip hp).1
  have h₂ := h p.2 (List.mem_of_mem_tail (List.of_mem_zip hp).2)
  omega

/-- The loop, from its second round trip on. -/
theorem foldlM_push {acc : List ℕ} {jitter : ℤ} {last : ℕ} {rest : List ℕ} (hlow : 0 ≤ jitter)
    (hhigh : jitter ≤ 16 * 3000000 + 7) (hle : ∀ rtt ∈ last :: rest, rtt ≤ 3000000) :
    ∃ previous, rest.foldlM RoundTrips.push ⟨acc, jitter, some (last : ℤ)⟩
      = some ⟨acc ++ rest, jitterOf jitter (last :: rest), previous⟩ := by
  induction rest generalizing acc jitter last with
  | nil => exact ⟨_, by rw [List.append_nil]; rfl⟩
  | cons rtt rest ih =>
    have hlast := hle last List.mem_cons_self
    have hrtt := hle rtt (List.mem_cons_of_mem _ List.mem_cons_self)
    have hclose := close_of_le hle
    obtain ⟨hlow', hhigh'⟩ := jitter_step hlow hhigh (Int.natCast_nonneg _) hclose.head
    have hpush : RoundTrips.push ⟨acc, jitter, some (last : ℤ)⟩ rtt = some ⟨acc ++ [rtt],
        jitter + (((rtt : ℤ) - last).natAbs - (jitter + 8) / 16), some (rtt : ℤ)⟩ := by
      unfold RoundTrips.push
      rw [fitI64_eq (by omega) (by omega), Option.bind_eq_bind, Option.bind_some, Option.elim_some,
        nextJitter_eq hlow hhigh hlast hrtt]
      rfl
    obtain ⟨previous, hrest⟩ := @ih (acc ++ [rtt]) _ rtt hlow' hhigh'
      fun r hr => hle r (List.mem_cons_of_mem _ hr)
    refine ⟨previous, ?_⟩
    rw [List.foldlM_cons, hpush, Option.bind_eq_bind, Option.bind_some, hrest, List.append_assoc]
    rfl

/-- An echo that answers nothing is passed over, so that only the others
count. -/
theorem foldlM_take (sentUs : List ℕ) (echoes : List UdpEcho) (t : RoundTrips) :
    echoes.foldlM (RoundTrips.take sentUs) t
      = (echoes.filterMap fun echo => sentUs[echo.sequence]?.map
        fun sent => echo.receivedUs - sent).foldlM RoundTrips.push t := by
  induction echoes generalizing t with
  | nil => rfl
  | cons echo echoes ih =>
    rw [List.foldlM_cons, RoundTrips.take]
    cases hsent : sentUs[echo.sequence]? with
    | none =>
      rw [List.filterMap_cons_none (by rw [hsent]; rfl), Option.elim_none, Option.bind_eq_bind,
        Option.bind_some, ih t]
    | some sent =>
      rw [List.filterMap_cons_some (by rw [hsent]; rfl), List.foldlM_cons, Option.elim_some]
      congr 1
      funext t'
      rw [ih t']

/-- The loop, from the start. -/
theorem foldlM_push_start (hle : ∀ rtt ∈ rtts, rtt ≤ 3000000) :
    ∃ previous, rtts.foldlM RoundTrips.push ⟨[], 0, none⟩
      = some ⟨rtts, jitterOf 0 rtts, previous⟩ := by
  cases rtts with
  | nil => exact ⟨none, rfl⟩
  | cons rtt rest =>
    have hrtt := hle rtt List.mem_cons_self
    have hpush : RoundTrips.push ⟨[], 0, none⟩ rtt = some ⟨[rtt], 0, some (rtt : ℤ)⟩ := by
      unfold RoundTrips.push
      rw [fitI64_eq (by omega) (by omega)]
      rfl
    obtain ⟨previous, hrest⟩ := @foldlM_push [rtt] 0 rtt rest le_rfl (by omega) hle
    refine ⟨previous, ?_⟩
    rw [List.foldlM_cons, hpush, Option.bind_eq_bind, Option.bind_some, hrest,
      List.singleton_append]

/-- **The loop as a whole**: the round trips in the order of arrival, and the
estimate over them. -/
theorem roundTrips_eq {udp : UdpSample} (hle : ∀ rtt ∈ udp.rtts, rtt ≤ 3000000) :
    ∃ previous, roundTrips udp = some ⟨udp.rtts, jitterOf 0 udp.rtts, previous⟩ := by
  rw [roundTrips, foldlM_take]
  exact foldlM_push_start hle

/-! ## Quantiles -/

section Quantiles

variable {rtts : List ℕ}

theorem getD_of_lt {i : ℕ} (h : i < rtts.length) : rtts[i]? = some (rtts.getD i 0) := by
  rw [List.getD_eq_getElem?_getD, List.getElem?_eq_getElem h]
  rfl

/-- Places in a sorted list. -/
theorem getD_le_getD (hsorted : rtts.Pairwise (· ≤ ·)) {i j : ℕ} (hij : i ≤ j)
    (hj : j < rtts.length) : rtts.getD i 0 ≤ rtts.getD j 0 := by
  have hi : i < rtts.length := Nat.lt_of_le_of_lt hij hj
  rw [List.getD_eq_getElem _ _ hi, List.getD_eq_getElem _ _ hj]
  obtain rfl | hlt := Nat.eq_or_lt_of_le hij
  · exact le_rfl
  · exact List.pairwise_iff_getElem.mp hsorted i j hi hj hlt

/-- The middle, and the place below which nine tenths are. -/
def rttMedian (rtts : List ℕ) : ℕ :=
  (rtts.getD ((rtts.length - 1) / 2) 0 + rtts.getD (rtts.length / 2) 0) / 2

def rttP90 (rtts : List ℕ) : ℕ := rtts.getD ((rtts.length * 9 + 9) / 10 - 1) 0

/-- **The quantiles are in order**, for every number of round trips. -/
theorem quantiles_in_order (hsorted : rtts.Pairwise (· ≤ ·)) (hne : rtts ≠ []) :
    rtts.getD 0 0 ≤ rttMedian rtts ∧ rttMedian rtts ≤ rttP90 rtts
      ∧ rttP90 rtts ≤ rtts.getD (rtts.length - 1) 0 := by
  have hpos : 0 < rtts.length := List.length_pos_iff.mpr hne
  have hfirst := getD_le_getD hsorted (Nat.zero_le ((rtts.length - 1) / 2)) (by omega)
  have hmiddle : rtts.getD ((rtts.length - 1) / 2) 0 ≤ rtts.getD (rtts.length / 2) 0 :=
    getD_le_getD hsorted (by omega) (by omega)
  have hupper : rtts.getD (rtts.length / 2) 0 ≤ rttP90 rtts :=
    getD_le_getD hsorted (by omega) (by omega)
  have hlast : rttP90 rtts ≤ rtts.getD (rtts.length - 1) 0 :=
    getD_le_getD hsorted (by omega) (by omega)
  unfold rttMedian
  exact ⟨by omega, by omega, hlast⟩

theorem medianChecked_eq (hle : ∀ rtt ∈ rtts, rtt ≤ 3000000) :
    medianChecked rtts = some (if rtts.isEmpty then none else some (rttMedian rtts)) := by
  cases hempty : rtts.isEmpty with
  | true => rw [medianChecked, hempty]; rfl
  | false =>
    have hne : rtts ≠ [] := List.isEmpty_eq_false_iff.mp hempty
    have hpos : 0 < rtts.length := List.length_pos_iff.mpr hne
    have hsmall : ∀ i < rtts.length, rtts.getD i 0 ≤ 3000000 := by
      intro i hi
      rw [List.getD_eq_getElem _ _ hi]
      exact hle _ (List.getElem_mem hi)
    have hlow := hsmall ((rtts.length - 1) / 2) (by omega)
    have hhigh := hsmall (rtts.length / 2) (by omega)
    rw [medianChecked, hempty, if_neg Bool.false_ne_true, checkedSub,
      if_pos (Nat.succ_le_of_lt hpos)]
    simp only [Option.bind_eq_bind, Option.bind_some]
    rw [getD_of_lt (by omega), Option.bind_some, getD_of_lt (by omega), Option.bind_some,
      fitU64_eq (by unfold u64Max; omega)]
    rfl

theorem p90Checked_eq (hlength : rtts.length ≤ 20) :
    p90Checked rtts = some (if rtts.isEmpty then none else some (rttP90 rtts)) := by
  cases hempty : rtts.isEmpty with
  | true => rw [p90Checked, hempty]; rfl
  | false =>
    have hne : rtts ≠ [] := List.isEmpty_eq_false_iff.mp hempty
    have hpos : 0 < rtts.length := List.length_pos_iff.mpr hne
    rw [p90Checked, hempty, if_neg Bool.false_ne_true]
    simp only [Option.bind_eq_bind]
    rw [fitU64_eq (by unfold u64Max; omega), Option.bind_some, checkedSub, if_pos (by omega),
      Option.bind_some, getD_of_lt (by omega)]
    rfl

end Quantiles

/-! ## Loss and rates -/

theorem lossChecked_eq {sent echoed : ℕ} (h : sent ≤ 20) :
    lossChecked sent echoed
      = some (if sent = 0 then none else some ((sent - echoed) * 10000 / sent)) := by
  by_cases hsent : sent = 0
  · rw [lossChecked, if_pos hsent, if_pos hsent]
  · have hpos : 0 < sent := Nat.pos_of_ne_zero hsent
    have hlost : (sent - echoed) * 10000 ≤ 200000 := by omega
    have hshare : (sent - echoed) * 10000 / sent ≤ 10000 :=
      Nat.div_le_of_le_mul (Nat.mul_le_mul_right 10000 (Nat.sub_le sent echoed))
    rw [lossChecked, if_neg hsent, if_neg hsent]
    simp only [Option.bind_eq_bind]
    rw [fitU64_eq (by unfold u64Max; omega), Option.bind_some, checkedDiv_eq hpos,
      Option.bind_some, if_pos (by omega)]

/-- What is lost is at most everything, and nothing exactly if every datagram
has come back. -/
theorem loss_bounds {sent echoed : ℕ} (hpos : 0 < sent) (h : sent ≤ 20) (hechoed : echoed ≤ sent) :
    (sent - echoed) * 10000 / sent ≤ 10000
      ∧ ((sent - echoed) * 10000 / sent = 0 ↔ echoed = sent) := by
  refine ⟨Nat.div_le_of_le_mul (Nat.mul_le_mul_right 10000 (Nat.sub_le sent echoed)), ?_⟩
  rw [Nat.div_eq_zero_iff_lt hpos]
  omega

section MaxByKey

variable {α : Type} {key : α → ℕ}

/-- One with the largest key. -/
theorem maxByKey_spec (l : List α) :
    (maxByKey key l = none ↔ l = [])
      ∧ ∀ a, maxByKey key l = some a → a ∈ l ∧ ∀ b ∈ l, key b ≤ key a := by
  induction l using List.reverseRecOn with
  | nil => exact ⟨⟨fun _ => rfl, fun _ => rfl⟩, by rintro _ ⟨⟩⟩
  | append_singleton l x ih =>
    obtain ⟨hnone, hsome⟩ := ih
    have hstep : maxByKey key (l ++ [x])
        = (maxByKey key l).elim (some x) fun b => if key b ≤ key x then some x else some b := by
      rw [maxByKey, List.foldl_append, ← maxByKey]
      cases maxByKey key l <;> rfl
    rw [hstep]
    cases hbest : maxByKey key l with
    | none =>
      obtain rfl := hnone.mp hbest
      refine ⟨⟨by rintro ⟨⟩, by rintro ⟨⟩⟩, ?_⟩
      rintro a ⟨⟩
      exact ⟨List.mem_cons_self, fun b hb => by rw [List.mem_singleton.mp hb]⟩
    | some best =>
      obtain ⟨hmem, hmax⟩ := hsome best hbest
      rw [Option.elim_some]
      split_ifs with hle
      · refine ⟨⟨by rintro ⟨⟩, fun h => absurd h (List.concat_ne_nil x l)⟩, ?_⟩
        rintro a ⟨⟩
        refine ⟨List.mem_append_right l List.mem_cons_self, fun b hb => ?_⟩
        obtain hb | hb := List.mem_append.mp hb
        · exact (hmax b hb).trans hle
        · rw [List.mem_singleton.mp hb]
      · refine ⟨⟨by rintro ⟨⟩, fun h => absurd h (List.concat_ne_nil x l)⟩, ?_⟩
        rintro a ⟨⟩
        refine ⟨List.mem_append_left _ hmem, fun b hb => ?_⟩
        obtain hb | hb := List.mem_append.mp hb
        · exact hmax b hb
        · rw [List.mem_singleton.mp hb]
          exact Nat.le_of_not_le hle

end MaxByKey

namespace NetworkSampleV1

variable {s : NetworkSampleV1}

theorem rateChecked_eq (hbytes : ∀ leg ∈ s.legs, leg.bytes ≤ leg.id.bytes) (download : Bool) :
    s.rateChecked download = some (s.rate download) := by
  show (maxByKey _ (s.measured download)).elim _ _ = some ((maxByKey _ (s.measured download)).map _)
  cases hmax : maxByKey (fun l => l.id.bytes) (s.measured download) with
  | none => rfl
  | some leg =>
    have hmem := ((maxByKey_spec (s.measured download)).2 leg hmax).1
    obtain ⟨hleg, hmeasured⟩ := List.mem_filter.mp hmem
    have hpos : 0 < leg.durationUs := by
      simp only [Bool.and_eq_true, decide_eq_true_eq] at hmeasured
      exact hmeasured.2
    have hlargest : leg.id.bytes ≤ 100000000 := by
      cases leg.id <;> decide
    have hsmall := (hbytes leg hleg).trans hlargest
    rw [Option.elim_some, Option.map_some]
    simp only [Option.bind_eq_bind]
    rw [fitU64_eq (by unfold u64Max; omega), Option.bind_some, checkedDiv_eq hpos]
    rfl

/-! ## The whole of it -/

/-- What the checks say that the figures rest on. -/
structure InOrder (s : NetworkSampleV1) : Prop where
  sent : s.udp.sentUs.length ≤ 20
  bytes : ∀ leg ∈ s.legs, leg.bytes ≤ leg.id.bytes
  duration : s.udp.durationUs ≤ 3000000
  echoes : ∀ echo ∈ s.udp.echoes, ∃ sentUs, s.udp.sentUs[echo.sequence]? = some sentUs
    ∧ echo.receivedUs ≤ s.udp.durationUs
  sequences : (s.udp.echoes.map UdpEcho.sequence).Nodup

theorem inOrder_of_recordsOk (h : s.recordsOk = true) : InOrder s := by
  simp only [recordsOk, boundsOk, udpOk, echoesOk, Bool.and_eq_true, decide_eq_true_eq,
    List.all_eq_true, Option.any_eq_true] at h
  obtain ⟨⟨⟨⟨⟨⟨⟨⟨⟨hbounds, -⟩, -⟩, -⟩, hlegs⟩, hudp⟩, hechoes, hnodup⟩, -⟩, -⟩, -⟩ := h
  refine ⟨hbounds.1.2, fun leg hleg => ?_, hudp.1.1.1.1, fun echo hecho => ?_, hnodup⟩
  · have hok := hlegs leg hleg
    simp only [legOk, Bool.and_eq_true, decide_eq_true_eq] at hok
    exact hok.1.1.1.1
  · obtain ⟨sentUs, hsent, -, hreceived⟩ := hechoes echo hecho
    exact ⟨sentUs, hsent, hreceived⟩

/-- Every echo has a round trip. -/
theorem length_rtts (h : InOrder s) : s.udp.rtts.length = s.udp.echoes.length := by
  have hall : ∀ echoes : List UdpEcho,
      (∀ echo ∈ echoes, ∃ sentUs, s.udp.sentUs[echo.sequence]? = some sentUs) →
        (echoes.filterMap fun echo => s.udp.sentUs[echo.sequence]?.map
          fun sent => echo.receivedUs - sent).length = echoes.length := by
    intro echoes
    induction echoes with
    | nil => exact fun _ => rfl
    | cons echo echoes ih =>
      intro hsent
      obtain ⟨sentUs, hecho⟩ := hsent echo List.mem_cons_self
      rw [List.filterMap_cons_some (by rw [hecho]; rfl), List.length_cons, List.length_cons,
        ih fun e he => hsent e (List.mem_cons_of_mem _ he)]
  exact hall s.udp.echoes fun echo hecho => (h.echoes echo hecho).imp fun _ hsent => hsent.1

theorem rtts_le (h : InOrder s) : ∀ rtt ∈ s.udp.rtts, rtt ≤ 3000000 := by
  intro rtt hrtt
  obtain ⟨echo, hecho, hmap⟩ := List.mem_filterMap.mp hrtt
  obtain ⟨sentUs, -, rfl⟩ := Option.map_eq_some_iff.mp hmap
  obtain ⟨-, -, hreceived⟩ := h.echoes echo hecho
  exact (Nat.sub_le _ _).trans (hreceived.trans h.duration)

theorem lt_of_getElem? (h : InOrder s) {echo : UdpEcho} (hecho : echo ∈ s.udp.echoes) :
    echo.sequence < s.udp.sentUs.length := by
  obtain ⟨sentUs, hsent, -⟩ := h.echoes echo hecho
  exact (List.getElem?_eq_some_iff.mp hsent).1

/-- The echoes answer datagrams that were sent, each a different one. -/
theorem echoed_subset (h : InOrder s) :
    (s.udp.echoes.map UdpEcho.sequence).toFinset ⊆ Finset.range s.udp.sentUs.length := by
  intro i hi
  obtain ⟨echo, hecho, rfl⟩ := List.mem_map.mp (List.mem_toFinset.mp hi)
  exact Finset.mem_range.mpr (lt_of_getElem? h hecho)

theorem card_echoed (h : InOrder s) :
    (s.udp.echoes.map UdpEcho.sequence).toFinset.card = s.udp.echoes.length := by
  rw [List.toFinset_card_of_nodup h.sequences, List.length_map]

/-- There are as many echoes as datagrams exactly if each one was echoed. -/
theorem length_eq_iff_echoed (h : InOrder s) :
    s.udp.echoes.length = s.udp.sentUs.length
      ↔ ∀ i < s.udp.sentUs.length, ∃ echo ∈ s.udp.echoes, echo.sequence = i := by
  constructor
  · intro heq i hi
    have hall := Finset.eq_of_subset_of_card_le (echoed_subset h)
      (by rw [Finset.card_range, card_echoed h, heq])
    have hmem := hall ▸ Finset.mem_range.mpr hi
    exact List.mem_map.mp (List.mem_toFinset.mp hmem)
  · intro hall
    have hsub : Finset.range s.udp.sentUs.length
        ⊆ (s.udp.echoes.map UdpEcho.sequence).toFinset := by
      intro i hi
      exact List.mem_toFinset.mpr (List.mem_map.mpr (hall i (Finset.mem_range.mp hi)))
    rw [← card_echoed h, (echoed_subset h).antisymm hsub, Finset.card_range]

/-- **What the figures say.** -/
structure Figures (s : NetworkSampleV1) (m : NetworkMetrics) : Prop where
  /-- The two quantiles are in order and within the round trips. -/
  quantiles : (s.udp.rtts = [] ∧ m.medianRttUs = none ∧ m.p90RttUs = none)
    ∨ ∃ low ∈ s.udp.rtts, ∃ high ∈ s.udp.rtts, ∃ median p90,
      m.medianRttUs = some median ∧ m.p90RttUs = some p90
        ∧ (∀ rtt ∈ s.udp.rtts, low ≤ rtt ∧ rtt ≤ high)
        ∧ low ≤ median ∧ median ≤ p90 ∧ p90 ≤ high
  /-- The loss is a share, and zero exactly if every datagram was echoed. -/
  loss : (s.udp.sentUs = [] ∧ m.lossBps = none)
    ∨ ∃ loss, m.lossBps = some loss ∧ loss ≤ 10000
      ∧ (loss = 0 ↔ ∀ i < s.udp.sentUs.length, ∃ echo ∈ s.udp.echoes, echo.sequence = i)
  /-- The jitter is at most the largest difference of two round trips in a
  row. -/
  jitter : (s.udp.rtts.length < 2 ∧ m.jitterUs = none)
    ∨ ∃ jitter, m.jitterUs = some jitter
      ∧ ∃ p ∈ s.udp.rtts.zip s.udp.rtts.tail, jitter ≤ ((p.2 : ℤ) - p.1).natAbs
        ∧ StepsWithin ((p.2 : ℤ) - p.1).natAbs s.udp.rtts
  /-- A rate is that of the largest transfer. -/
  rates : ∀ download, (s.measured download = []
      ∧ (if download then m.downloadKbps else m.uploadKbps) = none)
    ∨ ∃ leg ∈ s.measured download,
      (if download then m.downloadKbps else m.uploadKbps)
        = some (leg.bytes * 8000 / leg.durationUs)
        ∧ ∀ other ∈ s.measured download, other.id.bytes ≤ leg.id.bytes

/-- **No step fails.** -/
theorem deriveMetricsChecked_eq (h : InOrder s) :
    s.deriveMetricsChecked = some s.deriveMetrics := by
  obtain ⟨previous, htrips⟩ := roundTrips_eq (rtts_le h)
  have hsmall : ∀ rtt ∈ s.udp.rtts.insertionSort (· ≤ ·), rtt ≤ 3000000 :=
    fun rtt hrtt => rtts_le h rtt ((List.mem_insertionSort _).mp hrtt)
  have hlength : (s.udp.rtts.insertionSort (· ≤ ·)).length ≤ 20 := by
    rw [List.length_insertionSort, length_rtts h, ← card_echoed h]
    exact (Finset.card_le_card (echoed_subset h)).trans (by rw [Finset.card_range]; exact h.sent)
  obtain ⟨hjitter, -⟩ := jitterOf_bounds (close_of_le (rtts_le h)) le_rfl
    (show (0 : ℤ) ≤ 16 * (3000000 : ℕ) + 7 by omega)
  have hjitterChecked : jitterChecked (s.udp.rtts.insertionSort (· ≤ ·)) (jitterOf 0 s.udp.rtts)
      = some s.deriveMetrics.jitterUs := by
    unfold jitterChecked deriveMetrics
    dsimp only
    split
    · rfl
    · rw [if_pos (by omega)]
  have hloss : lossChecked s.udp.sentUs.length (s.udp.rtts.insertionSort (· ≤ ·)).length
      = some s.deriveMetrics.lossBps := by
    rw [lossChecked_eq h.sent]
    unfold deriveMetrics
    dsimp only
    cases s.udp.sentUs with
    | nil | cons sentUs rest => rfl
  unfold deriveMetricsChecked
  simp only [Option.bind_eq_bind]
  rw [htrips, Option.bind_some]
  dsimp only
  rw [medianChecked_eq hsmall, Option.bind_some, rateChecked_eq h.bytes, Option.bind_some,
    rateChecked_eq h.bytes, Option.bind_some, p90Checked_eq hlength, Option.bind_some,
    hjitterChecked, Option.bind_some, hloss]
  rfl

theorem figures (h : InOrder s) : Figures s s.deriveMetrics := by
  refine ⟨?_, ?_, ?_, fun download => ?_⟩
  · -- the quantiles are places in the sorted list
    by_cases hempty : s.udp.rtts = []
    · refine .inl ⟨hempty, ?_, ?_⟩
      · simp [deriveMetrics, hempty]
      · simp [deriveMetrics, hempty]
    · let sorted := s.udp.rtts.insertionSort (· ≤ ·)
      have hne : sorted ≠ [] := by
        grind [List.length_insertionSort, List.length_eq_zero_iff]
      have hnot : ¬ sorted.isEmpty = true := fun h => hne (List.isEmpty_iff.mp h)
      have hpos : 0 < sorted.length := List.length_pos_iff.mpr hne
      have hsorted : sorted.Pairwise (· ≤ ·) := List.pairwise_insertionSort (· ≤ ·) s.udp.rtts
      have hmem : ∀ i < sorted.length, sorted.getD i 0 ∈ s.udp.rtts := by
        intro i hi
        rw [List.getD_eq_getElem _ _ hi]
        exact (List.mem_insertionSort _).mp (List.getElem_mem hi)
      obtain ⟨hlow, hmiddle, hhigh⟩ := quantiles_in_order hsorted hne
      refine .inr ⟨_, hmem 0 hpos, _, hmem (sorted.length - 1) (by omega), rttMedian sorted,
        rttP90 sorted, if_neg hnot, if_neg hnot, fun rtt hrtt => ?_, hlow, hmiddle, hhigh⟩
      obtain ⟨i, hi, rfl⟩ := List.getElem_of_mem ((List.mem_insertionSort (· ≤ ·)).mpr hrtt)
      rw [← List.getD_eq_getElem _ 0 hi]
      have hlast : i ≤ sorted.length - 1 := Nat.le_sub_one_of_lt hi
      exact ⟨getD_le_getD hsorted (Nat.zero_le i) hi, getD_le_getD hsorted hlast (by omega)⟩
  · by_cases hempty : s.udp.sentUs = []
    · exact .inl ⟨hempty, by simp [deriveMetrics, hempty]⟩
    · have hpos : 0 < s.udp.sentUs.length := List.length_pos_iff.mpr hempty
      have hle : s.udp.echoes.length ≤ s.udp.sentUs.length := by
        rw [← card_echoed h, ← Finset.card_range s.udp.sentUs.length]
        exact Finset.card_le_card (echoed_subset h)
      obtain ⟨hshare, hzero⟩ := loss_bounds hpos h.sent hle
      have hloss : s.deriveMetrics.lossBps = some ((s.udp.sentUs.length - s.udp.echoes.length)
          * 10000 / s.udp.sentUs.length) := by
        unfold deriveMetrics
        dsimp only
        rw [if_neg (by rw [List.isEmpty_iff]; exact hempty), List.length_insertionSort,
          length_rtts h]
      exact .inr ⟨_, hloss, hshare, hzero.trans (length_eq_iff_echoed h)⟩
  · by_cases hfew : s.udp.rtts.length < 2
    · refine .inl ⟨hfew, if_pos ?_⟩
      rw [List.length_insertionSort]
      exact hfew
    · obtain ⟨p, hp, hclose⟩ := exists_close (Nat.le_of_not_lt hfew)
      obtain ⟨hlow, hhigh⟩ := jitterOf_bounds hclose le_rfl
        (show (0 : ℤ) ≤ 16 * ((p.2 : ℤ) - p.1).natAbs + 7 by omega)
      have hjitter : s.deriveMetrics.jitterUs = some (jitterOf 0 s.udp.rtts / 16).toNat := by
        unfold deriveMetrics
        dsimp only
        rw [if_neg (by rw [List.length_insertionSort]; exact hfew)]
      exact .inr ⟨_, hjitter, p, hp, by omega, hclose⟩
  · have hrate : (if download then s.deriveMetrics.downloadKbps else s.deriveMetrics.uploadKbps)
        = s.rate download := by cases download <;> rfl
    rw [hrate]
    obtain ⟨hnone, hsome⟩ := @maxByKey_spec _ (fun l => l.id.bytes) (s.measured download)
    show _ ∧ (maxByKey (fun l => l.id.bytes) (s.measured download)).map _ = none ∨ ∃ leg ∈ _,
      (maxByKey (fun l => l.id.bytes) (s.measured download)).map _ = _ ∧ _
    cases hmax : maxByKey (fun l => l.id.bytes) (s.measured download) with
    | none => exact .inl ⟨hnone.mp hmax, rfl⟩
    | some leg =>
      obtain ⟨hmem, hlargest⟩ := hsome leg hmax
      exact .inr ⟨leg, hmem, rfl, hlargest⟩

end NetworkSampleV1

open NetworkSampleV1 in
/-- **The figures of a sample whose records are in order.** No step of their
computation fails; the quantiles are in order and within the round trips, the
loss is a share that is zero exactly if every datagram has come back, the
jitter is at most the largest difference of two round trips in a row, and
each rate is that of the largest transfer of its direction. -/
theorem metrics_in_range (s : NetworkSampleV1) (h : s.recordsOk = true) :
    s.deriveMetricsChecked = some s.deriveMetrics ∧ Figures s s.deriveMetrics :=
  ⟨deriveMetricsChecked_eq (inOrder_of_recordsOk h), figures (inOrder_of_recordsOk h)⟩

/-- Three datagrams, two of which have come back. -/
def twoEchoes : NetworkSampleV1 :=
  { skippedSample 0 with
    durationMs := 1000
    udp := ⟨.succeeded, 0, 900000, [0, 100000, 200000], [⟨1, 150000⟩, ⟨0, 180000⟩], none⟩ }

theorem twoEchoes_metrics : twoEchoes.recordsOk = true
    ∧ twoEchoes.deriveMetricsChecked = some ⟨none, none, some 115000, some 180000, some 8125,
      some 3333⟩ := by
  have hrecords : twoEchoes.recordsOk = true := by decide +kernel
  refine ⟨hrecords, ?_⟩
  rw [(metrics_in_range twoEchoes hrecords).1]
  decide +kernel
