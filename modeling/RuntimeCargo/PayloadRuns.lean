import RuntimeCargo.PayloadDownload

/-!
# What a download brings

However often a download is interrupted, what the sink has taken is what was
hashed and what was counted, and it is never more than the artifact
(`payload_as_agreed`). Each request asks for what is still missing, under a
number that was not used before, and while the agreement is in force. So
when the download returns a payload the sink has the artifact that was
agreed on and nothing else.

There is one moment at which the sink is ahead: when a write fails, some of
the piece may have been taken. The download ends there, with an error, and
what is in the sink is not to be trusted.
-/

open Program

namespace Payload

/-- A call of the download and its reply. -/
abbrev Event := PayloadCall × PayloadReply

/-! ## What can be read off a trace -/

/-- What the sink takes at an event. -/
def taken (x : Event) : List UInt8 :=
  match x.1 with
  | .writeAll piece =>
    match x.2.written with
    | .written => piece
    | .failed n => piece.take n
  | _ => []

/-- What the sink has taken. -/
def received (t : List Event) : List UInt8 := t.flatMap taken

/-- The request that is sent at an event. -/
def askedAt (x : Event) : Option PayloadDownloadRequestV1 :=
  match x.1 with
  | .get _ envelope _ => some envelope.request
  | _ => none

/-- The requests that were sent. -/
def asked (t : List Event) : List PayloadDownloadRequestV1 := t.filterMap askedAt

/-- The numbers under which they were sent. -/
def askedNonces (t : List Event) : List String := (asked t).map (·.nonce)

/-- What the clock says, where it is read. -/
def clockAt (x : Event) : Option (Option ℕ) :=
  match x.1 with
  | .unixTimeMs => some x.2.ms
  | _ => none

/-- **The agreement is in force**, by the last reading of the clock. -/
def InForce (context : PayloadContext) (t : List Event) : Prop :=
  ∃ ms : ℕ, (t.filterMap clockAt).getLast? = some (some ms)
    ∧ (ms : ℤ) < context.binding.authorizationExpiresAtMs

/-- **A request as it should be**, after what came before it. -/
structure AsksRightly (context : PayloadContext) (policy : PayloadTransferPolicy)
    (before : List Event) (request : PayloadDownloadRequestV1) (header : Option String) :
    Prop where
  /-- It asks for what is missing: everything, or all bytes from the first
  one that is missing to the last. -/
  range : request.range = if received before = [] then .whole
    else .bytes (received before).length (context.descriptor.artifactSizeBytes - 1)
  /-- The header says the same. -/
  header : header = request.range.header
  /-- Its number is new. -/
  fresh : request.nonce ∉ askedNonces before
  /-- There were fewer before it than there may be. -/
  room : (asked before).length < policy.maxAttempts
  inForce : InForce context before

/-- What has to hold at each event. -/
def Heeds (context : PayloadContext) (policy : PayloadTransferPolicy) (before : List Event)
    (x : Event) : Prop :=
  match x.1 with
  | .get _ envelope header => AsksRightly context policy before envelope.request header
  | _ => True

/-- **A write has failed**: it was the last thing that was done, and what
was taken before it was hashed. -/
def BrokenOff (t : List Event) (s : Payload) : Prop :=
  ∃ before piece r, t = before ++ [(.writeAll piece, r)] ∧ r.written ≠ .written
    ∧ received before = s.hasher ∧ s.phase = .returned (.error .write)

/-- **The artifact was accepted**: the sink has all of it. -/
def Accepted (sha256 : List UInt8 → Digest) (context : PayloadContext) (t : List Event) : Prop :=
  (received t).length = context.descriptor.artifactSizeBytes
    ∧ "sha256:" ++ hexEncode (sha256 (received t)).toList = context.binding.artifactDigest
    ∧ InForce context t

section Append

variable {t : List Event} {x : Event}

theorem received_append (hx : taken x = []) : received (t ++ [x]) = received t := by
  rw [received, List.flatMap_append, List.flatMap_singleton, hx, List.append_nil]
  rfl

variable {r : PayloadReply}

theorem received_append_write {piece : List UInt8} (hr : r.written = .written) :
    received (t ++ [(.writeAll piece, r)]) = received t ++ piece := by
  have htaken : taken (.writeAll piece, r) = piece := by
    simp only [taken, hr]
  rw [received, List.flatMap_append, List.flatMap_singleton, htaken]
  rfl

theorem asked_append (hx : askedAt x = none) : asked (t ++ [x]) = asked t := by
  rw [asked, List.filterMap_append, List.filterMap_cons_none hx]
  exact List.append_nil _

theorem asked_append_get {url : String} {envelope : SignedPayloadDownloadRequestV1}
    {header : Option String} :
    asked (t ++ [(.get url envelope header, r)]) = asked t ++ [envelope.request] :=
  List.filterMap_append

theorem inForce_append {context : PayloadContext} (h : InForce context t) (hx : clockAt x = none) :
    InForce context (t ++ [x]) := by
  obtain ⟨ms, hlast, hms⟩ := h
  refine ⟨ms, ?_, hms⟩
  rw [List.filterMap_append, List.filterMap_cons_none hx, List.filterMap_nil, List.append_nil]
  exact hlast

/-- What is decided after a reading of the clock. -/
theorem inForce_append_time {context : PayloadContext} {nowMs : ℤ}
    (hnow : payloadNow r.ms = .ok nowMs) (hlt : nowMs < context.binding.authorizationExpiresAtMs) :
    InForce context (t ++ [(.unixTimeMs, r)]) := by
  have hsome : (r.ms.map Int.ofNat).bind inI64 = some nowMs := Option.okOr_eq_ok.mp hnow
  obtain ⟨n, hn, hkept⟩ := Option.bind_eq_some_iff.mp hsome
  obtain ⟨ms, hms, rfl⟩ := Option.map_eq_some_iff.mp hn
  have heq : (ms : ℤ) = nowMs := by
    unfold inI64 at hkept
    split at hkept
    · exact Option.some.inj hkept
    · cases hkept
  refine ⟨ms, ?_, by rw [heq]; exact hlt⟩
  have hlast : [(PayloadCall.unixTimeMs, r)].filterMap clockAt = [some ms] := by
    rw [← hms]
    rfl
  rw [List.filterMap_append, hlast, List.getLast?_concat]

end Append

/-! ## What holds between the turns -/

section Runs

variable {sha256 : List UInt8 → Digest} {fromStr : String → Option Json}
  {fromSlice : String → Option SignedPayloadDownloadRequestV1}
  {context : PayloadContext} {policy : PayloadTransferPolicy} {s : Payload} {t : List Event}
  {left : ℕ}

/-- **While the download goes on**, with so many requests left: the sink, the
hasher and the counter agree. -/
structure Goes (context : PayloadContext) (policy : PayloadTransferPolicy) (s : Payload)
    (t : List Event) (left : ℕ) : Prop where
  counted : s.offset = s.hasher.length
  bounded : s.offset ≤ context.descriptor.artifactSizeBytes
  sink : received t = s.hasher
  known : ∀ nonce ∈ askedNonces t, nonce ∈ s.nonces
  distinct : (askedNonces t).Nodup
  room : (asked t).length + left ≤ policy.maxAttempts

/-- **After it has returned.** -/
structure Ended (sha256 : List UInt8 → Digest) (context : PayloadContext)
    (policy : PayloadTransferPolicy) (s : Payload) (t : List Event)
    (result : Except PayloadError VerifiedPayload) : Prop where
  counted : s.offset = s.hasher.length
  bounded : s.offset ≤ context.descriptor.artifactSizeBytes
  sink : received t = s.hasher ∨ BrokenOff t s
  distinct : (askedNonces t).Nodup
  room : (asked t).length ≤ policy.maxAttempts
  accepted : ∀ v, result = .ok v → Accepted sha256 context t

/-- What holds between two turns. -/
def Tracks (sha256 : List UInt8 → Digest) (context : PayloadContext)
    (policy : PayloadTransferPolicy) (s : Payload) (t : List Event) : Prop :=
  match s.phase with
  | .starting => Goes context policy s t policy.maxAttempts
  | .head left | .reading left _ => Goes context policy s t left
  | .returned result => Ended sha256 context policy s t result

/-- An error may be returned at any time. -/
theorem Goes.fails (h : Goes context policy s t left) (e : PayloadError) :
    Tracks sha256 context policy (s.fails e) t :=
  show Ended sha256 context policy (s.fails e) t (.error e) from
    ⟨h.counted, h.bounded, .inl h.sink, h.distinct, by have := h.room; omega, nofun⟩

/-- A call that neither asks nor writes changes nothing. -/
theorem Goes.append (h : Goes context policy s t left) {x : Event} (htaken : taken x = [])
    (hasked : askedAt x = none) : Goes context policy s (t ++ [x]) left where
  counted := h.counted
  bounded := h.bounded
  sink := (received_append htaken).trans h.sink
  known := by rw [askedNonces, asked_append hasked]; exact h.known
  distinct := by rw [askedNonces, asked_append hasked]; exact h.distinct
  room := by rw [asked_append hasked]; exact h.room

/-- The next attempt. -/
theorem Goes.head (h : Goes context policy s t left) (started : ℕ) :
    Tracks sha256 context policy { s with started := started, phase := .head left } t :=
  show Goes context policy { s with started := started, phase := .head left } t left from
    ⟨h.counted, h.bounded, h.sink, h.known, h.distinct, h.room⟩

/-! ## The parts of a turn -/

/-- A part that heeds what has to hold, and ends between two turns. -/
abbrev Keeps (sha256 : List UInt8 → Digest) (context : PayloadContext)
    (policy : PayloadTransferPolicy) (p : Program PayloadCall PayloadReply Payload)
    (t : List Event) : Prop :=
  Follows (Heeds context policy) p t (Tracks sha256 context policy)

/-- The calls that neither ask nor write. -/
def plain : PayloadCall → Bool
  | .get .. | .writeAll _ => false
  | _ => true

theorem Goes.call {c : PayloadCall} {f : PayloadReply → Program PayloadCall PayloadReply Payload}
    (h : Goes context policy s t left) (hc : plain c = true)
    (hf : ∀ r, Goes context policy s (t ++ [(c, r)]) left →
      Keeps sha256 context policy (f r) (t ++ [(c, r)])) :
    Keeps sha256 context policy (perform c >>= f) t := by
  cases c with
  | get | writeAll => cases hc
  | _ => exact follows_call (fun _ => trivial) fun r => hf r (h.append rfl rfl)

theorem follows_orFail {α : Type} (h : Goes context policy s t left) {x : Except PayloadError α}
    {f : α → Program PayloadCall PayloadReply Payload}
    (hok : ∀ a, x = .ok a → Keeps sha256 context policy (f a) t) :
    Keeps sha256 context policy (s.orFail x f) t := by
  cases x with
  | error e => exact follows_pure (h.fails e)
  | ok a => exact hok a rfl

theorem follows_pause (h : Goes context policy s t left) :
    Keeps sha256 context policy (s.pause policy left) t := by
  refine h.call rfl fun r h₁ => ?_
  exact h₁.call rfl fun r' h₂ => follows_pure (h₂.head s.started)

theorem follows_start (h : Goes context policy s t policy.maxAttempts) :
    Keeps sha256 context policy (s.start fromStr context policy) t := by
  unfold start
  split
  · exact follows_pure (h.fails _)
  · refine h.call rfl fun r h₁ => ?_
    refine follows_orFail h₁ fun found _ => ?_
    dsimp only
    split
    · exact follows_pure (h₁.fails _)
    · refine follows_orFail h₁ fun job _ => ?_
      split
      · exact follows_pure (h₁.fails _)
      · exact h₁.call rfl fun r' h₂ => follows_pure (h₂.head _)

variable {request : PayloadDownloadRequestV1} {envelope : SignedPayloadDownloadRequestV1}

/-- What a request that was made has in it. -/
theorem request_eq_ok {range : PayloadDownloadRangeV1} {nowMs : ℤ} {nonce : String}
    (h : context.request range nowMs nonce = .ok request) :
    request.range = range ∧ request.nonce = nonce
      ∧ request.expiresAtMs ≤ context.binding.authorizationExpiresAtMs := by
  obtain ⟨-, h₁⟩ := require_bind_eq_ok.mp h
  obtain ⟨expires, -, h₂⟩ := Option.okOr_bind_eq_ok.mp h₁
  obtain ⟨-, -, h₃⟩ := Except.bind_eq_ok.mp h₂
  cases h₃
  exact ⟨rfl, rfl, min_le_right _ _⟩

/-- A request that may be sent has not expired. -/
theorem lt_of_validateTransport {method target : String} {header : Option String} {nowMs : ℤ}
    (h : (request.validateTransport method target header nowMs).orRefusal = .ok ()) :
    nowMs < request.expiresAtMs := by
  have hok : request.validateTransport method target header nowMs = .ok () := by
    cases hx : request.validateTransport method target header nowMs with
    | error e => rw [hx] at h; cases h
    | ok u => rfl
  obtain ⟨-, -, h₁⟩ := Except.bind_eq_ok.mp hok
  obtain ⟨-, h₂⟩ := require_bind_eq_ok.mp h₁
  obtain ⟨-, h₃⟩ := require_bind_eq_ok.mp h₂
  obtain ⟨range, -, h₄⟩ := Except.bind_eq_ok.mp h₃
  obtain ⟨-, h₅⟩ := require_bind_eq_ok.mp h₄
  obtain ⟨-, h₆⟩ := require_bind_eq_ok.mp h₅
  exact require_eq_ok.mp h₆

/-- After a request there is one less to send. -/
theorem Goes.asked (h : Goes context policy s t (left + 1)) (url : String)
    (header : Option String) (r : PayloadReply) (hfresh : envelope.request.nonce ∉ askedNonces t)
    (hknown : envelope.request.nonce ∈ s.nonces) :
    Goes context policy s (t ++ [(.get url envelope header, r)]) left where
  counted := h.counted
  bounded := h.bounded
  sink := (received_append rfl).trans h.sink
  known := by
    rw [askedNonces, asked_append_get, List.map_append]
    intro nonce hnonce
    cases List.mem_append.mp hnonce with
    | inl hbefore => exact h.known nonce hbefore
    | inr hlast =>
      rw [List.mem_singleton.mp hlast]
      exact hknown
  distinct := by
    have hnonces : askedNonces (t ++ [(.get url envelope header, r)])
        = (askedNonces t).concat envelope.request.nonce := by
      rw [askedNonces, asked_append_get, List.map_append, List.concat_eq_append]
      rfl
    rw [hnonces]
    exact h.distinct.concat hfresh
  room := by
    rw [asked_append_get, List.length_append]
    have hroom := h.room
    show (Payload.asked t).length + 1 + left ≤ _
    omega

theorem follows_send (h : Goes context policy s t (left + 1))
    (hrange : envelope.request.range = s.missing context)
    (hexpires : envelope.request.expiresAtMs ≤ context.binding.authorizationExpiresAtMs)
    (hfresh : envelope.request.nonce ∉ askedNonces t) (hknown : envelope.request.nonce ∈ s.nonces) :
    Keeps sha256 context policy (s.send fromSlice context policy left envelope) t := by
  refine follows_orFail h fun _ _ => ?_
  refine h.call rfl fun r h₁ => ?_
  refine follows_orFail h₁ fun nowMs hnow => ?_
  refine follows_orFail h₁ fun _ hvalid => ?_
  have hfresh₁ : envelope.request.nonce ∉ askedNonces (t ++ [(.unixTimeMs, r)]) := by
    rw [askedNonces, asked_append rfl]
    exact hfresh
  have hlt := (lt_of_validateTransport hvalid).trans_le hexpires
  -- what is missing, by what the sink has taken
  have hmissing : envelope.request.range
      = if received (t ++ [(.unixTimeMs, r)]) = [] then .whole
        else .bytes (received (t ++ [(.unixTimeMs, r)])).length
          (context.descriptor.artifactSizeBytes - 1) := by
    rw [hrange, h₁.sink, missing, h₁.counted]
    exact if_congr List.length_eq_zero_iff rfl rfl
  have hasks : AsksRightly context policy (t ++ [(.unixTimeMs, r)]) envelope.request
      envelope.request.range.header :=
    ⟨hmissing, rfl, hfresh₁, by have := h₁.room; omega, inForce_append_time hnow hlt⟩
  refine follows_call (fun _ => hasks) fun r' => ?_
  have h₂ := h₁.asked (context.origin ++ envelope.request.requestTarget)
    envelope.request.range.header r' hfresh₁ hknown
  dsimp only
  split
  · exact follows_pause h₂
  · exact follows_pure (h₂.fails _)
  · split
    · exact follows_pause h₂
    · refine follows_orFail h₂ fun _ _ => follows_pure ?_
      exact ⟨h₂.counted, h₂.bounded, h₂.sink, h₂.known, h₂.distinct, h₂.room⟩

theorem follows_sign (h : Goes context policy s t (left + 1)) {nonce : String}
    (hfresh : nonce ∉ askedNonces t) (hknown : nonce ∈ s.nonces) :
    Keeps sha256 context policy (s.sign fromSlice context policy left nonce) t := by
  refine h.call rfl fun r h₁ => ?_
  refine follows_orFail h₁ fun nowMs _ => ?_
  refine follows_orFail h₁ fun request hrequest => ?_
  obtain ⟨hrange, rfl, hexpires⟩ := request_eq_ok hrequest
  refine follows_orFail h₁ fun message _ => ?_
  refine h₁.call rfl fun r' h₂ => ?_
  refine follows_orFail h₂ fun signature _ => ?_
  refine follows_send h₂ hrange hexpires ?_ hknown
  rw [askedNonces, asked_append rfl, asked_append rfl]
  exact hfresh

theorem follows_attempt (h : Goes context policy s t (left + 1)) :
    Keeps sha256 context policy (s.attempt fromSlice context policy left) t := by
  refine h.call rfl fun r h₁ => ?_
  dsimp only
  split
  · exact follows_pure (h₁.fails _)
  · refine h₁.call rfl fun r' h₂ => ?_
    refine follows_orFail h₂ fun random _ => ?_
    split
    · exact follows_pure (h₂.fails _)
    next hnew =>
      have h₃ : Goes context policy { s with nonces := hexEncode random.toList :: s.nonces }
          (t ++ [(.elapsed, r)] ++ [(.fillRandom, r')]) (left + 1) :=
        ⟨h₂.counted, h₂.bounded, h₂.sink,
          fun nonce hnonce => List.mem_cons_of_mem _ (h₂.known nonce hnonce), h₂.distinct, h₂.room⟩
      exact follows_sign h₃ (fun hmem => hnew (h₂.known _ hmem)) List.mem_cons_self

/-- What was read fits into what is missing. -/
theorem length_piece_le {r : PayloadReply} {count : ℕ} {piece : List UInt8}
    (h : r.piece count = some piece) : piece.length ≤ count := by
  unfold PayloadReply.piece at h
  split at h
  · obtain ⟨bytes, -, rfl⟩ := Option.map_eq_some_iff.mp h
    exact List.length_take_le count bytes
  · cases h

theorem follows_take (h : Goes context policy s t left) {piece : List UInt8}
    (hfits : s.offset + piece.length ≤ context.descriptor.artifactSizeBytes) :
    Keeps sha256 context policy (s.take left request piece) t := by
  refine follows_call (fun _ => trivial) fun r => ?_
  split
  next n hfailed =>
    refine follows_pure ?_
    have hasked := asked_append (t := t) (x := (.writeAll piece, r)) rfl
    have hbroken : BrokenOff (t ++ [(.writeAll piece, r)]) (s.fails .write) :=
      ⟨t, piece, r, rfl, by rw [hfailed]; nofun, h.sink, rfl⟩
    show Ended sha256 context policy (s.fails .write) _ (.error .write)
    refine ⟨h.counted, h.bounded, .inr hbroken, ?_, ?_, nofun⟩
    · rw [askedNonces, hasked]
      exact h.distinct
    · rw [hasked]
      exact Nat.le_of_add_right_le h.room
  next hwritten =>
    refine follows_pure ?_
    have hasked := asked_append (t := t) (x := (.writeAll piece, r)) rfl
    -- the piece is taken, hashed and counted
    refine ⟨?_, hfits, ?_, ?_, ?_, ?_⟩
    · show s.offset + piece.length = (s.hasher ++ piece).length
      rw [List.length_append, h.counted]
    · show _ = s.hasher ++ piece
      rw [received_append_write hwritten, h.sink]
    · rw [askedNonces, hasked]
      exact h.known
    · rw [askedNonces, hasked]
      exact h.distinct
    · rw [hasked]
      exact h.room

theorem follows_readPiece (h : Goes context policy s t left) :
    Keeps sha256 context policy (s.readPiece context policy left request) t := by
  refine h.call rfl fun r h₁ => ?_
  refine follows_orFail h₁ fun nowMs _ => ?_
  split
  · exact follows_pure (h₁.fails _)
  · split
    · exact follows_pause h₁
    · exact follows_pure (h₁.fails _)
    · refine h₁.call rfl fun r' h₂ => ?_
      dsimp only
      split
      · exact follows_pure (h₂.fails _)
      · refine h₂.call rfl fun r'' h₃ => ?_
        split
        · exact follows_pause h₃
        · exact follows_pause h₃
        next piece hpiece =>
          refine follows_take h₃ ?_
          have hlength := length_piece_le hpiece
          have hbounded := h.bounded
          omega

theorem follows_accept (h : Goes context policy s t left)
    (hall : context.descriptor.artifactSizeBytes - s.offset = 0) (hforce : InForce context t) :
    Keeps sha256 context policy (s.accept sha256 context) t := by
  unfold accept
  split
  · exact follows_pure (h.fails _)
  next hdigest =>
    refine h.call rfl fun r h₁ => ?_
    split
    · exact follows_pure (h₁.fails _)
    · refine follows_pure ?_
      have hlength : s.hasher.length = context.descriptor.artifactSizeBytes := by
        have hcounted := h.counted
        have hbounded := h.bounded
        omega
      refine ⟨h₁.counted, h₁.bounded, .inl h₁.sink, h₁.distinct, Nat.le_of_add_right_le h₁.room,
        fun v _ => ⟨?_, ?_, inForce_append hforce rfl⟩⟩
      · rw [h₁.sink]
        exact hlength
      · rw [h₁.sink]
        exact not_not.mp hdigest

theorem follows_finish (h : Goes context policy s t left)
    (hall : context.descriptor.artifactSizeBytes - s.offset = 0) :
    Keeps sha256 context policy (s.finish sha256 context request) t := by
  refine h.call rfl fun r h₁ => ?_
  split
  · exact follows_pure (h₁.fails _)
  · exact follows_pure (h₁.fails _)
  · refine h₁.call rfl fun r' h₂ => ?_
    refine follows_orFail h₂ fun nowMs hnow => ?_
    split
    · exact follows_pure (h₂.fails _)
    next hnot =>
      have hforce := inForce_append_time (t := t ++ [(.read 1, r)]) hnow (not_le.mp hnot)
      split
      · exact follows_accept h₂ hall hforce
      · exact follows_accept h₂ hall hforce
      · exact follows_pure (h₂.fails _)

theorem follows_turn (h : Tracks sha256 context policy s t) :
    Keeps sha256 context policy (s.turn sha256 fromStr fromSlice context policy) t := by
  have hgoes := h
  unfold Tracks at hgoes
  unfold turn
  generalize s.phase = phase at hgoes ⊢
  match phase, hgoes with
  | .starting, hgoes => exact follows_start hgoes
  | .head 0, hgoes => exact follows_pure (hgoes.fails _)
  | .head (left + 1), hgoes => exact follows_attempt hgoes
  | .reading left request, hgoes =>
    dsimp only
    split_ifs with hall
    · exact follows_finish hgoes hall
    · exact follows_readPiece hgoes
  | .returned result, _ => exact follows_pure h

/-- **A download keeps to what was agreed on**, however it goes. After any
number of turns what was counted is what was hashed, and no more than the
artifact; the sink has taken exactly that, unless a write has failed, which
ends the download. Each request asks for what was missing, under a new
number and in time, and there are no more of them than there may be. When a
payload is returned, the sink has the artifact. -/
theorem payload_as_agreed (sha256 : List UInt8 → Digest) (fromStr : String → Option Json)
    (fromSlice : String → Option SignedPayloadDownloadRequestV1) (context : PayloadContext)
    (policy : PayloadTransferPolicy) (s : Payload) (t : List Event)
    (h : Turns (turn sha256 fromStr fromSlice context policy) initial t s) :
    (s.offset = s.hasher.length ∧ s.offset ≤ context.descriptor.artifactSizeBytes
        ∧ (received t = s.hasher ∨ BrokenOff t s))
      ∧ Along (Heeds context policy) [] t
      ∧ (asked t).length ≤ policy.maxAttempts ∧ (askedNonces t).Nodup
      ∧ ∀ v, s.phase = .returned (.ok v) → Accepted sha256 context t := by
  have hstart : Tracks sha256 context policy initial [] :=
    show Goes context policy initial [] policy.maxAttempts from
      ⟨rfl, Nat.zero_le _, rfl, nofun, List.nodup_nil, (Nat.zero_add _).le⟩
  obtain ⟨halong, htracks⟩ := h.follows (fun _ _ hs => follows_turn hs) hstart
  unfold Tracks at htracks
  split at htracks
  case h_1 hphase | h_2 _ hphase | h_3 _ _ hphase =>
    exact ⟨⟨htracks.counted, htracks.bounded, .inl htracks.sink⟩, halong,
      Nat.le_of_add_right_le htracks.room, htracks.distinct, by rw [hphase]; nofun⟩
  next result hphase =>
    refine ⟨⟨htracks.counted, htracks.bounded, htracks.sink⟩, halong, htracks.room,
      htracks.distinct, fun v hv => htracks.accepted v ?_⟩
    rw [hphase] at hv
    exact PayloadPhase.returned.inj hv

end Runs

end Payload

/-! ## An artifact of two bytes -/

namespace PayloadSample

open Payload

/-- The hash of the artifact. -/
def artifactHash : Digest :=
  #v[161, 40, 113, 254, 226, 16, 251, 134, 25, 41, 30, 174, 161, 148, 88, 28, 189, 37, 49, 228,
    178, 55, 89, 210, 37, 246, 128, 105, 35, 246, 50, 34]

def zeros : Digest := Vector.replicate 32 0

def sha256 (bytes : List UInt8) : Digest := if bytes = [1, 2] then artifactHash else zeros

def context : PayloadContext where
  origin := "https://payloads.example"
  binding :=
    { organisationId := "organisation"
      applicationUid := "application"
      job := ⟨"acurast", "0x" ++ hexEncode zeros.toList, "7"⟩
      processorId := "processor"
      runtimeInstanceId := "runtime"
      artifactDigest := "sha256:" ++ hexEncode artifactHash.toList
      launch := ⟨"launch", "sha256:" ++ hexEncode zeros.toList⟩
      workload := none
      authorizationExpiresAtMs := 1000000 }
  descriptorDigest := "sha256:" ++ hexEncode zeros.toList
  descriptor := ⟨2⟩

/-- The job, as the bridge has it. -/
def job : Json :=
  .arr [.obj [("kind", .str "Acurast"), ("source", .str ("0x" ++ hexEncode zeros.toList))], .num 7]

/-- One attempt. -/
def policy : PayloadTransferPolicy := ⟨1, 1, 0⟩

/-- The request for all of the artifact. -/
def request : PayloadDownloadRequestV1 where
  domain := payloadDownloadDomain
  method := "GET"
  requestTarget := payloadTarget context.binding.artifactDigest
  range := .whole
  artifactDigest := context.binding.artifactDigest
  organisationId := context.binding.organisationId
  applicationUid := context.binding.applicationUid
  job := context.binding.job
  processorId := context.binding.processorId
  runtimeInstanceId := context.binding.runtimeInstanceId
  launch := context.binding.launch
  workload := context.binding.workload
  issuedAtMs := 1000
  expiresAtMs := 61000
  nonce := hexEncode zeros.toList

def signature : String := hexEncode (zeros.toList ++ zeros.toList)

def envelope : SignedPayloadDownloadRequestV1 := ⟨request, signature⟩

def response : PayloadHttpResponse :=
  ⟨200, some 2, none, none, context.descriptorDigest, context.binding.artifactDigest⟩

/-- What the signer says. -/
def signed : Json := .obj [("bytes", .str ("0x" ++ signature))]

/-- All of it passes the checks. -/
theorem checks_sample :
    request.validate = .ok () ∧ request.validateBinding context.binding = .ok ()
      ∧ request.validateTransport "GET" request.requestTarget request.range.header 1000 = .ok ()
      ∧ context.validateResponse request response = .ok ()
      ∧ request.toJson.sizeBound ≤ maxPayloadDownloadEnvelopeBytes
      ∧ envelope.toJson.sizeBound ≤ maxPayloadDownloadEnvelopeBytes
      ∧ payloadSignature (some signed) = .ok signature
      ∧ bridgeJobRef (fun _ => some job) job.render = .ok context.binding.job := by decide +kernel

theorem request_sample :
    context.request .whole 1000 (hexEncode zeros.toList) = .ok request := by
  obtain ⟨-, hbinding, -⟩ := checks_sample
  refine require_bind_eq_ok.mpr ⟨by decide, ?_⟩
  refine Option.okOr_bind_eq_ok.mpr ⟨61000, by decide, ?_⟩
  refine Except.bind_eq_ok.mpr ⟨(), ?_, rfl⟩
  show (request.validateBinding context.binding).orRefusal = _
  rw [hbinding]
  rfl

theorem message_sample : request.message = .ok request.toJson.render := by
  obtain ⟨hvalid, -, -, -, hsize, -⟩ := checks_sample
  refine Except.bind_eq_ok.mpr ⟨(), hvalid, ?_⟩
  exact require_bind_eq_ok.mpr ⟨(Json.size_le_sizeBound _).trans hsize, rfl⟩

theorem parse_sample : SignedPayloadDownloadRequestV1.parse (fun _ => some envelope)
    (SignedPayloadDownloadRequestV1.mk request signature).toJson.render = .ok envelope := by
  obtain ⟨hvalid, -, -, -, -, hsize, -⟩ := checks_sample
  refine require_bind_eq_ok.mpr ⟨(Json.size_le_sizeBound _).trans hsize, ?_⟩
  refine Option.okOr_bind_eq_ok.mpr ⟨envelope, rfl, ?_⟩
  refine Except.bind_eq_ok.mpr ⟨(), hvalid, ?_⟩
  exact require_bind_eq_ok.mpr ⟨isLowerHex_hexEncode (zeros.toList ++ zeros.toList), rfl⟩

/-- The turns of the download. -/
def turn : Payload → Program PayloadCall PayloadReply Payload :=
  Payload.turn sha256 (fun _ => some job) (fun _ => some envelope) context policy

/-- The request was sent. -/
def sent : Payload := ⟨0, [], 0, [hexEncode zeros.toList], .reading 0 request⟩

/-- What is done until the response is there. -/
def asking : List Event :=
  [(.discoverIdentity, .identity (some ("processor", job.render))), (.elapsed, .duration 0),
    (.elapsed, .duration 0), (.fillRandom, .random (some zeros)), (.unixTimeMs, .time (some 1000)),
    (.signerSign request.toJson.render, .signed (some signed)), (.unixTimeMs, .time (some 1000)),
    (.get (context.origin ++ request.requestTarget) envelope none, .response (.ok response))]

theorem yields_orFail {α : Type} {s s' : Payload} {x : Except PayloadError α} {a : α}
    {f : α → Program PayloadCall PayloadReply Payload} {t : List Event} (hx : x = .ok a)
    (h : Yields (f a) t s') : Yields (s.orFail x f) t s' := by
  rw [hx]
  exact h

theorem payloadNow_sample : payloadNow (some 1000) = .ok 1000 := by decide

theorem yields_start :
    Yields (turn initial) (asking.take 2) ⟨0, [], 0, [], .head 1⟩ := by
  obtain ⟨-, -, -, -, -, -, -, hjob⟩ := checks_sample
  refine yields_perform_bind.mpr ⟨_, _, rfl, ?_⟩
  refine yields_orFail (a := ("processor", job.render)) rfl ?_
  have hsame : ¬ "processor" ≠ context.binding.processorId := not_not.mpr rfl
  dsimp only
  rw [if_neg hsame]
  refine yields_orFail hjob ?_
  rw [if_neg (not_not.mpr rfl)]
  exact yields_perform_bind.mpr ⟨_, _, rfl, yields_pure.mpr ⟨rfl, rfl⟩⟩

theorem yields_attempt : Yields (turn ⟨0, [], 0, [], .head 1⟩) (asking.drop 2) sent := by
  obtain ⟨-, -, htransport, hresponse, -, -, hsigned, -⟩ := checks_sample
  refine .call ?_
  refine yields_perform_bind.mpr ⟨_, _, rfl, ?_⟩
  refine yields_orFail (a := zeros) rfl ?_
  rw [if_neg List.not_mem_nil]
  refine yields_perform_bind.mpr ⟨_, _, rfl, ?_⟩
  refine yields_orFail payloadNow_sample ?_
  refine yields_orFail request_sample ?_
  refine yields_orFail (congrArg Except.orRefusal message_sample) ?_
  refine yields_perform_bind.mpr ⟨_, _, rfl, ?_⟩
  refine yields_orFail hsigned ?_
  unfold send
  refine yields_orFail (congrArg Except.orRefusal parse_sample) ?_
  refine yields_perform_bind.mpr ⟨_, _, rfl, ?_⟩
  refine yields_orFail payloadNow_sample ?_
  refine yields_orFail (congrArg Except.orRefusal htransport) ?_
  refine yields_perform_bind.mpr ⟨_, _, rfl, ?_⟩
  dsimp only [PayloadReply.outcome]
  rw [if_neg (by decide)]
  exact yields_orFail hresponse (yields_pure.mpr ⟨rfl, rfl⟩)

theorem turns_asking : Turns turn initial asking sent :=
  (Turns.start.turn yields_start).turn yields_attempt

/-- A piece is read and written. -/
def writing (outcome : SinkOutcome) : List Event :=
  [(.unixTimeMs, .time (some 1000)), (.elapsed, .duration 0), (.read 2, .body (some [1, 2])),
    (.writeAll [1, 2], .sink outcome)]

theorem yields_writing {outcome : SinkOutcome} {s : Payload}
    (h : Yields (sent.take 0 request [1, 2]) [(.writeAll [1, 2], .sink outcome)] s) :
    Yields (turn sent) (writing outcome) s := by
  refine yields_perform_bind.mpr ⟨_, _, rfl, ?_⟩
  refine yields_orFail payloadNow_sample ?_
  rw [if_neg (by decide), checks_sample.2.2.1]
  refine .call ?_
  exact yields_perform_bind.mpr ⟨_, _, rfl, h⟩

/-- All of the artifact was taken. -/
def full : Payload := ⟨0, [1, 2], 2, [hexEncode zeros.toList], .reading 0 request⟩

/-- The artifact is accepted. -/
def accepting : List Event :=
  [(.read 1, .body (some [])), (.unixTimeMs, .time (some 1000)), (.flush, .flushed true)]

def verified : VerifiedPayload :=
  ⟨context.binding.artifactDigest, context.descriptorDigest, 2⟩

theorem yields_accepting : Yields (turn full) accepting (full.returns (.ok verified)) := by
  have hdigest : ¬ "sha256:" ++ hexEncode (sha256 full.hasher).toList
      ≠ context.binding.artifactDigest := not_not.mpr rfl
  refine .call ?_
  refine yields_perform_bind.mpr ⟨_, _, rfl, ?_⟩
  refine yields_orFail payloadNow_sample ?_
  rw [if_neg (by decide), checks_sample.2.2.1]
  show Yields (accept sha256 context full) _ _
  unfold accept
  rw [if_neg hdigest]
  exact yields_perform_bind.mpr ⟨_, _, rfl, yields_pure.mpr ⟨rfl, rfl⟩⟩

/-- The artifact comes in one piece. -/
theorem turns_full :
    Turns turn initial (asking ++ writing .written ++ accepting) (full.returns (.ok verified)) := by
  have hwrite : Yields (sent.take 0 request [1, 2]) [(.writeAll [1, 2], .sink .written)] full :=
    yields_perform_bind.mpr ⟨_, _, rfl, yields_pure.mpr ⟨rfl, rfl⟩⟩
  exact (turns_asking.turn (yields_writing hwrite)).turn yields_accepting

/-- The sink takes one byte and fails. -/
theorem turns_broken :
    Turns turn initial (asking ++ writing (.failed 1)) (sent.fails .write) := by
  have hwrite : Yields (sent.take 0 request [1, 2]) [(.writeAll [1, 2], .sink (.failed 1))]
      (sent.fails .write) :=
    yields_perform_bind.mpr ⟨_, _, rfl, yields_pure.mpr ⟨rfl, rfl⟩⟩
  exact turns_asking.turn (yields_writing hwrite)

end PayloadSample

open PayloadSample in
/-- An artifact of two bytes is brought by one request. -/
theorem Payload.two_bytes_as_agreed :
    ∃ t s, Turns PayloadSample.turn Payload.initial t s
      ∧ s.phase = .returned (.ok verified) ∧ Payload.received t = [1, 2]
      ∧ Payload.Accepted PayloadSample.sha256 context t :=
  ⟨_, _, turns_full, rfl, rfl, (Payload.payload_as_agreed _ _ _ _ _ _ _ turns_full).2.2.2.2
    verified rfl⟩

open PayloadSample in
/-- A write that fails leaves a byte in the sink that was neither hashed nor
counted. -/
theorem Payload.failed_write_leaves_a_byte :
    ∃ t s, Turns PayloadSample.turn Payload.initial t s
      ∧ (Payload.received t).length = 1 ∧ s.hasher = [] ∧ s.offset = 0
      ∧ s.phase = .returned (.error .write) :=
  ⟨_, _, turns_broken, rfl, rfl, rfl, rfl⟩
