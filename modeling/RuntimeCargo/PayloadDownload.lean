import RuntimeCargo.PayloadProtocol

/-!
# Fetching a payload

`download_payload` brings an artifact into a sink, piece by piece and over
several attempts. Each attempt asks for what is still missing by a request
of its own, signed anew; what is read is written, hashed and counted, and
when nothing is missing the hash is compared with the one that was agreed
on. Nothing that the other side says is relied on: neither the status, nor
the length, nor that the bytes are those of the artifact.

The download is a loop of turns (`Payload.turn`): one turn begins, one
starts an attempt, one reads a piece, one finishes. What it calls – the
clocks, the source of random bytes, the signer, the network, the sink – may
reply whatever it likes. A read gives at most what was asked for. A write
that fails may have taken some of the piece (`SinkOutcome.failed`).
-/

open Program (perform)

/-! ## What is agreed on -/

/-- `PayloadError`. -/
inductive PayloadError where
  | budget | binding | bridge | runtime | response | refused | incomplete | integrity | write
  | protocol (refusal : PayloadDownloadRefusal)
deriving DecidableEq

/-- What is used of the descriptor of an artifact. -/
structure PayloadDescriptor where
  artifactSizeBytes : ℕ

/-- `PayloadContext`: what was negotiated. -/
structure PayloadContext where
  origin : String
  binding : PayloadDownloadBindingV1
  descriptorDigest : String
  descriptor : PayloadDescriptor

/-- `PayloadTransferPolicy`, with times in nanoseconds. -/
structure PayloadTransferPolicy where
  maxAttempts : ℕ
  maxElapsed : ℕ
  retryDelay : ℕ

/-- `VerifiedPayload`. -/
structure VerifiedPayload where
  artifactDigest : String
  descriptorDigest : String
  sizeBytes : ℕ

/-- `MAX_PAYLOAD_TRANSFER_ATTEMPTS`. -/
def maxPayloadTransferAttempts : ℕ := 64

/-- `STREAM_BUFFER_BYTES`. -/
def streamBufferBytes : ℕ := 16 * 1024

/-- A refusal of the protocol is an error of the download. -/
def Except.orRefusal {α : Type} : Except PayloadDownloadRefusal α → Except PayloadError α :=
  Except.mapError .protocol

namespace PayloadContext

/-- `PayloadContext::request`. -/
def request (c : PayloadContext) (range : PayloadDownloadRangeV1) (nowMs : ℤ) (nonce : String) :
    Except PayloadError PayloadDownloadRequestV1 := do
  require (0 ≤ nowMs ∧ nowMs < c.binding.authorizationExpiresAtMs) (.protocol .expired)
  let expires ← (inI64 (nowMs + maxPayloadDownloadValidityMs)).okOr (.protocol .overflow)
  let request : PayloadDownloadRequestV1 :=
    { domain := payloadDownloadDomain
      method := "GET"
      requestTarget := payloadTarget c.binding.artifactDigest
      range := range
      artifactDigest := c.binding.artifactDigest
      organisationId := c.binding.organisationId
      applicationUid := c.binding.applicationUid
      job := c.binding.job
      processorId := c.binding.processorId
      runtimeInstanceId := c.binding.runtimeInstanceId
      launch := c.binding.launch
      workload := c.binding.workload
      issuedAtMs := nowMs
      expiresAtMs := min expires c.binding.authorizationExpiresAtMs
      nonce := nonce }
  (request.validateBinding c.binding).orRefusal
  return request

end PayloadContext

/-! ## The job -/

/-- The number of a job: a decimal text or a number that is exact
everywhere. -/
def jobSequence : Json → Option String
  | .str text => (canonicalU128 text).map toString
  | .num n =>
    ((Json.num n).asU64.filter fun m => m ≤ payloadMaxSafeInteger).map toString
  | _ => none

/-- The key of the account that a job comes from. -/
def jobOriginKey (origin : Json) : Except PayloadError String := do
  require ((origin.get? "kind").bind Json.asStr = some "Acurast") .binding
  let key ← ((origin.get? "source").bind Json.asStr).okOr .binding
  let raw := (stripStart "0x" key).getD key
  require (raw.utf8ByteSize = 64 ∧ raw.toList.all isAsciiHexDigit) .binding
  return "0x" ++ toAsciiLowercase raw

/-- The parts of the text of a job: its origin, its number, and another
place where the number may stand. -/
def jobParts : Json → Except PayloadError (Json × Json × Option Json)
  | .arr [origin, sequence] => return (origin, sequence, none)
  | .obj members => do
    let value := Json.obj members
    let origin ← (value.get? "origin").okOr .binding
    let sequence ← ((value.get? "sequence").or (value.get? "id")).okOr .binding
    return (origin, sequence, value.get? "id")
  | _ => .error .binding

/-- `bridge_job_ref`, with the reader of JSON as a parameter. -/
def bridgeJobRef (fromStr : String → Option Json) (text : String) :
    Except PayloadError PayloadJobRefV1 := do
  let value ← (fromStr text).okOr .binding
  let (origin, raw, alternate) ← jobParts value
  let sequence ← (jobSequence raw).okOr .binding
  require (∀ other ∈ alternate, jobSequence other = some sequence) .binding
  let key ← jobOriginKey origin
  return ⟨"acurast", key, sequence⟩

/-! ## The other side -/

/-- `PayloadHttpResponse`, without its body. -/
structure PayloadHttpResponse where
  status : ℕ
  contentLength : Option ℕ
  contentRange : Option String
  contentEncoding : Option String
  descriptorDigest : String
  artifactDigest : String

/-- `PayloadHttpError`. -/
inductive PayloadHttpError where
  | transport | rejected

/-- How `write_all` ends: with all of the piece taken, or after some of its
bytes. -/
inductive SinkOutcome where
  | written
  | failed (taken : ℕ)

/-- What the download calls. -/
inductive PayloadCall where
  /-- `discover_runtime_identity`. -/
  | discoverIdentity
  | elapsed
  /-- Thirty-two random bytes. -/
  | fillRandom
  | unixTimeMs
  /-- The signer is given a message. -/
  | signerSign (message : String)
  /-- An envelope is sent, with a `Range` header. -/
  | get (url : String) (envelope : SignedPayloadDownloadRequestV1) (rangeHeader : Option String)
  /-- At most so many bytes of the body are read. -/
  | read (count : ℕ)
  | writeAll (bytes : List UInt8)
  | flush
  | sleep (duration : ℕ)

/-- What it is told. -/
inductive PayloadReply where
  | done
  /-- The processor and the text of the job. -/
  | identity (found : Option (String × String))
  | duration (d : ℕ)
  | random (bytes : Option Digest)
  | time (ms : Option ℕ)
  | signed (value : Option Json)
  | response (outcome : Except PayloadHttpError PayloadHttpResponse)
  | body (bytes : Option (List UInt8))
  | sink (outcome : SinkOutcome)
  | flushed (ok : Bool)

namespace PayloadReply

/-- The processor and the job, if they were found. -/
def found : PayloadReply → Option (String × String)
  | identity found => found
  | _ => none

/-- The time that has passed. -/
def elapsed : PayloadReply → ℕ
  | duration d => d
  | _ => 0

/-- The random bytes, if there are any. -/
def bytes : PayloadReply → Option Digest
  | random bytes => bytes
  | _ => none

/-- The time of the day, if it is known. -/
def ms : PayloadReply → Option ℕ
  | time ms => ms
  | _ => none

/-- What the signer says, if it says anything. -/
def value : PayloadReply → Option Json
  | signed value => value
  | _ => none

/-- How an exchange ended. -/
def outcome : PayloadReply → Except PayloadHttpError PayloadHttpResponse
  | response outcome => outcome
  | _ => .error .transport

/-- What was read into a buffer of some length. -/
def piece (count : ℕ) : PayloadReply → Option (List UInt8)
  | body bytes => bytes.map fun bs => bs.take count
  | _ => none

/-- How a write ended. -/
def written : PayloadReply → SinkOutcome
  | sink outcome => outcome
  | _ => .failed 0

/-- Whether the sink was flushed. -/
def isFlushed : PayloadReply → Bool
  | flushed ok => ok
  | _ => false

end PayloadReply

/-- `now`. -/
def payloadNow (ms : Option ℕ) : Except PayloadError ℤ :=
  ((ms.map Int.ofNat).bind inI64).okOr .runtime

/-- The signature in what the signer says. -/
def payloadSignature (value : Option Json) : Except PayloadError String := do
  let signed ← value.okOr .bridge
  let raw ← ((signed.get? "bytes").bind Json.asStr).okOr .bridge
  return toAsciiLowercase ((stripStart "0x" raw).getD raw)

/-- A status after which the request is made again. -/
def isRetryable (status : ℕ) : Bool :=
  status = 408 || status = 429 || 500 ≤ status && status ≤ 599

/-- `validate_response`. -/
def PayloadContext.validateResponse (c : PayloadContext) (request : PayloadDownloadRequestV1)
    (response : PayloadHttpResponse) : Except PayloadError Unit := do
  let size := c.descriptor.artifactSizeBytes
  let selection ← (request.range.select size).orRefusal
  let contentRange := request.range.contentRange size
  require (response.status = if contentRange.isSome then 206 else 200)
    (if response.status = 401 ∨ response.status = 403 then .refused else .response)
  require (response.contentLength = some selection.length
    ∧ response.contentRange = contentRange
    ∧ response.descriptorDigest = c.descriptorDigest
    ∧ response.artifactDigest = c.binding.artifactDigest
    ∧ ∀ encoding ∈ response.contentEncoding, encoding = "identity") .response

/-! ## The turns -/

/-- Where the download is between two turns. -/
inductive PayloadPhase where
  | starting
  /-- The head of the loop, with so many attempts left. -/
  | head (left : ℕ)
  /-- A response to a request is being read. -/
  | reading (left : ℕ) (request : PayloadDownloadRequestV1)
  | returned (result : Except PayloadError VerifiedPayload)

/-- The variables of `download_payload`; the hasher is kept by what it was
given. -/
structure Payload where
  started : ℕ
  hasher : List UInt8
  offset : ℕ
  nonces : List String
  phase : PayloadPhase

namespace Payload

variable (sha256 : List UInt8 → Digest) (fromStr : String → Option Json)
  (fromSlice : String → Option SignedPayloadDownloadRequestV1)
  (context : PayloadContext) (policy : PayloadTransferPolicy)

/-- Before anything was done. -/
def initial : Payload := ⟨0, [], 0, [], .starting⟩

/-- The download returns. -/
def returns (s : Payload) (result : Except PayloadError VerifiedPayload) : Payload :=
  { s with phase := .returned result }

/-- It returns an error. -/
def fails (s : Payload) (error : PayloadError) : Payload := s.returns (.error error)

/-- What goes on if there is no error. -/
def orFail {α : Type} (s : Payload) (x : Except PayloadError α)
    (f : α → Program PayloadCall PayloadReply Payload) :
    Program PayloadCall PayloadReply Payload :=
  match x with
  | .error e => return s.fails e
  | .ok a => f a

/-- The checks before the loop. -/
def start (s : Payload) : Program PayloadCall PayloadReply Payload := do
  if ¬(1 ≤ policy.maxAttempts ∧ policy.maxAttempts ≤ maxPayloadTransferAttempts)
      ∨ policy.maxElapsed = 0 then
    return s.fails .budget
  else
    let found := (← perform .discoverIdentity).found
    s.orFail (found.okOr .bridge) fun (processorId, jobId) => do
      if processorId ≠ context.binding.processorId then return s.fails .binding
      else
        s.orFail (bridgeJobRef fromStr jobId) fun job => do
          if job ≠ context.binding.job then return s.fails .binding
          else
            let started := (← perform .elapsed).elapsed
            return { s with started := started, phase := .head policy.maxAttempts }

/-- After an attempt that has not brought everything. -/
def pause (s : Payload) (left : ℕ) : Program PayloadCall PayloadReply Payload := do
  let elapsed := (← perform .elapsed).elapsed
  let _ ← perform (.sleep (min policy.retryDelay (policy.maxElapsed - (elapsed - s.started))))
  return { s with phase := .head left }

/-- What is still missing. -/
def missing (s : Payload) : PayloadDownloadRangeV1 :=
  if s.offset = 0 then .whole else .bytes s.offset (context.descriptor.artifactSizeBytes - 1)

/-- A signed request is sent, and its response is looked at. -/
def send (s : Payload) (left : ℕ) (envelope : SignedPayloadDownloadRequestV1) :
    Program PayloadCall PayloadReply Payload :=
  let request := envelope.request
  s.orFail (SignedPayloadDownloadRequestV1.parse fromSlice envelope.toJson.render).orRefusal
    fun _ => do
      let time := (← perform .unixTimeMs).ms
      s.orFail (payloadNow time) fun nowMs =>
        s.orFail (request.validateTransport "GET" request.requestTarget request.range.header
          nowMs).orRefusal fun _ => do
            let response := (← perform (.get (context.origin ++ request.requestTarget) envelope
              request.range.header)).outcome
            match response with
            | .error .transport => s.pause policy left
            | .error .rejected => return s.fails .refused
            | .ok response =>
              if isRetryable response.status then s.pause policy left
              else
                s.orFail (context.validateResponse request response) fun _ =>
                  return { s with phase := .reading left request }

/-- A request for what is still missing is made and signed. -/
def sign (s : Payload) (left : ℕ) (nonce : String) : Program PayloadCall PayloadReply Payload := do
  let time := (← perform .unixTimeMs).ms
  s.orFail (payloadNow time) fun nowMs =>
    s.orFail (context.request (s.missing context) nowMs nonce) fun request =>
      s.orFail request.message.orRefusal fun message => do
        let value := (← perform (.signerSign message)).value
        s.orFail (payloadSignature value) fun signature =>
          s.send fromSlice context policy left ⟨request, signature⟩

/-- An attempt begins, unless the time is over. -/
def attempt (s : Payload) (left : ℕ) : Program PayloadCall PayloadReply Payload := do
  let elapsed := (← perform .elapsed).elapsed
  if elapsed - s.started ≥ policy.maxElapsed then return s.fails .incomplete
  else
    let random := (← perform .fillRandom).bytes
    s.orFail (random.okOr .runtime) fun random =>
      let nonce := hexEncode random.toList
      if nonce ∈ s.nonces then return s.fails (.protocol .nonceReplayed)
      else
        { s with nonces := nonce :: s.nonces }.sign fromSlice context policy left nonce

/-- What was read is written, hashed and counted. -/
def take (s : Payload) (left : ℕ) (request : PayloadDownloadRequestV1) (piece : List UInt8) :
    Program PayloadCall PayloadReply Payload := do
  match (← perform (.writeAll piece)).written with
  | .failed _ => return s.fails .write
  | .written =>
    return { s with
      hasher := s.hasher ++ piece
      offset := s.offset + piece.length
      phase := .reading left request }

/-- A piece of the body is read. -/
def readPiece (s : Payload) (left : ℕ) (request : PayloadDownloadRequestV1) :
    Program PayloadCall PayloadReply Payload := do
  let time := (← perform .unixTimeMs).ms
  s.orFail (payloadNow time) fun nowMs =>
    if nowMs ≥ context.binding.authorizationExpiresAtMs then
      return s.fails (.protocol .expired)
    else
      match request.validateTransport "GET" request.requestTarget request.range.header nowMs with
      | .error .expired => s.pause policy left
      | .error refusal => return s.fails (.protocol refusal)
      | .ok () => do
        let elapsed := (← perform .elapsed).elapsed
        if elapsed - s.started ≥ policy.maxElapsed then return s.fails .incomplete
        else
          let count := min (context.descriptor.artifactSizeBytes - s.offset) streamBufferBytes
          let piece := (← perform (.read count)).piece count
          match piece with
          | none | some [] => s.pause policy left
          | some piece => s.take left request piece

/-- The hash is compared with the one that was agreed on. -/
def accept (s : Payload) : Program PayloadCall PayloadReply Payload := do
  if "sha256:" ++ hexEncode (sha256 s.hasher).toList ≠ context.binding.artifactDigest then
    return s.fails .integrity
  else if !(← perform .flush).isFlushed then return s.fails .write
  else
    return s.returns (.ok ⟨context.binding.artifactDigest, context.descriptorDigest, s.offset⟩)

/-- Nothing is missing: nothing more may come, and the agreement has to be
in force. -/
def finish (s : Payload) (request : PayloadDownloadRequestV1) :
    Program PayloadCall PayloadReply Payload := do
  match (← perform (.read 1)).piece 1 with
  | none => return s.fails .incomplete
  | some (_ :: _) => return s.fails .response
  | some [] =>
    let time := (← perform .unixTimeMs).ms
    s.orFail (payloadNow time) fun nowMs =>
      if nowMs ≥ context.binding.authorizationExpiresAtMs then
        return s.fails (.protocol .expired)
      else
        match request.validateTransport "GET" request.requestTarget request.range.header nowMs with
        | .ok () | .error .expired => s.accept sha256 context
        | .error refusal => return s.fails (.protocol refusal)

/-- **One turn of `download_payload`.** Once it has returned nothing more is
done. -/
def turn (s : Payload) : Program PayloadCall PayloadReply Payload :=
  match s.phase with
  | .starting => s.start fromStr context policy
  | .head 0 => return s.fails .incomplete
  | .head (left + 1) => s.attempt fromSlice context policy left
  | .reading left request =>
    if context.descriptor.artifactSizeBytes - s.offset = 0 then s.finish sha256 context request
    else s.readPiece context policy left request
  | .returned _ => return s

end Payload
