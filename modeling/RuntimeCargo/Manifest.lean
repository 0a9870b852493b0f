import RuntimeCargo.Check
import RuntimeCargo.Encoding
import RuntimeCargo.Wire

/-!
# Manifests of state snapshots

A snapshot is described by a manifest: whose state it is, its place in a
chain of snapshots, the chunks it consists of and the copies of the data
key. What is hashed and signed is not the JSON it travels as but a binary
form (`canonicalBytes`), and a manifest names its predecessor by the digest
of that form. This is the model of the manifest half of
`state_snapshot.rs`.

A reader who trusts one manifest is meant to trust its whole history.
That rests on two facts. The binary form determines the manifest: every
field is of a fixed width, counted or tagged, so the encodings delimit
(`Delimits`), and what the form leaves out – the case of a hexadecimal
id, an integer beyond 53 bits – a well-formed manifest does not vary in.
And a chain that passes `verifySuccessor` link by link is determined by
its last manifest, for the digests fix one predecessor after another, until
the sequence number says that there is none.

Integers are natural numbers here. Those of the source have 64 bits; a
manifest with a larger one is refused by the same bound of 53 bits that
the source has.
-/

/-- `ManifestError`. -/
inductive ManifestError where
  | malformed (field : String)
  | sizeMismatch (declared chunks : ℕ)
  | signerMismatch
  | badSignature
  | crossLineage (field : String)
  | sequenceNotAdvanced (previous next : ℕ)
  | sequenceGap (previous next : ℕ)
  | fork
  deriving DecidableEq

/-- `RecipientKind`. -/
inductive RecipientKind where
  | lockbox
  | job
  | customer
  | brokerShare

namespace RecipientKind

def name : RecipientKind → String
  | lockbox => "lockbox"
  | job => "job"
  | customer => "customer"
  | brokerShare => "broker_share"

theorem name_inj {k k' : RecipientKind} (h : k.name = k'.name) : k = k' := by
  cases k <;> cases k' <;> first | rfl | exact absurd h (by decide)

end RecipientKind

/-- `GrantPayload`. -/
structure GrantPayload where
  version : String
  curveName : String
  senderPublicKey : List UInt8
  salt : List UInt8
  ciphertext : List UInt8

/-- `WrappedDataKey`: one recipient's copy of the data key. -/
structure WrappedDataKey where
  recipientKind : RecipientKind
  recipientKeyId : String
  dekVersion : ℕ
  grant : GrantPayload

/-- `ManifestWriter`. -/
structure ManifestWriter where
  jobId : String
  processorId : String
  generation : ℕ
  signerPublicKey : Digest

/-- `ManifestChunk`. -/
structure ManifestChunk where
  id : Digest
  plaintextBytes : ℕ
  objectBytes : ℕ

/-- `Manifest`. -/
structure Manifest where
  v : ℕ
  org : String
  application : String
  lineage : String
  sequence : ℕ
  previousManifestDigest : Option Digest
  writer : ManifestWriter
  capturedAtMs : ℕ
  dekVersion : ℕ
  plaintextBytes : ℕ
  chunks : List ManifestChunk
  recipients : List WrappedDataKey

/-! ## Well-formed manifests -/

/-- `MANIFEST_VERSION`. -/
def manifestVersion : ℕ := 1

/-- `MAX_SAFE_INTEGER`. -/
def maxSafeInteger : ℕ := 2 ^ 53 - 1

/-- A digit that `lower_hex32` takes. -/
def isLowerHexDigit (c : Char) : Bool := ('0' ≤ c && c ≤ '9') || ('a' ≤ c && c ≤ 'f')

/-- A list of 32 bytes. -/
def toDigest (bytes : List UInt8) : Option Digest :=
  if h : bytes.toArray.size = 32 then some ⟨bytes.toArray, h⟩ else none

/-- `lower_hex32`. -/
def lowerHex32 (text : String) : Option Digest :=
  if text.utf8ByteSize ≠ 64 ∨ text.toList.all isLowerHexDigit = false then none
  else (hexDecode text.toList).bind toDigest

/-- One chunk of the sum that `check_well_formed` makes. -/
def addChunk (chunkSum : ℕ) (chunk : ManifestChunk) : Except ManifestError ℕ := do
  require (chunk.plaintextBytes ≤ maxSafeInteger) (.malformed "chunks[].plaintextBytes")
  require (chunk.objectBytes ≤ maxSafeInteger) (.malformed "chunks[].objectBytes")
  (checkedAdd chunkSum chunk.plaintextBytes).okOr (.malformed "chunks[].plaintextBytes")

/-- `check_well_formed`. -/
def checkWellFormed (m : Manifest) : Except ManifestError Unit := do
  require (m.v = manifestVersion) (.malformed "v")
  [("org", m.org), ("application", m.application), ("lineage", m.lineage),
      ("writer.jobId", m.writer.jobId), ("writer.processorId", m.writer.processorId)].forM
    fun (field, value) => require (value ≠ "") (.malformed field)
  require (m.sequence ≠ 0) (.malformed "sequence")
  require ((m.sequence = 1) ↔ m.previousManifestDigest = none) (.malformed "previousManifestDigest")
  [("sequence", m.sequence), ("writer.generation", m.writer.generation),
      ("capturedAtMs", m.capturedAtMs), ("dekVersion", m.dekVersion),
      ("plaintextBytes", m.plaintextBytes)].forM
    fun (field, value) => require (value ≤ maxSafeInteger) (.malformed field)
  let chunkSum ← m.chunks.foldlM addChunk 0
  m.recipients.forM fun recipient => do
    require (recipient.dekVersion = m.dekVersion) (.malformed "recipients[].dekVersion")
    require ((lowerHex32 recipient.recipientKeyId).isSome) (.malformed "recipients[].recipientKeyId")
  require (chunkSum = m.plaintextBytes) (.sizeMismatch m.plaintextBytes chunkSum)

/-- What a successful check says, as far as the binary form depends on it. -/
structure Manifest.WellFormed (m : Manifest) : Prop where
  v : m.v = manifestVersion
  sequence_ne : m.sequence ≠ 0
  first : m.sequence = 1 ↔ m.previousManifestDigest = none
  sequence : m.sequence ≤ maxSafeInteger
  generation : m.writer.generation ≤ maxSafeInteger
  capturedAtMs : m.capturedAtMs ≤ maxSafeInteger
  dekVersion : m.dekVersion ≤ maxSafeInteger
  plaintextBytes : m.plaintextBytes ≤ maxSafeInteger
  chunks : ∀ chunk ∈ m.chunks,
    chunk.plaintextBytes ≤ maxSafeInteger ∧ chunk.objectBytes ≤ maxSafeInteger
  recipients : ∀ recipient ∈ m.recipients,
    recipient.dekVersion = m.dekVersion ∧ (lowerHex32 recipient.recipientKeyId).isSome

theorem le_of_foldlM_addChunk {chunks : List ManifestChunk} {sum total : ℕ}
    (h : chunks.foldlM addChunk sum = .ok total) : ∀ chunk ∈ chunks,
      chunk.plaintextBytes ≤ maxSafeInteger ∧ chunk.objectBytes ≤ maxSafeInteger := by
  induction chunks generalizing sum with
  | nil => exact nofun
  | cons chunk chunks ih =>
    rw [List.foldlM_cons, Except.bind_eq_ok] at h
    obtain ⟨next, hadd, hrest⟩ := h
    rw [addChunk, require_bind_eq_ok, require_bind_eq_ok] at hadd
    exact List.forall_mem_cons.mpr ⟨⟨hadd.1, hadd.2.1⟩, ih hrest⟩

theorem wellFormed_of_check {m : Manifest} (h : checkWellFormed m = .ok ()) : m.WellFormed := by
  rw [checkWellFormed, require_bind_eq_ok, Except.bind_eq_ok] at h
  obtain ⟨hv, -, -, h⟩ := h
  rw [require_bind_eq_ok, require_bind_eq_ok, Except.bind_eq_ok] at h
  obtain ⟨hseq, hfirst, ⟨⟩, hbounds, h⟩ := h
  rw [Except.bind_eq_ok] at h
  obtain ⟨chunkSum, hchunks, h⟩ := h
  rw [Except.bind_eq_ok] at h
  obtain ⟨⟨⟩, hrecipients, -⟩ := h
  have hbound := forM_eq_ok.mp hbounds
  simp only [List.forall_mem_cons, require_eq_ok] at hbound
  obtain ⟨hsequence, hgeneration, hcaptured, hdek, hplain, -⟩ := hbound
  refine ⟨hv, hseq, hfirst, hsequence, hgeneration, hcaptured, hdek, hplain,
    le_of_foldlM_addChunk hchunks, fun recipient hmem => ?_⟩
  have hrecipient := forM_eq_ok.mp hrecipients recipient hmem
  rwa [require_bind_eq_ok, require_eq_ok] at hrecipient

/-! ## The binary form -/

/-- `Encoder`: the bytes so far. -/
abbrev Encoder := List UInt8

namespace Encoder

def u64 (out : Encoder) (value : ℕ) : Encoder := out ++ beBytes 8 value

def count (out : Encoder) (len : ℕ) : Except ManifestError Encoder :=
  if len < 256 ^ 4 then .ok (out ++ beBytes 4 len) else .error (.malformed "length")

def bytes (out : Encoder) (bytes : List UInt8) : Except ManifestError Encoder := do
  let out ← out.count bytes.length
  return out ++ bytes

def str (out : Encoder) (text : String) : Except ManifestError Encoder := out.bytes (utf8 text)

/-- One chunk. -/
def chunk (out : Encoder) (chunk : ManifestChunk) : Encoder :=
  u64 (u64 (out ++ chunk.id.toList) chunk.plaintextBytes) chunk.objectBytes

/-- One recipient. -/
def recipient (out : Encoder) (recipient : WrappedDataKey) : Except ManifestError Encoder := do
  let out ← out.str recipient.recipientKind.name
  let keyId ← (lowerHex32 recipient.recipientKeyId).okOr (.malformed "recipients[].recipientKeyId")
  let out := u64 (out ++ keyId.toList) recipient.dekVersion
  let out ← out.str recipient.grant.version
  let out ← out.str recipient.grant.curveName
  let out ← out.bytes recipient.grant.senderPublicKey
  let out ← out.bytes recipient.grant.salt
  out.bytes recipient.grant.ciphertext

end Encoder

/-- `canonical_bytes`. -/
def canonicalBytes (m : Manifest) : Except ManifestError (List UInt8) := do
  checkWellFormed m
  let out := Encoder.u64 [] m.v
  let out ← out.str m.org
  let out ← out.str m.application
  let out ← out.str m.lineage
  let out := out.u64 m.sequence
  let out : Encoder := match m.previousManifestDigest with
    | none => out ++ [0x00]
    | some previous => out ++ 0x01 :: previous.toList
  let out ← out.str m.writer.jobId
  let out ← out.str m.writer.processorId
  let out : Encoder := out.u64 m.writer.generation ++ m.writer.signerPublicKey.toList
  let out := out.u64 m.capturedAtMs
  let out := out.u64 m.dekVersion
  let out := out.u64 m.plaintextBytes
  let out ← out.count m.chunks.length
  let out := m.chunks.foldl Encoder.chunk out
  let out ← out.count m.recipients.length
  m.recipients.foldlM Encoder.recipient out

/-! ### The form of a manifest as one list

Every step of the encoder appends, or fails because a length does not fit
its 32 bits. What a successful run has written is therefore the
concatenation of the fields (`Manifest.layout`). -/

/-- A byte string behind its length. -/
def sizedBytes (bytes : List UInt8) : List UInt8 := beBytes 4 bytes.length ++ bytes

/-- A length that the encoder can write. -/
def FitsCount (len : ℕ) : Prop := len < 256 ^ 4

/-- The bytes of a recipient's key id. -/
def keyIdBytes (recipientKeyId : String) : List UInt8 :=
  ((lowerHex32 recipientKeyId).map Vector.toList).getD []

def ManifestChunk.layout (chunk : ManifestChunk) : List UInt8 :=
  chunk.id.toList ++ (beBytes 8 chunk.plaintextBytes ++ beBytes 8 chunk.objectBytes)

def WrappedDataKey.layout (recipient : WrappedDataKey) : List UInt8 :=
  sizedBytes (utf8 recipient.recipientKind.name) ++ (keyIdBytes recipient.recipientKeyId ++
    (beBytes 8 recipient.dekVersion ++ (sizedBytes (utf8 recipient.grant.version) ++
      (sizedBytes (utf8 recipient.grant.curveName) ++
        (sizedBytes recipient.grant.senderPublicKey ++ (sizedBytes recipient.grant.salt ++
          sizedBytes recipient.grant.ciphertext))))))

def Manifest.layout (m : Manifest) : List UInt8 :=
  beBytes 8 m.v ++ (sizedBytes (utf8 m.org) ++ (sizedBytes (utf8 m.application) ++
    (sizedBytes (utf8 m.lineage) ++ (beBytes 8 m.sequence ++
      (optionBytes Vector.toList m.previousManifestDigest ++ (sizedBytes (utf8 m.writer.jobId) ++
        (sizedBytes (utf8 m.writer.processorId) ++ (beBytes 8 m.writer.generation ++
          (m.writer.signerPublicKey.toList ++ (beBytes 8 m.capturedAtMs ++
            (beBytes 8 m.dekVersion ++ (beBytes 8 m.plaintextBytes ++
              ((beBytes 4 m.chunks.length ++ m.chunks.flatMap ManifestChunk.layout) ++
                (beBytes 4 m.recipients.length
                  ++ m.recipients.flatMap WrappedDataKey.layout))))))))))))))

/-- The lengths of a recipient's fields. -/
structure WrappedDataKey.Fits (recipient : WrappedDataKey) : Prop where
  version : FitsCount (utf8 recipient.grant.version).length
  curveName : FitsCount (utf8 recipient.grant.curveName).length
  senderPublicKey : FitsCount recipient.grant.senderPublicKey.length
  salt : FitsCount recipient.grant.salt.length
  ciphertext : FitsCount recipient.grant.ciphertext.length

/-- The lengths of a manifest's fields. -/
structure Manifest.Fits (m : Manifest) : Prop where
  org : FitsCount (utf8 m.org).length
  application : FitsCount (utf8 m.application).length
  lineage : FitsCount (utf8 m.lineage).length
  jobId : FitsCount (utf8 m.writer.jobId).length
  processorId : FitsCount (utf8 m.writer.processorId).length
  chunks : FitsCount m.chunks.length
  recipients : FitsCount m.recipients.length
  recipient : ∀ recipient ∈ m.recipients, recipient.Fits

namespace Encoder

variable {out result : Encoder}

theorem count_eq_ok {len : ℕ} (h : out.count len = .ok result) :
    FitsCount len ∧ result = out ++ beBytes 4 len := by
  rw [count] at h
  split at h
  case isTrue hlen => exact ⟨hlen, (Except.ok.inj h).symm⟩
  case isFalse => exact nomatch h

theorem bytes_eq_ok {bytes : List UInt8} (h : out.bytes bytes = .ok result) :
    FitsCount bytes.length ∧ result = out ++ sizedBytes bytes := by
  rw [Encoder.bytes, Except.bind_eq_ok] at h
  obtain ⟨mid, hcount, hret⟩ := h
  obtain ⟨hfits, rfl⟩ := count_eq_ok hcount
  refine ⟨hfits, ?_⟩
  rw [← Except.ok.inj hret, sizedBytes, List.append_assoc]

theorem foldl_chunk (chunks : List ManifestChunk) (out : Encoder) :
    chunks.foldl chunk out = out ++ chunks.flatMap ManifestChunk.layout := by
  induction chunks generalizing out with
  | nil => exact (List.append_nil out).symm
  | cons c chunks ih =>
    rw [List.foldl_cons, ih, List.flatMap_cons, chunk, u64, u64, ManifestChunk.layout]
    simp only [List.append_assoc]

theorem recipient_eq_ok {r : WrappedDataKey} (h : out.recipient r = .ok result) :
    r.Fits ∧ result = out ++ r.layout := by
  rw [recipient, Except.bind_eq_ok] at h
  obtain ⟨out₁, h₁, h⟩ := h
  rw [Option.okOr_bind_eq_ok] at h
  obtain ⟨keyId, hkey, h⟩ := h
  simp only [Except.bind_eq_ok] at h
  obtain ⟨out₂, h₂, out₃, h₃, out₄, h₄, out₅, h₅, h₆⟩ := h
  obtain ⟨-, rfl⟩ := bytes_eq_ok h₁
  obtain ⟨hversion, rfl⟩ := bytes_eq_ok h₂
  obtain ⟨hcurve, rfl⟩ := bytes_eq_ok h₃
  obtain ⟨hsender, rfl⟩ := bytes_eq_ok h₄
  obtain ⟨hsalt, rfl⟩ := bytes_eq_ok h₅
  obtain ⟨hciphertext, rfl⟩ := bytes_eq_ok h₆
  refine ⟨⟨hversion, hcurve, hsender, hsalt, hciphertext⟩, ?_⟩
  have hkeyId : keyIdBytes r.recipientKeyId = keyId.toList := by rw [keyIdBytes, hkey]; rfl
  rw [WrappedDataKey.layout, hkeyId, u64]
  simp only [List.append_assoc]

theorem foldlM_recipient_eq_ok {recipients : List WrappedDataKey}
    (h : recipients.foldlM recipient out = .ok result) :
    (∀ r ∈ recipients, r.Fits) ∧ result = out ++ recipients.flatMap WrappedDataKey.layout := by
  induction recipients generalizing out with
  | nil => exact ⟨nofun, (Except.ok.inj h).symm.trans (List.append_nil out).symm⟩
  | cons r recipients ih =>
    rw [List.foldlM_cons, Except.bind_eq_ok] at h
    obtain ⟨mid, hr, hrest⟩ := h
    obtain ⟨hfits, rfl⟩ := recipient_eq_ok hr
    obtain ⟨hall, rfl⟩ := ih hrest
    exact ⟨List.forall_mem_cons.mpr ⟨hfits, hall⟩,
      by rw [List.flatMap_cons, List.append_assoc]⟩

end Encoder

/-- **The binary form is the concatenation of the fields.** -/
theorem canonicalBytes_eq_ok {m : Manifest} {out : List UInt8} (h : canonicalBytes m = .ok out) :
    m.WellFormed ∧ m.Fits ∧ out = m.layout := by
  rw [canonicalBytes, Except.bind_eq_ok] at h
  obtain ⟨⟨⟩, hwell, h⟩ := h
  simp only [Except.bind_eq_ok] at h
  obtain ⟨out₁, h₁, out₂, h₂, out₃, h₃, out₄, h₄, out₅, h₅, out₆, h₆, out₇, h₇, h⟩ := h
  obtain ⟨horg, rfl⟩ := Encoder.bytes_eq_ok h₁
  obtain ⟨happ, rfl⟩ := Encoder.bytes_eq_ok h₂
  obtain ⟨hlineage, rfl⟩ := Encoder.bytes_eq_ok h₃
  obtain ⟨hjob, rfl⟩ := Encoder.bytes_eq_ok h₄
  obtain ⟨hprocessor, rfl⟩ := Encoder.bytes_eq_ok h₅
  obtain ⟨hchunks, rfl⟩ := Encoder.count_eq_ok h₆
  obtain ⟨hrecipients, rfl⟩ := Encoder.count_eq_ok h₇
  obtain ⟨hrecipient, rfl⟩ := Encoder.foldlM_recipient_eq_ok h
  refine ⟨wellFormed_of_check hwell,
    ⟨horg, happ, hlineage, hjob, hprocessor, hchunks, hrecipients, hrecipient⟩, ?_⟩
  have hprevious : ∀ out : Encoder, (match m.previousManifestDigest with
      | none => out ++ [0x00]
      | some previous => out ++ 0x01 :: previous.toList)
      = out ++ optionBytes Vector.toList m.previousManifestDigest := by
    intro out
    cases m.previousManifestDigest <;> rfl
  rw [hprevious, Encoder.foldl_chunk, Manifest.layout]
  simp only [Encoder.u64, List.append_assoc, List.nil_append]

/-! ### The binary form determines the manifest -/

theorem utf8_inj {s t : String} (h : utf8 s = utf8 t) : s = t :=
  String.toByteArray_inj.mp (ByteArray.ext (Array.toList_inj.mp h))

/-- A lower-case digit is the digit of its value. -/
theorem hexDigit_of_hexValue {c : Char} {n : ℕ} (hc : isLowerHexDigit c = true)
    (hn : hexValue c = some n) : n < 16 ∧ Json.hexDigit n = c := by
  have hle : ∀ a b : Char, a ≤ b ↔ a.toNat ≤ b.toNat := fun _ _ => Iff.rfl
  rw [isLowerHexDigit] at hc
  simp only [Bool.or_eq_true, Bool.and_eq_true, decide_eq_true_eq, hle] at hc
  simp only [hexValue, hle] at hn
  rcases hc with ⟨hlow, hhigh⟩ | ⟨hlow, hhigh⟩
  · rw [if_pos ⟨hlow, hhigh⟩, Option.some.injEq] at hn
    have hlow' : 48 ≤ c.toNat := hlow
    have hhigh' : c.toNat ≤ 57 := hhigh
    have hnat : 48 + n = c.toNat := by omega
    refine ⟨by omega, ?_⟩
    rw [Json.hexDigit, if_pos (by omega)]
    show Char.ofNat (48 + n) = c
    rw [hnat, Char.ofNat_toNat]
  · have hlow' : 97 ≤ c.toNat := hlow
    have hhigh' : c.toNat ≤ 102 := hhigh
    have hdigit : ¬('0'.toNat ≤ c.toNat ∧ c.toNat ≤ '9'.toNat) := fun h => by
      have h9 : c.toNat ≤ 57 := h.2
      omega
    rw [if_neg hdigit, if_pos ⟨hlow, hhigh⟩, Option.some.injEq] at hn
    have hnat : 97 + (n - 10) = c.toNat := by omega
    refine ⟨by omega, ?_⟩
    rw [Json.hexDigit, if_neg (by omega)]
    show Char.ofNat (97 + (n - 10)) = c
    rw [hnat, Char.ofNat_toNat]

/-- Lower-case hexadecimal text is what its bytes are written as. -/
theorem flatMap_hexByte_of_hexDecode {cs : List Char} {bytes : List UInt8}
    (hcs : ∀ c ∈ cs, isLowerHexDigit c = true) (h : hexDecode cs = some bytes) :
    bytes.flatMap hexByte = cs := by
  induction cs using hexDecode.induct generalizing bytes with
  | case1 =>
    cases h
    rfl
  | case2 c => exact nomatch h
  | case3 high low rest ih =>
    rw [hexDecode, Option.bind_eq_bind, Option.bind_eq_some_iff] at h
    obtain ⟨x, hx, h⟩ := h
    rw [Option.bind_eq_bind, Option.bind_eq_some_iff] at h
    obtain ⟨y, hy, h⟩ := h
    rw [Option.bind_eq_some_iff] at h
    obtain ⟨tail, htail, h⟩ := h
    obtain ⟨hx16, hhigh⟩ := hexDigit_of_hexValue (hcs high (by simp)) hx
    obtain ⟨hy16, hlow⟩ := hexDigit_of_hexValue (hcs low (by simp)) hy
    have hbyte : (UInt8.ofNat (16 * x + y)).toNat = 16 * x + y :=
      UInt8.toNat_ofNat_of_lt' (by show _ < 256; omega)
    have hrest := ih (fun c hc => hcs c (by simp [hc])) htail
    rw [← Option.some.inj h, List.flatMap_cons, hrest, hexByte, hbyte,
      show (16 * x + y) / 16 = x by omega, show (16 * x + y) % 16 = y by omega, hhigh, hlow]
    rfl

theorem lowerHex32_inj {s t : String} {d : Digest} (hs : lowerHex32 s = some d)
    (ht : lowerHex32 t = some d) : s = t := by
  have htext : ∀ {u : String}, lowerHex32 u = some d → u.toList = d.toList.flatMap hexByte := by
    intro u hu
    rw [lowerHex32] at hu
    split at hu
    · exact nomatch hu
    rename_i hdigits
    obtain ⟨bytes, hbytes, hdigest⟩ := Option.bind_eq_some_iff.mp hu
    have hall : u.toList.all isLowerHexDigit = true := by
      by_contra hnot
      exact hdigits (.inr (Bool.eq_false_iff.mpr hnot))
    rw [toDigest] at hdigest
    split at hdigest
    · cases hdigest
      exact (flatMap_hexByte_of_hexDecode (List.all_eq_true.mp hall) hbytes).symm
    · exact nomatch hdigest
  exact String.toList_inj.mp ((htext hs).trans (htext ht).symm)

theorem delimits_sizedBytes : Delimits (fun bytes : List UInt8 => FitsCount bytes.length) sizedBytes :=
  Delimits.sized 4

theorem delimits_str : Delimits (fun s : String => FitsCount (utf8 s).length)
    (fun s => sizedBytes (utf8 s)) :=
  delimits_sizedBytes.comap utf8 (fun _ h => h) fun _ _ _ _ => utf8_inj

theorem delimits_u64 : Delimits (· ≤ maxSafeInteger) (beBytes 8) :=
  (Delimits.number 8).comap id (fun _ h => Nat.lt_of_le_of_lt h (by decide)) fun _ _ _ _ h => h

theorem delimits_digest : Delimits (fun _ : Digest => True) Vector.toList :=
  Delimits.of_length (fun d _ => d.length_toList) fun _ _ _ _ h => Vector.toList_inj.mp h

theorem delimits_previous :
    Delimits (fun _ : Option Digest => True) (optionBytes Vector.toList) :=
  fun _ _ _ _ _ _ h => delimits_digest.tagged (fun _ _ => trivial) (fun _ _ => trivial) h

theorem delimits_keyId : Delimits (fun s : String => (lowerHex32 s).isSome) keyIdBytes := by
  refine Delimits.of_length (n := 32) (fun s hs => ?_) fun s t hs ht h => ?_
  · obtain ⟨d, hd⟩ := Option.isSome_iff_exists.mp hs
    rw [keyIdBytes, hd]
    exact d.length_toList
  · obtain ⟨d, hd⟩ := Option.isSome_iff_exists.mp hs
    obtain ⟨e, he⟩ := Option.isSome_iff_exists.mp ht
    rw [keyIdBytes, keyIdBytes, hd, he] at h
    obtain rfl : d = e := Vector.toList_inj.mp h
    exact lowerHex32_inj hd he

theorem delimits_chunk : Delimits (fun chunk : ManifestChunk =>
    chunk.plaintextBytes ≤ maxSafeInteger ∧ chunk.objectBytes ≤ maxSafeInteger)
      ManifestChunk.layout := by
  intro a b x y ha hb h
  rw [ManifestChunk.layout, ManifestChunk.layout] at h
  simp only [List.append_assoc] at h
  obtain ⟨hid, h⟩ := delimits_digest trivial trivial h
  obtain ⟨hplain, h⟩ := delimits_u64 ha.1 hb.1 h
  obtain ⟨hobject, h⟩ := delimits_u64 ha.2 hb.2 h
  refine ⟨?_, h⟩
  cases a; cases b
  simp_all

/-- What makes a recipient's fields readable. -/
def WrappedDataKey.Readable (r : WrappedDataKey) : Prop :=
  r.Fits ∧ r.dekVersion ≤ maxSafeInteger ∧ (lowerHex32 r.recipientKeyId).isSome

theorem delimits_kind : Delimits (fun _ : RecipientKind => True)
    (fun kind => sizedBytes (utf8 kind.name)) :=
  delimits_str.comap RecipientKind.name (fun kind _ => by unfold FitsCount; cases kind <;> decide)
    fun _ _ _ _ => RecipientKind.name_inj

theorem delimits_recipient : Delimits WrappedDataKey.Readable WrappedDataKey.layout := by
  intro a b x y ha hb h
  rw [WrappedDataKey.layout, WrappedDataKey.layout] at h
  simp only [List.append_assoc] at h
  obtain ⟨hkind, h⟩ := delimits_kind trivial trivial h
  obtain ⟨hkey, h⟩ := delimits_keyId ha.2.2 hb.2.2 h
  obtain ⟨hdek, h⟩ := delimits_u64 ha.2.1 hb.2.1 h
  obtain ⟨hversion, h⟩ := delimits_str ha.1.version hb.1.version h
  obtain ⟨hcurve, h⟩ := delimits_str ha.1.curveName hb.1.curveName h
  obtain ⟨hsender, h⟩ := delimits_sizedBytes ha.1.senderPublicKey hb.1.senderPublicKey h
  obtain ⟨hsalt, h⟩ := delimits_sizedBytes ha.1.salt hb.1.salt h
  obtain ⟨hciphertext, h⟩ := delimits_sizedBytes ha.1.ciphertext hb.1.ciphertext h
  refine ⟨?_, h⟩
  obtain ⟨_, _, _, ⟨_, _, _, _, _⟩⟩ := a
  obtain ⟨_, _, _, ⟨_, _, _, _, _⟩⟩ := b
  simp_all

theorem Manifest.WellFormed.readable {m : Manifest} (hm : m.WellFormed) (hfits : m.Fits) :
    ∀ r ∈ m.recipients, r.Readable := by
  intro r hr
  obtain ⟨hdek, hkey⟩ := hm.recipients r hr
  exact ⟨hfits.recipient r hr, hdek ▸ hm.dekVersion, hkey⟩

/-- **The binary form determines the manifest.** -/
theorem canonicalBytes_inj {a b : Manifest} {out : List UInt8} (ha : canonicalBytes a = .ok out)
    (hb : canonicalBytes b = .ok out) : a = b := by
  obtain ⟨hwa, hfa, ha⟩ := canonicalBytes_eq_ok ha
  obtain ⟨hwb, hfb, hb⟩ := canonicalBytes_eq_ok hb
  have h : a.layout ++ [] = b.layout ++ [] := by rw [← ha, ← hb]
  rw [Manifest.layout, Manifest.layout] at h
  simp only [List.append_assoc] at h
  have hone : manifestVersion ≤ maxSafeInteger := by decide
  obtain ⟨hv, h⟩ := delimits_u64 (hwa.v ▸ hone) (hwb.v ▸ hone) h
  obtain ⟨horg, h⟩ := delimits_str hfa.org hfb.org h
  obtain ⟨happ, h⟩ := delimits_str hfa.application hfb.application h
  obtain ⟨hlineage, h⟩ := delimits_str hfa.lineage hfb.lineage h
  obtain ⟨hsequence, h⟩ := delimits_u64 hwa.sequence hwb.sequence h
  obtain ⟨hprevious, h⟩ := delimits_previous trivial trivial h
  obtain ⟨hjob, h⟩ := delimits_str hfa.jobId hfb.jobId h
  obtain ⟨hprocessor, h⟩ := delimits_str hfa.processorId hfb.processorId h
  obtain ⟨hgeneration, h⟩ := delimits_u64 hwa.generation hwb.generation h
  obtain ⟨hsigner, h⟩ := delimits_digest trivial trivial h
  obtain ⟨hcaptured, h⟩ := delimits_u64 hwa.capturedAtMs hwb.capturedAtMs h
  obtain ⟨hdek, h⟩ := delimits_u64 hwa.dekVersion hwb.dekVersion h
  obtain ⟨hplain, h⟩ := delimits_u64 hwa.plaintextBytes hwb.plaintextBytes h
  rw [← List.append_assoc, ← List.append_assoc (beBytes 4 b.chunks.length)] at h
  obtain ⟨hchunks, h⟩ := delimits_chunk.counted 4 ⟨hfa.chunks, hwa.chunks⟩
    ⟨hfb.chunks, hwb.chunks⟩ h
  rw [← List.append_assoc, ← List.append_assoc (beBytes 4 b.recipients.length)] at h
  obtain ⟨hrecipients, -⟩ := delimits_recipient.counted 4 ⟨hfa.recipients, hwa.readable hfa⟩
    ⟨hfb.recipients, hwb.readable hfb⟩ h
  obtain ⟨_, _, _, _, _, _, ⟨_, _, _, _⟩, _, _, _, _, _⟩ := a
  obtain ⟨_, _, _, _, _, _, ⟨_, _, _, _⟩, _, _, _, _, _⟩ := b
  simp_all

/-! ## Digests, signatures and links -/

/-- `SIGNATURE_DOMAIN`. -/
def signatureDomain : List UInt8 := utf8 "liskov-state-manifest-v1"

/-- An Ed25519 signature. -/
abbrev Signature := Vector UInt8 64

/-- What the manifests need of the cryptographic library: SHA-256, and
whether a signature of a message by a public key verifies. -/
structure ManifestCrypto where
  sha256 : List UInt8 → Digest
  verifies : Digest → List UInt8 → Signature → Bool

/-- `signed_message`. -/
def signedMessage (digest : Digest) : List UInt8 := signatureDomain ++ digest.toList

section Crypto

variable (crypto : ManifestCrypto)

/-- `digest`. -/
def digest (m : Manifest) : Except ManifestError Digest := do
  return crypto.sha256 (← canonicalBytes m)

/-- `verify_digest`. -/
def verifyDigest (digest : Digest) (signature : Signature) (signer : Digest) :
    Except ManifestError Unit :=
  require (crypto.verifies signer (signedMessage digest) signature) .badSignature

/-- `verify_signature`. -/
def verifySignature (m : Manifest) (signature : Signature) (trustedSigner : Digest) :
    Except ManifestError Digest := do
  let manifestDigest ← digest crypto m
  require (m.writer.signerPublicKey = trustedSigner) .signerMismatch
  verifyDigest crypto manifestDigest signature trustedSigner
  return manifestDigest

/-- `verify_successor`. -/
def verifySuccessor (previous next : Manifest) : Except ManifestError Unit := do
  let previousDigest ← digest crypto previous
  checkWellFormed next
  [("org", previous.org, next.org), ("application", previous.application, next.application),
      ("lineage", previous.lineage, next.lineage)].forM
    fun (field, was, is) => require (was = is) (.crossLineage field)
  require (¬ next.sequence ≤ previous.sequence)
    (.sequenceNotAdvanced previous.sequence next.sequence)
  require (next.sequence = previous.sequence + 1) (.sequenceGap previous.sequence next.sequence)
  require (next.previousManifestDigest = some previousDigest) .fork

end Crypto

section Chains

variable {crypto : ManifestCrypto} {previous next : Manifest}

/-- What a link says. -/
theorem link_of_verifySuccessor (h : verifySuccessor crypto previous next = .ok ()) :
    ∃ out, canonicalBytes previous = .ok out
      ∧ next.previousManifestDigest = some (crypto.sha256 out)
      ∧ next.sequence = previous.sequence + 1 := by
  rw [verifySuccessor, Except.bind_eq_ok] at h
  obtain ⟨previousDigest, hdigest, h⟩ := h
  rw [Except.bind_eq_ok] at h
  obtain ⟨-, -, h⟩ := h
  rw [Except.bind_eq_ok] at h
  obtain ⟨-, -, h⟩ := h
  rw [require_bind_eq_ok, require_bind_eq_ok, require_eq_ok] at h
  rw [digest, Except.bind_eq_ok] at hdigest
  obtain ⟨out, hout, hsha⟩ := hdigest
  refine ⟨out, hout, ?_, h.2.1⟩
  rw [h.2.2, ← Except.ok.inj hsha]

/-- A manifest that follows another is not the first. -/
theorem one_lt_of_verifySuccessor (h : verifySuccessor crypto previous next = .ok ()) :
    1 < next.sequence := by
  obtain ⟨out, hout, -, hsequence⟩ := link_of_verifySuccessor h
  have hne := (canonicalBytes_eq_ok hout).1.sequence_ne
  omega

/-- Every manifest of a list follows the one before it. -/
abbrev IsHistory (crypto : ManifestCrypto) : List Manifest → Prop :=
  List.IsChain fun previous next => verifySuccessor crypto previous next = .ok ()

/-- The hash has no collision among the binary forms of two lists. -/
def NoCollision (sha256 : List UInt8 → Digest) (xs ys : List Manifest) : Prop :=
  ∀ a ∈ xs, ∀ b ∈ ys, ∀ out out', canonicalBytes a = .ok out → canonicalBytes b = .ok out' →
    sha256 out = sha256 out' → out = out'

/-- The last link of a history that starts with the first manifest: there
is none, or the manifest before it is fixed. -/
theorem IsHistory.init {xs : List Manifest} {m : Manifest} (h : IsHistory crypto (xs ++ [m])) :
    IsHistory crypto xs ∧ ∀ p ∈ xs.getLast?, verifySuccessor crypto p m = .ok () := by
  rw [IsHistory, List.isChain_append] at h
  exact ⟨h.1, fun p hp => h.2.2 p hp m rfl⟩

/-- **The last manifest fixes the history.** Induction from the end: the
predecessors of equal manifests have equal digests. -/
theorem IsHistory.eq_of_last {xs ys : List Manifest} {m : Manifest}
    (hxs : IsHistory crypto (xs ++ [m])) (hys : IsHistory crypto (ys ++ [m]))
    (hfirst : (xs ++ [m]).head?.map Manifest.sequence = some 1)
    (hfirst' : (ys ++ [m]).head?.map Manifest.sequence = some 1)
    (hcollision : NoCollision crypto.sha256 xs ys) : xs = ys := by
  induction xs using List.reverseRecOn generalizing ys m with
  | nil =>
    have hone : m.sequence = 1 := Option.some.inj hfirst
    cases ys using List.reverseRecOn with
    | nil => rfl
    | append_singleton ys q =>
      have hlink := hys.init.2 q (by rw [List.getLast?_concat]; rfl)
      exact absurd hone (Nat.ne_of_gt (one_lt_of_verifySuccessor hlink))
  | append_singleton xs p ih =>
    have hp := hxs.init.2 p (by rw [List.getLast?_concat]; rfl)
    cases ys using List.reverseRecOn with
    | nil =>
      have hone : m.sequence = 1 := Option.some.inj hfirst'
      exact absurd hone (Nat.ne_of_gt (one_lt_of_verifySuccessor hp))
    | append_singleton ys q =>
      have hq := hys.init.2 q (by rw [List.getLast?_concat]; rfl)
      obtain ⟨out, hout, hdigest, -⟩ := link_of_verifySuccessor hp
      obtain ⟨out', hout', hdigest', -⟩ := link_of_verifySuccessor hq
      have hsha : crypto.sha256 out = crypto.sha256 out' :=
        Option.some.inj (hdigest.symm.trans hdigest')
      obtain rfl := hcollision p (by simp) q (by simp) out out' hout hout' hsha
      obtain rfl := canonicalBytes_inj hout hout'
      have hhead : ∀ zs : List Manifest, (zs ++ [p] ++ [m]).head? = (zs ++ [p]).head? := by
        intro zs
        cases zs <;> rfl
      rw [hhead] at hfirst hfirst'
      rw [ih hxs.init.1 hys.init.1 hfirst hfirst' fun a ha b hb =>
        hcollision a (List.mem_append_left _ ha) b (List.mem_append_left _ hb)]

end Chains

/-- **A trusted head fixes the whole history.** Manifests with the same
binary form are equal; and, unless SHA-256 collides on the manifests at
hand, two histories that start at sequence 1 and end in the same manifest
are the same list. -/
theorem trusted_head_fixes_history (crypto : ManifestCrypto) :
    (∀ a b out, canonicalBytes a = .ok out → canonicalBytes b = .ok out → a = b)
    ∧ ∀ xs ys : List Manifest, NoCollision crypto.sha256 xs ys →
      IsHistory crypto xs → IsHistory crypto ys → xs.getLast? = ys.getLast? →
      xs.head?.map Manifest.sequence = some 1 → ys.head?.map Manifest.sequence = some 1 →
      xs = ys := by
  refine ⟨fun a b out => canonicalBytes_inj, ?_⟩
  intro xs ys hcollision hxs hys hlast hfirst hfirst'
  cases xs using List.reverseRecOn with
  | nil => exact nomatch hfirst
  | append_singleton xs m =>
    cases ys using List.reverseRecOn with
    | nil => exact nomatch hfirst'
    | append_singleton ys m' =>
      rw [List.getLast?_concat, List.getLast?_concat, Option.some.injEq] at hlast
      subst hlast
      rw [IsHistory.eq_of_last hxs hys hfirst hfirst' fun a ha b hb =>
        hcollision a (List.mem_append_left _ ha) b (List.mem_append_left _ hb)]

/-- The manifest of an empty snapshot. -/
def sampleManifest (sequence : ℕ) (previous : Option Digest) : Manifest where
  v := 1
  org := "o"
  application := "a"
  lineage := "l"
  sequence := sequence
  previousManifestDigest := previous
  writer := ⟨"j", "p", 0, Vector.replicate 32 0⟩
  capturedAtMs := 0
  dekVersion := 0
  plaintextBytes := 0
  chunks := []
  recipients := []

/-- The SHA-256 digest of the first manifest's binary form. -/
def sampleGenesisDigest : Digest :=
  #v[3, 176, 175, 202, 82, 88, 60, 216, 4, 84, 226, 124, 120, 103, 107, 2,
    54, 252, 230, 44, 35, 71, 152, 67, 105, 36, 94, 171, 224, 5, 198, 47]

def sampleGenesis : Manifest := sampleManifest 1 none

def sampleSuccessor : Manifest := sampleManifest 2 (some sampleGenesisDigest)

/-- SHA-256 on the binary forms of the two manifests. -/
def sampleManifestCrypto : ManifestCrypto where
  sha256 out :=
    if out = sampleGenesis.layout then sampleGenesisDigest
    else #v[208, 235, 42, 49, 231, 46, 231, 163, 214, 242, 196, 35, 172, 186, 165, 173,
      200, 5, 56, 86, 176, 72, 157, 96, 121, 236, 45, 19, 5, 172, 205, 139]
  verifies _ _ _ := true

theorem canonicalBytes_sampleGenesis :
    canonicalBytes sampleGenesis = .ok sampleGenesis.layout := by decide +kernel

theorem noCollision_sample : NoCollision sampleManifestCrypto.sha256
    [sampleGenesis, sampleSuccessor] [sampleGenesis, sampleSuccessor] := by
  have hbytes : ∀ m ∈ [sampleGenesis, sampleSuccessor], ∀ out, canonicalBytes m = .ok out →
      out = m.layout := by
    intro m _ out hout
    exact (canonicalBytes_eq_ok hout).2.2
  have hsha : ∀ m ∈ [sampleGenesis, sampleSuccessor], ∀ n ∈ [sampleGenesis, sampleSuccessor],
      sampleManifestCrypto.sha256 m.layout = sampleManifestCrypto.sha256 n.layout →
      m.layout = n.layout := by decide +kernel
  intro a ha b hb out out' hout hout' heq
  rw [hbytes a ha out hout, hbytes b hb out' hout'] at heq ⊢
  exact hsha a ha b hb heq

/-- Two snapshots in a row are the only history of the second. -/
theorem sample_head_fixes_history :
    canonicalBytes sampleGenesis = .ok sampleGenesis.layout ∧ sampleGenesis = sampleGenesis
    ∧ IsHistory sampleManifestCrypto [sampleGenesis, sampleSuccessor]
    ∧ [sampleGenesis, sampleSuccessor] = [sampleGenesis, sampleSuccessor] := by
  have hlink : IsHistory sampleManifestCrypto [sampleGenesis, sampleSuccessor] := by
    refine List.isChain_cons_cons.mpr ⟨?_, List.isChain_singleton _⟩
    decide +kernel
  have htheorem := trusted_head_fixes_history sampleManifestCrypto
  exact ⟨canonicalBytes_sampleGenesis,
    htheorem.1 _ _ _ canonicalBytes_sampleGenesis canonicalBytes_sampleGenesis, hlink,
    htheorem.2 _ _ noCollision_sample hlink hlink rfl rfl rfl⟩
