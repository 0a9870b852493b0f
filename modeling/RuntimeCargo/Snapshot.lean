import RuntimeCargo.Disk
import RuntimeCargo.Manifest

/-!
# State snapshots: chunks, and the restore

A snapshot is a tar archive of a directory, cut into chunks that are sealed
one by one and kept as objects in a directory, under their ids. To restore
one is to check its manifest, to read the archive through the chunks –
opening each as the archive needs it – and to unpack it into a staging
directory next to the target, which takes the target's place at the end.
This is the model of the chunk half and the restore half of
`state_snapshot.rs`, as programs that call the system (`Program`).

What the source gets from elsewhere is left open (`Host`): the
ciphers and hashes, what the `tar` crate reads from the stream and what its
`unpack_in` does to the disk, the bytes `getrandom` yields, the clock, and
which calls fail. The tar reader is itself a program, whose only calls are
reads of the stream; so it may read ahead, stop early or go on after an
error, and the chunks are loaded exactly when it reads.

The paths a caller hands over are taken as the locations they lead to. For
the target this is what `Path::parent` and `Path::file_name` make of it: a
directory and a name in it, or nothing.
-/

open Program

/-! ## Errors -/

/-- `io::Error`. -/
inductive IoError where
  | os (e : Errno)
  | unexpectedEof
  | other (message : String)
  deriving DecidableEq

/-- `ChunkError`. -/
inductive ChunkError where
  | chunkTruncated (len : ℕ)
  | unsupportedChunkVersion (version : UInt8)
  | decrypt
  | chunkIdMismatch
  deriving DecidableEq

/-- `SnapshotError`. -/
inductive SnapshotError where
  | chunk (e : ChunkError)
  | manifest (e : ManifestError)
  | io (what : String) (e : IoError)
  | sourceNotDirectory
  | outputInsideSource
  | mtimeBeforeEpoch
  | sourceChanged
  | objectConflict (name : String)
  | missingChunk (name : String)
  | objectLength (id : String) (expected actual : ℕ)
  | chunkTooLarge (name : String)
  | archive (e : IoError)
  | targetNotEmpty
  | invalidTarget
  | signer
  | randomness
  | cleanup (error : SnapshotError) (cleanup : IoError)
  deriving DecidableEq

/-! ## Chunks -/

/-- `CHUNK_FORMAT_VERSION`. -/
def chunkFormatVersion : UInt8 := 0x01

/-- `CHUNK_NONCE_LEN`. -/
def chunkNonceLen : ℕ := 12

/-- `CHUNK_TAG_LEN`. -/
def chunkTagLen : ℕ := 16

/-- `CHUNK_OVERHEAD`. -/
def chunkOverhead : ℕ := 1 + chunkNonceLen + chunkTagLen

/-- `MAX_CHUNK_PLAINTEXT_BYTES`. -/
def maxChunkPlaintextBytes : ℕ := 16 * 1024 * 1024

/-- `CHUNK_KEY_INFO`. -/
def chunkKeyInfo : List UInt8 := utf8 "liskov-state-chunk-key-v1"

/-- `CHUNK_ID_KEY_INFO`. -/
def chunkIdKeyInfo : List UInt8 := utf8 "liskov-state-chunk-id-v1"

/-- `CHUNK_AAD_DOMAIN`. -/
def chunkAadDomain : List UInt8 := utf8 "liskov-state-chunk-v1"

/-- HKDF, HMAC and the authenticated cipher, besides what manifests need.
A sealed text is the ciphertext and its tag. -/
structure SnapshotCrypto extends ManifestCrypto where
  hkdf : Digest → String → List UInt8 → Digest
  hmac : Digest → List UInt8 → Digest
  aeadSeal : Digest → List UInt8 → List UInt8 → List UInt8 → List UInt8
  aeadOpen : Digest → List UInt8 → List UInt8 → List UInt8 → Option (List UInt8)

/-- `ChunkKeys`: what the two keys of a lineage are derived from. -/
structure ChunkKeys where
  dek : Digest
  lineageId : String

namespace ChunkKeys

variable (crypto : SnapshotCrypto) (keys : ChunkKeys)

/-- `derive_chunk_key`. -/
def sealKey : Digest := crypto.hkdf keys.dek keys.lineageId chunkKeyInfo

/-- `derive_chunk_id_key`. -/
def idKey : Digest := crypto.hkdf keys.dek keys.lineageId chunkIdKeyInfo

def chunkId (plaintext : List UInt8) : Digest := crypto.hmac (keys.idKey crypto) plaintext

def aad (chunkId : Digest) : List UInt8 := chunkAadDomain ++ utf8 keys.lineageId ++ chunkId.toList

/-- `seal`: the object of a chunk. -/
def sealed (nonce : Vector UInt8 chunkNonceLen) (plaintext : List UInt8) : List UInt8 :=
  chunkFormatVersion :: nonce.toList ++ crypto.aeadSeal (keys.sealKey crypto) nonce.toList
    (keys.aad (keys.chunkId crypto plaintext)) plaintext

/-- `open`. -/
def opened (expectedChunkId : Digest) (object : List UInt8) : Except ChunkError (List UInt8) := do
  require (chunkOverhead ≤ object.length) (.chunkTruncated object.length)
  require (object.head? = some chunkFormatVersion) (.unsupportedChunkVersion (object.headD 0))
  let nonce := (object.drop 1).take chunkNonceLen
  let body ← (crypto.aeadOpen (keys.sealKey crypto) nonce (keys.aad expectedChunkId)
    (object.drop (1 + chunkNonceLen))).okOr .decrypt
  require (keys.chunkId crypto body = expectedChunkId) .chunkIdMismatch
  return body

/-- **A chunk that opens** was authenticated, and is the one that was asked
for. -/
theorem opened_eq_ok {crypto : SnapshotCrypto} {keys : ChunkKeys} {id : Digest}
    {object plaintext : List UInt8} : keys.opened crypto id object = .ok plaintext
      ↔ chunkOverhead ≤ object.length ∧ object.head? = some chunkFormatVersion
        ∧ crypto.aeadOpen (keys.sealKey crypto) ((object.drop 1).take chunkNonceLen) (keys.aad id)
          (object.drop (1 + chunkNonceLen)) = some plaintext
        ∧ keys.chunkId crypto plaintext = id := by
  rw [opened, require_bind_eq_ok, require_bind_eq_ok, Option.okOr_bind_eq_ok]
  constructor
  · rintro ⟨hlength, hversion, body, hopen, h⟩
    rw [require_bind_eq_ok] at h
    obtain rfl := Except.ok.inj h.2
    exact ⟨hlength, hversion, hopen, h.1⟩
  · rintro ⟨hlength, hversion, hopen, hid⟩
    refine ⟨hlength, hversion, plaintext, hopen, ?_⟩
    rw [require_bind_eq_ok]
    exact ⟨hid, rfl⟩

end ChunkKeys

/-- The name of an object: `hex::encode`. -/
def objectName (id : Digest) : String := hexEncode id.toList

/-! ## The archive -/

/-- `tar::EntryType`. -/
inductive EntryType where
  | directory
  | regular
  | symlink
  /-- A hard link, a device, an extension. -/
  | other (code : UInt8)
  deriving DecidableEq

/-- What a header says. Its numbers may be unreadable. -/
structure TarEntry where
  path : List UInt8
  entryType : EntryType
  mode : Option ℕ
  uid : Option ℕ
  gid : Option ℕ
  mtime : Option ℕ
  linkName : List UInt8

/-- What was read of an entry's data, and why no more. -/
structure TarData where
  bytes : List UInt8
  failure : Option IoError

/-- The reply to a read: at most as many bytes as were asked for. -/
abbrev ReadReply := Except IoError (List UInt8)

/-- `tar::Archive`: how it finds the next entry and reads an entry's data
from a stream, and what `unpack_in` then does to the disk. -/
structure TarReader where
  State : Type
  start : State
  next : State → Program ℕ ReadReply (Except IoError (Option (TarEntry × State)))
  contents : State → TarEntry → Program ℕ ReadReply (TarData × State)
  unpackIn : Location → TarEntry → TarData → Disk → Except IoError Bool × Disk

/-! ## The machine -/

/-- What is not the program's doing. The clock, the random bytes and the
faults depend on how many calls were made. -/
structure Host where
  crypto : SnapshotCrypto
  tar : TarReader
  system : System
  clock : ℕ → ℤ
  entropy : ℕ → (k : ℕ) → Option (Vector UInt8 k)
  fault : ℕ → Option Fault

inductive SnapshotCall where
  | disk (op : DiskOp)
  | random (k : ℕ)
  /-- `unpack_in`, when the entry's data has been read. -/
  | unpackIn (entry : TarEntry) (data : TarData) (staging : Location)
  /-- The HMAC that names a chunk. -/
  | chunkId (keys : ChunkKeys) (plaintext : List UInt8)

inductive SnapshotReply where
  | disk (reply : Except Errno DiskReply)
  | random (bytes : Option (List UInt8))
  | unpacked (result : Except IoError Bool)
  | chunkId (id : Digest)

/-- The disk, and how many calls were made. -/
structure Machine where
  disk : Disk
  calls : ℕ

namespace Machine

/-- The machine after a call that left a disk. -/
def next (m : Machine) (d : Disk) : Machine := ⟨d, m.calls + 1⟩

/-- A call of the system. -/
def call (host : Host) (op : DiskOp) (m : Machine) : Except Errno DiskReply × Disk :=
  match host.fault m.calls with
  | none => op.exec host.system (host.clock m.calls) m.disk
  | some fault => (.error fault.errno, op.torn host.system (host.clock m.calls) fault m.disk)

/-- What a call does. -/
def step (host : Host) (c : SnapshotCall) (m : Machine) : SnapshotReply × Machine :=
  match c with
  | .disk op => (.disk (m.call host op).1, m.next (m.call host op).2)
  | .random k => (.random ((host.entropy m.calls k).map Vector.toList), m.next m.disk)
  | .unpackIn entry data staging =>
    (.unpacked (host.tar.unpackIn staging entry data m.disk).1,
      m.next (host.tar.unpackIn staging entry data m.disk).2)
  | .chunkId keys plaintext => (.chunkId (keys.chunkId host.crypto plaintext), m.next m.disk)

end Machine

/-- Programs of this module. -/
abbrev SnapshotProgram := Program SnapshotCall SnapshotReply

/-- Programs that may fail. -/
abbrev SnapshotIO := ExceptT SnapshotError SnapshotProgram

/-! ### The calls, typed -/

/-- A call that gives no value. -/
def callUnit (op : DiskOp) : SnapshotProgram (Except Errno Unit) := do
  match ← perform (.disk op) with
  | .disk (.ok _) => return .ok ()
  | .disk (.error e) => return .error e
  | _ => return .error .other

/-- `fs::symlink_metadata`. -/
def symlinkMetadata (path : DiskPath) : SnapshotProgram (Except Errno Inode) := do
  match ← perform (.disk (.lstat path)) with
  | .disk (.ok (.inode n)) => return .ok n
  | .disk (.error e) => return .error e
  | _ => return .error .other

/-- `fs::read_dir`. -/
def readDir (path : DiskPath) : SnapshotProgram (Except Errno (List FileName)) := do
  match ← perform (.disk (.readDir path)) with
  | .disk (.ok (.names names)) => return .ok names
  | .disk (.error e) => return .error e
  | _ => return .error .other

/-- A call that gives bytes. -/
def callBytes (op : DiskOp) : SnapshotProgram (Except Errno (List UInt8)) := do
  match ← perform (.disk op) with
  | .disk (.ok (.data bytes)) => return .ok bytes
  | .disk (.error e) => return .error e
  | _ => return .error .other

/-- `map_err(|e| SnapshotError::Io(what, e))`. -/
def orIo {α : Type} (what : String) (x : SnapshotProgram (Except Errno α)) : SnapshotIO α :=
  ExceptT.mk (x >>= fun r => pure (r.mapError fun e => .io what (.os e)))

/-- The result of a computation that makes no calls. -/
def ofExcept {ε α : Type} (error : ε → SnapshotError) (x : Except ε α) : SnapshotIO α :=
  ExceptT.mk (pure (x.mapError error))

/-- A condition that has to hold. -/
def check (p : Prop) [Decidable p] (e : SnapshotError) : SnapshotIO Unit :=
  ofExcept id (require p e)

/-- `getrandom::fill`. -/
def getRandom (k : ℕ) : SnapshotIO (List UInt8) := ExceptT.mk do
  match ← perform (.random k) with
  | .random (some bytes) => return .ok bytes
  | _ => return .error .randomness

/-- `random_suffix`. -/
def randomSuffix : SnapshotIO String := do
  let bytes ← getRandom 8
  return hexEncode bytes

/-- The path of a name in a directory. -/
def inDir (dir : Location) (name : FileName) : DiskPath := ⟨dir, [name]⟩

/-- The path of a location. -/
def atLoc (loc : Location) : DiskPath := ⟨loc, []⟩

/-! ## Reading the chunks -/

/-- `ChunkStream`: the chunks that are still to be loaded, and what has not
been read of the current one. -/
structure ChunkStream where
  keys : ChunkKeys
  objects : Location
  rest : List ManifestChunk
  pending : List UInt8
  /-- The failure behind the error that a read reported. -/
  error : Option SnapshotError

namespace ChunkStream

variable (crypto : SnapshotCrypto)

/-- `ChunkStream::load`: no more than one byte beyond the length that the
manifest says is read. -/
def load (keys : ChunkKeys) (objects : Location) (chunk : ManifestChunk) :
    SnapshotIO (List UInt8) := do
  let name := objectName chunk.id
  let object ← ExceptT.mk do
    match ← callBytes (.readFile (inDir objects (utf8 name))) with
    | .ok data => return .ok (data.take (chunk.objectBytes + 1))
    | .error .notFound => return .error (.missingChunk name)
    | .error e => return .error (.io "object read" (.os e))
  check (object.length = chunk.objectBytes) (.objectLength name chunk.objectBytes object.length)
  ofExcept .chunk (keys.opened crypto chunk.id object)

/-- Chunks are loaded until there is something to read, or none is left:
the bytes at hand, or the failure, and the chunks that remain. -/
def refill (s : ChunkStream) : List UInt8 → List ManifestChunk →
    SnapshotProgram (Except SnapshotError (List UInt8) × List ManifestChunk)
  | [], chunk :: rest => do
    match ← (load crypto s.keys s.objects chunk).run with
    | .ok plaintext => refill s plaintext rest
    | .error e => return (.error e, chunk :: rest)
  | pending, rest => return (.ok pending, rest)

/-- `ChunkStream::read`, into a buffer of `n` bytes. -/
def read (n : ℕ) (s : ChunkStream) : SnapshotProgram (ReadReply × ChunkStream) := do
  if s.error.isSome then return (.error (.other "state chunk refused"), s)
  match ← s.refill crypto s.pending s.rest with
  | (.ok pending, rest) =>
    return (.ok (pending.take n), { s with pending := pending.drop n, rest := rest })
  | (.error e, rest) =>
    return (.error (.other "state chunk refused"),
      { s with pending := [], rest := rest, error := some e })

/-- `io::copy` into a sink: the stream is read to its end, or to an error. -/
def drain (s : ChunkStream) : List ManifestChunk →
    SnapshotProgram (Except IoError Unit × ChunkStream)
  | [] => return (.ok (), { s with pending := [], rest := [] })
  | chunk :: rest => do
    match ← (load crypto s.keys s.objects chunk).run with
    | .ok _ => drain s rest
    | .error e =>
      return (.error (.other "state chunk refused"),
        { s with pending := [], rest := chunk :: rest, error := some e })

end ChunkStream

/-- Programs that read the stream and may fail. -/
abbrev Unpacking := ExceptT SnapshotError (StateT ChunkStream SnapshotProgram)

/-- A call inside of the unpacking. -/
def Unpacking.lift {α : Type} (x : SnapshotIO α) : Unpacking α :=
  ExceptT.mk fun s => x.run >>= fun r => pure (r, s)

/-- What the tar reader does with the stream. -/
def readTar {α : Type} (crypto : SnapshotCrypto) (p : Program ℕ ReadReply α) : Unpacking α :=
  ExceptT.mk fun s => p.simulate (fun n s => s.read crypto n) s >>= fun x => pure (.ok x.1, x.2)

/-! ## Unpacking -/

/-- `ROOT_ENTRY`. -/
def rootEntry : List UInt8 := utf8 "./"

/-- `Ownership`. -/
structure Ownership where
  uid : ℕ
  gid : ℕ
  mode : BitVec 12
  symlink : Bool

/-- A field of a header. -/
def headerField (value : Option ℕ) : SnapshotIO ℕ :=
  ofExcept .archive (value.okOr (.other "numeric field was not a number"))

/-- `chown`. -/
def chown (path : DiskPath) (owner : Ownership) : SnapshotIO Unit := do
  check (owner.uid < 2 ^ 32) (.archive (.other "owner id out of range"))
  check (owner.gid < 2 ^ 32) (.archive (.other "owner id out of range"))
  if owner.symlink then
    orIo "restore ownership" (callUnit (.chown path false owner.uid owner.gid))
  else do
    orIo "restore ownership" (callUnit (.chown path true owner.uid owner.gid))
    orIo "restore ownership" (callUnit (.chmod path owner.mode))

/-- `set_mtime`. -/
def setMtime (path : DiskPath) (seconds : ℕ) : SnapshotIO Unit := do
  check (path.rest.any (·.contains 0) = false) (.archive (.other "restore path contains NUL"))
  check (seconds < 2 ^ 63) (.archive (.other "mtime out of range"))
  orIo "restore mtime" (callUnit (.utimens path seconds))

/-- `unpack_in`, of an entry whose data has been read. -/
def unpackIn (entry : TarEntry) (data : TarData) (staging : Location) : SnapshotIO Bool :=
  ExceptT.mk do
    match ← perform (.unpackIn entry data staging) with
    | .unpacked result => return result.mapError .archive
    | _ => return .error (.archive (.os .other))

/-- An entry, the owner it gets and its time. -/
structure Placement where
  entry : TarEntry
  ownership : Option Ownership
  mtime : ℕ

/-- `if let Some(ownership)`: the owner is set. -/
def setOwner (path : DiskPath) : Option Ownership → SnapshotIO Unit
  | some owner => chown path owner
  | none => pure ()

/-- The calls of `place`, when the entry's data has been read. -/
def placeData (staging : Location) (placement : Placement) (data : TarData) : SnapshotIO Unit := do
  let path := joinPath staging placement.entry.path
  let inside ← unpackIn placement.entry data staging
  check (inside = true) (.archive (.other "archive entry escapes the restore directory"))
  setOwner path placement.ownership
  setMtime path placement.mtime

section Unpack

variable (crypto : SnapshotCrypto) (tar : TarReader) (staging : Location)

/-- `place`. -/
def place (state : tar.State) (placement : Placement) : Unpacking tar.State := do
  let (data, state) ← readTar crypto (tar.contents state placement.entry)
  Unpacking.lift (placeData staging placement data)
  return state

/-- What is done with an entry: it is the root's, it is put off, or it is
placed. -/
inductive Disposition where
  | root (mode : BitVec 12) (mtime : ℕ)
  | later (placement : Placement)
  | now (placement : Placement)

/-- The owner a header gives, for a restore that sets owners. -/
def headerOwnership (preserveOwner : Bool) (entry : TarEntry) (mode : BitVec 12) :
    SnapshotIO (Option Ownership) :=
  if preserveOwner then do
    let uid ← headerField entry.uid
    let gid ← headerField entry.gid
    return some ⟨uid, gid, mode, entry.entryType == .symlink⟩
  else return none

/-- The header of an entry, read. -/
def readHeader (preserveOwner : Bool) (entry : TarEntry) : SnapshotIO Disposition := do
  let mode ← headerField entry.mode
  let mode := BitVec.ofNat 12 mode
  let mtime ← headerField entry.mtime
  if entry.path = rootEntry then return .root mode mtime
  else do
    let ownership ← headerOwnership preserveOwner entry mode
    if entry.entryType = .directory then return .later ⟨entry, ownership, mtime⟩
    else return .now ⟨entry, ownership, mtime⟩

/-- The loop of `unpack` over the entries, at most `fuel` of them. -/
def unpackEntries (preserveOwner : Bool) : ℕ → tar.State → Option (BitVec 12 × ℕ) → List Placement →
    Unpacking (tar.State × Option (BitVec 12 × ℕ) × List Placement)
  | 0, _, _, _ => throw (.archive (.other "too many entries"))
  | fuel + 1, state, root, directories => do
    let next ← readTar crypto (tar.next state)
    match ← Unpacking.lift (ofExcept .archive next) with
    | none => return (state, root, directories)
    | some (entry, state) =>
      match ← Unpacking.lift (readHeader preserveOwner entry) with
      | .root mode mtime => unpackEntries preserveOwner fuel state (some (mode, mtime)) directories
      | .later placement => unpackEntries preserveOwner fuel state root (directories ++ [placement])
      | .now placement => do
        let state ← place crypto tar staging state placement
        unpackEntries preserveOwner fuel state root directories

/-- The directories, deepest first: by path, the greatest first. -/
def placingOrder (a b : Placement) : Prop := b.entry.path ≤ a.entry.path

instance : DecidableRel placingOrder := fun a b =>
  inferInstanceAs (Decidable (b.entry.path ≤ a.entry.path))

/-- The loop of `unpack` over the directories. -/
def placeDirectories : tar.State → List Placement → Unpacking tar.State
  | state, [] => return state
  | state, placement :: rest => do
    let state ← place crypto tar staging state placement
    placeDirectories state rest

/-- `unpack`: the mode and the time of the root. -/
def unpack (preserveOwner : Bool) (fuel : ℕ) : Unpacking (Option (BitVec 12 × ℕ)) := do
  let (state, root, directories) ←
    unpackEntries crypto tar staging preserveOwner fuel tar.start none []
  let _ ← placeDirectories crypto tar staging state (directories.insertionSort placingOrder)
  return root

end Unpack

/-! ## Restoring -/

/-- `SignedManifest`. -/
structure SignedManifest where
  manifest : Manifest
  signature : Signature

/-- `RestoreTrust`. -/
structure RestoreTrust where
  signer : Digest
  previous : Option Manifest

/-- `RestoreReport`. -/
structure RestoreReport where
  chunks : ℕ
  plaintextBytes : ℕ
  deriving DecidableEq

/-- `check_object`. -/
def checkObject (objects : Location) (chunk : ManifestChunk) : SnapshotIO Unit := do
  let name := objectName chunk.id
  check (chunk.plaintextBytes ≤ maxChunkPlaintextBytes) (.chunkTooLarge name)
  check (chunk.objectBytes = chunk.plaintextBytes + chunkOverhead)
    (.manifest (.malformed "chunks[].objectBytes"))
  ExceptT.mk do
    match ← symlinkMetadata (inDir objects (utf8 name)) with
    | .ok ⟨.file data, _, _, _, _⟩ =>
      if data.length ≠ chunk.objectBytes then
        return .error (.objectLength name chunk.objectBytes data.length)
      else return .ok ()
    | .ok _ => return .error (.missingChunk name)
    | .error .notFound => return .error (.missingChunk name)
    | .error e => return .error (.io "object lookup" (.os e))

/-- The depth at which a path exceeds what a call takes. -/
def pathMax : ℕ := 4096

/-- `open_up`: every directory is made writable again. -/
def openUp : ℕ → Location → SnapshotProgram (Except Errno Unit)
  | 0, _ => return .error .other
  | depth + 1, loc => ExceptT.run do
    let info ← ExceptT.mk (symlinkMetadata (atLoc loc))
    if info.kind = .directory then do
      ExceptT.mk (callUnit (.chmod (atLoc loc) 0o700))
      let names ← ExceptT.mk (readDir (atLoc loc))
      names.forM fun name => ExceptT.mk (openUp depth (loc ++ [name]))
    else pure ()

/-- `remove_staging`. -/
def removeStaging (staging : Location) : SnapshotProgram (Except Errno Unit) := ExceptT.run do
  ExceptT.mk (openUp pathMax staging)
  ExceptT.mk (callUnit (.removeDirAll staging))

section Restore

variable (crypto : SnapshotCrypto) (tar : TarReader) (euid : ℕ)

/-- `if let Some(error) = stream.error.take()`: the failure behind an error
of the stream. -/
def raise : Option SnapshotError → SnapshotIO Unit
  | some error => throw error
  | none => pure ()

/-- The mode and the time of the root are set. -/
def setRoot (staging : Location) : Option (BitVec 12 × ℕ) → SnapshotIO Unit
  | some (mode, mtime) => do
    orIo "restore root" (callUnit (.chmod (atLoc staging) mode))
    setMtime (atLoc staging) mtime
  | none => pure ()

/-- What `extract` does after the archive was unpacked. -/
def finishExtract (manifest : Manifest) (staging : Location) (stream : ChunkStream)
    (root : Option (BitVec 12 × ℕ)) : SnapshotIO RestoreReport := do
  let (drained, stream) ← ExceptT.lift (stream.drain crypto stream.rest)
  raise stream.error
  ofExcept .archive drained
  setRoot staging root
  return ⟨manifest.chunks.length, manifest.plaintextBytes⟩

/-- `extract`. An entry takes at least one byte of the stream. -/
def extract (manifest : Manifest) (dek : Digest) (objects staging : Location) :
    SnapshotIO RestoreReport := do
  let stream : ChunkStream := ⟨⟨dek, manifest.lineage⟩, objects, manifest.chunks, [], none⟩
  let (unpacked, stream) ← ExceptT.lift
    ((unpack crypto tar staging (euid == 0) (manifest.plaintextBytes + 1)).run stream)
  raise stream.error
  let root ← ofExcept id unpacked
  finishExtract crypto manifest staging stream root

/-- The target is absent, or a directory with nothing in it. -/
def checkTarget (parent : Location) (name : FileName) : SnapshotIO Unit := do
  match ← ExceptT.lift (symlinkMetadata (inDir parent name)) with
  | .ok info =>
    check (info.kind = .directory) .targetNotEmpty
    let children ← orIo "target" (readDir (inDir parent name))
    check (children = []) .targetNotEmpty
  | .error .notFound => pure ()
  | .error e => throw (.io "target" (.os e))

/-- The name of the staging directory. -/
def stagingDirName (name : FileName) (suffix : String) : FileName :=
  utf8 "." ++ name ++ utf8 (".restore-" ++ suffix)

/-- The archive is extracted and the staging directory moved. -/
def extractAndRename (manifest : Manifest) (dek : Digest) (objects staging target : Location) :
    SnapshotIO RestoreReport := do
  let report ← extract crypto tar euid manifest dek objects staging
  orIo "restore rename" (callUnit (.rename staging target))
  return report

/-- The part of `restore` that has a staging directory. -/
def restoreInto (manifest : Manifest) (dek : Digest) (objects staging target : Location) :
    SnapshotIO RestoreReport := do
  let result ← ExceptT.lift (extractAndRename crypto tar euid manifest dek objects staging target)
  match result with
  | .ok report => return report
  | .error error =>
    match ← ExceptT.lift (removeStaging staging) with
    | .ok () => throw error
    | .error cleanup => throw (.cleanup error (.os cleanup))

/-- The chain link is checked, if a predecessor is trusted. -/
def verifyLink (manifest : Manifest) : Option Manifest → SnapshotIO Unit
  | some previous =>
    ofExcept .manifest (verifySuccessor crypto.toManifestCrypto previous manifest)
  | none => pure ()

/-- `restore`. -/
def restore (signed : SignedManifest) (dek : Digest) (trust : RestoreTrust) (objects : Location)
    (target : Option (Location × FileName)) : SnapshotIO RestoreReport := do
  let manifest := signed.manifest
  let _ ← ofExcept .manifest
    (verifySignature crypto.toManifestCrypto manifest signed.signature trust.signer)
  verifyLink crypto manifest trust.previous
  manifest.chunks.forM (checkObject objects)
  match target with
  | none => throw .invalidTarget
  | some (parent, name) => do
    checkTarget parent name
    let suffix ← randomSuffix
    let staging := parent ++ [stagingDirName name suffix]
    orIo "restore staging" (callUnit (.mkdir (inDir parent (stagingDirName name suffix)) 0o700))
    restoreInto crypto tar euid manifest dek objects staging (parent ++ [name])

end Restore
