import RuntimeCargo.Snapshot

/-!
# What the tar crate is relied on for

The snapshots leave it to the `tar` crate to read an archive and to unpack
an entry. What they rely on is stated here as a property of a reader
(`UnpackConfined`), and `ustar` is a reader that has it: it reads the blocks
of an archive in the ustar format, with names of up to a hundred bytes, and
unpacks entries under directories that are no links. On such archives it
does what the crate does, and so it serves for the runs that are followed
step by step.
-/

open Program

/-- **What `unpack_in` promises**: it changes nothing outside of the
directory it is given, it refuses a name that goes up, and it unpacks an
entry only if all of its name but the last part leads to a place inside. -/
structure UnpackConfined (tar : TarReader) : Prop where
  outside : ∀ (staging : Location) (e : TarEntry) (data : TarData) (d : Disk),
    d.SameOutside (staging <+: ·) (tar.unpackIn staging e data d).2
  refuses : ∀ {staging : Location} {e : TarEntry} {data : TarData} {d : Disk},
    dotDot ∈ pathComponents e.path → (tar.unpackIn staging e data d).1 ≠ .ok true
  inside : ∀ {staging : Location} {e : TarEntry} {data : TarData} {d : Disk},
    (tar.unpackIn staging e data d).1 = .ok true → ∀ m,
    Walks (tar.unpackIn staging e data d).2 true staging
      (realNames (pathComponents e.path)).dropLast m → staging <+: m

namespace Ustar

/-! ## Reading -/

/-- Reads until there are so many bytes, or no more come. -/
def readFull (n : ℕ) : Program ℕ ReadReply (Except IoError (List UInt8)) := go n n []
where
  /-- At most `fuel` reads for the `n` bytes that are missing. -/
  go : ℕ → ℕ → List UInt8 → Program ℕ ReadReply (Except IoError (List UInt8))
    | 0, _, got => .done (.ok got)
    | _, 0, got => .done (.ok got)
    | fuel + 1, n + 1, got => .call (n + 1) fun
      | .error e => .done (.error e)
      | .ok [] => .done (.ok got)
      | .ok (b :: bytes) => go fuel (n - bytes.length) (got ++ b :: bytes)

/-- The bytes of a field of a header. -/
def field (block : List UInt8) (start length : ℕ) : List UInt8 := (block.drop start).take length

/-- A text ends at the first NUL. -/
def text (bytes : List UInt8) : List UInt8 := bytes.takeWhile (· ≠ 0)

/-- A number in octal digits. -/
def octal (bytes : List UInt8) : Option ℕ :=
  let digits := bytes.takeWhile fun b => 0x30 ≤ b ∧ b ≤ 0x37
  if digits = [] then none else some (digits.foldl (fun n b => 8 * n + (b.toNat - 0x30)) 0)

/-- The type flag. -/
def entryType (flag : UInt8) : EntryType :=
  if flag = 0x35 then .directory
  else if flag = 0x30 ∨ flag = 0 then .regular
  else if flag = 0x32 then .symlink
  else .other flag

/-- What a header block says. -/
def header (block : List UInt8) : TarEntry where
  path := text (field block 0 100)
  entryType := entryType ((block.drop 156).headD 0)
  mode := octal (field block 100 8)
  uid := octal (field block 108 8)
  gid := octal (field block 116 8)
  mtime := octal (field block 136 12)
  linkName := text (field block 157 100)

def blockSize : ℕ := 512

/-- The length of an entry's data, with what fills the last block. -/
def padded (size : ℕ) : ℕ := (size + blockSize - 1) / blockSize * blockSize

/-- How long the data of the current entry is, and how much is to be read
before the next header. -/
structure State where
  size : ℕ
  skip : ℕ

/-- The next header. A block of zeros is the end. -/
def next (state : State) :
    Program ℕ ReadReply (Except IoError (Option (TarEntry × State))) := do
  match ← readFull state.skip with
  | .error e => return .error e
  | .ok _ =>
    match ← readFull blockSize with
    | .error e => return .error e
    | .ok block =>
      if block.all (· == 0) then return .ok none
      else if block.length < blockSize then return .error (.other "failed to read entire block")
      else match octal (field block 124 12) with
        | none => return .error (.other "numeric field was not a number")
        | some size => return .ok (some (header block, ⟨size, padded size⟩))

/-- The data of the current entry. A directory has none. -/
def contents (state : State) (entry : TarEntry) : Program ℕ ReadReply (TarData × State) :=
  if entry.entryType = .directory then return (⟨[], none⟩, state)
  else do
    match ← readFull state.size with
    | .error e => return (⟨[], some e⟩, state)
    | .ok bytes =>
      return (⟨bytes, if bytes.length < state.size then some .unexpectedEof else none⟩,
        ⟨0, state.skip - bytes.length⟩)

/-! ## Headers -/

/-- Octal digits. -/
def digits : ℕ → ℕ → List UInt8
  | 0, _ => []
  | width + 1, n => digits width (n / 8) ++ [UInt8.ofNat (0x30 + n % 8)]

/-- A number field: its digits, and a NUL. -/
def number (width n : ℕ) : List UInt8 := digits (width - 1) n ++ [0]

/-- A text field, filled up with NULs. -/
def filled (width : ℕ) (bytes : List UInt8) : List UInt8 :=
  bytes ++ List.replicate (width - bytes.length) 0

def typeFlag : EntryType → UInt8
  | .directory => 0x35
  | .regular => 0x30
  | .symlink => 0x32
  | .other code => code

/-- A header, given the field of its checksum. -/
def headerWith (e : TarEntry) (size : ℕ) (checksum : List UInt8) : List UInt8 :=
  filled 100 e.path ++ number 8 (e.mode.getD 0) ++ number 8 (e.uid.getD 0)
    ++ number 8 (e.gid.getD 0) ++ number 12 size ++ number 12 (e.mtime.getD 0) ++ checksum
    ++ [typeFlag e.entryType] ++ filled 100 e.linkName ++ filled 255 (utf8 "ustar  ")

/-- The header of an entry. The checksum is the sum of the bytes, with
blanks in its own place. -/
def headerBlock (e : TarEntry) (size : ℕ) : List UInt8 :=
  let sum := (headerWith e size (List.replicate 8 0x20)).foldl (fun n b => n + b.toNat) 0
  headerWith e size (number 7 sum ++ [0x20])

/-! ## Unpacking -/

section Unpack

variable (owner : Process) (now : ℤ)

/-- The directories that are missing are made. -/
def ensureDirs : Location → List FileName → Disk → Option Disk
  | _, [], d => some d
  | loc, c :: rest, d =>
    match d.node (loc ++ [c]) with
    | none => ensureDirs (loc ++ [c]) rest
        (d.create (loc ++ [c]) ⟨.directory, 0o755, owner.uid, owner.gid, now⟩ now)
    | some n => if n.kind = .directory then ensureDirs (loc ++ [c]) rest d else none

/-- The node that an entry makes. -/
def entryNode (e : TarEntry) (data : List UInt8) : Inode where
  kind := match e.entryType with
    | .directory => .directory
    | .symlink => .symlink e.linkName
    | .regular | .other _ => .file data
  mode := if e.entryType = .symlink then 0o777 else BitVec.ofNat 12 (e.mode.getD 0)
  uid := owner.uid
  gid := owner.gid
  mtime := now

/-- An entry is put at its location: a directory may be there already, and
anything else but a directory is replaced. -/
def put (loc : Location) (n : Inode) (d : Disk) : Except IoError Bool × Disk :=
  match d.node loc with
  | none => (.ok true, d.create loc n now)
  | some old =>
    if n.kind = .directory then
      if old.kind = .directory then (.ok true, d.modify loc fun old => { old with mode := n.mode })
      else (.error (.os .alreadyExists), d)
    else if old.kind = .directory then (.error (.os .other), d)
    else (.ok true, d.create loc n now)

/-- `unpack_in`. -/
def unpackIn (staging : Location) (e : TarEntry) (data : TarData) (d : Disk) :
    Except IoError Bool × Disk :=
  let names := realNames (pathComponents e.path)
  if dotDot ∈ pathComponents e.path then (.ok false, d)
  else if names = [] then (.ok true, d)
  else match data.failure with
    | some error => (.error error, d)
    | none =>
      match ensureDirs owner now staging names.dropLast d with
      | none => (.error (.other "trying to unpack outside of destination path"), d)
      | some d => put now (staging ++ names) (entryNode owner now e data.bytes) d

end Unpack

/-- The reader. -/
def reader (owner : Process) (now : ℤ) : TarReader :=
  ⟨State, ⟨0, 0⟩, next, contents, unpackIn owner now⟩

/-! ## Staying inside -/

section Inside

variable {owner : Process} {now : ℤ} {d d' : Disk} {top loc : Location} {names : List FileName}

theorem ensureDirs_outside (htop : top <+: loc)
    (h : ensureDirs owner now loc names d = some d') : d.SameOutside (top <+: ·) d' := by
  induction names generalizing loc d with
  | nil =>
    cases h
    exact .refl
  | cons c rest ih =>
    have htop' : top <+: loc ++ [c] := htop.trans (List.prefix_append _ _)
    rw [ensureDirs] at h
    split at h
    · refine Disk.SameOutside.trans (.of_create htop' ?_) (ih htop' h)
      rwa [List.dropLast_concat]
    · split at h
      · exact ih htop' h
      · exact nomatch h

theorem ensureDirs_keepsDirs (h : ensureDirs owner now loc names d = some d') :
    d.KeepsDirs d' := by
  induction names generalizing loc d with
  | nil =>
    cases h
    exact .refl
  | cons c rest ih =>
    rw [ensureDirs] at h
    split at h
    case h_1 hnone =>
      refine Disk.KeepsDirs.trans (.of_create ?_) (ih h)
      rintro ⟨n, hn, -⟩
      rw [hnone] at hn
      exact nomatch hn
    case h_2 =>
      split at h
      · exact ih h
      · exact nomatch h

/-- All the directories on the way are there. -/
theorem ensureDirs_isDir (h : ensureDirs owner now loc names d = some d') :
    ∀ init, init ≠ [] → init <+: names → d'.IsDir (loc ++ init) := by
  induction names generalizing loc d with
  | nil => exact fun init hne hinit => absurd (List.prefix_nil.mp hinit) hne
  | cons c rest ih =>
    have hmade : ∃ d₁, d₁.IsDir (loc ++ [c])
        ∧ ensureDirs owner now (loc ++ [c]) rest d₁ = some d' := by
      rw [ensureDirs] at h
      split at h
      case h_1 => exact ⟨_, Disk.isDir_create rfl, h⟩
      case h_2 n hn =>
        split at h
        case isTrue hkind => exact ⟨d, ⟨n, hn, hkind⟩, h⟩
        case isFalse => exact nomatch h
    obtain ⟨d₁, hdir, hrest⟩ := hmade
    intro init hne hinit
    cases init with
    | nil => exact absurd rfl hne
    | cons x init =>
      obtain ⟨rfl, htail⟩ := List.cons_prefix_cons.mp hinit
      by_cases hnil : init = []
      · rw [hnil]
        exact ensureDirs_keepsDirs hrest _ hdir
      · have hdir := ih hrest init hnil htail
        rwa [List.append_assoc] at hdir

theorem put_outside {n : Inode} (hloc : top <+: loc) (hparent : top <+: loc.dropLast) :
    d.SameOutside (top <+: ·) (put now loc n d).2 := by
  rw [put]
  split
  · exact .of_create hloc hparent
  · split
    · split
      · exact .of_modify hloc
      · exact .refl
    · split
      · exact .refl
      · exact .of_create hloc hparent

theorem put_keepsDirs {n : Inode} : d.KeepsDirs (put now loc n d).2 := by
  rw [put]
  split
  case h_1 hnone =>
    refine .of_create ?_
    rintro ⟨n, hn, -⟩
    rw [hnone] at hn
    exact nomatch hn
  case h_2 old hold =>
    split
    · split
      · exact .of_modify fun _ => rfl
      · exact .refl
    · split
      case isTrue => exact .refl
      case isFalse hkind =>
        refine .of_create ?_
        rintro ⟨n, hn, hdir⟩
        rw [hold] at hn
        exact hkind (Option.some.inj hn ▸ hdir)

end Inside

/-- **The reader confines what it unpacks.** -/
theorem reader_confined (owner : Process) (now : ℤ) : UnpackConfined (reader owner now) where
  outside staging e data d := by
    show d.SameOutside (staging <+: ·) (unpackIn owner now staging e data d).2
    rw [unpackIn]
    split
    · exact .refl
    · split
      · exact .refl
      case isFalse hne =>
        split
        · exact .refl
        · split
          · exact .refl
          case h_2 d' hdirs =>
            refine (ensureDirs_outside List.prefix_rfl hdirs).trans (put_outside ?_ ?_)
            · exact List.prefix_append _ _
            · rw [List.dropLast_append_of_ne_nil hne]
              exact List.prefix_append _ _
  refuses {staging e data d} hup := by
    show (unpackIn owner now staging e data d).1 ≠ .ok true
    rw [unpackIn, if_pos hup]
    exact nofun
  inside {staging e data d} h m := by
    revert h
    show (unpackIn owner now staging e data d).1 = .ok true →
      Walks (unpackIn owner now staging e data d).2 true staging
        (realNames (pathComponents e.path)).dropLast m → staging <+: m
    rw [unpackIn]
    split
    · exact nofun
    case isFalse hup =>
      have hreal : ∀ c ∈ (realNames (pathComponents e.path)).dropLast,
          isHere c = false ∧ c ≠ dotDot := by
        intro c hc
        obtain ⟨hmem, hreal⟩ := List.mem_filter.mp (List.dropLast_subset _ hc)
        exact ⟨by simpa using hreal, fun heq => hup (heq ▸ hmem)⟩
      split
      case isTrue hnil =>
        intro _ hwalks
        rw [hnil] at hwalks
        obtain rfl := hwalks.eq_of_here nofun
        exact List.prefix_rfl
      case isFalse =>
        split
        · exact nofun
        · split
          · exact nofun
          case h_2 d' hdirs =>
            intro _ hwalks
            rw [hwalks.eq_of_noLinks hreal fun init hne hinit n target hn hkind => ?_]
            · exact List.prefix_append _ _
            · -- what stands on the way is a directory, before and after
              obtain ⟨n', hn', hkind'⟩ := put_keepsDirs _ (ensureDirs_isDir hdirs init hne hinit)
              rw [hn'] at hn
              rw [← Option.some.inj hn, hkind'] at hkind
              exact nomatch hkind

end Ustar
