import RuntimeCargo.Check
import RuntimeCargo.FileTree
import RuntimeCargo.JobSecrets

/-!
# Installing the secret files

The secrets a customer wants as files are installed as a group, before the
customer runs. Each file is written under a staging name next to its
destination (`prepare`, `write`); when all are there, each is moved to its
destination, after what stood there was moved to a backup name
(`commit`); at the end the backups are removed. If anything fails before
that, the files are rolled back in reverse order. The two extra names
depend on the declared path only, so that the next run finds what an
interrupted one left behind.

The definitions follow `file_secrets.rs` call by call; each system call
has a `Site`, by which it can be made to fail. A parent is an open
directory in the source and its path here.
-/

open Function Program

/-- `FileSecretError`. -/
inductive FileSecretError where
  | invalidPath
  | install
  | rollback
  deriving DecidableEq

/-! ## Where a call is made -/

/-- The parts of an installation. -/
inductive InstallPhase where
  | prepare
  | write
  | commit
  | rollback
  | cleanup
  deriving DecidableEq

/-- The system calls of a part. -/
inductive SysCall where
  | openRoot
  | openDir (depth : ℕ)
  | mkdir (depth : ℕ)
  | reopenDir (depth : ℕ)
  | statDestination
  | statBackup
  | restoreBackup
  | statStaging
  | removeStaging
  | create
  | writeAll
  | backUp
  | replace
  | removeDestination
  | removeBackup
  | sync
  deriving DecidableEq

/-- The part of the installation, the declared path and the call. -/
structure Site where
  phase : InstallPhase
  path : String
  call : SysCall
  deriving DecidableEq

/-- The functions of the installation: they make calls, and may fail. -/
abbrev Installer (α : Type) := ExceptT FileSecretError (Program (FileCall Site) FileReply) α

/-! ## Names -/

/-- `c_name`: a name with a NUL in it cannot be given to the system. -/
def cName (name : String) : Except FileSecretError String := do
  require ('\x00' ∉ name.toList) .invalidPath
  return name

/-- `Component`, as far as an absolute path has them. -/
inductive Component where
  | rootDir
  | parentDir
  | normal (name : String)
  deriving DecidableEq

def Component.name? : Component → Option String
  | normal name => some name
  | _ => none

/-- `Path::components` of an absolute path: repeated slashes and `.` are
gone. -/
def components (path : String) : List Component :=
  .rootDir :: ((path.toList.splitOn '/').map String.ofList).filterMap fun name =>
    if name = "" ∨ name = "." then none
    else if name = ".." then some .parentDir
    else some (.normal name)

/-- The checks of a declared path at the start of `prepare`: the names of
its parents, and the last name. -/
def checkPath (path : String) : Except FileSecretError (TreePath × String) := do
  require (path.toList.head? = some '/' ∧ path.toList.getLast? ≠ some '/'
    ∧ path.utf8ByteSize ≤ 4096) .invalidPath
  let components := components path
  require (2 ≤ components.length ∧ .parentDir ∉ components) .invalidPath
  let names := components.filterMap Component.name?
  return (names.dropLast, names.getLastD "")

/-- How the names begin that the installation uses itself. -/
def secretMark : String := ".liskov-secret-"

section Names

variable (sha256 : List UInt8 → Digest)

def identity (path : String) : String := hexEncode (sha256 (utf8 path)).toList

/-- The names the installation uses for a path: they differ in how they
end. -/
def secretName (ending path : String) : String := secretMark ++ (identity sha256 path ++ ending)

def stagingName (path : String) : String := secretName sha256 ".pending" path

def backupName (path : String) : String := secretName sha256 ".previous" path

end Names

section Names

variable {sha256 : List UInt8 → Digest} {path other ending : String}

theorem toList_secretName : (secretName sha256 ending path).toList
    = secretMark.toList ++ ((identity sha256 path).toList ++ ending.toList) := by
  rw [secretName, String.toList_append, String.toList_append]

/-- The names of two paths are different, unless their digests are the
same. -/
theorem secretName_inj (h : secretName sha256 ending path = secretName sha256 ending other) :
    sha256 (utf8 path) = sha256 (utf8 other) := by
  have hlist := congrArg String.toList h
  rw [toList_secretName, toList_secretName, List.append_cancel_left_eq,
    List.append_cancel_right_eq] at hlist
  have hdecode := congrArg hexDecode hlist
  rw [identity, identity, hexDecode_hexEncode, hexDecode_hexEncode, Option.some.injEq] at hdecode
  exact Vector.toList_inj.mp hdecode

theorem stagingName_ne_backupName : stagingName sha256 path ≠ backupName sha256 other := by
  intro h
  have hlast := congrArg (fun s : String => s.toList.getLast?) h
  simp only [stagingName, backupName, toList_secretName, List.getLast?_append] at hlast
  exact absurd hlast (by
    rw [show ".pending".toList.getLast? = some 'g' from rfl,
      show ".previous".toList.getLast? = some 's' from rfl]
    simp)

end Names

/-! ## The calls -/

/-- `directory`: opens a directory, which is made if it is not there. -/
def directory (site : SysCall → Site) (depth : ℕ) (parent : TreePath) (name : String) :
    Installer TreePath := ExceptT.mk do
  let path := parent ++ [name]
  match ← perform ⟨site (.openDir depth), .openDir path⟩ with
  | .ok _ => return .ok path
  | .error .notFound =>
    match ← perform ⟨site (.mkdir depth), .mkdir path⟩ with
    | .error .notFound | .error .other => return .error .install
    | .ok _ | .error .alreadyExists =>
      match ← perform ⟨site (.reopenDir depth), .openDir path⟩ with
      | .ok _ => return .ok path
      | .error _ => return .error .invalidPath
  | .error _ => return .error .invalidPath

/-- `regular_file`: whether there is a file; anything else must not be
there. -/
def regularFile (site : Site) (path : TreePath) : Installer Bool := ExceptT.mk do
  match ← perform ⟨site, .stat path⟩ with
  | .ok (some (.file _)) => return .ok true
  | .ok _ => return .error .invalidPath
  | .error .notFound => return .ok false
  | .error _ => return .error .install

/-- `rename`. -/
def rename (site : Site) (source target : TreePath) (noReplace : Bool) : Installer Unit :=
  ExceptT.mk do
  match ← perform ⟨site, .rename source target noReplace⟩ with
  | .ok _ => return .ok ()
  | .error _ => return .error .install

/-- `unlink`: what is not there is removed. -/
def unlink (site : Site) (path : TreePath) : Installer Unit := ExceptT.mk do
  match ← perform ⟨site, .unlink path⟩ with
  | .ok _ | .error .notFound => return .ok ()
  | .error _ => return .error .install

/-- `sync_all`, with the error its failure becomes. -/
def syncAll (site : Site) (path : TreePath) (error : FileSecretError) : Installer Unit :=
  ExceptT.mk do
  match ← perform ⟨site, .sync path⟩ with
  | .ok _ => return .ok ()
  | .error _ => return .error error

/-! ## One file -/

/-- `PreparedFile`, with the declared path it is for. -/
structure PreparedFile where
  path : String
  parent : TreePath
  destination : String
  staging : String
  backup : String
  staged : Bool
  backedUp : Bool
  committed : Bool

namespace PreparedFile

def destinationPath (f : PreparedFile) : TreePath := f.parent ++ [f.destination]

def stagingPath (f : PreparedFile) : TreePath := f.parent ++ [f.staging]

def backupPath (f : PreparedFile) : TreePath := f.parent ++ [f.backup]

/-- The file for a path, of which nothing was done yet. -/
def fresh (sha256 : List UInt8 → Digest) (path : String) (parent : TreePath)
    (destination : String) : PreparedFile where
  path := path
  parent := parent
  destination := destination
  staging := stagingName sha256 path
  backup := backupName sha256 path
  staged := false
  backedUp := false
  committed := false

/-- The loop of `prepare` over the parents. -/
def enter (site : SysCall → Site) : ℕ → TreePath → List String → Installer TreePath
  | _, parent, [] => return parent
  | depth, parent, component :: rest => do
    let name ← ExceptT.mk (pure (cName component))
    let parent ← directory site depth parent name
    enter site (depth + 1) parent rest

/-- A backup that is there was left by an interrupted run, and is what
belongs to the destination. -/
def restoreLeftover (site : SysCall → Site) (f : PreparedFile) : Installer Unit := do
  let found ← regularFile (site .statBackup) f.backupPath
  onlyIf found (rename (site .restoreBackup) f.backupPath f.destinationPath false)

def removeLeftover (site : SysCall → Site) (f : PreparedFile) : Installer Unit := do
  let found ← regularFile (site .statStaging) f.stagingPath
  onlyIf found (unlink (site .removeStaging) f.stagingPath)

/-- The second half of `prepare`, in the open parent. The staging and
backup names consist of letters, digits and `.-`, so `c_name` does not
refuse them. -/
def prepareIn (sha256 : List UInt8 → Digest) (path : String) (parent : TreePath)
    (last : String) : Installer PreparedFile := do
  let site := Site.mk .prepare path
  let destination ← ExceptT.mk (pure (cName last))
  ExceptT.mk (pure (require (¬ secretMark.toList <+: destination.toList) .invalidPath))
  let file := fresh sha256 path parent destination
  let _ ← regularFile (site .statDestination) file.destinationPath
  restoreLeftover site file
  removeLeftover site file
  return file

/-- `PreparedFile::prepare`. -/
def prepare (sha256 : List UInt8 → Digest) (path : String) : Installer PreparedFile := do
  let site := Site.mk .prepare path
  let (parents, last) ← ExceptT.mk (pure (checkPath path))
  let root ← ExceptT.mk do
    match ← perform ⟨site .openRoot, .openDir []⟩ with
    | .ok _ => return .ok []
    | .error _ => return .error .install
  let parent ← enter site 0 root parents
  prepareIn sha256 path parent last

/-- `PreparedFile::write`: the file with its flags, and the outcome. -/
def write (f : PreparedFile) (value : List UInt8) :
    Program (FileCall Site) FileReply (PreparedFile × Except FileSecretError Unit) := do
  let site := Site.mk .write f.path
  match ← perform ⟨site .create, .create f.stagingPath⟩ with
  | .error _ => return (f, .error .install)
  | .ok _ =>
    let staged := { f with staged := true }
    match ← perform ⟨site .writeAll, .write f.stagingPath value⟩ with
    | .error _ => return (staged, .error .install)
    | .ok _ =>
      let outcome ← syncAll (site .sync) f.stagingPath .install
      return (staged, outcome)

/-- The first half of `commit`: what stands at the destination is moved
away. -/
def backUp (f : PreparedFile) : Installer Bool := do
  let site := Site.mk .commit f.path
  let found ← regularFile (site .statDestination) f.destinationPath
  onlyIf found (rename (site .backUp) f.destinationPath f.backupPath true)
  return found

/-- The second half of `commit`. -/
def replace (f : PreparedFile) :
    Program (FileCall Site) FileReply (PreparedFile × Except FileSecretError Unit) := do
  let site := Site.mk .commit f.path
  match ← (rename (site .replace) f.stagingPath f.destinationPath false).run with
  | .error e => return (f, .error e)
  | .ok () =>
    let outcome ← syncAll (site .sync) f.parent .install
    return ({ f with staged := false, committed := true }, outcome)

/-- `PreparedFile::commit`. -/
def commit (f : PreparedFile) :
    Program (FileCall Site) FileReply (PreparedFile × Except FileSecretError Unit) := do
  match ← f.backUp.run with
  | .error e => return (f, .error e)
  | .ok found => ({ f with backedUp := f.backedUp || found } : PreparedFile).replace

/-- `PreparedFile::rollback`. -/
def rollback (f : PreparedFile) : Installer Unit := do
  let site := Site.mk .rollback f.path
  onlyIf f.committed (unlink (site .removeDestination) f.destinationPath)
  onlyIf f.backedUp (rename (site .restoreBackup) f.backupPath f.destinationPath false)
  onlyIf f.staged (unlink (site .removeStaging) f.stagingPath)
  syncAll (site .sync) f.parent .rollback

end PreparedFile

/-! ## The file a path stands for -/

/-- The directories a declared path leads through. -/
def parentsOf (path : String) : TreePath :=
  match checkPath path with
  | .ok (parents, _) => parents
  | .error _ => []

/-- The file `prepare` gives for a path, if the path is one it takes: no
name has a NUL in it, and the last is not one of the installation's
own. -/
def fileOf (sha256 : List UInt8 → Digest) (path : String) : Option PreparedFile :=
  match checkPath path with
  | .ok (parents, last) =>
    if (∀ name ∈ parents, '\x00' ∉ name.toList) ∧ '\x00' ∉ last.toList
      ∧ ¬ secretMark.toList <+: last.toList
    then some (.fresh sha256 path parents last) else none
  | .error _ => none

section FileOf

variable {sha256 : List UInt8 → Digest} {path other : String} {f g : PreparedFile}

theorem fileOf_eq_some (h : fileOf sha256 path = some f) :
    ∃ last, checkPath path = .ok (parentsOf path, last) ∧ ¬ secretMark.toList <+: last.toList
      ∧ f = .fresh sha256 path (parentsOf path) last := by
  unfold fileOf at h
  unfold parentsOf
  split at h
  case h_1 parents last hcheck =>
    split at h
    case isTrue hnames =>
      rw [hcheck]
      exact ⟨last, rfl, hnames.2.2, (Option.some.inj h).symm⟩
    case isFalse => exact nomatch h
  case h_2 => exact nomatch h

/-- **The destination is none of the names the installation uses
itself.** -/
theorem destinationPath_ne (hf : fileOf sha256 path = some f) (parent : TreePath)
    (ending : String) : f.destinationPath ≠ parent ++ [secretName sha256 ending other] := by
  obtain ⟨last, -, hmark, rfl⟩ := fileOf_eq_some hf
  intro h
  have hlast : last = secretName sha256 ending other :=
    List.singleton_inj.mp (List.append_inj_right' h rfl)
  rw [hlast, toList_secretName] at hmark
  exact hmark (List.prefix_append _ _)

/-- The file as it was before anything was done. -/
def PreparedFile.reset (f : PreparedFile) : PreparedFile :=
  { f with staged := false, backedUp := false, committed := false }

/-- The names of a file are those of its path, whatever was done with it
so far. -/
def PreparedFile.IsFor (sha256 : List UInt8 → Digest) (f : PreparedFile) : Prop :=
  fileOf sha256 f.path = some f.reset

namespace PreparedFile.IsFor

theorem of_fileOf (h : fileOf sha256 path = some f) : f.IsFor sha256 ∧ f.path = path := by
  have hf := h
  obtain ⟨last, -, -, rfl⟩ := fileOf_eq_some h
  exact ⟨hf, rfl⟩

theorem names (hf : f.IsFor sha256) : f.parent = parentsOf f.path
    ∧ f.staging = stagingName sha256 f.path ∧ f.backup = backupName sha256 f.path := by
  obtain ⟨last, -, -, h⟩ := fileOf_eq_some hf
  exact ⟨congrArg parent h, congrArg staging h, congrArg backup h⟩

theorem destination_ne_staging (hf : f.IsFor sha256) (hg : g.IsFor sha256) :
    f.destinationPath ≠ g.stagingPath := by
  rw [stagingPath, hg.names.2.1]
  exact destinationPath_ne hf _ _

theorem destination_ne_backup (hf : f.IsFor sha256) (hg : g.IsFor sha256) :
    f.destinationPath ≠ g.backupPath := by
  rw [backupPath, hg.names.2.2]
  exact destinationPath_ne hf _ _

theorem staging_ne_backup (hf : f.IsFor sha256) (hg : g.IsFor sha256) :
    f.stagingPath ≠ g.backupPath := by
  rw [stagingPath, backupPath, hf.names.2.1, hg.names.2.2]
  exact fun h => stagingName_ne_backupName (List.singleton_inj.mp (List.append_inj_right' h rfl))

/-- Two files have different staging names, unless the digests of their
paths are the same. -/
theorem staging_inj (hf : f.IsFor sha256) (hg : g.IsFor sha256)
    (h : f.stagingPath = g.stagingPath) : sha256 (utf8 f.path) = sha256 (utf8 g.path) := by
  rw [stagingPath, stagingPath, hf.names.2.1, hg.names.2.1] at h
  exact secretName_inj (List.singleton_inj.mp (List.append_inj_right' h rfl))

theorem backup_inj (hf : f.IsFor sha256) (hg : g.IsFor sha256)
    (h : f.backupPath = g.backupPath) : sha256 (utf8 f.path) = sha256 (utf8 g.path) := by
  rw [backupPath, backupPath, hf.names.2.2, hg.names.2.2] at h
  exact secretName_inj (List.singleton_inj.mp (List.append_inj_right' h rfl))

end PreparedFile.IsFor

end FileOf

/-! ## The group -/

/-- The first loop of `install_at`: the files prepared, and how it
ended. -/
def prepareAll (sha256 : List UInt8 → Digest) : List (String × String) → List PreparedFile →
    Program (FileCall Site) FileReply (List PreparedFile × Except FileSecretError Unit)
  | [], prepared => return (prepared, .ok ())
  | (path, value) :: rest, prepared => do
    match ← (PreparedFile.prepare sha256 path).run with
    | .error e => return (prepared, .error e)
    | .ok file =>
      match ← file.write (utf8 value) with
      | (file, .error e) => return (prepared ++ [file], .error e)
      | (file, .ok ()) => prepareAll sha256 rest (prepared ++ [file])

/-- The second loop of `install_at`: the files done and those to do. -/
def commitAll (beforeCommit : ℕ → Except FileSecretError Unit) :
    List PreparedFile → List PreparedFile →
    Program (FileCall Site) FileReply (List PreparedFile × Except FileSecretError Unit)
  | committed, [] => return (committed, .ok ())
  | committed, file :: rest =>
    match beforeCommit committed.length with
    | .error e => return (committed ++ file :: rest, .error e)
    | .ok () => do
      match ← file.commit with
      | (file, .error e) => return (committed ++ file :: rest, .error e)
      | (file, .ok ()) => commitAll beforeCommit (committed ++ [file]) rest

/-- The loop over the files in reverse: whether a rollback failed. -/
def rollbackAll : List PreparedFile → Bool → Program (FileCall Site) FileReply Bool
  | [], rollbackFailed => return rollbackFailed
  | file :: rest, rollbackFailed => do
    let outcome ← file.rollback.run
    rollbackAll rest (rollbackFailed || !outcome.isOk)

/-- The last loop of `install_at`. -/
def cleanup : List PreparedFile → Installer Unit
  | [] => return ()
  | file :: rest => do
    let site := Site.mk .cleanup file.path
    onlyIf file.backedUp (unlink (site .removeBackup) file.backupPath)
    syncAll (site .sync) file.parent .install
    cleanup rest

/-- What follows the two loops: the files are rolled back, or the backups
removed. -/
def settle : List PreparedFile × Except FileSecretError Unit → Installer Unit
  | (prepared, .ok ()) => cleanup prepared
  | (prepared, .error e) => ExceptT.mk do
    let rollbackFailed ← rollbackAll prepared.reverse false
    return .error (if rollbackFailed then .rollback else e)

/-- `install_at`. -/
def installAt (sha256 : List UInt8 → Digest) (files : StringMap)
    (beforeCommit : ℕ → Except FileSecretError Unit) : Installer Unit := ExceptT.mk do
  match ← prepareAll sha256 files.toList [] with
  | (prepared, .error e) => settle (prepared, .error e)
  | (prepared, .ok ()) =>
    let committed ← commitAll beforeCommit [] prepared
    settle committed

/-- `install_secret_files`. -/
def installSecretFiles (sha256 : List UInt8 → Digest) (files : StringMap) : Installer Unit :=
  installAt sha256 files fun _ => .ok ()

/-! ## The files of a group -/

section Files

variable (sha256 : List UInt8 → Digest) (files : StringMap)

/-- The files of a group: those of the declared paths that `prepare`
takes. -/
def group : List PreparedFile := files.keys.filterMap (fileOf sha256)

/-- The digests of the declared paths are different. -/
def DigestsDiffer : Prop :=
  ∀ path ∈ files, ∀ other ∈ files, sha256 (utf8 path) = sha256 (utf8 other) → path = other

/-- There are no files from an interrupted installation. -/
def NoLeftovers (t : FileTree) : Prop :=
  ∀ f ∈ group sha256 files, t f.stagingPath = none ∧ t f.backupPath = none

instance (t : FileTree) : Decidable (NoLeftovers sha256 files t) :=
  inferInstanceAs (Decidable (∀ f ∈ group sha256 files,
    t f.stagingPath = none ∧ t f.backupPath = none))

variable {sha256 files}

theorem mem_group {f : PreparedFile} :
    f ∈ group sha256 files ↔ f.path ∈ files ∧ fileOf sha256 f.path = some f := by
  rw [group, List.mem_filterMap]
  constructor
  · rintro ⟨path, hpath, hf⟩
    obtain ⟨-, rfl⟩ := PreparedFile.IsFor.of_fileOf hf
    exact ⟨Std.ExtTreeMap.mem_keys.mp hpath, hf⟩
  · rintro ⟨hpath, hf⟩
    exact ⟨f.path, Std.ExtTreeMap.mem_keys.mpr hpath, hf⟩

theorem mem_of_mem_toList {path value : String} (h : (path, value) ∈ files.toList) :
    path ∈ files := by
  rw [← Std.ExtTreeMap.mem_keys, ← Std.ExtTreeMap.map_fst_toList_eq_keys]
  exact List.mem_map_of_mem h

end Files
