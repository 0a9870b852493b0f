import RuntimeCargo.Trace

/-!
# A folder of files, and one failure

A file that others read is replaced in three steps: a new file is created
under another name, it is written, and it takes the place of the old one.
The folder in which this happens is kept by what is under each name, and the
calls are those of the file system.

A call may fail. How often is not left open here: in each run at most one
call fails (`FolderFault`), at a point that is not known before, and it leaves
what it was to change as it was – except that a write may have written some
of its bytes. Everything else does what it should, which includes that a
file is not created where there is one, and that nothing is renamed that is
not there.

A run is a `Program` in this world. Between two calls the files are what the
calls so far have made of them; during a write they are what some of the
bytes have made of them (`Folder.torn`).
-/

/-- What is under each name. -/
abbrev Files := String → Option (List UInt8)

/-- The calls of the file system. -/
inductive FolderCall where
  /-- Whether the folder is the one that was opened. -/
  | validate
  /-- A file is created where there is none. -/
  | createNew (name : String)
  | setPermissions (name : String)
  | writeAll (name : String) (bytes : List UInt8)
  | syncAll (name : String)
  | rename (source target : String)
  | exists (name : String)
  /-- What is under a name is removed; it may be gone already. -/
  | unlink (name : String)

/-- **A failure**: after so many calls, and what a write has written of its
bytes if it is a write that fails. -/
structure FolderFault where
  after : ℕ
  taken : ℕ

/-- A folder, and the failure that is to come. -/
structure Folder where
  files : Files
  fault : Option FolderFault

namespace Folder

/-- What a call does and replies if it does not fail. -/
def effect (c : FolderCall) (files : Files) : Bool × Files :=
  match c with
  | .validate | .setPermissions _ | .syncAll _ => (true, files)
  | .createNew name =>
    match files name with
    | none => (true, Function.update files name (some []))
    | some _ => (false, files)
  | .writeAll name bytes => (true, Function.update files name ((files name).map (· ++ bytes)))
  | .rename source target =>
    match files source with
    | none => (false, files)
    | some bytes => (true, Function.update (Function.update files source none) target (some bytes))
  | .exists name => ((files name).isSome, files)
  | .unlink name => (true, Function.update files name none)

/-- What a call has done when it fails or is interrupted. -/
def failing (c : FolderCall) (taken : ℕ) (files : Files) : Files :=
  match c with
  | .writeAll name bytes => Function.update files name ((files name).map (· ++ bytes.take taken))
  | _ => files

/-- **One call.** -/
def step (c : FolderCall) (w : Folder) : Bool × Folder :=
  match w.fault with
  | some ⟨0, taken⟩ => (false, ⟨failing c taken w.files, none⟩)
  | some ⟨n + 1, taken⟩ => ((effect c w.files).1, ⟨(effect c w.files).2, some ⟨n, taken⟩⟩)
  | none => ((effect c w.files).1, ⟨(effect c w.files).2, none⟩)

/-- What may be seen during a call. -/
def torn (c : FolderCall) (w w' : Folder) : Prop := ∃ taken, w'.files = failing c taken w.files

/-- **What a call may do**: it fails, and after that nothing fails; or it
does what it should. -/
theorem step_cases (c : FolderCall) (w : Folder) :
    (∃ taken, step c w = (false, ⟨failing c taken w.files, none⟩) ∧ w.fault ≠ none)
      ∨ ∃ fault, step c w = ((effect c w.files).1, ⟨(effect c w.files).2, fault⟩)
        ∧ (w.fault = none → fault = none) := by
  obtain ⟨files, fault⟩ := w
  cases fault with
  | none => exact .inr ⟨none, rfl, fun h => h⟩
  | some fault =>
    obtain ⟨n, taken⟩ := fault
    cases n with
    | zero => exact .inl ⟨taken, rfl, nofun⟩
    | succ n => exact .inr ⟨some ⟨n, taken⟩, rfl, nofun⟩

/-- Without a failure a call does what it should. -/
theorem step_none (c : FolderCall) (files : Files) :
    step c ⟨files, none⟩ = ((effect c files).1, ⟨(effect c files).2, none⟩) := rfl

end Folder
