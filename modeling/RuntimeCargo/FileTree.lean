import RuntimeCargo.Program

/-!
# A tree of files, and the calls that change it

A tree says what stands at each path; the root stands for itself and is a
directory. The calls are those a careful installer makes: relative to open
directories, following no link, so that a path is the list of its names
and nothing redirects it. A directory that was opened stays where it is,
since no call here removes or moves one.

Any call may fail for a reason that is not in the tree (`FileCall.step`):
the faults say which ones. A call that fails leaves the tree as it was,
except that a write may have got some way; the same holds for a process
that is gone in the middle of a call (`FileCall.torn`).
-/

open Function

/-- The names from the root. -/
abbrev TreePath := List String

/-- What can stand at a path. -/
inductive Node where
  | dir
  | file (content : List UInt8)
  /-- A link, a device, a socket. -/
  | other
  deriving DecidableEq

/-- What stands at each path. -/
abbrev FileTree := TreePath → Option Node

/-- What a rename leaves. -/
def FileTree.move (t : FileTree) (source target : TreePath) : FileTree :=
  update (update t source none) target (t source)

section Move

variable {t : FileTree} {source target x : TreePath}

theorem FileTree.move_target : t.move source target target = t source := update_self _ _ _

theorem FileTree.move_source (h : source ≠ target) : t.move source target source = none := by
  rw [move, update_of_ne h, update_self]

theorem FileTree.move_of_ne (hsource : x ≠ source) (htarget : x ≠ target) :
    t.move source target x = t x := by
  rw [move, update_of_ne htarget, update_of_ne hsource]

/-- Where a directory stands after a rename, one stood before. -/
theorem FileTree.dir_of_move (hsource : t source ≠ some .dir)
    (h : t.move source target x = some .dir) : t x = some .dir := by
  by_cases hxt : x = target
  · rw [hxt, move_target] at h
    exact absurd h hsource
  · by_cases hxs : x = source
    · rw [hxs, move_source (hxs ▸ hxt)] at h
      exact nomatch h
    · rwa [move_of_ne hxs hxt] at h

end Move

inductive Errno where
  | notFound
  | alreadyExists
  | other
  deriving DecidableEq

/-- The calls. -/
inductive FileOp where
  /-- `openat` with `O_DIRECTORY | O_NOFOLLOW`. -/
  | openDir (path : TreePath)
  | mkdir (path : TreePath)
  /-- `fstatat` with `AT_SYMLINK_NOFOLLOW`. -/
  | stat (path : TreePath)
  /-- `renameat2`. -/
  | rename (source target : TreePath) (noReplace : Bool)
  | unlink (path : TreePath)
  /-- `openat` with `O_CREAT | O_EXCL`. -/
  | create (path : TreePath)
  /-- `write_all` to a file that was created. -/
  | write (path : TreePath) (content : List UInt8)
  | sync (path : TreePath)

/-- An error, or what `stat` finds. -/
abbrev FileReply := Except Errno (Option Node)

namespace FileOp

/-- What a call does. Directories are not renamed here. -/
def exec : FileOp → FileTree → FileReply × FileTree
  | openDir path, t =>
    if path = [] then (.ok none, t) else
    match t path with
    | some .dir => (.ok none, t)
    | some _ => (.error .other, t)
    | none => (.error .notFound, t)
  | mkdir path, t =>
    match t path with
    | none => (.ok none, update t path (some .dir))
    | some _ => (.error .alreadyExists, t)
  | stat path, t =>
    match t path with
    | none => (.error .notFound, t)
    | some node => (.ok (some node), t)
  | rename source target noReplace, t =>
    match t source, t target with
    | none, _ => (.error .notFound, t)
    | some .dir, _ => (.error .other, t)
    | some _, some .dir => (.error .other, t)
    | some _, none => (.ok none, t.move source target)
    | some _, some _ =>
      if noReplace then (.error .alreadyExists, t) else (.ok none, t.move source target)
  | unlink path, t =>
    match t path with
    | none => (.error .notFound, t)
    | some .dir => (.error .other, t)
    | some _ => (.ok none, update t path none)
  | create path, t =>
    match t path with
    | none => (.ok none, update t path (some (.file [])))
    | some _ => (.error .alreadyExists, t)
  | write path content, t =>
    match t path with
    | some (.file _) => (.ok none, update t path (some (.file content)))
    | _ => (.error .other, t)
  | sync _, t => (.ok none, t)

/-- What a call leaves that did not get through: a write that came to an
end after `k` bytes, or the tree as it was. -/
def torn (k : ℕ) : FileOp → FileTree → FileTree
  | write path content, t => (exec (write path (content.take k)) t).2
  | _, t => t

end FileOp

/-- A call of a program, and where it is made. -/
structure FileCall (L : Type) where
  site : L
  op : FileOp

namespace FileCall

variable {L : Type} (fault : L → Option ℕ)

/-- A call that may fail: the faults give the sites of those that do, and
how far a write gets. -/
def step (c : FileCall L) (t : FileTree) : FileReply × FileTree :=
  match fault c.site with
  | none => c.op.exec t
  | some k => (.error .other, c.op.torn k t)

/-- What is left when the process is gone inside a call. -/
def torn (c : FileCall L) (t t' : FileTree) : Prop := ∃ k, t' = c.op.torn k t

end FileCall

/-- Programs over a tree of files. -/
abbrev FileProgram (L α : Type) := Program (FileCall L) FileReply α

namespace FileProgram

variable {L α : Type} (fault : L → Option ℕ)

/-- The value of a program and the tree it leaves. -/
abbrev run (p : FileProgram L α) (t : FileTree) : α × FileTree := Program.run (FileCall.step fault) p t

/-- What a program does to a tree, under a condition on its calls. -/
abbrev Holds (ok : FileTree → FileCall L → Prop) (I : FileTree → Prop)
    (Q : α → FileTree → Prop) (p : FileProgram L α) (t : FileTree) : Prop :=
  Program.Holds (FileCall.step fault) FileCall.torn ok I Q p t

/-- The trees an interrupted run leaves. -/
abbrev Dies (ok : FileTree → FileCall L → Prop) (p : FileProgram L α) (t t' : FileTree) : Prop :=
  Program.Dies (FileCall.step fault) FileCall.torn ok p t t'

variable {fault} {ok : FileTree → FileCall L → Prop} {I : FileTree → Prop} {t : FileTree}

/-- **A call**: it goes through, or it fails. -/
theorem holds_perform {c : FileCall L} {Q : FileReply → FileTree → Prop}
    (htorn : ∀ k, I (c.op.torn k t))
    (hexec : ok t c → fault c.site = none → I (c.op.exec t).2 ∧ Q (c.op.exec t).1 (c.op.exec t).2)
    (hfail : ∀ k, ok t c → fault c.site = some k → Q (.error .other) (c.op.torn k t)) (hI : I t) :
    Holds fault ok I Q (Program.perform c) t := by
  refine Program.Holds.perform hI fun hok => ⟨?_, ?_⟩
  · rintro t' ⟨k, rfl⟩
    exact htorn k
  · rw [FileCall.step]
    split
    case h_1 hnone => exact hexec hok hnone
    case h_2 k hsome => exact ⟨htorn k, hfail k hok hsome⟩

end FileProgram
