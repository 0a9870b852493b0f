import RuntimeCargo.FileSteps

/-!
# A failed installation restores what was there

When an installation fails, the caller is told so and goes on without the
secrets; the files that were there before must still be there. The reason
why they are is that the rollback of a file can be said as a function of
the tree (`PreparedFile.undo`), and every step of an installation leaves
the tree such that undoing the files prepared so far gives the tree from
before: a step and the flag it sets cancel (`undo_backUp`,
`undo_replace`). So the rollbacks, if they go through, end in the tree
from before, but for directories that were made on the way to a declared
path (`AsBefore`).

Two things are outside of this. The loop that removes the backups runs
after the last point from which there is a way back: when it fails, the
caller is told that the installation failed, and the new files stay.
And a directory that is made where a declared file would have been – for
another declared path, below it – stays as well.
-/

open PreparedFile FileTree FileProgram

open Function Program FileProgram

/-! ## Undoing -/

section Undo

variable {sha256 : List UInt8 → Digest} {f : PreparedFile} {t : FileTree}

theorem undo_of_fresh (hs : f.staged = false) (hb : f.backedUp = false)
    (hc : f.committed = false) : f.undo t = t := by
  simp only [undo, hs, hb, hc, Bool.false_eq_true, if_false]

theorem undo_of_onlyStaged (hf : OnlyStaged sha256 f) :
    f.undo t = update t f.stagingPath none := by
  simp only [undo, hf.staged, hf.backedUp, hf.committed, Bool.false_eq_true, if_false,
    if_true]

/-- **Moving the old file away is undone.** -/
theorem undo_backUp (hf : OnlyStaged sha256 f) (hB : t f.backupPath = none) :
    ({ f with backedUp := true } : PreparedFile).undo (t.move f.destinationPath f.backupPath)
      = f.undo t := by
  have hDB := hf.isFor.destination_ne_backup hf.isFor
  have hback : (t.move f.destinationPath f.backupPath).move f.backupPath f.destinationPath = t := by
    funext x
    by_cases hxD : x = f.destinationPath
    · rw [hxD, move_target, move_target]
    · by_cases hxB : x = f.backupPath
      · rw [hxB, move_source hDB.symm, hB]
      · rw [move_of_ne hxB hxD, move_of_ne hxD hxB]
  rw [undo_of_onlyStaged hf]
  simp only [undo, hf.staged, hf.committed, Bool.false_eq_true, if_false, if_true]
  exact congrArg (update · f.stagingPath none) hback

/-- **Moving the new file to its place is undone.** -/
theorem undo_replace (hf : OnlyStaged sha256 f) (b : Bool) (hD : t f.destinationPath = none) :
    ({ f with backedUp := b, staged := false, committed := true } : PreparedFile).undo
        (t.move f.stagingPath f.destinationPath)
      = ({ f with backedUp := b } : PreparedFile).undo t := by
  have hDS := hf.isFor.destination_ne_staging hf.isFor
  have hDB := hf.isFor.destination_ne_backup hf.isFor
  have hSB := hf.isFor.staging_ne_backup hf.isFor
  have hremoved : update (t.move f.stagingPath f.destinationPath) f.destinationPath none
      = update t f.stagingPath none := by
    rw [move, update_idem]
    exact update_eq_self_iff.mpr (by rw [update_of_ne hDS, hD])
  cases b with
  | false =>
    simp only [undo, hf.staged, hf.committed, Bool.false_eq_true, if_false, if_true]
    exact hremoved
  | true =>
    simp only [undo, hf.staged, hf.committed, Bool.false_eq_true, if_false, if_true]
    show move (update (t.move f.stagingPath f.destinationPath) f.destinationPath none)
      f.backupPath f.destinationPath
      = update (t.move f.backupPath f.destinationPath) f.stagingPath none
    rw [hremoved, move, move, update_of_ne hSB.symm, update_comm hSB,
      update_comm hDS.symm]

end Undo

section UndoAll

variable {sha256 : List UInt8 → Digest} {prepared : List PreparedFile} {t : FileTree}
  {x : TreePath}

theorem undoAll_append (l l' : List PreparedFile) : undoAll (l ++ l') t = undoAll l (undoAll l' t) :=
  List.foldr_append

theorem undoAll_singleton (f : PreparedFile) : undoAll [f] t = f.undo t := rfl

/-- **Undoing staged files** removes them. -/
theorem undoAll_of_onlyStaged (h : ∀ f ∈ prepared, OnlyStaged sha256 f) (t : FileTree)
    (x : TreePath) :
    undoAll prepared t x = if x ∈ prepared.map stagingPath then none else t x := by
  induction prepared with
  | nil => rfl
  | cons f rest ih =>
    obtain ⟨hf, hrest⟩ := List.forall_mem_cons.mp h
    show f.undo (undoAll rest t) x = _
    rw [undo_of_onlyStaged hf, List.map_cons]
    by_cases hx : x = f.stagingPath
    · rw [hx, update_self, if_pos List.mem_cons_self]
    · rw [update_of_ne hx, ih hrest]
      simp only [List.mem_cons, hx, false_or]

theorem undoAll_apply (h : ∀ f ∈ prepared, OnlyStaged sha256 f)
    (hx : x ∉ prepared.map stagingPath) : undoAll prepared t x = t x := by
  rw [undoAll_of_onlyStaged h, if_neg hx]

/-- What is changed where nothing is staged stays changed. -/
theorem undoAll_update (h : ∀ f ∈ prepared, OnlyStaged sha256 f)
    (hx : x ∉ prepared.map stagingPath) (v : Option Node) :
    undoAll prepared (update t x v) = update (undoAll prepared t) x v := by
  funext y
  by_cases hy : y = x
  · rw [hy, undoAll_apply h hx, update_self, update_self]
  · rw [update_of_ne hy, undoAll_of_onlyStaged h, undoAll_of_onlyStaged h, update_of_ne hy]

/-- What is changed where a file is staged is undone. -/
theorem undoAll_update_staging (h : ∀ f ∈ prepared, OnlyStaged sha256 f)
    (hx : x ∈ prepared.map stagingPath) (v : Option Node) :
    undoAll prepared (update t x v) = undoAll prepared t := by
  funext y
  rw [undoAll_of_onlyStaged h, undoAll_of_onlyStaged h]
  by_cases hy : y = x
  · rw [hy, if_pos hx, if_pos hx]
  · rw [update_of_ne hy]

theorem undoAll_move (h : ∀ f ∈ prepared, OnlyStaged sha256 f) {y : TreePath}
    (hx : x ∉ prepared.map stagingPath)
    (hy : y ∉ prepared.map stagingPath) :
    undoAll prepared (t.move x y) = (undoAll prepared t).move x y := by
  rw [move, undoAll_update h hy, undoAll_update h hx, move, undoAll_apply h hx]

/-- Only the staging name of a file is among the staged ones, and only if
the file is. -/
theorem destination_not_staged {f : PreparedFile} (hf : f.IsFor sha256)
    (h : ∀ g ∈ prepared, OnlyStaged sha256 g) :
    f.destinationPath ∉ prepared.map stagingPath := by
  intro hmem
  obtain ⟨g, hg, heq⟩ := List.mem_map.mp hmem
  exact hf.destination_ne_staging (h g hg).isFor heq.symm

theorem backup_not_staged {f : PreparedFile} (hf : f.IsFor sha256)
    (h : ∀ g ∈ prepared, OnlyStaged sha256 g) :
    f.backupPath ∉ prepared.map stagingPath := by
  intro hmem
  obtain ⟨g, hg, heq⟩ := List.mem_map.mp hmem
  exact (h g hg).isFor.staging_ne_backup hf heq

end UndoAll

section Group

variable {sha256 : List UInt8 → Digest} {files : StringMap}

/-- A file that is not prepared yet is not staged. -/
theorem staging_not_staged {f : PreparedFile} {prepared : List PreparedFile}
    (hsha : DigestsDiffer sha256 files) (hf : f.IsFor sha256) (hmem : f.path ∈ files)
    (h : ∀ g ∈ prepared, OnlyStaged sha256 g ∧ g.path ∈ files)
    (hnew : f.path ∉ prepared.map path) :
    f.stagingPath ∉ prepared.map stagingPath := by
  intro hstaged
  obtain ⟨g, hg, heq⟩ := List.mem_map.mp hstaged
  have hpath := hsha _ (h g hg).2 _ hmem ((h g hg).1.isFor.staging_inj hf heq)
  exact hnew (hpath ▸ List.mem_map_of_mem hg)

end Group

/-! ## What the loops keep -/

section Keep

variable {fault : Site → Option ℕ} {ok : FileTree → FileCall Site → Prop}
  {sha256 : List UInt8 → Digest} {files : StringMap} {t₀ : FileTree}

/-- **The tree is as it was**, but for new directories on the way to a
declared path. -/
def AsBefore (files : StringMap) (t₀ t : FileTree) : Prop :=
  ∀ x, t x = t₀ x ∨ (t₀ x = none ∧ t x = some .dir ∧ ∃ path ∈ files, x <+: parentsOf path)

/-- The prepared files are staged, and can be undone. -/
structure StagedFrom (sha256 : List UInt8 → Digest) (files : StringMap) (t₀ : FileTree)
    (prepared : List PreparedFile) (t : FileTree) : Prop where
  staged : ∀ f ∈ prepared, OnlyStaged sha256 f ∧ f.path ∈ files
  before : AsBefore files t₀ (undoAll prepared t)

variable {prepared : List PreparedFile} {t : FileTree} {f : PreparedFile}

theorem StagedFrom.onlyStaged (h : StagedFrom sha256 files t₀ prepared t) :
    ∀ f ∈ prepared, OnlyStaged sha256 f :=
  fun f hf => (h.staged f hf).1

/-- Where a file was not and is not staged, there is none. -/
theorem StagedFrom.none_of_none {x : TreePath} (h : StagedFrom sha256 files t₀ prepared t)
    (hx : x ∉ prepared.map stagingPath) (h₀ : t₀ x = none) (content : List UInt8) :
    t x ≠ some (.file content) := by
  intro hfile
  have hbefore := h.before x
  rw [undoAll_apply h.onlyStaged hx, hfile, h₀] at hbefore
  rcases hbefore with heq | ⟨-, heq, -⟩ <;> exact nomatch heq

/-- A new file is staged: undoing it removes it again. -/
theorem undoAll_concat_staged {value : String} {v : Option Node}
    (hf : NextFile sha256 files.toList prepared f value) (hS : t f.stagingPath = none) :
    undoAll (prepared ++ [{ f with staged := true }]) (update t f.stagingPath v)
      = undoAll prepared t := by
  rw [undoAll_append, undoAll_singleton, undo_of_onlyStaged hf.onlyStaged]
  show undoAll prepared (update (update t f.stagingPath v) f.stagingPath none) = _
  rw [update_idem, ← hS, update_eq_self]

/-- **Preparing can be undone.** -/
theorem prepare_stagedFrom (hsha : DigestsDiffer sha256 files)
    (hleft : NoLeftovers sha256 files t₀) :
    PrepareInvariant fault ok (fun _ => True) sha256 files.toList
      (StagedFrom sha256 files t₀) (fun prepared t => AsBefore files t₀ (undoAll prepared t)) where
  sound := fun _ => trivial
  started := fun _ _ _ _ => trivial
  prepareFails := fun _ h _ => h.before
  mkdir := by
    intro prepared t x path value hmem h hx _ hnone
    refine ⟨h.staged, ?_⟩
    by_cases hstaged : x ∈ prepared.map stagingPath
    · rw [undoAll_update_staging h.onlyStaged hstaged]
      exact h.before
    · rw [undoAll_update h.onlyStaged hstaged]
      intro y
      by_cases hy : y = x
      · have hbefore := h.before x
        rw [undoAll_apply h.onlyStaged hstaged, hnone] at hbefore
        rw [hy, update_self]
        exact .inr ⟨hbefore.elim Eq.symm And.left, rfl, path, mem_of_mem_toList hmem, hx⟩
      · rw [update_of_ne hy]
        exact h.before y
  restore := by
    intro prepared t f value content hf h _ hB
    have hgroup := hleft f (mem_group.mpr ⟨mem_of_mem_toList hf.mem, hf.fileOf⟩)
    exact absurd hB (h.none_of_none (backup_not_staged hf.isFor h.onlyStaged) hgroup.2 content)
  unstage := by
    intro prepared t f value content hf h hS
    have hgroup := hleft f (mem_group.mpr ⟨mem_of_mem_toList hf.mem, hf.fileOf⟩)
    exact absurd hS (h.none_of_none (staging_not_staged hsha hf.isFor (mem_of_mem_toList hf.mem)
      h.staged hf.new) hgroup.1 content)
  staged := by
    intro prepared t f value hf h hcleared
    refine ⟨fun g hg => ?_, ?_⟩
    · rcases List.mem_append.mp hg with hg | hg
      · exact h.staged g hg
      · exact List.mem_singleton.mp hg ▸ ⟨hf.onlyStaged, mem_of_mem_toList hf.mem⟩
    · rw [undoAll_concat_staged hf hcleared.staging]
      exact h.before
  createFails := by
    intro prepared t f value hf h _
    show AsBefore files t₀ (undoAll (prepared ++ [f]) t)
    rw [undoAll_append, undoAll_singleton, undo_of_fresh hf.flags.1 hf.flags.2.1 hf.flags.2.2]
    exact h.before
  writeFails := by
    intro prepared t f value content created hf h hcleared _
    show AsBefore files t₀ (undoAll _ _)
    rw [undoAll_concat_staged hf hcleared.staging]
    exact h.before

/-- While files are committed, all of them can be undone; those that wait
are staged. -/
structure CommittingFrom (sha256 : List UInt8 → Digest) (files : StringMap) (t₀ : FileTree)
    (done rest : List PreparedFile) (t : FileTree) : Prop where
  isFor : ∀ f ∈ done ++ rest, f.IsFor sha256 ∧ f.path ∈ files
  nodup : ((done ++ rest).map path).Nodup
  staged : ∀ f ∈ rest.tail, OnlyStaged sha256 f
  before : AsBefore files t₀ (undoAll (done ++ rest) t)
  backups : ∀ f ∈ done ++ rest, f.backedUp = true → t f.backupPath ≠ some .dir

/-- A step with the first of the files to do is kept if undoing it gives
what undoing gave before. -/
theorem CommittingFrom.step {done rest : List PreparedFile} {g : PreparedFile} {t' : FileTree}
    (h : CommittingFrom sha256 files t₀ done (f :: rest) t) (hg : g.reset = f.reset)
    (hundo : g.undo (undoAll rest t') = f.undo (undoAll rest t))
    (hdir : ∀ x, t' x = some .dir → t x = some .dir)
    (hbackup : g.backedUp = true → t f.backupPath ≠ some .dir) :
    CommittingFrom sha256 files t₀ done (g :: rest) t' := by
  have hpath : g.path = f.path := show g.reset.path = f.reset.path by rw [hg]
  have hgB : g.backupPath = f.backupPath := show g.reset.backupPath = f.reset.backupPath by rw [hg]
  have hmem : ∀ f' ∈ done ++ g :: rest, f' = g ∨ f' ∈ done ++ f :: rest := fun f' hf' =>
    (mem_of_mem_replaced h.nodup hf').imp_right And.left
  refine ⟨fun f' hf' => ?_, ?_, h.staged, ?_, fun f' hf' hb => ?_⟩
  · rcases hmem f' hf' with rfl | hf'
    · rw [PreparedFile.IsFor, hpath, hg]
      exact h.isFor f (by simp)
    · exact h.isFor f' hf'
  · have hnodup := h.nodup
    rwa [List.map_append, List.map_cons, ← hpath, ← List.map_cons, ← List.map_append] at hnodup
  · have hbefore := h.before
    rw [undoAll_append] at hbefore ⊢
    show AsBefore files t₀ (undoAll done (g.undo (undoAll rest t')))
    rw [hundo]
    exact hbefore
  · rcases hmem f' hf' with rfl | hf'
    · exact fun hd => hbackup hb (hgB ▸ hdir _ hd)
    · exact fun hd => h.backups f' hf' hb (hdir _ hd)

/-- The first of the files to do is not among the staged ones behind
it. -/
theorem CommittingFrom.not_staged {done rest : List PreparedFile}
    (h : CommittingFrom sha256 files t₀ done (f :: rest) t) (hsha : DigestsDiffer sha256 files) :
    f.destinationPath ∉ rest.map stagingPath
      ∧ f.backupPath ∉ rest.map stagingPath
      ∧ f.stagingPath ∉ rest.map stagingPath := by
  have hf := h.isFor f (by simp)
  have hrest : ∀ g ∈ rest, OnlyStaged sha256 g ∧ g.path ∈ files := fun g hg =>
    ⟨h.staged g hg, (h.isFor g (by simp [hg])).2⟩
  refine ⟨destination_not_staged hf.1 h.staged, backup_not_staged hf.1 h.staged,
    staging_not_staged hsha hf.1 hf.2 hrest ?_⟩
  have hnodup := h.nodup
  rw [List.map_append, List.map_cons, List.nodup_append] at hnodup
  exact (List.nodup_cons.mp hnodup.2.1).1

/-- **Committing can be undone.** -/
theorem commit_committingFrom (ok : FileTree → FileCall Site → Prop) (t₀ : FileTree)
    (hsha : DigestsDiffer sha256 files) :
    CommitInvariant ok (fun _ => True) sha256 (CommittingFrom sha256 files t₀) where
  sound := fun _ => trivial
  backUp := by
    intro done f rest t content hf h hD hB
    have hrest : ∀ g ∈ rest, OnlyStaged sha256 g := h.staged
    obtain ⟨hDrest, hBrest, -⟩ := h.not_staged hsha
    refine h.step rfl ?_ (fun x hx => ?_) ?_
    · rw [undoAll_move hrest hDrest hBrest]
      exact undo_backUp hf (by rwa [undoAll_apply hrest hBrest])
    · exact dir_of_move (by rw [hD]; exact nofun) hx
    · intro _
      rw [hB]
      exact nofun
  replace := by
    intro done f rest t b hf h hD _ _ hS
    have hrest : ∀ g ∈ rest, OnlyStaged sha256 g := h.staged
    obtain ⟨hDrest, -, hSrest⟩ := h.not_staged hsha
    change f.destinationPath ∉ _ at hDrest
    change f.stagingPath ∉ _ at hSrest
    refine h.step rfl ?_ (fun x hx => dir_of_move hS hx) ?_
    · rw [undoAll_move hrest hSrest hDrest]
      exact undo_replace hf b (by rwa [undoAll_apply hrest hDrest])
    · exact h.backups { f with backedUp := b } (by simp)
  next := by
    intro done f rest t b hf h
    have hlist : ∀ g : PreparedFile, done ++ [g] ++ rest = done ++ g :: rest := by simp
    refine ⟨?_, ?_, fun g hg => h.staged g (List.mem_of_mem_tail hg), ?_, ?_⟩
    · rw [hlist]; exact h.isFor
    · rw [hlist]; exact h.nodup
    · rw [hlist]; exact h.before
    · rw [hlist]; exact h.backups

end Keep

/-! ## The result -/

section Result

variable {fault : Site → Option ℕ} {sha256 : List UInt8 → Digest} {files : StringMap}
  {t₀ : FileTree}

/-- The last loop succeeds, unless a call of it fails. -/
theorem CommittingFrom.cleanup_ok {ok : FileTree → FileCall Site → Prop}
    {prepared : List PreparedFile} {t : FileTree}
    {Q : Except FileSecretError Unit → FileTree → Prop}
    (h : CommittingFrom sha256 files t₀ prepared [] t)
    (hcleanup : ∀ site, site.phase = .cleanup → fault site = none) (hok : ∀ t, Q (.ok ()) t) :
    Holds fault ok (fun _ => True) Q (cleanup prepared) t := by
  refine holds_cleanup (J := fun t => ∀ f ∈ prepared, f.backedUp = true →
    t f.backupPath ≠ some .dir) (fun _ _ => trivial) prepared (fun f hf hb t hJ _ _ g hg hgb => ?_)
    (by simpa using h.backups) (fun _ => hok _) ?_
  · by_cases heq : g.backupPath = f.backupPath
    · rw [heq, update_self]; exact nofun
    · rw [update_of_ne heq]; exact hJ g hg hgb
  · rintro e t hJ (⟨c, hc, hfail, -⟩ | ⟨f, hf, hb, hdir⟩)
    · exact absurd (hcleanup _ hc) hfail
    · exact absurd hdir (hJ f hf hb)

/-- **An installation that fails before its last loop leaves the tree as it
was.** -/
theorem asBefore_of_error (beforeCommit : ℕ → Except FileSecretError Unit)
    (hsha : DigestsDiffer sha256 files) (hleft : NoLeftovers sha256 files t₀)
    (hcleanup : ∀ site, site.phase = .cleanup → fault site = none) :
    Holds fault (fun _ _ => True) (fun _ => True)
      (fun r t => ∀ e, r = .error e → e ≠ .rollback → AsBefore files t₀ t)
      (installAt sha256 files beforeCommit) t₀ := by
  refine holds_installAt (prepare_stagedFrom hsha hleft) (commit_committingFrom _ t₀ hsha)
    ⟨nofun, fun x => .inl rfl⟩ (fun prepared t hpaths hstaged h => ?_) (fun prepared t h => ?_)
    (fun prepared t e h => holds_settle_error prepared e fun e' t' hundone e'' he hne => ?_)
  · refine ⟨fun f hf => ⟨(hstaged f hf).isFor, (h.staged f hf).2⟩, ?_,
      fun f hf => hstaged f (List.mem_of_mem_tail hf), h.before, fun f hf hb => ?_⟩
    · rw [List.nil_append, hpaths]
      exact files.nodup_keys
    · exact nomatch hb.symm.trans (hstaged f hf).backedUp
  · exact h.cleanup_ok hcleanup fun _ e he => nomatch he
  · rw [hundone (Except.error.inj he ▸ hne)]
    rcases h with h | ⟨done, rest, rfl, h⟩
    · exact h
    · exact h.before

end Result

/-! ## Sample runs -/

/-- SHA-256 of the paths of the sample runs. -/
def sampleSha256 (bytes : List UInt8) : Digest :=
  if bytes = utf8 "/a" then
    #v[106, 80, 220, 133, 132, 19, 76, 125, 229, 55, 192, 5, 47, 246, 210, 54, 191, 135, 67, 85,
      224, 80, 201, 5, 35, 224, 197, 255, 42, 84, 58, 40]
  else if bytes = utf8 "//a" then
    #v[92, 138, 35, 101, 163, 10, 27, 141, 254, 32, 191, 133, 89, 175, 191, 160, 157, 238, 65, 128,
      10, 135, 167, 113, 71, 252, 130, 15, 42, 99, 194, 183]
  else if bytes = utf8 "/a/b" then
    #v[102, 43, 123, 98, 167, 152, 187, 45, 83, 230, 124, 173, 151, 120, 225, 46, 72, 41, 124, 121,
      234, 233, 141, 58, 174, 113, 151, 190, 130, 93, 118, 143]
  else
    #v[152, 18, 176, 185, 214, 30, 9, 185, 39, 208, 63, 249, 63, 100, 83, 13, 143, 207, 55, 56, 16,
      183, 0, 113, 41, 235, 75, 32, 150, 36, 18, 203]

/-- Files with a content in a directory of their own. -/
def sampleTree (files : List (String × String)) : FileTree
  | [name] => (files.lookup name).map fun content => .file (utf8 content)
  | _ => none

/-- One call fails. -/
def failsAt (site other : Site) : Option ℕ := if other = site then some 0 else none

def noFault (_ : Site) : Option ℕ := none

/-- The hook of `install_secret_files`. -/
def noHook (_ : ℕ) : Except FileSecretError Unit := .ok ()

def sampleFile : StringMap := (∅ : StringMap).insert "/a" "new a"

def sampleFiles : StringMap := sampleFile.insert "/b" "new b"

theorem mem_sampleFiles {path : String} (h : path ∈ sampleFiles) : path = "/a" ∨ path = "/b" := by
  rw [sampleFiles, sampleFile, Std.ExtTreeMap.mem_insert, Std.ExtTreeMap.mem_insert,
    Std.LawfulEqCmp.compare_eq_iff_eq, Std.LawfulEqCmp.compare_eq_iff_eq] at h
  rcases h with h | h | h
  · exact .inr h.symm
  · exact .inl h.symm
  · exact absurd h Std.ExtTreeMap.not_mem_empty

theorem digestsDiffer_sampleFiles : DigestsDiffer sampleSha256 sampleFiles := by
  intro path hpath other hother h
  rcases mem_sampleFiles hpath with rfl | rfl <;> rcases mem_sampleFiles hother with rfl | rfl
  · rfl
  · exact absurd h (by decide +kernel)
  · exact absurd h (by decide +kernel)
  · rfl

theorem parentsOf_sampleFiles {path : String} (h : path ∈ sampleFiles) : parentsOf path = [] := by
  rcases mem_sampleFiles h with rfl | rfl <;> decide +kernel
