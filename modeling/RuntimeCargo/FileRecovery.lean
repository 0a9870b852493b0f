import RuntimeCargo.FileInstalled

/-!
# An interrupted installation, and the next one

When the process is gone in the middle of an installation, the next one
starts from whatever is left. It looks for the backup of each file before
anything else and puts it back, so what counts as the old content of a
destination is its backup, where there is one (`recovered`). As long as
this is what stood there in the beginning, the first run can be recovered
from; the second run then either succeeds – and whether it leaves what it
should depends on the paths only – or is rolled back to that content.

There are three ways to lose it, and the theorem excludes just these. A
destination that was absent has no backup, so once the new file is in its
place nothing tells it from an old one. The loop that removes the backups
makes the new content the old one, file by file, so that a run that is
gone in the middle of it leaves a group of which some files will be rolled
back to the new content and others to the old. And a second run that fails
before it has found all the backups leaves those it did not find where
they are.
-/

open Function Program FileProgram

/-! ## What can be recovered -/

/-- What the next installation takes for the old content of a file. -/
def recovered (f : PreparedFile) (t : FileTree) : Option Node :=
  (t f.backupPath).or (t f.destinationPath)

section Recover

variable (sha256 : List UInt8 → Digest) (files : StringMap)

/-- No declared path leads through a name of the group. -/
def PathsSeparate : Prop :=
  ∀ f ∈ group sha256 files, ∀ path ∈ files,
    ∀ x ∈ [f.destinationPath, f.stagingPath, f.backupPath], ¬ x <+: parentsOf path

/-- There are no backups. -/
def NoBackups (t : FileTree) : Prop := ∀ f ∈ group sha256 files, t f.backupPath = none

/-- All the declared paths can be prepared. -/
def AllReady (t : FileTree) : Prop :=
  ∀ path ∈ files, ∃ f, fileOf sha256 path = some f ∧ Ready f t

/-- **A tree from which the old content can be recovered**: it is what the
next installation will take for it, and if there are backups the next
installation will find them all. -/
structure Recoverable (t₀ t : FileTree) : Prop where
  content : ∀ f ∈ group sha256 files, recovered f t = t₀ f.destinationPath
  ready : NoBackups sha256 files t ∨ AllReady sha256 files t

/-- The calls after which the old content can still be recovered: no
backup is removed, and a new file is moved only to where an old one was
backed up. -/
def StillRecoverable (t : FileTree) (c : FileCall Site) : Prop :=
  (c.site.phase = .cleanup → c.site.call ≠ .removeBackup)
    ∧ ∀ f ∈ group sha256 files, c.site = ⟨.commit, f.path, .replace⟩ → t f.backupPath ≠ none

instance (t : FileTree) (c : FileCall Site) : Decidable (StillRecoverable sha256 files t c) :=
  inferInstanceAs (Decidable ((c.site.phase = .cleanup → c.site.call ≠ .removeBackup)
    ∧ ∀ f ∈ group sha256 files, c.site = ⟨.commit, f.path, .replace⟩ → t f.backupPath ≠ none))

/-- No call fails, while files are prepared and staged, as long as there
are backups to be found. -/
def FindsBackups (fault : Site → Option ℕ) (t : FileTree) (c : FileCall Site) : Prop :=
  c.site.phase = .prepare ∨ c.site.phase = .write → fault c.site ≠ none → NoBackups sha256 files t

end Recover

section Recovery

variable {sha256 : List UInt8 → Digest} {files : StringMap} {f g : PreparedFile}
  {prepared : List PreparedFile} {t₀ t : FileTree} {x : TreePath} {v : Option Node}
  (hsha : DigestsDiffer sha256 files) (hdiffer : DestinationsDiffer sha256 files)
  (hsep : PathsSeparate sha256 files)

/-- **Two files have no name in common.** -/
theorem names_disjoint (hsha : DigestsDiffer sha256 files)
    (hdiffer : DestinationsDiffer sha256 files) (hf : f.IsFor sha256) (hg : g.IsFor sha256)
    (hfmem : f.path ∈ files) (hgmem : g.path ∈ files) (hne : f.path ≠ g.path) {x y : TreePath}
    (hx : x ∈ [f.destinationPath, f.stagingPath, f.backupPath])
    (hy : y ∈ [g.destinationPath, g.stagingPath, g.backupPath]) : x ≠ y := by
  obtain ⟨hS, hB⟩ := names_ne hsha hf hg hfmem hgmem hne
  simp only [List.mem_cons, List.not_mem_nil, or_false] at hx hy
  rcases hx with rfl | rfl | rfl <;> rcases hy with rfl | rfl | rfl
  · exact destination_ne hdiffer hf hg hfmem hgmem hne
  · exact hf.destination_ne_staging hg
  · exact hf.destination_ne_backup hg
  · exact (hg.destination_ne_staging hf).symm
  · exact hS
  · exact hf.staging_ne_backup hg
  · exact (hg.destination_ne_backup hf).symm
  · exact (hg.staging_ne_backup hf).symm
  · exact hB

/-- A change at a name of one file, to nothing or a file, leaves the files
ready. -/
theorem Ready.update (hsep : PathsSeparate sha256 files) (hf : f.IsFor sha256)
    (hfmem : f.path ∈ files) (hg : g ∈ group sha256 files) {t : FileTree} {x : TreePath}
    {v : Option Node} (hx : x ∈ [g.destinationPath, g.stagingPath, g.backupPath]) (hv : Plain v)
    (h : Ready f t) : Ready f (update t x v) := by
  have hplain : ∀ y, Plain (t y) → Plain (Function.update t x v y) := by
    intro y hy
    by_cases hyx : y = x
    · rwa [hyx, update_self]
    · rwa [update_of_ne hyx]
  refine ⟨fun y hy hne => ?_, hplain _ h.destination, hplain _ h.backup, hplain _ h.staging⟩
  rw [hf.names.1] at hy
  have hyx : y ≠ x := fun heq => hsep g hg f.path hfmem x hx (heq ▸ hy)
  rw [update_of_ne hyx]
  exact h.parents y (hf.names.1 ▸ hy) hne

/-! ## Changes of a tree that can be recovered from -/

/-- The one file of the group that has the path of another is that
other. -/
theorem eq_reset_of_mem_group (hf : f.IsFor sha256) (hg : g ∈ group sha256 files)
    (h : g.path = f.path) : g = f.reset := by
  have hfile := (mem_group.mp hg).2
  rw [h] at hfile
  exact Option.some.inj (hfile.symm.trans hf)

theorem isFor_of_mem_group (hg : g ∈ group sha256 files) : g.IsFor sha256 ∧ g.path ∈ files :=
  ⟨(PreparedFile.IsFor.of_fileOf (mem_group.mp hg).2).1, (mem_group.mp hg).1⟩

theorem NoBackups.update (h : NoBackups sha256 files t)
    (hx : ∀ g ∈ group sha256 files, x ≠ g.backupPath) : NoBackups sha256 files (update t x v) :=
  fun g hg => (update_of_ne (hx g hg).symm _ _).trans (h g hg)

theorem AllReady.update (hsep : PathsSeparate sha256 files) (hf : f.IsFor sha256)
    (hfmem : f.path ∈ files) (hx : x ∈ [f.destinationPath, f.stagingPath, f.backupPath])
    (hv : Plain v) (h : AllReady sha256 files t) : AllReady sha256 files (update t x v) := by
  intro path hpath
  obtain ⟨g, hg, hready⟩ := h path hpath
  obtain ⟨hgfor, rfl⟩ := PreparedFile.IsFor.of_fileOf hg
  exact ⟨g, hg, hready.update hsep hgfor hpath (reset_mem_group hf hfmem) hx hv⟩

theorem AllReady.plain_backup (h : AllReady sha256 files t) (hf : f.IsFor sha256)
    (hfmem : f.path ∈ files) : Plain (t f.backupPath) := by
  obtain ⟨g, hg, hready⟩ := h f.path hfmem
  obtain rfl := Option.some.inj (hg.symm.trans hf)
  exact hready.backup

/-- What is recovered does not depend on other paths. -/
theorem recovered_update (hB : x ≠ g.backupPath) (hD : x ≠ g.destinationPath) :
    recovered g (update t x v) = recovered g t := by
  rw [recovered, recovered, update_of_ne hB.symm, update_of_ne hD.symm]

variable {path : String}

/-- A directory on the way to a declared path is no name of the group. -/
theorem PathsSeparate.ne (hsep : PathsSeparate sha256 files) (hpath : path ∈ files)
    (hx : x <+: parentsOf path) (hf : f.IsFor sha256) (hfmem : f.path ∈ files) {y : TreePath}
    (hy : y ∈ [f.destinationPath, f.stagingPath, f.backupPath]) : x ≠ y := by
  rintro rfl
  exact hsep f.reset (reset_mem_group hf hfmem) path hpath x hy hx

theorem Ready.mkdir (hsep : PathsSeparate sha256 files) (hpath : path ∈ files)
    (hx : x <+: parentsOf path) (hf : f.IsFor sha256) (hfmem : f.path ∈ files) (h : Ready f t) :
    Ready f (Function.update t x (some .dir)) := by
  have hsame : ∀ y ∈ [f.destinationPath, f.stagingPath, f.backupPath],
      Function.update t x (some .dir) y = t y :=
    fun y hy => update_of_ne (hsep.ne hpath hx hf hfmem hy).symm _ _
  refine ⟨fun y hy hne => ?_, ?_, ?_, ?_⟩
  · by_cases hyx : y = x
    · exact .inr (by rw [hyx, update_self])
    · rw [update_of_ne hyx]
      exact h.parents y hy hne
  · rw [hsame _ (by simp)]; exact h.destination
  · rw [hsame _ (by simp)]; exact h.backup
  · rw [hsame _ (by simp)]; exact h.staging

/-- A new directory on the way to a declared path. -/
theorem Recoverable.mkdir (hsep : PathsSeparate sha256 files) (hpath : path ∈ files)
    (hx : x <+: parentsOf path) (h : Recoverable sha256 files t₀ t) :
    Recoverable sha256 files t₀ (update t x (some .dir)) := by
  have hne : ∀ g ∈ group sha256 files,
      ∀ y ∈ [g.destinationPath, g.stagingPath, g.backupPath], x ≠ y := fun g hg y hy =>
    hsep.ne hpath hx (isFor_of_mem_group hg).1 (isFor_of_mem_group hg).2 hy
  refine ⟨fun g hg => ?_, h.ready.imp
    (fun h => h.update fun g hg => hne g hg _ (by simp)) (fun h path' hpath' => ?_)⟩
  · rw [recovered_update (hne g hg _ (by simp)) (hne g hg _ (by simp))]
    exact h.content g hg
  · obtain ⟨g, hg, hready⟩ := h path' hpath'
    obtain ⟨hgfor, rfl⟩ := PreparedFile.IsFor.of_fileOf hg
    exact ⟨g, hg, hready.mkdir hsep hpath hx hgfor hpath'⟩

/-- A change of a staged file. -/
theorem Recoverable.updateStaging (hsep : PathsSeparate sha256 files) (hf : f.IsFor sha256)
    (hfmem : f.path ∈ files) (hv : Plain v) (h : Recoverable sha256 files t₀ t) :
    Recoverable sha256 files t₀ (update t f.stagingPath v) := by
  have hB : ∀ g ∈ group sha256 files, f.stagingPath ≠ g.backupPath := fun g hg =>
    hf.staging_ne_backup (isFor_of_mem_group hg).1
  refine ⟨fun g hg => ?_, h.ready.imp (fun h => h.update hB)
    (fun h => h.update hsep hf hfmem (by simp) hv)⟩
  rw [recovered_update (hB g hg) ((isFor_of_mem_group hg).1.destination_ne_staging hf).symm]
  exact h.content g hg

/-- A change of the destination of a file that has a backup. -/
theorem Recoverable.updateDestination (hdiffer : DestinationsDiffer sha256 files)
    (hsep : PathsSeparate sha256 files) (hf : f.IsFor sha256) (hfmem : f.path ∈ files)
    (hv : Plain v) (hB : t f.backupPath ≠ none) (h : Recoverable sha256 files t₀ t) :
    Recoverable sha256 files t₀ (update t f.destinationPath v) := by
  have hback : ∀ g ∈ group sha256 files, f.destinationPath ≠ g.backupPath := fun g hg =>
    hf.destination_ne_backup (isFor_of_mem_group hg).1
  refine ⟨fun g hg => ?_, h.ready.imp (fun h => h.update hback)
    (fun h => h.update hsep hf hfmem (by simp) hv)⟩
  rw [← h.content g hg]
  by_cases hpath : g.path = f.path
  · obtain rfl := eq_reset_of_mem_group hf hg hpath
    obtain ⟨node, hnode⟩ := Option.ne_none_iff_exists'.mp hB
    have hnode : t f.reset.backupPath = some node := hnode
    rw [recovered, recovered, update_of_ne (hback _ hg).symm, hnode, Option.some_or, Option.some_or]
  · obtain ⟨hgfor, hgmem⟩ := isFor_of_mem_group hg
    exact recovered_update (hback g hg) (destination_ne hdiffer hf hgfor hfmem hgmem (Ne.symm hpath))

include hsha hdiffer hsep in
/-- **The backup of a file is put back.** -/
theorem Recoverable.restore (hf : f.IsFor sha256) (hfmem : f.path ∈ files) (hB : t f.backupPath ≠ none)
    (h : Recoverable sha256 files t₀ t) :
    Recoverable sha256 files t₀ (t.move f.backupPath f.destinationPath) := by
  have hready : AllReady sha256 files t :=
    h.ready.resolve_left fun hnone => hB (hnone f.reset (reset_mem_group hf hfmem))
  have hplain := hready.plain_backup hf hfmem
  refine ⟨fun g hg => ?_, .inr ((hready.update hsep hf hfmem (by simp) (.inl rfl)).update hsep hf
    hfmem (by simp) hplain)⟩
  rw [← h.content g hg]
  by_cases hpath : g.path = f.path
  · obtain rfl := eq_reset_of_mem_group hf hg hpath
    obtain ⟨node, hnode⟩ := Option.ne_none_iff_exists'.mp hB
    have hmoved : recovered f (t.move f.backupPath f.destinationPath) = recovered f t := by
      rw [recovered, recovered, FileTree.move_source (hf.destination_ne_backup hf).symm,
        FileTree.move_target, hnode, Option.none_or, Option.some_or]
    exact hmoved
  · obtain ⟨hgfor, hgmem⟩ := isFor_of_mem_group hg
    have hne := fun x y => names_disjoint (x := x) (y := y) hsha hdiffer hf hgfor hfmem hgmem
      (Ne.symm hpath)
    rw [FileTree.move, recovered_update (hne _ _ (by simp) (by simp)) (hne _ _ (by simp) (by simp)),
      recovered_update (hne _ _ (by simp) (by simp)) (hne _ _ (by simp) (by simp))]

include hsha hdiffer hsep in
/-- **The old file becomes the backup.** -/
theorem Recoverable.backUp (hf : f.IsFor sha256) (hfmem : f.path ∈ files) (hready : AllReady sha256 files t)
    {content : List UInt8} (hD : t f.destinationPath = some (.file content))
    (hB : t f.backupPath = none) (h : Recoverable sha256 files t₀ t) :
    Recoverable sha256 files t₀ (t.move f.destinationPath f.backupPath)
      ∧ AllReady sha256 files (t.move f.destinationPath f.backupPath) := by
  have hready' : AllReady sha256 files (t.move f.destinationPath f.backupPath) :=
    (hready.update hsep hf hfmem (by simp) (.inl rfl)).update hsep hf hfmem (by simp)
      (.inr ⟨content, hD⟩)
  refine ⟨⟨fun g hg => ?_, .inr hready'⟩, hready'⟩
  rw [← h.content g hg]
  by_cases hpath : g.path = f.path
  · obtain rfl := eq_reset_of_mem_group hf hg hpath
    have hmoved : recovered f (t.move f.destinationPath f.backupPath) = recovered f t := by
      rw [recovered, recovered, FileTree.move_target, hD, hB, Option.none_or, Option.some_or]
    exact hmoved
  · obtain ⟨hgfor, hgmem⟩ := isFor_of_mem_group hg
    have hne := fun x y => names_disjoint (x := x) (y := y) hsha hdiffer hf hgfor hfmem hgmem
      (Ne.symm hpath)
    rw [FileTree.move, recovered_update (hne _ _ (by simp) (by simp)) (hne _ _ (by simp) (by simp)),
      recovered_update (hne _ _ (by simp) (by simp)) (hne _ _ (by simp) (by simp))]

/-- Without backups the old content is in its place. -/
theorem Recoverable.destination (h : Recoverable sha256 files t₀ t)
    (hnone : NoBackups sha256 files t) (hg : g ∈ group sha256 files) :
    t g.destinationPath = t₀ g.destinationPath := by
  rw [← h.content g hg, recovered, hnone g hg, Option.none_or]

/-! ## The first run -/

variable {fault : Site → Option ℕ} {ok : FileTree → FileCall Site → Prop}

/-- While files are prepared there are no backups, and those prepared stay
ready. -/
structure Preparing (sha256 : List UInt8 → Digest) (files : StringMap) (t₀ : FileTree)
    (prepared : List PreparedFile) (t : FileTree) : Prop where
  recoverable : Recoverable sha256 files t₀ t
  noBackups : NoBackups sha256 files t
  ready : ∀ f ∈ prepared, OnlyStaged sha256 f ∧ f.path ∈ files ∧ Ready f t

/-- A change of a staged file. -/
theorem Preparing.updateStaging (hsep : PathsSeparate sha256 files) (hf : f.IsFor sha256) (hfmem : f.path ∈ files)
    (hv : Plain v) (h : Preparing sha256 files t₀ prepared t) :
    Preparing sha256 files t₀ prepared (update t f.stagingPath v) where
  recoverable := h.recoverable.updateStaging hsep hf hfmem hv
  noBackups := h.noBackups.update fun _ hg => hf.staging_ne_backup (isFor_of_mem_group hg).1
  ready := fun g hg => by
    obtain ⟨hstaged, hgmem, hready⟩ := h.ready g hg
    exact ⟨hstaged, hgmem, hready.update hsep hstaged.isFor hgmem (reset_mem_group hf hfmem)
      (by simp [PreparedFile.reset, PreparedFile.stagingPath]) hv⟩

/-- When something fails, the prepared files are at most staged. -/
def Unmoved (sha256 : List UInt8 → Digest) (files : StringMap) (prepared : List PreparedFile) :
    Prop :=
  ∀ f ∈ prepared, f.IsFor sha256 ∧ f.path ∈ files ∧ f.backedUp = false ∧ f.committed = false

theorem Preparing.unmoved (h : Preparing sha256 files t₀ prepared t) :
    Unmoved sha256 files prepared := fun f hf =>
  have hstaged := (h.ready f hf).1
  ⟨hstaged.isFor, (h.ready f hf).2.1, hstaged.backedUp, hstaged.committed⟩

theorem Unmoved.concat {value : String} (h : Unmoved sha256 files prepared)
    (hf : NextFile sha256 files.toList prepared f value) (b : Bool) :
    Unmoved sha256 files (prepared ++ [{ f with staged := b }]) := by
  intro g hg
  rcases List.mem_append.mp hg with hg | hg
  · exact h g hg
  · rw [List.mem_singleton.mp hg]
    exact ⟨hf.isFor, mem_of_mem_toList hf.mem, hf.flags.2.1, hf.flags.2.2⟩

/-- **Preparing** leaves the old content where it is. -/
theorem prepare_preparing (hsep : PathsSeparate sha256 files) :
    PrepareInvariant fault ok (Recoverable sha256 files t₀) sha256 files.toList
      (Preparing sha256 files t₀)
      (fun prepared t => Recoverable sha256 files t₀ t ∧ Unmoved sha256 files prepared) where
  sound := fun h => h.recoverable
  prepareFails := fun _ h _ => ⟨h.recoverable, h.unmoved⟩
  mkdir := by
    intro prepared t x path value hmem h hx _ _
    have hpath := mem_of_mem_toList hmem
    refine ⟨h.recoverable.mkdir hsep hpath hx, h.noBackups.update fun g hg => ?_, fun f hf => ?_⟩
    · exact hsep.ne hpath hx (isFor_of_mem_group hg).1 (isFor_of_mem_group hg).2 (by simp)
    · obtain ⟨hstaged, hfmem, hready⟩ := h.ready f hf
      exact ⟨hstaged, hfmem, hready.mkdir hsep hpath hx hstaged.isFor hfmem⟩
  restore := by
    intro prepared t f value content hf h _ hB
    have hgroup := mem_group.mpr ⟨mem_of_mem_toList hf.mem, hf.fileOf⟩
    exact nomatch hB.symm.trans (h.noBackups f hgroup)
  unstage := by
    intro prepared t f value content hf h _
    exact h.updateStaging hsep hf.isFor (mem_of_mem_toList hf.mem) (.inl rfl)
  staged := by
    intro prepared t f value hf h hcleared
    have hfmem := mem_of_mem_toList hf.mem
    have hfile : Plain (some (.file (utf8 value))) := .inr ⟨_, rfl⟩
    have hnext := h.updateStaging (v := some (.file (utf8 value))) hsep hf.isFor hfmem hfile
    refine ⟨hnext.recoverable, hnext.noBackups, fun g hg => ?_⟩
    rcases List.mem_append.mp hg with hg | hg
    · exact hnext.ready g hg
    · have hready : Ready f t := ⟨fun x hx hne => .inr (hcleared.entered x hx hne),
        hcleared.destination, .inl hcleared.backup, .inl hcleared.staging⟩
      rw [List.mem_singleton.mp hg]
      have hready' := hready.update (v := some (.file (utf8 value))) hsep hf.isFor hfmem
        (reset_mem_group hf.isFor hfmem)
        (x := f.stagingPath) (by simp [PreparedFile.reset, PreparedFile.stagingPath]) hfile
      exact ⟨hf.onlyStaged, hfmem, hready'.parents, hready'.destination, hready'.backup,
        hready'.staging⟩
  started := by
    intro prepared t f value content hf h _
    exact h.recoverable.updateStaging hsep hf.isFor (mem_of_mem_toList hf.mem) (.inr ⟨_, rfl⟩)
  createFails := by
    intro prepared t f value hf h _
    have hunstaged : { f with staged := false } = f := by rw [← hf.flags.1]
    exact ⟨h.recoverable, hunstaged ▸ h.unmoved.concat hf false⟩
  writeFails := by
    intro prepared t f value content created hf h _ _
    exact ⟨h.recoverable.updateStaging hsep hf.isFor (mem_of_mem_toList hf.mem) (.inr ⟨_, rfl⟩),
      h.unmoved.concat hf true⟩

/-- While files are committed, every new file in its place has the old one
as its backup. -/
structure Committing (sha256 : List UInt8 → Digest) (files : StringMap) (t₀ : FileTree)
    (done rest : List PreparedFile) (t : FileTree) : Prop where
  paths : (done ++ rest).map PreparedFile.path = files.toList.map Prod.fst
  isFor : ∀ f ∈ done ++ rest, f.IsFor sha256 ∧ f.path ∈ files
  recoverable : Recoverable sha256 files t₀ t
  ready : AllReady sha256 files t
  kept : ∀ f ∈ done ++ rest, f.committed = true → t f.backupPath ≠ none

/-- A step with the first of the files to do. -/
theorem Committing.step {done rest : List PreparedFile} {t' : FileTree}
    (h : Committing sha256 files t₀ done (f :: rest) t) (hg : g.reset = f.reset)
    (hrecoverable : Recoverable sha256 files t₀ t') (hready : AllReady sha256 files t')
    (hself : g.committed = true → t' f.backupPath ≠ none)
    (hother : ∀ f' : PreparedFile, f'.IsFor sha256 → f'.path ∈ files → f'.path ≠ f.path →
      t' f'.backupPath = t f'.backupPath) :
    Committing sha256 files t₀ done (g :: rest) t' := by
  have hpath : g.path = f.path := show g.reset.path = f.reset.path by rw [hg]
  have hB : g.backupPath = f.backupPath := show g.reset.backupPath = f.reset.backupPath by rw [hg]
  have hnodup : ((done ++ f :: rest).map PreparedFile.path).Nodup := by
    rw [h.paths]
    exact files.nodup_keys
  refine ⟨?_, fun f' hf' => ?_, hrecoverable, hready, fun f' hf' hc => ?_⟩
  · have hpaths := h.paths
    rwa [List.map_append, List.map_cons, ← hpath, ← List.map_cons, ← List.map_append] at hpaths
  · rcases mem_of_mem_replaced hnodup hf' with rfl | ⟨hf', -⟩
    · rw [PreparedFile.IsFor, hpath, hg]
      exact h.isFor f (by simp)
    · exact h.isFor f' hf'
  · rcases mem_of_mem_replaced hnodup hf' with rfl | ⟨hf', hne⟩
    · exact hB ▸ hself hc
    · obtain ⟨hfor, hmem⟩ := h.isFor f' hf'
      rw [hother f' hfor hmem hne]
      exact h.kept f' hf' hc

include hsha hdiffer hsep in
/-- **Committing** keeps the old content, as a backup. -/
theorem commit_committing :
    CommitInvariant (StillRecoverable sha256 files) (Recoverable sha256 files t₀) sha256
      (Committing sha256 files t₀) where
  sound := fun h => h.recoverable
  backUp := by
    intro done f rest t content hf h hD hB
    obtain ⟨hfor, hfmem⟩ := h.isFor f (by simp)
    obtain ⟨hrecoverable, hready⟩ :=
      h.recoverable.backUp hsha hdiffer hsep hfor hfmem h.ready hD hB
    refine h.step rfl hrecoverable hready (fun hc => ?_) (fun g hg hgmem hne => ?_)
    · exact nomatch hc.symm.trans hf.committed
    · exact FileTree.move_of_ne (hfor.destination_ne_backup hg).symm
        (names_ne hsha hg hfor hgmem hfmem hne).2
  replace := by
    intro done f rest t b hf h hD hok _ hS
    obtain ⟨hfor, hfmem⟩ := h.isFor { f with backedUp := b } (by simp)
    change f.IsFor sha256 at hfor
    have hB : t f.backupPath ≠ none := hok.2 f.reset (reset_mem_group hfor hfmem) rfl
    have hSplain : Plain (t f.stagingPath) := by
      obtain ⟨g, hg, hready⟩ := h.ready f.path hfmem
      obtain rfl := Option.some.inj (hg.symm.trans hfor)
      exact hready.staging
    have hBmoved : ∀ g : PreparedFile, g.IsFor sha256 →
        t.move f.stagingPath f.destinationPath g.backupPath = t g.backupPath := fun g hg =>
      FileTree.move_of_ne (hfor.staging_ne_backup hg).symm (hfor.destination_ne_backup hg).symm
    refine h.step rfl ?_ ?_ (fun _ => ?_) (fun g hg _ _ => hBmoved g hg)
    · refine (h.recoverable.updateStaging hsep hfor hfmem (.inl rfl)).updateDestination hdiffer hsep
        hfor hfmem hSplain ?_
      rwa [update_of_ne (hfor.staging_ne_backup hfor).symm]
    · exact (h.ready.update hsep hfor hfmem (by simp) (.inl rfl)).update hsep hfor hfmem (by simp)
        hSplain
    · show t.move f.stagingPath f.destinationPath f.backupPath ≠ none
      rwa [hBmoved f hfor]
  next := by
    intro done f rest t b hf h
    have hlist : ∀ g : PreparedFile, done ++ [g] ++ rest = done ++ g :: rest := by simp
    refine ⟨?_, ?_, h.recoverable, h.ready, ?_⟩
    · rw [hlist]; exact h.paths
    · rw [hlist]; exact h.isFor
    · rw [hlist]; exact h.kept

include hsha hdiffer hsep in
/-- **Rolling back** keeps the old content: it is a backup until it is put
back. -/
theorem holds_rollback_recoverable
    (hfor : ∀ f ∈ prepared, f.IsFor sha256 ∧ f.path ∈ files)
    (hnodup : ∀ l f, l ++ [f] <+: prepared → f.backedUp = true → ∀ g ∈ l, g.path ≠ f.path)
    (h : Recoverable sha256 files t₀ t)
    (hkept : ∀ f ∈ prepared, f.committed = true → t f.backupPath ≠ none) (e : FileSecretError) :
    Holds fault ok (Recoverable sha256 files t₀) (fun _ _ => True) (settle (prepared, .error e)) t := by
  have hlast : ∀ {l : List PreparedFile} {f : PreparedFile}, l ++ [f] <+: prepared →
      f.IsFor sha256 ∧ f.path ∈ files := fun hl => hfor _ (hl.subset (by simp))
  have hinit : ∀ {l : List PreparedFile} {f : PreparedFile}, l ++ [f] <+: prepared →
      ∀ g ∈ l, g.IsFor sha256 ∧ g.path ∈ files := fun hl g hg => hfor _ (hl.subset (by simp [hg]))
  refine Holds.bind (holds_rollbackAll (J := fun l t => Recoverable sha256 files t₀ t
      ∧ ∀ f ∈ l, f.committed = true → t f.backupPath ≠ none) (fun _ _ hJ => hJ.1)
    (fun l f t hJ => ⟨hJ.1, fun g hg => hJ.2 g (by simp [hg])⟩) prepared
    (fun l f hl hc t hJ _ => ?_) (fun l f hl hb t hJ hB _ => ?_) (fun l f hl _ t hJ => ?_) false
    ⟨h, hkept⟩ (fun failed t hJ _ => ⟨hJ.1, trivial⟩))
  · obtain ⟨hffor, hfmem⟩ := hlast hl
    refine ⟨hJ.1.updateDestination hdiffer hsep hffor hfmem (.inl rfl) (hJ.2 f (by simp) hc),
      fun g hg hgc => ?_⟩
    rw [update_of_ne (hffor.destination_ne_backup (hinit hl g hg).1).symm]
    exact hJ.2 g (by simp [hg]) hgc
  · obtain ⟨hffor, hfmem⟩ := hlast hl
    refine ⟨hJ.1.restore hsha hdiffer hsep hffor hfmem hB, fun g hg hgc => ?_⟩
    obtain ⟨hgfor, hgmem⟩ := hinit hl g hg
    rw [FileTree.move_of_ne (names_ne hsha hgfor hffor hgmem hfmem (hnodup l f hl hb g hg)).2
      (hffor.destination_ne_backup hgfor).symm]
    exact hJ.2 g hg hgc
  · obtain ⟨hffor, hfmem⟩ := hlast hl
    refine ⟨hJ.1.updateStaging hsep hffor hfmem (.inl rfl), fun g hg hgc => ?_⟩
    rw [update_of_ne (hffor.staging_ne_backup (hinit hl g hg).1).symm]
    exact hJ.2 g hg hgc

include hsha hdiffer hsep in
/-- **An interrupted run can be recovered from**, wherever it was
interrupted. -/
theorem recoverable_of_dies (beforeCommit : ℕ → Except FileSecretError Unit)
    (hnone : NoBackups sha256 files t₀) :
    Holds fault (StillRecoverable sha256 files) (Recoverable sha256 files t₀) (fun _ _ => True)
      (installAt sha256 files beforeCommit) t₀ := by
  have hstart : Recoverable sha256 files t₀ t₀ :=
    ⟨fun f hf => by rw [recovered, hnone f hf, Option.none_or], .inl hnone⟩
  refine holds_installAt (prepare_preparing hsep) (commit_committing hsha hdiffer hsep)
    ⟨hstart, hnone, nofun⟩ (fun prepared t hpaths hstaged h => ?_) (fun prepared t h => ?_)
    (fun prepared t e h => ?_)
  · refine ⟨hpaths, fun f hf => ⟨(hstaged f hf).isFor, (h.ready f hf).2.1⟩, h.recoverable,
      fun path hpath => ?_, fun f hf hc => ?_⟩
    · rw [← Std.ExtTreeMap.mem_keys, ← Std.ExtTreeMap.map_fst_toList_eq_keys, ← hpaths] at hpath
      obtain ⟨f, hf, rfl⟩ := List.mem_map.mp hpath
      have hready := (h.ready f hf).2.2
      exact ⟨f.reset, (hstaged f hf).isFor, hready.parents, hready.destination, hready.backup,
        hready.staging⟩
    · exact nomatch hc.symm.trans (hstaged f hf).committed
  · refine holds_cleanup (J := Recoverable sha256 files t₀) (fun _ h => h) prepared
      (fun f _ _ t _ hok _ => absurd rfl (hok.1 rfl)) h.recoverable (fun _ => trivial)
      (fun _ _ _ _ => trivial)
  · rcases h with ⟨hrecoverable, hunmoved⟩ | ⟨done, rest, rfl, h⟩
    · refine holds_rollback_recoverable hsha hdiffer hsep
        (fun f hf => ⟨(hunmoved f hf).1, (hunmoved f hf).2.1⟩) (fun l f hl hb => ?_) hrecoverable
        (fun f hf hc => ?_) e
      · exact nomatch hb.symm.trans (hunmoved f (hl.subset (by simp))).2.2.1
      · exact nomatch hc.symm.trans (hunmoved f hf).2.2.2
    · refine holds_rollback_recoverable hsha hdiffer hsep h.isFor (fun l f hl _ g hg => ?_)
        h.recoverable h.kept e
      have hnodup : ((l ++ [f]).map PreparedFile.path).Nodup := by
        refine List.Nodup.sublist (hl.map _).sublist ?_
        rw [h.paths]
        exact files.nodup_keys
      rw [List.map_append, List.nodup_append] at hnodup
      exact hnodup.2.2 _ (List.mem_map_of_mem hg) _ (by simp)

/-! ## The second run -/

/-- While files are prepared again, the old content can be recovered, and
is back in its place for the files that are prepared. -/
structure Recovering (sha256 : List UInt8 → Digest) (files : StringMap) (t₀ : FileTree)
    (prepared : List PreparedFile) (t : FileTree) : Prop where
  recoverable : Recoverable sha256 files t₀ t
  restored : ∀ f ∈ prepared, OnlyStaged sha256 f ∧ f.path ∈ files ∧ t f.backupPath = none

/-- The files can be undone, and then the old content is in its place. -/
def Undoable (sha256 : List UInt8 → Digest) (files : StringMap) (t₀ : FileTree)
    (prepared : List PreparedFile) (t : FileTree) : Prop :=
  ∃ t₁, (∀ f ∈ group sha256 files, t₁ f.destinationPath = t₀ f.destinationPath)
    ∧ AsBefore files t₁ (undoAll prepared t)

/-- A failure is no harm once there are no backups. -/
theorem Recovering.undoable (h : Recovering sha256 files t₀ prepared t)
    (hnone : NoBackups sha256 files t) :
    Undoable sha256 files t₀ prepared t := by
  have hstaged : ∀ f ∈ prepared, OnlyStaged sha256 f := fun f hf => (h.restored f hf).1
  refine ⟨undoAll prepared t, fun f hf => ?_, fun x => .inl rfl⟩
  rw [undoAll_apply hstaged (destination_not_staged (isFor_of_mem_group hf).1 hstaged)]
  exact h.recoverable.destination hnone hf

/-- A change of a staged file. -/
theorem Recovering.updateStaging (hsep : PathsSeparate sha256 files) (hf : f.IsFor sha256) (hfmem : f.path ∈ files)
    (hv : Plain v) (h : Recovering sha256 files t₀ prepared t) :
    Recovering sha256 files t₀ prepared (update t f.stagingPath v) where
  recoverable := h.recoverable.updateStaging hsep hf hfmem hv
  restored := fun g hg => by
    obtain ⟨hstaged, hgmem, hB⟩ := h.restored g hg
    exact ⟨hstaged, hgmem, by rwa [update_of_ne (hf.staging_ne_backup hstaged.isFor).symm]⟩

include hsha hdiffer hsep in
/-- **Preparing again** puts the old content back. -/
theorem prepare_recovering :
    PrepareInvariant fault (FindsBackups sha256 files fault) (fun _ => True) sha256 files.toList
      (Recovering sha256 files t₀) (Undoable sha256 files t₀) where
  sound := fun _ => trivial
  started := fun _ _ _ _ => trivial
  mkdir := by
    intro prepared t x path value hmem h hx _ _
    have hpath := mem_of_mem_toList hmem
    refine ⟨h.recoverable.mkdir hsep hpath hx, fun f hf => ?_⟩
    obtain ⟨hstaged, hfmem, hB⟩ := h.restored f hf
    have hne := hsep.ne hpath hx hstaged.isFor hfmem (y := f.backupPath) (by simp)
    exact ⟨hstaged, hfmem, by rwa [update_of_ne hne.symm]⟩
  restore := by
    intro prepared t f value content hf h _ hB
    have hfmem := mem_of_mem_toList hf.mem
    refine ⟨h.recoverable.restore hsha hdiffer hsep hf.isFor hfmem (by rw [hB]; exact nofun),
      fun g hg => ?_⟩
    obtain ⟨hstaged, hgmem, hgB⟩ := h.restored g hg
    have hne : g.path ≠ f.path := fun heq => hf.new (heq ▸ List.mem_map_of_mem hg)
    refine ⟨hstaged, hgmem, ?_⟩
    rwa [FileTree.move_of_ne (names_ne hsha hstaged.isFor hf.isFor hgmem hfmem hne).2
      (hf.isFor.destination_ne_backup hstaged.isFor).symm]
  unstage := by
    intro prepared t f value content hf h _
    exact h.updateStaging hsep hf.isFor (mem_of_mem_toList hf.mem) (.inl rfl)
  staged := by
    intro prepared t f value hf h hcleared
    have hfmem := mem_of_mem_toList hf.mem
    have hnext := h.updateStaging (v := some (.file (utf8 value))) hsep hf.isFor hfmem
      (.inr ⟨_, rfl⟩)
    refine ⟨hnext.recoverable, fun g hg => ?_⟩
    rcases List.mem_append.mp hg with hg | hg
    · exact hnext.restored g hg
    · rw [List.mem_singleton.mp hg]
      exact ⟨hf.onlyStaged, hfmem,
        (update_of_ne (hf.isFor.staging_ne_backup hf.isFor).symm _ _).trans hcleared.backup⟩
  prepareFails := by
    rintro prepared t path value hmem h (⟨c, hphase, hfail, hok⟩ | hready)
    · exact h.undoable (hok (.inl hphase) hfail)
    · refine h.undoable (h.recoverable.ready.resolve_right fun hall => ?_)
      obtain ⟨f, hf, hready'⟩ := hall path (mem_of_mem_toList hmem)
      exact hready f hf hready'
  createFails := by
    rintro prepared t f value hf h ⟨c, hphase, hfail, hok⟩
    rw [Undoable, undoAll_append, undoAll_singleton,
      undo_of_fresh hf.flags.1 hf.flags.2.1 hf.flags.2.2]
    exact h.undoable (hok (.inr hphase) hfail)
  writeFails := by
    rintro prepared t f value content created hf h hcleared ⟨c, hphase, hfail, hok⟩
    rw [Undoable, undoAll_concat_staged hf hcleared.staging]
    refine h.undoable fun g hg => ?_
    have hB := hok (.inr hphase) hfail g hg
    rwa [update_of_ne (hf.isFor.staging_ne_backup (isFor_of_mem_group hg).1).symm] at hB

/-- Committing can be undone, as in the first run. -/
theorem commit_undoable (ok : FileTree → FileCall Site → Prop) (t₀ : FileTree)
    (hsha : DigestsDiffer sha256 files) :
    CommitInvariant ok (fun _ => True) sha256 (fun done rest t => ∃ t₁,
      (∀ f ∈ group sha256 files, t₁ f.destinationPath = t₀ f.destinationPath)
      ∧ CommittingFrom sha256 files t₁ done rest t) where
  sound := fun _ => trivial
  backUp := fun hf ⟨t₁, hD, h⟩ hdest hB =>
    ⟨t₁, hD, (commit_committingFrom ok t₁ hsha).backUp hf h hdest hB⟩
  replace := fun b hf ⟨t₁, hD, h⟩ hdest hok hS hdir =>
    ⟨t₁, hD, (commit_committingFrom ok t₁ hsha).replace b hf h hdest hok hS hdir⟩
  next := fun b hf ⟨t₁, hD, h⟩ => ⟨t₁, hD, (commit_committingFrom ok t₁ hsha).next b hf h⟩

include hsha hdiffer hsep in
/-- **The second run, if it fails, is rolled back to the old content.** -/
theorem holds_recovered {t₁ : FileTree} (beforeCommit : ℕ → Except FileSecretError Unit)
    (hcleanup : ∀ site, site.phase = .cleanup → fault site = none)
    (h : Recoverable sha256 files t₀ t₁) :
    Holds fault (FindsBackups sha256 files fault) (fun _ => True)
      (fun r t => ∀ e, r = .error e → e ≠ .rollback →
        ∀ f ∈ group sha256 files, t f.destinationPath = t₀ f.destinationPath)
      (installAt sha256 files beforeCommit) t₁ := by
  refine holds_installAt (prepare_recovering hsha hdiffer hsep) (commit_undoable _ t₀ hsha) ⟨h, nofun⟩
    (fun prepared t hpaths hstaged h => ?_)
    (fun prepared t ⟨_, _, h⟩ => h.cleanup_ok hcleanup fun _ e he => nomatch he)
    (fun prepared t e h => holds_settle_error prepared e fun e' t' hundone e'' he hne f hf => ?_)
  · have hnone : NoBackups sha256 files t := by
      intro f hf
      have hpath := (mem_group.mp hf).1
      rw [← Std.ExtTreeMap.mem_keys, ← Std.ExtTreeMap.map_fst_toList_eq_keys, ← hpaths] at hpath
      obtain ⟨g, hg, hgpath⟩ := List.mem_map.mp hpath
      obtain rfl := eq_reset_of_mem_group (hstaged g hg).isFor hf hgpath.symm
      exact (h.restored g hg).2.2
    obtain ⟨t₂, hD, hbefore⟩ := h.undoable hnone
    refine ⟨t₂, hD, fun f hf => ⟨(hstaged f hf).isFor, (h.restored f hf).2.1⟩, ?_,
      fun f hf => hstaged f (List.mem_of_mem_tail hf), hbefore, fun f hf hb => ?_⟩
    · rw [List.nil_append, hpaths]
      exact files.nodup_keys
    · exact nomatch hb.symm.trans (hstaged f hf).backedUp
  · obtain ⟨t₂, hD, hbefore⟩ : Undoable sha256 files t₀ prepared t := by
      rcases h with h | ⟨done, rest, rfl, t₂, hD, h⟩
      · exact h
      · exact ⟨t₂, hD, h.before⟩
    rw [hundone (Except.error.inj he ▸ hne)]
    rcases hbefore f.destinationPath with hsame | ⟨-, -, path, hpath, hparents⟩
    · rw [hsame, hD f hf]
    · exact absurd hparents (hsep f hf path hpath _ (by simp))

/-- **An interrupted installation, and the next one**: if that succeeds,
every declared path has its value and nothing else is left, and if it fails
and is rolled back, every destination has the content from before the
first. -/
theorem recovered_after_interruption {fault₁ fault₂ : Site → Option ℕ}
    (beforeCommit₁ beforeCommit₂ : ℕ → Except FileSecretError Unit)
    (hsha : DigestsDiffer sha256 files) (hdiffer : DestinationsDiffer sha256 files)
    (hsep : PathsSeparate sha256 files) (hnone : NoBackups sha256 files t₀) {t₁ t₂ : FileTree}
    (hdies : FileProgram.Dies fault₁ (StillRecoverable sha256 files)
      (installAt sha256 files beforeCommit₁) t₀ t₁)
    (hcleanup : ∀ site, site.phase = .cleanup → fault₂ site = none)
    (hkeeps : Keeps (FileCall.step fault₂) (FindsBackups sha256 files fault₂)
      (installAt sha256 files beforeCommit₂) t₁)
    {r : Except FileSecretError Unit}
    (hrun : FileProgram.run fault₂ (installAt sha256 files beforeCommit₂) t₁ = (r, t₂)) :
    (r = .ok () →
        (∀ path value, files[path]? = some value → openFile t₂ path = some (utf8 value))
        ∧ NoLeftovers sha256 files t₂)
      ∧ (∀ e, r = .error e → e ≠ .rollback →
        ∀ f ∈ group sha256 files, t₂ f.destinationPath = t₀ f.destinationPath) := by
  have hrecoverable := (recoverable_of_dies hsha hdiffer hsep beforeCommit₁ hnone).dies hdies
  have hapart : NamesApart sha256 files := fun f hf path hpath =>
    ⟨hsep f hf path hpath _ (by simp), hsep f hf path hpath _ (by simp)⟩
  have hinstalled := (holds_installed fault₂ t₁ beforeCommit₂ hsha).run
    (keeps_of_forall (fun _ _ => trivial) _ _)
  have hfailed := (holds_recovered hsha hdiffer hsep beforeCommit₂ hcleanup hrecoverable).run hkeeps
  rw [show Program.run _ _ _ = _ from hrun] at hinstalled hfailed
  exact ⟨fun hr => (hinstalled hr).2 hdiffer hapart, hfailed⟩

end Recovery

/-! ## Sample runs -/

/-- The tree in which the sample files are installed. -/
def sampleOld : FileTree := sampleTree [("a", "old a"), ("b", "old b")]

/-- The tree an installation of the sample files leaves that is gone after
some calls. -/
def sampleInterrupted (calls : ℕ) : FileTree :=
  after (FileCall.step noFault) calls (installAt sampleSha256 sampleFiles noHook) sampleOld

/-- The next installation, which fails when the second file is moved to its
place. -/
def sampleSecondRun (calls : ℕ) : Except FileSecretError Unit × FileTree :=
  FileProgram.run (failsAt ⟨.commit, "/b", .replace⟩) (installAt sampleSha256 sampleFiles noHook)
    (sampleInterrupted calls)

theorem pathsSeparate_sampleFiles : PathsSeparate sampleSha256 sampleFiles := by
  intro f _ path hpath x hx hparents
  rw [parentsOf_sampleFiles hpath, List.prefix_nil] at hparents
  subst hparents
  simp [PreparedFile.destinationPath, PreparedFile.stagingPath, PreparedFile.backupPath] at hx

/-- A run that is gone when both files are in place and the backups are
there: the next one fails, and the old content is back. -/
theorem sample_recovered_before_cleanup :
    (sampleSecondRun 22).1 = .error .install
      ∧ ∀ f ∈ group sampleSha256 sampleFiles,
        (sampleSecondRun 22).2 f.destinationPath = sampleOld f.destinationPath := by
  have herror : (sampleSecondRun 22).1 = .error .install := by decide +kernel
  have hdies : FileProgram.Dies noFault (StillRecoverable sampleSha256 sampleFiles)
      (installAt sampleSha256 sampleFiles noHook) sampleOld (sampleInterrupted 22) :=
    dies_after (fun t c => decide (StillRecoverable sampleSha256 sampleFiles t c))
      (fun _ _ => of_decide_eq_true) (by decide +kernel)
  refine ⟨herror, (recovered_after_interruption noHook noHook digestsDiffer_sampleFiles
    (by decide +kernel) pathsSeparate_sampleFiles ?_ hdies ?_ (keeps_of_forall ?_ _ _)
    (Prod.ext rfl rfl)).2 _ herror nofun⟩
  · show ∀ f ∈ group sampleSha256 sampleFiles, sampleOld f.backupPath = none
    decide +kernel
  · intro site hphase
    exact if_neg fun h => by rw [h] at hphase; exact nomatch hphase
  · rintro t c hphase hfail
    refine absurd (if_neg fun h => ?_) hfail
    rw [h] at hphase
    exact hphase.elim nofun nofun

/-- **A run that is gone while the backups are removed**: the next one
fails, and the group is rolled back to the new content of one file and the
old content of the other. -/
theorem interrupted_cleanup_mixes_the_group :
    FileProgram.Dies noFault (fun _ _ => True) (installAt sampleSha256 sampleFiles noHook) sampleOld
        (sampleInterrupted 23)
      ∧ NoLeftovers sampleSha256 sampleFiles sampleOld
      ∧ (sampleSecondRun 23).1 = .error .install
      ∧ sampleOld ["a"] = some (.file (utf8 "old a"))
      ∧ (sampleSecondRun 23).2 ["a"] = some (.file (utf8 "new a"))
      ∧ (sampleSecondRun 23).2 ["b"] = some (.file (utf8 "old b")) := by
  have hdies : FileProgram.Dies noFault (fun _ _ => True)
      (installAt sampleSha256 sampleFiles noHook) sampleOld (sampleInterrupted 23) :=
    dies_after (fun _ _ => true) (fun _ _ _ => trivial) (by decide +kernel)
  refine ⟨hdies, ?_, ?_, ?_, ?_, ?_⟩ <;> decide +kernel
