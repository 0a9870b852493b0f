import RuntimeCargo.FileRollback

/-!
# What a successful installation leaves

An installation that succeeds should leave every declared path with its
value, and nothing of its own. That depends on the paths more than on the
calls. The names of a group are made from the text of a declared path, and
the delivery holds no text twice; but the file a text stands for is found
by its components, from which repeated slashes and `.` are gone. Two texts
for one file are prepared as two files, committed one after the other, and
the second takes the place of the first. And a declared path may lead
through the very name another declared path is backed up under, which then
becomes a directory and stays.

`installed_iff` says that these are the only two ways: given that the
installation succeeded, everything is as it should be exactly if no two
declared paths stand for one file and none leads through a name the
installation uses itself. The invariant behind it says of each file how
far it is (`Stands`); a step with one file leaves the others alone because
their names are different.
-/

open Function Program FileProgram

/-! ## Opening a path -/

/-- The content found by opening a declared path: its parents are
directories, and a file is at its end. -/
def openFile (t : FileTree) (path : String) : Option (List UInt8) :=
  match checkPath path with
  | .ok (parents, last) =>
    if ∀ x ∈ parents.inits, x = [] ∨ t x = some .dir then
      match t (parents ++ [last]) with
      | some (.file content) => some content
      | _ => none
    else none
  | .error _ => none

theorem openFile_of_entered {sha256 : List UInt8 → Digest} {f : PreparedFile} {t : FileTree}
    {content : List UInt8} (hf : f.IsFor sha256) (hentered : Entered f.parent t)
    (hD : t f.destinationPath = some (.file content)) : openFile t f.path = some content := by
  obtain ⟨last, hcheck, -, hfresh⟩ := fileOf_eq_some hf
  have hparent : f.parent = parentsOf f.path := hf.names.1
  have hpath : f.destinationPath = parentsOf f.path ++ [last] :=
    congrArg PreparedFile.destinationPath hfresh
  rw [hparent] at hentered
  have hdirs : ∀ x ∈ (parentsOf f.path).inits, x = [] ∨ t x = some .dir := by
    intro x hx
    by_cases hne : x = []
    · exact .inl hne
    · exact .inr (hentered x ((List.mem_inits _ _).mp hx) hne)
  rw [hpath] at hD
  simp only [openFile, hcheck, if_pos hdirs, hD]

/-! ## The paths of a group -/

section Paths

variable (sha256 : List UInt8 → Digest) (files : StringMap)

/-- No two declared paths stand for one file. -/
def DestinationsDiffer : Prop :=
  ∀ f ∈ group sha256 files, ∀ g ∈ group sha256 files,
    f.destinationPath = g.destinationPath → f.path = g.path

instance : Decidable (DestinationsDiffer sha256 files) :=
  inferInstanceAs (Decidable (∀ f ∈ group sha256 files, ∀ g ∈ group sha256 files,
    f.destinationPath = g.destinationPath → f.path = g.path))

/-- No declared path leads through a name the installation uses for
another. -/
def NamesApart : Prop :=
  ∀ f ∈ group sha256 files, ∀ path ∈ files,
    ¬ f.stagingPath <+: parentsOf path ∧ ¬ f.backupPath <+: parentsOf path

variable {sha256 files} {f g : PreparedFile}

theorem reset_mem_group (hf : f.IsFor sha256) (hmem : f.path ∈ files) :
    f.reset ∈ group sha256 files :=
  mem_group.mpr ⟨hmem, hf⟩

/-- **The names of two files are different**, but for the destinations. -/
theorem names_ne (hsha : DigestsDiffer sha256 files) (hf : f.IsFor sha256) (hg : g.IsFor sha256)
    (hfmem : f.path ∈ files) (hgmem : g.path ∈ files) (hne : f.path ≠ g.path) :
    f.stagingPath ≠ g.stagingPath ∧ f.backupPath ≠ g.backupPath :=
  ⟨fun h => hne (hsha _ hfmem _ hgmem (hf.staging_inj hg h)),
    fun h => hne (hsha _ hfmem _ hgmem (hf.backup_inj hg h))⟩

theorem destination_ne (hdiffer : DestinationsDiffer sha256 files) (hf : f.IsFor sha256)
    (hg : g.IsFor sha256) (hfmem : f.path ∈ files) (hgmem : g.path ∈ files)
    (hne : f.path ≠ g.path) : f.destinationPath ≠ g.destinationPath :=
  fun h => hne (hdiffer f.reset (reset_mem_group hf hfmem) g.reset (reset_mem_group hg hgmem) h)

end Paths

/-! ## How far a file is -/

/-- **How far a file is**: its value is staged, or in its place, and there
is no backup but its own. -/
structure Stands (files : StringMap) (f : PreparedFile) (t : FileTree) : Prop where
  staged : f.committed = false →
    ∀ value, files[f.path]? = some value → t f.stagingPath = some (.file (utf8 value))
  moved : f.committed = true → t f.stagingPath = none
  installed : f.committed = true →
    ∀ value, files[f.path]? = some value → t f.destinationPath = some (.file (utf8 value))
  backup : f.backedUp = false → t f.backupPath = none

/-- A change elsewhere. -/
theorem Stands.congr {files : StringMap} {f : PreparedFile} {t t' : FileTree}
    (h : Stands files f t) (hS : t' f.stagingPath = t f.stagingPath)
    (hB : t' f.backupPath = t f.backupPath)
    (hD : f.committed = true → t' f.destinationPath = t f.destinationPath) :
    Stands files f t' where
  staged := fun hc => hS ▸ h.staged hc
  moved := fun hc => hS ▸ h.moved hc
  installed := fun hc => hD hc ▸ h.installed hc
  backup := fun hb => hB ▸ h.backup hb

/-- The files of an installation under way. How far they are is known if
their paths are as they should be. -/
structure Installing (sha256 : List UInt8 → Digest) (files : StringMap)
    (prepared : List PreparedFile) (t : FileTree) : Prop where
  isFor : ∀ f ∈ prepared, f.IsFor sha256 ∧ f.path ∈ files
  entered : ∀ f ∈ prepared, Entered f.parent t
  stands : DestinationsDiffer sha256 files → NamesApart sha256 files →
    ∀ f ∈ prepared, Stands files f t

section Keep

variable {fault : Site → Option ℕ} {ok : FileTree → FileCall Site → Prop}
  {sha256 : List UInt8 → Digest} {files : StringMap}

theorem Entered.move {parents source target : TreePath} {t : FileTree} (h : Entered parents t)
    (hsource : t source ≠ some .dir) (htarget : t target ≠ some .dir) :
    Entered parents (t.move source target) := by
  refine (h.update hsource).update ?_
  by_cases hne : target = source
  · rw [hne, update_self]; exact nofun
  · rwa [update_of_ne hne]

/-- **Preparing the next file** leaves those that are prepared. -/
theorem prepare_installing (hsha : DigestsDiffer sha256 files) :
    PrepareInvariant fault ok (fun _ => True) sha256 files.toList
      (fun prepared t => (∀ f ∈ prepared, OnlyStaged sha256 f) ∧ Installing sha256 files prepared t)
      (fun _ _ => True) where
  sound := fun _ => trivial
  started := fun _ _ _ _ => trivial
  prepareFails := fun _ _ _ => trivial
  createFails := fun _ _ _ => trivial
  writeFails := fun _ _ _ _ _ _ => trivial
  mkdir := by
    rintro prepared t x path value hmem ⟨hstaged, h⟩ hx _ hnone
    have hdir : t x ≠ some .dir := by rw [hnone]; exact nofun
    refine ⟨hstaged, h.isFor, fun f hf => (h.entered f hf).update hdir, fun hdiffer hapart f hf => ?_⟩
    -- The new directory is no name of a prepared file.
    obtain ⟨hfor, hfmem⟩ := h.isFor f hf
    have hnames := hapart _ (reset_mem_group hfor hfmem) path (mem_of_mem_toList hmem)
    refine (h.stands hdiffer hapart f hf).congr (update_of_ne ?_ _ _) (update_of_ne ?_ _ _) ?_
    · exact fun heq => hnames.1 (heq ▸ hx)
    · exact fun heq => hnames.2 (heq ▸ hx)
    · exact fun hc => nomatch hc.symm.trans (hstaged f hf).committed
  restore := by
    rintro prepared t g value content hg ⟨hstaged, h⟩ hD hB
    refine ⟨hstaged, h.isFor, fun f hf => (h.entered f hf).move (by rw [hB]; exact nofun) hD.ne_dir,
      fun hdiffer hapart f hf => ?_⟩
    obtain ⟨hfor, hfmem⟩ := h.isFor f hf
    have hne : f.path ≠ g.path := fun heq => hg.new (heq ▸ List.mem_map_of_mem hf)
    have hnames := names_ne hsha hfor hg.isFor hfmem (mem_of_mem_toList hg.mem) hne
    refine (h.stands hdiffer hapart f hf).congr (FileTree.move_of_ne ?_ ?_)
      (FileTree.move_of_ne hnames.2 ?_) ?_
    · exact hfor.staging_ne_backup hg.isFor
    · exact (hg.isFor.destination_ne_staging hfor).symm
    · exact (hg.isFor.destination_ne_backup hfor).symm
    · exact fun hc => nomatch hc.symm.trans (hstaged f hf).committed
  unstage := by
    rintro prepared t g value content hg ⟨hstaged, h⟩ hS
    refine ⟨hstaged, h.isFor, fun f hf => (h.entered f hf).update (by rw [hS]; exact nofun),
      fun hdiffer hapart f hf => ?_⟩
    obtain ⟨hfor, hfmem⟩ := h.isFor f hf
    have hne : f.path ≠ g.path := fun heq => hg.new (heq ▸ List.mem_map_of_mem hf)
    have hnames := names_ne hsha hfor hg.isFor hfmem (mem_of_mem_toList hg.mem) hne
    refine (h.stands hdiffer hapart f hf).congr (update_of_ne hnames.1 _ _) (update_of_ne ?_ _ _) ?_
    · exact (hg.isFor.staging_ne_backup hfor).symm
    · exact fun hc => nomatch hc.symm.trans (hstaged f hf).committed
  staged := by
    rintro prepared t g value hg ⟨hstaged, h⟩ hcleared
    have hdir : t g.stagingPath ≠ some .dir := by rw [hcleared.staging]; exact nofun
    have hmem : ∀ f ∈ prepared ++ [{ g with staged := true }], f ∈ prepared
        ∨ f = { g with staged := true } := by simp
    refine ⟨fun f hf => ?_, fun f hf => ?_, fun f hf => ?_, fun hdiffer hapart f hf => ?_⟩
    · rcases hmem f hf with hf | rfl
      · exact hstaged f hf
      · exact hg.onlyStaged
    · rcases hmem f hf with hf | rfl
      · exact h.isFor f hf
      · exact ⟨hg.isFor, mem_of_mem_toList hg.mem⟩
    · rcases hmem f hf with hf | rfl
      · exact (h.entered f hf).update hdir
      · exact hcleared.entered.update hdir
    · rcases hmem f hf with hf | rfl
      · obtain ⟨hfor, hfmem⟩ := h.isFor f hf
        have hne : f.path ≠ g.path := fun heq => hg.new (heq ▸ List.mem_map_of_mem hf)
        have hnames := names_ne hsha hfor hg.isFor hfmem (mem_of_mem_toList hg.mem) hne
        refine (h.stands hdiffer hapart f hf).congr (update_of_ne hnames.1 _ _)
          (update_of_ne ?_ _ _) ?_
        · exact (hg.isFor.staging_ne_backup hfor).symm
        · exact fun hc => nomatch hc.symm.trans (hstaged f hf).committed
      · refine ⟨fun _ value' hvalue => ?_, fun hc => ?_, fun hc => ?_, fun _ => ?_⟩
        · have hvalue₀ := Std.ExtTreeMap.mem_toList_iff_getElem?_eq_some.mp hg.mem
          obtain rfl := Option.some.inj (hvalue₀.symm.trans hvalue)
          exact update_self _ _ _
        · exact nomatch hc.symm.trans hg.flags.2.2
        · exact nomatch hc.symm.trans hg.flags.2.2
        · exact (update_of_ne (hg.isFor.staging_ne_backup hg.isFor).symm _ _).trans
            hcleared.backup

/-- The files while they are committed: those that are done are in their
place. -/
structure InstallingAll (sha256 : List UInt8 → Digest) (files : StringMap)
    (done rest : List PreparedFile) (t : FileTree) : Prop where
  paths : (done ++ rest).map PreparedFile.path = files.toList.map Prod.fst
  committed : ∀ f ∈ done, f.committed = true
  installing : Installing sha256 files (done ++ rest) t

theorem InstallingAll.nodup {done rest : List PreparedFile} {t : FileTree}
    (h : InstallingAll sha256 files done rest t) :
    ((done ++ rest).map PreparedFile.path).Nodup := by
  rw [h.paths]
  exact files.nodup_keys

/-- A step with the first of the files to do. -/
theorem InstallingAll.step {done rest : List PreparedFile} {f g : PreparedFile} {t t' : FileTree}
    (h : InstallingAll sha256 files done (f :: rest) t) (hg : g.reset = f.reset)
    (hentered : ∀ parents, Entered parents t → Entered parents t')
    (hself : Stands files f t → Stands files g t')
    (hother : DestinationsDiffer sha256 files → ∀ f' : PreparedFile, f'.IsFor sha256 →
      f'.path ∈ files → f'.path ≠ f.path → Stands files f' t → Stands files f' t') :
    InstallingAll sha256 files done (g :: rest) t' := by
  have hpath : g.path = f.path := show g.reset.path = f.reset.path by rw [hg]
  have hparent : g.parent = f.parent := show g.reset.parent = f.reset.parent by rw [hg]
  have hf : f ∈ done ++ f :: rest := by simp
  have hmem := fun f' => mem_of_mem_replaced (g := g) (h := f') h.nodup
  refine ⟨?_, h.committed, fun f' hf' => ?_, fun f' hf' => ?_, fun hdiffer hapart f' hf' => ?_⟩
  · have hpaths := h.paths
    rwa [List.map_append, List.map_cons, ← hpath, ← List.map_cons, ← List.map_append] at hpaths
  · rcases hmem f' hf' with rfl | ⟨hf', -⟩
    · rw [PreparedFile.IsFor, hpath, hg]
      exact h.installing.isFor f hf
    · exact h.installing.isFor f' hf'
  · rcases hmem f' hf' with rfl | ⟨hf', -⟩
    · exact hparent ▸ hentered _ (h.installing.entered f hf)
    · exact hentered _ (h.installing.entered f' hf')
  · have hstands := h.installing.stands hdiffer hapart
    rcases hmem f' hf' with rfl | ⟨hf', hne⟩
    · exact hself (hstands f hf)
    · obtain ⟨hfor, hfmem⟩ := h.installing.isFor f' hf'
      exact hother hdiffer f' hfor hfmem hne (hstands f' hf')

/-- **Committing a file** leaves the others. -/
theorem commit_installing (hsha : DigestsDiffer sha256 files) :
    CommitInvariant ok (fun _ => True) sha256 (InstallingAll sha256 files) where
  sound := fun _ => trivial
  backUp := by
    intro done f rest t content hf h hD hB
    obtain ⟨hfor, hfmem⟩ := h.installing.isFor f (by simp)
    have hDdir : t f.destinationPath ≠ some .dir := by rw [hD]; exact nofun
    have hBdir : t f.backupPath ≠ some .dir := by rw [hB]; exact nofun
    refine h.step rfl (fun _ he => he.move hDdir hBdir) (fun hs => ?_)
      (fun hdiffer g hg hgmem hne hs => ?_)
    · refine ⟨fun hc value hvalue => ?_, fun hc => ?_, fun hc => ?_, nofun⟩
      · refine (FileTree.move_of_ne ?_ ?_).trans (hs.staged hc value hvalue)
        · exact (hfor.destination_ne_staging hfor).symm
        · exact hfor.staging_ne_backup hfor
      · exact nomatch hc.symm.trans hf.committed
      · exact nomatch hc.symm.trans hf.committed
    · have hnames := names_ne hsha hg hfor hgmem hfmem hne
      refine hs.congr (FileTree.move_of_ne ?_ ?_) (FileTree.move_of_ne ?_ hnames.2)
        (fun _ => FileTree.move_of_ne ?_ ?_)
      · exact (hfor.destination_ne_staging hg).symm
      · exact hg.staging_ne_backup hfor
      · exact (hfor.destination_ne_backup hg).symm
      · exact destination_ne hdiffer hg hfor hgmem hfmem hne
      · exact hg.destination_ne_backup hfor
  replace := by
    intro done f rest t b hf h hD _ _ hS
    obtain ⟨hfor, hfmem⟩ := h.installing.isFor { f with backedUp := b } (by simp)
    change f.IsFor sha256 at hfor
    have hDdir : t f.destinationPath ≠ some .dir := by rw [hD]; exact nofun
    refine h.step rfl (fun _ he => he.move hS hDdir) (fun hs => ?_)
      (fun hdiffer g hg hgmem hne hs => ?_)
    · refine ⟨nofun, fun _ => FileTree.move_source (hfor.destination_ne_staging hfor).symm,
        fun _ value hvalue => ?_, fun hb => ?_⟩
      · exact FileTree.move_target.trans (hs.staged hf.committed value hvalue)
      · refine (FileTree.move_of_ne ?_ ?_).trans (hs.backup hb)
        · exact (hfor.staging_ne_backup hfor).symm
        · exact (hfor.destination_ne_backup hfor).symm
    · have hnames := names_ne hsha hg hfor hgmem hfmem hne
      refine hs.congr (FileTree.move_of_ne hnames.1 ?_) (FileTree.move_of_ne ?_ ?_)
        (fun _ => FileTree.move_of_ne ?_ ?_)
      · exact (hfor.destination_ne_staging hg).symm
      · exact (hfor.staging_ne_backup hg).symm
      · exact (hfor.destination_ne_backup hg).symm
      · exact hg.destination_ne_staging hfor
      · exact destination_ne hdiffer hg hfor hgmem hfmem hne
  next := by
    intro done f rest t b hf h
    have hlist : ∀ g : PreparedFile, done ++ [g] ++ rest = done ++ g :: rest := by simp
    refine ⟨by rw [hlist]; exact h.paths, fun g hg => ?_, by rw [hlist]; exact h.installing⟩
    rcases List.mem_append.mp hg with hg | hg
    · exact h.committed g hg
    · rw [List.mem_singleton.mp hg]

end Keep

/-! ## The end of an installation -/

/-- Removing the backups removes the backups. -/
theorem dropBackups_apply (prepared : List PreparedFile) (t : FileTree) (x : TreePath) :
    dropBackups prepared t x
      = if ∃ f ∈ prepared, f.backedUp = true ∧ f.backupPath = x then none else t x := by
  induction prepared generalizing t with
  | nil => rw [if_neg (by simp)]; rfl
  | cons f rest ih =>
    show dropBackups rest (if f.backedUp then update t f.backupPath none else t) x = _
    rw [ih]
    by_cases hrest : ∃ g ∈ rest, g.backedUp = true ∧ g.backupPath = x
    · rw [if_pos hrest, if_pos (List.exists_mem_cons_of_exists hrest)]
    · rw [if_neg hrest]
      by_cases hf : f.backedUp = true ∧ f.backupPath = x
      · rw [if_pos hf.1, ← hf.2, update_self, if_pos ⟨f, List.mem_cons_self, hf.1, rfl⟩]
      · have hnone : ¬ ∃ g ∈ f :: rest, g.backedUp = true ∧ g.backupPath = x := by
          rw [List.exists_mem_cons_iff]
          exact fun h => h.elim hf hrest
        rw [if_neg hnone]
        split
        case isTrue hb => rw [update_of_ne fun heq => hf ⟨hb, heq.symm⟩]
        case isFalse => rfl

section Result

variable {fault : Site → Option ℕ} {sha256 : List UInt8 → Digest} {files : StringMap}
  {t₀ t : FileTree}

variable {prepared : List PreparedFile}

/-- Every declared path has its file among the prepared ones. -/
theorem InstallingAll.exists_file {path : String} (h : InstallingAll sha256 files prepared [] t)
    (hpath : path ∈ files) :
    ∃ f ∈ prepared, f.path = path := by
  have hpaths := h.paths
  rw [List.append_nil] at hpaths
  rw [← Std.ExtTreeMap.mem_keys, ← Std.ExtTreeMap.map_fst_toList_eq_keys, ← hpaths] at hpath
  exact List.mem_map.mp hpath

/-- **When the backups are removed**, every path has its value and nothing
else is left – if the paths are as they should be. -/
theorem InstallingAll.installed (h : InstallingAll sha256 files prepared [] t)
    (hentered : ∀ path ∈ files, Entered (parentsOf path) (dropBackups prepared t))
    (hdiffer : DestinationsDiffer sha256 files) (hapart : NamesApart sha256 files) :
    (∀ path value, files[path]? = some value →
        openFile (dropBackups prepared t) path = some (utf8 value))
      ∧ NoLeftovers sha256 files (dropBackups prepared t) := by
  have hprepared : ∀ f ∈ prepared, f ∈ prepared ++ [] := by simp
  have hstands := fun f hf => h.installing.stands hdiffer hapart f (hprepared f hf)
  have hisFor := fun f hf => (h.installing.isFor f (hprepared f hf)).1
  refine ⟨fun path value hvalue => ?_, fun f hf => ?_⟩
  · have hentry := Std.ExtTreeMap.mem_toList_iff_getElem?_eq_some.mpr hvalue
    obtain ⟨f, hf, rfl⟩ := h.exists_file (mem_of_mem_toList hentry)
    have hmem := (h.installing.isFor f (hprepared f hf)).2
    refine openFile_of_entered (hisFor f hf) ((hisFor f hf).names.1 ▸ hentered _ hmem) ?_
    rw [dropBackups_apply, if_neg]
    · exact (hstands f hf).installed (h.committed f hf) value hvalue
    · rintro ⟨g, hg, -, heq⟩
      exact (hisFor f hf).destination_ne_backup (hisFor g hg) heq.symm
  · obtain ⟨hpath, hfile⟩ := mem_group.mp hf
    obtain ⟨g, hg, hgpath⟩ := h.exists_file hpath
    have hreset : g.reset = f := Option.some.inj ((hisFor g hg).symm.trans (hgpath ▸ hfile))
    subst hreset
    show dropBackups prepared t g.stagingPath = none ∧ dropBackups prepared t g.backupPath = none
    rw [dropBackups_apply, dropBackups_apply, if_neg]
    · refine ⟨(hstands g hg).moved (h.committed g hg), ?_⟩
      split
      case isTrue => rfl
      case isFalse hnot =>
        refine (hstands g hg).backup ?_
        exact Bool.eq_false_iff.mpr fun hb => hnot ⟨g, hg, hb, rfl⟩
    · rintro ⟨f', hf', -, heq⟩
      exact (hisFor g hg).staging_ne_backup (hisFor f' hf') heq.symm

/-- What holds when an installation succeeds. -/
theorem holds_installed (fault : Site → Option ℕ) (t₀ : FileTree)
    (beforeCommit : ℕ → Except FileSecretError Unit) (hsha : DigestsDiffer sha256 files) :
    Holds fault (fun _ _ => True) (fun _ => True) (fun r t => r = .ok () →
        (∀ path ∈ files, Entered (parentsOf path) t)
        ∧ (DestinationsDiffer sha256 files → NamesApart sha256 files →
          (∀ path value, files[path]? = some value → openFile t path = some (utf8 value))
          ∧ NoLeftovers sha256 files t))
      (installAt sha256 files beforeCommit) t₀ := by
  refine holds_installAt (prepare_installing hsha) (commit_installing hsha) ⟨nofun, nofun, nofun, nofun⟩
    (fun prepared t hpaths hstaged h => ⟨by simpa using hpaths, nofun, h.2⟩)
    (fun prepared t h => ?_) (fun prepared t e _ => ?_)
  · refine holds_cleanup (J := fun t => ∀ path ∈ files, Entered (parentsOf path) t)
      (fun _ _ => trivial) prepared
      (fun f _ _ t hJ _ hdir path hpath => (hJ path hpath).update hdir)
      (fun path hpath => ?_) (fun hentered _ => ?_) (fun e t _ _ h => nomatch h)
    · obtain ⟨f, hf, rfl⟩ := h.exists_file hpath
      have hmem : f ∈ prepared ++ [] := by simpa using hf
      exact (h.installing.isFor f hmem).1.names.1 ▸ h.installing.entered f hmem
    · exact ⟨hentered, h.installed hentered⟩
  · exact holds_settle_error prepared e fun _ _ _ h => nomatch h

/-- **What a successful installation leaves.** Every declared path has its
value, no two stand for one file, and nothing of the installation is
left – exactly if no two declared paths stand for one file and none leads
through a name the installation uses. -/
theorem installed_iff (beforeCommit : ℕ → Except FileSecretError Unit)
    (hsha : DigestsDiffer sha256 files)
    (hrun : FileProgram.run fault (installAt sha256 files beforeCommit) t₀ = (.ok (), t)) :
    ((∀ path value, files[path]? = some value → openFile t path = some (utf8 value))
        ∧ DestinationsDiffer sha256 files ∧ NoLeftovers sha256 files t)
      ↔ DestinationsDiffer sha256 files ∧ NamesApart sha256 files := by
  have hall : Keeps (FileCall.step fault) (fun _ _ => True) (installAt sha256 files beforeCommit) t₀ :=
    keeps_of_forall (fun _ _ => trivial) _ _
  have hholds := (holds_installed fault t₀ beforeCommit hsha).run hall
  rw [show Program.run _ _ _ = _ from hrun] at hholds
  obtain ⟨hentered, hinstalled⟩ := hholds rfl
  constructor
  · rintro ⟨-, hdiffer, hleft⟩
    refine ⟨hdiffer, fun f hf path hpath => ?_⟩
    have hthrough : ∀ x, t x = none → x ≠ [] → ¬ x <+: parentsOf path := fun x hnone hne hx =>
      nomatch hnone.symm.trans (hentered path hpath x hx hne)
    exact ⟨hthrough _ (hleft f hf).1 (by simp [PreparedFile.stagingPath]),
      hthrough _ (hleft f hf).2 (by simp [PreparedFile.backupPath])⟩
  · rintro ⟨hdiffer, hapart⟩
    obtain ⟨hvalues, hleft⟩ := hinstalled hdiffer hapart
    exact ⟨hvalues, hdiffer, hleft⟩

end Result

/-! ## Sample runs -/

/-- Two files are installed, one of which was there before. -/
theorem sampleFiles_installed :
    (FileProgram.run noFault (installAt sampleSha256 sampleFiles noHook)
        (sampleTree [("a", "old a")])).1 = .ok ()
      ∧ ∀ path value, sampleFiles[path]? = some value →
        openFile (FileProgram.run noFault (installAt sampleSha256 sampleFiles noHook)
          (sampleTree [("a", "old a")])).2 path = some (utf8 value) := by
  have hok : (FileProgram.run noFault (installAt sampleSha256 sampleFiles noHook)
      (sampleTree [("a", "old a")])).1 = .ok () := by decide +kernel
  refine ⟨hok, ((installed_iff noHook digestsDiffer_sampleFiles (Prod.ext hok rfl)).mpr
    ⟨by decide +kernel, fun f _ path hpath => ?_⟩).1⟩
  rw [parentsOf_sampleFiles hpath, List.prefix_nil, List.prefix_nil]
  exact ⟨by simp [PreparedFile.stagingPath], by simp [PreparedFile.backupPath]⟩

/-- A secret as the service delivers it. -/
def sampleFileSecret (secretId path value : String) : Json :=
  .obj [("secretId", .str secretId), ("versionId", .str "v"), ("target", .str "file"),
    ("name", .str path), ("required", .bool true), ("bundleId", .str "b"), ("value", .str value)]

/-- Two texts for one file. -/
def aliasFiles : StringMap := ((∅ : StringMap).insert "//a" "one").insert "/a" "two"

/-- **Two texts for one file**: a delivery with both is accepted, the
installation succeeds, and one of the values is nowhere. -/
theorem aliased_paths_lose_a_value :
    ((placeSecrets [sampleFileSecret "s" "//a" "one", sampleFileSecret "t" "/a" "two"]
        .empty).toOption.map fun delivery => delivery.files.toList) = some aliasFiles.toList
      ∧ (collectVersions [sampleFileSecret "s" "//a" "one", sampleFileSecret "t" "/a" "two"]
        ∅ ∅).isOk = true
      ∧ aliasFiles["//a"]? = some "one"
      ∧ (FileProgram.run noFault (installAt sampleSha256 aliasFiles noHook) (sampleTree [])).1
        = .ok ()
      ∧ openFile (FileProgram.run noFault (installAt sampleSha256 aliasFiles noHook)
        (sampleTree [])).2 "//a" = some (utf8 "two") := by
  refine ⟨?_, ?_, ?_, ?_, ?_⟩ <;> decide +kernel
