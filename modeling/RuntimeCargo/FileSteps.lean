import RuntimeCargo.FileSecrets

/-!
# What the functions of the installation do

One theorem for each function of the installer says which changes it makes
to the tree, in which states, and what it returns; nothing after this
module looks into a function again. They are rules for `Holds`: the goal
for a function follows from what is to be shown in each of its outcomes.

A function fails for one of two reasons. A call was made to fail
(`FailsIn`), or the tree or the path is not fit for it: something that is
no file stands where a file is wanted (`Plain`), or no directory where one
is (`Ready`).
-/

open PreparedFile FileOp

open Function Program FileProgram

/-- Nothing, or a file. -/
def Plain (node : Option Node) : Prop := node = none ∨ ∃ content, node = some (.file content)

theorem Plain.ne_dir {node : Option Node} (h : Plain node) : node ≠ some .dir := by
  rcases h with rfl | ⟨content, rfl⟩ <;> exact nofun

section Calls

variable (fault : Site → Option ℕ) (ok : FileTree → FileCall Site → Prop)

/-- A call of this part of the installation is made to fail in this
tree. -/
def FailsIn (phase : InstallPhase) (t : FileTree) : Prop :=
  ∃ c : FileCall Site, c.site.phase = phase ∧ fault c.site ≠ none ∧ ok t c

variable {fault ok} {I : FileTree → Prop} {t : FileTree}

theorem failsIn_of_fault {c : FileCall Site} {k : ℕ} (hok : ok t c) (h : fault c.site = some k) :
    FailsIn fault ok c.site.phase t :=
  ⟨c, rfl, by rw [h]; exact nofun, hok⟩

variable {path : TreePath}

theorem holds_regularFile {site : Site} {Q : Except FileSecretError Bool → FileTree → Prop}
    (hI : I t) (hnone : t path = none → Q (.ok false) t)
    (hfile : ∀ content, t path = some (.file content) → Q (.ok true) t)
    (herr : ∀ e, FailsIn fault ok site.phase t ∨ ¬ Plain (t path) → Q (.error e) t) :
    Holds fault ok I Q (regularFile site path) t := by
  refine Holds.bind (holds_perform (fun _ => hI) (fun _ _ => ?_) (fun k hok hk => ?_) hI)
  · cases h : t path with
    | none => simpa [exec, h] using ⟨hI, hI, hnone h⟩
    | some node =>
      cases node with
      | file content => simpa [exec, h] using ⟨hI, hI, hfile content h⟩
      | dir | other =>
        have hplain : ¬ Plain (t path) := by rw [h]; rintro (h' | ⟨_, h'⟩) <;> cases h'
        simpa [exec, h] using ⟨hI, hI, herr .invalidPath (.inr hplain)⟩
  · exact ⟨hI, herr .install (.inl (failsIn_of_fault hok hk))⟩

theorem holds_rename {site : Site} {source target : TreePath} {noReplace : Bool}
    {Q : Except FileSecretError Unit → FileTree → Prop} (hI : I t)
    (hmove : ok t ⟨site, .rename source target noReplace⟩ → t source ≠ none →
      t source ≠ some .dir → t target ≠ some .dir → (noReplace = true → t target = none) →
      I (t.move source target) ∧ Q (.ok ()) (t.move source target))
    (herr : ∀ e, FailsIn fault ok site.phase t ∨ t source = none ∨ t source = some .dir
      ∨ t target = some .dir ∨ (noReplace = true ∧ t target ≠ none) → Q (.error e) t) :
    Holds fault ok I Q (rename site source target noReplace) t := by
  refine Holds.bind (holds_perform (fun _ => hI) (fun hok _ => ?_) (fun k hok hk => ?_) hI)
  · have hstay : ∀ e, (t source = none ∨ t source = some .dir
        ∨ t target = some .dir ∨ (noReplace = true ∧ t target ≠ none)) →
        I t ∧ I t ∧ Q (.error e) t := fun e h => ⟨hI, hI, herr e (.inr h)⟩
    show I (exec (.rename source target noReplace) t).2 ∧ _
    rw [exec]
    split
    case h_1 hs => exact hstay .install (.inl hs)
    case h_2 hs => exact hstay .install (.inr (.inl hs))
    case h_3 hdir hs ht => exact hstay .install (.inr (.inr (.inl ht)))
    case h_4 node hdir hs ht =>
      obtain ⟨hI', hQ⟩ := hmove hok (by rw [hs]; exact nofun)
        (by rw [hs]; exact fun h => hdir (Option.some.inj h)) (by rw [ht]; exact nofun)
        (fun _ => ht)
      exact ⟨hI', hI', hQ⟩
    case h_5 node old hdir hold hs ht =>
      split
      case isTrue hno =>
        exact hstay .install (.inr (.inr (.inr ⟨hno, by rw [ht]; exact nofun⟩)))
      case isFalse hno =>
        obtain ⟨hI', hQ⟩ := hmove hok (by rw [hs]; exact nofun)
          (by rw [hs]; exact fun h => hdir (Option.some.inj h))
          (by rw [ht]; exact fun h => hold (Option.some.inj h)) (fun h => absurd h hno)
        exact ⟨hI', hI', hQ⟩
  · exact ⟨hI, herr .install (.inl (failsIn_of_fault hok hk))⟩

theorem holds_unlink {site : Site} {Q : Except FileSecretError Unit → FileTree → Prop} (hI : I t)
    (hgone : ok t ⟨site, .unlink path⟩ → t path ≠ some .dir → I (update t path none)
      ∧ Q (.ok ()) (update t path none))
    (herr : ∀ e, FailsIn fault ok site.phase t ∨ t path = some .dir → Q (.error e) t) :
    Holds fault ok I Q (unlink site path) t := by
  refine Holds.bind (holds_perform (fun _ => hI) (fun hokay _ => ?_) (fun k hok hk => ?_) hI)
  · show I (exec (.unlink path) t).2 ∧ _
    rw [exec]
    split
    case h_1 hp =>
      have hsame : update t path none = t := by rw [← hp, update_eq_self]
      have h := hgone hokay (by rw [hp]; exact nofun)
      rw [hsame] at h
      exact ⟨hI, h⟩
    case h_2 hp => exact ⟨hI, hI, herr .install (.inr hp)⟩
    case h_3 node hdir hp =>
      have h := hgone hokay (by rw [hp]; exact fun h => hdir (Option.some.inj h))
      exact ⟨h.1, h⟩
  · exact ⟨hI, herr .install (.inl (failsIn_of_fault hok hk))⟩

theorem holds_syncAll {site : Site} {error : FileSecretError}
    {Q : Except FileSecretError Unit → FileTree → Prop} (hI : I t) (hok : Q (.ok ()) t)
    (herr : FailsIn fault ok site.phase t → Q (.error error) t) :
    Holds fault ok I Q (syncAll site path error) t := by
  refine Holds.bind (holds_perform (fun _ => hI) (fun _ _ => ⟨hI, hI, hok⟩)
    (fun k hokay hk => ?_) hI)
  exact ⟨hI, herr (failsIn_of_fault hokay hk)⟩

/-- An opened directory is one, or has just been made. -/
theorem holds_directory {site : SysCall → Site} {phase : InstallPhase} (hsite : ∀ c, (site c).phase = phase)
    {depth : ℕ} {parent : TreePath} {name : String}
    {Q : Except FileSecretError TreePath → FileTree → Prop} (hI : I t)
    (hopen : t (parent ++ [name]) = some .dir → Q (.ok (parent ++ [name])) t)
    (hmade : t (parent ++ [name]) = none →
      I (update t (parent ++ [name]) (some .dir))
      ∧ Q (.ok (parent ++ [name])) (update t (parent ++ [name]) (some .dir))
      ∧ ∀ e, FailsIn fault ok phase (update t (parent ++ [name]) (some .dir)) →
          Q (.error e) (update t (parent ++ [name]) (some .dir)))
    (herr : ∀ e, FailsIn fault ok phase t
      ∨ (t (parent ++ [name]) ≠ none ∧ t (parent ++ [name]) ≠ some .dir) → Q (.error e) t) :
    Holds fault ok I Q (directory site depth parent name) t := by
  have hroot : parent ++ [name] ≠ [] := List.append_ne_nil_of_right_ne_nil _ (List.cons_ne_nil _ _)
  have hfails : ∀ {c : FileCall Site} {call : SysCall} {k : ℕ} {t : FileTree},
      c.site = site call → ok t c → fault c.site = some k → FailsIn fault ok phase t := by
    intro c call k t hc hok hk
    rw [← hsite call, ← hc]
    exact failsIn_of_fault hok hk
  refine Holds.bind (holds_perform (fun _ => hI) (fun _ _ => ?_) (fun k hok hk => ?_) hI)
  · show I (exec (.openDir _) t).2 ∧ _
    rw [exec, if_neg hroot]
    split
    case h_1 hp => exact ⟨hI, hI, hopen hp⟩
    case h_2 node hdir hp =>
      refine ⟨hI, hI, herr .invalidPath (.inr ⟨by rw [hp]; exact nofun, ?_⟩)⟩
      rw [hp]
      exact fun h => hdir (Option.some.inj h)
    case h_3 hp =>
      obtain ⟨hI', hQ, hreopen⟩ := hmade hp
      refine ⟨hI, Holds.bind (holds_perform (fun _ => hI) (fun _ _ => ?_) (fun k hok hk => ?_) hI)⟩
      · show I (exec (.mkdir _) t).2 ∧ _
        simp only [exec, hp]
        refine ⟨hI', Holds.bind (holds_perform (fun _ => hI') (fun _ _ => ?_)
          (fun k hok hk => ?_) hI')⟩
        · show I (exec (.openDir _) _).2 ∧ _
          simp only [exec, if_neg hroot, update_self]
          exact ⟨hI', hI', hQ⟩
        · exact ⟨hI', hreopen .invalidPath (hfails rfl hok hk)⟩
      · exact ⟨hI, herr .install (.inl (hfails rfl hok hk))⟩
  · exact ⟨hI, herr .invalidPath (.inl (hfails rfl hok hk))⟩

end Calls

/-! ## One file -/

/-- **Nothing is in the way of a file**: the parents are directories or can
be made, and where its names are there is nothing but files. -/
structure Ready (f : PreparedFile) (t : FileTree) : Prop where
  parents : ∀ x, x <+: f.parent → x ≠ [] → t x = none ∨ t x = some .dir
  destination : Plain (t f.destinationPath)
  backup : Plain (t f.backupPath)
  staging : Plain (t f.stagingPath)

/-- All the directories of a path are there. -/
def Entered (parents : TreePath) (t : FileTree) : Prop :=
  ∀ x, x <+: parents → x ≠ [] → t x = some .dir

theorem Entered.update {parents y : TreePath} {t : FileTree} {v : Option Node}
    (h : Entered parents t) (hy : t y ≠ some .dir) : Entered parents (update t y v) := by
  intro x hx hne
  have hxy : x ≠ y := fun hxy => hy (hxy ▸ h x hx hne)
  rw [update_of_ne hxy]
  exact h x hx hne

section Files

variable {fault : Site → Option ℕ} {ok : FileTree → FileCall Site → Prop} {I J : FileTree → Prop}
  {t : FileTree}

/-- The loop over the parents makes the directories that are missing. -/
theorem holds_enter {site : SysCall → Site} {phase : InstallPhase}
    (hsite : ∀ c, (site c).phase = phase) {Q : Except FileSecretError TreePath → FileTree → Prop}
    (hJI : ∀ t, J t → I t) (names : List String) (depth : ℕ) (parent : TreePath)
    (hJ : J t) (hentered : Entered parent t)
    (hmkdir : ∀ t x, J t → x <+: parent ++ names → x ≠ [] → t x = none →
      J (update t x (some .dir)))
    (hok : (∀ name ∈ names, '\x00' ∉ name.toList) → ∀ t, J t → Entered (parent ++ names) t →
      Q (.ok (parent ++ names)) t)
    (herr : ∀ e t, J t → FailsIn fault ok phase t ∨ (∃ name ∈ names, '\x00' ∈ name.toList)
      ∨ (∃ x, x <+: parent ++ names ∧ x ≠ [] ∧ t x ≠ none ∧ t x ≠ some .dir) →
      Q (.error e) t) :
    Holds fault ok I Q (enter site depth parent names) t := by
  induction names generalizing t depth parent with
  | nil =>
    rw [List.append_nil] at hok
    exact ⟨hJI t hJ, hok (by simp) t hJ hentered⟩
  | cons name rest ih =>
    have hassoc : parent ++ name :: rest = parent ++ [name] ++ rest := by simp
    have hhead : parent ++ [name] <+: parent ++ name :: rest := hassoc ▸ List.prefix_append _ _
    have hroot : parent ++ [name] ≠ [] := by simp
    rw [hassoc] at hmkdir hok herr hhead
    refine Holds.bindExcept ⟨hJI t hJ, ?_⟩
    by_cases hnul : '\x00' ∈ name.toList
    · rw [cName, require, if_neg (not_not.mpr hnul)]
      exact herr .invalidPath t hJ (.inr (.inl ⟨name, by simp, hnul⟩))
    · rw [cName, require, if_pos hnul]
      -- The rest of the loop starts in a tree where this directory is there.
      have hnext : ∀ t', J t' → Entered (parent ++ [name]) t' →
          Holds fault ok I Q (enter site (depth + 1) (parent ++ [name]) rest) t' := by
        intro t' hJ' hentered'
        refine ih (depth + 1) (parent ++ [name]) hJ' hentered' hmkdir (fun hnames => ?_) ?_
        · exact hok (List.forall_mem_cons.mpr ⟨hnul, hnames⟩)
        · rintro e t hJ (hfail | ⟨other, hother, hnul'⟩ | hblocked)
          · exact herr e t hJ (.inl hfail)
          · exact herr e t hJ (.inr (.inl ⟨other, List.mem_cons_of_mem _ hother, hnul'⟩))
          · exact herr e t hJ (.inr (.inr hblocked))
      have hgrow : ∀ t', Entered parent t' → t' (parent ++ [name]) = some .dir →
          Entered (parent ++ [name]) t' := by
        intro t' hpre hlast x hx hne
        rcases List.prefix_concat_iff.mp hx with rfl | hx'
        · exact hlast
        · exact hpre x hx' hne
      refine Holds.bindExcept (holds_directory hsite (hJI t hJ) (fun hdir => ?_)
        (fun hnone => ?_) ?_)
      · exact hnext t hJ (hgrow t hentered hdir)
      · have hJ' := hmkdir t _ hJ hhead hroot hnone
        refine ⟨hJI _ hJ', hnext _ hJ' (hgrow _ (hentered.update ?_) (update_self _ _ _)), ?_⟩
        · rw [hnone]; exact nofun
        · exact fun e hfail => herr e _ hJ' (.inl hfail)
      · rintro e (hfail | hblocked)
        · exact herr e t hJ (.inl hfail)
        · exact herr e t hJ (.inr (.inr ⟨_, hhead, hroot, hblocked⟩))

variable {Q : Except FileSecretError Unit → FileTree → Prop} {f : PreparedFile}

/-- A backup that was left goes to the destination. -/
theorem holds_restoreLeftover {site : SysCall → Site} {phase : InstallPhase}
    (hsite : ∀ c, (site c).phase = phase) (hI : I t) (hD : Plain (t f.destinationPath))
    (hnone : t f.backupPath = none → Q (.ok ()) t)
    (hmove : ∀ content, t f.backupPath = some (.file content) →
      I (t.move f.backupPath f.destinationPath)
      ∧ Q (.ok ()) (t.move f.backupPath f.destinationPath))
    (herr : ∀ e, FailsIn fault ok phase t ∨ ¬ Plain (t f.backupPath) → Q (.error e) t) :
    Holds fault ok I Q (restoreLeftover site f) t := by
  refine Holds.bindExcept (holds_regularFile hI (fun hB => ⟨hI, hnone hB⟩) (fun content hB => ?_)
    (fun e h => herr e (by rwa [← hsite .statBackup])))
  refine holds_rename hI (fun _ _ _ _ _ => hmove content hB) (fun e h => ?_)
  rw [hsite, hB] at h
  rcases h with hfail | h | h | h | h
  · exact herr e (.inl hfail)
  · exact nomatch h
  · exact nomatch h
  · exact absurd h hD.ne_dir
  · exact nomatch h.1

/-- A staged file that was left is removed. -/
theorem holds_removeLeftover {site : SysCall → Site} {phase : InstallPhase}
    (hsite : ∀ c, (site c).phase = phase) (hI : I t)
    (hnone : t f.stagingPath = none → Q (.ok ()) t)
    (hgone : ∀ content, t f.stagingPath = some (.file content) →
      I (update t f.stagingPath none) ∧ Q (.ok ()) (update t f.stagingPath none))
    (herr : ∀ e, FailsIn fault ok phase t ∨ ¬ Plain (t f.stagingPath) → Q (.error e) t) :
    Holds fault ok I Q (removeLeftover site f) t := by
  refine Holds.bindExcept (holds_regularFile hI (fun hS => ⟨hI, hnone hS⟩) (fun content hS => ?_)
    (fun e h => herr e (by rwa [← hsite .statStaging])))
  refine holds_unlink hI (fun _ _ => hgone content hS) (fun e h => ?_)
  rw [hsite, hS] at h
  exact herr e (.inl (h.resolve_right nofun))

/-- The second half of `prepare`, for a name it takes. -/
theorem holds_prepareIn {sha256 : List UInt8 → Digest} {path last : String} {parent : TreePath}
    (hf : f.IsFor sha256) (hfresh : f = .fresh sha256 path parent last)
    (hnul : '\x00' ∉ last.toList) (hmark : ¬ secretMark.toList <+: last.toList)
    {Q : Except FileSecretError PreparedFile → FileTree → Prop} (hJI : ∀ t, J t → I t) (hJ : J t)
    (hentered : Entered parent t)
    (hrestore : ∀ t content, J t → Plain (t f.destinationPath) → t f.backupPath
      = some (.file content) → J (t.move f.backupPath f.destinationPath))
    (hunstage : ∀ t content, J t → t f.stagingPath = some (.file content) →
      J (update t f.stagingPath none))
    (hok : ∀ t, J t → Entered f.parent t → Plain (t f.destinationPath) → t f.backupPath = none →
      t f.stagingPath = none → Q (.ok f) t)
    (herr : ∀ e t, J t → FailsIn fault ok .prepare t ∨ ¬ Ready f t → Q (.error e) t) :
    Holds fault ok I Q (prepareIn sha256 path parent last) t := by
  have hsite : ∀ c, (Site.mk .prepare path c).phase = .prepare := fun _ => rfl
  have hparent : parent = f.parent := by rw [hfresh]; rfl
  rw [hparent] at hentered
  have hSB := hf.staging_ne_backup hf
  have hDB := hf.destination_ne_backup hf
  have hDS := hf.destination_ne_staging hf
  unfold prepareIn
  rw [cName, require, if_pos hnul]
  refine Holds.bindExcept ⟨hJI t hJ, Holds.bindExcept ⟨hJI t hJ, ?_⟩⟩
  rw [require, if_pos hmark, ← hfresh]
  -- From here on only the tree changes; `hlast` is what is left after the backup.
  have hlast : ∀ t, J t → Entered f.parent t → Plain (t f.destinationPath) →
      t f.backupPath = none → Holds fault ok I Q (do
        removeLeftover (Site.mk .prepare path) f
        return f : Installer PreparedFile) t := by
    intro t hJ hentered hD hB
    refine Holds.bindExcept (holds_removeLeftover hsite (hJI t hJ) (fun hS => ?_)
      (fun content hS => ?_) (fun e h => ?_))
    · exact ⟨hJI t hJ, hok t hJ hentered hD hB hS⟩
    · have hJ' := hunstage t content hJ hS
      refine ⟨hJI _ hJ', hJI _ hJ', hok _ hJ' (hentered.update ?_) ?_ ?_ (update_self _ _ _)⟩
      · rw [hS]; exact nofun
      · rwa [update_of_ne hDS]
      · rwa [update_of_ne hSB.symm]
    · exact herr e t hJ (h.imp_right fun hS hready => hS hready.staging)
  have hbackup : Plain (t f.destinationPath) → Holds fault ok I Q (do
        restoreLeftover (Site.mk .prepare path) f
        removeLeftover (Site.mk .prepare path) f
        return f : Installer PreparedFile) t := by
    intro hD
    refine Holds.bindExcept (holds_restoreLeftover hsite (hJI t hJ) hD (fun hB => ?_)
      (fun content hB => ?_) (fun e h => ?_))
    · exact hlast t hJ hentered hD hB
    · have hJ' := hrestore t content hJ hD hB
      refine ⟨hJI _ hJ', hlast _ hJ' ?_ ?_ ?_⟩
      · refine (hentered.update ?_).update ?_
        · rw [hB]; exact nofun
        · rw [update_of_ne hDB]; exact hD.ne_dir
      · rw [FileTree.move_target, hB]
        exact .inr ⟨content, rfl⟩
      · exact FileTree.move_source hDB.symm
    · exact herr e t hJ (h.imp_right fun hB hready => hB hready.backup)
  refine Holds.bindExcept (holds_regularFile (hJI t hJ) (fun hD => hbackup (.inl hD))
    (fun content hD => hbackup (.inr ⟨content, hD⟩)) (fun e h => ?_))
  exact herr e t hJ (h.imp_right fun hD hready => hD hready.destination)

/-- A last name that is not taken. -/
theorem holds_prepareIn_error {sha256 : List UInt8 → Digest} {path last : String}
    {parent : TreePath} (hlast : ¬ ('\x00' ∉ last.toList ∧ ¬ secretMark.toList <+: last.toList))
    {Q : Except FileSecretError PreparedFile → FileTree → Prop} (hI : I t)
    (herr : Q (.error .invalidPath) t) :
    Holds fault ok I Q (prepareIn sha256 path parent last) t := by
  unfold prepareIn
  by_cases hnul : '\x00' ∉ last.toList
  · have hmark := fun h => hlast ⟨hnul, h⟩
    rw [cName, require, if_pos hnul]
    refine Holds.bindExcept ⟨hI, Holds.bindExcept ⟨hI, ?_⟩⟩
    rw [require, if_neg hmark]
    exact herr
  · rw [cName, require, if_neg hnul]
    exact Holds.bindExcept ⟨hI, herr⟩

/-- **`prepare`.** It makes the missing directories, puts a backup that was
left back and removes a staged file that was left. -/
theorem holds_prepare {sha256 : List UInt8 → Digest} {path : String}
    {Q : Except FileSecretError PreparedFile → FileTree → Prop} (hJI : ∀ t, J t → I t) (hJ : J t)
    (hmkdir : ∀ t x, J t → x <+: parentsOf path → x ≠ [] → t x = none →
      J (update t x (some .dir)))
    (hrestore : ∀ f, fileOf sha256 path = some f → ∀ t content, J t →
      Plain (t f.destinationPath) → t f.backupPath = some (.file content) →
      J (t.move f.backupPath f.destinationPath))
    (hunstage : ∀ f, fileOf sha256 path = some f → ∀ t content, J t →
      t f.stagingPath = some (.file content) → J (update t f.stagingPath none))
    (hok : ∀ f, fileOf sha256 path = some f → ∀ t, J t → Entered f.parent t →
      Plain (t f.destinationPath) → t f.backupPath = none → t f.stagingPath = none → Q (.ok f) t)
    (herr : ∀ e t, J t → FailsIn fault ok .prepare t
      ∨ (∀ f, fileOf sha256 path = some f → ¬ Ready f t) → Q (.error e) t) :
    Holds fault ok I Q (prepare sha256 path) t := by
  have hsite : ∀ c, (Site.mk .prepare path c).phase = .prepare := fun _ => rfl
  have hunfit : ∀ e t, J t → fileOf sha256 path = none → Q (.error e) t := by
    intro e t hJ hnone
    exact herr e t hJ (.inr fun f hf => nomatch hnone.symm.trans hf)
  refine Holds.bindExcept ⟨hJI t hJ, ?_⟩
  cases hcheck : checkPath path with
  | error e => exact hunfit e t hJ (by rw [fileOf, hcheck])
  | ok found =>
    obtain ⟨parents, last⟩ := found
    have hparents : parentsOf path = parents := by rw [parentsOf, hcheck]
    rw [hparents] at hmkdir
    have hfileOf : fileOf sha256 path
        = if (∀ name ∈ parents, '\x00' ∉ name.toList) ∧ '\x00' ∉ last.toList
            ∧ ¬ secretMark.toList <+: last.toList
          then some (.fresh sha256 path parents last) else none := by rw [fileOf, hcheck]
    have hsecond : (∀ name ∈ parents, '\x00' ∉ name.toList) → ∀ t, J t → Entered parents t →
        Holds fault ok I Q (prepareIn sha256 path parents last) t := by
      intro hnames t hJ hentered
      by_cases hlast : '\x00' ∉ last.toList ∧ ¬ secretMark.toList <+: last.toList
      · have hf := hfileOf.trans (if_pos ⟨hnames, hlast⟩)
        exact holds_prepareIn (PreparedFile.IsFor.of_fileOf hf).1 rfl hlast.1 hlast.2 hJI hJ
          hentered (hrestore _ hf) (hunstage _ hf) (hok _ hf)
          (fun e t hJ h => herr e t hJ (h.imp_right fun hready f' hf' => by
            rwa [← Option.some.inj (hf.symm.trans hf')]))
      · exact holds_prepareIn_error hlast (hJI t hJ)
          (hunfit _ t hJ (by rw [hfileOf, if_neg fun h => hlast h.2]))
    refine Holds.bindExcept (Holds.bind (holds_perform (fun _ => hJI t hJ) (fun _ _ => ?_)
      (fun k hokay hk => ?_) (hJI t hJ)))
    · refine ⟨hJI t hJ, hJI t hJ, Holds.bindExcept (holds_enter hsite hJI parents 0 [] hJ ?_ hmkdir
        (fun hnames t hJ hentered => ?_) ?_)⟩
      · exact fun x hx hne => absurd (List.prefix_nil.mp hx) hne
      · exact hsecond hnames t hJ hentered
      · rintro e t hJ (hfail | ⟨name, hname, hnul⟩ | ⟨x, hx, hne, hthere, hdir⟩)
        · exact herr e t hJ (.inl hfail)
        · exact hunfit e t hJ (by rw [hfileOf, if_neg fun h => h.1 name hname hnul])
        · refine herr e t hJ (.inr fun f hf hready => ?_)
          have hparent : f.parent = parents := by
            rw [(PreparedFile.IsFor.of_fileOf hf).1.names.1, (PreparedFile.IsFor.of_fileOf hf).2,
              hparents]
          exact (hready.parents x (hparent ▸ hx) hne).elim hthere hdir
    · exact ⟨hJI t hJ, herr .install t hJ (.inl (failsIn_of_fault hokay hk))⟩

/-- **`write`.** The staging name is created, and nothing else changes. -/
theorem holds_write {value : List UInt8}
    {Q : PreparedFile × Except FileSecretError Unit → FileTree → Prop} (hI : I t)
    (hcreate : t f.stagingPath = none → ∀ content,
      I (update t f.stagingPath (some (.file content))))
    (hok : t f.stagingPath = none → Q ({ f with staged := true },
      .ok ()) (update t f.stagingPath (some (.file value))))
    (hstaged : t f.stagingPath = none → ∀ e content created,
      FailsIn fault ok .write (update t f.stagingPath (some (.file created))) →
      Q ({ f with staged := true }, .error e) (update t f.stagingPath (some (.file content))))
    (herr : ∀ e, FailsIn fault ok .write t ∨ t f.stagingPath ≠ none → Q (f, .error e) t) :
    Holds fault ok I Q (f.write value) t := by
  refine Holds.bind (holds_perform (fun _ => hI) (fun _ _ => ?_) (fun k hokay hk => ?_) hI)
  · show I (exec (.create f.stagingPath) t).2 ∧ _
    rw [exec]
    split
    case h_2 hS => exact ⟨hI, hI, herr .install (.inr (by rw [hS]; exact nofun))⟩
    case h_1 hS =>
      have hsome : update t f.stagingPath (some (.file [])) f.stagingPath = some (.file []) :=
        update_self _ _ _
      have hwrite : ∀ content, (write f.stagingPath content).exec
          (update t f.stagingPath (some (.file [])))
          = (.ok none, update t f.stagingPath (some (.file content))) := by
        intro content
        simp only [exec, hsome, update_idem]
      have htorn : ∀ k, (write f.stagingPath value).torn k
          (update t f.stagingPath (some (.file [])))
          = update t f.stagingPath (some (.file (value.take k))) := by
        intro k
        rw [torn, hwrite]
      refine ⟨hcreate hS [], Holds.bind (holds_perform (fun k => ?_) (fun _ _ => ?_)
        (fun k hokay hk => ?_) (hcreate hS []))⟩
      · show I ((write f.stagingPath value).torn k _)
        rw [htorn]
        exact hcreate hS _
      · show I ((write f.stagingPath value).exec _).2 ∧ _
        simp only [hwrite]
        refine ⟨hcreate hS _, Holds.bind (holds_syncAll (hcreate hS _) ?_ fun hfail => ?_)⟩
        · exact ⟨hcreate hS _, hok hS⟩
        · exact ⟨hcreate hS _, hstaged hS .install value value hfail⟩
      · show Holds fault ok I Q _ ((write f.stagingPath value).torn k _)
        rw [htorn]
        exact ⟨hcreate hS _, hstaged hS .install _ [] (failsIn_of_fault hokay hk)⟩
  · exact ⟨hI, herr .install (.inl (failsIn_of_fault hokay hk))⟩

/-- **`commit`.** What stands at the destination becomes the backup, and
then the staged file the destination. -/
theorem holds_commit {K : PreparedFile → FileTree → Prop}
    {Q : PreparedFile × Except FileSecretError Unit → FileTree → Prop}
    (hne : f.destinationPath ≠ f.backupPath) (hbacked : f.backedUp = false)
    (hKI : ∀ g t, K g t → I t) (hK : K f t)
    (hbackUp : ∀ content, t f.destinationPath = some (.file content) → t f.backupPath = none →
      K { f with backedUp := true } (t.move f.destinationPath f.backupPath))
    (hreplace : ∀ b t, K { f with backedUp := b } t → t f.destinationPath = none →
      ok t ⟨⟨.commit, f.path, .replace⟩, .rename f.stagingPath f.destinationPath false⟩ →
      t f.stagingPath ≠ none → t f.stagingPath ≠ some .dir →
      K { f with backedUp := b, staged := false, committed := true }
        (t.move f.stagingPath f.destinationPath))
    (hok : ∀ b t, K { f with backedUp := b, staged := false, committed := true } t →
      Q ({ f with backedUp := b, staged := false, committed := true }, .ok ()) t)
    (herr : ∀ g t e, g.path = f.path → K g t → Q (g, .error e) t) :
    Holds fault ok I Q f.commit t := by
  have hsecond : ∀ b t, K { f with backedUp := b } t → t f.destinationPath = none →
      Holds fault ok I Q ({ f with backedUp := f.backedUp || b } : PreparedFile).replace t := by
    intro b t hK hD
    rw [hbacked, Bool.false_or]
    have hI := hKI _ t hK
    refine Holds.bind (holds_rename hI (fun hokay hS hSdir _ _ => ?_)
      (fun e _ => ⟨hI, herr _ t e rfl hK⟩))
    have hK' := hreplace b t hK hD hokay hS hSdir
    have hI' := hKI _ _ hK'
    exact ⟨hI', Holds.bind (holds_syncAll hI' ⟨hI', hok b _ hK'⟩
      (fun _ => ⟨hI', herr { f with backedUp := b, staged := false, committed := true } _ _ rfl hK'⟩))⟩
  have hI := hKI f t hK
  have hfirst : { f with backedUp := false } = f := by rw [← hbacked]
  refine Holds.bind (Holds.bindExcept (holds_regularFile hI (fun hD => ?_) (fun content hD => ?_)
    (fun e _ => ⟨hI, herr f t e rfl hK⟩)))
  · exact ⟨hI, hsecond false t (hfirst ▸ hK) hD⟩
  · refine Holds.bindExcept (holds_rename hI (fun _ _ _ _ hB => ?_)
      (fun e _ => ⟨hI, herr f t e rfl hK⟩))
    have hK' := hbackUp content hD (hB rfl)
    exact ⟨hKI _ _ hK', hKI _ _ hK', hsecond true _ hK' (FileTree.move_source hne)⟩

/-- What a rollback that went through leaves. -/
def PreparedFile.undo (f : PreparedFile) (t : FileTree) : FileTree :=
  let t : FileTree := if f.committed then update t f.destinationPath none else t
  let t : FileTree := if f.backedUp then t.move f.backupPath f.destinationPath else t
  if f.staged then update t f.stagingPath none else t

/-- **`rollback`.** -/
theorem holds_rollback (hJI : ∀ t, J t → I t) (hJ : J t)
    (hremove : f.committed = true → t f.destinationPath ≠ some .dir →
      J (update t f.destinationPath none))
    (hrestore : f.backedUp = true → ∀ t, J t → t f.backupPath ≠ none →
      t f.backupPath ≠ some .dir → J (t.move f.backupPath f.destinationPath))
    (hunstage : f.staged = true → ∀ t, J t → J (update t f.stagingPath none))
    (hok : J (f.undo t) → Q (.ok ()) (f.undo t)) (herr : ∀ e t, J t → Q (.error e) t) :
    Holds fault ok I Q f.rollback t := by
  -- The steps from the last to the first, each in the tree the one before it leaves.
  have hsync : ∀ t', t' = f.undo t → J t' →
      Holds fault ok I Q (syncAll ⟨.rollback, f.path, .sync⟩ f.parent .rollback) t' := by
    rintro t' rfl hJ'
    exact holds_syncAll (hJI _ hJ') (hok hJ') (fun _ => herr _ _ hJ')
  have hunstaged : ∀ t₂, (if f.staged then update t₂ f.stagingPath none else t₂) = f.undo t →
      J t₂ → Holds fault ok I Q (do
        onlyIf f.staged (unlink ⟨.rollback, f.path, .removeStaging⟩ f.stagingPath)
        syncAll ⟨.rollback, f.path, .sync⟩ f.parent .rollback : Installer Unit) t₂ := by
    intro t₂ hundo hJ₂
    refine Holds.bindExcept (Holds.onlyIf (fun hs => ?_) (fun hs => ?_))
    · have hJ₃ := hunstage hs t₂ hJ₂
      rw [if_pos hs] at hundo
      exact holds_unlink (hJI t₂ hJ₂) (fun _ _ => ⟨hJI _ hJ₃, hsync _ hundo hJ₃⟩)
        (fun e _ => herr e t₂ hJ₂)
    · rw [if_neg (Bool.eq_false_iff.mp hs)] at hundo
      exact ⟨hJI t₂ hJ₂, hsync t₂ hundo hJ₂⟩
  have hrestored : ∀ t₁, (if f.committed then update t f.destinationPath none else t) = t₁ →
      J t₁ → Holds fault ok I Q (do
        onlyIf f.backedUp (rename ⟨.rollback, f.path, .restoreBackup⟩ f.backupPath
          f.destinationPath false)
        onlyIf f.staged (unlink ⟨.rollback, f.path, .removeStaging⟩ f.stagingPath)
        syncAll ⟨.rollback, f.path, .sync⟩ f.parent .rollback : Installer Unit) t₁ := by
    intro t₁ ht₁ hJ₁
    refine Holds.bindExcept (Holds.onlyIf (fun hb => ?_) (fun hb => ?_))
    · refine holds_rename (hJI t₁ hJ₁) (fun _ hB hBdir _ _ => ?_) (fun e _ => herr e t₁ hJ₁)
      have hJ₂ := hrestore hb t₁ hJ₁ hB hBdir
      refine ⟨hJI _ hJ₂, hunstaged _ ?_ hJ₂⟩
      simp only [undo, ht₁, if_pos hb]
    · refine ⟨hJI t₁ hJ₁, hunstaged t₁ ?_ hJ₁⟩
      simp only [undo, ht₁, if_neg (Bool.eq_false_iff.mp hb)]
  refine Holds.bindExcept (Holds.onlyIf (fun hc => ?_) (fun hc => ?_))
  · refine holds_unlink (hJI t hJ) (fun _ hdir => ?_) (fun e _ => herr e t hJ)
    exact ⟨hJI _ (hremove hc hdir), hrestored _ (if_pos hc) (hremove hc hdir)⟩
  · exact ⟨hJI t hJ, hrestored t (if_neg (Bool.eq_false_iff.mp hc)) hJ⟩

end Files

/-! ## The loops -/

section Loops

variable (fault : Site → Option ℕ) (ok : FileTree → FileCall Site → Prop) (I : FileTree → Prop)
  (sha256 : List UInt8 → Digest) (all : List (String × String))

/-- The file that is prepared next, after those in the list. -/
structure NextFile (prepared : List PreparedFile) (f : PreparedFile) (value : String) : Prop where
  mem : (f.path, value) ∈ all
  new : f.path ∉ prepared.map path
  fileOf : fileOf sha256 f.path = some f

variable {prepared : List PreparedFile} {f : PreparedFile} {value : String}
  {Q : List PreparedFile × Except FileSecretError Unit → FileTree → Prop}

theorem NextFile.isFor (h : NextFile sha256 all prepared f value) : f.IsFor sha256 :=
  (PreparedFile.IsFor.of_fileOf h.fileOf).1

/-- A file that is staged, and no more. -/
structure OnlyStaged (f : PreparedFile) : Prop where
  isFor : f.IsFor sha256
  staged : f.staged = true
  backedUp : f.backedUp = false
  committed : f.committed = false

/-- Nothing was done with a file that comes next. -/
theorem NextFile.flags (h : NextFile sha256 all prepared f value) :
    f.staged = false ∧ f.backedUp = false ∧ f.committed = false := by
  obtain ⟨last, -, -, hfresh⟩ := fileOf_eq_some h.fileOf
  rw [hfresh]
  exact ⟨rfl, rfl, rfl⟩

theorem NextFile.onlyStaged (h : NextFile sha256 all prepared f value) :
    OnlyStaged sha256 { f with staged := true } :=
  ⟨h.isFor, rfl, h.flags.2.1, h.flags.2.2⟩

/-- A file that is prepared: its leftovers are gone and its directory is
there. -/
structure Cleared (f : PreparedFile) (t : FileTree) : Prop where
  entered : Entered f.parent t
  destination : Plain (t f.destinationPath)
  backup : t f.backupPath = none
  staging : t f.stagingPath = none

/-- **What the first loop keeps.** `P` holds between two files and while
the next one is prepared, `E` when something failed. -/
structure PrepareInvariant (P E : List PreparedFile → FileTree → Prop) : Prop where
  sound : ∀ {prepared t}, P prepared t → I t
  mkdir : ∀ {prepared t x path value}, (path, value) ∈ all → P prepared t → x <+: parentsOf path →
    x ≠ [] → t x = none → P prepared (update t x (some .dir))
  restore : ∀ {prepared t f value content}, NextFile sha256 all prepared f value → P prepared t →
    Plain (t f.destinationPath) → t f.backupPath = some (.file content) →
    P prepared (t.move f.backupPath f.destinationPath)
  unstage : ∀ {prepared t f value content}, NextFile sha256 all prepared f value → P prepared t →
    t f.stagingPath = some (.file content) → P prepared (update t f.stagingPath none)
  staged : ∀ {prepared t f value}, NextFile sha256 all prepared f value → P prepared t → Cleared f t →
    P (prepared ++ [{ f with staged := true }])
      (update t f.stagingPath (some (.file (utf8 value))))
  started : ∀ {prepared t f value} content, NextFile sha256 all prepared f value → P prepared t →
    Cleared f t → I (update t f.stagingPath (some (.file content)))
  prepareFails : ∀ {prepared t path value}, (path, value) ∈ all → P prepared t →
    FailsIn fault ok .prepare t ∨ (∀ f, fileOf sha256 path = some f → ¬ Ready f t) →
    E prepared t
  createFails : ∀ {prepared t f value}, NextFile sha256 all prepared f value → P prepared t →
    FailsIn fault ok .write t → E (prepared ++ [f]) t
  writeFails : ∀ {prepared t f value} content created, NextFile sha256 all prepared f value →
    P prepared t → Cleared f t →
    FailsIn fault ok .write (update t f.stagingPath (some (.file created))) →
    E (prepared ++ [{ f with staged := true }]) (update t f.stagingPath (some (.file content)))

/-- **What the second loop keeps**: of the files done and those to do, the
first of which may be half done. -/
structure CommitInvariant (C : List PreparedFile → List PreparedFile → FileTree → Prop) :
    Prop where
  sound : ∀ {done rest t}, C done rest t → I t
  backUp : ∀ {done f rest t content}, OnlyStaged sha256 f → C done (f :: rest) t →
    t f.destinationPath = some (.file content) → t f.backupPath = none →
    C done ({ f with backedUp := true } :: rest) (t.move f.destinationPath f.backupPath)
  replace : ∀ {done f rest t} b, OnlyStaged sha256 f →
    C done ({ f with backedUp := b } :: rest) t → t f.destinationPath = none →
    ok t ⟨⟨.commit, f.path, .replace⟩, .rename f.stagingPath f.destinationPath false⟩ →
    t f.stagingPath ≠ none → t f.stagingPath ≠ some .dir →
    C done ({ f with backedUp := b, staged := false, committed := true } :: rest)
      (t.move f.stagingPath f.destinationPath)
  next : ∀ {done f rest t} b, OnlyStaged sha256 f →
    C done ({ f with backedUp := b, staged := false, committed := true } :: rest) t →
    C (done ++ [{ f with backedUp := b, staged := false, committed := true }]) rest t

variable {fault ok I sha256 all} {t : FileTree}

/-- **The first loop.** -/
theorem PrepareInvariant.holds {P E : List PreparedFile → FileTree → Prop}
    (h : PrepareInvariant fault ok I sha256 all P E)
    (hok : ∀ prepared t, prepared.map path = all.map Prod.fst → (∀ f ∈ prepared,
      OnlyStaged sha256 f) → P prepared t → Q (prepared, .ok ()) t)
    (herr : ∀ prepared t e, E prepared t → Q (prepared, .error e) t)
    (hnodup : (all.map Prod.fst).Nodup) (todo : List (String × String))
    (prepared : List PreparedFile)
    (hsplit : prepared.map path ++ todo.map Prod.fst = all.map Prod.fst)
    (htodo : ∀ entry ∈ todo, entry ∈ all) (hstaged : ∀ f ∈ prepared, OnlyStaged sha256 f)
    (hP : P prepared t) :
    Holds fault ok I Q (prepareAll sha256 todo prepared) t := by
  induction todo generalizing prepared t with
  | nil =>
    rw [List.map_nil, List.append_nil] at hsplit
    exact ⟨h.sound hP, hok prepared t hsplit hstaged hP⟩
  | cons entry rest ih =>
    obtain ⟨path, value⟩ := entry
    have hmem : (path, value) ∈ all := htodo _ List.mem_cons_self
    have hnext : ∀ f, fileOf sha256 path = some f → NextFile sha256 all prepared f value := by
      intro f hf
      obtain ⟨hfor, hpath⟩ := PreparedFile.IsFor.of_fileOf hf
      rw [← hsplit, List.nodup_append] at hnodup
      refine ⟨hpath ▸ hmem, fun hold => hnodup.2.2 _ hold path (by simp) hpath, hpath ▸ hf⟩
    refine Holds.bind (holds_prepare (J := P prepared) (fun _ => h.sound) hP
      (fun t x => h.mkdir hmem) (fun f hf t content => h.restore (hnext f hf))
      (fun f hf t content => h.unstage (hnext f hf))
      (fun f hf t hP hentered hD hB hS => ?_)
      (fun e t hP hfail => ⟨h.sound hP, herr _ _ _ (h.prepareFails hmem hP hfail)⟩))
    have hcleared : Cleared f t := ⟨hentered, hD, hB, hS⟩
    have hf' := hnext f hf
    refine Holds.bind (holds_write (h.sound hP) (fun _ content => h.started content hf' hP hcleared)
      (fun _ => ?_) (fun _ e content created hfail => ?_) (fun e hfail => ?_))
    · refine ih _ ?_ (fun entry hentry => htodo entry (List.mem_cons_of_mem _ hentry)) ?_
        (h.staged hf' hP hcleared)
      · rw [← hsplit, List.map_append, List.append_assoc,
          ← (PreparedFile.IsFor.of_fileOf hf).2]
        rfl
      · intro g hg
        rcases List.mem_append.mp hg with hg | hg
        · exact hstaged g hg
        · exact List.mem_singleton.mp hg ▸ hf'.onlyStaged
    · exact ⟨h.started content hf' hP hcleared,
        herr _ _ _ (h.writeFails content created hf' hP hcleared hfail)⟩
    · exact ⟨h.sound hP, herr _ _ _
        (h.createFails hf' hP (hfail.resolve_right (not_not.mpr hS)))⟩

/-- The files of a list in which one was replaced: all but that one have
other paths. -/
theorem mem_of_mem_replaced {done rest : List PreparedFile} {g h : PreparedFile}
    (hnodup : ((done ++ f :: rest).map path).Nodup) (hmem : h ∈ done ++ g :: rest) :
    h = g ∨ (h ∈ done ++ f :: rest ∧ h.path ≠ f.path) := by
  rw [List.map_append, List.map_cons, List.nodup_append, List.nodup_cons] at hnodup
  rcases List.mem_append.mp hmem with hdone | hrest
  · refine .inr ⟨List.mem_append_left _ hdone, fun heq => ?_⟩
    exact hnodup.2.2 _ (List.mem_map_of_mem hdone) _ List.mem_cons_self heq
  · rcases List.mem_cons.mp hrest with heq | hrest
    · exact .inl heq
    · refine .inr ⟨List.mem_append_right _ (.tail _ hrest), fun heq => ?_⟩
      exact hnodup.2.1.1 (heq ▸ List.mem_map_of_mem hrest)

/-- **The second loop.** -/
theorem CommitInvariant.holds {C : List PreparedFile → List PreparedFile → FileTree → Prop}
    (h : CommitInvariant ok I sha256 C) {beforeCommit : ℕ → Except FileSecretError Unit}
    (hok : ∀ done t, C done [] t → Q (done, .ok ()) t)
    (herr : ∀ done rest t e, C done rest t → Q (done ++ rest, .error e) t)
    (rest done : List PreparedFile) (hrest : ∀ f ∈ rest, OnlyStaged sha256 f) (hC : C done rest t) :
    Holds fault ok I Q (commitAll beforeCommit done rest) t := by
  induction rest generalizing done t with
  | nil => exact ⟨h.sound hC, hok done t hC⟩
  | cons f rest ih =>
    obtain ⟨hf, hrest⟩ := List.forall_mem_cons.mp hrest
    rw [commitAll]
    split
    case h_1 => exact ⟨h.sound hC, herr done (f :: rest) t _ hC⟩
    case h_2 =>
      refine Holds.bind (holds_commit (K := fun g t => C done (g :: rest) t)
        (hf.isFor.destination_ne_backup hf.isFor) hf.backedUp (fun _ _ => h.sound) hC
        (fun content => h.backUp hf hC) (fun b t hC => h.replace b hf hC) (fun b t hC => ?_)
        (fun g t e _ hC => ⟨h.sound hC, herr done (g :: rest) t e hC⟩))
      exact ih _ hrest (h.next b hf hC)

/-- What the rollbacks that went through leave. -/
def undoAll (prepared : List PreparedFile) (t : FileTree) : FileTree :=
  prepared.foldr undo t

/-- **The rollbacks.** They may fail; when none does, every file is undone.
What holds on the way may depend on the files that are still to be rolled
back. -/
theorem holds_rollbackAll {J : List PreparedFile → FileTree → Prop} {Q : Bool → FileTree → Prop}
    (hJI : ∀ l t, J l t → I t) (hskip : ∀ l f t, J (l ++ [f]) t → J l t)
    (prepared : List PreparedFile)
    (hremove : ∀ l f, l ++ [f] <+: prepared → f.committed = true → ∀ t, J (l ++ [f]) t →
      t f.destinationPath ≠ some .dir → J l (update t f.destinationPath none))
    (hrestore : ∀ l f, l ++ [f] <+: prepared → f.backedUp = true → ∀ t, J l t →
      t f.backupPath ≠ none → t f.backupPath ≠ some .dir →
      J l (t.move f.backupPath f.destinationPath))
    (hunstage : ∀ l f, l ++ [f] <+: prepared → f.staged = true → ∀ t, J l t →
      J l (update t f.stagingPath none))
    (failed : Bool) (hJ : J prepared t)
    (hQ : ∀ failed' t', J [] t' → (failed' = false → failed = false ∧ t' = undoAll prepared t) →
      Q failed' t') :
    Holds fault ok I Q (rollbackAll prepared.reverse failed) t := by
  induction prepared using List.reverseRecOn generalizing t failed with
  | nil => exact ⟨hJI [] t hJ, hQ failed t hJ fun h => ⟨h, rfl⟩⟩
  | append_singleton prepared f ih =>
    have hlast : prepared ++ [f] <+: prepared ++ [f] := List.prefix_rfl
    have hmem : ∀ l (g : PreparedFile), l ++ [g] <+: prepared → l ++ [g] <+: prepared ++ [f] :=
      fun l g h => h.trans (List.prefix_append _ _)
    have hrest := fun failed t => ih (t := t) (fun l g hg => hremove l g (hmem l g hg))
      (fun l g hg => hrestore l g (hmem l g hg)) (fun l g hg => hunstage l g (hmem l g hg)) failed
    rw [List.reverse_append, List.reverse_singleton, List.singleton_append]
    refine Holds.bind (holds_rollback (hJI prepared) (hskip _ _ _ hJ)
      (fun hc => hremove prepared f hlast hc t hJ) (hrestore prepared f hlast)
      (hunstage prepared f hlast) (fun hJ' => ?_) (fun e t' hJ' => ?_))
    · refine hrest _ _ hJ' (fun failed' t' hJ'' h => hQ failed' t' hJ'' fun hfailed => ?_)
      obtain ⟨h₁, h₂⟩ := h hfailed
      refine ⟨(Bool.or_eq_false_iff.mp h₁).1, ?_⟩
      rw [h₂, undoAll, undoAll, List.foldr_append]
      rfl
    · refine hrest _ _ hJ' (fun failed' t' hJ'' h => hQ failed' t' hJ'' fun hfailed => ?_)
      exact nomatch (Bool.or_eq_false_iff.mp (h hfailed).1).2

/-- The rollbacks, where the trees on the way do not matter: they end in an
error, and if that is not about a rollback every file is undone. -/
theorem holds_settle_error {Q : Except FileSecretError Unit → FileTree → Prop}
    (prepared : List PreparedFile) (e : FileSecretError)
    (hQ : ∀ e' t', (e' ≠ .rollback → t' = undoAll prepared t) → Q (.error e') t') :
    Holds fault ok (fun _ => True) Q (settle (prepared, .error e)) t := by
  refine Holds.bind (holds_rollbackAll (J := fun _ _ => True) (fun _ _ _ => trivial)
    (fun _ _ _ _ => trivial) prepared (fun _ _ _ _ _ _ _ => trivial)
    (fun _ _ _ _ _ _ _ _ => trivial) (fun _ _ _ _ _ _ => trivial) false trivial
    (fun failed t' _ h => ⟨trivial, hQ _ t' fun hne => ?_⟩))
  cases failed with
  | true => exact absurd rfl hne
  | false => exact (h rfl).2

/-- What is left when the backups are removed. -/
def dropBackups (prepared : List PreparedFile) (t : FileTree) : FileTree :=
  prepared.foldl (fun t f => if f.backedUp then update t f.backupPath none else t) t

/-- **The last loop.** It removes the backups, or a call fails. -/
theorem holds_cleanup {J : FileTree → Prop} {Q : Except FileSecretError Unit → FileTree → Prop}
    (hJI : ∀ t, J t → I t) (prepared : List PreparedFile)
    (hdrop : ∀ f ∈ prepared, f.backedUp = true → ∀ t, J t →
      ok t ⟨⟨.cleanup, f.path, .removeBackup⟩, .unlink f.backupPath⟩ →
      t f.backupPath ≠ some .dir → J (update t f.backupPath none))
    (hJ : J t) (hok : J (dropBackups prepared t) → Q (.ok ()) (dropBackups prepared t))
    (herr : ∀ e t, J t → FailsIn fault ok .cleanup t
      ∨ (∃ f ∈ prepared, f.backedUp = true ∧ t f.backupPath = some .dir) → Q (.error e) t) :
    Holds fault ok I Q (cleanup prepared) t := by
  induction prepared generalizing t with
  | nil => exact ⟨hJI t hJ, hok hJ⟩
  | cons f rest ih =>
    have hnext : ∀ t', t' = (if f.backedUp then update t f.backupPath none else t) → J t' →
        Holds fault ok I Q (do
          syncAll ⟨.cleanup, f.path, .sync⟩ f.parent .install
          cleanup rest : Installer Unit) t' := by
      rintro t' ht' hJ'
      refine Holds.bindExcept (holds_syncAll (hJI t' hJ') ?_ (fun hfail => herr _ t' hJ' (.inl hfail)))
      refine ih (fun g hg => hdrop g (List.mem_cons_of_mem _ hg)) hJ' ?_ (fun e t hJ h => ?_)
      · rw [dropBackups, List.foldl_cons, ← ht'] at hok
        exact hok
      · exact herr e t hJ (h.imp_right fun ⟨g, hg, h⟩ => ⟨g, List.mem_cons_of_mem _ hg, h⟩)
    refine Holds.bindExcept (Holds.onlyIf (fun hb => ?_) (fun hb => ?_))
    · refine holds_unlink (hJI t hJ) (fun hokay hdir => ?_)
        (fun e h => herr e t hJ (h.imp_right fun h => ⟨f, List.mem_cons_self, hb, h⟩))
      have hJ' := hdrop f List.mem_cons_self hb t hJ hokay hdir
      exact ⟨hJI _ hJ', hnext _ (if_pos hb).symm hJ'⟩
    · exact ⟨hJI t hJ, hnext t (if_neg (Bool.eq_false_iff.mp hb)).symm hJ⟩

/-- The keys of a map come once. -/
theorem StringMap.nodup_keys (files : StringMap) : (files.toList.map Prod.fst).Nodup := by
  rw [Std.ExtTreeMap.map_fst_toList_eq_keys]
  refine List.Pairwise.imp ?_ files.distinct_keys
  rintro a b hab rfl
  exact hab (Std.ReflCmp.compare_self)

/-- **`install_at`**, from what the two loops keep. -/
theorem holds_installAt {files : StringMap} {beforeCommit : ℕ → Except FileSecretError Unit}
    {P E : List PreparedFile → FileTree → Prop}
    {C : List PreparedFile → List PreparedFile → FileTree → Prop}
    {Q : Except FileSecretError Unit → FileTree → Prop}
    (hprepare : PrepareInvariant fault ok I sha256 files.toList P E)
    (hcommit : CommitInvariant ok I sha256 C) (hP : P [] t)
    (hstart : ∀ prepared t, prepared.map path = files.toList.map Prod.fst →
      (∀ f ∈ prepared, OnlyStaged sha256 f) → P prepared t → C [] prepared t)
    (hok : ∀ prepared t, C prepared [] t → Holds fault ok I Q (cleanup prepared) t)
    (herr : ∀ prepared t e, E prepared t ∨ (∃ done rest, prepared = done ++ rest ∧ C done rest t) →
      Holds fault ok I Q (settle (prepared, .error e)) t) :
    Holds fault ok I Q (installAt sha256 files beforeCommit) t := by
  refine Holds.bind (hprepare.holds (fun prepared t hpaths hstaged hP => ?_)
    (fun prepared t e hE => herr prepared t e (.inl hE)) files.nodup_keys files.toList [] rfl
    (fun _ h => h) nofun hP)
  refine Holds.bind (hcommit.holds (fun done t hC => hok done t hC)
    (fun done rest t e hC => herr _ t e (.inr ⟨done, rest, rfl, hC⟩)) prepared [] hstaged ?_)
  exact hstart prepared t hpaths hstaged hP

end Loops
