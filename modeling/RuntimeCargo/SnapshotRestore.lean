import RuntimeCargo.SnapshotSteps
import RuntimeCargo.Ustar

/-!
# Restoring changes nothing but the target

A restore unpacks into a staging directory that nobody else knows and moves
it to the target when all went well. So whatever the archive holds and
wherever the restore fails, the rest of the disk should be as it was; and
when it fails the target should be too.

For the data of files that is so. For modes, owners and times it is not:
`place` sets them by a path of its own, the entry's name joined to the
staging directory, and hands that path to the system. The name need not
lead where `unpack_in` put the entry. An absolute name replaces the
staging directory in the join, while `unpack_in` strips the root; and a
link that stands under the name is followed by `chown` and `chmod`, and by
`utimensat` if a slash is left at the end of the name. Then what changes
is some other node of the disk, the target for one.

An entry is plain (`PlainEntry`) if neither happens. Restores that place plain
entries only touch nothing outside (`restore_confined`), and leave
everything as it was when they fail (`restore_all_or_nothing`).
-/

open Program

/-! ## How a restore ends -/

/-- **The ends of a restore** that has a staging directory, when the disk
was `J` until then: the staging directory was moved, it was removed, or the
removal failed on the way. -/
inductive RestoreEnds (J : Disk → Prop) (staging target : Location) :
    Except SnapshotError RestoreReport → Disk → Prop
  | moved {report : RestoreReport} {d : Disk} {now : ℤ} (hd : J d) :
      RestoreEnds J staging target (.ok report)
        (((d.graft staging target).touch staging now).touch target now)
  | removed {e : SnapshotError} {d : Disk} {now : ℤ} (hd : J d) :
      RestoreEnds J staging target (.error e) ((d.prune (staging.isPrefixOf ·)).touch staging now)
  | left {e : SnapshotError} {c : IoError} {d : Disk} (hd : J d) :
      RestoreEnds J staging target (.error (.cleanup e c)) d
  | halfRemoved {e : SnapshotError} {c : IoError} {d : Disk} {gone : Location → Bool} (hd : J d)
      (hgone : ∀ loc, gone loc = true → staging <+: loc) :
      RestoreEnds J staging target (.error (.cleanup e c)) (d.prune gone)

section Ends

variable {host : Host} {ok : Machine → SnapshotCall → Prop} {J : Disk → Prop} {m : Machine}
  {staging target : Location}

/-- A rename goes through, or it changes nothing. -/
theorem Machine.call_rename (host : Host) (m : Machine) (staging target : Location) :
    (∃ reply now, (m.call host (.rename staging target)).1 = .ok reply ∧
      (m.call host (.rename staging target)).2
        = ((m.disk.graft staging target).touch staging now).touch target now)
    ∨ ∃ e, m.call host (.rename staging target) = (.error e, m.disk) := by
  rcases m.call_cases host (.rename staging target) with hcall | ⟨fault, hcall⟩
  · rw [hcall, DiskOp.exec]
    split
    · exact .inr ⟨_, rfl⟩
    · split
      · exact .inl ⟨_, _, rfl, rfl⟩
      · exact .inr ⟨_, rfl⟩
  · exact .inr ⟨_, hcall⟩

/-- A removal goes through, fails, or fails on the way. -/
theorem Machine.call_removeDirAll (host : Host) (m : Machine) (staging : Location) :
    (∃ reply now, m.call host (.removeDirAll staging)
      = (.ok reply, (m.disk.prune (staging.isPrefixOf ·)).touch staging now))
    ∨ (∃ e, m.call host (.removeDirAll staging) = (.error e, m.disk))
    ∨ ∃ e gone, (∀ loc, gone loc = true → staging <+: loc)
      ∧ m.call host (.removeDirAll staging) = (.error e, m.disk.prune gone) := by
  rcases m.call_cases host (.removeDirAll staging) with hcall | ⟨fault, hcall⟩
  · rw [hcall, DiskOp.exec]
    split
    · exact .inr (.inl ⟨_, rfl⟩)
    · exact .inl ⟨_, _, rfl⟩
  · refine .inr (.inr ⟨_, _, fun loc hloc => ?_, hcall⟩)
    exact List.isPrefixOf_iff_prefix.mp (Bool.and_eq_true_iff.mp hloc).1

namespace KeptByUnpacking

variable {keys : ChunkKeys} {objects : Location}
  {V : ManifestChunk → Prop} (h : KeptByUnpacking host ok staging keys objects J V)

include h

/-- The staging directory is moved when the archive was extracted. -/
theorem runs_extractAndRename (euid : ℕ) (manifest : Manifest) (dek : Digest)
    (hkeys : keys = ⟨dek, manifest.lineage⟩) (hJ : J m.disk) :
    Runs host ok (fun _ => True) (fun r m => match r with
        | .ok report => RestoreEnds J staging target (.ok report) m.disk
          ∧ ∀ chunk ∈ manifest.chunks, V chunk
        | .error _ => J m.disk)
      (extractAndRename host.crypto host.tar euid manifest dek objects staging target) m := by
  refine (h.gives_extract euid manifest dek hkeys).andThen hJ ?_ fun _ _ hJ => hJ
  intro report m hJ hverified
  refine runs_bindExcept (runs_bind (runs_callUnit trivial trivial ?_ ?_))
  · intro reply hreply
    refine ⟨trivial, trivial, ?_, hverified⟩
    rcases m.call_rename host staging target with ⟨_, now, -, hdisk⟩ | ⟨e, hcall⟩
    · show RestoreEnds J staging target (.ok report) (m.call host (.rename staging target)).2
      rw [hdisk]
      exact .moved hJ
    · rw [hcall] at hreply
      exact nomatch hreply
  · intro e herror
    refine ⟨trivial, ?_⟩
    show J (m.call host (.rename staging target)).2
    rcases m.call_rename host staging target with ⟨_, now, hok, -⟩ | ⟨e, hcall⟩
    · rw [hok] at herror
      exact nomatch herror
    · rw [hcall]
      exact hJ

/-- The staging directory is removed after a failure. -/
theorem removeAfter (target : Location) (e : SnapshotError) (hJ : J m.disk) :
    Runs host ok (fun _ => True) (fun r m => match r with
        | .ok () => RestoreEnds J staging target (.error e) m.disk
        | .error c => RestoreEnds J staging target (.error (.cleanup e (.os c))) m.disk)
      (removeStaging staging) m := by
  have hopen := Holds.mono (h.openUp pathMax staging List.prefix_rfl m hJ)
    (fun r m hJ _ => hJ)
  refine runs_bindExcept (Holds.mono (Holds.weaken hopen fun _ _ => trivial) ?_)
  rintro r m - hJ
  cases r with
  | error c => exact .left hJ
  | ok _ =>
    have hcall := m.call_removeDirAll host staging
    refine runs_callUnit trivial trivial (fun reply hreply => ?_) fun c herror => ?_
    · show RestoreEnds J staging target (.error e) (m.call host (.removeDirAll staging)).2
      rcases hcall with ⟨_, now, hcall⟩ | ⟨c, hcall⟩ | ⟨c, gone, -, hcall⟩
      · rw [hcall]
        exact .removed hJ
      · rw [hcall] at hreply
        exact nomatch hreply
      · rw [hcall] at hreply
        exact nomatch hreply
    · show RestoreEnds J staging target (.error (.cleanup e (.os c)))
        (m.call host (.removeDirAll staging)).2
      rcases hcall with ⟨_, now, hcall⟩ | ⟨c, hcall⟩ | ⟨c, gone, hgone, hcall⟩
      · rw [hcall] at herror
        exact nomatch herror
      · rw [hcall]
        exact .left hJ
      · rw [hcall]
        exact .halfRemoved hJ hgone

/-- **The staging directory is moved or removed.** -/
theorem runs_restoreInto (euid : ℕ) (manifest : Manifest) (dek : Digest)
    (hkeys : keys = ⟨dek, manifest.lineage⟩) (hJ : J m.disk) :
    Runs host ok (fun _ => True) (fun r m => RestoreEnds J staging target r m.disk
        ∧ ∀ report, r = .ok report → ∀ chunk ∈ manifest.chunks, V chunk)
      (restoreInto host.crypto host.tar euid manifest dek objects staging target) m := by
  refine runs_bindExcept (runs_lift (Holds.mono
    (h.runs_extractAndRename euid manifest dek hkeys hJ) fun r m _ hr => ?_))
  cases r with
  | ok report => exact ⟨trivial, hr.1, fun _ _ => hr.2⟩
  | error e =>
    refine runs_bindExcept (runs_lift (Holds.mono (h.removeAfter target e hr) fun r m _ hr => ?_))
    cases r with
    | ok _ | error c => exact ⟨trivial, hr, nofun⟩

end KeptByUnpacking

end Ends

/-! ## Before there is a staging directory -/

/-- What `check_object` has found: the object stands in the directory, and
the lengths agree. -/
structure ObjectChecked (d : Disk) (objects : Location) (chunk : ManifestChunk) : Prop where
  bounded : chunk.plaintextBytes ≤ maxChunkPlaintextBytes
  sized : chunk.objectBytes = chunk.plaintextBytes + chunkOverhead
  stands : ∃ n data, d.node (objects ++ [utf8 (objectName chunk.id)]) = some n
    ∧ n.kind = .file data ∧ data.length = chunk.objectBytes

/-- What a restore has checked before it makes anything. -/
structure Accepted (crypto : SnapshotCrypto) (d : Disk) (signed : SignedManifest)
    (trust : RestoreTrust) (objects : Location) : Prop where
  signature : ∃ x, verifySignature crypto.toManifestCrypto signed.manifest signed.signature
    trust.signer = .ok x
  link : ∀ previous, trust.previous = some previous →
    verifySuccessor crypto.toManifestCrypto previous signed.manifest = .ok ()
  objects : ∀ chunk ∈ signed.manifest.chunks, ObjectChecked d objects chunk

/-- The name of an object is 64 characters long. -/
theorem length_objectName (id : Digest) : (utf8 (objectName id)).length = 64 := by
  rw [length_utf8, objectName, size_hexEncode, Vector.length_toList]

theorem length_stagingDirName (name : FileName) (suffix : String) :
    3 ≤ (stagingDirName name suffix).length := by
  have hdot : 9 ≤ (utf8 (".restore-" ++ suffix)).length := by
    rw [length_utf8, String.utf8ByteSize_append]
    exact Nat.le_add_right 9 _
  rw [stagingDirName, List.length_append]
  omega

section Before

variable {host : Host} {ok : Machine → SnapshotCall → Prop} {d : Disk} {objects parent : Location}
  {name : FileName}

theorem gives_checkObject (chunk : ManifestChunk) :
    Gives host ok (· = d) (fun _ => ObjectChecked d objects chunk) (checkObject objects chunk) := by
  refine Gives.ofCheck.bind fun _ hbounded => Gives.ofCheck.bind fun _ hsized => ?_
  intro m hm
  refine runs_bind (runs_symlinkMetadata hm ?_ ?_)
  · intro loc n hfind
    obtain ⟨hloc, hn⟩ := Disk.find_eq_ok.mp hfind
    have hname : 3 ≤ (utf8 (objectName chunk.id)).length := by
      rw [length_objectName]
      decide
    rw [Disk.resolve_name hname (fun _ _ _ _ => rfl) hloc, hm] at hn
    obtain ⟨kind, mode, uid, gid, mtime⟩ := n
    cases kind with
    | file data =>
      by_cases hlength : data.length = chunk.objectBytes
      · simp only [ne_eq, hlength, not_true_eq_false, if_false]
        exact ⟨hm, fun _ _ => ⟨hbounded, hsized, _, data, hn, rfl, hlength⟩⟩
      · simp only [ne_eq, hlength, not_false_eq_true, if_true]
        exact ⟨hm, nofun⟩
    | directory | symlink | special => exact ⟨hm, nofun⟩
  · intro e
    cases e <;> exact ⟨hm, nofun⟩

theorem gives_verifyLink (crypto : SnapshotCrypto) (manifest : Manifest)
    (previous : Option Manifest) : Gives host ok (· = d) (fun _ => ∀ p, previous = some p →
      verifySuccessor crypto.toManifestCrypto p manifest = .ok ())
      (verifyLink crypto manifest previous) := by
  cases previous with
  | none => exact Gives.pure nofun
  | some p =>
    refine Gives.ofResult.mono fun _ hlink q hq => ?_
    cases hq
    exact hlink

theorem gives_checkTarget :
    Gives host ok (· = d) (fun _ => True) (checkTarget parent name) := by
  intro m hm
  refine runs_bindExcept (runs_lift (runs_symlinkMetadata hm (fun loc n _ => ?_) fun e => ?_))
  · refine Gives.ofCheck.bind (fun _ _ => ?_) (m.next m.disk) hm
    refine Gives.bind (P := fun _ => True) (Gives.ofCall fun m hm => ?_) fun _ _ =>
      Gives.ofCheck.mono fun _ _ => trivial
    exact runs_readDir hm fun _ _ _ => trivial
  · cases e <;> exact ⟨hm, fun _ _ => trivial⟩

theorem gives_randomSuffix : Gives host ok (· = d) (fun _ => True) randomSuffix := by
  refine Gives.bind (P := fun _ => True) (fun m hm => ?_) fun _ _ => Gives.pure trivial
  refine runs_bind (runs_perform hm fun _ => ⟨hm, ?_⟩)
  have hreply : (Machine.step host (.random 8) m).1
      = .random ((host.entropy m.calls 8).map Vector.toList) := rfl
  rw [hreply]
  cases host.entropy m.calls 8 with
  | none | some bytes => exact ⟨hm, fun _ _ => trivial⟩

/-- A directory is made where nothing stood, or nothing changes. -/
theorem Machine.call_mkdir (host : Host) (m : Machine) (path : DiskPath) (mode : BitVec 12) :
    (∃ reply loc n now, m.disk.resolve host.system false path = .ok loc ∧ m.disk.node loc = none
      ∧ m.call host (.mkdir path mode) = (.ok reply, m.disk.create loc n now))
    ∨ ∃ e, m.call host (.mkdir path mode) = (.error e, m.disk) := by
  rcases m.call_cases host (.mkdir path mode) with hcall | ⟨fault, hcall⟩
  · rw [hcall, DiskOp.exec]
    cases hloc : m.disk.resolve host.system false path with
    | error e => exact .inr ⟨e, rfl⟩
    | ok loc =>
      rw [Disk.make]
      split
      case isTrue => exact .inr ⟨_, rfl⟩
      case isFalse hnone =>
        split
        · exact .inl ⟨_, loc, _, _, rfl, Option.not_isSome_iff_eq_none.mp hnone, rfl⟩
        · exact .inr ⟨_, rfl⟩
  · exact .inr ⟨_, hcall⟩

/-- **What a restore comes to**: it is refused and nothing has changed, or
it had a staging directory where nothing had stood. -/
inductive RestoreOutcome (crypto : SnapshotCrypto) (d : Disk) (signed : SignedManifest)
    (trust : RestoreTrust) (objects : Location) (J : Location → Disk → Prop)
    (V : ManifestChunk → Prop) :
    Option (Location × FileName) → Except SnapshotError RestoreReport → Disk → Prop
  | refused {target : Option (Location × FileName)} {e : SnapshotError} :
      RestoreOutcome crypto d signed trust objects J V target (.error e) d
  | staged {parent : Location} {name : FileName} {r : Except SnapshotError RestoreReport}
      {d' : Disk} (suffix : String)
      (hfree : d.node (parent ++ [stagingDirName name suffix]) = none)
      (hends : RestoreEnds (J (parent ++ [stagingDirName name suffix]))
        (parent ++ [stagingDirName name suffix]) (parent ++ [name]) r d')
      (haccepted : Accepted crypto d signed trust objects)
      (hverified : ∀ report, r = .ok report → ∀ chunk ∈ signed.manifest.chunks, V chunk) :
      RestoreOutcome crypto d signed trust objects J V (some (parent, name)) r d'

/-- **The run of a restore.** The property that is carried through the
unpacking has to hold when the staging directory was made. -/
theorem runs_restore {J : Location → Disk → Prop} {V : ManifestChunk → Prop} (euid : ℕ)
    (signed : SignedManifest) (dek : Digest) (trust : RestoreTrust) (objects : Location)
    (target : Option (Location × FileName))
    (hkept : ∀ staging, d.node staging = none →
      KeptByUnpacking host ok staging ⟨dek, signed.manifest.lineage⟩ objects (J staging) V)
    (hstart : ∀ staging n now, d.node staging = none → J staging (d.create staging n now))
    (m : Machine) (hm : m.disk = d) :
    Runs host ok (fun _ => True)
      (fun r m => RestoreOutcome host.crypto d signed trust objects J V target r m.disk)
      (restore host.crypto host.tar euid signed dek trust objects target) m := by
  have hrefused : ∀ (e : SnapshotError) (m : Machine), m.disk = d →
      RestoreOutcome host.crypto d signed trust objects J V target (.error e) m.disk := by
    rintro e m rfl
    exact .refused
  refine Gives.andThen (J := (· = d)) Gives.ofResult hm (fun x m hm hsignature => ?_) hrefused
  refine (gives_verifyLink _ _ _).andThen hm (fun _ m hm hlink => ?_) hrefused
  refine (Gives.forM gives_checkObject _).andThen hm (fun _ m hm hobjects => ?_) hrefused
  cases target with
  | none => exact ⟨trivial, hrefused _ m hm⟩
  | some x =>
    obtain ⟨parent, name⟩ := x
    refine gives_checkTarget.andThen hm (fun _ m hm _ => ?_) hrefused
    refine gives_randomSuffix.andThen hm (fun suffix m hm _ => ?_) hrefused
    have hcall := m.call_mkdir host (inDir parent (stagingDirName name suffix)) 0o700
    refine runs_bindExcept (runs_bind (runs_callUnit trivial trivial (fun reply hreply => ?_)
      fun e herror => ?_))
    · rcases hcall with ⟨_, loc, n, now, hloc, hfree, hcall⟩ | ⟨e, hcall⟩
      · obtain rfl := Disk.resolve_name (length_stagingDirName name suffix) (fun _ _ _ _ => rfl) hloc
        rw [hm] at hfree
        rw [hcall, hm]
        refine ⟨trivial, ?_⟩
        refine Holds.mono ((hkept _ hfree).runs_restoreInto euid signed.manifest dek rfl
          (hstart _ n now hfree)) ?_
        rintro r m - ⟨hends, hverified⟩
        exact .staged suffix hfree hends ⟨⟨x, hsignature⟩, hlink, hobjects⟩ hverified
      · rw [hcall] at hreply
        exact nomatch hreply
    · rcases hcall with ⟨_, loc, n, now, hloc, hfree, hcall⟩ | ⟨e, hcall⟩
      · rw [hcall] at herror
        exact nomatch herror
      · rw [hcall]
        exact ⟨trivial, hrefused _ _ hm⟩

end Before

/-! ## PlainEntry entries -/

/-- **A plain entry**, on the disk on which it has been unpacked: its name
is relative, and a link stands under it only if the entry is one and its
name has no slash at the end. -/
structure PlainEntry (d : Disk) (staging : Location) (e : TarEntry) : Prop where
  relative : e.path.head? ≠ some 0x2f
  noLink : ∀ m c n target, Walks d true staging (realNames (pathComponents e.path)).dropLast m →
    (realNames (pathComponents e.path)).getLast? = some c → d.node (m ++ [c]) = some n →
    n.kind = .symlink target → e.entryType = .symlink ∧ (pathComponents e.path).getLast? = some c

/-- The entries that a run unpacks are plain. -/
def PlainStep (host : Host) (m : Machine) : SnapshotCall → Prop
  | .unpackIn e data staging => (host.tar.unpackIn staging e data m.disk).1 = .ok true →
      PlainEntry (host.tar.unpackIn staging e data m.disk).2 staging e
  | _ => True

/-- **The path of a plain entry stays in the staging directory.** -/
theorem PlainEntry.inside {host : Host} (htar : UnpackConfined host.tar) {staging loc : Location}
    {e : TarEntry} {data : TarData} {d d' : Disk} {follow : Bool}
    (hplain : PlainEntry (host.tar.unpackIn staging e data d).2 staging e)
    (hresult : (host.tar.unpackIn staging e data d).1 = .ok true)
    (hkinds : (host.tar.unpackIn staging e data d).2.SameKinds d')
    (hfollow : follow = true → e.entryType ≠ .symlink)
    (hloc : d'.resolve host.system follow (joinPath staging e.path) = .ok loc) :
    staging <+: loc := by
  have hwalks := hkinds.walks (d'.walks_of_resolve hloc)
  rw [joinPath, if_neg hplain.relative] at hwalks
  refine hwalks.inside ?_ (htar.inside hresult) ?_
  · exact fun hup => htar.refuses hup hresult
  · intro m c n target hm hc hn hkind
    obtain ⟨htype, hlast⟩ := hplain.noLink m c n target hm hc hn hkind
    refine ⟨hlast, ?_⟩
    cases follow with
    | false => rfl
    | true => exact absurd htype (hfollow rfl)

/-! ## What is kept on the way -/

section Kept

variable {host : Host} {objects staging : Location} {keys : ChunkKeys} {d : Disk}

/-- **Nothing has changed outside of a region** but the time of some
directories. -/
structure OnlyIn (region timed : Location → Prop) (d d' : Disk) : Prop where
  outside : d.SameOutside (fun loc => region loc ∨ timed loc) d'
  untimed : d.SameView Inode.untimed region d'

namespace OnlyIn

variable {region region' timed : Location → Prop} {d' d'' : Disk}

theorem refl : OnlyIn region timed d d := ⟨.refl, fun _ _ => rfl⟩

theorem trans (h : OnlyIn region timed d d') (h' : d'.SameOutside region d'') :
    OnlyIn region timed d d'' where
  outside := h.outside.trans (h'.mono fun _ => .inl)
  untimed := h.untimed.trans (.of_sameOutside h')

theorem mono (h : OnlyIn region timed d d') (hregion : ∀ loc, region loc → region' loc) :
    OnlyIn region' timed d d' where
  outside := h.outside.mono fun loc hloc => hloc.imp_left (hregion loc)
  untimed := h.untimed.mono hregion

theorem touch {loc : Location} {now : ℤ} (h : OnlyIn region timed d d')
    (hloc : timed loc.dropLast) : OnlyIn region timed d (d'.touch loc now) where
  outside := h.outside.trans (.of_modify (.inr hloc))
  untimed := h.untimed.trans (.of_modify fun _ => rfl)

end OnlyIn

/-- What a restore may change until it is done. -/
abbrev OnlyStaging (d : Disk) (staging : Location) : Disk → Prop :=
  OnlyIn (staging <+: ·) (· = staging.dropLast) d

theorem onlyStaging_create {n : Inode} {now : ℤ} :
    OnlyStaging d staging (d.create staging n now) := by
  have hset : d.SameOutside (staging <+: ·) (d.set staging n) :=
    fun x hx => Function.update_of_ne (fun heq : x = staging => hx (heq ▸ List.prefix_rfl)) _ _
  exact (OnlyIn.refl.trans hset).touch rfl

/-- **Restores of plain entries change nothing outside.** -/
theorem keptByUnpacking_onlyStaging (htar : UnpackConfined host.tar) :
    KeptByUnpacking host (PlainStep host) staging keys objects (OnlyStaging d staging)
      fun _ => True where
  unpacked _ hd := hd.trans (htar.outside staging _ _ _)
  placed hplain _ hresult hkinds hd hfollow hloc _ := by
    refine hd.trans (.of_modify ?_)
    exact (hplain hresult).inside htar hresult hkinds hfollow hloc
  inside hloc _ hd := hd.trans (.of_modify hloc)
  verified _ _ _ _ _ := trivial

/-- A chunk's object opens, if it is as long as the manifest says. -/
def OpensIn (crypto : SnapshotCrypto) (d : Disk) (keys : ChunkKeys) (objects : Location)
    (chunk : ManifestChunk) : Prop :=
  ∀ n data, d.node (objects ++ [utf8 (objectName chunk.id)]) = some n → n.kind = .file data →
    data.length = chunk.objectBytes → ∃ plaintext, keys.opened crypto chunk.id data = .ok plaintext

/-- **No restore changes what stands outside**, whatever its entries are;
and so the chunks that it reads are those that were there when it began. -/
theorem keptByUnpacking_kinds (htar : UnpackConfined host.tar) (htree : d.IsTree)
    (hfree : d.node staging = none) :
    KeptByUnpacking host (fun _ _ => True) staging keys objects
      (d.SameView Inode.kind (staging <+: ·)) (OpensIn host.crypto d keys objects) where
  unpacked _ hd := hd.trans (.of_sameOutside (htar.outside staging _ _ _))
  placed _ _ _ _ hd _ _ hf := hd.trans (.of_modify hf)
  inside _ hf hd := hd.trans (.of_modify hf)
  verified := by
    intro d' chunk loc n' data' plaintext hd hfind hdata' htake hopened n data hn hdata hlength
    have houtside : ¬ staging <+: objects ++ [utf8 (objectName chunk.id)] := by
      intro hpre
      rw [htree.node_eq_none hfree hpre] at hn
      exact nomatch hn
    have hkind := hd _ houtside
    rw [hn, Option.map_some, hdata] at hkind
    obtain ⟨hloc, hn'⟩ := Disk.find_eq_ok.mp hfind
    have hname : 3 ≤ (utf8 (objectName chunk.id)).length := by
      rw [length_objectName]
      decide
    obtain rfl := Disk.resolve_name hname (fun n target hn htarget => by
      rw [hn, Option.map_some, htarget] at hkind
      exact nomatch hkind) hloc
    rw [hn', Option.map_some, hdata', Option.some.injEq, NodeKind.file.injEq] at hkind
    rw [hkind, List.take_of_length_le (by omega)] at hopened
    exact ⟨plaintext, hopened⟩

end Kept

/-! ## How the disk is left -/

section Left

variable {d d' : Disk} {staging target : Location} {r : Except SnapshotError RestoreReport}

/-- Whether it was moved or removed, only the staging directory and the
target have changed. -/
theorem RestoreEnds.onlyIn (h : RestoreEnds (OnlyStaging d staging) staging target r d')
    (htarget : target.dropLast = staging.dropLast) :
    OnlyIn (fun loc => staging <+: loc ∨ target <+: loc) (· = staging.dropLast) d d' := by
  have hleft : ∀ loc, staging <+: loc → staging <+: loc ∨ target <+: loc := fun _ => .inl
  cases h with
  | moved hd =>
    refine OnlyIn.touch (OnlyIn.touch ((hd.mono hleft).trans ?_) rfl) htarget
    exact .of_graft hleft fun _ => .inr
  | removed hd =>
    refine ((hd.mono hleft).trans (.of_prune fun loc hloc => .inl ?_)).touch rfl
    exact List.isPrefixOf_iff_prefix.mp hloc
  | left hd => exact hd.mono hleft
  | halfRemoved hd hgone => exact (hd.mono hleft).trans (.of_prune fun loc hloc => .inl (hgone loc hloc))

variable {e : SnapshotError}

/-- After a failure the staging directory was removed, unless the removal
failed as well. -/
theorem RestoreEnds.eq_removed {J : Disk → Prop} (h : RestoreEnds J staging target (.error e) d')
    (he : ∀ e' c, e ≠ .cleanup e' c) :
    ∃ d now, J d ∧ d' = (d.prune (staging.isPrefixOf ·)).touch staging now := by
  cases h with
  | left _ | halfRemoved _ _ => exact absurd rfl (he _ _)
  | removed hd => exact ⟨_, _, hd, rfl⟩

/-- When it was removed, everything is as before. -/
theorem RestoreEnds.undone (h : RestoreEnds (OnlyStaging d staging) staging target (.error e) d')
    (he : ∀ e' c, e ≠ .cleanup e' c) (hfree : ∀ loc, staging <+: loc → d.node loc = none) :
    OnlyIn (fun _ => False) (· = staging.dropLast) d d' := by
  obtain ⟨d₁, now, hd, rfl⟩ := h.eq_removed he
  refine OnlyIn.touch ⟨Disk.SameView.sameOutside (.pruned ?_ hfree), .pruned ?_ hfree⟩ rfl
  · refine .of_sameOutside (hd.outside.mono fun loc hloc => ?_)
    exact hloc.imp_right .inr
  · exact hd.untimed.mono fun loc => .inl

/-- Whatever the entries were, the nodes are of the same kinds. -/
theorem RestoreEnds.undone_kinds
    (h : RestoreEnds (d.SameView Inode.kind (staging <+: ·)) staging target (.error e) d')
    (he : ∀ e' c, e ≠ .cleanup e' c) (hfree : ∀ loc, staging <+: loc → d.node loc = none) :
    d.SameKinds d' := by
  obtain ⟨d₁, now, hd, rfl⟩ := h.eq_removed he
  have hpruned : d.SameView Inode.kind (fun _ => False) (d₁.prune (staging.isPrefixOf ·)) :=
    .pruned (hd.mono fun loc => .inl) hfree
  exact Disk.SameKinds.trans (fun loc => hpruned loc id) (.of_modify fun _ => rfl)

end Left

/-- The staging directory and the target of a restore. -/
def restoreRegion (target : Option (Location × FileName)) (suffix : String) (loc : Location) :
    Prop :=
  ∃ parent name, target = some (parent, name)
    ∧ (parent ++ [stagingDirName name suffix] <+: loc ∨ parent ++ [name] <+: loc)

/-- The directory that both are in. -/
def isTargetParent (target : Option (Location × FileName)) (loc : Location) : Prop :=
  ∃ name, target = some (loc, name)

section Outcome

variable {crypto : SnapshotCrypto} {d d' : Disk} {signed : SignedManifest} {trust : RestoreTrust}
  {objects : Location} {J : Location → Disk → Prop} {V : ManifestChunk → Prop}
  {target : Option (Location × FileName)} {r : Except SnapshotError RestoreReport}

theorem RestoreOutcome.onlyIn
    (h : RestoreOutcome crypto d signed trust objects (OnlyStaging d) V target r d') :
    ∃ suffix, OnlyIn (restoreRegion target suffix) (isTargetParent target) d d' := by
  cases h with
  | refused => exact ⟨"", .refl⟩
  | @staged parent name r d' suffix _ hends =>
    have honly := hends.onlyIn (by rw [List.dropLast_concat, List.dropLast_concat])
    rw [List.dropLast_concat] at honly
    have hregion : ∀ loc, (parent ++ [stagingDirName name suffix] <+: loc
        ∨ parent ++ [name] <+: loc) → restoreRegion (some (parent, name)) suffix loc :=
      fun loc hloc => ⟨parent, name, rfl, hloc⟩
    refine ⟨suffix, honly.outside.mono fun loc hloc => ?_, honly.untimed.mono hregion⟩
    rcases hloc with hloc | rfl
    · exact .inl (hregion loc hloc)
    · exact .inr ⟨name, rfl⟩

theorem RestoreOutcome.undone {e : SnapshotError} (htree : d.IsTree)
    (he : ∀ e' c, e ≠ .cleanup e' c)
    (h : RestoreOutcome crypto d signed trust objects (OnlyStaging d) V target (.error e) d') :
    OnlyIn (fun _ => False) (isTargetParent target) d d' := by
  cases h with
  | refused => exact .refl
  | @staged parent name _ _ suffix hfree hends =>
    have hundone := hends.undone he fun loc hloc => htree.node_eq_none hfree hloc
    rw [List.dropLast_concat] at hundone
    refine ⟨hundone.outside.mono fun loc hloc => ?_, hundone.untimed⟩
    rcases hloc with hloc | rfl
    · exact .inl hloc
    · exact .inr ⟨name, rfl⟩

theorem RestoreOutcome.undone_kinds {e : SnapshotError} (htree : d.IsTree)
    (he : ∀ e' c, e ≠ .cleanup e' c)
    (h : RestoreOutcome crypto d signed trust objects
      (fun staging => d.SameView Inode.kind (staging <+: ·)) V target (.error e) d') :
    d.SameKinds d' := by
  cases h with
  | refused => exact .refl
  | staged suffix hfree hends =>
    exact hends.undone_kinds he fun loc hloc => htree.node_eq_none hfree hloc

theorem RestoreOutcome.verified {report : RestoreReport}
    (h : RestoreOutcome crypto d signed trust objects J V target (.ok report) d') :
    Accepted crypto d signed trust objects ∧ ∀ chunk ∈ signed.manifest.chunks, V chunk := by
  cases h with
  | staged suffix _ _ haccepted hverified => exact ⟨haccepted, hverified report rfl⟩

end Outcome

section Runs

variable {host : Host} (htar : UnpackConfined host.tar) (euid : ℕ) (signed : SignedManifest)
  (dek : Digest) (trust : RestoreTrust) (objects : Location)
  (target : Option (Location × FileName)) (m : Machine)

include htar

theorem runs_restore_plain : Runs host (PlainStep host) (fun _ => True)
    (fun r m' => RestoreOutcome host.crypto m.disk signed trust objects (OnlyStaging m.disk)
      (fun _ => True) target r m'.disk)
    (restore host.crypto host.tar euid signed dek trust objects target) m :=
  runs_restore euid signed dek trust objects target
    (fun _ _ => keptByUnpacking_onlyStaging htar) (fun _ _ _ _ => onlyStaging_create) m rfl

theorem runs_restore_any (htree : m.disk.IsTree) : Runs host (fun _ _ => True) (fun _ => True)
    (fun r m' => RestoreOutcome host.crypto m.disk signed trust objects
      (fun staging => m.disk.SameView Inode.kind (staging <+: ·))
      (OpensIn host.crypto m.disk ⟨dek, signed.manifest.lineage⟩ objects) target r m'.disk)
    (restore host.crypto host.tar euid signed dek trust objects target) m := by
  refine runs_restore euid signed dek trust objects target
    (fun _ hfree => keptByUnpacking_kinds htar htree hfree) (fun staging n now hfree => ?_) m rfl
  refine Disk.SameView.trans (fun loc hloc => ?_) (.of_modify fun _ => rfl)
  exact congrArg (Option.map Inode.kind)
    (Function.update_of_ne (fun heq : loc = staging => hloc (heq ▸ List.prefix_rfl)) _ _)

end Runs

/-! ## Two archives

For runs that are followed to their end: an archive whose only entry has an
absolute name and which breaks off behind it, and one whose entry is plain.
The ids, digests and signatures are those that HMAC-SHA-256, SHA-256 and
Ed25519 give for them, with a data key and a signing seed of zeros; the
cipher is one that hides nothing. -/

namespace RestoreSample

def absoluteEntry : TarEntry := ⟨utf8 "/d", .regular, some 0o666, some 1000, some 1000, some 7, []⟩

def plainEntry : TarEntry := ⟨utf8 "f", .regular, some 0o644, some 1000, some 1000, some 7, []⟩

def brokenArchive : List UInt8 := Ustar.headerBlock absoluteEntry 0 ++ [1]

def plainArchive : List UInt8 := Ustar.headerBlock plainEntry 0

def brokenId : Digest :=
  #v[181, 81, 90, 241, 188, 47, 203, 167, 41, 160, 157, 217, 61, 96, 19, 140,
    164, 183, 37, 1, 80, 200, 211, 239, 63, 88, 37, 22, 148, 245, 81, 202]

def plainId : Digest :=
  #v[37, 199, 62, 234, 23, 173, 82, 24, 210, 201, 24, 45, 46, 113, 132, 168,
    2, 210, 132, 42, 226, 251, 198, 73, 134, 130, 118, 172, 158, 12, 17, 244]

def signer : Digest :=
  #v[59, 106, 39, 188, 206, 182, 164, 45, 98, 163, 168, 208, 42, 111, 13, 115,
    101, 50, 21, 119, 29, 226, 67, 166, 58, 192, 72, 161, 139, 89, 218, 41]

/-- The manifest of a snapshot of one chunk. -/
def manifest (id : Digest) (length : ℕ) : Manifest :=
  { sampleGenesis with
    writer := { sampleGenesis.writer with signerPublicKey := signer }
    plaintextBytes := length
    chunks := [⟨id, length, length + chunkOverhead⟩] }

def brokenDigest : Digest :=
  #v[163, 128, 50, 154, 184, 184, 217, 10, 170, 200, 79, 77, 143, 70, 202, 58,
    30, 190, 52, 99, 192, 22, 82, 212, 59, 221, 47, 13, 35, 108, 70, 164]

def plainDigest : Digest :=
  #v[222, 170, 58, 21, 69, 40, 130, 140, 221, 66, 106, 196, 221, 234, 56, 240,
    89, 34, 173, 156, 194, 42, 65, 239, 107, 214, 21, 137, 73, 184, 108, 242]

def broken : SignedManifest :=
  ⟨manifest brokenId 513,
    #v[131, 73, 133, 200, 149, 104, 81, 87, 197, 126, 142, 179, 89, 106, 186, 208,
      32, 28, 53, 203, 48, 33, 153, 221, 17, 17, 61, 173, 163, 147, 170, 253,
      44, 141, 218, 39, 221, 134, 16, 58, 8, 21, 66, 68, 78, 63, 228, 33,
      177, 106, 227, 77, 171, 248, 213, 61, 250, 124, 34, 66, 119, 70, 10, 2]⟩

def plain : SignedManifest :=
  ⟨manifest plainId 512,
    #v[69, 47, 233, 71, 28, 63, 105, 144, 119, 222, 108, 193, 246, 243, 97, 48,
      198, 167, 91, 134, 117, 76, 135, 202, 239, 122, 81, 151, 156, 160, 131, 243,
      173, 224, 136, 148, 77, 243, 242, 221, 65, 133, 23, 114, 147, 89, 167, 157,
      82, 56, 163, 228, 181, 101, 57, 128, 122, 173, 106, 147, 242, 100, 137, 3]⟩

def crypto : SnapshotCrypto where
  sha256 bytes := if bytes = broken.manifest.layout then brokenDigest else plainDigest
  verifies key message signature := key = signer
    ∧ (message = signedMessage brokenDigest ∧ signature = broken.signature
      ∨ message = signedMessage plainDigest ∧ signature = plain.signature)
  hkdf dek _ _ := dek
  hmac _ plaintext := if plaintext.length = 513 then brokenId else plainId
  aeadSeal _ _ _ plaintext := plaintext ++ List.replicate chunkTagLen 0
  aeadOpen _ _ _ body :=
    if body.drop (body.length - chunkTagLen) = List.replicate chunkTagLen 0 then
      some (body.take (body.length - chunkTagLen))
    else none

theorem length_aeadOpen (key : Digest) (nonce aad body plaintext : List UInt8)
    (h : crypto.aeadOpen key nonce aad body = some plaintext) :
    plaintext.length + chunkTagLen = body.length := by
  replace h : (if body.drop (body.length - chunkTagLen) = List.replicate chunkTagLen 0 then
    some (body.take (body.length - chunkTagLen)) else none) = some plaintext := h
  split at h
  case isFalse => exact nomatch h
  case isTrue htag =>
    have hlength := congrArg List.length htag
    rw [List.length_drop, List.length_replicate] at hlength
    rw [← Option.some.inj h, List.length_take]
    omega

/-- The superuser, and a host on which no call fails. -/
def host : Host where
  crypto := crypto
  tar := Ustar.reader ⟨0, 0, [0]⟩ 100
  system := ⟨⟨0, 0, [0]⟩, 40, id⟩
  clock _ := 100
  entropy _ k := some (Vector.replicate k 0)
  fault _ := none

theorem confined_host : UnpackConfined host.tar := Ustar.reader_confined ⟨0, 0, [0]⟩ 100

def dek : Digest := Vector.replicate 32 0

def trust : RestoreTrust := ⟨signer, none⟩

/-- Objects in `/o`, and something at `/d`. -/
def machine (kind : NodeKind) : Machine where
  disk := ((((Disk.empty.set [] ⟨.directory, 0o755, 0, 0, 0⟩).set [utf8 "o"]
    ⟨.directory, 0o755, 0, 0, 0⟩).set [utf8 "o", utf8 (objectName brokenId)]
    ⟨.file ((⟨dek, "l"⟩ : ChunkKeys).sealed crypto (Vector.replicate 12 0) brokenArchive),
      0o644, 0, 0, 0⟩).set [utf8 "o", utf8 (objectName plainId)]
    ⟨.file ((⟨dek, "l"⟩ : ChunkKeys).sealed crypto (Vector.replicate 12 0) plainArchive),
      0o644, 0, 0, 0⟩).set [utf8 "d"] ⟨kind, 0o755, 0, 0, 0⟩
  calls := 0

/-- A restore of a snapshot to a name in the root directory. -/
def restoring (signed : SignedManifest) (name : String) : SnapshotIO RestoreReport :=
  restore host.crypto host.tar 0 signed dek trust [utf8 "o"] (some ([], utf8 name))

/-- What comes of it. -/
def restored (signed : SignedManifest) (kind : NodeKind) (name : String) :
    Except SnapshotError RestoreReport × Machine :=
  run (Machine.step host) (restoring signed name) (machine kind)

/-- A link stands there. -/
def linkAt (d : Disk) (loc : Location) : Bool :=
  match (d.node loc).map Inode.kind with
  | some (.symlink _) => true
  | _ => false

/-- A name of one part, under which no link stands. -/
def namesOnePart (m : Machine) : SnapshotCall → Bool
  | .unpackIn e data staging =>
    match pathComponents e.path with
    | [c] => e.path.head? ≠ some 0x2f ∧ isHere c = false
      ∧ linkAt (host.tar.unpackIn staging e data m.disk).2 (staging ++ [c]) = false
    | _ => false
  | _ => true

theorem plainStep_of_namesOnePart (m : Machine) (c : SnapshotCall)
    (h : namesOnePart m c = true) : PlainStep host m c := by
  cases c with
  | disk | random | chunkId => trivial
  | unpackIn e data staging =>
    intro _
    rw [namesOnePart] at h
    split at h
    case h_2 => cases h
    case h_1 c hpath =>
      obtain ⟨hhead, hc, hlink⟩ := of_decide_eq_true h
      have hreal : realNames (pathComponents e.path) = [c] := by
        rw [hpath, realNames, List.filter_cons_of_pos (by rw [hc]; rfl)]
        rfl
      refine ⟨hhead, fun m c' n target hm hc' hn hkind => ?_⟩
      rw [hreal] at hm hc'
      have hhere : m = staging := hm.eq_of_here (by rintro _ ⟨⟩)
      obtain rfl : c = c' := Option.some.inj hc'
      rw [hhere] at hn
      rw [linkAt, hn, Option.map_some, hkind] at hlink
      cases hlink

theorem plain_keeps (name : String)
    (h : keepsAll (Machine.step host) namesOnePart (restoring plain name) (machine (.file [1]))) :
    Keeps (Machine.step host) (PlainStep host) (restoring plain name) (machine (.file [1])) :=
  keeps_of_keepsAll namesOnePart plainStep_of_namesOnePart h

end RestoreSample

/-- **A restore of plain entries is confined.** Whether it succeeds or
fails, and wherever it fails, nothing changes outside of its staging
directory and the target but the time of the directory they are in. -/
theorem restore_confined (host : Host) (htar : UnpackConfined host.tar) (euid : ℕ)
    (signed : SignedManifest) (dek : Digest) (trust : RestoreTrust) (objects : Location)
    (target : Option (Location × FileName)) (m : Machine)
    (hplain : Keeps (Machine.step host) (PlainStep host)
      (restore host.crypto host.tar euid signed dek trust objects target) m) :
    ∃ suffix, OnlyIn (restoreRegion target suffix) (isTargetParent target) m.disk
      (run (Machine.step host)
        (restore host.crypto host.tar euid signed dek trust objects target) m).2.disk := by
  exact ((runs_restore_plain htar euid signed dek trust objects target m).run hplain).onlyIn

section Witness

open RestoreSample

/-- The plain archive is unpacked, and the rest of the disk is as it was. -/
theorem plain_restore_confined : (restored plain (.file [1]) "t").1 = .ok ⟨1, 512⟩
    ∧ ∃ suffix, OnlyIn (restoreRegion (some ([], utf8 "t")) suffix)
      (isTargetParent (some ([], utf8 "t"))) (machine (.file [1])).disk
      (restored plain (.file [1]) "t").2.disk := by
  refine ⟨by decide +kernel, ?_⟩
  have hplain := plain_keeps "t" (by decide +kernel)
  unfold restored restoring at *
  exact restore_confined host confined_host 0 plain dek trust [utf8 "o"]
    (some ([], utf8 "t")) (machine (.file [1])) hplain

/-- **An absolute name reaches another file.** `unpack_in` makes `d` in the
staging directory, but it is `/d` that gets the owner, the mode and the
time. -/
theorem absolute_name_reaches_outside :
    (machine (.file [1])).disk.node [utf8 "d"] = some ⟨.file [1], 0o755, 0, 0, 0⟩
    ∧ (restored broken (.file [1]) "t").2.disk.node [utf8 "d"]
      = some ⟨.file [1], 0o666, 1000, 1000, 7⟩
    ∧ ¬ ∃ suffix, OnlyIn (restoreRegion (some ([], utf8 "t")) suffix)
      (isTargetParent (some ([], utf8 "t"))) (machine (.file [1])).disk
      (restored broken (.file [1]) "t").2.disk := by
  have hbefore : (machine (.file [1])).disk.node [utf8 "d"] = some ⟨.file [1], 0o755, 0, 0, 0⟩ := by
    decide +kernel
  have hafter : (restored broken (.file [1]) "t").2.disk.node [utf8 "d"]
      = some ⟨.file [1], 0o666, 1000, 1000, 7⟩ := by decide +kernel
  refine ⟨hbefore, hafter, ?_⟩
  rintro ⟨suffix, honly⟩
  have hsame := honly.outside [utf8 "d"] ?_
  · rw [hbefore, hafter] at hsame
    exact absurd hsame (by decide)
  · rintro (⟨parent, name, heq, hpre⟩ | ⟨name, heq⟩)
    · cases heq
      rcases hpre with hpre | hpre
      · have hname := (List.cons_prefix_cons.mp hpre).1
        have hlength := length_stagingDirName (utf8 "t") suffix
        rw [hname] at hlength
        exact absurd hlength (by decide)
      · exact absurd hpre (by decide)
    · exact nomatch (Prod.mk.inj (Option.some.inj heq)).1

end Witness

/-- A chunk was opened and is what the manifest says. -/
structure ChunkVerified (crypto : SnapshotCrypto) (keys : ChunkKeys) (d : Disk)
    (objects : Location) (chunk : ManifestChunk) (plaintext : List UInt8) : Prop where
  object : ∃ n data, d.node (objects ++ [utf8 (objectName chunk.id)]) = some n
    ∧ n.kind = .file data ∧ data.length = chunk.objectBytes
    ∧ keys.opened crypto chunk.id data = .ok plaintext
  id : keys.chunkId crypto plaintext = chunk.id
  plaintextBytes : plaintext.length = chunk.plaintextBytes

/-- An object that was checked and opens is verified. -/
theorem ObjectChecked.verified {crypto : SnapshotCrypto} {keys : ChunkKeys} {d : Disk}
    {objects : Location} {chunk : ManifestChunk}
    (hlength : ∀ key nonce aad body plaintext, crypto.aeadOpen key nonce aad body = some plaintext →
      plaintext.length + chunkTagLen = body.length)
    (hchecked : ObjectChecked d objects chunk) (hopens : OpensIn crypto d keys objects chunk) :
    ∃ plaintext, ChunkVerified crypto keys d objects chunk plaintext := by
  obtain ⟨n, data, hn, hdata, hsize⟩ := hchecked.stands
  obtain ⟨plaintext, hopened⟩ := hopens n data hn hdata hsize
  obtain ⟨-, -, haead, hid⟩ := ChunkKeys.opened_eq_ok.mp hopened
  refine ⟨plaintext, ⟨n, data, hn, hdata, hsize, hopened⟩, hid, ?_⟩
  have hbody := hlength _ _ _ _ _ haead
  have hsized := hchecked.sized
  rw [List.length_drop, hsize, hsized] at hbody
  have htotal : chunkOverhead = 1 + chunkNonceLen + chunkTagLen := rfl
  omega

/-- **All or nothing.** A restore that succeeds has verified the signature,
the link to the trusted predecessor and every chunk. One that fails, but for
a failure to clean up, leaves every node of the disk in its place with its
data, so nothing is left of the staging directory; and if its entries were
plain it leaves the whole disk as it was, the target included, but for the
time of the directory that the target is in. -/
theorem restore_all_or_nothing (host : Host) (htar : UnpackConfined host.tar)
    (hlength : ∀ key nonce aad body plaintext,
      host.crypto.aeadOpen key nonce aad body = some plaintext →
      plaintext.length + chunkTagLen = body.length)
    (euid : ℕ) (signed : SignedManifest) (dek : Digest) (trust : RestoreTrust)
    (objects : Location) (target : Option (Location × FileName)) (m : Machine)
    (htree : m.disk.IsTree) (r : Except SnapshotError RestoreReport) (m' : Machine)
    (hrun : run (Machine.step host)
      (restore host.crypto host.tar euid signed dek trust objects target) m = (r, m')) :
    (∀ report, r = .ok report → Accepted host.crypto m.disk signed trust objects
      ∧ ∀ chunk ∈ signed.manifest.chunks, ∃ plaintext, ChunkVerified host.crypto
        ⟨dek, signed.manifest.lineage⟩ m.disk objects chunk plaintext)
    ∧ ∀ e, r = .error e → (∀ e' c, e ≠ .cleanup e' c) → m.disk.SameKinds m'.disk
      ∧ (Keeps (Machine.step host) (PlainStep host)
          (restore host.crypto host.tar euid signed dek trust objects target) m →
        OnlyIn (fun _ => False) (isTargetParent target) m.disk m'.disk) := by
  have hany := (runs_restore_any htar euid signed dek trust objects target m htree).run
    (keeps_of_forall (fun _ _ => trivial) _ _)
  rw [hrun] at hany
  constructor
  · rintro report rfl
    obtain ⟨haccepted, hopens⟩ := hany.verified
    refine ⟨haccepted, fun chunk hchunk => ?_⟩
    exact (haccepted.objects chunk hchunk).verified hlength (hopens chunk hchunk)
  · rintro e rfl he
    refine ⟨hany.undone_kinds htree he, fun hplain => ?_⟩
    have hout := (runs_restore_plain htar euid signed dek trust objects target m).run hplain
    rw [hrun] at hout
    exact hout.undone htree he

section Witness

open RestoreSample

theorem isTree_machine : (machine (.file [1])).disk.IsTree :=
  Disk.isTree_of_support (by decide +kernel)

/-- A restore that succeeds has verified its chunk; one to a name that is
taken changes nothing. -/
theorem plain_restore_all_or_nothing :
    (∀ chunk ∈ plain.manifest.chunks, ∃ plaintext, ChunkVerified crypto ⟨dek, "l"⟩
      (machine (.file [1])).disk [utf8 "o"] chunk plaintext)
    ∧ OnlyIn (fun _ => False) (isTargetParent (some ([], utf8 "d"))) (machine (.file [1])).disk
      (restored plain (.file [1]) "d").2.disk := by
  have hok : (restored plain (.file [1]) "t").1 = .ok ⟨1, 512⟩ := by decide +kernel
  have herror : (restored plain (.file [1]) "d").1 = .error .targetNotEmpty := by decide +kernel
  have hplain := plain_keeps "d" (by decide +kernel)
  unfold restored restoring at *
  constructor
  · exact ((restore_all_or_nothing host confined_host length_aeadOpen 0 plain dek trust [utf8 "o"]
      (some ([], utf8 "t")) (machine (.file [1])) isTree_machine _ _ Prod.mk.eta.symm).1 ⟨1, 512⟩ hok).2
  · exact ((restore_all_or_nothing host confined_host length_aeadOpen 0 plain dek trust [utf8 "o"]
      (some ([], utf8 "d")) (machine (.file [1])) isTree_machine _ _ Prod.mk.eta.symm).2 .targetNotEmpty
      herror nofun).2 hplain

/-- **A failed restore may leave its mark on the target**: an entry with the
absolute name of the target has changed it before the archive breaks off. -/
theorem failed_restore_changes_target :
    (restored broken .directory "d").1 = .error (.archive (.other "failed to read entire block"))
    ∧ (machine .directory).disk.node [utf8 "d"] = some ⟨.directory, 0o755, 0, 0, 0⟩
    ∧ (restored broken .directory "d").2.disk.node [utf8 "d"]
      = some ⟨.directory, 0o666, 1000, 1000, 7⟩ := by
  decide +kernel

end Witness
