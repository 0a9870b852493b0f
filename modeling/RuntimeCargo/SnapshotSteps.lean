import RuntimeCargo.Snapshot

/-!
# What the steps of a restore do to the disk

A restore makes many calls, but only four sorts of them change the disk:
the staging directory is made, entries are unpacked into it, the mode, the
owner and the time of what was unpacked are set, and at the end the staging
directory is moved or removed. In between, between the first and the last
of these, the rules of this module carry any property of the disk through
(`KeptByUnpacking`): it has to survive an `unpack_in`, a change of metadata
at the path of the entry that was just unpacked, and one inside of the
staging directory.

Along with it goes what is known of the chunks. Whatever the tar reader
does with the stream, the chunks are loaded in order and each was opened
before any byte of it was seen; so when the stream has been read to its end
every chunk was.
-/

open Program

/-! ## Single calls -/

section Calls

variable {host : Host} {ok : Machine → SnapshotCall → Prop} {J : Disk → Prop} {m : Machine}
  {α β : Type}

/-- What a program does: a property of the disk holds throughout, and the
postcondition at the end. -/
abbrev Runs (host : Host) (ok : Machine → SnapshotCall → Prop) (J : Disk → Prop)
    (Q : α → Machine → Prop) (p : SnapshotProgram α) (m : Machine) : Prop :=
  Program.Holds (Machine.step host) (fun _ _ _ => False) ok (fun m => J m.disk) Q p m

/-- A call goes through, or it fails. -/
theorem Machine.call_cases (host : Host) (op : DiskOp) (m : Machine) :
    m.call host op = op.exec host.system (host.clock m.calls) m.disk
      ∨ ∃ fault, m.call host op
        = (.error fault.errno, op.torn host.system (host.clock m.calls) fault m.disk) := by
  rw [call]
  cases host.fault m.calls with
  | none => exact .inl rfl
  | some fault => exact .inr ⟨fault, rfl⟩

theorem runs_perform {c : SnapshotCall} {Q : SnapshotReply → Machine → Prop} (hJ : J m.disk)
    (h : ok m c → J (Machine.step host c m).2.disk
      ∧ Q (Machine.step host c m).1 (Machine.step host c m).2) :
    Runs host ok J Q (perform c) m :=
  Holds.perform hJ fun hok => ⟨fun _ => False.elim, h hok⟩

theorem runs_bind {Q : β → Machine → Prop} {p : SnapshotProgram α} {f : α → SnapshotProgram β}
    (h : Runs host ok J (fun a m => Runs host ok J Q (f a) m) p m) :
    Runs host ok J Q (p >>= f) m :=
  Holds.bind h

/-- One step after another, where the first may fail. -/
theorem runs_bindExcept {ε : Type} {Q : Except ε β → Machine → Prop}
    {x : ExceptT ε SnapshotProgram α} {f : α → ExceptT ε SnapshotProgram β}
    (h : Runs host ok J (fun r m => match r with
      | .ok a => Runs host ok J Q (f a) m
      | .error e => Q (.error e) m) x m) :
    Runs host ok J Q (x >>= f : ExceptT ε SnapshotProgram β) m := by
  refine Holds.bind (Holds.mono h fun r m hJ hr => ?_)
  cases r with
  | ok a => exact hr
  | error e => exact ⟨hJ, hr⟩

/-- A call that gives no value. -/
theorem runs_callUnit {op : DiskOp} {Q : Except Errno Unit → Machine → Prop} (hJ : J m.disk)
    (hkeep : J (m.call host op).2)
    (hok : ∀ reply, (m.call host op).1 = .ok reply → Q (.ok ()) (m.next (m.call host op).2))
    (herror : ∀ e, (m.call host op).1 = .error e → Q (.error e) (m.next (m.call host op).2)) :
    Runs host ok J Q (callUnit op) m := by
  refine runs_bind (runs_perform hJ fun _ => ⟨hkeep, ?_⟩)
  dsimp only [Machine.step]
  cases hreply : (m.call host op).1 with
  | ok reply => exact ⟨hkeep, hok reply hreply⟩
  | error e => exact ⟨hkeep, herror e hreply⟩

/-- The calls that change nothing. -/
def DiskOp.reads : DiskOp → Bool
  | lstat _ | readDir _ | readFile _ | readLink _ | sync _ => true
  | _ => false

theorem Machine.call_disk_of_reads {op : DiskOp} (h : op.reads = true) :
    (m.call host op).2 = m.disk := by
  rcases m.call_cases host op with hcall | ⟨fault, hcall⟩
  · rw [hcall]
    cases op <;> first | rfl | exact nomatch h
  · rw [hcall]
    cases op <;> first | rfl | exact nomatch h

/-- A call that changes nothing. -/
theorem runs_reads {op : DiskOp} (hop : op.reads = true) {Q : SnapshotReply → Machine → Prop}
    (hJ : J m.disk) (h : Q (.disk (m.call host op).1) (m.next m.disk)) :
    Runs host ok J Q (perform (.disk op)) m := by
  have hdisk : (m.call host op).2 = m.disk := m.call_disk_of_reads hop
  refine runs_perform hJ fun _ => ?_
  show J (m.call host op).2 ∧ Q (.disk (m.call host op).1) (m.next (m.call host op).2)
  rw [hdisk]
  exact ⟨hJ, h⟩

/-- `symlink_metadata` finds what a path leads to, or fails. -/
theorem runs_symlinkMetadata {path : DiskPath} {Q : Except Errno Inode → Machine → Prop}
    (hJ : J m.disk)
    (hok : ∀ loc n, m.disk.find host.system false path = .ok (loc, n) → Q (.ok n) (m.next m.disk))
    (herror : ∀ e, Q (.error e) (m.next m.disk)) :
    Runs host ok J Q (symlinkMetadata path) m := by
  refine runs_bind (runs_reads rfl hJ ?_)
  rcases m.call_cases host (.lstat path) with hcall | ⟨fault, hcall⟩
  · rw [hcall, DiskOp.exec]
    cases hfind : m.disk.find host.system false path with
    | ok x => exact ⟨hJ, hok x.1 x.2 hfind⟩
    | error e => exact ⟨hJ, herror e⟩
  · rw [hcall]
    exact ⟨hJ, herror fault.errno⟩

/-- A file is read whole, or the call fails. -/
theorem runs_readFile {path : DiskPath} {Q : Except Errno (List UInt8) → Machine → Prop}
    (hJ : J m.disk)
    (hok : ∀ loc n data, m.disk.find host.system true path = .ok (loc, n) → n.kind = .file data →
      Q (.ok data) (m.next m.disk))
    (herror : ∀ e, Q (.error e) (m.next m.disk)) :
    Runs host ok J Q (callBytes (.readFile path)) m := by
  refine runs_bind (runs_reads rfl hJ ?_)
  rcases m.call_cases host (.readFile path) with hcall | ⟨fault, hcall⟩
  · rw [hcall]
    cases hreply : (DiskOp.exec host.system (host.clock m.calls) (.readFile path) m.disk).1 with
    | error e => exact ⟨hJ, herror e⟩
    | ok reply =>
      rw [DiskOp.exec, Except.bind_eq_ok] at hreply
      obtain ⟨⟨loc, n⟩, hfind, hkind⟩ := hreply
      cases hdata : n.kind with
      | file data =>
        simp only [hdata, require_bind_eq_ok] at hkind
        obtain rfl := Except.ok.inj hkind.2
        exact ⟨hJ, hok loc n data hfind hdata⟩
      | directory | symlink | special =>
        simp only [hdata] at hkind
        cases hkind
  · rw [hcall]
    exact ⟨hJ, herror fault.errno⟩

/-- A directory is listed, or the call fails. -/
theorem runs_readDir {path : DiskPath} {Q : Except Errno (List FileName) → Machine → Prop}
    (hJ : J m.disk) (h : ∀ r, Q r (m.next m.disk)) : Runs host ok J Q (readDir path) m := by
  refine runs_bind (runs_reads rfl hJ ?_)
  cases (m.call host (.readDir path)).1 with
  | error e => exact ⟨hJ, h (.error e)⟩
  | ok reply =>
    cases reply with
    | names names => exact ⟨hJ, h (.ok names)⟩
    | done | inode | data => exact ⟨hJ, h (.error .other)⟩

/-- A change of metadata keeps what survives a change at the location its
path leads to. -/
theorem Machine.call_metaPath (host : Host) (op : DiskOp) (m : Machine) {path : DiskPath}
    {follow : Bool} (hop : op.metaPath = some (path, follow)) (hJ : J m.disk)
    (hkeep : ∀ loc f, m.disk.resolve host.system follow path = .ok loc →
      (∀ n, Inode.kind (f n) = n.kind) → J (m.disk.modify loc f)) :
    J (m.call host op).2 ∧ m.disk.SameKinds (m.call host op).2 := by
  rcases m.call_cases host op with hcall | ⟨fault, hcall⟩
  · rw [hcall]
    rcases DiskOp.exec_of_metaPath host.system (host.clock m.calls) m.disk hop with
      hsame | ⟨loc, f, hloc, hf, hmod⟩
    · rw [hsame]
      exact ⟨hJ, .refl⟩
    · rw [hmod]
      exact ⟨hkeep loc f hloc hf, .of_modify hf⟩
  · rw [hcall, DiskOp.torn_of_metaPath hop]
    exact ⟨hJ, .refl⟩

end Calls

variable {ok : Machine → SnapshotCall → Prop}

/-- A program that does not fail, among steps that may. -/
theorem runs_lift {host : Host} {J : Disk → Prop} {m : Machine} {α : Type}
    {Q : Except SnapshotError α → Machine → Prop} {p : SnapshotProgram α}
    (h : Runs host ok J (fun a m => Q (.ok a) m) p m) :
    Runs host ok J Q (ExceptT.lift p : SnapshotIO α) m :=
  runs_bind (Holds.mono h fun _ _ hJ hQ => ⟨hJ, hQ⟩)

/-- A step for every element. -/
theorem runs_forM {host : Host} {J : Disk → Prop} {ε α : Type}
    {f : α → ExceptT ε SnapshotProgram Unit}
    (hf : ∀ x m, J m.disk → Runs host ok J (fun _ _ => True) (f x) m) (xs : List α) (m : Machine)
    (hJ : J m.disk) : Runs host ok J (fun _ _ => True)
      (xs.forM f : ExceptT ε SnapshotProgram Unit) m := by
  induction xs generalizing m with
  | nil => exact ⟨hJ, trivial⟩
  | cons x xs ih =>
    refine runs_bindExcept (Holds.mono (hf x m hJ) fun r m hJ _ => ?_)
    cases r with
    | ok _ => exact ih m hJ
    | error e => trivial

/-! ## Steps that keep a property

A step keeps a property of the disk whatever it returns, and what it
returns, if it succeeds, is of a certain sort. Steps that read the stream
keep a property of the stream as well. -/

section Gives

variable {host : Host} {ok : Machine → SnapshotCall → Prop} {J : Disk → Prop}
  {K : ChunkStream → Prop} {α β : Type} {P : α → Prop} {R : β → Prop}

/-- A step that keeps `J` and gives what is `P`. -/
def Gives (host : Host) (ok : Machine → SnapshotCall → Prop) (J : Disk → Prop) (P : α → Prop)
    (x : SnapshotIO α) : Prop :=
  ∀ m, J m.disk → Runs host ok J (fun r _ => ∀ a, r = .ok a → P a) x m

/-- A step of the unpacking that keeps `J` and `K` and gives what is `P`. -/
def Unpacks (host : Host) (ok : Machine → SnapshotCall → Prop) (J : Disk → Prop)
    (K : ChunkStream → Prop) (P : α → Prop) (x : Unpacking α) : Prop :=
  ∀ s m, J m.disk → K s →
    Runs host ok J (fun r _ => K r.2 ∧ ∀ a, r.1 = .ok a → P a) (x s) m

theorem Gives.pure {a : α} (ha : P a) : Gives host ok J P (Pure.pure a : SnapshotIO α) :=
  fun _ hJ => ⟨hJ, fun _ h => Except.ok.inj h ▸ ha⟩

variable {e : SnapshotError} {x : SnapshotIO α}

theorem Gives.throw : Gives host ok J P (throw e : SnapshotIO α) :=
  fun _ hJ => ⟨hJ, nofun⟩

theorem Gives.bind {f : α → SnapshotIO β} (hx : Gives host ok J P x)
    (hf : ∀ a, P a → Gives host ok J R (f a)) : Gives host ok J R (x >>= f) := by
  intro m hJ
  refine runs_bindExcept (Holds.mono (hx m hJ) fun r m hJ hr => ?_)
  cases r with
  | ok a => exact hf a (hr a rfl) m hJ
  | error e => exact nofun

/-- A step for every element, and what each gives. -/
theorem Gives.forM {P : α → Prop} {f : α → SnapshotIO Unit}
    (hf : ∀ x, Gives host ok J (fun _ => P x) (f x)) (xs : List α) :
    Gives host ok J (fun _ => ∀ x ∈ xs, P x) (xs.forM f) := by
  induction xs with
  | nil => exact Gives.pure nofun
  | cons x xs ih =>
    intro m hJ
    refine runs_bindExcept (Holds.mono (hf x m hJ) fun r m hJ hr => ?_)
    cases r with
    | error e => exact nofun
    | ok _ =>
      refine Holds.mono (ih m hJ) fun r m hJ hrest u hu => ?_
      exact List.forall_mem_cons.mpr ⟨hr () rfl, hrest u hu⟩

/-- A step that keeps `J`, before others that need not. -/
theorem Gives.andThen {f : α → SnapshotIO β} {m : Machine}
    {Q : Except SnapshotError β → Machine → Prop} (hx : Gives host ok J P x) (hJ : J m.disk)
    (hf : ∀ a m, J m.disk → P a → Runs host ok (fun _ => True) Q (f a) m)
    (herror : ∀ e m, J m.disk → Q (.error e) m) :
    Runs host ok (fun _ => True) Q (x >>= f : SnapshotIO β) m := by
  have hfirst := Holds.mono (hx m hJ) fun r m hJ hr => And.intro hJ hr
  refine runs_bindExcept (Holds.mono (Holds.weaken hfirst fun _ _ => trivial) ?_)
  rintro r m - ⟨hJ, hr⟩
  cases r with
  | ok a => exact hf a m hJ (hr a rfl)
  | error e => exact herror e m hJ

theorem Gives.mono {P' : α → Prop} (hx : Gives host ok J P x) (hP : ∀ a, P a → P' a) :
    Gives host ok J P' x :=
  fun m hJ => Holds.mono (hx m hJ) fun _ _ _ hr a ha => hP a (hr a ha)

/-- A computation that makes no calls gives what it computes. -/
theorem Gives.ofResult {ε : Type} {error : ε → SnapshotError} {x : Except ε α} :
    Gives host ok J (fun a => x = .ok a) (ofExcept error x) := by
  intro m hJ
  refine ⟨hJ, fun a ha => ?_⟩
  cases x with
  | ok b => rw [Except.ok.inj ha]
  | error e => exact nomatch ha

theorem Gives.ofCheck {p : Prop} [Decidable p] :
    Gives host ok J (fun _ => p) (check p e) :=
  Gives.ofResult.mono fun _ h => require_eq_ok.mp h

/-- The failure behind an error of the stream. -/
theorem Gives.ofRaise {error : Option SnapshotError} :
    Gives host ok J (fun _ => error = none) (raise error) := by
  cases error with
  | none => exact Gives.pure rfl
  | some e => exact Gives.throw

/-- A call whose result is mapped. -/
theorem Gives.ofCall {what : String} {x : SnapshotProgram (Except Errno α)}
    (hx : ∀ m, J m.disk → Runs host ok J (fun r _ => ∀ a, r = .ok a → P a) x m) :
    Gives host ok J P (orIo what x) := by
  intro m hJ
  refine runs_bind (Holds.mono (hx m hJ) fun r m hJ hr => ⟨hJ, fun a ha => ?_⟩)
  cases r with
  | ok b => exact hr a (congrArg _ (Except.ok.inj ha))
  | error e => exact nomatch ha

/-- A change of metadata keeps what survives one at the location its path
leads to. -/
theorem Gives.setMetadata {what : String} {op : DiskOp} {path : DiskPath} {follow : Bool}
    (hop : op.metaPath = some (path, follow))
    (hkeep : ∀ d loc f, J d → d.resolve host.system follow path = .ok loc →
      (∀ n, Inode.kind (f n) = n.kind) → J (d.modify loc f)) :
    Gives host ok J (fun _ => True) (orIo what (callUnit op)) := by
  refine Gives.ofCall fun m hJ => ?_
  have hcall := m.call_metaPath host op hop hJ fun loc f => hkeep m.disk loc f hJ
  exact runs_callUnit hJ hcall.1 (fun _ _ _ _ => trivial) fun _ _ => nofun

theorem Unpacks.pure {a : α} (ha : P a) : Unpacks host ok J K P (Pure.pure a : Unpacking α) :=
  fun _ _ hJ hK => ⟨hJ, hK, fun _ h => Except.ok.inj h ▸ ha⟩

theorem Unpacks.throw : Unpacks host ok J K P (throw e : Unpacking α) :=
  fun _ _ hJ hK => ⟨hJ, hK, nofun⟩

theorem Unpacks.bind {x : Unpacking α} {f : α → Unpacking β} (hx : Unpacks host ok J K P x)
    (hf : ∀ a, P a → Unpacks host ok J K R (f a)) : Unpacks host ok J K R (x >>= f) := by
  intro s m hJ hK
  refine runs_bind (Holds.mono (hx s m hJ hK) fun r m hJ hr => ?_)
  obtain ⟨r, s⟩ := r
  cases r with
  | ok a => exact hf a (hr.2 a rfl) s m hJ hr.1
  | error e => exact ⟨hJ, hr.1, nofun⟩

theorem Unpacks.lift (hx : Gives host ok J P x) :
    Unpacks host ok J K P (Unpacking.lift x) :=
  fun _ m hJ hK => runs_bind (Holds.mono (hx m hJ) fun _ _ hJ hr => ⟨hJ, hK, hr⟩)

/-- What the tar reader does keeps what a read of the stream keeps. -/
theorem Unpacks.ofReader {p : Program ℕ ReadReply α}
    (hread : ∀ n s m, J m.disk → K s →
      Runs host ok J (fun r _ => K r.2) (s.read host.crypto n) m) :
    Unpacks host ok J K (fun _ => True) (readTar host.crypto p) := by
  intro s m hJ hK
  refine runs_bind (Holds.mono (Holds.simulate (K := fun s _ => K s) hread hJ hK) ?_)
  exact fun r m hJ hK => ⟨hJ, hK, fun _ _ => trivial⟩

end Gives

/-! ## What the unpacking keeps -/

/-- **What unpacking keeps.** The property has to survive an `unpack_in`, a
change of metadata at the path of the entry that was just unpacked – as
long as that is found where `unpack_in` left it – and one inside of the
staging directory. What is read from an object while the property holds
and opens makes its chunk a `V`. -/
structure KeptByUnpacking (host : Host) (ok : Machine → SnapshotCall → Prop) (staging : Location)
    (keys : ChunkKeys) (objects : Location) (J : Disk → Prop) (V : ManifestChunk → Prop) :
    Prop where
  unpacked : ∀ {m : Machine} {e : TarEntry} {data : TarData}, ok m (.unpackIn e data staging) →
    J m.disk → J (host.tar.unpackIn staging e data m.disk).2
  placed : ∀ {m : Machine} {e : TarEntry} {data : TarData} {d : Disk} {follow : Bool}
    {loc : Location} {f : Inode → Inode}, ok m (.unpackIn e data staging) → J m.disk →
    (host.tar.unpackIn staging e data m.disk).1 = .ok true →
    (host.tar.unpackIn staging e data m.disk).2.SameKinds d → J d →
    (follow = true → e.entryType ≠ .symlink) →
    d.resolve host.system follow (joinPath staging e.path) = .ok loc →
    (∀ n, Inode.kind (f n) = n.kind) → J (d.modify loc f)
  inside : ∀ {d : Disk} {loc : Location} {f : Inode → Inode}, staging <+: loc →
    (∀ n, Inode.kind (f n) = n.kind) → J d → J (d.modify loc f)
  verified : ∀ {d : Disk} {chunk : ManifestChunk} {loc : Location} {n : Inode}
    {data plaintext : List UInt8}, J d →
    d.find host.system true (inDir objects (utf8 (objectName chunk.id))) = .ok (loc, n) →
    n.kind = .file data → (data.take (chunk.objectBytes + 1)).length = chunk.objectBytes →
    keys.opened host.crypto chunk.id (data.take (chunk.objectBytes + 1)) = .ok plaintext → V chunk

/-- The chunks before those that remain were opened. -/
structure StreamOf (keys : ChunkKeys) (objects : Location) (chunks : List ManifestChunk)
    (V : ManifestChunk → Prop) (s : ChunkStream) : Prop where
  keys : s.keys = keys
  objects : s.objects = objects
  opened : ∃ done, chunks = done ++ s.rest ∧ ∀ chunk ∈ done, V chunk

section Kept

variable {host : Host} {ok : Machine → SnapshotCall → Prop} {staging objects : Location}
  {keys : ChunkKeys} {J : Disk → Prop} {V : ManifestChunk → Prop} {chunks : List ManifestChunk}

namespace KeptByUnpacking

variable (h : KeptByUnpacking host ok staging keys objects J V)

include h

/-- **A chunk that is loaded was opened.** -/
theorem load (chunk : ManifestChunk) :
    Gives host ok J (fun _ => V chunk) (ChunkStream.load host.crypto keys objects chunk) := by
  let path := inDir objects (utf8 (objectName chunk.id))
  refine Gives.bind (P := fun object => ∃ d loc n data, J d
    ∧ d.find host.system true path = .ok (loc, n) ∧ n.kind = .file data
    ∧ object = data.take (chunk.objectBytes + 1)) ?_ ?_
  · intro m hJ
    refine runs_bind (runs_readFile hJ ?_ ?_)
    · intro loc n data hfind hkind
      refine ⟨hJ, fun object hobject => ⟨m.disk, loc, n, data, hJ, hfind, hkind, ?_⟩⟩
      exact (Except.ok.inj hobject).symm
    · intro e
      cases e <;> exact ⟨hJ, nofun⟩
  · rintro object ⟨d, loc, n, data, hJ, hfind, hkind, rfl⟩
    refine Gives.ofCheck.bind fun _ hlength => Gives.ofResult.mono fun plaintext hopened => ?_
    exact h.verified hJ hfind hkind hlength hopened

/-- Loading until there is something to read. -/
theorem refill {s : ChunkStream} (hkeys : s.keys = keys) (hobjects : s.objects = objects)
    (pending : List UInt8) (rest done : List ManifestChunk) (hchunks : chunks = done ++ rest)
    (hdone : ∀ chunk ∈ done, V chunk) (m : Machine) (hJ : J m.disk) :
    Runs host ok J (fun r _ => ∃ done, chunks = done ++ r.2 ∧ ∀ chunk ∈ done, V chunk)
      (s.refill host.crypto pending rest) m := by
  induction rest generalizing pending done m with
  | nil =>
    cases pending with
    | nil | cons b pending => exact ⟨hJ, done, hchunks, hdone⟩
  | cons chunk rest ih =>
    cases pending with
    | cons b pending => exact ⟨hJ, done, hchunks, hdone⟩
    | nil =>
      have hload := h.load chunk m hJ
      rw [← hkeys, ← hobjects] at hload
      refine runs_bind (Holds.mono hload fun r m hJ hr => ?_)
      cases r with
      | error e => exact ⟨hJ, done, hchunks, hdone⟩
      | ok plaintext =>
        refine ih plaintext (done ++ [chunk]) ?_ ?_ m hJ
        · rw [hchunks, List.append_assoc]
          rfl
        · intro c hc
          rcases List.mem_append.mp hc with hc | hc
          · exact hdone c hc
          · exact List.mem_singleton.mp hc ▸ hr plaintext rfl

theorem read (n : ℕ) (s : ChunkStream) (m : Machine) (hJ : J m.disk)
    (hs : StreamOf keys objects chunks V s) :
    Runs host ok J (fun r _ => StreamOf keys objects chunks V r.2) (s.read host.crypto n) m := by
  rw [ChunkStream.read]
  split
  · exact ⟨hJ, hs⟩
  · obtain ⟨done, hchunks, hdone⟩ := hs.opened
    refine runs_bind (Holds.mono
      (h.refill hs.keys hs.objects s.pending s.rest done hchunks hdone m hJ) ?_)
    rintro ⟨r, rest⟩ m hJ hr
    cases r with
    | ok pending | error e => exact ⟨hJ, hs.keys, hs.objects, hr⟩

/-- **Reading to the end opens every chunk.** -/
theorem drain {s : ChunkStream} (hkeys : s.keys = keys) (hobjects : s.objects = objects)
    (rest : List ManifestChunk) (m : Machine) (hJ : J m.disk) :
    Runs host ok J (fun r _ => r.2.error = none → ∀ chunk ∈ rest, V chunk)
      (s.drain host.crypto rest) m := by
  induction rest generalizing m with
  | nil => exact ⟨hJ, fun _ => nofun⟩
  | cons chunk rest ih =>
    have hload := h.load chunk m hJ
    rw [← hkeys, ← hobjects] at hload
    refine runs_bind (Holds.mono hload fun r m hJ hr => ?_)
    cases r with
    | error e => exact ⟨hJ, nofun⟩
    | ok plaintext =>
      refine Holds.mono (ih m hJ) fun r _ _ hrest hnone => ?_
      exact List.forall_mem_cons.mpr ⟨hr plaintext rfl, hrest hnone⟩

end KeptByUnpacking

/-- The owner that is set follows a link unless the entry is one. -/
def Placement.Honest (placement : Placement) : Prop :=
  ∀ owner ∈ placement.ownership, owner.symlink = (placement.entry.entryType == .symlink)

/-- Setting the owner keeps what survives a change where the path leads;
a last link is followed unless the owner says that it is one. -/
theorem Gives.ofChown {path : DiskPath} {owner : Ownership}
    (hkeep : ∀ d follow loc f, J d → (follow = true → owner.symlink = false) →
      d.resolve host.system follow path = .ok loc → (∀ n, Inode.kind (f n) = n.kind) →
      J (d.modify loc f)) : Gives host ok J (fun _ => True) (chown path owner) := by
  refine Gives.ofCheck.bind fun _ _ => Gives.ofCheck.bind fun _ _ => ?_
  cases hsymlink : owner.symlink with
  | true => exact Gives.setMetadata rfl fun d loc f hJ => hkeep d false loc f hJ nofun
  | false =>
    refine Gives.bind (P := fun _ => True) ?_ fun _ _ => ?_
    · exact Gives.setMetadata rfl fun d loc f hJ => hkeep d true loc f hJ fun _ => hsymlink
    · exact Gives.setMetadata rfl fun d loc f hJ => hkeep d true loc f hJ fun _ => hsymlink

theorem Gives.ofSetMtime {path : DiskPath} {seconds : ℕ}
    (hkeep : ∀ d loc f, J d → d.resolve host.system false path = .ok loc →
      (∀ n, Inode.kind (f n) = n.kind) → J (d.modify loc f)) :
    Gives host ok J (fun _ => True) (setMtime path seconds) :=
  Gives.ofCheck.bind fun _ _ => Gives.ofCheck.bind fun _ _ => Gives.setMetadata rfl hkeep

/-- The header says what the entry is. -/
theorem Gives.ofReadHeader {preserveOwner : Bool} {entry : TarEntry} :
    Gives host ok J (fun
      | .root _ _ => True
      | .later placement | .now placement => placement.Honest) (readHeader preserveOwner entry) := by
  refine Gives.ofResult.bind fun mode _ => Gives.ofResult.bind fun mtime _ => ?_
  split
  · exact Gives.pure trivial
  · refine Gives.bind (P := fun o => ∀ owner ∈ o,
      Ownership.symlink owner = (entry.entryType == .symlink)) ?_ fun ownership hsymlink => ?_
    · cases preserveOwner with
      | true =>
        refine Gives.ofResult.bind fun uid _ => Gives.ofResult.bind fun gid _ => Gives.pure ?_
        intro owner howner
        rw [← Option.some.inj howner]
      | false => exact Gives.pure nofun
    · split
      · exact Gives.pure hsymlink
      · exact Gives.pure hsymlink

namespace KeptByUnpacking

variable (h : KeptByUnpacking host ok staging keys objects J V)

include h

/-- **An entry is placed.** The property holds when `unpack_in` is done, and
the path of the entry then leads where it did at that moment. -/
theorem placeData {placement : Placement} (hplacement : placement.Honest) (data : TarData) :
    Gives host ok J (fun _ => True) (placeData staging placement data) := by
  intro m hJ
  let e := placement.entry
  let unpacked := host.tar.unpackIn staging e data m.disk
  refine runs_bindExcept (runs_bind (runs_perform hJ fun hok => ⟨h.unpacked hok hJ, ?_⟩))
  show Runs host ok J _ (pure (unpacked.1.mapError SnapshotError.archive)) (m.next unpacked.2)
  have hJ' : J unpacked.2 := h.unpacked hok hJ
  cases hresult : unpacked.1 with
  | error e => exact ⟨hJ', nofun⟩
  | ok inside =>
    refine ⟨hJ', ?_⟩
    cases inside with
    | false => exact ⟨hJ', nofun⟩
    | true =>
      -- from here on the kinds of the nodes stay as they are
      have hkeep : ∀ d follow loc f, (J d ∧ unpacked.2.SameKinds d) →
          (follow = true → e.entryType ≠ .symlink) →
          d.resolve host.system follow (joinPath staging e.path) = .ok loc →
          (∀ n, Inode.kind (f n) = n.kind) →
          J (d.modify loc f) ∧ unpacked.2.SameKinds (d.modify loc f) := by
        rintro d follow loc f ⟨hd, hkinds⟩ hfollow hloc hf
        exact ⟨h.placed hok hJ hresult hkinds hd hfollow hloc hf, hkinds.trans (.of_modify hf)⟩
      have hrest : Gives host ok (fun d => J d ∧ unpacked.2.SameKinds d) (fun _ => True) (do
          setOwner (joinPath staging e.path) placement.ownership
          setMtime (joinPath staging e.path) placement.mtime) := by
        refine Gives.bind (P := fun _ => True) ?_ fun _ _ => ?_
        · cases howner : placement.ownership with
          | none => exact Gives.pure trivial
          | some owner =>
            refine Gives.ofChown fun d follow loc f hd hfollow => hkeep d follow loc f hd ?_
            intro ht
            have hhonest := hplacement owner howner
            rw [hfollow ht] at hhonest
            exact beq_eq_false_iff_ne.mp hhonest.symm
        · exact Gives.ofSetMtime fun d loc f hd => hkeep d false loc f hd nofun
      exact Holds.weaken (hrest _ ⟨hJ', .refl⟩) fun _ hd => hd.1

theorem ofReader {α : Type} (p : Program ℕ ReadReply α) :
    Unpacks host ok J (StreamOf keys objects chunks V) (fun _ => True) (readTar host.crypto p) :=
  Unpacks.ofReader fun n s m hJ hs => h.read n s m hJ hs

theorem place {placement : Placement} (hplacement : placement.Honest) (state : host.tar.State) :
    Unpacks host ok J (StreamOf keys objects chunks V) (fun _ => True)
      (place host.crypto host.tar staging state placement) := by
  refine (h.ofReader _).bind fun x _ => ?_
  refine (Unpacks.lift (h.placeData hplacement x.1)).bind fun _ _ => ?_
  exact Unpacks.pure trivial

/-- Induction on the number of entries that are still taken. -/
theorem unpackEntries (preserveOwner : Bool) (fuel : ℕ) (state : host.tar.State)
    (root : Option (BitVec 12 × ℕ)) (directories : List Placement)
    (hdirectories : ∀ placement ∈ directories, placement.Honest) :
    Unpacks host ok J (StreamOf keys objects chunks V)
      (fun x => ∀ placement ∈ x.2.2, Placement.Honest placement)
      (unpackEntries host.crypto host.tar staging preserveOwner fuel state root directories) := by
  induction fuel generalizing state root directories with
  | zero => exact Unpacks.throw
  | succ fuel ih =>
    refine (h.ofReader _).bind fun next _ => ?_
    refine (Unpacks.lift Gives.ofResult).bind fun entry _ => ?_
    cases entry with
    | none => exact Unpacks.pure hdirectories
    | some x =>
      refine (Unpacks.lift Gives.ofReadHeader).bind fun disposition hdisposition => ?_
      cases disposition with
      | root mode mtime => exact ih _ _ _ hdirectories
      | later placement =>
        refine ih _ _ _ fun p hp => ?_
        rcases List.mem_append.mp hp with hp | hp
        · exact hdirectories p hp
        · exact List.mem_singleton.mp hp ▸ hdisposition
      | now placement =>
        exact (h.place hdisposition _).bind fun state _ => ih _ _ _ hdirectories

theorem placeDirectories (directories : List Placement) (state : host.tar.State)
    (hdirectories : ∀ placement ∈ directories, placement.Honest) :
    Unpacks host ok J (StreamOf keys objects chunks V) (fun _ => True)
      (placeDirectories host.crypto host.tar staging state directories) := by
  induction directories generalizing state with
  | nil => exact Unpacks.pure trivial
  | cons placement rest ih =>
    obtain ⟨hplacement, hrest⟩ := List.forall_mem_cons.mp hdirectories
    exact (h.place hplacement _).bind fun state _ => ih state hrest

theorem unpackAll (preserveOwner : Bool) (fuel : ℕ) :
    Unpacks host ok J (StreamOf keys objects chunks V) (fun _ => True)
      (unpack host.crypto host.tar staging preserveOwner fuel) := by
  refine (h.unpackEntries preserveOwner fuel _ none [] nofun).bind fun x hx => ?_
  refine (h.placeDirectories _ _ fun placement hplacement => ?_).bind fun _ _ => Unpacks.pure trivial
  exact hx placement ((List.perm_insertionSort _ _).mem_iff.mp hplacement)

theorem gives_setRoot (root : Option (BitVec 12 × ℕ)) :
    Gives host ok J (fun _ => True) (setRoot staging root) := by
  have hat : ∀ {d : Disk} {follow : Bool} {loc : Location},
      d.resolve host.system follow (atLoc staging) = .ok loc → staging <+: loc := by
    intro d follow loc hloc
    have hwalks : Walks d follow staging [] loc := d.walks_of_resolve hloc
    obtain rfl := hwalks.eq_of_here nofun
    exact List.prefix_rfl
  cases root with
  | none => exact Gives.pure trivial
  | some x =>
    refine Gives.bind (P := fun _ => True) ?_ fun _ _ => ?_
    · exact Gives.setMetadata rfl fun d loc f hd hloc hf => h.inside (hat hloc) hf hd
    · exact Gives.ofSetMtime fun d loc f hd hloc hf => h.inside (hat hloc) hf hd

/-- **An extraction that succeeds has opened every chunk**: those that the
archive was read from, and those after its end. -/
theorem gives_extract (euid : ℕ) (manifest : Manifest) (dek : Digest)
    (hkeys : keys = ⟨dek, manifest.lineage⟩) :
    Gives host ok J (fun _ => ∀ chunk ∈ manifest.chunks, V chunk)
      (extract host.crypto host.tar euid manifest dek objects staging) := by
  intro m hJ
  have hstart : StreamOf keys objects manifest.chunks V
      ⟨⟨dek, manifest.lineage⟩, objects, manifest.chunks, [], none⟩ :=
    ⟨hkeys.symm, rfl, [], rfl, nofun⟩
  refine runs_bindExcept (runs_lift (Holds.mono (h.unpackAll _ _ _ m hJ hstart) ?_))
  rintro ⟨unpacked, stream⟩ m hJ ⟨hstream, -⟩
  obtain ⟨done, hchunks, hdone⟩ := hstream.opened
  refine Gives.bind Gives.ofRaise (fun _ hnone => ?_) m hJ
  refine Gives.ofResult.bind fun root _ => ?_
  intro m hJ
  refine runs_bindExcept (runs_lift (Holds.mono
    (h.drain hstream.keys hstream.objects stream.rest m hJ) ?_))
  rintro ⟨drained, stream'⟩ m hJ hrest
  refine Gives.bind Gives.ofRaise (fun _ hnone' => ?_) m hJ
  refine Gives.ofResult.bind fun _ _ => (h.gives_setRoot root).bind fun _ _ => Gives.pure ?_
  rw [hchunks]
  intro chunk hchunk
  rcases List.mem_append.mp hchunk with hchunk | hchunk
  · exact hdone chunk hchunk
  · exact hrest hnone' chunk hchunk

/-- The directories of the staging directory are made writable. Induction on
the depth. -/
theorem openUp (depth : ℕ) (loc : Location) (hloc : staging <+: loc) (m : Machine)
    (hJ : J m.disk) : Runs host ok J (fun _ _ => True) (openUp depth loc) m := by
  induction depth generalizing loc m with
  | zero => exact ⟨hJ, trivial⟩
  | succ depth ih =>
    refine runs_bindExcept (runs_symlinkMetadata hJ (fun _ n _ => ?_) fun _ => trivial)
    by_cases hdir : n.kind = .directory
    · simp only [if_pos hdir]
      have hchmod := (m.next m.disk).call_metaPath host (.chmod (atLoc loc) 0o700) rfl hJ
        fun x f hx hf => by
          have hwalks : Walks m.disk true loc [] x := m.disk.walks_of_resolve hx
          rw [hwalks.eq_of_here nofun]
          exact h.inside hloc hf hJ
      refine runs_bindExcept (runs_callUnit hJ hchmod.1 (fun _ _ => ?_) fun _ _ => trivial)
      refine runs_bindExcept (runs_readDir hchmod.1 fun names => ?_)
      cases names with
      | error e => trivial
      | ok names =>
        refine runs_forM (fun name m hJ => ?_) names _ hchmod.1
        exact ih _ (hloc.trans (List.prefix_append loc [name])) m hJ
    · simp only [if_neg hdir]
      exact ⟨hJ, trivial⟩

end KeptByUnpacking

end Kept
