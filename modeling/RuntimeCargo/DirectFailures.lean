import RuntimeCargo.DirectDiscovery

/-!
# A failure while a directory is accepted

An answer of the server is accepted in three parts: it is inspected, a new
file is written, and the new file takes the place of the old one. If a call
fails on the way, what was there should stay there, and nothing should be in
the way of the next answer. Here is when that is so
(`failed_acceptance_keeps_iff`).

While the new file is written a failure does no harm: what was written of it
is removed. But the new file takes the place of the old one by an operation
that looks at the folder before and after, and its failure is returned at
once. Before the file was renamed, the new file stays, and the next answer
cannot create its own. After the file was renamed, the workload reads an
answer that was not accepted. An answer that comes too late is not written,
but the new file has to be removed, and if that fails it stays as well.
-/

open Folder Custody

open Program Function

namespace DirectPeer

theorem directory_ne_staged : directory ≠ staged := by decide

/-! ## The parts of an acceptance -/

section Run

variable {files : Files} {bytes : List UInt8} {fault : Option FolderFault}

/-- The new file was written. -/
def withStaged (files : Files) (bytes : List UInt8) : Files :=
  update files staged (some bytes)

theorem withStaged_directory : withStaged files bytes directory = files directory :=
  update_of_ne directory_ne_staged _ _

/-- What is left if the new file is removed. -/
theorem update_staged_none {files' : Files} (hclean : files staged = none)
    (hsame : ∀ name, name ≠ staged → files' name = files name) :
    update files' staged none = files := by
  funext name
  by_cases hname : name = staged
  · rw [hname, update_self, hclean]
  · rw [update_of_ne hname, hsame name hname]

theorem run_stage_none (hclean : files staged = none) :
    (stage bytes).run step ⟨files, none⟩ = (true, ⟨withStaged files bytes, none⟩) := by
  simp [stage, create, run_bind, run_perform, step, effect, hclean,
    withStaged]

/-- A failure that comes later than the writing. -/
theorem run_stage_later (hclean : files staged = none) (n k : ℕ) :
    (stage bytes).run step ⟨files, some ⟨n + 6, k⟩⟩
      = (true, ⟨withStaged files bytes, some ⟨n, k⟩⟩) := by
  simp [stage, create, run_bind, run_perform, step, effect, hclean,
    withStaged]

/-- A failure of one of its six calls. -/
theorem run_stage_fails (bytes : List UInt8) (hclean : files staged = none) {n : ℕ} (hn : n < 6)
    (k : ℕ) :
    ∃ files', (stage bytes).run step ⟨files, some ⟨n, k⟩⟩ = (false, ⟨files', none⟩)
      ∧ ∀ name, name ≠ staged → files' name = files name := by
  have hother : ∀ content name, name ≠ staged →
      update files staged content name = files name :=
    fun content name hname => update_of_ne hname _ _
  match n, hn with
  | 0, _ | 1, _ => exact ⟨files, rfl, fun _ _ => rfl⟩
  | 2, _ =>
    refine ⟨update files staged (some []), ?_, hother _⟩
    simp [stage, create, run_bind, run_perform, step, effect, hclean,
      failing]
    rfl
  | 3, _ =>
    refine ⟨update files staged (some []), ?_, hother _⟩
    simp [stage, create, run_bind, run_perform, step, effect, hclean,
      failing]
    rfl
  | 4, _ =>
    refine ⟨update files staged (some (bytes.take k)), ?_, hother _⟩
    simp [stage, create, run_bind, run_perform, step, effect, hclean,
      failing]
    rfl
  | 5, _ =>
    refine ⟨update files staged (some bytes), ?_, hother _⟩
    simp [stage, create, run_bind, run_perform, step, effect, hclean,
      failing]

theorem run_remove_none (name : String) :
    (remove name).run step ⟨files, none⟩
      = (true, ⟨update files name none, none⟩) := by
  simp [remove, run_bind, run_perform, step, effect]

/-- The folder is looked at in vain, or the file cannot be removed. -/
theorem run_remove_fails (name : String) {n : ℕ} (hn : n < 2) (k : ℕ) :
    (remove name).run step ⟨files, some ⟨n, k⟩⟩ = (false, ⟨files, none⟩) := by
  match n, hn with
  | 0, _ | 1, _ => rfl

/-- The file is removed. -/
theorem files_remove_later (name : String) (n k : ℕ) :
    ((remove name).run step ⟨files, some ⟨n + 2, k⟩⟩).2.files
      = update files name none := by
  cases n with
  | zero | succ n => rfl

/-- The new file has taken the place of the old one. -/
def replaced (files : Files) (bytes : List UInt8) : Files :=
  update files directory (some bytes)

theorem replaced_staged (hclean : files staged = none) : replaced files bytes staged = none :=
  (update_of_ne directory_ne_staged.symm _ _).trans hclean

/-- What the renaming does to the files. -/
theorem effect_rename (hclean : files staged = none) :
    effect (.rename staged directory) (withStaged files bytes)
      = (true, replaced files bytes) := by
  have hthere : withStaged files bytes staged = some bytes := update_self ..
  rw [effect, hthere]
  dsimp only
  rw [withStaged, update_idem, update_staged_none hclean fun _ _ => rfl]
  rfl

theorem effect_validate : effect .validate files = (true, files) := rfl

theorem run_rename_none (hclean : files staged = none) :
    (rename staged directory).run step ⟨withStaged files bytes, none⟩
      = (true, ⟨replaced files bytes, none⟩) := by
  simp [Custody.rename, run_bind, run_perform, step, effect_validate,
    effect_rename hclean]

/-- The renaming fails before it has done anything. -/
theorem run_rename_fails {n : ℕ} (hn : n < 2) (k : ℕ) :
    (rename staged directory).run step ⟨withStaged files bytes, some ⟨n, k⟩⟩
      = (false, ⟨withStaged files bytes, none⟩) := by
  match n, hn with
  | 0, _ | 1, _ => rfl

/-- The folder is looked at in vain after the renaming. -/
theorem run_rename_late (hclean : files staged = none) (k : ℕ) :
    (rename staged directory).run step ⟨withStaged files bytes, some ⟨2, k⟩⟩
      = (false, ⟨replaced files bytes, none⟩) := by
  simp [Custody.rename, run_bind, run_perform, step, effect_validate,
    effect_rename hclean]
  rfl

theorem run_rename_later (hclean : files staged = none) (n k : ℕ) :
    (rename staged directory).run step ⟨withStaged files bytes, some ⟨n + 3, k⟩⟩
      = (true, ⟨replaced files bytes, some ⟨n, k⟩⟩) := by
  simp [Custody.rename, run_bind, run_perform, step, effect_validate,
    effect_rename hclean]

end Run

/-! ## The whole of it -/

section Write

variable {files : Files} {s : DirectState} {generation : ℕ} {d : Directory}

/-- The answer is written: its generation is there and it is newer than the
last one. -/
def Counts (s : DirectState) (generation : ℕ) (d : Directory) : Prop :=
  s.current generation ∧ s.lastSuccessAtMs < d.observed

instance : Decidable (Counts s generation d) := inferInstanceAs (Decidable (_ ∧ _))

theorem counts_iff : Counts s generation d
    ↔ ¬ (¬ s.current generation ∨ d.observed ≤ s.lastSuccessAtMs) := by
  rw [not_or, not_not, not_le]
  rfl

/-- What an accepted answer makes of the state. -/
def accepted (s : DirectState) (d : Directory) : DirectState :=
  { s with lastSuccessAtMs := d.observed, validUntilMs := some d.expiry, failure := none }

/-- **Which failures do no harm**: not those of the calls with which the new
file takes the place of the old one, or, for an answer that is not written,
with which it is removed. -/
def Harmless (s : DirectState) (generation : ℕ) (d : Directory) (files : Files) :
    Option FolderFault → Prop
  | none => True
  | some ⟨n, _⟩ =>
    n ≠ 6 ∧ n ≠ 7 ∧ (n = 8 → Counts s generation d → files directory = some d.bytes)

/-- The third part after the second one. -/
theorem run_writeDirectory_of_stage {fault fault' : Option FolderFault}
    (hstage : (stage d.bytes).run step ⟨files, fault⟩
      = (true, ⟨withStaged files d.bytes, fault'⟩)) :
    (writeDirectory s generation d).run step ⟨files, fault⟩
      = (settle s generation d).run step ⟨withStaged files d.bytes, fault'⟩ := by
  rw [writeDirectory, run_bind, hstage]
  rfl

/-- An answer that is not written. -/
theorem run_settle_stale (h : ¬ Counts s generation d) (w : Folder) :
    (settle s generation d).run step w
      = ((.error .stale, s), ((remove staged).run step w).2) := by
  rw [settle, if_pos (not_not.mp (counts_iff.not.mp h)), run_bind]
  rfl

/-- An answer that is written. -/
theorem run_settle_counts (h : Counts s generation d) (w : Folder) :
    (settle s generation d).run step w
      = (if ((rename staged directory).run step w).1 then (.ok (), accepted s d)
          else (.error .unavailable, s),
        ((rename staged directory).run step w).2) := by
  rw [settle, if_neg (counts_iff.mp h), run_bind]
  cases ((rename staged directory).run step w).1 with
  | true | false => rfl

/-- **Without a failure** an answer that counts is accepted. -/
theorem run_writeDirectory_none (hclean : files staged = none) (h : Counts s generation d) :
    (writeDirectory s generation d).run step ⟨files, none⟩
      = ((.ok (), accepted s d), ⟨replaced files d.bytes, none⟩) := by
  rw [run_writeDirectory_of_stage (run_stage_none hclean), run_settle_counts h,
    run_rename_none hclean]
  rfl

/-- A new file that was left is in the way. -/
theorem run_writeDirectory_left {content : List UInt8} (hleft : files staged = some content) :
    ((writeDirectory s generation d).run step ⟨files, none⟩).1.1 = .error .unavailable := by
  have hstage : (stage d.bytes).run step ⟨files, none⟩ = (false, ⟨files, none⟩) := by
    simp [stage, create, run_bind, run_perform, step, effect, hleft]
    rfl
  rw [writeDirectory, run_bind, hstage]
  rfl

/-- The next answer is accepted, whatever is known then, if it counts
then. -/
def NextAccepted (files : Files) : Prop :=
  ∀ (later : DirectState) (generation : ℕ) (d : Directory), Counts later generation d →
    ((writeDirectory later generation d).run step ⟨files, none⟩).1.1 = .ok ()

/-- That is so exactly if there is no new file. -/
theorem nextAccepted_iff : NextAccepted files ↔ files staged = none := by
  constructor
  · intro h
    cases hleft : files staged with
    | none => rfl
    | some content =>
      have hok := h ⟨0, true, 0, none, none⟩ 0 ⟨.null, 1, 0, []⟩ ⟨⟨rfl, rfl⟩, by decide⟩
      rw [run_writeDirectory_left hleft] at hok
      cases hok
  · intro hclean later generation d hcounts
    rw [run_writeDirectory_none hclean hcounts]

end Write

section Kept

variable {parseUrl : String → Option ParsedUrl} {fromStr : String → Option Json}
  {fromSlice : List UInt8 → Option Json} {sha256 : List UInt8 → Digest} {self : DirectPeer}

/-- **What was there stays there**: if an answer is not accepted, the file the
workload reads is as it was, so are the times that are remembered, and the
next answer is accepted. -/
def Kept (s : Direct) (result : Except DiscoveryFailure Unit × Direct) : Prop :=
  ∀ failure, result.1 = .error failure →
    result.2.files directory = s.files directory
      ∧ result.2.state.validUntilMs = s.state.validUntilMs
      ∧ result.2.state.lastSuccessAtMs = s.state.lastSuccessAtMs ∧ NextAccepted result.2.files

/-- A failure is noted, and nothing else changes. -/
theorem setFailure_times (s : DirectState) (request : DirectRequest) (failure : DiscoveryFailure) :
    (s.setFailure request failure).validUntilMs = s.validUntilMs
      ∧ (s.setFailure request failure).lastSuccessAtMs = s.lastSuccessAtMs := by
  unfold DirectState.setFailure
  split
  · exact ⟨rfl, rfl⟩
  · split <;> exact ⟨rfl, rfl⟩
  · split <;> exact ⟨rfl, rfl⟩

variable {s : Direct} {request : DirectRequest} {generation : ℕ} {d : Directory}

/-- What becomes of the second and third part. -/
def concluded (request : DirectRequest)
    (x : (Except DiscoveryFailure Unit × DirectState) × Folder) :
    Except DiscoveryFailure Unit × Direct :=
  match x.1.1 with
  | .ok () => (.ok (), ⟨x.1.2, x.2.files⟩)
  | .error failure => (.error failure, ⟨x.1.2.setFailure request failure, x.2.files⟩)

theorem kept_concluded_ok (state : DirectState) (w : Folder) :
    Kept s (concluded request ((.ok (), state), w)) := nofun

/-- If an answer is not accepted, it depends on the folder alone whether what
was there is kept. -/
theorem kept_concluded_error (failure : DiscoveryFailure) (w : Folder) :
    Kept s (concluded request ((.error failure, s.state), w))
      ↔ w.files directory = s.files directory ∧ w.files staged = none := by
  obtain ⟨huntil, hlast⟩ := setFailure_times s.state request failure
  constructor
  · intro h
    obtain ⟨hdirectory, -, -, hnext⟩ := h failure rfl
    exact ⟨hdirectory, nextAccepted_iff.mp hnext⟩
  · rintro ⟨hdirectory, hstaged⟩ failure' -
    exact ⟨hdirectory, huntil, hlast, nextAccepted_iff.mpr hstaged⟩

theorem withStaged_staged_ne (files : Files) (bytes : List UInt8) :
    withStaged files bytes staged ≠ none := by
  rw [withStaged, update_self]
  nofun

/-- The third part of an answer that is written. -/
theorem kept_settle_counts_iff (hclean : s.files staged = none)
    (hcounts : Counts s.state generation d) (m k : ℕ) :
    Kept s (concluded request ((settle s.state generation d).run step
        ⟨withStaged s.files d.bytes, some ⟨m, k⟩⟩))
      ↔ Harmless s.state generation d s.files (some ⟨m + 6, k⟩) := by
  rw [run_settle_counts hcounts]
  match m with
  | 0 | 1 =>
    -- the new file is left
    rw [run_rename_fails (by decide)]
    refine iff_of_false (fun h => ?_) (fun h => by obtain ⟨h₆, h₇, -⟩ := h; omega)
    exact withStaged_staged_ne s.files d.bytes ((kept_concluded_error _ _).mp h).2
  | 2 =>
    -- the old file is gone
    have hnew : replaced s.files d.bytes directory = some d.bytes := update_self ..
    rw [run_rename_late hclean]
    refine (kept_concluded_error _ _).trans ⟨fun h => ?_, fun h => ?_⟩
    · exact ⟨by decide, by decide, fun _ _ => h.1.symm.trans hnew⟩
    · have hgone : replaced s.files d.bytes staged = none := replaced_staged hclean
      exact ⟨hnew.trans (h.2.2 rfl hcounts).symm, hgone⟩
  | m + 3 =>
    rw [run_rename_later hclean]
    exact iff_of_true (kept_concluded_ok _ _) ⟨by omega, by omega, by omega⟩

/-- The third part of an answer that is not written. -/
theorem kept_settle_stale_iff (hclean : s.files staged = none)
    (hcounts : ¬ Counts s.state generation d) (m k : ℕ) :
    Kept s (concluded request ((settle s.state generation d).run step
        ⟨withStaged s.files d.bytes, some ⟨m, k⟩⟩))
      ↔ Harmless s.state generation d s.files (some ⟨m + 6, k⟩) := by
  rw [run_settle_stale hcounts]
  match m with
  | 0 | 1 =>
    rw [run_remove_fails _ (by decide)]
    refine iff_of_false (fun h => ?_) (fun h => by obtain ⟨h₆, h₇, -⟩ := h; omega)
    exact withStaged_staged_ne s.files d.bytes ((kept_concluded_error _ _).mp h).2
  | m + 2 =>
    have hfiles : ((remove staged).run step
        ⟨withStaged s.files d.bytes, some ⟨m + 2, k⟩⟩).2.files = s.files := by
      rw [files_remove_later]
      exact update_staged_none hclean fun name hname => update_of_ne hname _ _
    refine iff_of_true ?_ ⟨by omega, by omega, fun _ h => absurd h hcounts⟩
    rw [kept_concluded_error, hfiles]
    exact ⟨rfl, hclean⟩

/-- **The second and third part**, by where the failure strikes. -/
theorem kept_writeDirectory_iff (hclean : s.files staged = none) (fault : Option FolderFault) :
    Kept s (concluded request ((writeDirectory s.state generation d).run step
        ⟨s.files, fault⟩))
      ↔ Harmless s.state generation d s.files fault := by
  have hgone : update (withStaged s.files d.bytes) staged none = s.files :=
    update_staged_none hclean fun name hname => update_of_ne hname _ _
  cases fault with
  | none =>
    refine iff_of_true ?_ trivial
    by_cases hcounts : Counts s.state generation d
    · rw [run_writeDirectory_none hclean hcounts]
      exact kept_concluded_ok _ _
    · rw [run_writeDirectory_of_stage (run_stage_none hclean), run_settle_stale hcounts,
        run_remove_none, hgone, kept_concluded_error]
      exact ⟨rfl, hclean⟩
  | some fault =>
    obtain ⟨n, k⟩ := fault
    by_cases hn : n < 6
    · -- the new file was not written
      obtain ⟨files', hstage, hsame⟩ := run_stage_fails d.bytes hclean hn k
      refine iff_of_true ?_ ⟨by omega, by omega, by omega⟩
      have hrun : (writeDirectory s.state generation d).run step ⟨s.files, some ⟨n, k⟩⟩
          = ((.error .unavailable, s.state), ⟨s.files, none⟩) := by
        rw [writeDirectory, run_bind, hstage]
        show ((Except.error DiscoveryFailure.unavailable, s.state),
          ((remove staged).run step ⟨files', none⟩).2) = _
        rw [run_remove_none, update_staged_none hclean hsame]
      rw [hrun, kept_concluded_error]
      exact ⟨rfl, hclean⟩
    · obtain ⟨m, rfl⟩ : ∃ m, n = m + 6 := ⟨n - 6, by omega⟩
      rw [run_writeDirectory_of_stage (run_stage_later hclean m k)]
      by_cases hcounts : Counts s.state generation d
      · exact kept_settle_counts_iff hclean hcounts m k
      · exact kept_settle_stale_iff hclean hcounts m k

/-- What an acceptance comes to. -/
theorem acceptResponse_of_inspect {body : List UInt8} {nowMs : ℤ} {allowDirectory : Bool}
    (hscope : request.scope = some (generation, allowDirectory))
    (hinspect : inspect parseUrl fromStr fromSlice sha256 self body nowMs allowDirectory = .ok d)
    (fault : Option FolderFault) :
    acceptResponse parseUrl fromStr fromSlice sha256 self s request body nowMs fault
      = concluded request ((writeDirectory s.state generation d).run step
        ⟨s.files, fault⟩) := by
  simp only [acceptResponse, hscope, hinspect]
  rfl

end Kept

/-- **When a failure does no harm.** An answer comes while no new file is
left, and at most one call fails. If the answer is not accepted then what was
there stays there and the next answer is accepted – if and only if the call
that fails is none of those with which the new file takes the place of the
old one, or is removed because the answer comes too late. -/
theorem failed_acceptance_keeps_iff (parseUrl : String → Option ParsedUrl)
    (fromStr : String → Option Json) (fromSlice : List UInt8 → Option Json)
    (sha256 : List UInt8 → Digest) (self : DirectPeer) (s : Direct) (request : DirectRequest)
    (body : List UInt8) (nowMs : ℤ) (fault : Option FolderFault) (hclean : s.files staged = none) :
    Kept s (acceptResponse parseUrl fromStr fromSlice sha256 self s request body nowMs fault)
      ↔ ∀ generation allowDirectory d, request.scope = some (generation, allowDirectory) →
        inspect parseUrl fromStr fromSlice sha256 self body nowMs allowDirectory = .ok d →
          Harmless s.state generation d s.files fault := by
  cases hscope : request.scope with
  | none =>
    refine iff_of_true ?_ nofun
    rw [acceptResponse, hscope]
    nofun
  | some scope =>
    obtain ⟨generation, allowDirectory⟩ := scope
    cases hinspect : inspect parseUrl fromStr fromSlice sha256 self body nowMs allowDirectory with
    | error failure =>
      obtain ⟨huntil, hlast⟩ := setFailure_times s.state request failure
      refine iff_of_true ?_ ?_
      · rw [acceptResponse, hscope]
        dsimp only
        rw [hinspect]
        intro failure' _
        exact ⟨rfl, huntil, hlast, nextAccepted_iff.mpr hclean⟩
      · rintro generation' allowDirectory' d heq hok
        cases heq
        rw [hinspect] at hok
        cases hok
    | ok d =>
      rw [acceptResponse_of_inspect hscope hinspect, kept_writeDirectory_iff hclean]
      constructor
      · rintro h generation' allowDirectory' d' heq hok
        cases heq
        rw [hinspect] at hok
        cases hok
        exact h
      · exact fun h => h generation allowDirectory d rfl hinspect

end DirectPeer

/-! ## An answer without peers -/

namespace DirectSample

open DirectPeer

/-- The hash of an empty list, and some other value for every other text. -/
def sha256 (bytes : List UInt8) : Digest :=
  if bytes = [91, 93] then
    #v[79, 83, 205, 161, 140, 43, 170, 12, 3, 84, 187, 95, 154, 62, 203, 229, 237, 18, 171, 77,
      142, 17, 186, 135, 60, 47, 17, 22, 18, 2, 185, 69]
  else Vector.replicate 32 0

def peer : DirectPeer := ⟨"application", "job", "runtime", false⟩

/-- A snapshot without peers. -/
def snapshot (observed expiry : ℤ) : Json :=
  .obj [("schema", .str "liskov.discovery.v2"), ("applicationUid", .str "application"),
    ("self", .obj [("jobId", .str "job"), ("runtimeInstanceId", .str "runtime")]),
    ("revision", .str (peersRevision sha256 [])), ("observedAtMs", .num observed),
    ("validUntilMs", .num expiry), ("peers", .arr [])]

def response (observed expiry : ℤ) : Json :=
  .obj [("ok", .bool true), ("discovery", snapshot observed expiry)]

def body (observed expiry : ℤ) : List UInt8 := utf8 (response observed expiry).render

/-- The directory in it. -/
def answered (observed expiry : ℤ) : Directory :=
  ⟨snapshot observed expiry, observed, expiry, utf8 ((snapshot observed expiry).render ++ "\n")⟩

/-- No job is written as JSON here. -/
def fromStr : String → Option Json := fun _ => none

theorem inspect_sample :
    inspect (fun _ => none) fromStr (fun _ => some (response 1000 2000)) sha256 peer
      (body 1000 2000) 1000 true = .ok (answered 1000 2000) := by decide +kernel

/-- A child runs, and its folder is empty. -/
def running : Direct := ⟨⟨1, true, 0, none, none⟩, fun _ => none⟩

/-- The answer, while the call after some others fails. -/
def accept (after : ℕ) : Except DiscoveryFailure Unit × Direct :=
  acceptResponse (fun _ => none) fromStr (fun _ => some (response 1000 2000)) sha256 peer running
    (.direct 1) (body 1000 2000) 1000 (some ⟨after, 0⟩)

theorem accept_eq (after : ℕ) :
    accept after = concluded (.direct 1) ((writeDirectory running.state 1 (answered 1000 2000)).run
      step ⟨running.files, some ⟨after, 0⟩⟩) :=
  acceptResponse_of_inspect rfl inspect_sample _

theorem counts_sample : Counts running.state 1 (answered 1000 2000) := ⟨⟨rfl, rfl⟩, by decide⟩

end DirectSample

open DirectSample in
/-- The new file cannot be renamed: it is left, and the next answer is
refused. -/
theorem DirectPeer.failed_rename_leaves_file :
    (accept 7).1 = .error .unavailable ∧ (accept 7).2.files staged ≠ none
      ∧ ¬ NextAccepted (accept 7).2.files
      ∧ (accept 8).1 = .error .unavailable ∧ (accept 8).2.files directory ≠ running.files directory
      ∧ (accept 8).2.state.lastSuccessAtMs = running.state.lastSuccessAtMs := by
  have hrename : accept 7 = (.error .unavailable, ⟨⟨1, true, 0, none, some .unavailable⟩,
      withStaged running.files (answered 1000 2000).bytes⟩) := by
    rw [accept_eq, run_writeDirectory_of_stage (run_stage_later rfl 1 0),
      run_settle_counts counts_sample, run_rename_fails (by decide)]
    rfl
  have hlate : accept 8 = (.error .unavailable, ⟨⟨1, true, 0, none, some .unavailable⟩,
      replaced running.files (answered 1000 2000).bytes⟩) := by
    rw [accept_eq, run_writeDirectory_of_stage (run_stage_later rfl 2 0),
      run_settle_counts counts_sample, run_rename_late rfl]
    rfl
  have hnew : ∀ bytes, replaced running.files bytes directory = some bytes :=
    fun bytes => update_self ..
  have hleft := withStaged_staged_ne running.files (answered 1000 2000).bytes
  rw [hrename, hlate, nextAccepted_iff]
  refine ⟨rfl, hleft, hleft, rfl, ?_, rfl⟩
  dsimp only
  rw [hnew]
  nofun

open DirectSample in
/-- While the new file is written, a failure does no harm. -/
theorem DirectPeer.failed_write_keeps :
    running.files staged = none ∧ Kept running (accept 4) :=
  ⟨rfl, (failed_acceptance_keeps_iff _ _ _ _ _ _ _ _ _ _ rfl).mpr
    fun _ _ _ _ _ => ⟨by decide, by decide, nofun⟩⟩
