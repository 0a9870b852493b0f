import RuntimeCargo.DirectFailures
import RuntimeCargo.Transition

/-!
# Children that come and go

A child is started and ends on one thread, the server is asked and answers
on another one, and an answer may come when the child that asked is gone.
The two meet at a lock: what is known about the child changes only there,
and so does the file the workload reads. An answer is written to a new file
before, and its failure is noted after, outside the lock
(`Reporter`).

Nothing fails here. What is to be shown is that a child reads answers to its
own questions only, that each is newer than the one before, and that what
the helper remembers belongs to what the child reads
(`directory_of_own_generation`).

A generation is a number in 64 bits. After as many starts and ends as there
are such numbers it comes back, and an answer that has waited so long is
taken for one to the child that runs now (`old_answer_after_wrap`). So a run
is followed as long as no answer waits that long (`InTime`).
-/

open Program (run_bind)
open Function

namespace DirectPeer

/-- What the thread that talks to the server is doing. -/
inductive Reporter where
  | idle
  /-- The new file is written, and the lock is awaited. -/
  | staged (request : DirectRequest) (epoch : ℕ) (generation : ℕ) (d : Directory)
  /-- The answer was refused, and this is to be noted. -/
  | failing (request : DirectRequest) (epoch : ℕ) (failure : DiscoveryFailure)

/-- **The helper and its threads.** The last three fields are not in the
program: how many starts and ends there were, the requests that were made and
when, and the answer in the file with the time its request was made. -/
structure Threads where
  state : DirectState
  files : Files
  reporter : Reporter
  epoch : ℕ
  issued : List (DirectRequest × ℕ)
  source : Option (Directory × ℕ)

namespace Threads

/-- What may happen. -/
inductive Action where
  | beginChild
  | endChild
  | requestAttrs (nowMs : ℤ) (ad : Except AdvertisementFailure (Option Advertisement))
  /-- An answer to one of the requests comes. -/
  | accept (i : ℕ) (body : List UInt8) (nowMs : ℤ)
  | settle
  | fail

variable (parseUrl : String → Option ParsedUrl) (fromStr : String → Option Json)
  (fromSlice : List UInt8 → Option Json) (sha256 : List UInt8 → Digest) (caller : DirectPeer)

/-- Before the first child. -/
def create : Threads := ⟨.create, fun _ => none, .idle, 0, [], none⟩

/-- An answer comes: it is inspected, and what it holds is written to a new
file. -/
def receive (s : Threads) (request : DirectRequest) (epoch : ℕ) (body : List UInt8) (nowMs : ℤ) :
    Threads :=
  match request.scope with
  | none => s
  | some (generation, allowDirectory) =>
    match inspect parseUrl fromStr fromSlice sha256 caller body nowMs allowDirectory with
    | .error failure => { s with reporter := .failing request epoch failure }
    | .ok d =>
      let (written, w) := (stage d.bytes).run Folder.step ⟨s.files, none⟩
      if written then { s with files := w.files, reporter := .staged request epoch generation d }
      else
        { s with
          files := ((Custody.remove staged).run Folder.step w).2.files
          reporter := .failing request epoch .unavailable }

/-- The lock is taken, and the new file takes the place of the old one or is
removed. -/
def conclude (s : Threads) (request : DirectRequest) (epoch generation : ℕ) (d : Directory) :
    Threads :=
  let ((result, state), w) := (DirectPeer.settle s.state generation d).run Folder.step
    ⟨s.files, none⟩
  match result with
  | .ok () => { s with
      state := state, files := w.files, reporter := .idle, source := some (d, epoch) }
  | .error failure => { s with
      state := state, files := w.files, reporter := .failing request epoch failure }

/-- **One step of one of the threads.** -/
def step (s : Threads) : Action → Option Threads
  | .beginChild =>
    let (state, w) := (DirectPeer.beginChild s.state).run Folder.step ⟨s.files, none⟩
    some { s with state := state, files := w.files, epoch := s.epoch + 1, source := none }
  | .endChild =>
    let (state, w) := (DirectPeer.endChild s.state).run Folder.step ⟨s.files, none⟩
    some { s with state := state, files := w.files, epoch := s.epoch + 1 }
  | .requestAttrs nowMs ad =>
    match s.reporter with
    | .idle => some { s with
        issued := s.issued ++ [((requestAttrs s.state nowMs ad).2, s.epoch)] }
    | _ => none
  | .accept i body nowMs =>
    match s.reporter, s.issued[i]? with
    | .idle, some (request, epoch) =>
      some (s.receive parseUrl fromStr fromSlice sha256 caller request epoch body nowMs)
    | _, _ => none
  | .settle =>
    match s.reporter with
    | .staged request epoch generation d => some (s.conclude request epoch generation d)
    | _ => none
  | .fail =>
    match s.reporter with
    | .failing request _ failure =>
      some { s with state := s.state.setFailure request failure, reporter := .idle }
    | _ => none

/-- The request a step is about, and when it was made. -/
def handles (s : Threads) : Action → Option (DirectRequest × ℕ)
  | .accept i _ _ => s.issued[i]?
  | .settle | .fail =>
    match s.reporter with
    | .staged request epoch _ _ | .failing request epoch _ => some (request, epoch)
    | .idle => none
  | _ => none

/-- **An answer is in time**: fewer starts and ends than there are
generations since its request was made. -/
def InTime (s : Threads) (a : Action) : Prop :=
  ∀ request epoch, s.handles a = some (request, epoch) → s.epoch < epoch + 2 ^ 64

/-! ## What the calls come to -/

section Run

variable {files : Files} {s : DirectState} {d : Directory} {generation : ℕ}

theorem run_beginChild_none :
    (DirectPeer.beginChild s).run Folder.step ⟨files, none⟩
      = (s.begun, ⟨update (update files advertisement none) directory none,
        none⟩) := by
  rw [DirectPeer.beginChild, run_bind, run_remove_none]
  show (Program.run Folder.step _ ⟨update files advertisement none, none⟩) = _
  rw [if_neg (by simp), run_bind, run_remove_none]
  rfl

theorem run_endChild_none :
    (DirectPeer.endChild s).run Folder.step ⟨files, none⟩
      = (s.ended, ⟨update files advertisement none, none⟩) := by
  rw [DirectPeer.endChild, run_bind, run_remove_none]
  rfl

/-- Without the new file, and with it again. -/
theorem withStaged_removed {bytes : List UInt8} (h : files staged = some bytes) :
    withStaged (update files staged none) bytes = files := by
  rw [withStaged, update_idem, ← h, update_eq_self]

theorem run_settle_none_counts (h : files staged = some d.bytes) (hcounts : Counts s generation d) :
    (DirectPeer.settle s generation d).run Folder.step ⟨files, none⟩
      = ((.ok (), accepted s d),
        ⟨replaced (update files staged none) d.bytes, none⟩) := by
  have hrename : (Custody.rename staged directory).run Folder.step
      ⟨withStaged (update files staged none) d.bytes, none⟩ = _ :=
    run_rename_none (update_self ..)
  rw [withStaged_removed h] at hrename
  rw [run_settle_counts hcounts, hrename]
  rfl

theorem run_settle_none_stale (hcounts : ¬ Counts s generation d) :
    (DirectPeer.settle s generation d).run Folder.step ⟨files, none⟩
      = ((.error .stale, s), ⟨update files staged none, none⟩) := by
  rw [run_settle_stale hcounts, run_remove_none]

end Run

variable {d : Directory}

/-- An answer that counts takes the place of the old one. -/
theorem conclude_counts {s : Threads} {request : DirectRequest} {epoch generation : ℕ}
    (h : s.files staged = some d.bytes) (hcounts : Counts s.state generation d) :
    s.conclude request epoch generation d = { s with
      state := accepted s.state d
      files := replaced (update s.files staged none) d.bytes
      reporter := .idle
      source := some (d, epoch) } := by
  rw [conclude, run_settle_none_counts h hcounts]

/-- An answer that does not count is removed. -/
theorem conclude_stale {s : Threads} {request : DirectRequest} {epoch generation : ℕ}
    (hcounts : ¬ Counts s.state generation d) :
    s.conclude request epoch generation d = { s with
      files := update s.files staged none
      reporter := .failing request epoch .stale } := by
  rw [conclude, run_settle_none_stale hcounts]

/-- A directory is found only where one is allowed. -/
theorem allowed_of_inspect {parseUrl : String → Option ParsedUrl} {fromStr : String → Option Json}
    {fromSlice : List UInt8 → Option Json} {sha256 : List UInt8 → Digest} {caller : DirectPeer}
    {body : List UInt8} {nowMs : ℤ} {allowDirectory : Bool}
    (h : inspect parseUrl fromStr fromSlice sha256 caller body nowMs allowDirectory = .ok d) :
    allowDirectory = true := by
  obtain ⟨-, h⟩ := require_bind_eq_ok.mp h
  obtain ⟨response, -, h⟩ := Option.okOr_bind_eq_ok.mp h
  obtain ⟨accepted, -, h⟩ := Option.okOr_bind_eq_ok.mp h
  obtain ⟨-, h⟩ := require_bind_eq_ok.mp h
  obtain ⟨snapshot, -, h⟩ := Option.okOr_bind_eq_ok.mp h
  obtain ⟨-, h⟩ := require_bind_eq_ok.mp h
  have h := (of_ite_error_eq_ok h).2
  cases allowDirectory with
  | true => rfl
  | false => cases h

/-- **What becomes of an answer that comes**: nothing is asked of it, or it is
refused, or it is written to a new file. -/
theorem receive_cases {s : Threads} (hclean : s.files staged = none) (request : DirectRequest)
    (epoch : ℕ) (body : List UInt8) (nowMs : ℤ) :
    s.receive parseUrl fromStr fromSlice sha256 caller request epoch body nowMs = s
      ∨ (∃ failure, s.receive parseUrl fromStr fromSlice sha256 caller request epoch body nowMs
          = { s with reporter := .failing request epoch failure })
      ∨ ∃ generation d, request.scope = some (generation, true)
        ∧ inspect parseUrl fromStr fromSlice sha256 caller body nowMs true = .ok d
        ∧ s.receive parseUrl fromStr fromSlice sha256 caller request epoch body nowMs
          = { s with
            files := withStaged s.files d.bytes
            reporter := .staged request epoch generation d } := by
  unfold receive
  cases hscope : request.scope with
  | none => exact .inl rfl
  | some scope =>
    obtain ⟨generation, allowDirectory⟩ := scope
    dsimp only
    cases hinspect : inspect parseUrl fromStr fromSlice sha256 caller body nowMs allowDirectory with
    | error failure => exact .inr (.inl ⟨failure, rfl⟩)
    | ok d =>
      obtain rfl := allowed_of_inspect hinspect
      refine .inr (.inr ⟨generation, d, rfl, hinspect, ?_⟩)
      dsimp only
      rw [run_stage_none hclean]
      rfl

/-! ## What holds on the way -/

/-- The directory was found in an answer and passed every check. -/
def Passed (d : Directory) : Prop :=
  ∃ body nowMs, inspect parseUrl fromStr fromSlice sha256 caller body nowMs true = .ok d

/-- **What a child reads**: nothing, or an answer to a request of its own
that passed every check and whose times are the ones that are
remembered. -/
def Reads (s : Threads) : Prop :=
  match s.source with
  | none => s.files directory = none ∧ s.state.lastSuccessAtMs = 0 ∧ s.state.validUntilMs = none
  | some (d, epoch) =>
    epoch = s.epoch ∧ (.direct s.state.generation, s.epoch) ∈ s.issued
      ∧ s.files directory = some d.bytes ∧ Passed parseUrl fromStr fromSlice sha256 caller d
      ∧ s.state.lastSuccessAtMs = d.observed ∧ s.state.validUntilMs = some d.expiry

/-- A request was made in the generation it names. -/
def Made (s : Threads) (request : DirectRequest) (epoch : ℕ) : Prop :=
  (request, epoch) ∈ s.issued ∧ epoch ≤ s.epoch
    ∧ ∀ generation allowDirectory, request.scope = some (generation, allowDirectory) →
      generation = epoch % 2 ^ 64

/-- The new file is there exactly while the lock is awaited, and it holds an
answer to a request that was made. -/
def Working (s : Threads) : Prop :=
  match s.reporter with
  | .idle => s.files staged = none
  | .failing request epoch _ => s.files staged = none ∧ Made s request epoch
  | .staged request epoch generation d =>
    s.files staged = some d.bytes ∧ Made s request epoch
      ∧ request.scope = some (generation, true) ∧ Passed parseUrl fromStr fromSlice sha256 caller d

/-- **What every step keeps.** -/
structure Coherent (s : Threads) : Prop where
  generation : s.state.generation = s.epoch % 2 ^ 64
  made : ∀ request epoch, (request, epoch) ∈ s.issued → Made s request epoch
  working : Working parseUrl fromStr fromSlice sha256 caller s
  reads : s.state.childActive = true → Reads parseUrl fromStr fromSlice sha256 caller s

variable {parseUrl fromStr fromSlice sha256 caller}

section Keep

variable {s t : Threads} {request : DirectRequest} {epoch generation : ℕ} {d : Directory}
  {failure : DiscoveryFailure}

/-- The first state. -/
theorem coherent_create : Coherent parseUrl fromStr fromSlice sha256 caller create where
  generation := rfl
  made := fun _ _ h => absurd h List.not_mem_nil
  working := rfl
  reads := nofun

theorem Made.mono (h : Made s request epoch) (hissued : ∀ x ∈ s.issued, x ∈ t.issued)
    (hepoch : s.epoch ≤ t.epoch) : Made t request epoch :=
  ⟨hissued _ h.1, h.2.1.trans hepoch, h.2.2⟩

/-- The work goes on if the new file is as it was. -/
theorem Working.mono (h : Working parseUrl fromStr fromSlice sha256 caller s)
    (hreporter : t.reporter = s.reporter) (hstaged : t.files staged = s.files staged)
    (hissued : ∀ x ∈ s.issued, x ∈ t.issued) (hepoch : s.epoch ≤ t.epoch) :
    Working parseUrl fromStr fromSlice sha256 caller t := by
  unfold Working at h ⊢
  rw [hreporter, hstaged]
  cases hs : s.reporter with
  | idle =>
    rw [hs] at h
    exact h
  | failing request epoch failure =>
    rw [hs] at h
    exact ⟨h.1, h.2.mono hissued hepoch⟩
  | staged request epoch generation d =>
    rw [hs] at h
    exact ⟨h.1, h.2.1.mono hissued hepoch, h.2.2⟩

/-- A child reads the same if file and times are as they were. -/
theorem Reads.mono (h : Reads parseUrl fromStr fromSlice sha256 caller s)
    (hsource : t.source = s.source) (hdirectory : t.files directory = s.files directory)
    (hlast : t.state.lastSuccessAtMs = s.state.lastSuccessAtMs)
    (huntil : t.state.validUntilMs = s.state.validUntilMs)
    (hgeneration : t.state.generation = s.state.generation)
    (hissued : ∀ x ∈ s.issued, x ∈ t.issued) (hepoch : t.epoch = s.epoch) :
    Reads parseUrl fromStr fromSlice sha256 caller t := by
  unfold Reads at h ⊢
  rw [hsource, hdirectory, hlast, huntil, hgeneration, hepoch]
  cases hs : s.source with
  | none =>
    rw [hs] at h
    exact h
  | some x =>
    rw [hs] at h
    obtain ⟨hown, hdirect, hrest⟩ := h
    exact ⟨hown, hissued _ hdirect, hrest⟩

/-- What is asked for names the generation that is there. -/
theorem scope_requestAttrs (s : DirectState) (nowMs : ℤ)
    (ad : Except AdvertisementFailure (Option Advertisement)) {allowDirectory : Bool}
    (h : (requestAttrs s nowMs ad).2.scope = some (generation, allowDirectory)) :
    generation = s.generation := by
  unfold requestAttrs at h
  split at h
  · cases h
  · split at h
    · exact (congrArg Prod.fst (Option.some.inj h)).symm
    · cases h
    · cases h
    · exact (congrArg Prod.fst (Option.some.inj h)).symm

/-- Only a request for the directory allows one. -/
theorem eq_direct_of_scope (h : request.scope = some (generation, true)) :
    request = .direct generation := by
  cases request with
  | none => cases h
  | direct g => rw [(Prod.mk.inj (Option.some.inj h)).1]
  | errorOnly g => exact absurd (Prod.mk.inj (Option.some.inj h)).2 nofun

/-- What a noted failure leaves alone. -/
theorem setFailure_rest (s : DirectState) (request : DirectRequest) (failure : DiscoveryFailure) :
    (s.setFailure request failure).generation = s.generation
      ∧ (s.setFailure request failure).childActive = s.childActive := by
  unfold DirectState.setFailure
  split
  · exact ⟨rfl, rfl⟩
  · split <;> exact ⟨rfl, rfl⟩
  · split <;> exact ⟨rfl, rfl⟩

variable (h : Coherent parseUrl fromStr fromSlice sha256 caller s)
include h

theorem Coherent.clean (hidle : s.reporter = .idle) : s.files staged = none := by
  have hworking := h.working
  unfold Working at hworking
  rw [hidle] at hworking
  exact hworking

/-- A child starts: whatever it will read is not there yet. -/
theorem Coherent.beginChild :
    Coherent parseUrl fromStr fromSlice sha256 caller { s with
      state := s.state.begun
      files := update (update s.files advertisement none) directory none
      epoch := s.epoch + 1
      source := none } where
  generation := by
    show (s.state.generation + 1) % 2 ^ 64 = (s.epoch + 1) % 2 ^ 64
    rw [h.generation, Nat.mod_add_mod]
  made := fun request epoch hmem =>
    (h.made request epoch hmem).mono (fun _ hx => hx) (Nat.le_succ _)
  working := by
    refine h.working.mono rfl ?_ (fun _ hx => hx) (Nat.le_succ _)
    dsimp only
    rw [update_of_ne (by decide), update_of_ne (by decide)]
  reads := by
    intro _
    refine ⟨?_, rfl, rfl⟩
    dsimp only
    rw [update_self]

/-- A child ends. -/
theorem Coherent.endChild :
    Coherent parseUrl fromStr fromSlice sha256 caller { s with
      state := s.state.ended
      files := update s.files advertisement none
      epoch := s.epoch + 1 } where
  generation := by
    show (s.state.generation + 1) % 2 ^ 64 = (s.epoch + 1) % 2 ^ 64
    rw [h.generation, Nat.mod_add_mod]
  made := fun request epoch hmem =>
    (h.made request epoch hmem).mono (fun _ hx => hx) (Nat.le_succ _)
  working := by
    refine h.working.mono rfl ?_ (fun _ hx => hx) (Nat.le_succ _)
    dsimp only
    rw [update_of_ne (by decide)]
  reads := nofun

/-- A request is made. -/
theorem Coherent.requestAttrs (nowMs : ℤ) (ad : Except AdvertisementFailure (Option Advertisement)) :
    Coherent parseUrl fromStr fromSlice sha256 caller { s with
      issued := s.issued ++ [((DirectPeer.requestAttrs s.state nowMs ad).2, s.epoch)] } where
  generation := h.generation
  made := by
    intro request epoch hmem
    obtain hold | hnew := List.mem_append.mp hmem
    · exact (h.made request epoch hold).mono (fun _ hx => List.mem_append_left _ hx) le_rfl
    · obtain ⟨rfl, rfl⟩ := Prod.mk.inj (List.mem_singleton.mp hnew)
      refine ⟨hmem, le_rfl, fun generation allowDirectory hscope => ?_⟩
      exact (scope_requestAttrs s.state nowMs ad hscope).trans h.generation
  working := h.working.mono rfl rfl (fun _ hx => List.mem_append_left _ hx) le_rfl
  reads := fun hactive =>
    (h.reads hactive).mono rfl rfl rfl rfl rfl (fun _ hx => List.mem_append_left _ hx) rfl

/-- An answer comes. -/
theorem Coherent.receive (hidle : s.reporter = .idle) (hmade : (request, epoch) ∈ s.issued)
    (body : List UInt8) (nowMs : ℤ) :
    Coherent parseUrl fromStr fromSlice sha256 caller
      (s.receive parseUrl fromStr fromSlice sha256 caller request epoch body nowMs) := by
  obtain heq | ⟨failure, heq⟩ | ⟨generation, d, hscope, hinspect, heq⟩ :=
    receive_cases parseUrl fromStr fromSlice sha256 caller (h.clean hidle) request epoch body nowMs
  · rw [heq]
    exact h
  · rw [heq]
    exact ⟨h.generation, h.made, ⟨h.clean hidle, h.made request epoch hmade⟩, h.reads⟩
  · rw [heq]
    refine ⟨h.generation, h.made, ?_, fun hactive => ?_⟩
    · refine ⟨?_, h.made request epoch hmade, hscope, body, nowMs, hinspect⟩
      dsimp only
      rw [withStaged, update_self]
    · refine (h.reads hactive).mono rfl ?_ rfl rfl rfl (fun _ hx => hx) rfl
      dsimp only
      rw [withStaged_directory]

theorem Coherent.staged (hstaged : s.reporter = .staged request epoch generation d) :
    s.files DirectPeer.staged = some d.bytes ∧ Made s request epoch
      ∧ request.scope = some (generation, true)
      ∧ Passed parseUrl fromStr fromSlice sha256 caller d := by
  have hworking := h.working
  unfold Working at hworking
  rw [hstaged] at hworking
  exact hworking

theorem Coherent.failing (hfailing : s.reporter = .failing request epoch failure) :
    s.files DirectPeer.staged = none ∧ Made s request epoch := by
  have hworking := h.working
  unfold Working at hworking
  rw [hfailing] at hworking
  exact hworking

/-- **In time, a generation stands for one child only.** -/
theorem Coherent.epoch_eq (hmade : Made s request epoch) (hin : s.epoch < epoch + 2 ^ 64)
    {allowDirectory : Bool} (hscope : request.scope = some (generation, allowDirectory))
    (hcurrent : s.state.current generation) : epoch = s.epoch := by
  have hsame : s.epoch % 2 ^ 64 = epoch % 2 ^ 64 := by
    rw [← h.generation, hcurrent.2, hmade.2.2 generation allowDirectory hscope]
  have hle := hmade.2.1
  omega

/-- The lock was taken. -/
theorem Coherent.conclude (hstaged : s.reporter = .staged request epoch generation d)
    (hin : s.epoch < epoch + 2 ^ 64) :
    Coherent parseUrl fromStr fromSlice sha256 caller (s.conclude request epoch generation d) := by
  obtain ⟨hfile, hmade, hscope, hpassed⟩ := h.staged hstaged
  by_cases hcounts : Counts s.state generation d
  · obtain rfl := h.epoch_eq hmade hin hscope hcounts.1
    rw [conclude_counts hfile hcounts]
    refine ⟨h.generation, h.made, ?_, fun _ => ⟨rfl, ?_, ?_, hpassed, rfl, rfl⟩⟩
    · show replaced (update s.files DirectPeer.staged none) d.bytes DirectPeer.staged = none
      rw [replaced_staged (update_self ..)]
    · obtain rfl := eq_direct_of_scope hscope
      show (DirectRequest.direct s.state.generation, s.epoch) ∈ s.issued
      rw [hcounts.1.2]
      exact hmade.1
    · dsimp only
      rw [replaced, update_self]
  · rw [conclude_stale hcounts]
    refine ⟨h.generation, h.made, ⟨?_, hmade⟩, fun hactive => ?_⟩
    · dsimp only
      rw [update_self]
    · refine (h.reads hactive).mono rfl ?_ rfl rfl rfl (fun _ hx => hx) rfl
      dsimp only
      rw [update_of_ne directory_ne_staged]

/-- A failure was noted. -/
theorem Coherent.fail (hfailing : s.reporter = .failing request epoch failure) :
    Coherent parseUrl fromStr fromSlice sha256 caller
      { s with state := s.state.setFailure request failure, reporter := .idle } := by
  obtain ⟨huntil, hlast⟩ := setFailure_times s.state request failure
  obtain ⟨hgeneration, hactive⟩ := setFailure_rest s.state request failure
  refine ⟨hgeneration.trans h.generation, h.made, (h.failing hfailing).1, fun hruns => ?_⟩
  exact (h.reads (hactive.symm.trans hruns)).mono rfl rfl hlast huntil hgeneration
    (fun _ hx => hx) rfl

end Keep

/-! ## Whole runs -/

variable (parseUrl fromStr fromSlice sha256 caller) in
/-- **What a step is**, with what it is taken for. -/
inductive Moves (s : Threads) : Action → Threads → Prop
  | beginChild : Moves s .beginChild { s with
      state := s.state.begun
      files := update (update s.files advertisement none) directory none
      epoch := s.epoch + 1
      source := none }
  | endChild : Moves s .endChild { s with
      state := s.state.ended
      files := update s.files advertisement none
      epoch := s.epoch + 1 }
  | requestAttrs (nowMs : ℤ) (ad : Except AdvertisementFailure (Option Advertisement)) :
      Moves s (.requestAttrs nowMs ad) { s with
        issued := s.issued ++ [((DirectPeer.requestAttrs s.state nowMs ad).2, s.epoch)] }
  | accept (i : ℕ) (body : List UInt8) (nowMs : ℤ) (request : DirectRequest) (epoch : ℕ)
      (hidle : s.reporter = .idle) (hissued : s.issued[i]? = some (request, epoch)) :
      Moves s (.accept i body nowMs)
        (s.receive parseUrl fromStr fromSlice sha256 caller request epoch body nowMs)
  | settle (request : DirectRequest) (epoch generation : ℕ) (d : Directory)
      (hstaged : s.reporter = .staged request epoch generation d) :
      Moves s .settle (s.conclude request epoch generation d)
  | fail (request : DirectRequest) (epoch : ℕ) (failure : DiscoveryFailure)
      (hfailing : s.reporter = .failing request epoch failure) :
      Moves s .fail { s with state := s.state.setFailure request failure, reporter := .idle }

section Step

variable {s t : Threads} {a : Action}

theorem moves_of_step (h : s.step parseUrl fromStr fromSlice sha256 caller a = some t) :
    Moves parseUrl fromStr fromSlice sha256 caller s a t := by
  cases a with
  | beginChild =>
    rw [step, run_beginChild_none] at h
    cases h
    exact .beginChild
  | endChild =>
    rw [step, run_endChild_none] at h
    cases h
    exact .endChild
  | requestAttrs nowMs ad =>
    rw [step] at h
    split at h
    · cases h
      exact .requestAttrs nowMs ad
    · cases h
  | accept i body nowMs =>
    rw [step] at h
    split at h
    next request epoch hidle hissued =>
      cases h
      exact .accept i body nowMs request epoch hidle hissued
    · cases h
  | settle =>
    rw [step] at h
    split at h
    next request epoch generation d hstaged =>
      cases h
      exact .settle request epoch generation d hstaged
    · cases h
  | fail =>
    rw [step] at h
    split at h
    next request epoch failure hfailing =>
      cases h
      exact .fail request epoch failure hfailing
    · cases h

variable {request : DirectRequest} {epoch generation : ℕ}

theorem handles_staged {d : Directory} (h : s.reporter = .staged request epoch generation d) :
    s.handles .settle = some (request, epoch) := by
  rw [handles, h]

theorem handles_failing {failure : DiscoveryFailure}
    (h : s.reporter = .failing request epoch failure) :
    s.handles .fail = some (request, epoch) := by
  rw [handles, h]

/-- What the workload reads and what is remembered of it. -/
structure SameRead (s t : Threads) : Prop where
  directory : t.files directory = s.files directory
  lastSuccess : t.state.lastSuccessAtMs = s.state.lastSuccessAtMs
  validUntil : t.state.validUntilMs = s.state.validUntilMs

/-- Nothing of a child changes: what is known about it, what it reads and what
it has said. -/
structure Untouched (s t : Threads) : Prop where
  state : t.state = s.state
  directory : t.files directory = s.files directory
  advertisement : t.files advertisement = s.files advertisement

theorem Untouched.sameRead (h : Untouched s t) : SameRead s t :=
  ⟨h.directory, by rw [h.state], by rw [h.state]⟩

/-- The coming of an answer changes nothing that is seen. -/
theorem untouched_receive (hclean : s.files staged = none) (request : DirectRequest) (epoch : ℕ)
    (body : List UInt8) (nowMs : ℤ) :
    Untouched s (s.receive parseUrl fromStr fromSlice sha256 caller request epoch body nowMs) := by
  obtain heq | ⟨failure, heq⟩ | ⟨generation, d, -, -, heq⟩ :=
    receive_cases parseUrl fromStr fromSlice sha256 caller hclean request epoch body nowMs
  · rw [heq]
    exact ⟨rfl, rfl, rfl⟩
  · rw [heq]
    exact ⟨rfl, rfl, rfl⟩
  · rw [heq]
    refine ⟨rfl, ?_, ?_⟩
    · dsimp only
      rw [withStaged, update_of_ne (by decide)]
    · dsimp only
      rw [withStaged, update_of_ne (by decide)]

theorem untouched_conclude {d : Directory} (hcounts : ¬ Counts s.state generation d) :
    Untouched s (s.conclude request epoch generation d) := by
  rw [conclude_stale hcounts]
  refine ⟨rfl, ?_, ?_⟩
  · dsimp only
    rw [update_of_ne (by decide)]
  · dsimp only
    rw [update_of_ne (by decide)]

/-- A failure of an old request is not noted. -/
theorem setFailure_of_not_current {s : DirectState} {failure : DiscoveryFailure}
    (h : ∀ generation allowDirectory, request.scope = some (generation, allowDirectory) →
      ¬ s.current generation) :
    s.setFailure request failure = s := by
  cases request with
  | none => rfl
  | direct generation => exact if_neg (h generation true rfl)
  | errorOnly generation => exact if_neg (h generation false rfl)

variable (h : Coherent parseUrl fromStr fromSlice sha256 caller s)
  (hmoves : Moves parseUrl fromStr fromSlice sha256 caller s a t)
include h hmoves

/-- **Every step keeps it.** -/
theorem Coherent.step (hin : s.InTime a) : Coherent parseUrl fromStr fromSlice sha256 caller t := by
  cases hmoves with
  | beginChild => exact h.beginChild
  | endChild => exact h.endChild
  | requestAttrs nowMs ad => exact h.requestAttrs nowMs ad
  | accept i body nowMs request epoch hidle hissued =>
    exact h.receive hidle (List.mem_of_getElem? hissued) body nowMs
  | settle request epoch generation d hstaged =>
    exact h.conclude hstaged (hin request epoch (handles_staged hstaged))
  | fail request epoch failure hfailing => exact h.fail hfailing

/-- While a child runs, what it reads stays or is replaced by something
newer. -/
theorem sameRead_or_newer (hepoch : t.epoch = s.epoch) :
    SameRead s t
      ∨ a = .settle ∧ s.state.lastSuccessAtMs < t.state.lastSuccessAtMs := by
  cases hmoves with
  | beginChild | endChild => exact absurd hepoch (Nat.succ_ne_self s.epoch)
  | requestAttrs nowMs ad => exact .inl ⟨rfl, rfl, rfl⟩
  | accept i body nowMs request epoch hidle hissued =>
    exact .inl (untouched_receive (h.clean hidle) request epoch body nowMs).sameRead
  | settle request epoch generation d hstaged =>
    by_cases hcounts : Counts s.state generation d
    · rw [conclude_counts (h.staged hstaged).1 hcounts]
      exact .inr ⟨rfl, hcounts.2⟩
    · exact .inl (untouched_conclude hcounts).sameRead
  | fail request epoch failure hfailing =>
    obtain ⟨huntil, hlast⟩ := setFailure_times s.state request failure
    exact .inl ⟨rfl, hlast, huntil⟩

/-- **An answer that comes late changes nothing.** -/
theorem untouched_of_late (hin : s.InTime a)
    (hhandles : s.handles a = some (request, epoch))
    (hlate : epoch ≠ s.epoch ∨ s.state.childActive = false) : Untouched s t := by
  -- in time, a request of another generation is not taken for one of this
  have hold : Made s request epoch → ∀ generation allowDirectory,
      request.scope = some (generation, allowDirectory) → ¬ s.state.current generation := by
    intro hmade generation allowDirectory hscope hcurrent
    obtain hne | hended := hlate
    · exact hne (h.epoch_eq hmade (hin request epoch hhandles) hscope hcurrent)
    · exact Bool.false_ne_true (hended.symm.trans hcurrent.1)
  cases hmoves with
  | beginChild | endChild | requestAttrs nowMs ad => cases hhandles
  | accept i body nowMs request' epoch' hidle hissued =>
    exact untouched_receive (h.clean hidle) request' epoch' body nowMs
  | settle request' epoch' generation d hstaged =>
    rw [handles_staged hstaged] at hhandles
    cases hhandles
    obtain ⟨-, hmade, hscope, -⟩ := h.staged hstaged
    exact untouched_conclude fun hcounts => hold hmade generation true hscope hcounts.1
  | fail request' epoch' failure hfailing =>
    rw [handles_failing hfailing] at hhandles
    cases hhandles
    exact ⟨setFailure_of_not_current (hold (h.failing hfailing).2), rfl, rfl⟩

/-- **An answer to a request without an advertisement brings no
directory.** -/
theorem sameRead_of_errorOnly (hhandles : s.handles a = some (.errorOnly generation, epoch)) :
    SameRead s t := by
  cases hmoves with
  | beginChild | endChild | requestAttrs nowMs ad => cases hhandles
  | accept i body nowMs request epoch' hidle hissued =>
    exact (untouched_receive (h.clean hidle) request epoch' body nowMs).sameRead
  | settle request epoch' generation' d hstaged =>
    rw [handles_staged hstaged] at hhandles
    cases hhandles
    exact absurd (eq_direct_of_scope (h.staged hstaged).2.2.1) nofun
  | fail request epoch' failure hfailing =>
    obtain ⟨huntil, hlast⟩ := setFailure_times s.state request failure
    exact ⟨rfl, hlast, huntil⟩

end Step

theorem coherent_of_reaches {s : Threads}
    (h : Reaches (step parseUrl fromStr fromSlice sha256 caller) InTime create s) :
    Coherent parseUrl fromStr fromSlice sha256 caller s :=
  h.invariant _ coherent_create fun _ _ _ hu hin hstep => hu.step (moves_of_step hstep) hin

end Threads

open Threads in
/-- **A child reads answers to its own questions.** Starts, ends, requests
and answers come in any order, answers as late as they like but before the
generations come round. Wherever this gets to, a child that runs reads
nothing or an answer that passed every check, to a request it made itself,
and the times that are remembered are those of the answer. And whatever is
done next: while the child runs, what it reads is replaced only by something
newer, an answer to an ended or older child changes nothing, and an answer to
a request without an advertisement brings no directory. -/
theorem directory_of_own_generation (parseUrl : String → Option ParsedUrl)
    (fromStr : String → Option Json) (fromSlice : List UInt8 → Option Json)
    (sha256 : List UInt8 → Digest) (caller : DirectPeer) (s : Threads)
    (h : Reaches (Threads.step parseUrl fromStr fromSlice sha256 caller) InTime Threads.create s) :
    (s.state.childActive = true → Reads parseUrl fromStr fromSlice sha256 caller s)
      ∧ ∀ a t, s.InTime a → s.step parseUrl fromStr fromSlice sha256 caller a = some t →
        (t.epoch = s.epoch → SameRead s t
          ∨ a = .settle ∧ s.state.lastSuccessAtMs < t.state.lastSuccessAtMs)
        ∧ (∀ request epoch, s.handles a = some (request, epoch) →
          epoch ≠ s.epoch ∨ s.state.childActive = false → Untouched s t)
        ∧ ∀ generation epoch, s.handles a = some (.errorOnly generation, epoch) →
          SameRead s t := by
  have hcoherent := coherent_of_reaches h
  refine ⟨hcoherent.reads, fun a t hin hstep => ?_⟩
  have hmoves := moves_of_step hstep
  refine ⟨sameRead_or_newer hcoherent hmoves, ?_, ?_⟩
  · exact fun request epoch hhandles hlate => untouched_of_late hcoherent hmoves hin hhandles hlate
  · exact fun generation epoch hhandles => sameRead_of_errorOnly hcoherent hmoves hhandles

end DirectPeer

/-! ## An answer that waits -/

namespace DirectSample

open DirectPeer

/-- What the workload says of itself. -/
def advertised : Advertisement := ⟨"web", 8443, true, "", none, none⟩

/-- One step, with answers that hold the directory without peers. -/
def step (s : Threads) (a : Threads.Action) : Option Threads :=
  s.step (fun _ => none) fromStr (fun _ => some (response 1000 2000)) sha256 peer a

/-- A child has asked, and then ended and started again some times. -/
def restarted (n : ℕ) : Threads :=
  ⟨⟨(2 * n + 1) % 2 ^ 64, true, 0, none, none⟩, fun _ => none, .idle, 2 * n + 1,
    [(.direct 1, 1)], none⟩

/-- The answer to its question comes. -/
def waiting (n : ℕ) : Threads := { restarted n with
  files := withStaged (restarted n).files (answered 1000 2000).bytes
  reporter := .staged (.direct 1) 1 1 (answered 1000 2000) }

theorem removed_none (name : String) :
    update (fun _ => none : Files) name none = fun _ => none :=
  update_eq_self name _

theorem reaches_restarted (n : ℕ) :
    Reaches step Threads.InTime Threads.create (restarted n) := by
  induction n with
  | zero =>
    let started : Threads := ⟨⟨1, true, 0, none, none⟩, fun _ => none, .idle, 1, [], none⟩
    have hbegin : step Threads.create .beginChild = some started := by
      rw [step, Threads.step, Threads.run_beginChild_none]
      show some (⟨_, update (update (fun _ => none) _ none) _ none, _, _, _, _⟩ :
        Threads) = _
      rw [removed_none, removed_none]
      rfl
    refine (Reaches.refl.tail .beginChild nofun hbegin).tail
      (.requestAttrs 0 (.ok (some advertised))) nofun ?_
    rfl
  | succ n ih =>
    let ended : Threads := { restarted n with
      state := (restarted n).state.ended, epoch := 2 * n + 2 }
    have hend : step (restarted n) .endChild = some ended := by
      rw [step, Threads.step, Threads.run_endChild_none]
      show some (⟨_, update (fun _ => none) _ none, _, _, _, _⟩ : Threads) = _
      rw [removed_none]
      rfl
    refine (ih.tail .endChild nofun hend).tail .beginChild nofun ?_
    have hgeneration : DirectState.nextGeneration
        (DirectState.nextGeneration ((2 * n + 1) % 2 ^ 64)) = (2 * (n + 1) + 1) % 2 ^ 64 := by
      unfold DirectState.nextGeneration
      omega
    rw [step, Threads.step, Threads.run_beginChild_none]
    show some (⟨⟨DirectState.nextGeneration (DirectState.nextGeneration ((2 * n + 1) % 2 ^ 64)),
      true, 0, none, none⟩,
      update (update (fun _ => none) _ none) _ none, _, _, _, _⟩ : Threads) = _
    rw [removed_none, removed_none, hgeneration]
    rfl

theorem step_accept (n : ℕ) :
    step (restarted n) (.accept 0 (body 1000 2000) 1000) = some (waiting n) := by
  show some (Threads.receive _ _ _ _ _ (restarted n) (.direct 1) 1 (body 1000 2000) 1000) = _
  rw [Threads.receive]
  dsimp only [DirectRequest.scope]
  rw [inspect_sample]
  dsimp only
  rw [run_stage_none (show (restarted n).files staged = none from rfl)]
  rfl

/-- The answer takes its place if the generation is the one it was asked
in. -/
theorem step_settle {n : ℕ} (h : (2 * n + 1) % 2 ^ 64 = 1) :
    step (waiting n) .settle = some { waiting n with
      state := accepted (restarted n).state (answered 1000 2000)
      files := replaced (update (waiting n).files staged none) (answered 1000 2000).bytes
      reporter := .idle
      source := some (answered 1000 2000, 1) } := by
  have hcounts : Counts (waiting n).state 1 (answered 1000 2000) := by
    refine ⟨⟨rfl, h⟩, ?_⟩
    show (0 : ℤ) < 1000
    decide
  have hfile : (waiting n).files staged = some (answered 1000 2000).bytes := by
    show withStaged (restarted n).files (answered 1000 2000).bytes staged = _
    rw [withStaged, update_self]
  show some (Threads.conclude (waiting n) (.direct 1) 1 1 (answered 1000 2000)) = _
  rw [Threads.conclude_counts hfile hcounts]
  rfl

end DirectSample

open DirectSample in
/-- The generations come round: a child reads an answer to a question that
another one asked. -/
theorem DirectPeer.old_answer_after_wrap :
    ∃ s, Reaches step (fun _ _ => True) Threads.create s ∧ s.state.childActive = true
      ∧ s.files directory = some (answered 1000 2000).bytes
      ∧ s.source = some (answered 1000 2000, 1) ∧ s.epoch = 2 ^ 64 + 1
      ∧ ∀ request, (request, s.epoch) ∉ s.issued := by
  have hrestarted : Reaches step (fun _ _ => True) Threads.create (restarted (2 ^ 63)) :=
    (reaches_restarted (2 ^ 63)).mono fun _ _ _ => trivial
  have hwaiting := hrestarted.tail _ trivial (step_accept (2 ^ 63))
  refine ⟨_, hwaiting.tail .settle trivial (step_settle (by decide)), rfl, ?_, rfl, rfl, ?_⟩
  · dsimp only
    rw [replaced, update_self]
  · intro request hmem
    have heq := List.mem_singleton.mp hmem
    exact absurd (Prod.mk.inj heq).2 (by decide)

open DirectSample in
/-- A child asks, and the answer comes while it runs. -/
theorem DirectPeer.own_answer_read :
    ∃ s, Reaches step Threads.InTime Threads.create s ∧ s.state.childActive = true
      ∧ s.source = some (answered 1000 2000, 1)
      ∧ Threads.Reads (fun _ => none) fromStr (fun _ => some (response 1000 2000)) sha256 peer s := by
  have hin : ∀ a, (waiting 0).InTime a := by
    intro a request epoch h
    exact Nat.lt_of_lt_of_le (show 1 < 2 ^ 64 by decide) (Nat.le_add_left ..)
  have hwaiting := (reaches_restarted 0).tail (.accept 0 (body 1000 2000) 1000)
    (fun request epoch h => Nat.lt_of_lt_of_le (show 1 < 2 ^ 64 by decide) (Nat.le_add_left ..))
    (step_accept 0)
  have hsettled := hwaiting.tail .settle (hin _) (step_settle (by decide))
  exact ⟨_, hsettled, rfl, rfl, (directory_of_own_generation _ _ _ _ _ _ hsettled).1 rfl⟩
