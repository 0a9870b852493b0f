import RuntimeCargo.AccessSetup

/-!
# The key that can be used once

`tailscale up` is given a key that is used up by the first login. A bring-up
that fails before it is repeated; one that fails after it should not be, for
a fresh daemon cannot log in again. Whether there is another attempt is
decided by the code of the error: `access_up_failed`, `access_status_invalid`
and `access_status_unexpected` are final.

These are not the only codes an attempt can fail with once `up` was started.
A thread that reads the output of a command may be refused
(`access_thread_spawn_failed`), the file of the key may not be removable
(`access_workspace_failed`), and the deadline of the setup may have passed
(`access_deadline_exceeded`). In every run in which none of this happens after
`up` was started, the attempt that started it is the last one, and its error
is the one that is returned (`up_started_once`). Where a thread is refused, a
second attempt starts `up` once more with the key that was used
(`refused_thread_starts_up_again`).
-/

open Program

open Setup (fail mapErr granted)

/-! ## Events -/

/-- A start of `up` that was granted. -/
def startsUp : AccessCall × AccessReply → Bool
  | (.spawnCommand _ (.up _ _ _ _ _), r) => r.ok
  | _ => false

/-- `up` was started. -/
def UpStarted (t : List (AccessCall × AccessReply)) : Prop := ∃ x ∈ t, startsUp x = true

/-- Nothing happens that would end an attempt under a code that is not final:
a thread starts, the file of the key is removed, the deadline of the setup has
not passed. -/
def keepsAttempt (deadline : ℕ) : AccessCall × AccessReply → Bool
  | (.spawnThread _, r) => r.ok
  | (.removeFile _, r) => r.ok
  | (.legNow, r) => decide (r.instant < deadline)
  | _ => true

/-- Nothing of the kind happens once `up` was started. -/
def KeptAfterUp (deadline : ℕ) (t : List (AccessCall × AccessReply)) : Prop :=
  ∀ u x v, t = u ++ x :: v → UpStarted u → keepsAttempt deadline x = true

section Events

variable {deadline : ℕ} {t u : List (AccessCall × AccessReply)} {x : AccessCall × AccessReply}

theorem upStarted_append : UpStarted (t ++ u) ↔ UpStarted t ∨ UpStarted u := by
  simp only [UpStarted, List.mem_append, or_and_right, exists_or]

theorem UpStarted.append (h : UpStarted t) : UpStarted (t ++ u) := upStarted_append.mpr (.inl h)

theorem KeptAfterUp.left (h : KeptAfterUp deadline (t ++ u)) : KeptAfterUp deadline t := by
  rintro a x b rfl hup
  exact h a x (b ++ u) (by rw [List.append_assoc]; rfl) hup

theorem upStarted_concat (h : startsUp x = false) : UpStarted (t ++ [x]) ↔ UpStarted t := by
  refine upStarted_append.trans (or_iff_left ?_)
  rintro ⟨y, hy, hstarts⟩
  obtain rfl := List.mem_singleton.mp hy
  exact Bool.false_ne_true (h.symm.trans hstarts)

/-- The last event is one of those that were kept to. -/
theorem KeptAfterUp.last (h : KeptAfterUp deadline (t ++ [x])) (hup : UpStarted t) :
    keepsAttempt deadline x = true :=
  h t x [] rfl hup

end Events

/-! ## Parts that do not start `up` -/

/-- A part of the setup that never starts `up`. -/
def UpFree {α : Type} (p : Setup α) : Prop := ∀ t r, Yields p.run t r → ¬ UpStarted t

/-- A part that stops only if it is not over. -/
def OnlyRunning {α : Type} (p : Setup α) : Prop :=
  ∀ t stop, Yields p.run t (.error stop) → stop = .running

section UpFree

variable {α β : Type}

theorem not_upStarted_nil : ¬ UpStarted [] := fun ⟨_, hx, _⟩ => absurd hx List.not_mem_nil

variable {t : List (AccessCall × AccessReply)} {p : Setup α}

theorem not_upStarted_append {u : List (AccessCall × AccessReply)} (ht : ¬ UpStarted t)
    (hu : ¬ UpStarted u) : ¬ UpStarted (t ++ u) :=
  fun h => (upStarted_append.mp h).elim ht hu

@[grind ←]
theorem upFree_pure (a : α) : UpFree (pure a) := by
  intro t r h
  obtain ⟨rfl, -⟩ := yields_pure.mp h
  exact not_upStarted_nil

@[grind ←]
theorem upFree_throw (stop : SetupStop) : UpFree (throw stop : Setup α) := by
  intro t r h
  obtain ⟨rfl, -⟩ := yields_pure.mp h
  exact not_upStarted_nil

@[grind ←]
theorem upFree_fail (code : AccessCode) : UpFree (fail code : Setup α) := upFree_throw _

@[grind ←]
theorem upFree_ensure (p : Prop) [Decidable p] (stop : SetupStop) : UpFree (ensure p stop) := by
  intro t r h
  obtain ⟨rfl, -⟩ := yields_pure.mp h
  exact not_upStarted_nil

@[grind ←]
theorem upFree_ask {c : AccessCall} (h : ∀ r, startsUp (c, r) = false) : UpFree (ask c) := by
  intro t r hyields
  obtain ⟨reply, u, rfl, hu⟩ := yields_perform_bind.mp hyields
  obtain ⟨rfl, -⟩ := yields_pure.mp hu
  rintro ⟨x, hx, hstarts⟩
  obtain rfl := List.mem_singleton.mp hx
  exact Bool.false_ne_true ((h reply).symm.trans hstarts)

@[grind ←]
theorem UpFree.bind {f : α → Setup β} (hp : UpFree p) (hf : ∀ a, UpFree (f a)) :
    UpFree (p >>= f) := by
  intro t r h
  obtain ⟨t₁, t₂, x, rfl, h₁, h₂⟩ := yields_bind.mp h
  refine not_upStarted_append (hp t₁ x h₁) ?_
  cases x with
  | ok a => exact hf a t₂ r h₂
  | error e =>
    obtain ⟨rfl, -⟩ := yields_pure.mp h₂
    exact not_upStarted_nil

@[grind ←]
theorem UpFree.settle {f : Except SetupStop α → Setup β} (hp : UpFree p) (hf : ∀ r, UpFree (f r)) :
    UpFree (Program.settle p f) := by
  intro t r h
  obtain ⟨t₁, t₂, x, rfl, h₁, h₂⟩ := yields_bind.mp h
  exact not_upStarted_append (hp t₁ x h₁) (hf x t₂ r h₂)

@[grind ←]
theorem UpFree.mapErr (hp : UpFree p) (f : AccessCode → AccessCode) :
    UpFree (Setup.mapErr f p) := by
  refine hp.settle fun r => ?_
  grind

@[grind ←]
theorem upFree_granted {c : AccessCall} (h : ∀ r, startsUp (c, r) = false) (code : AccessCode) :
    UpFree (granted c code) :=
  (upFree_ask h).bind fun _ => upFree_ensure _ _

/-- A pause does not start `up`. -/
theorem not_upStarted_pause {isFinal : AccessCode → Bool} {backoff made : ℕ} {stop : SetupStop}
    {b : Bool} (h : Yields (pauseUnlessFinal isFinal backoff made stop) t b) : ¬ UpStarted t := by
  unfold pauseUnlessFinal at h
  split at h
  · obtain ⟨rfl, -⟩ := yields_pure.mp h
    exact not_upStarted_nil
  · split at h
    · obtain ⟨rfl, -⟩ := yields_pure.mp h
      exact not_upStarted_nil
    · obtain ⟨reply, u, rfl, hu⟩ := yields_perform_bind.mp h
      obtain ⟨rfl, -⟩ := yields_pure.mp hu
      rintro ⟨x, hx, hstarts⟩
      obtain rfl := List.mem_singleton.mp hx
      exact Bool.false_ne_true hstarts

theorem UpFree.retried (hp : UpFree p) (attempts backoff : ℕ) (isFinal : AccessCode → Bool) :
    UpFree (retriedStageUntil attempts backoff isFinal p) := by
  intro t r h
  obtain ⟨tries, htries⟩ := yields_retry.mp h
  generalize max attempts 1 - 1 = left, 0 = made at htries
  clear h
  induction htries with
  | last h | good h => exact hp _ _ h
  | stop h hagain => exact not_upStarted_append (hp _ _ h) (not_upStarted_pause hagain)
  | more h hagain _ ih =>
    exact not_upStarted_append (hp _ _ h)
      (not_upStarted_append (not_upStarted_pause hagain) ih)

end UpFree

/-! ## Which parts do not

The rules above are the whole argument: each part is taken apart into its
calls, none of which is a start of `up`. -/

section Parts

attribute [local grind =] startsUp

@[local grind ←]
theorem upFree_subprocessDeadline (deadline budget : ℕ) :
    UpFree (subprocessDeadline deadline budget) := by
  unfold subprocessDeadline
  grind

@[local grind ←]
theorem upFree_awaitExit (deadline turns : ℕ) : UpFree (awaitExit deadline turns) := by
  induction turns with
  | zero => exact upFree_throw _
  | succ turns ih =>
    unfold awaitExit
    grind

@[local grind ←]
theorem upFree_drainReaders (deadline turns : ℕ) : UpFree (drainReaders deadline turns) := by
  induction turns with
  | zero => exact upFree_throw _
  | succ turns ih =>
    unfold drainReaders
    grind

@[local grind ←]
theorem upFree_spawnReader (name : String) : UpFree (spawnReader name) := by
  unfold spawnReader
  grind

variable (turns : ℕ)

/-- The status can be asked for without `up` being started. -/
@[local grind ←]
theorem upFree_runCommand (binary socket : String) (peers : Bool) (deadline : ℕ) :
    UpFree (runCommand turns binary (.status socket peers) deadline) := by
  refine (upFree_granted (fun _ => rfl) _).bind fun _ => (upFree_spawnReader _).bind fun _ => ?_
  grind

@[local grind ←]
theorem upFree_probe (binary socket : String) (deadline : ℕ) :
    UpFree (probe turns binary socket deadline) := by
  unfold probe
  grind

theorem upFree_awaitSocket (binary socket authPath : String) (deadline rounds : ℕ) :
    UpFree (awaitSocket turns binary socket authPath deadline rounds) := by
  induction rounds with
  | zero => exact upFree_throw _
  | succ rounds ih =>
    refine (upFree_ask fun _ => rfl).bind fun reply => ?_
    split <;> grind

theorem upFree_spawnDaemon (binary socket stateDir : String)
    (profile : Option RuntimeAccessLaunchProfile) (address : Option String) :
    UpFree (spawnDaemon binary socket stateDir profile address) := by
  unfold spawnDaemon
  grind

@[local grind ←]
theorem upFree_awaitDaemon (deadline turns : ℕ) : UpFree (awaitDaemon deadline turns) := by
  induction turns with
  | zero => exact upFree_throw _
  | succ turns ih =>
    unfold awaitDaemon
    grind

theorem upFree_stopDaemon : UpFree (stopDaemon turns) := by
  have hterminate : UpFree (terminateChild turns) := by
    refine (upFree_ask fun _ => rfl).bind fun reply => ?_
    split <;> grind
  unfold stopDaemon
  grind

theorem upFree_privateRoot (sha256 : List UInt8 → Digest) (attachmentId : String) :
    UpFree (privateRoot sha256 attachmentId) := by
  unfold privateRoot
  grind

theorem upFree_extractBinaries (archive : List UInt8) : UpFree (extractBinaries archive) := by
  unfold extractBinaries
  grind

theorem upFree_writeBinaries (root : String) (tailscale tailscaled authKey : List UInt8) :
    UpFree (writeBinaries root tailscale tailscaled authKey) := by
  unfold writeBinaries writeWorkspaceFile
  grind

theorem upFree_proxyAddress (hasPublications : Bool) : UpFree (proxyAddress hasPublications) := by
  unfold proxyAddress
  grind

theorem upFree_evidence (hasLogger : Bool) (binary socket : String) (deadline : ℕ) :
    UpFree (reportTunnelFailureEvidence turns hasLogger binary socket deadline) := by
  unfold reportTunnelFailureEvidence
  grind

/-- The evidence never fails. -/
theorem onlyRunning_evidence (hasLogger : Bool) (binary socket : String) (deadline : ℕ) :
    OnlyRunning (reportTunnelFailureEvidence turns hasLogger binary socket deadline) := by
  intro t stop h
  cases hasLogger with
  | false => cases (yields_pure.mp h).2
  | true =>
    obtain ⟨t₁, t₂, x, -, -, h₂⟩ := yields_bind.mp h
    match x with
    | .error .running => exact (Except.error.inj (yields_pure.mp h₂).2).symm
    | .error (.failed _) | .ok _ => exact absurd (yields_pure.mp h₂).2 nofun

/-- Stopping the daemon never fails. -/
theorem onlyRunning_stopDaemon : OnlyRunning (stopDaemon turns) := by
  have hjoin : ∀ {t : List (AccessCall × AccessReply)} {stop : SetupStop},
      ¬ Yields (do let _ ← ask .joinDaemonReader : Setup Unit).run t (.error stop) := by
    intro t stop h
    obtain ⟨t₁, t₂, x, -, h₁, h₂⟩ := yields_bind.mp h
    obtain ⟨reply, u, -, hu⟩ := yields_perform_bind.mp h₁
    obtain ⟨-, rfl⟩ := yields_pure.mp hu
    cases (yields_pure.mp h₂).2
  intro t stop h
  obtain ⟨t₁, t₂, x, -, -, h₂⟩ := yields_bind.mp h
  match x with
  | .error .running => exact (Except.error.inj (yields_pure.mp h₂).2).symm
  | .error (.failed _) | .ok () => exact absurd h₂ hjoin

end Parts

/-! ## After `up` was started -/

/-- A stop after which there is no other attempt. -/
def SetupStop.IsFinal : SetupStop → Prop
  | .running => True
  | .failed code => keyConsumed code = true

/-- A part is not over, or has failed with the general code, unless something
happened that ends an attempt under another one. -/
def FailsGenerally (deadline : ℕ) (stop : SetupStop) (t : List (AccessCall × AccessReply)) : Prop :=
  KeptAfterUp deadline t → stop = .running ∨ stop = .failed .setupFailed

/-- Once `up` was started, an attempt ends under a final code, unless
something happened that ends it under another one. -/
def FailsFinally (deadline : ℕ) (stop : SetupStop) (t : List (AccessCall × AccessReply)) : Prop :=
  KeptAfterUp deadline t → UpStarted t → stop.IsFinal

section After

variable (deadline : ℕ) {before : List (AccessCall × AccessReply)}

theorem ends_granted {c : AccessCall} {code : AccessCode}
    {Q : Unit → List (AccessCall × AccessReply) → Prop}
    {E : SetupStop → List (AccessCall × AccessReply) → Prop}
    (h : ∀ reply : AccessReply, reply.ok = true → Q () (before ++ [(c, reply)]))
    (herror : ∀ reply : AccessReply, ¬ reply.ok = true →
      E (.failed code) (before ++ [(c, reply)])) :
    Ends (granted c code) before Q E :=
  ends_ask fun reply => ends_ensure (h reply) (herror reply)

theorem ends_spawnReader (name : String) (hup : UpStarted before) :
    Ends (spawnReader name) before (fun _ => UpStarted)
      fun _ t => ¬ KeptAfterUp deadline t := by
  refine ends_ask fun started => ?_
  split_ifs with hok
  · exact ends_pure hup.append
  · refine ends_ask fun _ => ends_ask fun _ => ends_throw fun hkept => ?_
    exact hok (hkept.left.left.last hup)

theorem ends_awaitExit (limit turns : ℕ) (hup : UpStarted before) :
    Ends (awaitExit limit turns) before (fun _ => UpStarted) (FailsGenerally deadline) := by
  induction turns generalizing before with
  | zero => exact ends_throw fun _ => .inl rfl
  | succ turns ih =>
    refine ends_ask fun reply => ?_
    match reply.exit with
    | none => exact ends_throw fun _ => .inr rfl
    | some (some status) => exact ends_pure hup.append
    | some none =>
      refine ends_ask fun reading => ?_
      split_ifs with hover
      · exact ends_ask fun _ => ends_ask fun _ => ends_pure hup.append.append.append.append
      · exact ends_ask fun _ => ih hup.append.append.append

theorem ends_drainReaders (limit turns : ℕ) (hup : UpStarted before) :
    Ends (drainReaders limit turns) before (fun _ => UpStarted) (FailsGenerally deadline) := by
  induction turns generalizing before with
  | zero => exact ends_throw fun _ => .inl rfl
  | succ turns ih =>
    refine ends_ask fun finished => ?_
    split_ifs with hdone
    · exact ends_pure hup.append
    · refine ends_ask fun reading => ?_
      split_ifs with hover
      · exact ends_pure hup.append.append
      · exact ends_ask fun _ => ih hup.append.append.append

/-- **A command that is run when `up` was started**, or that starts it. -/
theorem ends_runCommand (turns : ℕ) (binary : String) (command : TailscaleCommand) (limit : ℕ)
    (hup : ∀ reply : AccessReply, reply.ok = true →
      UpStarted (before ++ [(.spawnCommand binary command, reply)])) :
    Ends (runCommand turns binary command limit) before (fun _ => UpStarted)
      (FailsGenerally deadline) := by
  refine Ends.bind (ends_granted (fun reply hok => ?_) fun _ _ _ => .inr rfl)
  replace hup := hup reply hok
  refine Ends.bind ((ends_spawnReader deadline _ hup).mono (fun _ t hup => ?_) fun _ _ h hkept =>
    absurd hkept h)
  refine Ends.bind ((ends_spawnReader deadline _ hup).mono (fun _ t hup => ?_) fun _ _ h hkept =>
    absurd hkept h)
  refine Ends.bind ((ends_awaitExit deadline limit turns hup).mono (fun _ t hup => ?_)
    fun _ _ h => h)
  refine ends_ask fun _ => ?_
  refine Ends.bind ((ends_drainReaders deadline _ turns hup.append).mono (fun _ t hup => ?_)
    fun _ _ h => h)
  exact ends_ask fun _ => ends_pure hup.append

variable {deadline}

theorem ends_subprocessDeadline (budget : ℕ) (hup : UpStarted before) :
    Ends (subprocessDeadline deadline budget) before (fun _ => UpStarted)
      fun _ t => ¬ KeptAfterUp deadline t := by
  refine ends_ask fun reading => Ends.bind (ends_ensure (fun _ => ends_pure hup.append) ?_)
  exact fun hpast hkept => hpast (of_decide_eq_true (hkept.last hup))

variable {α : Type} {t : List (AccessCall × AccessReply)}

/-- The codes of errors are changed, and nothing else. -/
theorem Ends.mapErr {Q : α → List (AccessCall × AccessReply) → Prop}
    {E : SetupStop → List (AccessCall × AccessReply) → Prop} {f : AccessCode → AccessCode}
    {p : Setup α}
    (h : Ends p before Q fun stop t => match stop with
      | .failed code => E (.failed (f code)) t
      | .running => E .running t) :
    Ends (Setup.mapErr f p) before Q E := by
  refine Ends.settle (h.mono (fun a t hQ => ends_pure hQ) fun _ _ hE => hE) fun stop t hE => ?_
  cases stop with
  | failed code | running => exact ends_throw hE

/-- What such a part does to the trace. -/
theorem UpFree.ends {p : Setup α} (h : UpFree p) :
    Ends p before (fun _ t => ∃ u, t = before ++ u ∧ ¬ UpStarted u)
      fun _ t => ∃ u, t = before ++ u ∧ ¬ UpStarted u := by
  intro t r hyields
  have hquiet := h t r hyields
  cases r with
  | ok a | error e => exact ⟨t, rfl, hquiet⟩

/-- What a part does that also does not fail. -/
theorem UpFree.ends_running {p : Setup α} (h : UpFree p) (hstop : OnlyRunning p) :
    Ends p before (fun _ t => ∃ u, t = before ++ u ∧ ¬ UpStarted u)
      fun stop _ => stop = .running := by
  intro t r hyields
  cases r with
  | ok a => exact ⟨t, rfl, h t _ hyields⟩
  | error stop => exact hstop t stop hyields

/-- Before `up` was started, such a part leaves it so. -/
theorem UpFree.ends_before {p : Setup α} (h : UpFree p) (hup : ¬ UpStarted before) :
    Ends p before (fun _ t => ¬ UpStarted t) fun _ t => ¬ UpStarted t := by
  refine h.ends.mono (fun _ t ht => ?_) fun _ t ht => ?_
  all_goals
    obtain ⟨u, rfl, hu⟩ := ht
    exact not_upStarted_append hup hu

theorem failsFinally_of_not_upStarted {stop : SetupStop} (h : ¬ UpStarted t) :
    FailsFinally deadline stop t :=
  fun _ hup => absurd hup h

/-- UpFree calls after a failure do not change whether it is final. -/
theorem FailsFinally.append {stop : SetupStop} {u : List (AccessCall × AccessReply)}
    (h : FailsFinally deadline stop t) (hu : ¬ UpStarted u) : FailsFinally deadline stop (t ++ u) :=
  fun hkept hup => h hkept.left ((upStarted_append.mp hup).resolve_right hu)

variable (turns : ℕ)

theorem ends_awaitRunning (readers : AccessReaders) (binary socket : String)
    (readyDeadline rounds : ℕ) (hup : UpStarted before) :
    Ends (awaitRunning turns readers binary socket deadline readyDeadline rounds) before
      (fun _ _ => True) (FailsFinally deadline) := by
  induction rounds generalizing before with
  | zero => exact ends_throw fun _ _ => trivial
  | succ rounds ih =>
    refine Ends.bind (Ends.mapErr ((ends_subprocessDeadline commandTimeout hup).mono
      (fun limit t hup => ?_) fun stop t hstop => ?_))
    · -- The deadline has not passed: the status is asked for.
      refine Ends.bind (Ends.mapErr ((ends_runCommand deadline turns binary _ limit
        fun _ _ => hup.append).mono (fun output t hup => ?_) fun stop t hstop => ?_))
      · dsimp only
        match readers.backendState (jsonObjectSlice output.stdout) with
        | none => exact ends_throw fun _ _ => rfl
        | some backendState =>
          dsimp only
          split_ifs with hrunning hstarting
          · match readers.status (jsonObjectSlice output.stdout) with
            | none => exact ends_throw fun _ _ => rfl
            | some status => exact ends_pure trivial
          · exact ends_throw fun _ _ => rfl
          · refine ends_ask fun reading => ?_
            split_ifs with hover
            · exact ends_throw fun _ _ => rfl
            · exact ends_ask fun _ => ih hup.append.append
      · cases stop with
        | running => exact fun _ _ => trivial
        | failed code =>
          intro hkept _
          obtain heq | heq := hstop hkept
          · cases heq
          · rw [SetupStop.failed.inj heq]
            rfl
    · cases stop with
      | running => exact fun _ _ => trivial
      | failed code => exact fun hkept _ => absurd hkept hstop

/-- **The leg that starts `up`.** If it fails after the start, it fails with
the leg's own code. -/
theorem ends_bringTunnelUp (hasLogger : Bool) (binary socket authPath hostname : String)
    (sshEnabled : Bool) (hup : ¬ UpStarted before) :
    Ends (bringTunnelUp turns hasLogger binary socket authPath hostname sshEnabled deadline) before
      (fun _ => UpStarted) (FailsFinally deadline) := by
  refine Ends.settle (F := fun stop t => UpStarted t → FailsGenerally deadline stop t)
    (Ends.bind (Ends.mapErr (((upFree_subprocessDeadline deadline tunnelUpTimeout).ends_before
      hup).mono (fun limit t hup => ?_) fun stop t hup => ?_))) fun stop t hstop => ?_
  · -- The command, which starts `up` if it starts.
    refine Ends.bind ((ends_runCommand deadline turns binary _ limit fun reply hok => ?_).mono
      (fun output t hup => ?_) fun stop t hstop _ => hstop)
    · exact upStarted_append.mpr (.inr ⟨_, List.mem_singleton_self _, hok⟩)
    · refine (ends_ensure (Q := fun _ => UpStarted) (fun _ => hup)
        fun _ _ _ => .inr rfl).mono (fun _ t hup => ?_) fun _ _ h => h
      refine ends_granted (fun _ _ => hup.append) fun reply hrefused hkept _ => ?_
      exact absurd (hkept.last hup) hrefused
  · cases stop with
    | running | failed code => exact fun hup' => absurd hup' hup
  · cases stop with
    | running => exact ends_throw fun _ _ => trivial
    | failed code =>
      refine Ends.bind (ends_granted (fun reply _ => ?_) fun reply hrefused hkept hup => ?_)
      · -- The evidence does not change what is returned.
        refine Ends.bind (((upFree_evidence turns hasLogger binary socket deadline).ends_running
          (onlyRunning_evidence turns hasLogger binary socket deadline)).mono
          (fun _ t' ht' => ends_throw ?_) fun stop _ hrunning => ?_)
        · obtain ⟨u, rfl, hu⟩ := ht'
          intro hkept hup
          have hbefore : UpStarted t :=
            (upStarted_concat rfl).mp ((upStarted_append.mp hup).resolve_right hu)
          obtain heq | heq := hstop hbefore hkept.left.left
          · cases heq
          · rw [SetupStop.failed.inj heq]
            rfl
        · rw [hrunning]
          exact fun _ _ => trivial
      · exact absurd (hkept.last ((upStarted_concat rfl).mp hup)) hrefused

/-- What follows the start of the daemon fails finally. -/
theorem ends_joinTailnet (readers : AccessReaders) (sha256 : List UInt8 → Digest)
    (hasLogger : Bool) (binding : AccessBinding) (access : TailscaleAccess) (root : String)
    (daemonDeadline : ℕ) (address : Option String) (hup : ¬ UpStarted before) :
    Ends (joinTailnet turns readers sha256 hasLogger binding access root deadline daemonDeadline
      address) before (fun _ _ => True) (FailsFinally deadline) := by
  refine Ends.bind (((upFree_awaitSocket turns _ _ _ daemonDeadline turns).ends_before hup).mono
    (fun _ t hup => ?_) fun _ _ => failsFinally_of_not_upStarted)
  refine Ends.bind ((ends_bringTunnelUp turns hasLogger _ _ _ _ access.sshEnabled hup).mono
    (fun _ t hup => ?_) fun _ _ h => h)
  refine Ends.bind (Ends.mapErr ((ends_subprocessDeadline statusReadyTimeout hup).mono
    (fun readyDeadline t hup => ?_) fun stop t hstop => ?_))
  · refine Ends.bind ((ends_awaitRunning turns readers _ _ readyDeadline turns hup).mono
      (fun status t _ => ?_) fun _ _ h => h)
    exact Ends.bind (ends_ensure (fun _ => ends_pure trivial) fun _ _ _ => rfl)
  · cases stop with
    | running => exact fun _ _ => trivial
    | failed code => exact fun hkept _ => absurd hkept hstop

/-- **One attempt**: once it has started `up`, it fails finally. -/
theorem ends_bringUp (readers : AccessReaders) (sha256 : List UInt8 → Digest)
    (hasLogger : Bool) (binding : AccessBinding) (access : TailscaleAccess)
    (archive : List UInt8) (authKey : String) :
    Ends (bringUp turns readers sha256 hasLogger binding access archive authKey deadline) []
      (fun _ _ => True) (FailsFinally deadline) := by
  have hfails : ∀ (stop : SetupStop) (t : List (AccessCall × AccessReply)), ¬ UpStarted t →
      FailsFinally deadline stop t := fun _ _ => failsFinally_of_not_upStarted
  refine Ends.bind ((((upFree_privateRoot sha256 access.attachmentId).mapErr _).ends_before
    not_upStarted_nil).mono (fun root t hup => ?_) hfails)
  refine Ends.settle (F := FailsFinally deadline) ?_ fun stop t hstop => ?_
  · refine Ends.bind ((((upFree_extractBinaries archive).retried _ _ _).mapErr _).ends_before
      hup |>.mono (fun binaries t hup => ?_) hfails)
    refine Ends.bind (((upFree_writeBinaries root _ _ _).ends_before hup).mono
      (fun _ t hup => ?_) hfails)
    refine Ends.bind ((((upFree_subprocessDeadline deadline _).mapErr _).ends_before hup).mono
      (fun daemonDeadline t hup => ?_) hfails)
    refine Ends.bind (((upFree_proxyAddress _).ends_before hup).mono (fun address t hup => ?_)
      hfails)
    refine Ends.bind (((upFree_spawnDaemon _ _ _ _ address).ends_before hup).mono
      (fun _ t hup => ?_) hfails)
    -- The daemon is stopped when the rest fails.
    refine Ends.settle ((ends_joinTailnet turns readers sha256 hasLogger binding access root
      daemonDeadline address hup).mono (fun _ _ _ => ends_pure (ends_pure trivial))
        fun _ _ h => h) fun stop t hstop => ?_
    cases stop with
    | running => exact ends_throw fun _ _ => trivial
    | failed code =>
      refine Ends.bind (((upFree_stopDaemon turns).ends_running
        (onlyRunning_stopDaemon turns)).mono (fun _ t' ht' => ?_) fun stop _ hrunning => ?_)
      · obtain ⟨u, rfl, hu⟩ := ht'
        exact ends_throw (hstop.append hu)
      · rw [hrunning]
        exact fun _ _ => trivial
  · cases stop with
    | running => exact ends_throw fun _ _ => trivial
    | failed code =>
      refine ends_ask fun reply => ends_throw (hstop.append fun hup => ?_)
      exact not_upStarted_nil ((upStarted_concat rfl).mp (show UpStarted ([] ++ [_]) from hup))

end After

/-! ## The attempts of a run -/

/-- The attempts of a setup: each with its calls and its outcome. -/
abbrev BringUps :=
  List (List (AccessCall × AccessReply) × Except SetupStop TailscaleAccessSession)

/-- What the setup makes of the outcome of its attempts. -/
def returned : Except SetupStop TailscaleAccessSession → Except SetupStop (Option AccessSession)
  | .ok session => .ok (some (.tailscale session))
  | .error stop => .error stop

section Setup

variable (turns : ℕ) (readers : AccessReaders) (sha256 : List UInt8 → Digest)
  (fromStr : String → Option Json) (hasLogger : Bool) (binding : AccessBinding)

/-- **A run that has come to its attempts**: it has fetched the archive and
found the key and the deadline, without starting `up`, and what it returns is
what its attempts return. -/
def HasTried (access : TailscaleAccess) (t : List (AccessCall × AccessReply))
    (r : Except SetupStop (Option AccessSession)) (deadline : ℕ) (tries : BringUps) : Prop :=
  ∃ archive authKey before during outcome, t = before ++ during ∧ ¬ UpStarted before
    ∧ Tried (bringUp turns readers sha256 hasLogger binding access archive authKey deadline).run
      (pauseUnlessFinal keyConsumed bringUpSettleBackoff) (bringUpAttempts - 1) 0 tries during
      outcome
    ∧ r = returned outcome

/-- **The key is used once**: the attempt that starts `up` is the last one, and
what it ends with is returned. -/
def UpOnce (tries : BringUps) (r : Except SetupStop (Option AccessSession)) : Prop :=
  ∀ earlier x later, tries = earlier ++ x :: later → UpStarted x.1 → later = [] ∧ r = returned x.2

/-- There is another attempt only after an error that is not final. -/
theorem not_isFinal_of_pause {backoff made : ℕ} {stop : SetupStop}
    {t : List (AccessCall × AccessReply)}
    (h : Yields (pauseUnlessFinal keyConsumed backoff made stop) t true) : ¬ stop.IsFinal := by
  cases stop with
  | running => exact absurd (yields_pure.mp h).2 Bool.false_ne_true
  | failed code =>
    intro (hfinal : keyConsumed code = true)
    rw [pauseUnlessFinal, if_pos hfinal] at h
    exact absurd (yields_pure.mp h).2 Bool.false_ne_true

/-- The attempts are made in order, and each of them that starts `up` is the
last one. -/
theorem upOnce_of_tried {attempt : Setup TailscaleAccessSession} {backoff left made deadline : ℕ}
    {tries : BringUps} {t : List (AccessCall × AccessReply)}
    {outcome : Except SetupStop TailscaleAccessSession}
    (hattempt : Ends attempt [] (fun _ _ => True) (FailsFinally deadline))
    (h : Tried attempt.run (pauseUnlessFinal keyConsumed backoff) left made tries t outcome)
    (hkept : ∀ x ∈ tries, KeptAfterUp deadline x.1) : UpOnce tries (returned outcome) := by
  have hone : ∀ (x : List (AccessCall × AccessReply) × Except SetupStop TailscaleAccessSession),
      UpOnce [x] (returned x.2) := by
    rintro x earlier y later heq -
    obtain ⟨-, hx⟩ | ⟨rest, -, hnil⟩ := List.append_eq_cons_iff.mp heq.symm
    · cases hx
      exact ⟨rfl, rfl⟩
    · exact absurd hnil.symm (by simp)
  induction h with
  | last _ | good _ | stop _ _ => exact hone _
  | more h hagain _ ih =>
    rintro earlier x later heq hup
    obtain ⟨-, hx⟩ | ⟨rest, rfl, hrest⟩ := List.append_eq_cons_iff.mp heq.symm
    · -- The first attempt has started `up`, and so has failed finally.
      cases hx
      have hfinal := hattempt _ _ h (hkept _ List.mem_cons_self) hup
      exact absurd hfinal (not_isFinal_of_pause hagain)
    · exact ih (fun y hy => hkept y (List.mem_cons_of_mem _ hy)) rest x later hrest hup

theorem upFree_validateTailscaleBinding (access : TailscaleAccess)
    (credential : TailscaleCredential) :
    UpFree (validateTailscaleBinding fromStr binding access credential) := by
  unfold validateTailscaleBinding
  grind [startsUp]

theorem upFree_setupDeadline (deadlineMs : ℕ) : UpFree (setupDeadline deadlineMs) := by
  unfold setupDeadline
  grind [startsUp]

theorem upFree_downloadArtifact (artifact : RuntimeAccessArtifact) (deadline : ℕ) :
    UpFree (downloadArtifact sha256 artifact deadline) := by
  unfold downloadArtifact remainingTimeout
  grind [startsUp]

/-- A part that does not start `up` comes first: it ends all, or the rest
follows it. -/
theorem yields_upFree_bind {α β : Type} {p : Setup α} {f : α → Setup β} (hp : UpFree p)
    {t : List (AccessCall × AccessReply)} {r : Except SetupStop β}
    (h : Yields (p >>= f).run t r) :
    ¬ UpStarted t
      ∨ ∃ a t₁ t₂, t = t₁ ++ t₂ ∧ ¬ UpStarted t₁ ∧ Yields (f a).run t₂ r := by
  obtain ⟨t₁, t₂, x, rfl, h₁, h₂⟩ := yields_bind.mp h
  cases x with
  | ok a => exact .inr ⟨a, t₁, t₂, rfl, hp _ _ h₁, h₂⟩
  | error e =>
    obtain ⟨rfl, -⟩ := yields_pure.mp h₂
    rw [List.append_nil]
    exact .inl (hp _ _ h₁)

/-- A setup by Tailscale that starts `up` has come to its attempts. -/
theorem setupTailscale_tries (access : TailscaleAccess) (credential : TailscaleCredential)
    {t : List (AccessCall × AccessReply)} {outcome : Except SetupStop TailscaleAccessSession}
    (h : Yields (setupTailscale turns readers sha256 fromStr hasLogger binding access
      credential).run t outcome) :
    ¬ UpStarted t ∨ ∃ deadline tries, HasTried turns readers sha256 hasLogger binding access t
      (returned outcome) deadline tries := by
  obtain hnone | ⟨authKey, t₁, u₁, rfl, h₁, h⟩ := yields_upFree_bind
    ((upFree_validateTailscaleBinding fromStr binding access credential).mapErr _) h
  · exact .inl hnone
  obtain hnone | ⟨deadline, t₂, u₂, rfl, h₂, h⟩ :=
    yields_upFree_bind ((upFree_setupDeadline _).mapErr _) h
  · exact .inl (not_upStarted_append h₁ hnone)
  obtain hnone | ⟨archive, t₃, u₃, rfl, h₃, h⟩ :=
    yields_upFree_bind (((upFree_downloadArtifact sha256 _ deadline).mapErr _).retried _ _ _) h
  · exact .inl (not_upStarted_append h₁ (not_upStarted_append h₂ hnone))
  obtain ⟨tries, htried⟩ := yields_retry.mp h
  refine .inr ⟨deadline, tries, archive, authKey, t₁ ++ (t₂ ++ t₃), u₃, outcome, ?_, ?_, htried,
    rfl⟩
  · rw [List.append_assoc, List.append_assoc]
  · exact not_upStarted_append h₁ (not_upStarted_append h₂ h₃)

/-- A setup that starts `up` is one by Tailscale and has come to its attempts. -/
theorem setup_tries (access : Option RuntimeAccess) (rawCredential : Option String)
    {t : List (AccessCall × AccessReply)} {r : Except SetupStop (Option AccessSession)}
    (h : Yields (setupRuntimeAccess turns readers sha256 fromStr hasLogger binding access
      rawCredential).run t r) :
    ¬ UpStarted t ∨ ∃ tailscale deadline tries, access = some (.tailscale tailscale)
      ∧ HasTried turns readers sha256 hasLogger binding tailscale t r deadline tries := by
  have hpure : ∀ {p : Setup (Option AccessSession)}, UpFree p → Yields p.run t r →
      ¬ UpStarted t := fun hp hyields => hp t r hyields
  match access, rawCredential with
  | none, none => exact .inl (hpure (upFree_pure _) h)
  | none, some _ | some _, none => exact .inl (hpure (upFree_throw _) h)
  | some access, some raw =>
    replace h : Yields (setupWithCredential turns readers sha256 fromStr hasLogger binding access
      (readers.credential raw)).run t r := h
    generalize readers.credential raw = credential at h
    match access, credential with
    | .tailscale access, none | .tailscale access, some .managed | .managed, none
    | .managed, some (.tailscale _) =>
      exact .inl (hpure (upFree_throw _) h)
    | .managed, some .managed =>
      refine .inl (hpure ((upFree_ask fun _ => rfl).bind fun reply => ?_) h)
      match reply.error with
      | some code => exact upFree_throw _
      | none => exact upFree_pure _
    | .tailscale access, some (.tailscale credential) =>
      obtain ⟨t₁, t₂, outcome, rfl, h₁, h₂⟩ := yields_bind.mp h
      -- What follows the attempts makes no calls.
      have hend : t₂ = [] ∧ r = returned outcome := by
        cases outcome with
        | ok session | error stop => exact ⟨(yields_pure.mp h₂).1, (yields_pure.mp h₂).2.symm⟩
      obtain ⟨rfl, rfl⟩ := hend
      rw [List.append_nil]
      obtain hnone | ⟨deadline, tries, htried⟩ :=
        setupTailscale_tries turns readers sha256 fromStr hasLogger binding access credential h₁
      · exact .inl hnone
      · exact .inr ⟨access, deadline, tries, rfl, htried⟩

/-- **The key is used once**, in every run of the setup in which, after a start
of `up`, the threads that read its output start, the file of the key is
removed and the deadline of the setup does not pass: the attempt that started
`up` is the last one, and its own error is returned. -/
theorem up_started_once (access : Option RuntimeAccess) (rawCredential : Option String)
    (t : List (AccessCall × AccessReply)) (r : Except SetupStop (Option AccessSession))
    (h : Yields (setupRuntimeAccess turns readers sha256 fromStr hasLogger binding access
      rawCredential).run t r) :
    (UpStarted t → ∃ tailscale deadline tries, access = some (.tailscale tailscale)
        ∧ HasTried turns readers sha256 hasLogger binding tailscale t r deadline tries)
      ∧ ∀ tailscale deadline tries, access = some (.tailscale tailscale) →
        HasTried turns readers sha256 hasLogger binding tailscale t r deadline tries →
        (∀ x ∈ tries, KeptAfterUp deadline x.1) → UpOnce tries r := by
  constructor
  · intro hup
    obtain hnone | htried :=
      setup_tries turns readers sha256 fromStr hasLogger binding access rawCredential h
    · exact absurd hup hnone
    · exact htried
  · rintro tailscale deadline tries - ⟨archive, authKey, _, _, outcome, -, -, htries, rfl⟩ hkept
    exact upOnce_of_tried (ends_bringUp turns readers sha256 hasLogger binding tailscale archive
      authKey) htries hkept

end Setup

/-! ## A setup -/

namespace AccessSample

def digest : List UInt8 → Digest := fun _ => Vector.replicate 32 0

def binding : AccessBinding := ⟨"a", "d", "j", "p"⟩

def access : TailscaleAccess :=
  ⟨"t", "n", 10, 1, none, ⟨"u", hexDigest digest [], 0, "1"⟩, false, false⟩

def credential : TailscaleCredential :=
  ⟨runtimeSshCredentialSchema, "o", "i", "t", "a", "d", "j", "p", 10, "k"⟩

def readers : AccessReaders := ⟨fun _ => some (.tailscale credential), fun _ => none, fun _ => none⟩

/-- The setup, without a logger. -/
def setup : Setup (Option AccessSession) :=
  setupRuntimeAccess 1 readers digest (fun _ => none) false binding (some (.tailscale access))
    (some "")

/-- One attempt of it. -/
def attempt : Setup TailscaleAccessSession :=
  bringUp 1 readers digest false binding access [] "k" 10

/-- The binding is checked, the deadline is set, and the archive arrives. -/
def fetched : List AccessReply :=
  [.unixTime (some 0), .unixTime (some 0), .time 0, .time 0, .fetched (some (none, some []))]

/-- The daemon is there, and `up` starts. -/
def started : List AccessReply :=
  [.random (some [0, 0]), .flag true, .flag true, .extracted (.ok ([], [])), .flag true, .flag true,
    .flag true, .flag true, .time 0, .spawned none, .flag true, .waited (some none), .time 0,
    .flag true, .flag true, .flag true, .waited (some (some ⟨true, none⟩)), .time 0, .flag true,
    .output (utf8 "\"BackendState\"") false, .time 0, .flag true]

/-- The daemon is gone and the tree is removed. -/
def cleaned : List AccessReply := [.waited (some (some ⟨true, none⟩)), .flag true, .flag true]

/-- The thread that should read what `up` writes is refused. -/
def refused : List AccessReply :=
  started ++ [.flag false, .flag true, .flag true, .flag true] ++ cleaned

/-- `up` fails. -/
def rejected : List AccessReply :=
  started ++ [.flag true, .flag true, .waited (some (some ⟨false, none⟩)), .time 0, .flag true,
    .output [] false, .flag true] ++ cleaned

/-- The part before the attempts. -/
theorem yields_fetched : ∃ t, ¬ UpStarted t ∧ ∀ u stop,
    Yields (retriedStageUntil bringUpAttempts bringUpSettleBackoff keyConsumed attempt).run u
      (.error stop) → Yields setup.run (t ++ u) (.error stop) := by
  obtain ⟨t₁, h₁⟩ : ∃ t, Yields (mapErr (stageError .bindingInvalid) (validateTailscaleBinding
      (fun _ => none) binding access credential)).run t (.ok "k") :=
    ⟨_, @yields_of_feed _ _ _ _ _ (fetched.take 1) _ rfl⟩
  obtain ⟨t₂, h₂⟩ : ∃ t, Yields (mapErr (stageError .deadlineExceeded) (setupDeadline 10)).run t
      (.ok 10) := ⟨_, @yields_of_feed _ _ _ _ _ ((fetched.drop 1).take 2) _ rfl⟩
  obtain ⟨t₃, h₃⟩ : ∃ t, Yields (retriedStage providerFetchAttempts providerFetchBackoff (mapErr
      (stageError .downloadFailed) (downloadArtifact digest access.artifact 10))).run t (.ok []) :=
    ⟨_, @yields_of_feed _ _ _ _ _ (fetched.drop 3) _ rfl⟩
  refine ⟨t₁ ++ (t₂ ++ t₃), ?_, fun u stop hu => ?_⟩
  · exact not_upStarted_append ((upFree_validateTailscaleBinding _ _ _ _).mapErr _ _ _ h₁)
      (not_upStarted_append ((upFree_setupDeadline _).mapErr _ _ _ h₂)
        (((upFree_downloadArtifact _ _ _).mapErr _).retried _ _ _ _ _ h₃))
  · rw [List.append_assoc, List.append_assoc]
    refine yields_bind.mpr ⟨_, [], .error stop, (List.append_nil _).symm, ?_, .done _⟩
    exact yields_bind.mpr ⟨t₁, _, .ok "k", rfl, h₁, yields_bind.mpr ⟨t₂, _, .ok 10, rfl, h₂,
      yields_bind.mpr ⟨t₃, _, .ok [], rfl, h₃, hu⟩⟩⟩

/-- The events after a start of `up`, checked one by one. -/
def keptCheck (deadline : ℕ) : Bool → List (AccessCall × AccessReply) → Bool
  | _, [] => true
  | started, x :: t =>
    (!started || keepsAttempt deadline x) && keptCheck deadline (started || startsUp x) t

theorem keepsAttempt_of_check {deadline : ℕ} {started : Bool}
    {t u v : List (AccessCall × AccessReply)} {x : AccessCall × AccessReply}
    (h : keptCheck deadline started t = true) (heq : t = u ++ x :: v)
    (hup : started = true ∨ UpStarted u) : keepsAttempt deadline x = true := by
  induction u generalizing t started with
  | nil =>
    obtain rfl := hup.resolve_right not_upStarted_nil
    rw [heq] at h
    exact (Bool.and_eq_true_iff.mp h).1
  | cons y u ih =>
    rw [heq] at h
    refine ih (Bool.and_eq_true_iff.mp h).2 rfl ?_
    obtain rfl | ⟨z, hz, hstarts⟩ := hup
    · exact .inl rfl
    · obtain rfl | hz := List.mem_cons.mp hz
      · exact .inl (by rw [hstarts, Bool.or_true])
      · exact .inr ⟨z, hz, hstarts⟩

/-- An attempt in which `up` fails. -/
theorem yields_rejected : ∃ t, Yields attempt.run t (.error (.failed .upFailed)) ∧ UpStarted t
    ∧ KeptAfterUp 10 t :=
  ⟨_, @yields_of_feed _ _ _ _ _ rejected _ rfl, List.any_eq_true.mp rfl,
    fun _ _ _ heq hup => keepsAttempt_of_check (show keptCheck 10 false _ = true from rfl) heq
      (.inr hup)⟩

end AccessSample

open AccessSample in
theorem up_rejected_once : ∃ t tries,
    HasTried 1 readers digest false binding access t (.error (.failed .upFailed)) 10 tries
      ∧ UpStarted t ∧ (∀ x ∈ tries, KeptAfterUp 10 x.1)
      ∧ UpOnce tries (.error (.failed .upFailed)) := by
  obtain ⟨t₀, hquiet, hsetup⟩ := yields_fetched
  obtain ⟨t, hrun, hup, hkept⟩ := yields_rejected
  have htried : Tried attempt.run (pauseUnlessFinal keyConsumed bringUpSettleBackoff)
      (bringUpAttempts - 1) 0 [(t, .error (.failed .upFailed))] (t ++ [])
      (.error (.failed .upFailed)) := .stop hrun (.done false)
  have hhas : HasTried 1 readers digest false binding access (t₀ ++ (t ++ []))
      (.error (.failed .upFailed)) 10 [(t, .error (.failed .upFailed))] :=
    ⟨[], "k", t₀, t ++ [], _, rfl, hquiet, htried, rfl⟩
  have hall : ∀ x ∈ [(t, (.error (.failed .upFailed) :
      Except SetupStop TailscaleAccessSession))], KeptAfterUp 10 x.1 :=
    List.forall_mem_singleton.mpr hkept
  refine ⟨_, _, hhas, upStarted_append.mpr (.inr hup.append), hall, ?_⟩
  exact (up_started_once 1 readers digest (fun _ => none) false binding (some (.tailscale access))
    (some "") _ _ (hsetup _ _ (yields_retry.mpr ⟨_, htried⟩))).2 access 10 _ rfl hhas hall

open AccessSample in
/-- **A thread that is refused starts `up` again.** The first attempt starts
`up`, fails since no thread can be had for its output, and is repeated. The
second one starts `up` with the same key, which is rejected, and its error
hides the first one. -/
theorem refused_thread_starts_up_again : ∃ before first pause second,
    Yields setup.run (before ++ (first ++ (pause ++ second))) (.error (.failed .upFailed))
      ∧ Yields attempt.run first (.error (.failed .threadSpawnFailed)) ∧ UpStarted first
      ∧ Yields attempt.run second (.error (.failed .upFailed)) ∧ UpStarted second := by
  obtain ⟨before, -, hsetup⟩ := yields_fetched
  obtain ⟨first, hfirst, hup₁⟩ : ∃ t, Yields attempt.run t (.error (.failed .threadSpawnFailed))
      ∧ UpStarted t :=
    ⟨_, @yields_of_feed _ _ _ _ _ refused _ rfl, List.any_eq_true.mp rfl⟩
  obtain ⟨second, hsecond, hup₂, -⟩ := yields_rejected
  -- The code is not final, so there is a pause and another attempt.
  have hpause : Yields (pauseUnlessFinal keyConsumed bringUpSettleBackoff 0
      (.failed .threadSpawnFailed)) [(.sleep bringUpSettleBackoff, .flag true)] true :=
    .call (.done true)
  have hagain : Tried attempt.run (pauseUnlessFinal keyConsumed bringUpSettleBackoff) 1 1
      [(second, .error (.failed .upFailed))] (second ++ []) (.error (.failed .upFailed)) :=
    .stop hsecond (.done false)
  have htried := Tried.more hfirst hpause hagain
  rw [List.append_nil] at htried
  exact ⟨before, first, _, second, hsetup _ _ (yields_retry.mpr ⟨_, htried⟩), hfirst, hup₁,
    hsecond, hup₂⟩
