import RuntimeCargo.Discovery

/-!
# What is published

Whatever the server says, and wherever the file system fails, the file that
the workload reads is complete: it is not there, or it is the text of one
snapshot that was checked and is about this workload
(`published_is_complete`). It is replaced at once and only by a snapshot that
was not observed earlier. A response that is not accepted changes nothing
that is seen, and it leaves nothing behind that would be in the way of the
next one: no file stands under the name of the new file between two
responses, because of two calls of one response only one fails.
-/

open Folder

open Program (Holds Dies perform)
open Function

namespace DiscoveryFile

variable {parseUrl : String → Option ParsedUrl} {fromSlice : List UInt8 → Option Json}
  {identity : DiscoveryIdentity}

/-! ## One response -/

theorem temp_ne_target : temp ≠ target := by decide

/-- While something else than the file is changed, the file stays. -/
theorem failing_target {c : FolderCall} (h : ∀ bytes, c ≠ .writeAll target bytes) (taken : ℕ)
    (files : Files) : failing c taken files target = files target := by
  cases c with
  | writeAll name bytes =>
    have hname : target ≠ name := fun heq => h bytes (by rw [heq])
    exact update_of_ne hname _ _
  | _ => rfl

section Publish

variable {files : Files} {fault : Option FolderFault} {bytes : List UInt8} {P : Prop}

/-- What is seen of a response: the old file, or the new one if the response
is accepted. -/
def Seen (files : Files) (bytes : List UInt8) (P : Prop) (w : Folder) : Prop :=
  w.files target = files target ∨ (w.files target = some bytes ∧ P)

/-- What a response leaves. -/
def Left (files : Files) (bytes : List UInt8) (published : Bool) (w : Folder) : Prop :=
  w.files temp = none
    ∧ w.files target = if published then some bytes else files target

/-- What is done after a write that did not succeed. -/
theorem holds_discard {files' : Files} (htarget : files' target = files target) :
    Holds step torn (fun _ _ => True) (Seen files bytes P) (Left files bytes)
      discard ⟨files', none⟩ := by
  have hseen : Seen files bytes P ⟨files', none⟩ := .inl htarget
  have htorn : ∀ w', torn (.exists temp) ⟨files', none⟩ w' → Seen files bytes P w' := by
    rintro w' ⟨taken, hw'⟩
    exact .inl (by rw [hw']; exact htarget)
  refine ⟨hseen, fun _ => ⟨htorn, ?_⟩⟩
  cases hthere : files' temp with
  | none =>
    have hstep : step (.exists temp) ⟨files', none⟩ = (false, ⟨files', none⟩) := by
      rw [step_none, effect, hthere]
      rfl
    rw [hstep]
    exact ⟨hseen, hthere, htarget⟩
  | some content =>
    have hstep : step (.exists temp) ⟨files', none⟩ = (true, ⟨files', none⟩) := by
      rw [step_none, effect, hthere]
      rfl
    rw [hstep]
    have hgone : update files' temp none target = files target :=
      (update_of_ne temp_ne_target.symm _ _).trans htarget
    refine ⟨hseen, fun _ => ⟨?_, ?_⟩⟩
    · rintro w' ⟨taken, hw'⟩
      exact .inl (by rw [hw']; exact htarget)
    · have htemp : update files' temp none temp = none := update_self ..
      exact ⟨.inl hgone, htemp, hgone⟩

/-- If every call succeeds the response is accepted. -/
theorem run_publish {w w₁ w₂ w₃ w₄ : Folder}
    (h₁ : step (.createNew temp) w = (true, w₁))
    (h₂ : step (.writeAll temp bytes) w₁ = (true, w₂))
    (h₃ : step (.syncAll temp) w₂ = (true, w₃))
    (h₄ : step (.rename temp target) w₃ = (true, w₄)) :
    (publish bytes).run step w = (true, w₄) := by
  simp only [publish, write, Program.run_bind, Program.run_perform, h₁, h₂, h₃, h₄,
    Bool.not_true, Bool.false_eq_true, if_false, if_true]
  rfl

/-- **A call on the way to the new file**: if it fails, what there is of the
new file is removed. -/
theorem holds_onward {c : FolderCall} {now later : Files} {next : Bool → Program FolderCall Bool Bool}
    (hc : ∀ content, c ≠ .writeAll target content) (hkept : now target = files target)
    (heffect : effect c now = (true, later)) (hfailed : next false = discard)
    (hnext : ∀ fault', step c ⟨now, fault⟩ = (true, ⟨later, fault'⟩) →
      Holds step torn (fun _ _ => True) (Seen files bytes P) (Left files bytes)
        (next true) ⟨later, fault'⟩) :
    Holds step torn (fun _ _ => True) (Seen files bytes P) (Left files bytes)
      (perform c >>= next) ⟨now, fault⟩ := by
  refine ⟨.inl hkept, fun _ => ⟨?_, ?_⟩⟩
  · rintro w' ⟨taken, hw'⟩
    exact .inl (by rw [hw', failing_target hc]; exact hkept)
  · obtain ⟨taken, hstep, -⟩ | ⟨fault', hstep, -⟩ := step_cases c ⟨now, fault⟩
    · rw [hstep]
      show Holds _ _ _ _ _ (next false) _
      rw [hfailed]
      exact holds_discard ((failing_target hc taken now).trans hkept)
    · rw [heffect] at hstep
      rw [hstep]
      exact hnext fault' hstep

/-- **A response**: the file is replaced at once or not at all, and nothing
is left of the new file. -/
theorem holds_publish (htemp : files temp = none) :
    Holds step torn (fun _ _ => True)
      (Seen files bytes (((publish bytes).run step ⟨files, fault⟩).1 = true))
      (Left files bytes) (publish bytes) ⟨files, fault⟩ := by
  have hother : ∀ content, update files temp content target = files target :=
    fun content => update_of_ne temp_ne_target.symm _ _
  have hcreated : effect (.createNew temp) files
      = (true, update files temp (some [])) := by
    rw [effect, htemp]
  have hwritten : effect (.writeAll temp bytes) (update files temp (some []))
      = (true, update files temp (some bytes)) := by
    rw [effect, update_self, update_idem]
    rfl
  have hrenamed : effect (.rename temp target) (update files temp (some bytes))
      = (true, update (update files temp none) target (some bytes)) := by
    rw [effect, update_self]
    dsimp only
    rw [update_idem]
  -- during each call but the last the file is the old one
  refine holds_onward (c := .createNew temp) nofun rfl hcreated rfl fun fault₁ h₁ => ?_
  refine holds_onward (c := .writeAll temp bytes)
    (fun _ heq => temp_ne_target (FolderCall.writeAll.inj heq).1) (hother _) hwritten rfl
    fun fault₂ h₂ => ?_
  refine holds_onward (c := .syncAll temp) nofun (hother _) rfl rfl fun fault₃ h₃ => ?_
  refine holds_onward (c := .rename temp target) nofun (hother _) hrenamed rfl fun fault₄ h₄ => ?_
  -- the new file has taken the place of the old one
  have hnew : update (update files temp none) target (some bytes) target
      = some bytes := update_self ..
  have hgone : update (update files temp none) target (some bytes) temp
      = none := by
    rw [update_of_ne temp_ne_target, update_self]
  exact ⟨.inr ⟨hnew, by rw [run_publish h₁ h₂ h₃ h₄]⟩, hgone, hnew⟩

end Publish

/-! ## All responses -/

/-- **The text of a snapshot that was checked**, is about this workload and
was observed at some time. -/
def Complete (parseUrl : String → Option ParsedUrl) (identity : DiscoveryIdentity)
    (content : List UInt8) (observed : ℤ) : Prop :=
  ∃ snapshot, content = serialize snapshot ∧ validateSnapshot parseUrl snapshot = .ok ()
    ∧ Names identity snapshot ∧ (snapshot.get "observedAtMs").asI64 = some observed

/-- What holds between two responses: the file is not there, or it is
complete and what is remembered is the time it was observed at; and there is
no new file. -/
structure Sound (parseUrl : String → Option ParsedUrl) (identity : DiscoveryIdentity)
    (s : DiscoveryFile) : Prop where
  file : s.files target = none ∧ s.lastSuccess = 0
    ∨ ∃ content, s.files target = some content ∧ Complete parseUrl identity content s.lastSuccess
  noTemp : s.files temp = none

/-- What is seen at some moment of a response. -/
def Moment (parseUrl : String → Option ParsedUrl) (fromSlice : List UInt8 → Option Json)
    (identity : DiscoveryIdentity) (s : DiscoveryFile) (r : Response) (files : Files) : Prop :=
  files = s.files ∨ ∃ snapshot observed w,
    check parseUrl fromSlice identity s.lastSuccess r.body = .ok (snapshot, observed)
      ∧ Dies step torn (fun _ _ => True) (publish (serialize snapshot))
        ⟨s.files, r.fault⟩ w ∧ w.files = files

/-- What is known of a snapshot that passes the first part. -/
theorem check_eq_ok {lastSuccess observed : ℤ} {body : List UInt8} {snapshot : Json}
    (h : check parseUrl fromSlice identity lastSuccess body = .ok (snapshot, observed)) :
    Complete parseUrl identity (serialize snapshot) observed ∧ lastSuccess ≤ observed := by
  obtain ⟨-, h₁⟩ := require_bind_eq_ok.mp h
  obtain ⟨response, -, h₂⟩ := Option.okOr_bind_eq_ok.mp h₁
  obtain ⟨-, h₃⟩ := require_bind_eq_ok.mp h₂
  obtain ⟨u, hvalid, h₄⟩ := Except.bind_eq_ok.mp h₃
  obtain ⟨hnames, h₅⟩ := require_bind_eq_ok.mp h₄
  obtain ⟨time, htime, h₆⟩ := Option.okOr_bind_eq_ok.mp h₅
  obtain ⟨hle, h₇⟩ := require_bind_eq_ok.mp h₆
  obtain ⟨-, h₈⟩ := require_bind_eq_ok.mp h₇
  obtain ⟨rfl, rfl⟩ := Prod.mk.inj (Except.ok.inj h₈)
  have hok : validateSnapshot parseUrl (response.get "discovery") = .ok () := by
    cases hv : validateSnapshot parseUrl (response.get "discovery") with
    | error e => rw [hv] at hvalid; cases hvalid
    | ok u => rfl
  exact ⟨⟨_, rfl, hok, hnames, htime⟩, hle⟩

section Response

variable {s : DiscoveryFile} {r : Response}

/-- A response that is accepted, step by step. -/
theorem acceptResponse_of_ok {snapshot : Json} {observed : ℤ}
    (h : check parseUrl fromSlice identity s.lastSuccess r.body = .ok (snapshot, observed)) :
    s.acceptResponse parseUrl fromSlice identity r
      = (if ((publish (serialize snapshot)).run step ⟨s.files, r.fault⟩).1
          then (.ok (), ⟨observed, false,
            ((publish (serialize snapshot)).run step ⟨s.files, r.fault⟩).2.files⟩)
          else (.error (), ⟨s.lastSuccess, true,
            ((publish (serialize snapshot)).run step ⟨s.files, r.fault⟩).2.files⟩)) := by
  rw [acceptResponse, h]

/-- What the second part leaves, from a folder without a new file. -/
theorem left_publish {files : Files} (fault : Option FolderFault) (bytes : List UInt8)
    (htemp : files temp = none) :
    Left files bytes ((publish bytes).run step ⟨files, fault⟩).1
      ((publish bytes).run step ⟨files, fault⟩).2 :=
  (holds_publish htemp).run (Program.keeps_of_forall (fun _ _ => trivial) _ _)

/-- **A response keeps the file complete**, whether it is accepted or not. -/
theorem sound_acceptResponse (h : Sound parseUrl identity s) :
    Sound parseUrl identity (s.acceptResponse parseUrl fromSlice identity r).2 := by
  cases hcheck : check parseUrl fromSlice identity s.lastSuccess r.body with
  | error e =>
    rw [acceptResponse, hcheck]
    exact ⟨h.file, h.noTemp⟩
  | ok x =>
    obtain ⟨snapshot, observed⟩ := x
    rw [acceptResponse_of_ok hcheck]
    obtain ⟨htemp, htarget⟩ := left_publish r.fault (serialize snapshot) h.noTemp
    split
    next hpublished =>
      rw [hpublished] at htarget
      exact ⟨.inr ⟨_, htarget, (check_eq_ok hcheck).1⟩, htemp⟩
    next hnot =>
      rw [Bool.eq_false_of_not_eq_true hnot] at htarget
      refine ⟨?_, htemp⟩
      dsimp only
      rw [htarget]
      exact h.file

/-- **A response that is not accepted changes nothing that is seen.** -/
theorem unchanged_of_error (h : Sound parseUrl identity s)
    (herror : (s.acceptResponse parseUrl fromSlice identity r).1 = .error ()) :
    (s.acceptResponse parseUrl fromSlice identity r).2.files target = s.files target
      ∧ (s.acceptResponse parseUrl fromSlice identity r).2.lastSuccess = s.lastSuccess := by
  cases hcheck : check parseUrl fromSlice identity s.lastSuccess r.body with
  | error e =>
    rw [acceptResponse, hcheck]
    exact ⟨rfl, rfl⟩
  | ok x =>
    obtain ⟨snapshot, observed⟩ := x
    obtain ⟨-, htarget⟩ := left_publish r.fault (serialize snapshot) h.noTemp
    rw [acceptResponse_of_ok hcheck] at herror ⊢
    split at herror
    · cases herror
    next hnot =>
      rw [if_neg hnot]
      rw [Bool.eq_false_of_not_eq_true hnot] at htarget
      exact ⟨htarget, rfl⟩

/-- What is remembered never goes back. -/
theorem lastSuccess_le :
    s.lastSuccess ≤ (s.acceptResponse parseUrl fromSlice identity r).2.lastSuccess := by
  cases hcheck : check parseUrl fromSlice identity s.lastSuccess r.body with
  | error e =>
    rw [acceptResponse, hcheck]
  | ok x =>
    obtain ⟨snapshot, observed⟩ := x
    rw [acceptResponse_of_ok hcheck]
    split
    · exact (check_eq_ok hcheck).2
    · exact le_rfl

/-- At each moment of a response the file is the one before it or the one
after it. -/
theorem seen_of_moment (h : Sound parseUrl identity s) {files : Files}
    (hmoment : Moment parseUrl fromSlice identity s r files) :
    files target = s.files target
      ∨ files target = (s.acceptResponse parseUrl fromSlice identity r).2.files target := by
  obtain rfl | ⟨snapshot, observed, w, hcheck, hdies, rfl⟩ := hmoment
  · exact .inl rfl
  · rw [acceptResponse_of_ok hcheck]
    obtain ⟨-, htarget⟩ := left_publish r.fault (serialize snapshot) h.noTemp
    obtain hold | ⟨hnew, hpublished⟩ := (holds_publish h.noTemp).dies hdies
    · exact .inl hold
    · rw [if_pos hpublished]
      rw [hpublished] at htarget
      exact .inr (hnew.trans htarget.symm)

/-- Without a failure a response that passes the first part is accepted. -/
theorem accepted_of_check (h : Sound parseUrl identity s) {snapshot : Json} {observed : ℤ}
    (hcheck : check parseUrl fromSlice identity s.lastSuccess r.body = .ok (snapshot, observed))
    (hfault : r.fault = none) : (s.acceptResponse parseUrl fromSlice identity r).1 = .ok () := by
  have hcreate : step (.createNew temp) ⟨s.files, none⟩
      = (true, ⟨update s.files temp (some []), none⟩) := by
    rw [step_none, effect, h.noTemp]
  have hrename : step (.rename temp target)
      ⟨update s.files temp (some (serialize snapshot)), none⟩
      = (true, ⟨update (update s.files temp none) target
        (some (serialize snapshot)), none⟩) := by
    rw [step_none, effect, update_self]
    dsimp only
    rw [update_idem]
  have hwrite : step (.writeAll temp (serialize snapshot))
      ⟨update s.files temp (some []), none⟩
      = (true, ⟨update s.files temp (some (serialize snapshot)), none⟩) := by
    rw [step_none, effect, update_self, update_idem]
    rfl
  rw [acceptResponse_of_ok hcheck, hfault, run_publish hcreate hwrite rfl hrename]
  rfl

end Response

theorem sound_acceptAll (rs : List Response) :
    Sound parseUrl identity (acceptAll parseUrl fromSlice identity rs) := by
  have hstep : ∀ (rs : List Response) (s : DiscoveryFile), Sound parseUrl identity s →
      Sound parseUrl identity
        (rs.foldl (fun s r => (s.acceptResponse parseUrl fromSlice identity r).2) s) := by
    intro rs
    induction rs with
    | nil => exact fun s h => h
    | cons r rest ih => exact fun s h => ih _ (sound_acceptResponse h)
  exact hstep rs create ⟨.inl ⟨rfl, rfl⟩, rfl⟩

/-- **What is published is complete**, after any responses and at each moment
of the next one. The file is not there or it is the text of one snapshot
that was checked and is about this workload; at a moment of a response it is
what it was before or what it is afterwards, and the time it was observed at
never goes back. A response that is not accepted changes neither the file
nor that time, and one that can be accepted is, unless a call fails. -/
theorem published_is_complete (parseUrl : String → Option ParsedUrl)
    (fromSlice : List UInt8 → Option Json) (identity : DiscoveryIdentity) (rs : List Response)
    (r : Response) :
    let s := acceptAll parseUrl fromSlice identity rs
    let next := s.acceptResponse parseUrl fromSlice identity r
    (s.files target = none ∨ ∃ content, s.files target = some content
        ∧ Complete parseUrl identity content s.lastSuccess)
      ∧ (∀ files, Moment parseUrl fromSlice identity s r files →
        files target = s.files target ∨ files target = next.2.files target)
      ∧ s.lastSuccess ≤ next.2.lastSuccess
      ∧ (next.1 = .error () →
        next.2.files target = s.files target ∧ next.2.lastSuccess = s.lastSuccess)
      ∧ (r.fault = none → ∀ accepted,
        check parseUrl fromSlice identity s.lastSuccess r.body = .ok accepted → next.1 = .ok ()) := by
  intro s next
  have hsound : Sound parseUrl identity s := sound_acceptAll rs
  refine ⟨hsound.file.imp And.left id, fun files hfiles => seen_of_moment hsound hfiles,
    lastSuccess_le, unchanged_of_error hsound, fun hfault accepted hcheck => ?_⟩
  exact accepted_of_check hsound hcheck hfault

end DiscoveryFile
