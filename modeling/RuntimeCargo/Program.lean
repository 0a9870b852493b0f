import Mathlib

/-!
# Programs that call the system

A program is a tree of the calls it makes, with one branch for every reply:
what it does next depends on what it is told. The world in which it runs
is given by what a call does to a state and what it replies. The same
program can then be run to its end (`Program.run`), or be interrupted:
`Program.Dies` are the states in which the world is left when the process
is gone at some point – before a call, after it, or in the middle of one
that leaves its work half done.

What a program does is stated with an invariant for the states on the way
and a postcondition for its end, under a condition on the calls it makes
(`Program.Holds`). The rules follow the program: one for each way to put
programs together. A statement proved with them speaks about complete
runs (`Program.Holds.run`) and about interrupted ones
(`Program.Holds.dies`).
-/

/-- A program that makes calls `C`, is given replies `R` and returns a
value. -/
inductive Program (C R α : Type) where
  | done (a : α)
  | call (c : C) (next : R → Program C R α)

namespace Program

variable {C R α β : Type}

/-- One program after another. -/
def andThen : Program C R α → (α → Program C R β) → Program C R β
  | done a, f => f a
  | call c next, f => call c fun r => (next r).andThen f

instance : Monad (Program C R) where
  pure := done
  bind := andThen

/-- A call, and its reply. -/
def perform (c : C) : Program C R R := call c done

/-- A step that is made only if it is asked for. -/
def onlyIf {m : Type → Type} [Pure m] (c : Bool) (x : m Unit) : m Unit :=
  if c then x else pure ()

/-- The calls of a program are made by other programs, which share a
state. -/
def simulate {S C' R' : Type} (handle : C → S → Program C' R' (R × S)) :
    Program C R α → S → Program C' R' (α × S)
  | done a, s => done (a, s)
  | call c next, s => (handle c s).andThen fun x => simulate handle (next x.1) x.2

/-! ## Running a program -/

section Run

variable {W : Type} (step : C → W → R × W)

/-- The value a program returns, and the state it leaves. -/
def run : Program C R α → W → α × W
  | done a, w => (a, w)
  | call c next, w => run (next (step c w).1) (step c w).2

variable {step} in
/-- One program after another: the second one runs where the first one has
ended. -/
theorem run_bind (p : Program C R α) (f : α → Program C R β) (w : W) :
    (p >>= f).run step w = (f (p.run step w).1).run step (p.run step w).2 := by
  induction p generalizing w with
  | done a => rfl
  | call c next ih => exact ih _ _

variable {step} in
theorem run_perform (c : C) (w : W) : (perform c).run step w = step c w := rfl

/-- Every call of the run is one that is allowed in the state in which it
is made. -/
def Keeps (ok : W → C → Prop) : Program C R α → W → Prop
  | done _, _ => True
  | call c next, w => ok w c ∧ Keeps ok (next (step c w).1) (step c w).2

variable {step} in
/-- A condition that every call meets. -/
theorem keeps_of_forall {ok : W → C → Prop} (h : ∀ w c, ok w c) (p : Program C R α) (w : W) :
    Keeps step ok p w := by
  induction p generalizing w with
  | done a => trivial
  | call c next ih => exact ⟨h w c, ih _ _⟩

/-- Whether every call of the run meets a condition. -/
def keepsAll (check : W → C → Bool) : Program C R α → W → Bool
  | done _, _ => true
  | call c next, w => check w c && keepsAll check (next (step c w).1) (step c w).2

variable {step} in
theorem keeps_of_keepsAll {ok : W → C → Prop} (check : W → C → Bool)
    (hcheck : ∀ w c, check w c = true → ok w c) {p : Program C R α} {w : W}
    (h : keepsAll step check p w = true) : Keeps step ok p w := by
  induction p generalizing w with
  | done a => trivial
  | call c next ih =>
    obtain ⟨hc, hnext⟩ := Bool.and_eq_true_iff.mp h
    exact ⟨hcheck w c hc, ih _ hnext⟩

variable (torn : C → W → W → Prop) (ok : W → C → Prop)

/-- **The states an interrupted run leaves**: the process is gone before
it goes on, or inside a call, which may be half done. -/
inductive Dies : Program C R α → W → W → Prop
  | here {p : Program C R α} {w : W} : Dies p w w
  | inside {c : C} {next : R → Program C R α} {w w' : W} (hok : ok w c) (htorn : torn c w w') :
      Dies (call c next) w w'
  | later {c : C} {next : R → Program C R α} {w w' : W} (hok : ok w c)
      (h : Dies (next (step c w).1) (step c w).2 w') : Dies (call c next) w w'

/-- The state after some calls. -/
def after : ℕ → Program C R α → W → W
  | 0, _, w => w
  | _ + 1, done _, w => w
  | n + 1, call c next, w => after n (next (step c w).1) (step c w).2

/-- Whether the first calls meet a condition. -/
def keepsFor (check : W → C → Bool) : ℕ → Program C R α → W → Bool
  | 0, _, _ => true
  | _ + 1, done _, _ => true
  | n + 1, call c next, w => check w c && keepsFor check n (next (step c w).1) (step c w).2

variable {step torn ok} in
/-- A run may be interrupted after any number of calls. -/
theorem dies_after (check : W → C → Bool) (hcheck : ∀ w c, check w c = true → ok w c) {n : ℕ}
    {p : Program C R α} {w : W} (h : keepsFor step check n p w = true) :
    Dies step torn ok p w (after step n p w) := by
  induction n generalizing p w with
  | zero => exact .here
  | succ n ih =>
    cases p with
    | done a => exact .here
    | call c next =>
      rw [keepsFor, Bool.and_eq_true] at h
      exact .later (hcheck w c h.1) (ih h.2)

/-- **What a program does**: on every run whose calls are allowed the
invariant holds in each state on the way, also when a call is interrupted,
and the postcondition at the end. -/
def Holds (I : W → Prop) (Q : α → W → Prop) : Program C R α → W → Prop
  | done a, w => I w ∧ Q a w
  | call c next, w => I w ∧ (ok w c →
      (∀ w', torn c w w' → I w') ∧ Holds I Q (next (step c w).1) (step c w).2)

end Run

section Rules

variable {W : Type} {step : C → W → R × W} {torn : C → W → W → Prop} {ok : W → C → Prop}
  {I : W → Prop} {w : W}

variable {p : Program C R α} {Q : α → W → Prop}

/-- **Complete runs end with the postcondition.** -/
theorem Holds.run (h : Holds step torn ok I Q p w) (hkeeps : Keeps step ok p w) :
    Q (run step p w).1 (run step p w).2 := by
  induction p generalizing w with
  | done a => exact h.2
  | call c next ih => exact ih _ (h.2 hkeeps.1).2 hkeeps.2

/-- **Interrupted runs end with the invariant.** -/
theorem Holds.dies {w' : W} (h : Holds step torn ok I Q p w) (hdies : Dies step torn ok p w w') :
    I w' := by
  induction hdies with
  | @here p w =>
    cases p with
    | done a | call c next => exact h.1
  | inside hok htorn => exact (h.2 hok).1 _ htorn
  | later hok _ ih => exact ih (h.2 hok).2

/-- A weaker postcondition. -/
theorem Holds.mono {Q' : α → W → Prop} (h : Holds step torn ok I Q p w)
    (hQ : ∀ a w, I w → Q a w → Q' a w) : Holds step torn ok I Q' p w := by
  induction p generalizing w with
  | done a => exact ⟨h.1, hQ a w h.1 h.2⟩
  | call c next ih => exact ⟨h.1, fun hok => ⟨(h.2 hok).1, ih _ (h.2 hok).2⟩⟩

/-- A weaker invariant. -/
theorem Holds.weaken {I' : W → Prop} (h : Holds step torn ok I Q p w) (hI : ∀ w, I w → I' w) :
    Holds step torn ok I' Q p w := by
  induction p generalizing w with
  | done a => exact ⟨hI w h.1, h.2⟩
  | call c next ih =>
    exact ⟨hI w h.1, fun hok => ⟨fun w' hw' => hI w' ((h.2 hok).1 w' hw'), ih _ (h.2 hok).2⟩⟩

/-- **One program after another**: the second starts where the first
ends. -/
theorem Holds.bind {Q : β → W → Prop} {f : α → Program C R β}
    (h : Holds step torn ok I (fun a w => Holds step torn ok I Q (f a) w) p w) :
    Holds step torn ok I Q (p >>= f) w := by
  induction p generalizing w with
  | done a => exact h.2
  | call c next ih => exact ⟨h.1, fun hok => ⟨(h.2 hok).1, ih _ (h.2 hok).2⟩⟩

/-- One program after another, where the first may fail. -/
theorem Holds.bindExcept {ε : Type} {Q : Except ε β → W → Prop}
    {x : ExceptT ε (Program C R) α} {f : α → ExceptT ε (Program C R) β}
    (h : Holds step torn ok I (fun r w => match r with
      | .ok a => Holds step torn ok I Q (f a) w
      | .error e => Q (.error e) w) x w) :
    Holds step torn ok I Q (x >>= f : ExceptT ε (Program C R) β) w := by
  refine Holds.bind (Holds.mono h fun r w hI hr => ?_)
  cases r with
  | ok a => exact hr
  | error e => exact ⟨hI, hr⟩

/-- **Calls made by other programs**: what each of them keeps, the whole
keeps. -/
theorem Holds.simulate {S C' R' : Type} {handle : C' → S → Program C R (R' × S)}
    {K : S → W → Prop}
    (hhandle : ∀ c s w, I w → K s w →
      Holds step torn ok I (fun x w => K x.2 w) (handle c s) w)
    {p : Program C' R' α} {s : S} (hI : I w) (hK : K s w) :
    Holds step torn ok I (fun x w => K x.2 w) (p.simulate handle s) w := by
  induction p generalizing s w with
  | done a => exact ⟨hI, hK⟩
  | call c next ih => exact Holds.bind (Holds.mono (hhandle c s w hI hK) fun x w hI hK => ih x.1 hI hK)

/-- A step that may be left out. -/
theorem Holds.onlyIf {ε : Type} {Q : Except ε Unit → W → Prop} {c : Bool}
    {x : ExceptT ε (Program C R) Unit} (htrue : c = true → Holds step torn ok I Q x w)
    (hfalse : c = false → I w ∧ Q (.ok ()) w) :
    Holds step torn ok I Q (onlyIf c x : ExceptT ε (Program C R) Unit) w := by
  cases c with
  | true => exact htrue rfl
  | false => exact hfalse rfl

/-- A call. -/
theorem Holds.perform {Q : R → W → Prop} {c : C} (hI : I w)
    (h : ok w c → (∀ w', torn c w w' → I w') ∧ I (step c w).2 ∧ Q (step c w).1 (step c w).2) :
    Holds step torn ok I Q (perform c) w :=
  ⟨hI, fun hok => ⟨(h hok).1, (h hok).2⟩⟩

end Rules

end Program
