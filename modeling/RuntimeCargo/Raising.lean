import RuntimeCargo.Check
import RuntimeCargo.Retry

/-!
# Programs that fail

A program that may fail returns a value or an error, and what follows is
made only if there was no error. What is said about such a program has two
parts, one for the value and one for the error, and the part about the error
is the same for a program and for what follows it: a step that fails ends
all. `Program.Ends` says so about the calls of a run, `Program.Spends` about
its calls and its times. Each has one rule for each way to put such programs
together.
-/

namespace Program

variable {C R ε α β : Type}

/-- A call of a program that may fail. -/
def ask (c : C) : ExceptT ε (Program C R) R := ExceptT.mk (perform c >>= fun r => pure (.ok r))

/-- What follows is made only if something holds. -/
def ensure (p : Prop) [Decidable p] (e : ε) : ExceptT ε (Program C R) Unit :=
  ExceptT.mk (pure (require p e))

/-- What follows a value and what follows an error. -/
def settle (p : ExceptT ε (Program C R) α) (f : Except ε α → ExceptT ε (Program C R) β) :
    ExceptT ε (Program C R) β :=
  ExceptT.mk (p.run >>= fun r => (f r).run)

section Ends

/-- **What a program that may fail returns**, or fails with, and the calls at
its end. -/
def Ends (p : ExceptT ε (Program C R) α) (before : List (C × R)) (Q : α → List (C × R) → Prop)
    (E : ε → List (C × R) → Prop) : Prop :=
  ∀ t r, Yields p.run t r → match r with
    | .ok a => Q a (before ++ t)
    | .error e => E e (before ++ t)

variable {before : List (C × R)} {Q : α → List (C × R) → Prop} {E : ε → List (C × R) → Prop}

theorem ends_pure {a : α} (h : Q a before) :
    Ends (pure a : ExceptT ε (Program C R) α) before Q E := by
  intro t r hyields
  obtain ⟨rfl, rfl⟩ := yields_pure.mp hyields
  rw [List.append_nil]
  exact h

theorem ends_throw {e : ε} (h : E e before) :
    Ends (throw e : ExceptT ε (Program C R) α) before Q E := by
  intro t r hyields
  obtain ⟨rfl, rfl⟩ := yields_pure.mp hyields
  rw [List.append_nil]
  exact h

variable {p : ExceptT ε (Program C R) α}

theorem Ends.bind {Q : β → List (C × R) → Prop} {f : α → ExceptT ε (Program C R) β}
    (h : Ends p before (fun a t => Ends (f a) t Q E) E) :
    Ends (p >>= f) before Q E := by
  intro t r hyields
  obtain ⟨t₁, t₂, x, rfl, h₁, h₂⟩ := yields_bind.mp hyields
  cases x with
  | ok a =>
    have hnext := h t₁ _ h₁ t₂ r h₂
    rw [List.append_assoc] at hnext
    exact hnext
  | error e =>
    obtain ⟨rfl, rfl⟩ := yields_pure.mp h₂
    rw [List.append_nil]
    exact h t₁ _ h₁

theorem Ends.settle {Q : β → List (C × R) → Prop} {F : ε → List (C × R) → Prop}
    {f : Except ε α → ExceptT ε (Program C R) β}
    (h : Ends p before (fun a t => Ends (f (.ok a)) t Q E) F)
    (herror : ∀ e t, F e t → Ends (f (.error e)) t Q E) : Ends (Program.settle p f) before Q E := by
  intro t r hyields
  obtain ⟨t₁, t₂, x, rfl, h₁, h₂⟩ := yields_bind.mp hyields
  cases x with
  | ok a =>
    have hnext := h t₁ _ h₁ t₂ r h₂
    rw [List.append_assoc] at hnext
    exact hnext
  | error e =>
    have hnext := herror e _ (h t₁ _ h₁) t₂ r h₂
    rw [List.append_assoc] at hnext
    exact hnext

theorem ends_ask {c : C} {f : R → ExceptT ε (Program C R) α}
    (h : ∀ r, Ends (f r) (before ++ [(c, r)]) Q E) : Ends (ask c >>= f) before Q E := by
  refine Ends.bind fun t x hyields => ?_
  obtain ⟨r, u, rfl, hu⟩ := yields_perform_bind.mp hyields
  obtain ⟨rfl, rfl⟩ := yields_pure.mp hu
  exact h r

theorem ends_ensure {Q : Unit → List (C × R) → Prop} {p : Prop} [Decidable p] {e : ε}
    (h : p → Q () before) (herror : ¬ p → E e before) : Ends (ensure p e) before Q E := by
  intro t x hyields
  obtain ⟨rfl, rfl⟩ := yields_pure.mp hyields
  rw [List.append_nil, require]
  by_cases hp : p
  · rw [if_pos hp]
    exact h hp
  · rw [if_neg hp]
    exact herror hp

theorem Ends.mono {Q' : α → List (C × R) → Prop} {E' : ε → List (C × R) → Prop}
    (h : Ends p before Q E) (hQ : ∀ a t, Q a t → Q' a t) (hE : ∀ e t, E e t → E' e t) :
    Ends p before Q' E' := by
  intro t r hyields
  have hr := h t r hyields
  cases r with
  | ok a => exact hQ a _ hr
  | error e => exact hE e _ hr

end Ends

section Spends

variable (flow : ℕ → ℕ → Prop) (ok : Stamped C R → Prop)

/-- **What a program that may fail returns**, or fails with, its calls and the
time at which it is over. -/
def Spends (p : ExceptT ε (Program C R) α) (now : ℕ) (Q : α → List (Stamped C R) → ℕ → Prop)
    (E : ε → List (Stamped C R) → ℕ → Prop) : Prop :=
  Times flow ok p.run now fun r t stop => match r with
    | .ok a => Q a t stop
    | .error e => E e t stop

variable {flow ok} {now : ℕ} {Q : α → List (Stamped C R) → ℕ → Prop}
  {E : ε → List (Stamped C R) → ℕ → Prop}

theorem spends_pure {a : α} (h : Q a [] now) :
    Spends flow ok (pure a : ExceptT ε (Program C R) α) now Q E :=
  times_pure h

theorem spends_throw {e : ε} (h : E e [] now) :
    Spends flow ok (throw e : ExceptT ε (Program C R) α) now Q E :=
  times_pure h

theorem Spends.bind {Q : β → List (Stamped C R) → ℕ → Prop} {p : ExceptT ε (Program C R) α}
    {f : α → ExceptT ε (Program C R) β}
    (h : Spends flow ok p now (fun a t mid => Spends flow ok (f a) mid
      (fun b u stop => Q b (t ++ u) stop) fun e u stop => E e (t ++ u) stop) E) :
    Spends flow ok (p >>= f) now Q E := by
  refine Times.bind (Times.mono h fun x t mid hx => ?_)
  cases x with
  | ok a => exact hx
  | error e =>
    refine times_pure ?_
    rw [List.append_nil]
    exact hx

theorem Spends.settle {Q : β → List (Stamped C R) → ℕ → Prop} {p : ExceptT ε (Program C R) α}
    {f : Except ε α → ExceptT ε (Program C R) β}
    (h : Spends flow ok p now
      (fun a t mid => Spends flow ok (f (.ok a)) mid
        (fun b u stop => Q b (t ++ u) stop) fun e u stop => E e (t ++ u) stop)
      fun e t mid => Spends flow ok (f (.error e)) mid
        (fun b u stop => Q b (t ++ u) stop) fun e u stop => E e (t ++ u) stop) :
    Spends flow ok (Program.settle p f) now Q E := by
  refine Times.bind (Times.mono h fun x t mid hx => ?_)
  cases x with
  | ok a | error e => exact Times.mono hx fun r u stop hr => by cases r <;> exact hr

theorem spends_ask {c : C} {f : R → ExceptT ε (Program C R) α}
    (h : ∀ reply start mid, flow now start → start ≤ mid → ok ⟨c, reply, start, mid⟩ →
      Spends flow ok (f reply) mid (fun b u stop => Q b (⟨c, reply, start, mid⟩ :: u) stop)
        fun e u stop => E e (⟨c, reply, start, mid⟩ :: u) stop) :
    Spends flow ok (ask c >>= f) now Q E := by
  refine times_call fun reply start mid hflow hle hok => ?_
  exact Times.mono (h reply start mid hflow hle hok) fun r u stop hr => by cases r <;> exact hr

theorem spends_ensure {Q : Unit → List (Stamped C R) → ℕ → Prop} {p : Prop} [Decidable p] {e : ε}
    (h : p → Q () [] now) (herror : ¬ p → E e [] now) :
    Spends flow ok (ensure p e) now Q E := by
  refine times_pure ?_
  rw [require]
  by_cases hp : p
  · rw [if_pos hp]
    exact h hp
  · rw [if_neg hp]
    exact herror hp

theorem Spends.mono {Q' : α → List (Stamped C R) → ℕ → Prop}
    {E' : ε → List (Stamped C R) → ℕ → Prop} {p : ExceptT ε (Program C R) α}
    (h : Spends flow ok p now Q E) (hQ : ∀ a t stop, Q a t stop → Q' a t stop)
    (hE : ∀ e t stop, E e t stop → E' e t stop) : Spends flow ok p now Q' E' := by
  refine Times.mono h fun r t stop hr => ?_
  cases r with
  | ok a => exact hQ a t stop hr
  | error e => exact hE e t stop hr

end Spends

end Program
