import RuntimeCargo.Trace

/-!
# Runs that take time

A trace says what was called and what was replied, in order. Here every call
has the time at which it was made and the time at which it was answered, and
a run is a stretch of time: it begins at some time and is over at another
(`Lasts`). What a call may take is a condition on the call, its reply and its
two times. What may pass between one call and the next is a relation of its
own – equality, where only the calls take time.

What is said about a program is said about every run that keeps the
conditions (`Program.Times`): its value, the calls it has made with their
times, and when it was over. There is one rule for each way to put programs
together, as for traces without times.
-/

/-- A call and its reply, with the times of both. -/
structure Stamped (C R : Type) where
  call : C
  reply : R
  start : ℕ
  stop : ℕ

namespace Stamped

variable {C R : Type}

/-- The event without its times. -/
def event (x : Stamped C R) : C × R := (x.call, x.reply)

end Stamped

section Lasts

variable {C R : Type} (flow : ℕ → ℕ → Prop) (ok : Stamped C R → Prop)

/-- **A stretch of time with calls in it**, from one time to another. -/
def Lasts : ℕ → List (Stamped C R) → ℕ → Prop
  | now, [], stop => now = stop
  | now, x :: t, stop => flow now x.start ∧ x.start ≤ x.stop ∧ ok x ∧ Lasts x.stop t stop

variable {flow ok} {now stop : ℕ} {t u : List (Stamped C R)}

theorem lasts_append :
    Lasts flow ok now (t ++ u) stop ↔ ∃ mid, Lasts flow ok now t mid ∧ Lasts flow ok mid u stop := by
  induction t generalizing now with
  | nil =>
    constructor
    · exact fun h => ⟨now, rfl, h⟩
    · rintro ⟨_, rfl, h⟩
      exact h
  | cons x t ih =>
    constructor
    · rintro ⟨hflow, hle, hok, h⟩
      obtain ⟨mid, ht, hu⟩ := ih.mp h
      exact ⟨mid, ⟨hflow, hle, hok, ht⟩, hu⟩
    · rintro ⟨mid, ⟨hflow, hle, hok, ht⟩, hu⟩
      exact ⟨hflow, hle, hok, ih.mpr ⟨mid, ht, hu⟩⟩

/-- A condition that every call of a stretch meets besides. -/
theorem Lasts.and {ok' : Stamped C R → Prop} (h : Lasts flow ok now t stop)
    (hall : ∀ x ∈ t, ok' x) : Lasts flow (fun x => ok x ∧ ok' x) now t stop := by
  induction t generalizing now with
  | nil => exact h
  | cons x t ih =>
    obtain ⟨hflow, hle, hok, hrest⟩ := h
    exact ⟨hflow, hle, ⟨hok, hall x List.mem_cons_self⟩,
      ih hrest fun y hy => hall y (List.mem_cons_of_mem x hy)⟩

end Lasts

namespace Program

variable {C R α β : Type} (flow : ℕ → ℕ → Prop) (ok : Stamped C R → Prop)

/-- **What holds of every run that keeps the conditions**: of its value, of
its calls and of the time at which it is over. -/
def Times (p : Program C R α) (now : ℕ) (Q : α → List (Stamped C R) → ℕ → Prop) : Prop :=
  ∀ t a stop, Yields p (t.map Stamped.event) a → Lasts flow ok now t stop → Q a t stop

variable {flow ok} {now : ℕ}

theorem times_pure {Q : α → List (Stamped C R) → ℕ → Prop} {a : α} (h : Q a [] now) :
    Times flow ok (pure a : Program C R α) now Q := by
  intro t b stop hyields hlasts
  obtain ⟨hnil, rfl⟩ := yields_pure.mp hyields
  obtain rfl := List.map_eq_nil_iff.mp hnil
  obtain rfl : now = stop := hlasts
  exact h

theorem Times.bind {Q : β → List (Stamped C R) → ℕ → Prop} {p : Program C R α}
    {f : α → Program C R β}
    (h : Times flow ok p now fun a t mid =>
      Times flow ok (f a) mid fun b u stop => Q b (t ++ u) stop) :
    Times flow ok (p >>= f) now Q := by
  intro t b stop hyields hlasts
  obtain ⟨t₁, t₂, a, heq, h₁, h₂⟩ := yields_bind.mp hyields
  obtain ⟨u₁, u₂, rfl, rfl, rfl⟩ := List.map_eq_append_iff.mp heq
  obtain ⟨mid, ht₁, ht₂⟩ := lasts_append.mp hlasts
  exact h u₁ a mid h₁ ht₁ u₂ b stop h₂ ht₂

/-- A call, and what is done with its reply. -/
theorem times_call {Q : β → List (Stamped C R) → ℕ → Prop} {c : C} {f : R → Program C R β}
    (h : ∀ reply start mid, flow now start → start ≤ mid → ok ⟨c, reply, start, mid⟩ →
      Times flow ok (f reply) mid fun b u stop => Q b (⟨c, reply, start, mid⟩ :: u) stop) :
    Times flow ok (perform c >>= f) now Q := by
  intro t b stop hyields hlasts
  obtain ⟨r, u, heq, hf⟩ := yields_perform_bind.mp hyields
  obtain ⟨x, t', rfl, hx, rfl⟩ := List.map_eq_cons_iff.mp heq
  cases hx
  obtain ⟨hflow, hle, hok, hrest⟩ := hlasts
  exact h x.reply x.start x.stop hflow hle hok t' b stop hf hrest

theorem Times.mono {Q Q' : α → List (Stamped C R) → ℕ → Prop} {p : Program C R α}
    (h : Times flow ok p now Q) (hQ : ∀ a t stop, Q a t stop → Q' a t stop) :
    Times flow ok p now Q' :=
  fun t a stop hyields hlasts => hQ a t stop (h t a stop hyields hlasts)

/-- **The rule for loops**: what a turn keeps of the state, of the calls so
far and of the time, the loop keeps. -/
theorem Turns.times {S : Type} {turn : S → Program C R S}
    {I : S → List (Stamped C R) → ℕ → Prop}
    (hturn : ∀ s before now, I s before now →
      Times flow ok (turn s) now fun s' u stop => I s' (before ++ u) stop)
    {s s' : S} {t : List (Stamped C R)} {stop : ℕ} (h : Turns turn s (t.map Stamped.event) s')
    (hlasts : Lasts flow ok now t stop) (hstart : I s [] now) : I s' t stop := by
  generalize hevents : t.map Stamped.event = events at h
  induction h generalizing t stop with
  | start =>
    obtain rfl := List.map_eq_nil_iff.mp hevents
    obtain rfl : now = stop := hlasts
    exact hstart
  | turn _ hu ih =>
    obtain ⟨t₁, t₂, rfl, rfl, rfl⟩ := List.map_eq_append_iff.mp hevents
    obtain ⟨mid, hfirst, hlast⟩ := lasts_append.mp hlasts
    exact hturn _ t₁ mid (ih hfirst rfl) t₂ _ stop hu hlast

end Program
