import RuntimeCargo.Program

/-!
# Programs against any replies

`Program.run` follows a program in one world, which decides what every call
replies. Where the other side is not to be trusted – a router, a peer, a
clock – nothing may be assumed about the replies, and what is said about a
program is said about every sequence of replies that it may be given.
`Program.Yields` is that: the calls a run has made, each with its reply, in
order, and the value it has returned.

A trace is taken apart the way the program is put together
(`yields_bind`, `yields_simulate`), so that a program is understood part by
part: what its parts may yield, it may yield in sequence, and nothing else.

What a program has to heed before a call – a clock that was read, a
question that was asked – is a condition on the trace up to the call
(`Along`). `Program.Follows` says that it is heeded throughout and what
holds at the end, with one rule for each way to put programs together. A
loop that need not end is followed for as many turns as it has made
(`Program.Turns`).
-/

/-! ## Places in a trace -/

section Along

variable {E : Type}

/-- The place of an element is determined if it is the only one of its
kind. -/
theorem append_cons_unique {P : E → Prop} {l₁ l₂ r₁ r₂ : List E} {a b : E}
    (h : l₁ ++ a :: r₁ = l₂ ++ b :: r₂) (hb : P b) (hl : ∀ x ∈ l₁, ¬ P x)
    (hr : ∀ x ∈ r₁, ¬ P x) : l₂ = l₁ ∧ b = a := by
  induction l₁ generalizing l₂ with
  | nil =>
    cases l₂ with
    | nil => exact ⟨rfl, (List.cons.inj h).1.symm⟩
    | cons c l₂ =>
      have hmem : b ∈ r₁ := by
        rw [(List.cons.inj h).2]
        exact List.mem_append_right _ List.mem_cons_self
      exact absurd hb (hr b hmem)
  | cons c l₁ ih =>
    cases l₂ with
    | nil => exact absurd ((List.cons.inj h).1 ▸ hb) (hl c List.mem_cons_self)
    | cons d l₂ =>
      obtain ⟨hl', hb'⟩ := ih (List.cons.inj h).2 fun x hx => hl x (List.mem_cons_of_mem c hx)
      rw [hl', hb', (List.cons.inj h).1]
      exact ⟨rfl, rfl⟩

variable {t : List E}

/-- What is read off a trace is not changed by an event that shows nothing. -/
theorem filterMap_concat_none {B : Type} {f : E → Option B} {x : E} (h : f x = none) :
    (t ++ [x]).filterMap f = t.filterMap f := by
  rw [List.filterMap_append, List.filterMap_cons_none h]
  exact List.append_nil _

/-- An event that shows something adds it. -/
theorem filterMap_concat_some {B : Type} {f : E → Option B} {x : E} {b : B} (h : f x = some b) :
    (t ++ [x]).filterMap f = t.filterMap f ++ [b] := by
  rw [List.filterMap_append, List.filterMap_cons_some h]
  rfl

/-- **At every event of a trace** something holds that may depend on what
came before it. -/
def Along (ok : List E → E → Prop) : List E → List E → Prop
  | _, [] => True
  | before, x :: t => ok before x ∧ Along ok (before ++ [x]) t

variable {ok : List E → E → Prop}

theorem along_append {before u : List E} :
    Along ok before (t ++ u) ↔ Along ok before t ∧ Along ok (before ++ t) u := by
  induction t generalizing before with
  | nil =>
    rw [List.nil_append, List.append_nil]
    exact (and_iff_right trivial).symm
  | cons x t ih =>
    show ok before x ∧ Along ok (before ++ [x]) (t ++ u)
      ↔ (ok before x ∧ Along ok (before ++ [x]) t) ∧ _
    rw [ih, and_assoc, List.append_assoc]
    rfl

theorem Along.at {before u : List E} {x : E} (h : Along ok before (t ++ x :: u)) :
    ok (before ++ t) x := (along_append.mp h).2.1

end Along

/-! ## Programs -/

namespace Program

variable {C R α β : Type}

/-- **A run against some replies**: the calls it made and what was replied
to each, and what it returned. -/
inductive Yields : Program C R α → List (C × R) → α → Prop
  | done (a : α) : Yields (done a) [] a
  | call {c : C} {next : R → Program C R α} {r : R} {t : List (C × R)} {a : α}
      (h : Yields (next r) t a) : Yields (call c next) ((c, r) :: t) a

variable {t : List (C × R)}

theorem yields_done {a b : α} : Yields (done a) t b ↔ t = [] ∧ a = b := by
  constructor
  · rintro ⟨⟩
    exact ⟨rfl, rfl⟩
  · rintro ⟨rfl, rfl⟩
    exact .done a

theorem yields_pure {a b : α} :
    Yields (pure a : Program C R α) t b ↔ t = [] ∧ a = b :=
  yields_done

theorem yields_perform {c : C} {r : R} :
    Yields (perform c) t r ↔ t = [(c, r)] := by
  constructor
  · rintro (_ | ⟨⟨⟩⟩)
    rfl
  · rintro rfl
    exact .call (.done r)

/-- **One program after another**: the trace of the first, then that of the
second. -/
theorem yields_bind {p : Program C R α} {f : α → Program C R β} {b : β} :
    Yields (p >>= f) t b ↔ ∃ t₁ t₂ a, t = t₁ ++ t₂ ∧ Yields p t₁ a ∧ Yields (f a) t₂ b := by
  constructor
  · intro h
    induction p generalizing t with
    | done a => exact ⟨[], t, a, rfl, .done a, h⟩
    | call c next ih =>
      obtain _ | h := h
      obtain ⟨t₁, t₂, a, rfl, h₁, h₂⟩ := ih _ h
      exact ⟨_ :: t₁, t₂, a, rfl, .call h₁, h₂⟩
  · rintro ⟨t₁, t₂, a, rfl, h₁, h₂⟩
    induction h₁ with
    | done a => exact h₂
    | call _ ih => exact .call (ih h₂)

/-- A call, and what is done with its reply. -/
theorem yields_perform_bind {c : C} {f : R → Program C R β} {b : β} :
    Yields (perform c >>= f) t b ↔ ∃ r t', t = (c, r) :: t' ∧ Yields (f r) t' b := by
  rw [yields_bind]
  constructor
  · rintro ⟨t₁, t₂, r, rfl, h₁, h₂⟩
    rw [yields_perform] at h₁
    exact ⟨r, t₂, by rw [h₁]; rfl, h₂⟩
  · rintro ⟨r, t', rfl, h⟩
    exact ⟨[(c, r)], t', r, rfl, yields_perform.mpr rfl, h⟩

/-- The value of a program is put into another form. -/
theorem yields_bind_pure {p : Program C R α} {f : α → β} {b : β} :
    Yields (p >>= fun a => pure (f a)) t b ↔ ∃ a, Yields p t a ∧ f a = b := by
  rw [yields_bind]
  constructor
  · rintro ⟨t₁, t₂, a, rfl, h₁, h₂⟩
    obtain ⟨rfl, heq⟩ := yields_pure.mp h₂
    exact ⟨a, by rwa [List.append_nil], heq⟩
  · rintro ⟨a, h, heq⟩
    exact ⟨t, [], a, (List.append_nil t).symm, h, yields_pure.mpr ⟨rfl, heq⟩⟩

/-- A run against replies that are given in order: its trace and its value,
if there are as many replies as it makes calls. -/
def feed : Program C R α → List R → Option (List (C × R) × α)
  | done a, [] => some ([], a)
  | done _, _ :: _ => none
  | call _ _, [] => none
  | call c next, r :: rs => (feed (next r) rs).map fun (t, a) => ((c, r) :: t, a)

theorem yields_of_feed {p : Program C R α} {rs : List R} {a : α} (h : feed p rs = some (t, a)) :
    Yields p t a := by
  induction p generalizing rs t with
  | done b =>
    cases rs with
    | nil =>
      obtain ⟨rfl, rfl⟩ := Prod.mk.inj (Option.some.inj h)
      exact .done b
    | cons r rs => cases h
  | call c next ih =>
    cases rs with
    | nil => cases h
    | cons r rs =>
      obtain ⟨⟨t', a'⟩, hnext, heq⟩ := Option.map_eq_some_iff.mp h
      cases heq
      exact .call (ih r hnext)

section Follows

variable (ok : List (C × R) → C × R → Prop)

/-- **A program follows a rule**: after whatever came before, the rule is
kept at each of its calls, and something holds of its value and of the
trace at its end. -/
def Follows (p : Program C R α) (before : List (C × R)) (Q : α → List (C × R) → Prop) : Prop :=
  ∀ t a, Yields p t a → Along ok before t ∧ Q a (before ++ t)

variable {ok} {before : List (C × R)}

variable {Q : α → List (C × R) → Prop}

theorem follows_pure {a : α} (h : Q a before) :
    Follows ok (pure a : Program C R α) before Q := by
  intro t b hyields
  obtain ⟨rfl, rfl⟩ := yields_pure.mp hyields
  rw [List.append_nil]
  exact ⟨trivial, h⟩

theorem Follows.bind {Q : β → List (C × R) → Prop} {p : Program C R α} {f : α → Program C R β}
    (h : Follows ok p before fun a now => Follows ok (f a) now Q) :
    Follows ok (p >>= f) before Q := by
  intro t b hyields
  obtain ⟨t₁, t₂, a, rfl, h₁, h₂⟩ := yields_bind.mp hyields
  obtain ⟨hp, hf⟩ := h t₁ a h₁
  obtain ⟨hf, hQ⟩ := hf t₂ b h₂
  rw [← List.append_assoc]
  exact ⟨along_append.mpr ⟨hp, hf⟩, hQ⟩

theorem follows_call {Q : β → List (C × R) → Prop} {c : C} {f : R → Program C R β}
    (hok : ∀ r, ok before (c, r)) (h : ∀ r, Follows ok (f r) (before ++ [(c, r)]) Q) :
    Follows ok (perform c >>= f) before Q := by
  intro t b hyields
  obtain ⟨r, u, rfl, hf⟩ := yields_perform_bind.mp hyields
  obtain ⟨halong, hQ⟩ := h r u b hf
  rw [List.append_assoc] at hQ
  exact ⟨⟨hok r, halong⟩, hQ⟩

theorem Follows.mono {Q' : α → List (C × R) → Prop} {p : Program C R α}
    (h : Follows ok p before Q) (hQ : ∀ a t, Q a t → Q' a t) : Follows ok p before Q' :=
  fun t a hyields => ⟨(h t a hyields).1, hQ _ _ (h t a hyields).2⟩

end Follows

section Simulate

variable {S C' R' : Type} (handle : C → S → Program C' R' (R × S))

/-- The calls of one trace are made by the calls of another. -/
inductive Handled : S → List (C × R) → List (C' × R') → S → Prop
  | nil (s : S) : Handled s [] [] s
  | cons {s s₁ s₂ : S} {c : C} {r : R} {t : List (C × R)} {t₁ t₂ : List (C' × R')}
      (h : Yields (handle c s) t₁ (r, s₁)) (hrest : Handled s₁ t t₂ s₂) :
      Handled s ((c, r) :: t) (t₁ ++ t₂) s₂

variable {handle}

/-- **A program whose calls are made by others** has a trace of its own, and
each of its calls is a run of what makes it. -/
theorem yields_simulate {p : Program C R α} {s s' : S} {t : List (C' × R')} {a : α} :
    Yields (p.simulate handle s) t (a, s')
      ↔ ∃ own, Yields p own a ∧ Handled handle s own t s' := by
  constructor
  · intro h
    induction p generalizing s t with
    | done b =>
      obtain ⟨rfl, heq⟩ := yields_done.mp h
      cases heq
      exact ⟨[], .done _, .nil _⟩
    | call c next ih =>
      obtain ⟨t₁, t₂, ⟨r, s₁⟩, rfl, h₁, h₂⟩ := yields_bind.mp h
      obtain ⟨own, hown, hrest⟩ := ih r h₂
      exact ⟨(c, r) :: own, .call hown, .cons h₁ hrest⟩
  · rintro ⟨own, hown, hhandled⟩
    induction hown generalizing s t with
    | done b =>
      obtain _ | _ := hhandled
      exact .done _
    | call _ ih =>
      obtain _ | ⟨h₁, hrest⟩ := hhandled
      exact yields_bind.mpr ⟨_, _, _, rfl, h₁, ih hrest⟩

end Simulate

section Turns

variable {S : Type} (turn : S → Program C R S)

/-- **Some turns of a loop**, from one state to another. -/
inductive Turns (s : S) : List (C × R) → S → Prop
  | start : Turns s [] s
  | turn {s₁ s₂ : S} {t u : List (C × R)} (h : Turns s t s₁) (hturn : Yields (turn s₁) u s₂) :
      Turns s (t ++ u) s₂

/-- Some turns against replies that are given turn by turn. -/
def feedTurns : S → List (List R) → Option (List (C × R) × S)
  | s, [] => some ([], s)
  | s, rs :: rest =>
    ((turn s).feed rs).bind fun (t, s₁) => (feedTurns s₁ rest).map fun (u, s₂) => (t ++ u, s₂)

variable {turn} {ok : List (C × R) → C × R → Prop} {I : S → List (C × R) → Prop}

theorem Turns.feed {s₀ s s' : S} {t u : List (C × R)} {rss : List (List R)}
    (h : Turns turn s₀ t s) (hfeed : feedTurns turn s rss = some (u, s')) :
    Turns turn s₀ (t ++ u) s' := by
  induction rss generalizing s t u with
  | nil =>
    cases hfeed
    rw [List.append_nil]
    exact h
  | cons rs rest ih =>
    obtain ⟨⟨t₁, s₁⟩, hturn, hrest⟩ := Option.bind_eq_some_iff.mp hfeed
    obtain ⟨⟨t₂, s₂⟩, hmore, heq⟩ := Option.map_eq_some_iff.mp hrest
    cases heq
    rw [← List.append_assoc]
    exact ih (.turn h (yields_of_feed hturn)) hmore

/-- **The rule for loops**: what a turn follows as long as something holds of
the state and of the trace, and keeps, the loop follows. -/
theorem Turns.follows (hturn : ∀ s before, I s before → Follows ok (turn s) before I) {s s' : S}
    {t : List (C × R)} (h : Turns turn s t s') (hstart : I s []) : Along ok [] t ∧ I s' t := by
  induction h with
  | start => exact ⟨trivial, hstart⟩
  | turn _ hu ih =>
    obtain ⟨halong, hI⟩ := ih
    obtain ⟨hnext, hkept⟩ := hturn _ _ hI _ _ hu
    exact ⟨along_append.mpr ⟨halong, hnext⟩, hkept⟩

end Turns

end Program
