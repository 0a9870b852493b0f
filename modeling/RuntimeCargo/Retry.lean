import RuntimeCargo.Timed

/-!
# Trying again

A program that may fail is tried some times. Between two attempts something
is done that also decides whether there is another one – a look at the error,
at the clock, a pause. `Program.retry` is that loop: the attempts that are left
bound it, and the number of those that were made is known to the part in
between, since the first pause may differ from the others.

What is said about such a loop is said by an invariant of its turns, about
the calls so far, the attempts left and the time (`times_retry`). A run of the
loop is the runs of its attempts, with what was done in between
(`yields_retry`).
-/

namespace Program

variable {C R α ε : Type}

/-- **Attempts**, one and as many more as are left, as long as what is between
them says so. -/
def retry (attempt : Program C R (Except ε α)) (again : ℕ → ε → Program C R Bool) :
    ℕ → ℕ → Program C R (Except ε α)
  | 0, _ => attempt
  | left + 1, made => do
    match ← attempt with
    | .ok a => return .ok a
    | .error e =>
      if ← again made e then retry attempt again left (made + 1) else return .error e

variable {attempt : Program C R (Except ε α)} {again : ℕ → ε → Program C R Bool}

section Tried

variable (attempt again)

/-- **The attempts of a run**: the trace and the result of each, in order,
with the trace and the result of all. -/
inductive Tried : ℕ → ℕ → List (List (C × R) × Except ε α) → List (C × R) → Except ε α → Prop
  | last {made : ℕ} {t : List (C × R)} {r : Except ε α} (h : Yields attempt t r) :
      Tried 0 made [(t, r)] t r
  | good {left made : ℕ} {t : List (C × R)} {a : α} (h : Yields attempt t (.ok a)) :
      Tried (left + 1) made [(t, .ok a)] t (.ok a)
  | stop {left made : ℕ} {t u : List (C × R)} {e : ε} (h : Yields attempt t (.error e))
      (hagain : Yields (again made e) u false) :
      Tried (left + 1) made [(t, .error e)] (t ++ u) (.error e)
  | more {left made : ℕ} {t u v : List (C × R)} {e : ε} {r : Except ε α}
      {tries : List (List (C × R) × Except ε α)} (h : Yields attempt t (.error e))
      (hagain : Yields (again made e) u true) (hrest : Tried left (made + 1) tries v r) :
      Tried (left + 1) made ((t, .error e) :: tries) (t ++ (u ++ v)) r

variable {attempt again}

theorem yields_retry {left made : ℕ} {t : List (C × R)} {r : Except ε α} :
    Yields (retry attempt again left made) t r ↔ ∃ tries, Tried attempt again left made tries t r := by
  constructor
  · intro h
    induction left generalizing made t with
    | zero => exact ⟨_, .last h⟩
    | succ left ih =>
      obtain ⟨t₁, t₂, x, rfl, h₁, h₂⟩ := yields_bind.mp h
      cases x with
      | ok a =>
        obtain ⟨rfl, rfl⟩ := yields_pure.mp h₂
        rw [List.append_nil]
        exact ⟨_, .good h₁⟩
      | error e =>
        obtain ⟨u, v, b, rfl, hu, hv⟩ := yields_bind.mp h₂
        cases b with
        | true =>
          obtain ⟨tries, hrest⟩ := ih hv
          exact ⟨_, .more h₁ hu hrest⟩
        | false =>
          obtain ⟨rfl, rfl⟩ := yields_pure.mp hv
          rw [List.append_nil]
          exact ⟨_, .stop h₁ hu⟩
  · rintro ⟨tries, h⟩
    induction h with
    | last h => exact h
    | good h => exact yields_bind.mpr ⟨_, [], _, (List.append_nil _).symm, h, .done _⟩
    | stop h hagain =>
      exact yields_bind.mpr ⟨_, _, _, rfl, h,
        yields_bind.mpr ⟨_, [], _, (List.append_nil _).symm, hagain, .done _⟩⟩
    | more h hagain _ ih =>
      exact yields_bind.mpr ⟨_, _, _, rfl, h, yields_bind.mpr ⟨_, _, _, rfl, hagain, ih⟩⟩

end Tried

section Times

variable {flow : ℕ → ℕ → Prop} {ok : Stamped C R → Prop}
  {I : ℕ → ℕ → List (Stamped C R) → ℕ → Prop}
  {Q : Except ε α → List (Stamped C R) → ℕ → Prop}

/-- **The rule for attempts that take time.** The invariant is about the
attempts left and made, the calls so far and the time. -/
theorem times_retry
    (hlast : ∀ made before now, I 0 made before now →
      Times flow ok attempt now fun r t stop => Q r (before ++ t) stop)
    (hmore : ∀ left made before now, I (left + 1) made before now →
      Times flow ok attempt now fun r t stop =>
        (∀ a, r = .ok a → Q r (before ++ t) stop)
          ∧ ∀ e, r = .error e → Times flow ok (again made e) stop fun b u stop =>
            (b = true → I left (made + 1) (before ++ t ++ u) stop)
              ∧ (b = false → Q r (before ++ t ++ u) stop))
    (left made : ℕ) (before : List (Stamped C R)) (now : ℕ) (h : I left made before now) :
    Times flow ok (retry attempt again left made) now fun r t stop => Q r (before ++ t) stop := by
  induction left generalizing made before now with
  | zero => exact hlast made before now h
  | succ left ih =>
    refine Times.bind ((hmore left made before now h).mono fun r t stop hr => ?_)
    cases r with
    | ok a =>
      refine times_pure ?_
      rw [List.append_nil]
      exact hr.1 a rfl
    | error e =>
      refine Times.bind ((hr.2 e rfl).mono fun b u stop hb => ?_)
      cases b with
      | true =>
        refine (ih (made + 1) _ stop (hb.1 rfl)).mono fun r v stop hv => ?_
        rw [List.append_assoc, List.append_assoc] at hv
        exact hv
      | false =>
        refine times_pure ?_
        rw [List.append_nil, ← List.append_assoc]
        exact hb.2 rfl

end Times

section Follows

variable {rule : List (C × R) → C × R → Prop} {I : ℕ → ℕ → List (C × R) → Prop}
  {Q : Except ε α → List (C × R) → Prop}

end Follows

end Program
