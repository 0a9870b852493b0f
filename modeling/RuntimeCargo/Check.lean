import Mathlib

/-!
# Checks that may fail

A validator is a sequence of steps in `Except ε`, most of them checks that
give nothing but an error. Three shapes suffice to write one: `require`
for a condition, `Option.okOr` for a value that has to be there, and
sequencing. What a successful run says is then read off step by step
(`Except.bind_eq_ok`, `require_eq_ok`, `Option.okOr_eq_ok`), so that a
proof about a validator never runs it.
-/

variable {ε α β : Type}

/-- A value that has to be there. -/
def Option.okOr (o : Option α) (e : ε) : Except ε α :=
  match o with
  | some a => .ok a
  | none => .error e

/-- A condition that has to hold. -/
def require (p : Prop) [Decidable p] (e : ε) : Except ε Unit :=
  if p then .ok () else .error e

/-- **A sequence succeeds when its steps do.** -/
theorem Except.bind_eq_ok {x : Except ε α} {f : α → Except ε β} {b : β} :
    (x >>= f) = .ok b ↔ ∃ a, x = .ok a ∧ f a = .ok b := by
  cases x with
  | error e =>
    refine ⟨fun h => ?_, ?_⟩
    · cases h
    · rintro ⟨a, ha, -⟩
      cases ha
  | ok a => exact ⟨fun h => ⟨a, rfl, h⟩, fun ⟨_, ha, h⟩ => Except.ok.inj ha ▸ h⟩

variable {e : ε} {p : Prop}

theorem require_eq_ok [Decidable p] {u : Unit} :
    require p e = .ok u ↔ p := by
  unfold require
  split
  next hp =>
    exact ⟨fun _ => hp, fun _ => rfl⟩
  next hp =>
    exact ⟨nofun, fun h => absurd h hp⟩

theorem Option.okOr_eq_ok {o : Option α} {a : α} :
    o.okOr e = .ok a ↔ o = some a := by
  cases o with
  | none => exact ⟨nofun, nofun⟩
  | some b => exact ⟨fun h => congrArg some (Except.ok.inj h), fun h => by rw [h]; rfl⟩

/-- A check in front of a sequence. -/
theorem require_bind_eq_ok [Decidable p] {f : Unit → Except ε β} {b : β} :
    (require p e >>= f) = .ok b ↔ p ∧ f () = .ok b := by
  rw [Except.bind_eq_ok]
  constructor
  · rintro ⟨u, hu, h⟩
    exact ⟨require_eq_ok.mp hu, h⟩
  · rintro ⟨hp, h⟩
    exact ⟨(), require_eq_ok.mpr hp, h⟩

/-- A sequence fails at the check in front of it or after it. -/
theorem require_bind_eq_error [Decidable p] {e' : ε} {f : Unit → Except ε β}
    (h : (require p e >>= f) = .error e') : e' = e ∨ f () = .error e' := by
  unfold require at h
  split at h
  · exact .inr h
  · exact .inl (Except.error.inj h).symm

/-- A refusal that is written out. -/
theorem of_ite_error_eq_ok [Decidable p] {rest : Except ε α} {a : α}
    (h : (if p then .error e else rest) = .ok a) : ¬ p ∧ rest = .ok a := by
  by_cases hp : p
  · rw [if_pos hp] at h
    cases h
  · rw [if_neg hp] at h
    exact ⟨hp, h⟩

/-- A value that has to be there, in front of a sequence. -/
theorem Option.okOr_bind_eq_ok {o : Option α} {f : α → Except ε β} {b : β} :
    (o.okOr e >>= f) = .ok b ↔ ∃ a, o = some a ∧ f a = .ok b := by
  rw [Except.bind_eq_ok]
  simp only [Option.okOr_eq_ok]

/-- **A check of every element.** -/
theorem forM_eq_ok {xs : List α} {check : α → Except ε Unit} {u : Unit} :
    xs.forM check = .ok u ↔ ∀ x ∈ xs, check x = .ok () := by
  induction xs with
  | nil => exact ⟨fun _ => nofun, fun _ => rfl⟩
  | cons x xs ih =>
    show (check x >>= fun _ => xs.forM check) = .ok u ↔ _
    rw [Except.bind_eq_ok, List.forall_mem_cons]
    constructor
    · rintro ⟨⟨⟩, hx, hxs⟩
      exact ⟨hx, ih.mp hxs⟩
    · rintro ⟨hx, hxs⟩
      exact ⟨(), hx, ih.mpr hxs⟩
