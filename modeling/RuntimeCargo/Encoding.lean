import Mathlib

/-!
# Encodings that mark their own end

A record is written as the bytes of its fields, one after another. It can
be read back only if the bytes of each field say where they end: whatever
follows, two values that are written alike are equal, and so is what
follows. This is `Delimits`, relative to a condition that says which
values can be written at all – a length that fits its field, say.

Numbers of a fixed width delimit, byte strings and lists do when their
length comes first, and an optional value does behind a tag. Encodings that
delimit are put together by writing one after another, which is how a
record of such fields is compared: field by field, each comparison handing
on what follows it.
-/

/-! ## Numbers of a fixed width -/

/-- The `width` low bytes of a number, the highest first. -/
def beBytes : ℕ → ℕ → List UInt8
  | 0, _ => []
  | width + 1, n => beBytes width (n / 256) ++ [UInt8.ofNat n]

theorem length_beBytes (width n : ℕ) : (beBytes width n).length = width := by
  induction width generalizing n with
  | zero => rfl
  | succ width ih => rw [beBytes, List.length_append, ih, List.length_singleton]

/-- The bytes determine a number that fits them. -/
theorem beBytes_inj {width a b : ℕ} (ha : a < 256 ^ width) (hb : b < 256 ^ width)
    (h : beBytes width a = beBytes width b) : a = b := by
  induction width generalizing a b with
  | zero => rw [Nat.lt_one_iff.mp ha, Nat.lt_one_iff.mp hb]
  | succ width ih =>
    obtain ⟨hhigh, hlow⟩ := List.append_inj h (by rw [length_beBytes, length_beBytes])
    have hmod : a % 256 = b % 256 := by
      have hbyte := congrArg UInt8.toNat (List.cons.inj hlow).1
      rwa [UInt8.toNat_ofNat', UInt8.toNat_ofNat'] at hbyte
    have hdiv : a / 256 = b / 256 := by
      refine ih ?_ ?_ hhigh
      · exact Nat.div_lt_of_lt_mul (by rwa [Nat.pow_succ'] at ha)
      · exact Nat.div_lt_of_lt_mul (by rwa [Nat.pow_succ'] at hb)
    rw [← Nat.div_add_mod a 256, ← Nat.div_add_mod b 256, hdiv, hmod]

/-! ## Delimiting encodings -/

section Delimits

variable {α β : Type}

/-- **An encoding that marks its own end**, on the values that meet a
condition. -/
def Delimits (P : α → Prop) (encode : α → List UInt8) : Prop :=
  ∀ ⦃a b : α⦄ ⦃x y : List UInt8⦄, P a → P b → encode a ++ x = encode b ++ y → a = b ∧ x = y

/-- An optional value behind a tag. -/
def optionBytes (encode : α → List UInt8) : Option α → List UInt8
  | none => [0x00]
  | some a => 0x01 :: encode a

namespace Delimits

variable {P : α → Prop} {Q : β → Prop} {encode : α → List UInt8} {encode' : β → List UInt8}

/-- Values that are all written at the same length. -/
theorem of_length {n : ℕ} (hlength : ∀ a, P a → (encode a).length = n)
    (hinj : ∀ a b, P a → P b → encode a = encode b → a = b) : Delimits P encode := by
  intro a b x y ha hb h
  obtain ⟨hab, hxy⟩ := List.append_inj h (by rw [hlength a ha, hlength b hb])
  exact ⟨hinj a b ha hb hab, hxy⟩

/-- A value that is written as another one that determines it. -/
theorem comap (h : Delimits Q encode') (f : α → β) (hP : ∀ a, P a → Q (f a))
    (hf : ∀ a b, P a → P b → f a = f b → a = b) : Delimits P (fun a => encode' (f a)) := by
  intro a b x y ha hb heq
  obtain ⟨hab, hxy⟩ := h (hP a ha) (hP b hb) heq
  exact ⟨hf a b ha hb hab, hxy⟩

/-- **Numbers of a fixed width.** -/
theorem number (width : ℕ) : Delimits (· < 256 ^ width) (beBytes width) :=
  of_length (fun n _ => length_beBytes width n) fun _ _ ha hb => beBytes_inj ha hb

/-- **Byte strings behind their length.** -/
theorem sized (width : ℕ) :
    Delimits (fun bytes : List UInt8 => bytes.length < 256 ^ width)
      (fun bytes => beBytes width bytes.length ++ bytes) := by
  intro a b x y ha hb h
  rw [List.append_assoc, List.append_assoc] at h
  obtain ⟨hlength, h⟩ := number width ha hb h
  exact List.append_inj h hlength

/-- Lists of the same length, element by element. -/
theorem flatMap (h : Delimits P encode) {as bs : List α} {x y : List UInt8}
    (hlength : as.length = bs.length) (has : ∀ a ∈ as, P a) (hbs : ∀ b ∈ bs, P b)
    (heq : as.flatMap encode ++ x = bs.flatMap encode ++ y) : as = bs ∧ x = y := by
  induction as generalizing bs with
  | nil =>
    obtain rfl := List.eq_nil_of_length_eq_zero hlength.symm
    exact ⟨rfl, heq⟩
  | cons a as ih =>
    cases bs with
    | nil => cases hlength
    | cons b bs =>
      rw [List.flatMap_cons, List.flatMap_cons, List.append_assoc, List.append_assoc] at heq
      obtain ⟨rfl, htail⟩ := h (has a List.mem_cons_self) (hbs b List.mem_cons_self) heq
      obtain ⟨rfl, hxy⟩ := ih (Nat.succ.inj hlength)
        (fun c hc => has c (List.mem_cons_of_mem _ hc))
        (fun c hc => hbs c (List.mem_cons_of_mem _ hc)) htail
      exact ⟨rfl, hxy⟩

/-- **Lists behind their length.** -/
theorem counted (h : Delimits P encode) (width : ℕ) :
    Delimits (fun as : List α => as.length < 256 ^ width ∧ ∀ a ∈ as, P a)
      (fun as => beBytes width as.length ++ as.flatMap encode) := by
  intro as bs x y has hbs heq
  rw [List.append_assoc, List.append_assoc] at heq
  obtain ⟨hlength, heq⟩ := number width has.1 hbs.1 heq
  exact h.flatMap hlength has.2 hbs.2 heq

/-- **Optional values behind a tag.** -/
theorem tagged (h : Delimits P encode) :
    Delimits (fun o : Option α => ∀ a ∈ o, P a) (optionBytes encode) := by
  intro o o' x y ho ho' heq
  cases o with
  | none =>
    cases o' with
    | none => exact ⟨rfl, (List.cons.inj heq).2⟩
    | some b => exact absurd (List.cons.inj heq).1 (by decide)
  | some a =>
    cases o' with
    | none => exact absurd (List.cons.inj heq).1 (by decide)
    | some b =>
      obtain ⟨hab, hxy⟩ := h (ho a rfl) (ho' b rfl) (List.cons.inj heq).2
      exact ⟨congrArg some hab, hxy⟩

end Delimits

end Delimits
