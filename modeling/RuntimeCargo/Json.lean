import Mathlib

/-!
# JSON values, their text and its length

The values a program exchanges as JSON, the accessors it reads them with
and the compact text it writes them as. An object is the list of its
members; a reader looks a key up from the front. Numbers are integers,
and a number that is not an integer keeps only its text, since no reader
here computes with one.

A text is measured in bytes of its UTF-8 form. The length of an object is
the sum of the lengths of its members (`Json.size_obj`), so that a bound
on a message is arithmetic over its parts and no text has to be built. It
does not depend on the order of the members (`Json.size_obj_perm`), which
is what makes sorting them free (`Json.size_sorted`).
-/

/-- A JSON value. -/
inductive Json where
  | null
  | bool (b : Bool)
  /-- An integer number. -/
  | num (n : ℤ)
  /-- A number that is not an integer, by its text. -/
  | float (text : String)
  | str (s : String)
  | arr (items : List Json)
  | obj (members : List (String × Json))

namespace Json

/-! ## Reading a value -/

/-- The member of an object under a key, if there is one. -/
def get? (key : String) : Json → Option Json
  | .obj members => (members.find? fun m => m.1 = key).map Prod.snd
  | _ => none

/-- Indexing by a key: a missing member reads as `null`. -/
def get (v : Json) (key : String) : Json := (v.get? key).getD .null

/-- The text of a string value. -/
def asStr : Json → Option String
  | .str s => some s
  | _ => none

/-- The value of an integer that fits in 64 unsigned bits. -/
def asU64 : Json → Option ℕ
  | .num n => if 0 ≤ n ∧ n < 2 ^ 64 then some n.toNat else none
  | _ => none

/-- The value of a boolean. -/
def asBool : Json → Option Bool
  | .bool b => some b
  | _ => none

/-- The items of an array. -/
def asArray : Json → Option (List Json)
  | .arr items => some items
  | _ => none

/-- The members of an object. -/
def asObject : Json → Option (List (String × Json))
  | .obj members => some members
  | _ => none

/-- An object without a member. -/
def erase (key : String) : Json → Json
  | .obj members => .obj (members.filter fun m => m.1 ≠ key)
  | v => v

/-- An object with one member replaced. -/
def replace (v : Json) (key : String) (value : Json) : Json :=
  match v with
  | .obj members => .obj (members.map fun m => if m.1 = key then (key, value) else m)
  | v => v

/-! ## Comparing values -/

mutual

/-- Equality of values is decidable. -/
protected def decEq : (a b : Json) → Decidable (a = b)
  | .null, .null => .isTrue rfl
  | .bool a, .bool b => decidable_of_iff (a = b) (by simp)
  | .num a, .num b => decidable_of_iff (a = b) (by simp)
  | .float a, .float b => decidable_of_iff (a = b) (by simp)
  | .str a, .str b => decidable_of_iff (a = b) (by simp)
  | .arr a, .arr b =>
    have := Json.decEqItems a b
    decidable_of_iff (a = b) (by simp)
  | .obj a, .obj b =>
    have := Json.decEqMembers a b
    decidable_of_iff (a = b) (by simp)
  | .null, .bool _ | .null, .num _ | .null, .float _ | .null, .str _ | .null, .arr _
  | .null, .obj _ | .bool _, .null | .bool _, .num _ | .bool _, .float _ | .bool _, .str _
  | .bool _, .arr _ | .bool _, .obj _ | .num _, .null | .num _, .bool _ | .num _, .float _
  | .num _, .str _ | .num _, .arr _ | .num _, .obj _ | .float _, .null | .float _, .bool _
  | .float _, .num _ | .float _, .str _ | .float _, .arr _ | .float _, .obj _ | .str _, .null
  | .str _, .bool _ | .str _, .num _ | .str _, .float _ | .str _, .arr _ | .str _, .obj _
  | .arr _, .null | .arr _, .bool _ | .arr _, .num _ | .arr _, .float _ | .arr _, .str _
  | .arr _, .obj _ | .obj _, .null | .obj _, .bool _ | .obj _, .num _ | .obj _, .float _
  | .obj _, .str _ | .obj _, .arr _ => .isFalse nofun

/-- So is equality of lists of values. -/
protected def decEqItems : (a b : List Json) → Decidable (a = b)
  | [], [] => .isTrue rfl
  | [], _ :: _ | _ :: _, [] => .isFalse nofun
  | a :: as, b :: bs =>
    have := Json.decEq a b
    have := Json.decEqItems as bs
    decidable_of_iff (a = b ∧ as = bs) (by simp)

/-- And of lists of members. -/
protected def decEqMembers : (a b : List (String × Json)) → Decidable (a = b)
  | [], [] => .isTrue rfl
  | [], _ :: _ | _ :: _, [] => .isFalse nofun
  | (k, a) :: as, (l, b) :: bs =>
    have := Json.decEq a b
    have := Json.decEqMembers as bs
    decidable_of_iff (k = l ∧ a = b ∧ as = bs) (by simp [and_assoc])

end

instance : DecidableEq Json := Json.decEq

/-! ## Writing a value -/

/-- The lower-case hexadecimal digit of a number below sixteen. -/
def hexDigit (n : ℕ) : Char :=
  if n < 10 then Char.ofNat ('0'.toNat + n) else Char.ofNat ('a'.toNat + (n - 10))

/-- One character of a string, escaped: the quotation mark, the backslash
and the control characters, and nothing else. -/
def escapeChar (c : Char) : String :=
  if c = '"' then "\\\""
  else if c = '\\' then "\\\\"
  else if c = '\n' then "\\n"
  else if c = '\r' then "\\r"
  else if c = '\t' then "\\t"
  else if c.toNat = 8 then "\\b"
  else if c.toNat = 12 then "\\f"
  else if c.toNat < 32 then
    "\\u00" ++ String.ofList [hexDigit (c.toNat / 16), hexDigit (c.toNat % 16)]
  else String.ofList [c]

/-- The escaped characters of a string, in order. -/
def escape : List Char → String
  | [] => ""
  | c :: rest => escapeChar c ++ escape rest

/-- A string between quotation marks. -/
def quote (s : String) : String := "\"" ++ escape s.toList ++ "\""

mutual

/-- **The compact text of a value.** -/
def render : Json → String
  | .null => "null"
  | .bool true => "true"
  | .bool false => "false"
  | .num n => toString n
  | .float text => text
  | .str s => quote s
  | .arr items => "[" ++ renderItems items ++ "]"
  | .obj members => "\x7b" ++ renderMembers members ++ "\x7d"

/-- The items of an array, separated by commas. -/
def renderItems : List Json → String
  | [] => ""
  | [v] => render v
  | v :: w :: rest => render v ++ "," ++ renderItems (w :: rest)

/-- The members of an object, separated by commas. -/
def renderMembers : List (String × Json) → String
  | [] => ""
  | [(k, v)] => quote k ++ ":" ++ render v
  | (k, v) :: m :: rest => quote k ++ ":" ++ render v ++ "," ++ renderMembers (m :: rest)

end

/-! ## The canonical order of members -/

mutual

/-- **The canonical form of a value**: the members of every object in the
order of their keys. -/
def sorted : Json → Json
  | .arr items => .arr (sortedItems items)
  | .obj members => .obj ((sortedMembers members).mergeSort fun a b => decide (a.1 ≤ b.1))
  | .null => .null
  | .bool b => .bool b
  | .num n => .num n
  | .float text => .float text
  | .str s => .str s

/-- The items of an array, each in canonical form. -/
def sortedItems : List Json → List Json
  | [] => []
  | v :: rest => sorted v :: sortedItems rest

/-- The members of an object, each value in canonical form. -/
def sortedMembers : List (String × Json) → List (String × Json)
  | [] => []
  | (k, v) :: rest => (k, sorted v) :: sortedMembers rest

end

/-! ## The length of a text -/

/-- The bytes of a value's text. -/
def size (v : Json) : ℕ := v.render.utf8ByteSize

/-- The bytes of one member: key, colon and value. -/
def memberSize (m : String × Json) : ℕ := (quote m.1).utf8ByteSize + 1 + m.2.size

/-- A list of items, with one separator counted per item, is one byte
longer than its text. -/
theorem size_renderItems (items : List Json) :
    (renderItems items).utf8ByteSize = (items.map fun v => v.size + 1).sum - 1 := by
  induction items with
  | nil => rfl
  | cons v rest ih =>
    cases rest with
    | nil => simp [renderItems, size]
    | cons w rest =>
      rw [renderItems, String.utf8ByteSize_append, String.utf8ByteSize_append, ih]
      simp only [List.map_cons, List.sum_cons, size,
        show ",".utf8ByteSize = 1 from rfl]
      omega

/-- A list of members, with one separator counted per member, is one byte
longer than its text. -/
theorem size_renderMembers (members : List (String × Json)) :
    (renderMembers members).utf8ByteSize
      = (members.map fun m => memberSize m + 1).sum - 1 := by
  induction members with
  | nil => rfl
  | cons m rest ih =>
    obtain ⟨k, v⟩ := m
    cases rest with
    | nil =>
      rw [renderMembers, String.utf8ByteSize_append, String.utf8ByteSize_append]
      simp [memberSize, size, show ":".utf8ByteSize = 1 from rfl]
    | cons m' rest =>
      rw [renderMembers, String.utf8ByteSize_append, String.utf8ByteSize_append,
        String.utf8ByteSize_append, String.utf8ByteSize_append, ih]
      simp only [List.map_cons, List.sum_cons, memberSize, size,
        show ",".utf8ByteSize = 1 from rfl, show ":".utf8ByteSize = 1 from rfl]
      omega

theorem size_arr (items : List Json) :
    (Json.arr items).size = 2 + ((items.map fun v => v.size + 1).sum - 1) := by
  rw [size, render, String.utf8ByteSize_append, String.utf8ByteSize_append,
    size_renderItems, show "[".utf8ByteSize = 1 from rfl,
    show "]".utf8ByteSize = 1 from rfl]
  omega

theorem size_obj (members : List (String × Json)) :
    (Json.obj members).size
      = 2 + ((members.map fun m => memberSize m + 1).sum - 1) := by
  rw [size, render, String.utf8ByteSize_append, String.utf8ByteSize_append,
    size_renderMembers, show "\x7b".utf8ByteSize = 1 from rfl,
    show "\x7d".utf8ByteSize = 1 from rfl]
  omega

/-- A member added to an object that has some: its own length and the
separator before it. -/
theorem size_obj_append {ms : List (String × Json)} (h : ms ≠ []) (m : String × Json) :
    (Json.obj (ms ++ [m])).size = (Json.obj ms).size + (memberSize m + 1) := by
  obtain ⟨m', rest, rfl⟩ := List.exists_cons_of_ne_nil h
  rw [size_obj, size_obj, List.map_append, List.sum_append, List.map_cons,
    List.sum_cons, List.map_cons, List.sum_cons, List.map_nil, List.sum_nil]
  omega

/-- **The order of an object's members does not change its length.** -/
theorem size_obj_perm {ms ms' : List (String × Json)} (h : ms.Perm ms') :
    (Json.obj ms).size = (Json.obj ms').size := by
  rw [size_obj, size_obj, (h.map _).sum_nat]

mutual

/-- **The canonical form is as long as the value**: sorting the members
moves bytes and adds none. -/
theorem size_sorted : ∀ v : Json, v.sorted.size = v.size
  | .null | .bool _ | .num _ | .float _ | .str _ => rfl
  | .arr items => by
    rw [sorted, size_arr, size_arr, sum_sortedItems items]
  | .obj members => by
    rw [sorted, size_obj_perm (List.mergeSort_perm _ _), size_obj, size_obj,
      sum_sortedMembers members]

theorem sum_sortedItems : ∀ items : List Json,
    ((sortedItems items).map fun v => v.size + 1).sum
      = (items.map fun v => v.size + 1).sum
  | [] => rfl
  | v :: rest => by
    rw [sortedItems, List.map_cons, List.map_cons, List.sum_cons, List.sum_cons,
      size_sorted v, sum_sortedItems rest]

theorem sum_sortedMembers : ∀ members : List (String × Json),
    ((sortedMembers members).map fun m => memberSize m + 1).sum
      = (members.map fun m => memberSize m + 1).sum
  | [] => rfl
  | (k, v) :: rest => by
    rw [sortedMembers, List.map_cons, List.map_cons, List.sum_cons, List.sum_cons,
      sum_sortedMembers rest, memberSize, memberSize, size_sorted v]

end

/-! ## Texts that need no escape -/

/-- A character that stands for itself in a string. -/
def Plain (c : Char) : Prop := c ≠ '"' ∧ c ≠ '\\' ∧ 32 ≤ c.toNat

instance (c : Char) : Decidable (Plain c) := inferInstanceAs (Decidable (_ ∧ _ ∧ _))

theorem escapeChar_of_plain {c : Char} (h : Plain c) :
    escapeChar c = String.ofList [c] := by
  obtain ⟨hq, hb, hn⟩ := h
  have hne : ∀ d : Char, d.toNat < 32 → c ≠ d := by
    rintro d hd rfl
    omega
  rw [escapeChar, if_neg hq, if_neg hb, if_neg (hne '\n' (by decide)),
    if_neg (hne '\r' (by decide)), if_neg (hne '\t' (by decide)),
    if_neg (by omega), if_neg (by omega), if_neg (by omega)]

/-- **A text of plain characters is quoted as it stands.** -/
theorem escape_of_plain {l : List Char} (h : ∀ c ∈ l, Plain c) :
    escape l = String.ofList l := by
  induction l with
  | nil => rfl
  | cons c rest ih =>
    rw [escape, escapeChar_of_plain (h c List.mem_cons_self),
      ih fun d hd => h d (List.mem_cons_of_mem c hd)]
    show String.ofList [c] ++ String.ofList rest = String.ofList ([c] ++ rest)
    rw [String.ofList_append]

/-- The length of a quoted plain text. -/
theorem size_str_of_plain {s : String} (h : ∀ c ∈ s.toList, Plain c) :
    (Json.str s).size = s.utf8ByteSize + 2 := by
  rw [size, render, quote, escape_of_plain h, String.ofList_toList,
    String.utf8ByteSize_append, String.utf8ByteSize_append,
    show "\"".utf8ByteSize = 1 from rfl]
  omega

/-! ## A bound on the length -/

theorem size_escapeChar_le (c : Char) : (escapeChar c).utf8ByteSize ≤ 6 * c.utf8Size := by
  have hpos := c.utf8Size_pos
  have hshort : ∀ s : String, s.utf8ByteSize ≤ 6 → s.utf8ByteSize ≤ 6 * c.utf8Size :=
    fun s hs => by omega
  have hdigit : ∀ n < 16, (hexDigit n).utf8Size = 1 := by decide
  unfold escapeChar
  split_ifs with h₁ h₂ h₃ h₄ h₅ h₆ h₇ h₈
  · exact hshort _ (by decide)
  · exact hshort _ (by decide)
  · exact hshort _ (by decide)
  · exact hshort _ (by decide)
  · exact hshort _ (by decide)
  · exact hshort _ (by decide)
  · exact hshort _ (by decide)
  · refine hshort _ ?_
    rw [String.utf8ByteSize_append, ← List.singleton_append, String.ofList_append,
      String.utf8ByteSize_append, ← String.singleton_eq_ofList, ← String.singleton_eq_ofList,
      String.utf8ByteSize_singleton, String.utf8ByteSize_singleton, hdigit _ (by omega),
      hdigit _ (by omega)]
    decide
  · rw [← String.singleton_eq_ofList, String.utf8ByteSize_singleton]
    omega

theorem size_escape_le (l : List Char) :
    (escape l).utf8ByteSize ≤ 6 * (String.ofList l).utf8ByteSize := by
  induction l with
  | nil => exact Nat.zero_le _
  | cons c rest ih =>
    have hc := size_escapeChar_le c
    rw [escape, ← List.singleton_append, String.ofList_append, String.utf8ByteSize_append,
      String.utf8ByteSize_append, ← String.singleton_eq_ofList, String.utf8ByteSize_singleton]
    omega

/-- A quoted text is at most six times as long. -/
theorem size_quote_le (s : String) : (quote s).utf8ByteSize ≤ 6 * s.utf8ByteSize + 2 := by
  have hescape := size_escape_le s.toList
  rw [String.ofList_toList] at hescape
  rw [quote, String.utf8ByteSize_append, String.utf8ByteSize_append,
    show "\"".utf8ByteSize = 1 from rfl]
  omega

mutual

/-- **A bound on the length of a text** that looks at no character. -/
def sizeBound : Json → ℕ
  | .str s => 6 * s.utf8ByteSize + 2
  | .arr items => 2 + itemsBound items
  | .obj members => 2 + membersBound members
  | .num n => (toString n).utf8ByteSize
  | .float text => text.utf8ByteSize
  | .null | .bool _ => 5

def itemsBound : List Json → ℕ
  | [] => 0
  | v :: rest => sizeBound v + 1 + itemsBound rest

def membersBound : List (String × Json) → ℕ
  | [] => 0
  | (k, v) :: rest => 6 * k.utf8ByteSize + 3 + sizeBound v + 1 + membersBound rest

end

mutual

theorem size_le_sizeBound : ∀ v : Json, v.size ≤ v.sizeBound
  | .str s => size_quote_le s
  | .arr items => by
    rw [size_arr]
    exact Nat.add_le_add_left ((Nat.sub_le _ _).trans (sum_le_itemsBound items)) 2
  | .obj members => by
    rw [size_obj]
    exact Nat.add_le_add_left ((Nat.sub_le _ _).trans (sum_le_membersBound members)) 2
  | .num _ | .float _ => le_rfl
  | .null | .bool true | .bool false => by decide

theorem sum_le_itemsBound : ∀ items : List Json,
    (items.map fun v => v.size + 1).sum ≤ itemsBound items
  | [] => le_rfl
  | v :: rest => by
    have hv := size_le_sizeBound v
    have hrest := sum_le_itemsBound rest
    rw [List.map_cons, List.sum_cons, itemsBound]
    omega

theorem sum_le_membersBound : ∀ members : List (String × Json),
    (members.map fun m => memberSize m + 1).sum ≤ membersBound members
  | [] => le_rfl
  | (k, v) :: rest => by
    have hk := size_quote_le k
    have hv := size_le_sizeBound v
    have hrest := sum_le_membersBound rest
    rw [List.map_cons, List.sum_cons, membersBound, memberSize]
    dsimp only
    omega

end

end Json
