import RuntimeCargo.Json

/-!
# Words and bytes on the wire

What the messages of the runtime have in common: the canonical JSON every
signed or hashed value is written in, hexadecimal digests, the operations
on texts that the standard library of the source has and Lean's has not,
and the 64-bit arithmetic the source spells out. A digest is a vector of 32 bytes, so
that its hexadecimal form is 64 characters by construction and no
hypothesis about the hash is needed to measure a message that carries one.
-/

/-- The canonical text of a value: members sorted by key, no blanks. -/
def canonicalJsonBytes (v : Json) : String := v.sorted.render

/-- The canonical text is as long as any other text of the value. -/
theorem size_canonicalJsonBytes (v : Json) :
    (canonicalJsonBytes v).utf8ByteSize = v.size :=
  Json.size_sorted v

/-! ## Digests -/

/-- A SHA-256 digest. -/
abbrev Digest := Vector UInt8 32

/-- The two hexadecimal digits of a byte. -/
def hexByte (b : UInt8) : List Char :=
  [Json.hexDigit (b.toNat / 16), Json.hexDigit (b.toNat % 16)]

/-- Lower-case hexadecimal text of a list of bytes. -/
def hexEncode (bytes : List UInt8) : String :=
  String.ofList (bytes.flatMap hexByte)

/-- A hexadecimal digit is an ASCII character that needs no escape. -/
theorem plain_hexDigit : ∀ n < 16,
    Json.Plain (Json.hexDigit n) ∧ (Json.hexDigit n).utf8Size = 1 := by
  decide

/-- Two digits per byte, each one byte long. -/
theorem size_hexEncode (bytes : List UInt8) :
    (hexEncode bytes).utf8ByteSize = 2 * bytes.length := by
  induction bytes with
  | nil => rfl
  | cons b rest ih =>
    have hb : b.toNat < 256 := b.toNat_lt
    have h₁ := (plain_hexDigit (b.toNat / 16) (by omega)).2
    have h₂ := (plain_hexDigit (b.toNat % 16) (by omega)).2
    rw [hexEncode, List.flatMap_cons, String.ofList_append,
      String.utf8ByteSize_append, List.length_cons]
    rw [hexEncode] at ih
    rw [hexByte, ← List.singleton_append, String.ofList_append, String.utf8ByteSize_append,
      ← String.singleton_eq_ofList, ← String.singleton_eq_ofList, String.utf8ByteSize_singleton,
      String.utf8ByteSize_singleton]
    omega

/-- What holds of the digits holds of the characters of hexadecimal text. -/
theorem forall_hexEncode {P : Char → Prop} (h : ∀ n < 16, P (Json.hexDigit n))
    (bytes : List UInt8) : ∀ c ∈ (hexEncode bytes).toList, P c := by
  intro c hc
  rw [hexEncode, String.toList_ofList, List.mem_flatMap] at hc
  obtain ⟨b, -, hb⟩ := hc
  have hlt : b.toNat < 256 := b.toNat_lt
  rw [hexByte, List.mem_cons, List.mem_singleton] at hb
  rcases hb with rfl | rfl
  · exact h _ (by omega)
  · exact h _ (by omega)

/-- Hexadecimal text needs no escape. -/
theorem plain_hexEncode (bytes : List UInt8) :
    ∀ c ∈ (hexEncode bytes).toList, Json.Plain c :=
  forall_hexEncode (fun n hn => (plain_hexDigit n hn).1) bytes

/-- The size of a number that is written in hexadecimal. -/
theorem size_str_hexEncode (bytes : List UInt8) :
    (Json.str ("0x" ++ hexEncode bytes)).size = 2 * bytes.length + 4 := by
  have hplain : ∀ c ∈ ("0x" ++ hexEncode bytes).toList, Json.Plain c := by
    intro c hc
    rw [String.toList_append, List.mem_append] at hc
    cases hc with
    | inl hc =>
      have hstart : ∀ c ∈ ['0', 'x'], Json.Plain c := by simp [Json.Plain]
      exact hstart c hc
    | inr hc => exact plain_hexEncode bytes c hc
  rw [Json.size_str_of_plain hplain, String.utf8ByteSize_append, size_hexEncode,
    show "0x".utf8ByteSize = 2 by rfl]
  omega

/-! ## Texts -/

/-- The bytes of a text. -/
def utf8 (s : String) : List UInt8 := s.toByteArray.data.toList

theorem length_utf8 (s : String) : (utf8 s).length = s.utf8ByteSize := by
  rfl

/-- The length of a text that repeats a character. -/
theorem size_ofList_replicate (n : ℕ) (c : Char) :
    (String.ofList (List.replicate n c)).utf8ByteSize = n * c.utf8Size := by
  induction n with
  | zero => simp
  | succ n ih =>
    rw [List.replicate_succ, ← List.singleton_append, String.ofList_append,
      String.utf8ByteSize_append, ih, ← String.singleton_eq_ofList, String.utf8ByteSize_singleton,
      Nat.succ_mul, Nat.add_comm]

/-- `is_ascii_hexdigit`. -/
def isAsciiHexDigit (c : Char) : Bool :=
  ('0' ≤ c && c ≤ '9') || ('a' ≤ c && c ≤ 'f') || ('A' ≤ c && c ≤ 'F')

/-- `char::is_whitespace`: the characters Unicode calls `White_Space`. -/
def isWhitespace (c : Char) : Bool :=
  let n := c.toNat
  (9 ≤ n && n ≤ 13) || (0x2000 ≤ n && n ≤ 0x200A)
    || [0x20, 0x85, 0xA0, 0x1680, 0x2028, 0x2029, 0x202F, 0x205F, 0x3000].contains n

/-- `str::trim`. -/
def trim (s : String) : String :=
  String.ofList (((s.toList.dropWhile isWhitespace).reverse.dropWhile isWhitespace).reverse)

/-- `str::strip_prefix`. -/
def stripStart (start s : String) : Option String :=
  if s.toList.take start.length = start.toList then some (String.ofList (s.toList.drop start.length))
  else none

/-- `str::to_ascii_lowercase`. -/
def toAsciiLowercase (s : String) : String := String.ofList (s.toList.map Char.toLower)

/-- The value of a hexadecimal digit. -/
def hexValue (c : Char) : Option ℕ :=
  if '0' ≤ c ∧ c ≤ '9' then some (c.toNat - 48)
  else if 'a' ≤ c ∧ c ≤ 'f' then some (c.toNat - 87)
  else if 'A' ≤ c ∧ c ≤ 'F' then some (c.toNat - 55)
  else none

/-- `hex::decode`: two digits of either case a byte. -/
def hexDecode : List Char → Option (List UInt8)
  | [] => some []
  | [_] => none
  | high :: low :: rest => do
    let h ← hexValue high
    let l ← hexValue low
    let bytes ← hexDecode rest
    some (UInt8.ofNat (16 * h + l) :: bytes)

theorem stripStart_append (start s : String) : stripStart start (start ++ s) = some s := by
  have hlen : start.length = start.toList.length := String.length_toList.symm
  unfold stripStart
  rw [String.toList_append, hlen, List.take_left, if_pos rfl, List.drop_left, String.ofList_toList]

/-- A hexadecimal digit is read as what it was written for. -/
theorem hexValue_hexDigit : ∀ n < 16, hexValue (Json.hexDigit n) = some n
    ∧ isAsciiHexDigit (Json.hexDigit n) = true
    ∧ (Json.hexDigit n).toLower = Json.hexDigit n := by
  decide

/-- **Hexadecimal text is read back.** -/
theorem hexDecode_hexEncode (bytes : List UInt8) :
    hexDecode (hexEncode bytes).toList = some bytes := by
  rw [hexEncode, String.toList_ofList]
  induction bytes with
  | nil => rfl
  | cons b rest ih =>
    have hb : b.toNat < 256 := b.toNat_lt
    have hvalue : 16 * (b.toNat / 16) + b.toNat % 16 = b.toNat := Nat.div_add_mod _ _
    rw [List.flatMap_cons, hexByte, List.cons_append, List.cons_append, List.nil_append, hexDecode,
      (hexValue_hexDigit _ (by omega)).1, (hexValue_hexDigit _ (by omega)).1, ih]
    show some (UInt8.ofNat (16 * (b.toNat / 16) + b.toNat % 16) :: rest) = some (b :: rest)
    rw [hvalue, UInt8.ofNat_toNat]

/-- Hexadecimal text is made of lower-case digits. -/
theorem hexDigits_hexEncode (bytes : List UInt8) :
    (hexEncode bytes).toList.all isAsciiHexDigit = true
      ∧ toAsciiLowercase (hexEncode bytes) = hexEncode bytes := by
  have hchar : ∀ c ∈ (hexEncode bytes).toList, isAsciiHexDigit c = true ∧ c.toLower = c :=
    forall_hexEncode (fun n hn => (hexValue_hexDigit n hn).2) bytes
  refine ⟨List.all_eq_true.mpr fun c hc => (hchar c hc).1, ?_⟩
  rw [toAsciiLowercase, (List.map_congr_left fun c hc => (hchar c hc).2).trans (List.map_id _),
    String.ofList_toList]

/-! ## 64-bit arithmetic -/

/-- The largest unsigned 64-bit number. -/
def u64Max : ℕ := 2 ^ 64 - 1

/-- Addition of unsigned 64-bit numbers, refused on overflow. -/
def checkedAdd (a b : ℕ) : Option ℕ := if a + b ≤ u64Max then some (a + b) else none

/-- Subtraction of unsigned numbers, refused below zero. -/
def checkedSub (a b : ℕ) : Option ℕ := if b ≤ a then some (a - b) else none

/-- Addition of unsigned 64-bit numbers that stops at the largest one. -/
def saturatingAdd (a b : ℕ) : ℕ := min (a + b) u64Max

theorem checkedAdd_eq_some {a b c : ℕ} (h : checkedAdd a b = some c) :
    c = a + b ∧ a + b ≤ u64Max := by
  unfold checkedAdd at h
  split at h
  · exact ⟨(Option.some.inj h).symm, ‹_›⟩
  · cases h

theorem checkedAdd_of_le {a b : ℕ} (h : a + b ≤ u64Max) :
    checkedAdd a b = some (a + b) := if_pos h
