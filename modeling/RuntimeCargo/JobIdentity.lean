import RuntimeCargo.Soap

/-!
# When two texts name one job

A job is named by a text. The control plane writes a job as a pair of an
origin and a number, the bridge writes it as an object, and either way the
text is JSON. Two texts name the same job if they are equal or if both can be
read in full and give the same account and the same number
(`runtimeJobIdsMatch`). A directory keeps jobs by a key (`DirectoryJobKey`),
which is what was read or, for a text that is no JSON at all, the text
itself.
-/

/-- `AcurastJobIdentity`. -/
structure AcurastJobIdentity where
  origin : Digest
  sequence : ℕ
deriving DecidableEq

/-- `MAX_SAFE_JSON_INTEGER`. -/
def maxSafeJsonInteger : ℕ := 2 ^ 53 - 1

/-- Thirty-two bytes. -/
def Digest.ofList (bytes : List UInt8) : Option Digest :=
  if h : bytes.length = 32 then some ⟨bytes.toArray, h⟩ else none

/-- `parse_safe_sequence`. -/
def parseSafeSequence (value : Json) : Option ℕ :=
  let sequence := match value with
    | .num _ => value.asU64
    | .str text => parseUnsigned (2 ^ 64) (trim text).toList
    | _ => none
  sequence.filter fun n => n ≤ maxSafeJsonInteger

/-- `parse_origin_hex`. -/
def parseOriginHex (source : String) : Option Digest :=
  let source := (stripStart "0x" (trim source)).getD (trim source)
  if source.utf8ByteSize ≠ 64 ∨ ¬ source.toList.all isAsciiHexDigit then none
  else (hexDecode source.toList).bind Digest.ofList

/-- A number that is a byte. -/
def Json.asByte (value : Json) : Option UInt8 :=
  (value.asU64.filter fun n => n ≤ 255).map UInt8.ofNat

mutual

/-- `nested_origin_bytes`: the first list of thirty-two bytes, at any
depth. -/
def nestedOriginBytes : Json → Option Digest
  | .arr items =>
    if items.length = 32 then (items.mapM Json.asByte).bind Digest.ofList
    else nestedOriginItems items
  | _ => none

/-- The first item that has one. -/
def nestedOriginItems : List Json → Option Digest
  | [] => none
  | item :: rest => (nestedOriginBytes item).or (nestedOriginItems rest)

end

/-- `acurast_origin`. -/
def acurastOrigin (value : Json) : Option Digest :=
  let marked := (value.get? "kind").bind Json.asStr = some "Acurast"
    ∨ (value.get? "name").bind Json.asStr = some "Acurast" ∨ (value.get? "acurast").isSome
  match value with
  | .obj _ =>
    if ¬ marked then none
    else
      match (value.get? "source").bind Json.asStr with
      | some source => parseOriginHex source
      | none => (value.get? "values").bind nestedOriginBytes
  | _ => none

/-- The origin and the number of a job. -/
def acurastParts : Json → Option (Json × Json)
  | .arr [origin, sequence] => some (origin, sequence)
  | .obj members =>
    let value := Json.obj members
    (value.get? "origin").bind fun origin =>
      match value.get? "sequence", value.get? "id" with
      | some sequence, some id =>
        (parseSafeSequence sequence).bind fun n => (parseSafeSequence id).bind fun m =>
          if n = m then some (origin, sequence) else none
      | some sequence, none => some (origin, sequence)
      | none, some id => some (origin, id)
      | none, none => none
  | _ => none

section

variable (fromStr : String → Option Json)

/-- `acurast_job_identity`, with the reader of JSON as a parameter. -/
def acurastJobIdentity (jobId : String) : Option AcurastJobIdentity := do
  let value ← fromStr jobId
  let (origin, rawSequence) ← acurastParts value
  let origin ← acurastOrigin origin
  let sequence ← parseSafeSequence rawSequence
  return ⟨origin, sequence⟩

/-- `runtime_job_ids_match`. -/
def runtimeJobIdsMatch (left right : String) : Bool :=
  left = right || match acurastJobIdentity fromStr left, acurastJobIdentity fromStr right with
    | some left, some right => left = right
    | _, _ => false

/-- `DirectoryJobKey`. -/
inductive DirectoryJobKey where
  | acurast (identity : AcurastJobIdentity)
  | opaqueText (jobId : String)
deriving DecidableEq

/-- `directory_job_key`. -/
def directoryJobKey (jobId : String) : Option DirectoryJobKey :=
  if jobId = "" ∨ jobId.utf8ByteSize > 512 then none
  else
    match acurastJobIdentity fromStr jobId with
    | some identity => some (.acurast identity)
    | none =>
      match (jobId.toList.dropWhile isWhitespace).head? with
      | some '[' | some '\x7b' => none
      | _ => some (.opaqueText jobId)

end

/-! ## Matching and keys -/

section Keys

variable {fromStr : String → Option Json} {left right : String}

/-- What a text stands for: the job that is read, or the text itself. -/
def jobName (fromStr : String → Option Json) (jobId : String) : DirectoryJobKey :=
  (acurastJobIdentity fromStr jobId).elim (.opaqueText jobId) .acurast

theorem runtimeJobIdsMatch_iff : runtimeJobIdsMatch fromStr left right = true
    ↔ jobName fromStr left = jobName fromStr right := by
  by_cases hsame : left = right
  · subst hsame
    simp [runtimeJobIdsMatch]
  · unfold runtimeJobIdsMatch jobName
    cases acurastJobIdentity fromStr left <;> cases acurastJobIdentity fromStr right <;>
      simp [hsame]

theorem eq_jobName_of_directoryJobKey {key : DirectoryJobKey}
    (h : directoryJobKey fromStr left = some key) : key = jobName fromStr left := by
  unfold directoryJobKey at h
  unfold jobName
  split_ifs at h
  cases hread : acurastJobIdentity fromStr left with
  | some identity =>
    rw [hread] at h
    exact (Option.some.inj h).symm
  | none =>
    rw [hread] at h
    dsimp only at h
    split at h
    · cases h
    · cases h
    · exact (Option.some.inj h).symm

end Keys
