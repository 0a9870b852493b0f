import RuntimeCargo.RuntimeEnv

/-!
# The environment of the customer's process

The process of the customer is started with the environment the runtime
itself has inherited, changed in two ways. Four variables that may name
things that do not exist in the guest are repaired. And the variables of
the runtime environment – the signed map, the customer's secrets, the log
configuration and what the helper adds – are laid over it.

Some names belong to the runtime and must not reach the customer. The
inherited environment is stripped of them, and the signed map is refused
if it has one. A secret is not looked at in this respect, and a secret
that is delivered under such a name is passed on.
`protected_of_childEnvironment` is the exact account: the process has one
of the runtime's names if and only if the secrets bring it.

Names and values of an environment are byte strings; a name is compared
with a text by its bytes, and only a name that is UTF-8 is a text at all
(`OsString.toStr_eq_some`).
-/

/-- `OsString`. -/
structure OsString where
  bytes : ByteArray
  deriving DecidableEq

namespace OsString

/-- `OsStr::to_str`. -/
def toStr (s : OsString) : Option String := String.fromUTF8? s.bytes

/-- The byte string of a text. -/
def ofStr (s : String) : OsString := ⟨s.toByteArray⟩

theorem toStr_ofStr (s : String) : (ofStr s).toStr = some s := by
  show String.fromUTF8? s.toByteArray = some s
  rw [String.fromUTF8?, dif_pos s.isValidUTF8]
  rfl

theorem toStr_eq_some {s : OsString} {text : String} : s.toStr = some text ↔ s = ofStr text := by
  constructor
  · intro h
    unfold toStr String.fromUTF8? at h
    split at h
    · cases h
      rfl
    · cases h
  · rintro rfl
    exact toStr_ofStr text

theorem ofStr_inj {s t : String} (h : ofStr s = ofStr t) : s = t :=
  Option.some.inj (by rw [← toStr_ofStr s, h, toStr_ofStr])

end OsString

/-- An environment, as a process receives it. -/
abbrev Environment := List (OsString × OsString)

/-- The variable is set. -/
def Environment.Sets (environment : Environment) (name : String) : Prop :=
  ∃ value, (OsString.ofStr name, value) ∈ environment

/-! ## Repairing the inherited variables -/

/-- `GuestFilesystem`, on the states `G` of a file system. -/
structure GuestFilesystem (G : Type) where
  isDirectory : G → OsString → Bool
  isWritableDirectory : G → OsString → Bool
  isFile : G → OsString → Bool
  /-- Whether it succeeds is not asked for. -/
  createStickyDirectory : G → OsString → G

/-- `NormalizationReason`. -/
inductive NormalizationReason where
  | directoryMissing
  | directoryNotWritable
  | objectMissing
  | unset
  | empty
  deriving DecidableEq, Repr

/-- `Normalization`. -/
structure Normalization where
  name : String
  reason : NormalizationReason
  deriving DecidableEq, Repr

def defaultTmpdir : String := "/tmp"

def defaultPath : String := "/usr/local/sbin:/usr/local/bin:/usr/sbin:/usr/bin:/sbin:/bin"

def defaultHome : String := "/root"

/-- `lookup`: the first value under a name. -/
def Environment.lookup (environment : Environment) (name : String) : Option OsString :=
  (environment.find? fun entry => entry.1 = OsString.ofStr name).map Prod.snd

/-- `set`: the first value under a name is replaced, or the variable is
added at the end. -/
def Environment.set (name value : String) : Environment → Environment
  | [] => [(OsString.ofStr name, OsString.ofStr value)]
  | entry :: rest =>
    if entry.1 = OsString.ofStr name then (entry.1, OsString.ofStr value) :: rest
    else entry :: Environment.set name value rest

section Normalize

variable {G : Type} (guest : GuestFilesystem G) (signed : String → Bool)

/-- `preload_resolves`: every object the list names is a file, unless it
is looked for in the library path. -/
def preloadResolves (g : G) (value : OsString) : Bool :=
  ((value.bytes.data.toList.splitOnP fun b => b = 32 || b = 58).filter fun entry => entry ≠ []).all
    fun entry => !entry.contains 47 || guest.isFile g ⟨⟨entry.toArray⟩⟩

/-- What the rules work on: the environment, the changes so far and the
file system. -/
abbrev Repair (G : Type) := Environment × List Normalization × G

/-- The rule for `TMPDIR`. -/
def normalizeTmpdir : Repair G → Repair G
  | (inherited, changes, g) =>
    if signed "TMPDIR" then (inherited, changes, g)
    else
      match inherited.lookup "TMPDIR" with
      | none => (inherited, changes, g)
      | some path =>
        if guest.isWritableDirectory g path then (inherited, changes, g)
        else
          let reason := if guest.isDirectory g path then NormalizationReason.directoryNotWritable
            else .directoryMissing
          let tmp := OsString.ofStr defaultTmpdir
          (Environment.set "TMPDIR" defaultTmpdir inherited, changes ++ [⟨"TMPDIR", reason⟩],
            if guest.isDirectory g tmp then g else guest.createStickyDirectory g tmp)

/-- The rule for `LD_PRELOAD`: a list with an object that is missing is
removed. -/
def normalizePreload : Repair G → Repair G
  | (inherited, changes, g) =>
    if signed "LD_PRELOAD" then (inherited, changes, g)
    else
      match inherited.lookup "LD_PRELOAD" with
      | none => (inherited, changes, g)
      | some value =>
        if preloadResolves guest g value then (inherited, changes, g)
        else (inherited.filter fun entry => entry.1 ≠ OsString.ofStr "LD_PRELOAD",
          changes ++ [⟨"LD_PRELOAD", .objectMissing⟩], g)

/-- The rule for `PATH`. -/
def normalizePath : Repair G → Repair G
  | (inherited, changes, g) =>
    if signed "PATH" then (inherited, changes, g)
    else
      match inherited.lookup "PATH" with
      | none => (Environment.set "PATH" defaultPath inherited, changes ++ [⟨"PATH", .unset⟩], g)
      | some value =>
        if value.bytes.size = 0 then
          (Environment.set "PATH" defaultPath inherited, changes ++ [⟨"PATH", .empty⟩], g)
        else (inherited, changes, g)

/-- The rule for `HOME`. -/
def normalizeHome : Repair G → Repair G
  | (inherited, changes, g) =>
    if signed "HOME" then (inherited, changes, g)
    else
      match inherited.lookup "HOME" with
      | none => (Environment.set "HOME" defaultHome inherited, changes ++ [⟨"HOME", .unset⟩], g)
      | some _ => (inherited, changes, g)

/-- `normalize_customer_environment`. -/
def normalizeCustomerEnvironment (inherited : Environment) (g : G) : Repair G :=
  normalizeHome signed (normalizePath signed
    (normalizePreload guest signed (normalizeTmpdir guest signed (inherited, [], g))))

end Normalize

/-! ## Putting the environment together -/

/-- `sanitize_environment_values`. -/
def sanitizeEnvironmentValues (values : Environment) : Environment :=
  values.filter fun entry => !entry.1.toStr.any fun key => protectedEnvNames.contains key

/-- The names only the helper sets. -/
def helperEnvNames : List String :=
  ["LISKOV_DISCOVERY_FILE", "LISKOV_PEER_PROXY", "LISKOV_PEER_ADVERTISEMENT_FILE",
    "LISKOV_PEER_DIRECTORY_FILE", "LISKOV_RUNTIME_INSTANCE_ID", "LISKOV_APPLICATION_READINESS",
    "LISKOV_APPLICATION_READY_FILE"]

/-- A variable of the runtime environment replaces all others of its
name. -/
def overlay (environment : Environment) (entry : String × String) : Environment :=
  (environment.filter fun existing => existing.1.toStr ≠ some entry.1)
    ++ [(OsString.ofStr entry.1, OsString.ofStr entry.2)]

/-- `merge_runtime_environment`. -/
def mergeRuntimeEnvironment (environment : Environment) (runtimeEnvironment : StringMap) :
    Environment :=
  runtimeEnvironment.toList.foldl overlay environment

/-- `customer_environment`. -/
def customerEnvironment {G : Type} (guest : GuestFilesystem G) (g : G) (inherited : Environment)
    (runtimeEnvironment : StringMap) : Environment × List Normalization :=
  let inherited := inherited.filter fun entry =>
    !entry.1.toStr.any fun key => helperEnvNames.contains key
  let (inherited, normalized, _) := normalizeCustomerEnvironment guest
    (fun name => runtimeEnvironment.contains name) (sanitizeEnvironmentValues inherited) g
  (mergeRuntimeEnvironment inherited runtimeEnvironment, normalized)

/-- What the helper tells the customer: the paths of its files, as text,
and the address of its proxy. -/
structure HelperFiles where
  discovery : Option String
  /-- The paths of the advertisement and of the directory. -/
  directPeer : Option (String × String)
  peerProxy : Option String
  applicationReady : Option String

/-- Insert a variable if there is a value for it. -/
def insertSome (name : String) (value : Option String) (environment : StringMap) : StringMap :=
  match value with
  | some value => environment.insert name value
  | none => environment

/-- `discovery_environment`. -/
def discoveryEnvironment (runtimeEnvironment : StringMap) (bootstrap : RuntimeBootstrapResponse)
    (files : HelperFiles) : StringMap :=
  let environment := ["LISKOV_DISCOVERY_FILE", "LISKOV_PEER_PROXY",
    "LISKOV_PEER_ADVERTISEMENT_FILE", "LISKOV_PEER_DIRECTORY_FILE",
    "LISKOV_APPLICATION_READINESS", "LISKOV_APPLICATION_READY_FILE"].foldl
      (fun environment name => environment.erase name) runtimeEnvironment
  let environment := environment.insert "LISKOV_RUNTIME_INSTANCE_ID" bootstrap.runtimeInstanceId
  let environment := insertSome "LISKOV_DISCOVERY_FILE" files.discovery environment
  let environment := insertSome "LISKOV_PEER_ADVERTISEMENT_FILE"
    (files.directPeer.map Prod.fst) environment
  let environment := insertSome "LISKOV_PEER_DIRECTORY_FILE"
    (files.directPeer.map Prod.snd) environment
  let environment := insertSome "LISKOV_PEER_PROXY" files.peerProxy environment
  let environment := insertSome "LISKOV_APPLICATION_READINESS"
    (files.applicationReady.map fun _ => "v1") environment
  insertSome "LISKOV_APPLICATION_READY_FILE" files.applicationReady environment

/-- The Lockbox bootstrap: that of the runtime environment, else that of
the process's own environment, else the one that is discovered. -/
def rawLockboxBootstrap (w : LockboxWorld) (bootstrap : RuntimeBootstrapResponse)
    (ambient : Option String) (environment : StringMap) (nowMs : ℕ) (nonce : List UInt8) :
    SecretResult (Option Json) :=
  match environment["LISKOV_LOCKBOX_BOOTSTRAP"]?.or ambient with
  | some text => .ok (w.fromSlice (utf8 text))
  | none => some <$> discoverLockboxBootstrapWith w bootstrap secretsUrl nowMs nonce 0 0

/-- `hydrate_blackbox_log_config`: the log configuration is added unless
it is there. -/
def hydrateBlackboxLogConfig (w : LockboxWorld) (io : HydrateIo)
    (bootstrap : RuntimeBootstrapResponse) (ambient : Option String) (environment : StringMap) :
    SecretResult StringMap := do
  if bootstrap.loggingEnabled = false ∨ "BLACKBOX_LOG_CONFIG" ∈ environment then
    return environment
  let discoveryNonce ← io.discoveryNonce.okOr .randomness
  let requestNonce ← io.requestNonce.okOr .randomness
  let now ← io.nowMs.okOr .clock
  let raw ← rawLockboxBootstrap w bootstrap ambient environment now discoveryNonce
  let config ← loadBlackboxLogConfigWith w bootstrap raw now requestNonce 4 1
  return insertSome "BLACKBOX_LOG_CONFIG" config environment

/-- **What the customer's process is started with**, once the signed map
and the secrets are in `runtimeEnvironment`: the log configuration is
added if it can be had, then what the helper knows, and the whole is laid
over what was inherited. -/
def childEnvironment {G : Type} (guest : GuestFilesystem G) (g : G) (w : LockboxWorld)
    (io : HydrateIo) (bootstrap : RuntimeBootstrapResponse) (ambient : Option String)
    (files : HelperFiles) (inherited : Environment) (runtimeEnvironment : StringMap) :
    Environment :=
  let environment :=
    match hydrateBlackboxLogConfig w io bootstrap ambient runtimeEnvironment with
    | .ok environment => environment
    | .error _ => runtimeEnvironment
  (customerEnvironment guest g inherited (discoveryEnvironment environment bootstrap files)).1

/-! ## Which names the process has -/

variable {name : String} {environment : Environment} {runtimeEnvironment : StringMap}
  {bootstrap : RuntimeBootstrapResponse} {w : LockboxWorld} {io : HydrateIo}

theorem Environment.sets_cons {entry : OsString × OsString} {rest : Environment} :
    Environment.Sets (entry :: rest) name
      ↔ entry.1 = OsString.ofStr name ∨ Environment.Sets rest name := by
  grind [Environment.Sets]

theorem Environment.sets_filter {p : OsString × OsString → Bool}
    (h : Environment.Sets (environment.filter p) name) :
    environment.Sets name := by
  obtain ⟨value, hvalue⟩ := h
  exact ⟨value, (List.mem_filter.mp hvalue).1⟩

/-- Setting a variable sets no other. -/
theorem Environment.sets_set {n v : String} (h : (Environment.set n v environment).Sets name) :
    environment.Sets name ∨ name = n := by
  induction environment with
  | nil =>
    rw [Environment.set, Environment.sets_cons] at h
    rcases h with h | ⟨value, h⟩
    · exact Or.inr (OsString.ofStr_inj h).symm
    · cases h
  | cons entry rest ih => grind [Environment.set, Environment.sets_cons]

section Rules

variable {G : Type} {guest : GuestFilesystem G} {signed : String → Bool} {r : Repair G}
  {name : String}

theorem sets_normalizeTmpdir (h : (normalizeTmpdir guest signed r).1.Sets name) :
    r.1.Sets name ∨ name = "TMPDIR" := by
  grind [normalizeTmpdir, Environment.sets_set]

theorem sets_normalizePreload (h : (normalizePreload guest signed r).1.Sets name) :
    r.1.Sets name := by
  obtain ⟨inherited, changes, g⟩ := r
  simp only [normalizePreload] at h
  split_ifs at h
  · exact h
  split at h
  · exact h
  split_ifs at h
  · exact h
  · exact Environment.sets_filter h

theorem sets_normalizePath (h : (normalizePath signed r).1.Sets name) :
    r.1.Sets name ∨ name = "PATH" := by
  grind [normalizePath, Environment.sets_set]

theorem sets_normalizeHome (h : (normalizeHome signed r).1.Sets name) :
    r.1.Sets name ∨ name = "HOME" := by
  grind [normalizeHome, Environment.sets_set]

/-- **The repair sets no name but those it repairs.** -/
theorem sets_normalizeCustomerEnvironment {inherited : Environment} {g : G}
    (h : (normalizeCustomerEnvironment guest signed inherited g).1.Sets name) :
    inherited.Sets name ∨ name ∈ ["TMPDIR", "PATH", "HOME"] := by
  rcases sets_normalizeHome h with h | rfl
  · rcases sets_normalizePath h with h | rfl
    · rcases sets_normalizeTmpdir (sets_normalizePreload h) with h | rfl
      · exact Or.inl h
      · simp
    · simp
  · simp

end Rules

/-- What is sanitized sets none of the runtime's names. -/
theorem not_sets_sanitizeEnvironmentValues {values : Environment}
    (hname : name ∈ protectedEnvNames) : ¬ (sanitizeEnvironmentValues values).Sets name := by
  rintro ⟨value, hvalue⟩
  have hkept := (List.mem_filter.mp hvalue).2
  rw [OsString.toStr_ofStr, Option.any_some, Bool.not_eq_true', ← Bool.not_eq_true,
    List.contains_iff_mem] at hkept
  exact hkept hname

/-- **The names after the overlay** are those before it and those laid
over. -/
theorem sets_mergeRuntimeEnvironment :
    (mergeRuntimeEnvironment environment runtimeEnvironment).Sets name
      ↔ environment.Sets name ∨ name ∈ runtimeEnvironment := by
  have hoverlay : ∀ (environment : Environment) (entry : String × String),
      (overlay environment entry).Sets name ↔ environment.Sets name ∨ name = entry.1 := by
    intro environment entry
    constructor
    · rintro ⟨value, hvalue⟩
      rcases List.mem_append.mp hvalue with h | h
      · exact Or.inl ⟨value, (List.mem_filter.mp h).1⟩
      · rw [List.mem_singleton, Prod.mk.injEq] at h
        exact Or.inr (OsString.ofStr_inj h.1)
    · by_cases hname : name = entry.1
      · exact fun _ => ⟨OsString.ofStr entry.2, by simp [overlay, hname]⟩
      · rintro (⟨value, hvalue⟩ | heq)
        · exact ⟨value, List.mem_append_left _ (by simp [hvalue, OsString.toStr_ofStr, hname])⟩
        · exact absurd heq hname
  have hfold : ∀ (l : List (String × String)) (environment : Environment),
      (l.foldl overlay environment).Sets name ↔ environment.Sets name ∨ name ∈ l.map Prod.fst := by
    intro l
    induction l with
    | nil => simp
    | cons entry rest ih => grind
  rw [mergeRuntimeEnvironment, hfold, Std.ExtTreeMap.map_fst_toList_eq_keys,
    Std.ExtTreeMap.mem_keys]

/-- A map has a name exactly when it had it before a variable of another
name was inserted. -/
theorem mem_insertSome {n : String} {value : Option String} {environment : StringMap}
    (h : name ≠ n) : name ∈ insertSome n value environment ↔ name ∈ environment := by
  cases value with
  | none => rfl
  | some value =>
    rw [insertSome, Std.ExtTreeMap.mem_insert, Std.LawfulEqCmp.compare_eq_iff_eq]
    exact or_iff_right fun heq => h heq.symm

/-- **The helper touches no name but its own.** -/
theorem mem_discoveryEnvironment {files : HelperFiles} (h : name ∉ helperEnvNames) :
    name ∈ discoveryEnvironment runtimeEnvironment bootstrap files
      ↔ name ∈ runtimeEnvironment := by
  have hne : ∀ n ∈ helperEnvNames, name ≠ n := fun n hn heq => h (heq ▸ hn)
  have herase : ∀ (names : List String) (environment : StringMap), (∀ n ∈ names, name ≠ n) →
      (name ∈ names.foldl (fun environment n => environment.erase n) environment
        ↔ name ∈ environment) := by
    intro names
    induction names with
    | nil => exact fun environment _ => Iff.rfl
    | cons n rest ih => grind
  unfold discoveryEnvironment
  iterate 6 rw [mem_insertSome (hne _ (by decide))]
  rw [Std.ExtTreeMap.mem_insert, Std.LawfulEqCmp.compare_eq_iff_eq,
    or_iff_right fun heq => hne _ (by decide) heq.symm,
    herase _ _ fun n hn => hne n (by revert n; decide)]

/-- The log configuration is one variable. -/
theorem mem_hydrateBlackboxLogConfig {ambient : Option String}
    {environment environment' : StringMap} (hname : name ≠ "BLACKBOX_LOG_CONFIG")
    (h : hydrateBlackboxLogConfig w io bootstrap ambient environment = .ok environment') :
    name ∈ environment' ↔ name ∈ environment := by
  unfold hydrateBlackboxLogConfig at h
  split at h
  · cases h
    rfl
  · obtain ⟨discoveryNonce, -, h⟩ := Option.okOr_bind_eq_ok.mp h
    obtain ⟨requestNonce, -, h⟩ := Option.okOr_bind_eq_ok.mp h
    obtain ⟨now, -, h⟩ := Option.okOr_bind_eq_ok.mp h
    obtain ⟨raw, -, h⟩ := Except.bind_eq_ok.mp h
    obtain ⟨config, -, h⟩ := Except.bind_eq_ok.mp h
    cases h
    exact mem_insertSome hname

/-- None of the runtime's names is one that something else sets. -/
theorem protectedEnvNames_apart (h : name ∈ protectedEnvNames) :
    name ∉ helperEnvNames ∧ name ≠ "BLACKBOX_LOG_CONFIG" ∧ name ∉ ["TMPDIR", "PATH", "HOME"] := by
  revert name
  decide

/-- **The process has one of the runtime's names if and only if the
runtime environment has it.** -/
theorem sets_childEnvironment_iff {G : Type} {guest : GuestFilesystem G} {g : G}
    {ambient : Option String} {files : HelperFiles} {inherited : Environment}
    (hname : name ∈ protectedEnvNames) :
    (childEnvironment guest g w io bootstrap ambient files inherited runtimeEnvironment).Sets name
      ↔ name ∈ runtimeEnvironment := by
  obtain ⟨hhelper, hconfig, hrepaired⟩ := protectedEnvNames_apart hname
  have henv : name ∈ (match hydrateBlackboxLogConfig w io bootstrap ambient runtimeEnvironment with
      | .ok environment => environment
      | .error _ => runtimeEnvironment) ↔ name ∈ runtimeEnvironment := by
    split
    next h =>
      exact mem_hydrateBlackboxLogConfig hconfig h
    · rfl
  unfold childEnvironment customerEnvironment
  simp only
  rw [sets_mergeRuntimeEnvironment, mem_discoveryEnvironment hhelper, henv]
  refine or_iff_right fun h => ?_
  rcases sets_normalizeCustomerEnvironment h with h | h
  · exact not_sets_sanitizeEnvironmentValues hname h
  · exact hrepaired h

/-- Without the hint nothing is delivered. -/
theorem loadAndInstall_of_none {delivery : CustomerSecretDelivery}
    (hnone : bootstrap.customerRequired = none) (h : loadAndInstall w io bootstrap = .ok delivery) :
    delivery = .empty := by
  obtain ⟨now, -, h⟩ := Option.okOr_bind_eq_ok.mp h
  obtain ⟨discovery, -, h⟩ := Option.okOr_bind_eq_ok.mp h
  obtain ⟨request, -, h⟩ := Option.okOr_bind_eq_ok.mp h
  obtain ⟨delivery', hload, h⟩ := Except.bind_eq_ok.mp h
  obtain ⟨-, h⟩ := require_bind_eq_ok.mp h
  cases h
  rw [loadCustomerSecretsWith, if_pos hnone] at hload
  exact (Except.ok.inj hload).symm

/-- **The customer's process gets none of the runtime's names, if and only
if the secrets bring none.** For every inherited environment, every signed
map that was accepted and every delivery of secrets: the process is
started without a protected name exactly when no delivery that was
accepted has one among its variables. -/
theorem protected_of_childEnvironment {G : Type} (guest : GuestFilesystem G) (g : G)
    (w : LockboxWorld) (io : HydrateIo) (bootstrap : RuntimeBootstrapResponse)
    (ambient : Option String) (files : HelperFiles) (inherited : Environment)
    {request : UnsignedRuntimeEnvRequest} {body : Option Json} {signed environment : StringMap}
    (hsigned : validateResponse request body = .ok signed)
    (hhydrate : hydrateCustomerSecrets w io bootstrap signed = .ok environment) :
    (∀ name ∈ protectedEnvNames,
        ¬ (childEnvironment guest g w io bootstrap ambient files inherited environment).Sets name)
      ↔ ∀ delivery, loadAndInstall w io bootstrap = .ok delivery →
        ∀ name ∈ protectedEnvNames, name ∉ delivery.environment := by
  have hchild : ∀ name ∈ protectedEnvNames,
      ((childEnvironment guest g w io bootstrap ambient files inherited environment).Sets name
        ↔ ∃ delivery, loadAndInstall w io bootstrap = .ok delivery
          ∧ name ∈ delivery.environment) := by
    intro name hname
    rw [sets_childEnvironment_iff hname]
    unfold hydrateCustomerSecrets at hhydrate
    split at hhydrate
    case h_1 hnone =>
      cases hhydrate
      refine iff_of_false (validateResponse_unprotected hsigned hname) ?_
      rintro ⟨delivery, hload, hmem⟩
      rw [loadAndInstall_of_none hnone hload] at hmem
      exact absurd hmem Std.ExtTreeMap.not_mem_empty
    case h_2 required _ =>
      cases hload : loadAndInstall w io bootstrap with
      | ok delivery =>
        rw [hload] at hhydrate
        cases hhydrate
        rw [StringMap.mem_extend, or_iff_right (validateResponse_unprotected hsigned hname)]
        exact ⟨fun h => ⟨delivery, rfl, h⟩, fun ⟨_, heq, h⟩ => Except.ok.inj heq ▸ h⟩
      | error e =>
        rw [hload] at hhydrate
        refine iff_of_false ?_ (by rintro ⟨delivery, heq, -⟩; exact absurd heq nofun)
        simp only at hhydrate
        split at hhydrate
        · cases hhydrate
        · cases hhydrate
          exact validateResponse_unprotected hsigned hname
  constructor
  · intro h delivery hload name hname hmem
    exact h name hname ((hchild name hname).mpr ⟨delivery, hload, hmem⟩)
  · intro h name hname hsets
    obtain ⟨delivery, hload, hmem⟩ := (hchild name hname).mp hsets
    exact h delivery hload name hname hmem

/-! ## A secret under a name of the runtime -/

/-- A signed response without variables. -/
def sampleEnvResponse : Json :=
  .obj [("ok", .bool true), ("domain", .str "proof.liskov.runtime-env-response.v2"),
    ("requestId", .str "request"), ("applicationUid", .str "uid"), ("applicationId", .str "app"),
    ("policyDigest", .str "digest"), ("jobId", .str "job"), ("deploymentId", .str "deployment"),
    ("processorId", .str "processor"), ("revision", .str "1"), ("issuedAtMs", .num 0),
    ("expiresAtMs", .num 60000), ("refreshAfterMs", .num 30000), ("values", .obj [])]

/-- The request it answers. -/
def sampleEnvRequest : UnsignedRuntimeEnvRequest :=
  ⟨"uid", "app", "digest", "job", "deployment", "processor", "", 0, 60000⟩

theorem validateResponse_sample :
    validateResponse sampleEnvRequest (some sampleEnvResponse) = .ok ∅ := by
  refine Option.okOr_bind_eq_ok.mpr ⟨⟨true, "proof.liskov.runtime-env-response.v2", "request", "uid",
    "app", "digest", "job", "deployment", "processor", "1", 0, 60000, 30000, ∅⟩, ?_, ?_⟩
  · rw [Option.bind_some, sampleEnvResponse, RuntimeEnvResponse.ofJson, if_pos (by decide)]
    rfl
  refine require_bind_eq_ok.mpr
    ⟨⟨rfl, rfl, by decide, by decide, by decide, by decide, by decide⟩, ?_⟩
  refine require_bind_eq_ok.mpr ⟨⟨rfl, rfl, rfl, rfl, rfl, rfl⟩, ?_⟩
  exact require_bind_eq_ok.mpr ⟨⟨by decide, fun entry h => absurd h List.not_mem_nil⟩, rfl⟩

/-- A process that has a clock and randomness, and whose files can be
installed. -/
def sampleHydrateIo : HydrateIo where
  nowMs := some 0
  discoveryNonce := some []
  requestNonce := some []
  installSecretFiles _ := true

/-- A guest whose files are all as they should be. -/
def sampleGuest : GuestFilesystem Unit where
  isDirectory _ _ := true
  isWritableDirectory _ _ := true
  isFile _ _ := true
  createStickyDirectory g _ := g

section Sample

variable (sha256 : List UInt8 → Digest) {name : String}

theorem loadAndInstall_sample (h : Deliverable name) :
    loadAndInstall (sampleLockbox sha256 name) sampleHydrateIo sampleBootstrap
      = .ok ⟨(∅ : StringMap).insert name "value", ∅⟩ := by
  refine Option.okOr_bind_eq_ok.mpr ⟨0, rfl, ?_⟩
  refine Option.okOr_bind_eq_ok.mpr ⟨[], rfl, ?_⟩
  refine Option.okOr_bind_eq_ok.mpr ⟨[], rfl, ?_⟩
  refine Except.bind_eq_ok.mpr ⟨_, load_sample sha256 h, ?_⟩
  exact require_bind_eq_ok.mpr ⟨rfl, rfl⟩

/-- The runtime environment after the sample delivery. -/
theorem hydrate_sample (h : Deliverable name) :
    hydrateCustomerSecrets (sampleLockbox sha256 name) sampleHydrateIo sampleBootstrap ∅
      = .ok ((∅ : StringMap).extend ((∅ : StringMap).insert name "value")) :=
  hydrateCustomerSecrets_of_ok rfl (loadAndInstall_sample sha256 h)

end Sample

/-- **A secret is passed on under a name of the runtime.** The signed map
is empty and the Lockbox delivers one secret, to the variable
`LISKOV_BOOTSTRAP`. The delivery is accepted, whatever the hash, and the
customer's process is started with the variable. -/
theorem bootstrap_secret_reaches_the_customer :
    bootstrapEnv ∈ protectedEnvNames
      ∧ validateResponse sampleEnvRequest (some sampleEnvResponse) = .ok ∅
      ∧ ∀ sha256, ∃ delivery environment,
        loadCustomerSecretsWith (sampleLockbox sha256 bootstrapEnv) sampleBootstrap secretsUrl 0
            [] [] = .ok delivery
          ∧ hydrateCustomerSecrets (sampleLockbox sha256 bootstrapEnv) sampleHydrateIo
            sampleBootstrap ∅ = .ok environment
          ∧ (childEnvironment sampleGuest () (sampleLockbox sha256 bootstrapEnv) sampleHydrateIo
            sampleBootstrap none ⟨none, none, none, none⟩ [] environment).Sets bootstrapEnv := by
  refine ⟨by decide, validateResponse_sample, fun sha256 => ?_⟩
  have hname : Deliverable bootstrapEnv := by decide +kernel
  refine ⟨_, _, load_sample sha256 hname, hydrate_sample sha256 hname, ?_⟩
  rw [sets_childEnvironment_iff (by decide), StringMap.mem_extend]
  exact Or.inr (by simp)

/-- A secret under another name leaves the process without the runtime's
names. -/
theorem token_secret_unprotected :
    "API_TOKEN" ∉ protectedEnvNames
      ∧ ∀ sha256, ∀ name ∈ protectedEnvNames, ¬ (childEnvironment sampleGuest ()
        (sampleLockbox sha256 "API_TOKEN") sampleHydrateIo sampleBootstrap none
        ⟨none, none, none, none⟩ [] ((∅ : StringMap).extend
          ((∅ : StringMap).insert "API_TOKEN" "value"))).Sets name := by
  refine ⟨by decide, fun sha256 => ?_⟩
  have hname : Deliverable "API_TOKEN" := by decide +kernel
  refine (protected_of_childEnvironment sampleGuest () _ sampleHydrateIo sampleBootstrap none
    ⟨none, none, none, none⟩ [] validateResponse_sample (hydrate_sample sha256 hname)).mpr ?_
  intro delivery hload name hprotected hmem
  obtain rfl := Except.ok.inj ((loadAndInstall_sample sha256 hname).symm.trans hload)
  rw [Std.ExtTreeMap.mem_insert, Std.LawfulEqCmp.compare_eq_iff_eq] at hmem
  rcases hmem with rfl | hmem
  · exact absurd hprotected (by decide)
  · exact Std.ExtTreeMap.not_mem_empty hmem
