import RuntimeCargo.JobSecrets

/-!
# Each secret once

A delivery is checked in three places, and none of them sees all of it. The
versions are checked against the identifiers that were asked for
(`versions_of_validateVersions`): as many, the same ones, and no two for one
destination. The secrets are checked against the versions
(`secrets_of_validateDeliveries`): as many, each like one of them, and no
identifier twice. And each is put where it says (`value_placeSecrets`).

The rest is counting. As many secrets as versions, with different
identifiers that are all among those of the versions, are secrets for all of
them; so that the delivery has one entry for each identifier that was asked
for, and no other (`delivery_bijective`).
-/

/-- Where a secret goes. -/
def Metadata.destination (m : Metadata) : String × String := (m.target, m.name)

namespace CustomerSecretDelivery

/-- What is delivered at a destination. -/
def value (d : CustomerSecretDelivery) (destination : String × String) : Option String :=
  if destination.1 = "file" then d.files[destination.2]?
  else if destination.1 = "env" then d.environment[destination.2]?
  else none

/-- The entries of a delivery, environment and files together. -/
def destinations (d : CustomerSecretDelivery) : Set (String × String) :=
  { destination | d.value destination ≠ none }

variable {d : CustomerSecretDelivery} {name text : String}

theorem value_file : d.value ("file", name) = d.files[name]? := if_pos rfl

theorem value_env : d.value ("env", name) = d.environment[name]? :=
  (if_neg (show "env" ≠ "file" by decide)).trans (if_pos rfl)

theorem value_insert_file (place : String × String) :
    ({ d with files := d.files.insert name text } : CustomerSecretDelivery).value place
      = if place = ("file", name) then some text else d.value place := by
  grind [value]

theorem value_insert_env (place : String × String) :
    ({ d with environment := d.environment.insert name text } : CustomerSecretDelivery).value place
      = if place = ("env", name) then some text else d.value place := by
  grind [value]

end CustomerSecretDelivery

/-! ## The versions -/

/-- One more that is not among those seen. -/
theorem nodup_cons_of_fresh {α β : Type} [DecidableEq β] {f : α → β} {x : α} {xs : List α}
    {seen : Finset β} (hx : f x ∉ seen) (hnodup : (xs.map f).Nodup)
    (hfresh : ∀ y ∈ xs, f y ∉ insert (f x) seen) :
    ((x :: xs).map f).Nodup ∧ ∀ y ∈ x :: xs, f y ∉ seen := by
  grind

/-- **The versions that were collected** have different identifiers and
different destinations. -/
theorem versions_of_collectVersions {versions : List Json} {ids ids' : Finset String}
    {destinations : Finset (String × String)}
    (h : collectVersions versions ids destinations = .ok ids') :
    ∃ ms : List Metadata, versions.map metadata = ms.map .ok
      ∧ ids' = ids ∪ (ms.map Metadata.secretId).toFinset
      ∧ (ms.map Metadata.secretId).Nodup ∧ (∀ m ∈ ms, m.secretId ∉ ids)
      ∧ (ms.map Metadata.destination).Nodup ∧ ∀ m ∈ ms, m.destination ∉ destinations := by
  induction versions generalizing ids destinations with
  | nil =>
    cases h
    exact ⟨[], by simp⟩
  | cons version rest ih =>
    obtain ⟨m, hm, hrequired⟩ := Except.bind_eq_ok.mp h
    obtain ⟨⟨hid, hdestination⟩, hrest⟩ := require_bind_eq_ok.mp hrequired
    obtain ⟨ms, hms, hids, hnodup, hfresh, hplaces, hfreshPlaces⟩ := ih hrest
    obtain ⟨hnodup, hfresh⟩ := nodup_cons_of_fresh hid hnodup hfresh
    obtain ⟨hplaces, hfreshPlaces⟩ := nodup_cons_of_fresh (f := Metadata.destination)
      hdestination hplaces hfreshPlaces
    refine ⟨m :: ms, ?_, ?_, hnodup, hfresh, hplaces, hfreshPlaces⟩
    · rw [List.map_cons, List.map_cons, hm, hms]
    · rw [hids, List.map_cons, List.toFinset_cons, Finset.insert_union, Finset.union_insert]

variable {versions : Json} {secrets : List Json}

/-- **The versions are those that were asked for**, one for each identifier
and no two for one destination. -/
theorem versions_of_validateVersions {requested : List String}
    (h : validateVersions versions requested = .ok ()) :
    ∃ (items : List Json) (ms : List Metadata), versions.asArray = some items
      ∧ items.map metadata = ms.map .ok ∧ (ms.map Metadata.secretId).Nodup
      ∧ (ms.map Metadata.destination).Nodup
      ∧ ∀ id, id ∈ requested ↔ id ∈ ms.map Metadata.secretId := by
  obtain ⟨items, hitems, hcollect⟩ := Option.okOr_bind_eq_ok.mp h
  obtain ⟨ids, hids, hrequired⟩ := Except.bind_eq_ok.mp hcollect
  obtain ⟨-, -, -, hsame⟩ := require_eq_ok.mp hrequired
  obtain ⟨ms, hms, hunion, hnodup, -, hplaces, -⟩ := versions_of_collectVersions hids
  refine ⟨items, ms, hitems, hms, hnodup, hplaces, fun id => ?_⟩
  rw [← List.mem_toFinset, ← hsame, hunion, Finset.empty_union, List.mem_toFinset]

/-! ## The secrets -/

theorem secrets_of_checkDeliveries {versions : List Json} {seen : Finset String}
    (h : checkDeliveries versions secrets seen = .ok ()) :
    ∃ ms : List Metadata, secrets.map metadata = ms.map .ok ∧ (ms.map Metadata.secretId).Nodup
      ∧ (∀ m ∈ ms, m.secretId ∉ seen) ∧ ∀ m ∈ ms, .ok m ∈ versions.map metadata := by
  induction secrets generalizing seen with
  | nil => exact ⟨[], by simp⟩
  | cons secret rest ih =>
    obtain ⟨m, hm, hrequired⟩ := Except.bind_eq_ok.mp h
    obtain ⟨⟨hid, hversion, -⟩, htext⟩ := require_bind_eq_ok.mp hrequired
    obtain ⟨-, hrest⟩ := require_bind_eq_ok.mp htext
    obtain ⟨ms, hms, hnodup, hfresh, hversions⟩ := ih hrest
    obtain ⟨hnodup, hfresh⟩ := nodup_cons_of_fresh hid hnodup hfresh
    refine ⟨m :: ms, ?_, hnodup, hfresh, List.forall_mem_cons.mpr ⟨?_, hversions⟩⟩
    · rw [List.map_cons, List.map_cons, hm, hms]
    · obtain ⟨version, hmem, hsame⟩ := List.any_eq_true.mp hversion
      refine List.mem_map.mpr ⟨version, hmem, ?_⟩
      rw [decide_eq_true_eq] at hsame
      cases hmetadata : metadata version with
      | error e =>
        rw [hmetadata] at hsame
        cases hsame
      | ok m' =>
        rw [hmetadata] at hsame
        rw [Option.some.inj hsame]

/-- **The secrets are those of the versions**: as many, and each with the
metadata of one of them. -/
theorem secrets_of_validateDeliveries {secrets : Json}
    (h : validateDeliveries secrets versions = .ok ()) :
    ∃ (items declared : List Json) (ms : List Metadata), secrets.asArray = some items
      ∧ versions.asArray = some declared ∧ items.length = declared.length
      ∧ items.map metadata = ms.map .ok ∧ (ms.map Metadata.secretId).Nodup
      ∧ ∀ m ∈ ms, .ok m ∈ declared.map metadata := by
  obtain ⟨items, hitems, hnext⟩ := Option.okOr_bind_eq_ok.mp h
  obtain ⟨declared, hdeclared, hlength⟩ := Option.okOr_bind_eq_ok.mp hnext
  obtain ⟨hsame, hcheck⟩ := require_bind_eq_ok.mp hlength
  obtain ⟨ms, hms, hnodup, -, hversions⟩ := secrets_of_checkDeliveries hcheck
  exact ⟨items, declared, ms, hitems, hdeclared, hsame, hms, hnodup, hversions⟩

/-! ## The delivery -/

/-- **What is placed** is found at its destination, and nothing else is. -/
theorem value_placeSecrets {d d' : CustomerSecretDelivery} (h : placeSecrets secrets d = .ok d')
    (destination : String × String) (text : String) :
    d'.value destination = some text ↔ d.value destination = some text
      ∨ ∃ secret ∈ secrets, ∃ m, metadata secret = .ok m ∧ m.destination = destination
        ∧ (secret.get "value").asStr = some text := by
  induction secrets generalizing d with
  | nil =>
    cases h
    simp
  | cons secret rest ih =>
    obtain ⟨m, hm, hnext⟩ := Except.bind_eq_ok.mp h
    obtain ⟨placed, hplaced, hplace⟩ := Option.okOr_bind_eq_ok.mp hnext
    have hhead : (∃ m', metadata secret = .ok m' ∧ m'.destination = destination
        ∧ (secret.get "value").asStr = some text)
        ↔ m.destination = destination ∧ placed = text := by
      simp [hm, hplaced]
    -- one entry is added, at a destination that was free
    have hadd : ∀ {d₁ : CustomerSecretDelivery}, d.value m.destination = none →
        (∀ place, d₁.value place = if place = m.destination then some placed else d.value place) →
        (d₁.value destination = some text ↔ d.value destination = some text
          ∨ m.destination = destination ∧ placed = text) := by
      grind
    rw [List.exists_mem_cons_iff, hhead, ← or_assoc]
    split at hplace
    case isTrue hfile =>
      obtain ⟨hnew, hrest⟩ := require_bind_eq_ok.mp hplace
      have hdestination : m.destination = ("file", m.name) := by rw [Metadata.destination, hfile]
      rw [ih hrest]
      refine or_congr_left (hadd ?_ fun place => ?_)
      · rw [hdestination, CustomerSecretDelivery.value_file]
        exact Std.ExtTreeMap.getElem?_eq_none hnew
      · rw [hdestination, CustomerSecretDelivery.value_insert_file]
    case isFalse hfile =>
      obtain ⟨hnew, hrest⟩ := require_bind_eq_ok.mp hplace
      have hdestination : m.destination = ("env", m.name) := by
        rw [Metadata.destination, (metadata_eq_ok hm).2.1.resolve_right hfile]
      rw [ih hrest]
      refine or_congr_left (hadd ?_ fun place => ?_)
      · rw [hdestination, CustomerSecretDelivery.value_env]
        exact Std.ExtTreeMap.getElem?_eq_none hnew
      · rw [hdestination, CustomerSecretDelivery.value_insert_env]

/-- Every secret that is placed has a value. -/
theorem hasValue_placeSecrets {d d' : CustomerSecretDelivery}
    (h : placeSecrets secrets d = .ok d') :
    ∀ secret ∈ secrets, ∃ text, (secret.get "value").asStr = some text := by
  induction secrets generalizing d with
  | nil => exact List.forall_mem_nil _
  | cons first rest ih =>
    obtain ⟨m, -, hnext⟩ := Except.bind_eq_ok.mp h
    obtain ⟨placed, hplaced, hplace⟩ := Option.okOr_bind_eq_ok.mp hnext
    refine List.forall_mem_cons.mpr ⟨⟨placed, hplaced⟩, ?_⟩
    split at hplace
    · exact ih (require_bind_eq_ok.mp hplace).2
    · exact ih (require_bind_eq_ok.mp hplace).2

theorem value_empty (destination : String × String) :
    CustomerSecretDelivery.empty.value destination = none := by
  grind [CustomerSecretDelivery.value, CustomerSecretDelivery.empty]

/-- As many secrets as versions, all different and all among them, are all of
them. -/
theorem mem_of_declared {ms declared : List Metadata} (hnodup : (ms.map Metadata.secretId).Nodup)
    (hsub : ms ⊆ declared) (hlength : ms.length = declared.length) (m : Metadata) :
    m ∈ ms ↔ m ∈ declared := by
  have hsubperm := (hnodup.of_map _).subperm hsub
  exact (hsubperm.perm_of_length_le (Nat.le_of_eq hlength.symm)).mem_iff

/-- **The secrets that are placed are one for each version**, where their
versions say. -/
theorem bijOn_of_placeSecrets {requested : List String} {secrets : Json} {items : List Json}
    {delivery : CustomerSecretDelivery} (hversions : validateVersions versions requested = .ok ())
    (hdeliveries : validateDeliveries secrets versions = .ok ())
    (hitems : secrets.asArray = some items) (hplace : placeSecrets items .empty = .ok delivery) :
    ∃ (declared : List Json) (version : String → Metadata), versions.asArray = some declared
      ∧ (∀ id ∈ requested, (version id).secretId = id ∧ .ok (version id) ∈ declared.map metadata)
      ∧ (∀ m, .ok m ∈ declared.map metadata → m.secretId ∈ requested ∧ version m.secretId = m)
      ∧ Set.BijOn (fun id => (version id).destination) { id | id ∈ requested }
          delivery.destinations := by
  obtain ⟨declared, vs, hdeclared, hvs, hids, hplaces, hrequested⟩ :=
    versions_of_validateVersions hversions
  obtain ⟨items', declared', ms, hitems', hdeclared', hlength, hms, hnodup, hlike⟩ :=
    secrets_of_validateDeliveries hdeliveries
  obtain rfl := Option.some.inj (hitems.symm.trans hitems')
  obtain rfl := Option.some.inj (hdeclared.symm.trans hdeclared')
  -- the metadata of the versions, read off the list
  have hmem : ∀ m, (.ok m : SecretResult Metadata) ∈ declared.map metadata ↔ m ∈ vs := by
    intro m
    simp [hvs]
  have hall : ∀ m, m ∈ ms ↔ m ∈ vs := by
    refine mem_of_declared hnodup (fun m hm => (hmem m).mp (hlike m hm)) ?_
    have h₁ := congrArg List.length hms
    have h₂ := congrArg List.length hvs
    rw [List.length_map, List.length_map] at h₁ h₂
    omega
  have hplaced : ∀ destination, destination ∈ delivery.destinations
      ↔ ∃ m ∈ vs, m.destination = destination := by
    intro destination
    show delivery.value destination ≠ none ↔ _
    rw [Option.ne_none_iff_exists']
    constructor
    · rintro ⟨text, htext⟩
      rcases (value_placeSecrets hplace destination text).mp htext with
        hempty | ⟨secret, hsecret, m, hm, hdestination, -⟩
      · rw [value_empty] at hempty
        cases hempty
      · refine ⟨m, (hall m).mp ?_, hdestination⟩
        have hok : (.ok m : SecretResult Metadata) ∈ items.map metadata :=
          List.mem_map.mpr ⟨secret, hsecret, hm⟩
        simpa [hms] using hok
    · rintro ⟨m, hm, hdestination⟩
      have hok : (.ok m : SecretResult Metadata) ∈ items.map metadata := by
        rw [hms]
        exact List.mem_map.mpr ⟨m, (hall m).mpr hm, rfl⟩
      obtain ⟨secret, hsecret, hmetadata⟩ := List.mem_map.mp hok
      obtain ⟨text, htext⟩ := hasValue_placeSecrets hplace secret hsecret
      exact ⟨text, (value_placeSecrets hplace destination text).mpr
        (.inr ⟨secret, hsecret, m, hmetadata, hdestination, htext⟩)⟩
  -- the version of an identifier
  have hversion : ∀ id, ∃ m : Metadata, id ∈ requested → m ∈ vs ∧ m.secretId = id := by
    intro id
    by_cases hid : id ∈ requested
    · obtain ⟨m, hm, heq⟩ := List.mem_map.mp ((hrequested id).mp hid)
      exact ⟨m, fun _ => ⟨hm, heq⟩⟩
    · exact ⟨⟨"", "", "", "", false, ""⟩, fun h => absurd h hid⟩
  choose version hversion using hversion
  have hunique : ∀ m ∈ vs, ∀ m' ∈ vs, m.secretId = m'.secretId → m = m' :=
    fun m hm m' hm' heq => List.inj_on_of_nodup_map hids hm hm' heq
  refine ⟨declared, version, hdeclared, fun id hid => ?_, fun m hm => ?_, ?_, ?_, ?_⟩
  · exact ⟨(hversion id hid).2, (hmem _).mpr (hversion id hid).1⟩
  · have hvs' := (hmem m).mp hm
    have hid : m.secretId ∈ requested := (hrequested _).mpr (List.mem_map.mpr ⟨m, hvs', rfl⟩)
    exact ⟨hid, hunique _ (hversion _ hid).1 m hvs' (hversion _ hid).2⟩
  · intro id hid
    exact (hplaced _).mpr ⟨version id, (hversion id hid).1, rfl⟩
  · intro id hid id' hid' heq
    have hsame := List.inj_on_of_nodup_map hplaces (hversion id hid).1 (hversion id' hid').1 heq
    rw [← (hversion id hid).2, ← (hversion id' hid').2, hsame]
  · intro destination hdestination
    obtain ⟨m, hm, heq⟩ := (hplaced destination).mp hdestination
    have hid : m.secretId ∈ requested := (hrequested _).mpr (List.mem_map.mpr ⟨m, hm, rfl⟩)
    refine ⟨m.secretId, hid, ?_⟩
    show (version m.secretId).destination = destination
    rw [hunique _ (hversion _ hid).1 m hm (hversion _ hid).2]
    exact heq

/-! ## From the request to the delivery -/

section Load

variable {w : LockboxWorld} {bootstrap : RuntimeBootstrapResponse}

/-- A post was answered. -/
def Answered (w : LockboxWorld) (k : ℕ) (response : Json) : Prop :=
  ∃ url body status, w.post k url body = .response status (some response)

theorem answered_of_postJson {k : ℕ} {url : String} {body response : Json}
    (h : (postJson w k url body).bind (fun reply => reply.okOr .invalidResponse) = .ok response) :
    Answered w k response := by
  obtain ⟨reply, hreply, hresponse⟩ := Except.bind_eq_ok.mp h
  rw [Option.okOr_eq_ok.mp hresponse] at hreply
  unfold postJson at hreply
  split at hreply
  · cases hreply
  · cases hreply
  next status reply' hpost =>
    split at hreply
    · exact ⟨url, body, status, by rw [hpost, Except.ok.inj hreply]⟩
    · cases hreply

/-- **Discovery** answers with the identifiers that are asked for. -/
theorem answered_of_discover {secretsUrl : String} {nowMs n k : ℕ} {nonce : List UInt8}
    {config : Json}
    (h : discoverLockboxBootstrapWith w bootstrap secretsUrl nowMs nonce n k = .ok config) :
    ∃ response ids lockboxUrl grantId policyDigest, Answered w k response
      ∧ (response.get "requestedSecretIds").asArray.bind requestedIds = some ids
      ∧ config = .obj [("v", .num 2), ("u", .str lockboxUrl), ("uid", .str bootstrap.applicationUid),
        ("a", .str bootstrap.applicationId), ("g", .str grantId), ("p", .str policyDigest),
        ("d", .str bootstrap.deploymentId), ("s", .arr (ids.map Json.str))] := by
  obtain ⟨endpoint, -, h⟩ := Except.bind_eq_ok.mp h
  obtain ⟨key, -, h⟩ := Except.bind_eq_ok.mp h
  obtain ⟨expiresAtMs, -, h⟩ := Option.okOr_bind_eq_ok.mp h
  obtain ⟨signature, -, h⟩ := Except.bind_eq_ok.mp h
  obtain ⟨reply, hreply, h⟩ := Except.bind_eq_ok.mp h
  obtain ⟨response, hresponse, h⟩ := Option.okOr_bind_eq_ok.mp h
  obtain ⟨policyDigest, -, h⟩ := Option.okOr_bind_eq_ok.mp h
  obtain ⟨grantId, -, h⟩ := Except.bind_eq_ok.mp h
  obtain ⟨lockboxUrl, -, h⟩ := Except.bind_eq_ok.mp h
  obtain ⟨_, -, h⟩ := Except.bind_eq_ok.mp h
  obtain ⟨ids, hids, h⟩ := Option.okOr_bind_eq_ok.mp h
  obtain ⟨-, h⟩ := require_bind_eq_ok.mp h
  refine ⟨response, ids, lockboxUrl, grantId, policyDigest, ?_, hids, (Except.ok.inj h).symm⟩
  refine answered_of_postJson (Except.bind_eq_ok.mpr ⟨reply, hreply, ?_⟩)
  rw [hresponse]
  rfl

/-- **A payload was checked** against the versions of the answer, and these
against the identifiers of the request. -/
theorem checked_of_decrypt {request : UnsignedRequest} {curve : ResponseCurve} {n : ℕ}
    {body : Option Json} {payload : Json}
    (h : decryptJobSecretPayload w request curve n body = .ok payload) :
    ∃ response, body = some response
      ∧ validateVersions (response.get "secretVersions") request.requestedSecretIds = .ok ()
      ∧ validateDeliveries (payload.get "secrets") (response.get "secretVersions") = .ok () := by
  obtain ⟨response, hbody, h⟩ := Option.okOr_bind_eq_ok.mp h
  obtain ⟨-, h⟩ := require_bind_eq_ok.mp h
  obtain ⟨⟨⟩, hversions, h⟩ := Except.bind_eq_ok.mp h
  obtain ⟨members, -, h⟩ := Option.okOr_bind_eq_ok.mp h
  obtain ⟨-, h⟩ := require_bind_eq_ok.mp h
  iterate 6 obtain ⟨_, -, h⟩ := Except.bind_eq_ok.mp h
  obtain ⟨-, h⟩ := require_bind_eq_ok.mp h
  obtain ⟨-, h⟩ := require_bind_eq_ok.mp h
  obtain ⟨_, -, h⟩ := Option.okOr_bind_eq_ok.mp h
  obtain ⟨_, -, h⟩ := Option.okOr_bind_eq_ok.mp h
  obtain ⟨-, h⟩ := require_bind_eq_ok.mp h
  obtain ⟨_, -, h⟩ := Option.okOr_bind_eq_ok.mp h
  obtain ⟨-, h⟩ := require_bind_eq_ok.mp h
  obtain ⟨_, -, h⟩ := Option.okOr_bind_eq_ok.mp h
  obtain ⟨_, -, h⟩ := Except.bind_eq_ok.mp h
  obtain ⟨⟨⟩, hdeliveries, h⟩ := Except.bind_eq_ok.mp h
  cases h
  exact ⟨response, hbody, hversions, hdeliveries⟩

/-- **The request asks for the identifiers of the compact bootstrap.** -/
theorem checked_of_load {config : CompactBootstrap} {raw : Json} {nowMs n k : ℕ}
    {nonce : List UInt8} {payload : Json} (hconfig : CompactBootstrap.ofJson raw = some config)
    (h : loadJobSecretPayloadWith w bootstrap (some raw) nowMs nonce n k = .ok payload) :
    ∃ response, Answered w k response
      ∧ validateVersions (response.get "secretVersions") config.s = .ok ()
      ∧ validateDeliveries (payload.get "secrets") (response.get "secretVersions") = .ok () := by
  obtain ⟨config', hconfig', h⟩ := Option.okOr_bind_eq_ok.mp h
  obtain rfl := Option.some.inj (hconfig.symm.trans hconfig')
  obtain ⟨_, -, h⟩ := Option.okOr_bind_eq_ok.mp h
  obtain ⟨-, h⟩ := require_bind_eq_ok.mp h
  obtain ⟨_, -, h⟩ := Except.bind_eq_ok.mp h
  obtain ⟨_, -, h⟩ := Except.bind_eq_ok.mp h
  obtain ⟨_, -, h⟩ := Option.okOr_bind_eq_ok.mp h
  obtain ⟨_, -, h⟩ := Except.bind_eq_ok.mp h
  obtain ⟨reply, hreply, h⟩ := Except.bind_eq_ok.mp h
  obtain ⟨response, rfl, hversions, hdeliveries⟩ := checked_of_decrypt h
  exact ⟨response, answered_of_postJson (Except.bind_eq_ok.mpr ⟨_, hreply, rfl⟩), hversions,
    hdeliveries⟩

theorem mapM_asStr (ids : List String) : (ids.map Json.str).mapM Json.asStr = some ids := by
  induction ids with
  | nil => rfl
  | cons id rest ih =>
    rw [List.map_cons, List.mapM_cons, ih]
    rfl

/-- The compact bootstrap is read back. -/
theorem ofJson_compact (u uid a g p d : String) (ids : List String) :
    CompactBootstrap.ofJson (.obj [("v", .num 2), ("u", .str u), ("uid", .str uid), ("a", .str a),
      ("g", .str g), ("p", .str p), ("d", .str d), ("s", .arr (ids.map Json.str))])
      = some ⟨2, u, uid, a, g, p, d, ids⟩ := by
  have hv : (Json.num 2).asU8 = some 2 := rfl
  have hs : (Json.arr (ids.map Json.str)).asStrings = some ids := mapM_asStr ids
  simp [CompactBootstrap.ofJson, Json.get?, Json.asStr, hv, hs]

/-- The texts among the identifiers that are not the log configuration. -/
theorem filter_logSecret (ids : List String) :
    (ids.map Json.str).filter (fun id => id.asStr ≠ some logSecret)
      = (ids.filter fun id => id ≠ logSecret).map Json.str := by
  rw [List.filter_map]
  congr 1
  refine List.filter_congr fun id _ => ?_
  show decide (some id ≠ some logSecret) = decide (id ≠ logSecret)
  rw [decide_eq_decide]
  exact not_congr (Option.some_inj)

/-- **Each secret that was asked for is delivered once, and nothing else
is.** The identifiers are those of the answer to the discovery, but for the
log configuration; each has one version in the answer to the request for the
values, and the delivery has one entry for each, at the destination of its
version. -/
theorem delivery_bijective {secretsUrl : String} {nowMs : ℕ} {discoveryNonce requestNonce : List UInt8}
    {delivery : CustomerSecretDelivery} (hhint : bootstrap.customerRequired ≠ none)
    (h : loadCustomerSecretsWith w bootstrap secretsUrl nowMs discoveryNonce requestNonce
      = .ok delivery) :
    ∃ response ids, Answered w 0 response
      ∧ (response.get "requestedSecretIds").asArray.bind requestedIds = some ids
      ∧ (((∀ id ∈ ids, id = logSecret) ∧ bootstrap.customerRequired = some false
          ∧ delivery.destinations = ∅)
        ∨ ∃ answer declared, ∃ version : String → Metadata, Answered w 1 answer
          ∧ (answer.get "secretVersions").asArray = some declared
          ∧ (∀ id ∈ ids, id ≠ logSecret →
              (version id).secretId = id ∧ .ok (version id) ∈ declared.map metadata)
          ∧ (∀ m, .ok m ∈ declared.map metadata →
              m.secretId ∈ ids ∧ m.secretId ≠ logSecret ∧ version m.secretId = m)
          ∧ Set.BijOn (fun id => (version id).destination) { id | id ∈ ids ∧ id ≠ logSecret }
              delivery.destinations) := by
  unfold loadCustomerSecretsWith at h
  rw [if_neg hhint] at h
  obtain ⟨config, hdiscover, h⟩ := Except.bind_eq_ok.mp h
  obtain ⟨response, ids, lockboxUrl, grantId, policyDigest, hanswered, hids, rfl⟩ :=
    answered_of_discover hdiscover
  refine ⟨response, ids, hanswered, hids, ?_⟩
  obtain ⟨items, hitems, h⟩ := Option.okOr_bind_eq_ok.mp h
  obtain rfl : ids.map Json.str = items := Option.some.inj hitems
  dsimp only at h
  rw [filter_logSecret] at h
  have hmem : ∀ id, id ∈ ids.filter (fun id => id ≠ logSecret) ↔ id ∈ ids ∧ id ≠ logSecret := by
    intro id
    rw [List.mem_filter, decide_eq_true_eq]
  split at h
  next hnone =>
    obtain ⟨hrequired, h⟩ := require_bind_eq_ok.mp h
    cases h
    refine .inl ⟨fun id hid => ?_, ?_, ?_⟩
    · by_contra hne
      have hfiltered := (hmem id).mpr ⟨hid, hne⟩
      rw [List.map_eq_nil_iff.mp hnone] at hfiltered
      cases hfiltered
    · cases hbool : bootstrap.customerRequired with
      | none => exact absurd hbool hhint
      | some required =>
        cases required with
        | false => rfl
        | true => exact absurd hbool hrequired
    · exact Set.eq_empty_iff_forall_notMem.mpr fun place hplace => hplace (value_empty place)
  · obtain ⟨payload, hload, h⟩ := Except.bind_eq_ok.mp h
    obtain ⟨secrets, hsecrets, hplace⟩ := Option.okOr_bind_eq_ok.mp h
    obtain ⟨answer, hanswer, hversions, hdeliveries⟩ := checked_of_load
      (ofJson_compact lockboxUrl _ _ grantId policyDigest _ _) hload
    obtain ⟨declared, version, hdeclared, hversion, hback, hbij⟩ :=
      bijOn_of_placeSecrets hversions hdeliveries hsecrets hplace
    refine .inr ⟨answer, declared, version, hanswer, hdeclared, fun id hid hne => ?_,
      fun m hm => ?_, ?_⟩
    · exact hversion id ((hmem id).mpr ⟨hid, hne⟩)
    · obtain ⟨hid, hsame⟩ := hback m hm
      exact ⟨((hmem _).mp hid).1, ((hmem _).mp hid).2, hsame⟩
    · rwa [show { id | id ∈ ids ∧ id ≠ logSecret }
        = { id | id ∈ ids.filter fun id => id ≠ logSecret } from Set.ext fun id => (hmem id).symm]

end Load

/-- One secret was asked for, and one variable is delivered. -/
theorem token_delivered_once :
    sampleBootstrap.customerRequired = some true
      ∧ ∀ sha256, ∃ delivery,
        loadCustomerSecretsWith (sampleLockbox sha256 "API_TOKEN") sampleBootstrap secretsUrl 0 [] []
            = .ok delivery
          ∧ ∃ response ids, ∃ version : String → Metadata,
            Answered (sampleLockbox sha256 "API_TOKEN") 0 response
              ∧ (response.get "requestedSecretIds").asArray.bind requestedIds = some ids
              ∧ Set.BijOn (fun id => (version id).destination) { id | id ∈ ids ∧ id ≠ logSecret }
                delivery.destinations := by
  refine ⟨rfl, fun sha256 => ?_⟩
  have hload := load_sample sha256 (show Deliverable "API_TOKEN" by decide +kernel)
  obtain ⟨response, ids, hanswered, hids, ⟨-, hoptional, -⟩ | ⟨answer, declared, version, -, -, -, -,
    hbij⟩⟩ := delivery_bijective (show sampleBootstrap.customerRequired ≠ none from nofun) hload
  · cases hoptional
  · exact ⟨_, hload, response, ids, version, hanswered, hids, hbij⟩
