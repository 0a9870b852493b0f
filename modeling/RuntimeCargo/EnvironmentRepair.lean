import RuntimeCargo.CustomerEnvironment

/-!
# What the customer's process sees

An environment is a list, and a list may bind a name more than once. The
rules that repair the inherited variables look at the first binding and
rewrite the first binding; the process is given the last one
(`Environment.child`). For a name that is bound once they are the same, and
then the repair is what it is documented to be
(`customerEnvironment_repaired`): a `TMPDIR` that can be written to, an
`LD_PRELOAD` whose objects exist, a `PATH` that is not empty, and a `HOME`.

What is signed is not repaired – an empty `PATH` that is signed stays empty –
and of the inherited names those of the runtime are taken away. All others
are passed on as they are.

Everything is read off the values a name is bound to, in order
(`Environment.bindings`): each rule says what it does to these for its own
name, and leaves those of all others alone.
-/

open OsString Environment

namespace Environment

/-- The values a name is bound to, in order. -/
def bindings (environment : Environment) (name : OsString) : List OsString :=
  (environment.filter fun entry => entry.1 = name).map Prod.snd

/-- **What a process started with an environment sees** under a name: the
last value. -/
def child (environment : Environment) (name : OsString) : Option OsString :=
  (environment.bindings name).getLast?

section Bindings

variable {environment : Environment} {name : OsString}

theorem bindings_cons {entry : OsString × OsString} :
    bindings (entry :: environment) name
      = if entry.1 = name then entry.2 :: environment.bindings name
        else environment.bindings name := by
  unfold bindings
  by_cases h : entry.1 = name
  · rw [if_pos h, List.filter_cons, if_pos (by rw [decide_eq_true_eq]; exact h)]
    rfl
  · rw [if_neg h, List.filter_cons, if_neg (by rw [decide_eq_true_eq]; exact h)]

theorem bindings_append {other : Environment} :
    bindings (environment ++ other) name = environment.bindings name ++ other.bindings name := by
  rw [bindings, List.filter_append, List.map_append]
  rfl

variable {p : OsString × OsString → Bool} {text : String}

/-- Entries of other names do not matter. -/
theorem bindings_filter_of_keeps (h : ∀ value, p (name, value) = true) :
    bindings (environment.filter p) name = environment.bindings name := by
  unfold bindings
  rw [List.filter_filter]
  congr 1
  refine List.filter_congr fun entry _ => ?_
  by_cases hname : entry.1 = name
  · rw [show p entry = true by rw [← h entry.2, ← hname], Bool.and_true]
  · rw [decide_eq_false hname, Bool.false_and]

theorem bindings_filter_of_drops (h : ∀ value, p (name, value) = false) :
    bindings (environment.filter p) name = [] := by
  unfold bindings
  rw [List.filter_filter, List.map_eq_nil_iff, List.filter_eq_nil_iff]
  intro entry _ hentry
  rw [Bool.and_eq_true, decide_eq_true_eq] at hentry
  have hdrop := h entry.2
  rw [← hentry.1, hentry.2] at hdrop
  cases hdrop

/-- `lookup` sees the first value. -/
theorem lookup_eq_head? :
    environment.lookup text = (environment.bindings (ofStr text)).head? := by
  unfold lookup bindings
  rw [← List.head?_filter, List.head?_map]

theorem bindings_set {value : String} :
    (set text value environment).bindings (ofStr text)
      = ofStr value :: (environment.bindings (ofStr text)).tail := by
  induction environment with
  | nil =>
    rw [set, bindings_cons, if_pos rfl]
    rfl
  | cons entry rest ih =>
    rw [set]
    by_cases h : entry.1 = ofStr text
    · rw [if_pos h, bindings_cons, if_pos h, bindings_cons, if_pos h]
      rfl
    · rw [if_neg h, bindings_cons, if_neg h, bindings_cons, if_neg h]
      exact ih

theorem bindings_set_of_ne {value : String} (h : name ≠ ofStr text) :
    (set text value environment).bindings name = environment.bindings name := by
  induction environment with
  | nil =>
    rw [set, bindings_cons, if_neg (Ne.symm h)]
  | cons entry rest ih =>
    rw [set]
    by_cases hentry : entry.1 = ofStr text
    · rw [if_pos hentry, bindings_cons, bindings_cons, hentry, if_neg (Ne.symm h),
        if_neg (Ne.symm h)]
    · rw [if_neg hentry, bindings_cons, bindings_cons, ih]

end Bindings

end Environment

/-! ## What the rules do -/

section Rules

variable {G : Type} {guest : GuestFilesystem G} {signed : String → Bool} {r : Repair G}
  {name : OsString}

/-- A rule for one name leaves all others alone. -/
def TouchesOnly (text : String) (rule : Repair G → Repair G) : Prop :=
  ∀ r name, name ≠ ofStr text → (rule r).1.bindings name = r.1.bindings name

theorem touchesOnly_tmpdir : TouchesOnly "TMPDIR" (normalizeTmpdir guest signed) := by
  grind [TouchesOnly, normalizeTmpdir, bindings_set_of_ne]

theorem touchesOnly_preload : TouchesOnly "LD_PRELOAD" (normalizePreload guest signed) := by
  rintro ⟨inherited, changes, g⟩ name hname
  unfold normalizePreload
  dsimp only
  split_ifs
  · rfl
  split
  · rfl
  split_ifs
  · rfl
  · exact bindings_filter_of_keeps fun value => decide_eq_true hname

theorem touchesOnly_path : TouchesOnly "PATH" (normalizePath (G := G) signed) := by
  grind [TouchesOnly, normalizePath, bindings_set_of_ne]

theorem touchesOnly_home : TouchesOnly "HOME" (normalizeHome (G := G) signed) := by
  grind [TouchesOnly, normalizeHome, bindings_set_of_ne]

/-- After the first rule the file system is left alone. -/
theorem guest_of_rules :
    (normalizeHome signed (normalizePath signed (normalizePreload guest signed r))).2.2 = r.2.2 := by
  have hhome : ∀ r : Repair G, (normalizeHome signed r).2.2 = r.2.2 := by
    grind [normalizeHome]
  have hpath : ∀ r : Repair G, (normalizePath signed r).2.2 = r.2.2 := by
    grind [normalizePath]
  have hpreload : ∀ r : Repair G, (normalizePreload guest signed r).2.2 = r.2.2 := by
    rintro ⟨inherited, changes, g⟩
    unfold normalizePreload
    dsimp only
    repeat' split
    all_goals rfl
  rw [hhome, hpath, hpreload]

/-- **`TMPDIR`**, if it is bound once: it can be written to, or it is the
default. -/
theorem tmpdir_of_normalizeTmpdir (hsigned : signed "TMPDIR" = false)
    (hone : (r.1.bindings (ofStr "TMPDIR")).length ≤ 1) :
    ∀ value ∈ (normalizeTmpdir guest signed r).1.bindings (ofStr "TMPDIR"),
      guest.isWritableDirectory (normalizeTmpdir guest signed r).2.2 value = true
        ∨ value = ofStr defaultTmpdir := by
  obtain ⟨inherited, changes, g⟩ := r
  unfold normalizeTmpdir
  dsimp only at hone ⊢
  rw [hsigned, if_neg Bool.false_ne_true, lookup_eq_head?]
  match hbindings : inherited.bindings (ofStr "TMPDIR"), hone with
  | [], _ =>
    intro value hvalue
    rw [List.head?_nil, hbindings] at hvalue
    cases hvalue
  | [path], _ =>
    rw [List.head?_cons]
    dsimp only
    by_cases hwritable : guest.isWritableDirectory g path = true
    · rw [if_pos hwritable]
      intro value hvalue
      rw [hbindings, List.mem_singleton] at hvalue
      rw [hvalue]
      exact .inl hwritable
    · rw [if_neg hwritable]
      intro value hvalue
      rw [bindings_set, hbindings, List.tail_cons, List.mem_singleton] at hvalue
      exact .inr hvalue

/-- **`LD_PRELOAD`**, if it is bound once: every object it names by a path is
a file. -/
theorem preload_of_normalizePreload (hsigned : signed "LD_PRELOAD" = false)
    (hone : (r.1.bindings (ofStr "LD_PRELOAD")).length ≤ 1) :
    ∀ value ∈ (normalizePreload guest signed r).1.bindings (ofStr "LD_PRELOAD"),
      preloadResolves guest r.2.2 value = true := by
  obtain ⟨inherited, changes, g⟩ := r
  unfold normalizePreload
  dsimp only at hone ⊢
  rw [hsigned, if_neg Bool.false_ne_true, lookup_eq_head?]
  match hbindings : inherited.bindings (ofStr "LD_PRELOAD"), hone with
  | [], _ =>
    intro value hvalue
    rw [List.head?_nil, hbindings] at hvalue
    cases hvalue
  | [objects], _ =>
    rw [List.head?_cons]
    dsimp only
    split_ifs with hresolves
    · intro value hvalue
      rw [hbindings, List.mem_singleton] at hvalue
      rw [hvalue]
      exact hresolves
    · intro value hvalue
      rw [bindings_filter_of_drops fun value => decide_eq_false fun h => h rfl] at hvalue
      cases hvalue

theorem size_defaultPath : (ofStr defaultPath).bytes.size ≠ 0 := by decide +kernel

/-- **`PATH`**, if it is bound once: it is set, and not empty. -/
theorem path_of_normalizePath (hsigned : signed "PATH" = false)
    (hone : (r.1.bindings (ofStr "PATH")).length ≤ 1) :
    ∃ value, (normalizePath signed r).1.bindings (ofStr "PATH") = [value]
      ∧ value.bytes.size ≠ 0 := by
  obtain ⟨inherited, changes, g⟩ := r
  unfold normalizePath
  dsimp only at hone ⊢
  rw [hsigned, if_neg Bool.false_ne_true, lookup_eq_head?]
  match hbindings : inherited.bindings (ofStr "PATH"), hone with
  | [], _ =>
    rw [List.head?_nil]
    refine ⟨ofStr defaultPath, ?_, size_defaultPath⟩
    rw [bindings_set, hbindings]
    rfl
  | [path], _ =>
    rw [List.head?_cons]
    dsimp only
    split_ifs with hempty
    · refine ⟨ofStr defaultPath, ?_, size_defaultPath⟩
      rw [bindings_set, hbindings]
      rfl
    · exact ⟨path, hbindings, hempty⟩

/-- **`HOME`** is set, and is left as it was if it was set before. -/
theorem home_of_normalizeHome (hsigned : signed "HOME" = false) :
    (normalizeHome signed r).1.bindings (ofStr "HOME")
      = if r.1.bindings (ofStr "HOME") = [] then [ofStr defaultHome]
        else r.1.bindings (ofStr "HOME") := by
  obtain ⟨inherited, changes, g⟩ := r
  unfold normalizeHome
  dsimp only
  rw [hsigned, if_neg Bool.false_ne_true, lookup_eq_head?]
  cases hbindings : inherited.bindings (ofStr "HOME") with
  | nil =>
    rw [List.head?_nil]
    rw [bindings_set, hbindings]
    rfl
  | cons value rest =>
    exact hbindings

end Rules

/-! ## What is laid over -/

section Overlay

variable {environment : Environment} {signed : StringMap} {name : OsString}

theorem bindings_overlay {entry : String × String} :
    (overlay environment entry).bindings (ofStr entry.1) = [ofStr entry.2] := by
  unfold overlay
  rw [bindings_append, bindings_filter_of_drops,
    bindings_cons, if_pos rfl]
  · rfl
  · intro value
    rw [toStr_ofStr]
    exact decide_eq_false fun h => h rfl

theorem bindings_overlay_of_ne {entry : String × String} (h : name ≠ ofStr entry.1) :
    (overlay environment entry).bindings name = environment.bindings name := by
  unfold overlay
  rw [bindings_append, bindings_filter_of_keeps,
    bindings_cons, if_neg (Ne.symm h)]
  · exact List.append_nil _
  · intro value
    rw [decide_eq_true_eq]
    exact fun htext => h (toStr_eq_some.mp htext)

theorem bindings_foldl_overlay_of_ne {entries : List (String × String)}
    (h : ∀ entry ∈ entries, name ≠ ofStr entry.1) :
    (entries.foldl overlay environment).bindings name = environment.bindings name := by
  induction entries generalizing environment with
  | nil => rfl
  | cons entry rest ih =>
    rw [List.foldl_cons, ih fun other hother => h other (List.mem_cons_of_mem _ hother),
      bindings_overlay_of_ne (h entry List.mem_cons_self)]

/-- Names that are not signed are left alone. -/
theorem bindings_merge_of_not_signed (h : ∀ text ∈ signed, name ≠ ofStr text) :
    (mergeRuntimeEnvironment environment signed).bindings name = environment.bindings name := by
  refine bindings_foldl_overlay_of_ne fun entry hentry => h entry.1 ?_
  rw [← Std.ExtTreeMap.mem_keys, ← Std.ExtTreeMap.map_fst_toList_eq_keys]
  exact List.mem_map_of_mem hentry

/-- **A signed value is the only one of its name.** -/
theorem bindings_merge_of_signed {text value : String} (h : signed[text]? = some value) :
    (mergeRuntimeEnvironment environment signed).bindings (ofStr text)
      = [ofStr value] := by
  have hmem : (text, value) ∈ signed.toList :=
    Std.ExtTreeMap.mem_toList_iff_getElem?_eq_some.mpr h
  have hdistinct := signed.distinct_keys_toList
  unfold mergeRuntimeEnvironment
  generalize signed.toList = entries at hmem hdistinct
  induction entries generalizing environment with
  | nil => cases hmem
  | cons entry rest ih =>
    obtain ⟨hfirst, hrest⟩ := List.pairwise_cons.mp hdistinct
    rw [List.foldl_cons]
    rcases List.mem_cons.mp hmem with rfl | hlater
    · rw [bindings_foldl_overlay_of_ne, bindings_overlay]
      intro other hother heq
      refine hfirst other hother ?_
      rw [Std.LawfulEqCmp.compare_eq_iff_eq]
      exact ofStr_inj heq
    · exact ih hlater hrest

end Overlay

/-! ## The process -/

/-- The names of the runtime, which are taken out of what is inherited. -/
def isStripped (name : OsString) : Bool :=
  name.toStr.any fun key => protectedEnvNames.contains key || helperEnvNames.contains key

/-- The names that are repaired. -/
def repairedNames : List String := ["TMPDIR", "LD_PRELOAD", "PATH", "HOME"]

/-- What is left of the inherited variables before they are repaired. -/
def strippedEnvironment (inherited : Environment) : Environment :=
  sanitizeEnvironmentValues (inherited.filter fun entry =>
    !entry.1.toStr.any fun key => helperEnvNames.contains key)

/-- The file system after the repair: `/tmp` may have been made. -/
def repairedGuest {G : Type} (guest : GuestFilesystem G) (g : G) (inherited : Environment)
    (signed : StringMap) : G :=
  (normalizeCustomerEnvironment guest (fun name => signed.contains name)
    (strippedEnvironment inherited) g).2.2

/-- **The documented repair**, of what a process sees under each name. -/
structure Repaired {G : Type} (guest : GuestFilesystem G) (g : G) (inherited : Environment)
    (signed : StringMap) (sees : OsString → Option OsString) : Prop where
  tmpdir : "TMPDIR" ∉ signed → (inherited.bindings (ofStr "TMPDIR")).length ≤ 1 →
    ∀ value, sees (ofStr "TMPDIR") = some value →
      guest.isWritableDirectory g value = true ∨ value = ofStr defaultTmpdir
  preload : "LD_PRELOAD" ∉ signed → (inherited.bindings (ofStr "LD_PRELOAD")).length ≤ 1 →
    ∀ value, sees (ofStr "LD_PRELOAD") = some value →
      ∀ object ∈ value.bytes.data.toList.splitOnP fun b => b = 32 || b = 58,
        47 ∈ object → guest.isFile g ⟨⟨object.toArray⟩⟩ = true
  path : "PATH" ∉ signed → (inherited.bindings (ofStr "PATH")).length ≤ 1 →
    ∃ value, sees (ofStr "PATH") = some value ∧ value.bytes.size ≠ 0
  home : (sees (ofStr "HOME")).isSome = true
  kept : ∀ name value, signed[name]? = some value →
    sees (ofStr name) = some (ofStr value)
  others : ∀ name, isStripped name = false → (∀ text ∈ signed, name ≠ ofStr text) →
    (∀ text ∈ repairedNames, name ≠ ofStr text) → sees name = inherited.child name

theorem isFile_of_preloadResolves {G : Type} {guest : GuestFilesystem G} {g : G} {value : OsString}
    (h : preloadResolves guest g value = true) {object : List UInt8}
    (hobject : object ∈ value.bytes.data.toList.splitOnP fun b => b = 32 || b = 58)
    (hslash : 47 ∈ object) : guest.isFile g ⟨⟨object.toArray⟩⟩ = true := by
  have hne : object ≠ [] := by
    rintro rfl
    cases hslash
  have hone := List.all_eq_true.mp h object
    (List.mem_filter.mpr ⟨hobject, decide_eq_true hne⟩)
  rw [Bool.or_eq_true, Bool.not_eq_true', ← Bool.not_eq_true, List.contains_iff_mem] at hone
  rcases hone with hnot | hfile
  · exact absurd hslash hnot
  · exact hfile

section Process

variable {G : Type} (guest : GuestFilesystem G) (g : G) (inherited : Environment)
  (signed : StringMap)

variable {inherited} in
theorem bindings_strippedEnvironment {name : OsString} (h : isStripped name = false) :
    (strippedEnvironment inherited).bindings name = inherited.bindings name := by
  have hnames : (name.toStr.any fun key => protectedEnvNames.contains key) = false
      ∧ (name.toStr.any fun key => helperEnvNames.contains key) = false := by
    unfold isStripped at h
    cases htext : name.toStr with
    | none => exact ⟨rfl, rfl⟩
    | some text =>
      rw [htext, Option.any_some, Bool.or_eq_false_iff] at h
      exact h
  unfold strippedEnvironment sanitizeEnvironmentValues
  rw [bindings_filter_of_keeps fun value => by rw [hnames.1]; rfl,
    bindings_filter_of_keeps fun value => by rw [hnames.2]; rfl]

theorem isStripped_repaired : ∀ text ∈ repairedNames, isStripped (ofStr text) = false := by
  intro text htext
  unfold isStripped
  revert text
  decide

theorem ofStr_ne {s t : String} (h : s ≠ t) : ofStr s ≠ ofStr t :=
  fun heq => h (ofStr_inj heq)

/-- **The process of the customer sees a repaired environment.** Of the names
that are repaired and not signed, those that are bound once are as
documented; `HOME` always is. What is signed and what is not looked at is
passed on as it is. -/
theorem customerEnvironment_repaired :
    Repaired guest (repairedGuest guest g inherited signed) inherited signed
      (customerEnvironment guest g inherited signed).1.child := by
  -- the four rules, one after the other
  let start : Repair G := (strippedEnvironment inherited, [], g)
  let isSigned := fun name => signed.contains name
  let afterTmpdir := normalizeTmpdir guest isSigned start
  let afterPreload := normalizePreload guest isSigned afterTmpdir
  let afterPath := normalizePath isSigned afterPreload
  let afterHome := normalizeHome isSigned afterPath
  have hguest : repairedGuest guest g inherited signed = afterTmpdir.2.2 := guest_of_rules
  have hstart : ∀ text ∈ repairedNames, start.1.bindings (ofStr text)
      = inherited.bindings (ofStr text) :=
    fun text htext => bindings_strippedEnvironment (isStripped_repaired text htext)
  have hsees : ∀ name, (∀ text ∈ signed, name ≠ ofStr text) →
      (customerEnvironment guest g inherited signed).1.child name
        = (afterHome.1.bindings name).getLast? := by
    intro name hname
    show ((mergeRuntimeEnvironment afterHome.1 signed).bindings name).getLast? = _
    rw [bindings_merge_of_not_signed hname]
  have hunsigned : ∀ {text : String}, text ∉ signed →
      isSigned text = false ∧ ∀ other ∈ signed, ofStr text ≠ ofStr other := by
    intro text htext
    refine ⟨?_, fun other hother heq => htext (ofStr_inj heq ▸ hother)⟩
    rw [← Bool.not_eq_true]
    exact htext
  constructor
  · intro htext hone value hvalue
    rw [hsees _ (hunsigned htext).2,
      show afterHome.1.bindings _ = _ from touchesOnly_home afterPath _ (ofStr_ne (by decide)),
      show afterPath.1.bindings _ = _ from touchesOnly_path afterPreload _ (ofStr_ne (by decide)),
      show afterPreload.1.bindings _ = _ from
        touchesOnly_preload afterTmpdir _ (ofStr_ne (by decide))] at hvalue
    rw [← hstart _ (by decide)] at hone
    rw [hguest]
    exact tmpdir_of_normalizeTmpdir (hunsigned htext).1 hone value (List.mem_of_getLast? hvalue)
  · intro htext hone value hvalue object hobject hslash
    rw [hsees _ (hunsigned htext).2,
      show afterHome.1.bindings _ = _ from touchesOnly_home afterPath _ (ofStr_ne (by decide)),
      show afterPath.1.bindings _ = _ from
        touchesOnly_path afterPreload _ (ofStr_ne (by decide))] at hvalue
    rw [← hstart _ (by decide), ← show afterTmpdir.1.bindings _ = _ from
      touchesOnly_tmpdir start _ (ofStr_ne (by decide))] at hone
    have hresolves := preload_of_normalizePreload (hunsigned htext).1 hone value
      (List.mem_of_getLast? hvalue)
    rw [hguest]
    exact isFile_of_preloadResolves hresolves hobject hslash
  · intro htext hone
    rw [← hstart _ (by decide), ← show afterTmpdir.1.bindings _ = _ from
      touchesOnly_tmpdir start _ (ofStr_ne (by decide)),
      ← show afterPreload.1.bindings _ = _ from
        touchesOnly_preload afterTmpdir _ (ofStr_ne (by decide))] at hone
    obtain ⟨value, hbindings, hsize⟩ := path_of_normalizePath (hunsigned htext).1 hone
    refine ⟨value, ?_, hsize⟩
    rw [hsees _ (hunsigned htext).2,
      show afterHome.1.bindings _ = _ from touchesOnly_home afterPath _ (ofStr_ne (by decide)),
      show afterPath.1.bindings _ = _ from hbindings]
    rfl
  · by_cases htext : "HOME" ∈ signed
    · obtain ⟨value, hvalue⟩ : ∃ value, signed["HOME"]? = some value :=
        ⟨signed["HOME"], Std.ExtTreeMap.getElem?_eq_some_getElem htext⟩
      show (((mergeRuntimeEnvironment afterHome.1 signed).bindings _).getLast?).isSome = true
      rw [bindings_merge_of_signed hvalue]
      rfl
    · rw [hsees _ (hunsigned htext).2,
        show afterHome.1.bindings _ = _ from home_of_normalizeHome (hunsigned htext).1]
      split
      · rfl
      next hne =>
        rw [List.getLast?_isSome]
        exact hne
  · intro name value hvalue
    show ((mergeRuntimeEnvironment afterHome.1 signed).bindings _).getLast? = _
    rw [bindings_merge_of_signed hvalue]
    rfl
  · intro name hstripped hname hrepaired
    rw [hsees name hname,
      show afterHome.1.bindings _ = _ from
        touchesOnly_home afterPath _ (hrepaired "HOME" (by decide)),
      show afterPath.1.bindings _ = _ from
        touchesOnly_path afterPreload _ (hrepaired "PATH" (by decide)),
      show afterPreload.1.bindings _ = _ from
        touchesOnly_preload afterTmpdir _ (hrepaired "LD_PRELOAD" (by decide)),
      show afterTmpdir.1.bindings _ = _ from
        touchesOnly_tmpdir start _ (hrepaired "TMPDIR" (by decide)),
      show start.1.bindings _ = _ from bindings_strippedEnvironment hstripped]
    rfl

end Process

namespace RepairSample

/-- A guest in which only `/ok` can be written to. -/
def guest : GuestFilesystem Unit where
  isDirectory _ path := path = ofStr "/ok"
  isWritableDirectory _ path := path = ofStr "/ok"
  isFile _ _ := false
  createStickyDirectory g _ := g

/-- `TMPDIR`, bound twice, and a name of the runtime. -/
def inherited : Environment :=
  [(ofStr "TMPDIR", ofStr "/ok"), (ofStr "TMPDIR", ofStr "/data"),
    (ofStr "LISKOV_BOOTSTRAP", ofStr "token")]

/-- An empty `PATH`, signed. -/
def signed : StringMap := (∅ : StringMap).insert "PATH" ""

end RepairSample

/-- A process sees the second `TMPDIR`, which cannot be written to, an empty
`PATH`, because it is signed, and nothing of what the runtime keeps for
itself. -/
theorem repair_sees_first_binding :
    let sees := (customerEnvironment RepairSample.guest () RepairSample.inherited
      RepairSample.signed).1.child
    (sees (ofStr "TMPDIR") = some (ofStr "/data")
        ∧ RepairSample.guest.isWritableDirectory () (ofStr "/data") = false)
      ∧ sees (ofStr "PATH") = some (ofStr "")
      ∧ RepairSample.inherited.child (ofStr "LISKOV_BOOTSTRAP")
          = some (ofStr "token")
      ∧ sees (ofStr "LISKOV_BOOTSTRAP") = none := by
  decide +kernel
