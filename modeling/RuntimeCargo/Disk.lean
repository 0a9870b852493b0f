import RuntimeCargo.Check
import RuntimeCargo.FileTree

/-!
# A disk with links, owners and times

`FileTree` is enough for a program that opens directory by directory and
follows no link. A program that hands the system whole paths depends on
more: which links a path runs through, whether the last one is followed,
who may enter a directory, and what a call does to the mode, the owner and
the time of the node it ends at. Here a disk says what stands at each
location – a location is the list of names from the root, with no link in
it – and `walk` is how the system gets from a path to a location.

Only finitely many locations are taken, and the disk carries a list of
them, so that a directory can be listed. Creating or removing an entry sets
the time of the directory it is in, as the system does.

What the calls leave alone is stated with `Disk.SameOutside`: nothing
changes outside of a region, or nothing of what a view shows
(`Disk.SameView`). The fact about paths that confinement rests on is
`Walks.inside`: a path leads through the place where all of it but the last
name leads, and ends there under that name, unless a link stands there that
is followed.
-/

open Function

/-- A name is any string of bytes. -/
abbrev FileName := List UInt8

/-- The names from the root. -/
abbrev Location := List FileName

inductive NodeKind where
  | directory
  | file (data : List UInt8)
  | symlink (target : List UInt8)
  /-- A device, a socket, a FIFO. -/
  | special
  deriving DecidableEq

/-- What stands at a location. -/
structure Inode where
  kind : NodeKind
  /-- Permissions and the set-id and sticky bits. -/
  mode : BitVec 12
  uid : ℕ
  gid : ℕ
  /-- Seconds since 1970. -/
  mtime : ℤ
  deriving DecidableEq

/-- Everything but the time. -/
def Inode.untimed (n : Inode) : Inode := { n with mtime := 0 }

/-- What stands where, and a list that has every location that is taken. -/
structure Disk where
  node : Location → Option Inode
  support : List Location
  mem_support : ∀ loc, node loc ≠ none → loc ∈ support

namespace Disk

variable (d : Disk)

/-- A node is put at a location. -/
def set (loc : Location) (n : Inode) : Disk where
  node := update d.node loc (some n)
  support := loc :: d.support
  mem_support x hx := by
    by_cases hxl : x = loc
    · rw [hxl]
      exact List.mem_cons_self
    · rw [update_of_ne hxl] at hx
      exact List.mem_cons_of_mem _ (d.mem_support x hx)

/-- The node at a location is changed. -/
def modify (loc : Location) (f : Inode → Inode) : Disk where
  node := update d.node loc ((d.node loc).map f)
  support := d.support
  mem_support x hx := by
    by_cases hxl : x = loc
    · rw [hxl, update_self] at hx
      refine d.mem_support x fun hnone => hx ?_
      rw [← hxl, hnone]
      rfl
    · rw [update_of_ne hxl] at hx
      exact d.mem_support x hx

/-- The time of the directory that holds a location is set. -/
def touch (loc : Location) (now : ℤ) : Disk :=
  d.modify loc.dropLast fun n => { n with mtime := now }

/-- A new node. -/
def create (loc : Location) (n : Inode) (now : ℤ) : Disk := (d.set loc n).touch loc now

/-- Some nodes are gone. -/
def prune (gone : Location → Bool) : Disk where
  node loc := if gone loc then none else d.node loc
  support := d.support
  mem_support x hx := by
    split at hx
    · exact absurd rfl hx
    · exact d.mem_support x hx

/-- What is under one location stands under another. -/
def graft (source target : Location) : Disk where
  node loc :=
    if target <+: loc then d.node (source ++ loc.drop target.length)
    else if source <+: loc then none
    else d.node loc
  support := d.support ++ d.support.map fun loc => target ++ loc.drop source.length
  mem_support x hx := by
    rw [List.mem_append]
    split at hx
    case isTrue hpre =>
      obtain ⟨rest, rfl⟩ := hpre
      rw [List.drop_left] at hx
      refine .inr (List.mem_map.mpr ⟨_, d.mem_support _ hx, ?_⟩)
      rw [List.drop_left]
    case isFalse =>
      split at hx
      · exact absurd rfl hx
      · exact .inl (d.mem_support x hx)

/-- The names in a directory. -/
def children (loc : Location) : List FileName :=
  (d.support.filterMap fun x =>
    if x.dropLast = loc ∧ (d.node x).isSome then x.getLast? else none).dedup

/-- **Nothing changes outside of a region.** -/
def SameOutside (region : Location → Prop) (d d' : Disk) : Prop :=
  ∀ loc, ¬ region loc → d'.node loc = d.node loc

namespace SameOutside

variable {d d' d'' : Disk} {region region' : Location → Prop} {loc : Location}

theorem refl : SameOutside region d d := fun _ _ => rfl

theorem trans (h : SameOutside region d d') (h' : SameOutside region d' d'') :
    SameOutside region d d'' :=
  fun loc hloc => (h' loc hloc).trans (h loc hloc)

theorem mono (h : SameOutside region d d') (hregion : ∀ loc, region loc → region' loc) :
    SameOutside region' d d' :=
  fun loc hloc => h loc fun hr => hloc (hregion loc hr)

theorem of_modify {f : Inode → Inode} (hloc : region loc) : SameOutside region d (d.modify loc f) :=
  fun x hx => update_of_ne (fun heq : x = loc => hx (heq ▸ hloc)) _ _

theorem of_create {n : Inode} {now : ℤ} (hloc : region loc) (hparent : region loc.dropLast) :
    SameOutside region d (d.create loc n now) := by
  refine trans (fun x hx => ?_) (of_modify hparent)
  exact update_of_ne (fun heq : x = loc => hx (heq ▸ hloc)) _ _

theorem of_prune {gone : Location → Bool} (h : ∀ loc, gone loc = true → region loc) :
    SameOutside region d (d.prune gone) :=
  fun loc hloc => if_neg fun hgone => hloc (h loc hgone)

theorem of_graft {source target : Location} (hsource : ∀ loc, source <+: loc → region loc)
    (htarget : ∀ loc, target <+: loc → region loc) : SameOutside region d (d.graft source target) :=
  fun loc hloc => by
    show (if target <+: loc then _ else if source <+: loc then _ else _) = _
    rw [if_neg fun h => hloc (htarget loc h), if_neg fun h => hloc (hsource loc h)]

end SameOutside

/-- What a view shows of the nodes is the same outside of a region. -/
def SameView {β : Type} (view : Inode → β) (region : Location → Prop) (d d' : Disk) : Prop :=
  ∀ loc, ¬ region loc → (d'.node loc).map view = (d.node loc).map view

namespace SameView

variable {β : Type} {view : Inode → β} {d d' d'' : Disk} {region region' : Location → Prop}
  {loc : Location}

theorem trans (h : SameView view region d d') (h' : SameView view region d' d'') :
    SameView view region d d'' :=
  fun loc hloc => (h' loc hloc).trans (h loc hloc)

theorem mono (h : SameView view region d d') (hregion : ∀ loc, region loc → region' loc) :
    SameView view region' d d' :=
  fun loc hloc => h loc fun hr => hloc (hregion loc hr)

theorem of_sameOutside (h : SameOutside region d d') : SameView view region d d' :=
  fun loc hloc => congrArg (Option.map view) (h loc hloc)

/-- A view that shows all. -/
theorem sameOutside (h : SameView id region d d') : SameOutside region d d' := by
  intro loc hloc
  have hsame := h loc hloc
  rwa [Option.map_id, id, id] at hsame

/-- What has grown where nothing stood is cut off again. -/
theorem pruned {top : Location} (h : SameView view (fun loc => top <+: loc ∨ region loc) d d')
    (hfree : ∀ loc, top <+: loc → d.node loc = none) :
    SameView view region d (d'.prune (top.isPrefixOf ·)) := by
  intro loc hloc
  show (if top.isPrefixOf loc then none else d'.node loc).map view = _
  split
  case isTrue hpre => rw [hfree loc (List.isPrefixOf_iff_prefix.mp hpre)]
  case isFalse hpre =>
    refine h loc fun hin => ?_
    rcases hin with hin | hin
    · exact hpre (List.isPrefixOf_iff_prefix.mpr hin)
    · exact hloc hin

/-- A change that the view does not show. -/
theorem of_modify {f : Inode → Inode} (hf : ∀ n, view (f n) = view n) :
    SameView view region d (d.modify loc f) := by
  intro x _
  by_cases hx : x = loc
  · subst hx
    show (update d.node x ((d.node x).map f) x).map view = _
    rw [update_self, Option.map_map]
    cases d.node x with
    | none => rfl
    | some n => exact congrArg some (hf n)
  · exact congrArg (Option.map view) (update_of_ne hx _ _)

end SameView

/-- A disk with nothing on it. -/
def empty : Disk := ⟨fun _ => none, [], fun _ h => absurd rfl h⟩

/-- Nothing stands in what is not a directory. -/
def IsTree (d : Disk) : Prop :=
  ∀ loc c, d.node (loc ++ [c]) ≠ none → ∃ n, d.node loc = some n ∧ n.kind = .directory

variable {d} in
theorem isTree_of_support
    (h : ∀ x ∈ d.support, x ≠ [] → (d.node x.dropLast).map Inode.kind = some .directory) :
    d.IsTree := by
  intro loc c hne
  have hparent := h _ (d.mem_support _ hne) (List.append_ne_nil_of_right_ne_nil _ (by simp))
  rw [List.dropLast_concat] at hparent
  obtain ⟨n, hn, hkind⟩ := Option.map_eq_some_iff.mp hparent
  exact ⟨n, hn, hkind⟩

variable {d} in
/-- Nothing stands below a location that is not taken. -/
theorem IsTree.node_eq_none (h : d.IsTree) {top loc : Location} (htop : d.node top = none)
    (hloc : top <+: loc) : d.node loc = none := by
  obtain ⟨rest, rfl⟩ := hloc
  induction rest using List.reverseRecOn with
  | nil => rwa [List.append_nil]
  | append_singleton rest c ih =>
    by_contra hne
    rw [← List.append_assoc] at hne
    obtain ⟨n, hn, -⟩ := h _ _ hne
    rw [ih] at hn
    exact nomatch hn

end Disk

/-! ## Who may do what -/

/-- The credentials a call is made with. -/
structure Process where
  uid : ℕ
  /-- The group of what it makes. -/
  gid : ℕ
  gids : List ℕ

namespace Process

variable (p : Process) (n : Inode)

/-- A permission of the class the process is in: bit 0 to search or
execute, 1 to write, 2 to read. The superuser has every one. -/
def may (bit : ℕ) : Bool :=
  p.uid == 0 || n.mode.getLsbD
    (if n.uid = p.uid then 6 + bit else if n.gid ∈ p.gids then 3 + bit else bit)

/-- The owner, or the superuser. -/
def owns : Bool := p.uid == 0 || n.uid == p.uid

end Process

/-! ## From a path to a location -/

/-- The names between the slashes. An empty one stands for nothing. -/
def pathComponents (path : List UInt8) : List FileName := path.splitOn 0x2f

def dot : FileName := [0x2e]

def dotDot : FileName := [0x2e, 0x2e]

/-- A component that names the place it is in. -/
def isHere (c : FileName) : Bool := c == [] || c == dot

namespace Disk

variable (d : Disk) (p : Process)

/-- A directory stands there. -/
def IsDir (loc : Location) : Prop := ∃ n, d.node loc = some n ∧ n.kind = .directory

/-- A directory that the process may search. -/
def enter (loc : Location) : Except Errno Unit :=
  match d.node loc with
  | none => .error .notFound
  | some n => if n.kind = .directory ∧ p.may n 0 then .ok () else .error .other

/-- A walk, given how it goes on at a link. A link is passed through if
there is more to come, a slash even; the last one is followed on demand.
The last name need not be taken. -/
def walkWith (follow : Bool)
    (onLink : Location → List UInt8 → List FileName → Except Errno Location) :
    Location → List FileName → Except Errno Location
  | loc, [] => .ok loc
  | loc, c :: rest => do
    d.enter p loc
    if isHere c then walkWith follow onLink loc rest
    else if c = dotDot then walkWith follow onLink loc.dropLast rest
    else match (d.node (loc ++ [c])).map Inode.kind with
      | some (.symlink target) =>
        if rest = [] ∧ follow = false then .ok (loc ++ [c]) else onLink loc target rest
      | some _ => walkWith follow onLink (loc ++ [c]) rest
      | none => if rest = [] then .ok (loc ++ [c]) else .error .notFound

/-- **Where a path leads**, passing through at most `limit` links. -/
def walk : ℕ → Bool → Location → List FileName → Except Errno Location
  | 0, follow => d.walkWith p follow fun _ _ _ => .error .other
  | limit + 1, follow => d.walkWith p follow fun loc target rest =>
    walk limit follow (if target.head? = some 0x2f then [] else loc) (pathComponents target ++ rest)

end Disk

section Walk

variable {d : Disk} {p : Process}

variable {loc : Location}

theorem isDir_of_enter (h : d.enter p loc = .ok ()) : d.IsDir loc := by
  rw [Disk.enter] at h
  split at h
  case h_1 => exact nomatch h
  case h_2 n hn =>
    split at h
    case isTrue hdir => exact ⟨n, hn, hdir.1⟩
    case isFalse => exact nomatch h

/-- Where a path leads, whoever walks it and however many links it runs
through. This depends on the kinds of the nodes alone. -/
inductive Walks (d : Disk) (follow : Bool) : Location → List FileName → Location → Prop
  | nil {loc : Location} : Walks d follow loc [] loc
  | here {loc r : Location} {c : FileName} {rest : List FileName} (hdir : d.IsDir loc)
      (hc : isHere c = true) (h : Walks d follow loc rest r) : Walks d follow loc (c :: rest) r
  | up {loc r : Location} {rest : List FileName} (hdir : d.IsDir loc)
      (h : Walks d follow loc.dropLast rest r) : Walks d follow loc (dotDot :: rest) r
  | step {loc r : Location} {c : FileName} {rest : List FileName} {n : Inode}
      (hdir : d.IsDir loc) (hc : isHere c = false) (hup : c ≠ dotDot)
      (hnode : d.node (loc ++ [c]) = some n) (hkind : ∀ target, n.kind ≠ .symlink target)
      (h : Walks d follow (loc ++ [c]) rest r) : Walks d follow loc (c :: rest) r
  | link {loc r : Location} {c : FileName} {rest : List FileName} {n : Inode} {target : List UInt8}
      (hdir : d.IsDir loc) (hc : isHere c = false) (hup : c ≠ dotDot)
      (hnode : d.node (loc ++ [c]) = some n) (hkind : n.kind = .symlink target)
      (hmore : ¬(rest = [] ∧ follow = false))
      (h : Walks d follow (if target.head? = some 0x2f then [] else loc)
        (pathComponents target ++ rest) r) : Walks d follow loc (c :: rest) r
  /-- The last name, which a link may stand under, or nothing. -/
  | last {loc : Location} {c : FileName} (hdir : d.IsDir loc) (hc : isHere c = false)
      (hup : c ≠ dotDot) (hnode : d.node (loc ++ [c]) = none
        ∨ follow = false ∧ ∃ n target, d.node (loc ++ [c]) = some n ∧ n.kind = .symlink target) :
      Walks d follow loc [c] (loc ++ [c])

theorem walks_of_walkWith {follow : Bool} {r : Location} {cs : List FileName}
    {onLink : Location → List UInt8 → List FileName → Except Errno Location}
    (hlink : ∀ loc target rest, onLink loc target rest = .ok r →
      Walks d follow (if target.head?
      = some 0x2f then [] else loc) (pathComponents target ++ rest) r)
    (h : d.walkWith p follow onLink loc cs = .ok r) : Walks d follow loc cs r := by
  induction cs generalizing loc with
  | nil =>
    cases h
    exact .nil
  | cons c rest ih =>
    rw [Disk.walkWith, Except.bind_eq_ok] at h
    obtain ⟨⟨⟩, henter, h⟩ := h
    have hdir := isDir_of_enter henter
    split at h
    case isTrue hc => exact .here hdir hc (ih h)
    case isFalse hc =>
    have hc : isHere c = false := Bool.eq_false_iff.mpr hc
    split at h
    case isTrue hup =>
      subst hup
      exact .up hdir (ih h)
    case isFalse hup =>
    cases hnode : d.node (loc ++ [c]) with
    | none =>
      rw [hnode] at h
      simp only [Option.map_none] at h
      split at h
      case isTrue hrest =>
        subst hrest
        cases h
        exact .last hdir hc hup (.inl hnode)
      case isFalse => exact nomatch h
    | some n =>
      rw [hnode] at h
      simp only [Option.map_some] at h
      split at h
      case h_1 target hkind =>
        have hkind : n.kind = .symlink target := Option.some.inj hkind
        split at h
        case isTrue hlast =>
          obtain ⟨rfl, hfollow⟩ := hlast
          cases h
          exact .last hdir hc hup (.inr ⟨hfollow, n, target, hnode, hkind⟩)
        case isFalse hmore =>
          exact .link hdir hc hup hnode hkind hmore (hlink _ _ _ h)
      case h_2 kind hkind heq =>
        cases heq
        refine .step hdir hc hup hnode (fun target htarget => ?_) (ih h)
        exact hkind target htarget
      case h_3 heq => exact nomatch heq

theorem walks_of_walk {limit : ℕ} {follow : Bool} {r : Location} {cs : List FileName}
    (h : d.walk p limit follow loc cs = .ok r) : Walks d follow loc cs r := by
  induction limit generalizing loc cs with
  | zero =>
    refine walks_of_walkWith ?_ h
    exact fun _ _ _ hlink => nomatch hlink
  | succ limit ih => exact walks_of_walkWith (fun _ _ _ hlink => ih hlink) h

namespace Walks

variable {follow : Bool} {loc r r' : Location} {cs : List FileName}

/-- A path ends where what comes after a part of it leads from there. -/
theorem of_append {cs cs' : List FileName} (h : Walks d follow loc (cs ++ cs') r)
    (hne : cs' ≠ []) : ∃ m, Walks d true loc cs m ∧ Walks d follow m cs' r := by
  generalize hall : cs ++ cs' = all at h
  induction h generalizing cs with
  | nil => exact absurd (List.append_eq_nil_iff.mp hall).2 hne
  | @here loc r c rest hdir hc h ih =>
    obtain ⟨rfl, rfl⟩ | ⟨cs, rfl, rfl⟩ := List.append_eq_cons_iff.mp hall
    · exact ⟨loc, .nil, .here hdir hc h⟩
    · obtain ⟨m, hm, hr⟩ := ih rfl
      exact ⟨m, .here hdir hc hm, hr⟩
  | @up loc r rest hdir h ih =>
    obtain ⟨rfl, rfl⟩ | ⟨cs, rfl, rfl⟩ := List.append_eq_cons_iff.mp hall
    · exact ⟨loc, .nil, .up hdir h⟩
    · obtain ⟨m, hm, hr⟩ := ih rfl
      exact ⟨m, .up hdir hm, hr⟩
  | @step loc r c rest n hdir hc hup hnode hkind h ih =>
    obtain ⟨rfl, rfl⟩ | ⟨cs, rfl, rfl⟩ := List.append_eq_cons_iff.mp hall
    · exact ⟨loc, .nil, .step hdir hc hup hnode hkind h⟩
    · obtain ⟨m, hm, hr⟩ := ih rfl
      exact ⟨m, .step hdir hc hup hnode hkind hm, hr⟩
  | @link loc r c rest n target hdir hc hup hnode hkind hmore h ih =>
    obtain ⟨rfl, rfl⟩ | ⟨cs, rfl, rfl⟩ := List.append_eq_cons_iff.mp hall
    · exact ⟨loc, .nil, .link hdir hc hup hnode hkind hmore h⟩
    · obtain ⟨m, hm, hr⟩ := ih (List.append_assoc (pathComponents target) cs cs')
      exact ⟨m, .link hdir hc hup hnode hkind (fun hlast => nomatch hlast.2) hm, hr⟩
  | @last loc c hdir hc hup hnode =>
    obtain ⟨rfl, rfl⟩ | ⟨cs, rfl, hrest⟩ := List.append_eq_cons_iff.mp hall
    · exact ⟨loc, .nil, .last hdir hc hup hnode⟩
    · exact absurd (List.append_eq_nil_iff.mp hrest.symm).2 hne

/-- Components that name the place they are in can be left out. -/
theorem of_filter {tail : List FileName} (h : Walks d true loc (cs ++ tail) r) :
    Walks d true loc (cs ++ tail.filter fun c => !isHere c) r := by
  generalize hall : cs ++ tail = all at h
  induction h generalizing cs tail with
  | nil =>
    obtain ⟨rfl, rfl⟩ := List.append_eq_nil_iff.mp hall
    exact .nil
  | @here loc r c rest hdir hc h ih =>
    obtain ⟨rfl, rfl⟩ | ⟨cs, rfl, rfl⟩ := List.append_eq_cons_iff.mp hall
    · grind [List.filter_cons_of_neg]
    · exact .here hdir hc (ih rfl)
  | @up loc r rest hdir h ih =>
    obtain ⟨rfl, rfl⟩ | ⟨cs, rfl, rfl⟩ := List.append_eq_cons_iff.mp hall
    · rw [List.nil_append, List.filter_cons_of_pos rfl]
      exact .up hdir (ih (List.nil_append rest))
    · exact .up hdir (ih rfl)
  | @step loc r c rest n hdir hc hup hnode hkind h ih =>
    obtain ⟨rfl, rfl⟩ | ⟨cs, rfl, rfl⟩ := List.append_eq_cons_iff.mp hall
    · rw [List.nil_append, List.filter_cons_of_pos (by rw [hc]; rfl)]
      exact .step hdir hc hup hnode hkind (ih (List.nil_append rest))
    · exact .step hdir hc hup hnode hkind (ih rfl)
  | @link loc r c rest n target hdir hc hup hnode hkind hmore h ih =>
    obtain ⟨rfl, rfl⟩ | ⟨cs, rfl, rfl⟩ := List.append_eq_cons_iff.mp hall
    · rw [List.nil_append, List.filter_cons_of_pos (by rw [hc]; rfl)]
      exact .link hdir hc hup hnode hkind (fun hlast => nomatch hlast.2) (ih rfl)
    · refine .link hdir hc hup hnode hkind (fun hlast => nomatch hlast.2) ?_
      show Walks d true _ (pathComponents target ++ (cs ++ tail.filter _)) r
      rw [← List.append_assoc]
      exact ih (List.append_assoc _ _ _)
  | @last loc c hdir hc hup hnode =>
    obtain ⟨rfl, rfl⟩ | ⟨cs, rfl, hrest⟩ := List.append_eq_cons_iff.mp hall
    · rw [List.nil_append, List.filter_cons_of_pos (by rw [hc]; rfl)]
      exact .last hdir hc hup hnode
    · obtain ⟨rfl, rfl⟩ := List.append_eq_nil_iff.mp hrest.symm
      exact .last hdir hc hup hnode

/-- A path of such components only leads nowhere else. -/
theorem eq_of_here (h : Walks d follow loc cs r) (hcs : ∀ c ∈ cs, isHere c = true) : r = loc := by
  induction h with
  | nil => rfl
  | here _ _ _ ih => exact ih fun c hc => hcs c (List.mem_cons_of_mem _ hc)
  | up => exact absurd (hcs dotDot List.mem_cons_self) (by decide)
  | step _ hc | link _ hc | last _ hc =>
    exact absurd (hcs _ List.mem_cons_self) (by rw [hc]; exact nofun)

/-- **The end of a path**: under its last name, unless it goes on through a
link there. -/
theorem eq_of_last {c : FileName} (h : Walks d follow loc (c :: cs) r) (hc : isHere c = false)
    (hup : c ≠ dotDot) (hcs : ∀ c ∈ cs, isHere c = true)
    (hlink : ∀ n target, d.node (loc ++ [c]) = some n → n.kind = .symlink target →
      cs = [] ∧ follow = false) : r = loc ++ [c] := by
  cases h with
  | here _ hhere => exact absurd hhere (by rw [hc]; exact nofun)
  | up => exact absurd rfl hup
  | step _ _ _ _ _ h => exact h.eq_of_here hcs
  | link _ _ _ hnode hkind hmore _ => exact absurd (hlink _ _ hnode hkind) hmore
  | last => rfl

/-- **A path through no links** leads to the location it spells. -/
theorem eq_of_noLinks (h : Walks d follow loc cs r)
    (hreal : ∀ c ∈ cs, isHere c = false ∧ c ≠ dotDot)
    (hlink : ∀ init, init ≠ [] → init <+: cs → ∀ n target, d.node (loc ++ init) = some n →
      n.kind ≠ .symlink target) : r = loc ++ cs := by
  induction h with
  | nil => exact (List.append_nil _).symm
  | here _ hc =>
    have hnot := (hreal _ List.mem_cons_self).1
    rw [hc] at hnot
    exact nomatch hnot
  | up => exact absurd rfl (hreal _ List.mem_cons_self).2
  | @step loc r c rest n _ _ _ _ _ _ ih =>
    have hrest := ih (fun x hx => hreal x (List.mem_cons_of_mem _ hx)) fun init _ hinit => by
      rw [List.append_assoc]
      exact hlink (c :: init) (List.cons_ne_nil _ _) (List.cons_prefix_cons.mpr ⟨rfl, hinit⟩)
    rw [hrest, List.append_assoc]
    rfl
  | @link loc r c rest n target _ _ _ hnode hkind =>
    exact absurd hkind (hlink [c] (List.cons_ne_nil _ _)
      (List.cons_prefix_cons.mpr ⟨rfl, List.nil_prefix⟩) n target hnode)
  | last => rfl

end Walks

end Walk

/-- The directories stay. -/
def Disk.KeepsDirs (d d' : Disk) : Prop := ∀ loc, d.IsDir loc → d'.IsDir loc

namespace Disk.KeepsDirs

variable {d d' d'' : Disk} {loc : Location}

theorem refl : KeepsDirs d d := fun _ h => h

theorem trans (h : KeepsDirs d d') (h' : KeepsDirs d' d'') : KeepsDirs d d'' :=
  fun loc hloc => h' loc (h loc hloc)

theorem of_modify {f : Inode → Inode} (hf : ∀ n, (f n).kind = n.kind) :
    KeepsDirs d (d.modify loc f) := by
  rintro x ⟨n, hn, hkind⟩
  by_cases hx : x = loc
  · subst hx
    refine ⟨f n, ?_, (hf n).trans hkind⟩
    show update d.node x ((d.node x).map f) x = _
    rw [update_self, hn]
    rfl
  · exact ⟨n, (update_of_ne hx _ _).trans hn, hkind⟩

theorem of_create {n : Inode} {now : ℤ} (h : ¬ d.IsDir loc) : KeepsDirs d (d.create loc n now) := by
  refine trans (fun x hx => ?_) (of_modify fun _ => rfl)
  have hne : x ≠ loc := fun heq => h (heq ▸ hx)
  obtain ⟨old, hold, hkind⟩ := hx
  exact ⟨old, (update_of_ne hne _ _).trans hold, hkind⟩

end Disk.KeepsDirs

/-- What is created is there. -/
theorem Disk.isDir_create {d : Disk} {loc : Location} {n : Inode} {now : ℤ}
    (hn : n.kind = .directory) : (d.create loc n now).IsDir loc := by
  have hset : (d.set loc n).IsDir loc := ⟨n, update_self _ _ _, hn⟩
  have hkeeps : (d.set loc n).KeepsDirs ((d.set loc n).touch loc now) := .of_modify fun _ => rfl
  exact hkeeps loc hset

/-- The components of a path that lead somewhere. -/
def realNames (cs : List FileName) : List FileName := cs.filter fun c => !isHere c

/-- The nodes are of the same kinds; owners, modes and times may differ. -/
def Disk.SameKinds (d d' : Disk) : Prop :=
  ∀ loc, (d'.node loc).map Inode.kind = (d.node loc).map Inode.kind

namespace Disk.SameKinds

variable {d d' d'' : Disk}

theorem refl : SameKinds d d := fun _ => rfl

theorem trans (h : SameKinds d d') (h' : SameKinds d' d'') : SameKinds d d'' :=
  fun loc => (h' loc).trans (h loc)

variable {loc : Location}

theorem of_modify {f : Inode → Inode} (hf : ∀ n, (f n).kind = n.kind) :
    SameKinds d (d.modify loc f) :=
  fun x => (SameView.of_modify hf : SameView Inode.kind (fun _ => False) d (d.modify loc f)) x id

theorem node (h : SameKinds d d') {n' : Inode} (hn : d'.node loc = some n') :
    ∃ n, d.node loc = some n ∧ n.kind = n'.kind := by
  have hkind := h loc
  rw [hn] at hkind
  obtain ⟨n, hn, hk⟩ := Option.map_eq_some_iff.mp hkind.symm
  exact ⟨n, hn, hk⟩

theorem none (h : SameKinds d d') (hn : d'.node loc = none) : d.node loc = none := by
  have hkind := h loc
  rw [hn] at hkind
  exact Option.map_eq_none_iff.mp hkind.symm

theorem isDir (h : SameKinds d d') (hd : d'.IsDir loc) : d.IsDir loc := by
  obtain ⟨n', hn', hk'⟩ := hd
  obtain ⟨n, hn, hk⟩ := h.node hn'
  exact ⟨n, hn, hk.trans hk'⟩

/-- A path leads where it led. -/
theorem walks (h : SameKinds d d') {follow : Bool} {r : Location} {cs : List FileName}
    (hw : Walks d' follow loc cs r) : Walks d follow loc cs r := by
  induction hw with
  | nil => exact .nil
  | here hdir hc _ ih => exact .here (h.isDir hdir) hc ih
  | up hdir _ ih => exact .up (h.isDir hdir) ih
  | step hdir hc hup hnode hkind _ ih =>
    obtain ⟨n, hn, hk⟩ := h.node hnode
    exact .step (h.isDir hdir) hc hup hn (fun target => hk ▸ hkind target) ih
  | link hdir hc hup hnode hkind hmore _ ih =>
    obtain ⟨n, hn, hk⟩ := h.node hnode
    exact .link (h.isDir hdir) hc hup hn (hk.trans hkind) hmore ih
  | last hdir hc hup hnode =>
    refine .last (h.isDir hdir) hc hup ?_
    rcases hnode with hnone | ⟨hfollow, n', target, hnode, hkind⟩
    · exact .inl (h.none hnone)
    · obtain ⟨n, hn, hk⟩ := h.node hnode
      exact .inr ⟨hfollow, n, target, hn, hk.trans hkind⟩

end Disk.SameKinds

section Inside

variable {d : Disk} {follow : Bool} {start r : Location} {cs : List FileName}

/-- A path with no real name names the place it starts from. -/
theorem isHere_of_realNames_eq_nil (h : realNames cs = []) : ∀ c ∈ cs, isHere c = true := by
  intro c hc
  by_contra hnot
  have hmem : c ∈ realNames cs := List.mem_filter.mpr ⟨hc, by rw [Bool.eq_false_iff.mpr hnot]; rfl⟩
  rw [h] at hmem
  exact nomatch hmem

/-- A path that leads somewhere has a last name, with nothing behind it that
leads on. -/
theorem exists_last_name (h : realNames cs ≠ []) : ∃ init c tail, cs = init ++ c :: tail
    ∧ isHere c = false ∧ (∀ x ∈ tail, isHere x = true) ∧ realNames cs = realNames init ++ [c] := by
  induction cs with
  | nil => exact absurd rfl h
  | cons x cs ih =>
    by_cases hrest : realNames cs = []
    · have htail := isHere_of_realNames_eq_nil hrest
      cases hx : isHere x with
      | true =>
        refine absurd ?_ h
        rw [realNames, List.filter_cons_of_neg (by rw [hx]; exact nofun)]
        exact hrest
      | false =>
        refine ⟨[], x, cs, rfl, hx, htail, ?_⟩
        rw [realNames, List.filter_cons_of_pos (by rw [hx]; rfl)]
        exact congrArg (x :: ·) hrest
    · obtain ⟨init, c, tail, rfl, hc, htail, hnames⟩ := ih hrest
      refine ⟨x :: init, c, tail, rfl, hc, htail, ?_⟩
      rw [realNames] at hnames
      rw [realNames, realNames, List.filter_cons, List.filter_cons, hnames]
      split <;> rfl

/-- **A path stays where it starts**, if all of it but the last name does, it
goes nowhere up, and no link under the last name is followed. -/
theorem Walks.inside (h : Walks d follow start cs r) (hup : dotDot ∉ cs)
    (hinit : ∀ m, Walks d true start (realNames cs).dropLast m → start <+: m)
    (hlink : ∀ m c n target, Walks d true start (realNames cs).dropLast m →
      (realNames cs).getLast? = some c → d.node (m ++ [c]) = some n → n.kind = .symlink target →
      cs.getLast? = some c ∧ follow = false) : start <+: r := by
  by_cases hnames : realNames cs = []
  · obtain rfl := h.eq_of_here (isHere_of_realNames_eq_nil hnames)
    exact List.prefix_rfl
  · obtain ⟨init, c, tail, rfl, hc, htail, hnames⟩ := exists_last_name hnames
    obtain ⟨m, hm, hr⟩ := h.of_append (List.cons_ne_nil c tail)
    have hm' : Walks d true start (realNames (init ++ c :: tail)).dropLast m := by
      rw [hnames, List.dropLast_concat]
      exact of_filter (show Walks d true start ([] ++ init) m from hm)
    have hcup : c ≠ dotDot := fun heq => hup (heq ▸ List.mem_append_right _ List.mem_cons_self)
    have hend : r = m ++ [c] := by
      refine hr.eq_of_last hc hcup htail fun n target hnode hkind => ?_
      obtain ⟨hlast, hfollow⟩ := hlink m c n target hm' (by rw [hnames, List.getLast?_concat])
        hnode hkind
      refine ⟨?_, hfollow⟩
      -- a component behind the last name would be the last of the path
      rcases List.eq_nil_or_concat tail with hnil | ⟨rest, x, rfl⟩
      · exact hnil
      · rw [List.concat_eq_append, ← List.cons_append, ← List.append_assoc,
          List.getLast?_concat, Option.some.injEq] at hlast
        have hhere := htail x (by rw [List.concat_eq_append]; exact List.mem_append_right _ (by simp))
        rw [hlast, hc] at hhere
        exact nomatch hhere
    rw [hend]
    exact (hinit m hm').trans (List.prefix_append m [c])

end Inside

/-! ## The calls -/

/-- A path that a program hands over: a place it has got, and what is to be
walked from there. -/
structure DiskPath where
  start : Location
  rest : List FileName

/-- `Path::join`: an absolute path replaces what it is joined to. -/
def joinPath (dir : Location) (path : List UInt8) : DiskPath :=
  ⟨if path.head? = some 0x2f then [] else dir, pathComponents path⟩

/-- What a call depends on besides the disk. -/
structure System where
  process : Process
  /-- How many links a walk passes through. -/
  linkLimit : ℕ
  /-- The order in which a directory is listed. -/
  order : List FileName → List FileName

/-- A call that fails: what it reports, and how far it got. -/
structure Fault where
  errno : Errno
  /-- The bytes or directories that were written. -/
  written : ℕ
  /-- What was not removed. -/
  kept : Location → Bool

inductive DiskOp where
  | lstat (path : DiskPath)
  | readDir (path : DiskPath)
  /-- To open a file and read it to its end. -/
  | readFile (path : DiskPath)
  | readLink (path : DiskPath)
  | mkdir (path : DiskPath) (mode : BitVec 12)
  | createDirAll (loc : Location)
  | createNew (path : DiskPath)
  | write (path : DiskPath) (data : List UInt8)
  | sync (path : DiskPath)
  | rename (source target : Location)
  | unlink (path : DiskPath)
  | removeDirAll (loc : Location)
  | chmod (path : DiskPath) (mode : BitVec 12)
  | chown (path : DiskPath) (follow : Bool) (uid gid : ℕ)
  /-- `utimensat` with `AT_SYMLINK_NOFOLLOW`. -/
  | utimens (path : DiskPath) (mtime : ℤ)

inductive DiskReply where
  | done
  | inode (n : Inode)
  | names (names : List FileName)
  | data (bytes : List UInt8)

namespace Disk

variable (d : Disk) (sys : System)

/-- Where a path leads. No path has a NUL in it. -/
def resolve (follow : Bool) (path : DiskPath) : Except Errno Location :=
  if path.rest.any (·.contains 0) then .error .other
  else d.walk sys.process sys.linkLimit follow path.start path.rest

/-- The node a path leads to. -/
def find (follow : Bool) (path : DiskPath) : Except Errno (Location × Inode) := do
  let loc ← d.resolve sys follow path
  let n ← (d.node loc).okOr .notFound
  return (loc, n)

/-- A directory in which the process may make and remove entries. -/
def writable (loc : Location) : Bool :=
  match d.node loc with
  | none => false
  | some n => n.kind == .directory && sys.process.may n 0 && sys.process.may n 1

/-- The metadata or the content of a node is changed. -/
def change (x : Except Errno (Location × Inode)) (allowed : Inode → Bool) (f : Inode → Inode) :
    Except Errno DiskReply × Disk :=
  match x with
  | .error e => (.error e, d)
  | .ok (loc, n) => if allowed n then (.ok .done, d.modify loc f) else (.error .other, d)

/-- A node is made where nothing stands. -/
def make (x : Except Errno Location) (kind : NodeKind) (mode : BitVec 12) (now : ℤ) :
    Except Errno DiskReply × Disk :=
  match x with
  | .error e => (.error e, d)
  | .ok loc =>
    if (d.node loc).isSome then (.error .alreadyExists, d)
    else if d.writable sys loc.dropLast then
      (.ok .done, d.create loc ⟨kind, mode, sys.process.uid, sys.process.gid, now⟩ now)
    else (.error .other, d)

/-- What stands at the target may be replaced by a node. -/
def replaceable (target : Location) (n : Inode) : Bool :=
  match d.node target with
  | none => true
  | some old =>
    if n.kind = .directory then old.kind == .directory && (d.children target).isEmpty
    else old.kind != .directory

/-- The directories of a path are made, one below the other. -/
def makeDirs (now : ℤ) : Location → List FileName → Disk → Except Errno DiskReply × Disk
  | _, [], d => (.ok .done, d)
  | loc, c :: rest, d =>
    match d.node (loc ++ [c]) with
    | some n =>
      if n.kind = .directory then makeDirs now (loc ++ [c]) rest d else (.error .alreadyExists, d)
    | none =>
      if d.writable sys loc then
        makeDirs now (loc ++ [c]) rest (d.create (loc ++ [c])
          ⟨.directory, 0o755, sys.process.uid, sys.process.gid, now⟩ now)
      else (.error .other, d)

end Disk

namespace DiskOp

variable (sys : System) (now : ℤ)

/-- What a call does. Permissions are checked where a node is made,
changed or moved; a removal that is refused is one of the faults. -/
def exec : DiskOp → Disk → Except Errno DiskReply × Disk
  | lstat path, d => ((d.find sys false path).map fun x => .inode x.2, d)
  | readDir path, d => (do
      let (loc, n) ← d.find sys true path
      require (n.kind = .directory ∧ sys.process.may n 2) .other
      return .names (sys.order (d.children loc)), d)
  | readFile path, d => (do
      let (_, n) ← d.find sys true path
      match n.kind with
      | .file data => do
        require (sys.process.may n 2) .other
        return .data data
      | _ => .error .other, d)
  | readLink path, d => (do
      let (_, n) ← d.find sys false path
      match n.kind with
      | .symlink target => return .data target
      | _ => .error .other, d)
  | mkdir path mode, d => d.make sys (d.resolve sys false path) .directory mode now
  | createDirAll loc, d => Disk.makeDirs sys now [] loc d
  | createNew path, d => d.make sys (d.resolve sys false path) (.file []) 0o644 now
  | write path data, d =>
    d.change (d.find sys true path) (fun n => n.kind matches .file _)
      fun n => { n with kind := .file data, mtime := now }
  | sync _, d => (.ok .done, d)
  | rename source target, d =>
    match d.node source with
    | none => (.error .notFound, d)
    | some n =>
      if d.writable sys source.dropLast ∧ d.writable sys target.dropLast ∧ d.replaceable target n
          ∧ ¬ source <+: target then
        (.ok .done, ((d.graft source target).touch source now).touch target now)
      else (.error .other, d)
  | unlink path, d =>
    match d.find sys false path with
    | .error e => (.error e, d)
    | .ok (loc, n) =>
      if n.kind ≠ .directory ∧ d.writable sys loc.dropLast then
        (.ok .done, (d.prune (· == loc)).touch loc now)
      else (.error .other, d)
  | removeDirAll loc, d =>
    match d.node loc with
    | none => (.error .notFound, d)
    | some _ => (.ok .done, (d.prune (loc.isPrefixOf ·)).touch loc now)
  | chmod path mode, d =>
    d.change (d.find sys true path) sys.process.owns fun n => { n with mode := mode }
  | chown path follow uid gid, d =>
    -- A file that changes hands loses its set-id bits.
    d.change (d.find sys follow path) (fun _ => sys.process.uid == 0) fun n =>
      { n with uid := uid, gid := gid,
               mode := if n.kind = .directory then n.mode else n.mode &&& 0o1777 }
  | utimens path mtime, d =>
    d.change (d.find sys false path) sys.process.owns fun n => { n with mtime := mtime }

/-- What a call leaves that did not get through. -/
def torn (fault : Fault) : DiskOp → Disk → Disk
  | write path data, d => (exec sys now (write path (data.take fault.written)) d).2
  | createDirAll loc, d => (exec sys now (createDirAll (loc.take fault.written)) d).2
  | removeDirAll loc, d => d.prune fun x => loc.isPrefixOf x && !fault.kept x
  | _, d => d

end DiskOp

/-! ### What the calls leave alone -/

section Frame

variable {sys : System} {now : ℤ} {d : Disk}

variable {follow : Bool} {path : DiskPath} {loc : Location}

theorem Disk.find_eq_ok {n : Inode} :
    d.find sys follow path = .ok (loc, n) ↔ d.resolve sys follow path = .ok loc
      ∧ d.node loc = some n := by
  rw [find, Except.bind_eq_ok]
  constructor
  · rintro ⟨x, hx, h⟩
    rw [Option.okOr_bind_eq_ok] at h
    obtain ⟨n', hn', heq⟩ := h
    obtain ⟨rfl, rfl⟩ := Prod.mk.inj (Except.ok.inj heq)
    exact ⟨hx, hn'⟩
  · rintro ⟨hloc, hn⟩
    refine ⟨loc, hloc, ?_⟩
    rw [Option.okOr_bind_eq_ok]
    exact ⟨n, hn, rfl⟩

/-- A path that is resolved leads where it is resolved to. -/
theorem Disk.walks_of_resolve (h : d.resolve sys follow path = .ok loc) :
    Walks d follow path.start path.rest loc := by
  rw [resolve] at h
  split at h
  · exact nomatch h
  · exact walks_of_walk h

/-- A name that is neither `.` nor `..`. -/
theorem real_of_length {c : FileName} (h : 3 ≤ c.length) : isHere c = false ∧ c ≠ dotDot := by
  constructor
  · rw [Bool.eq_false_iff]
    intro hhere
    rcases Bool.or_eq_true_iff.mp hhere with heq | heq
    · rw [eq_of_beq heq] at h
      exact absurd h (by decide)
    · rw [eq_of_beq heq] at h
      exact absurd h (by decide)
  · rintro rfl
    exact absurd h (by decide)

/-- **A name in a directory** leads to the entry, unless it is a link that
is followed. -/
theorem Disk.resolve_name {dir : Location} {c : FileName} (hc : 3 ≤ c.length)
    (hlink : ∀ n target, d.node (dir ++ [c]) = some n → n.kind = .symlink target → follow = false)
    (h : d.resolve sys follow ⟨dir, [c]⟩ = .ok loc) : loc = dir ++ [c] := by
  have hwalks : Walks d follow dir [c] loc := d.walks_of_resolve h
  obtain ⟨hhere, hup⟩ := real_of_length hc
  exact hwalks.eq_of_last hhere hup nofun fun n target hn hk => ⟨rfl, hlink n target hn hk⟩

theorem Disk.change_cases (x : Except Errno (Location × Inode)) (allowed : Inode → Bool)
    (f : Inode → Inode) : (d.change x allowed f).2 = d
      ∨ ∃ loc n, x = .ok (loc, n) ∧ (d.change x allowed f).2 = d.modify loc f := by
  cases x with
  | error e => exact .inl rfl
  | ok x =>
    obtain ⟨loc, n⟩ := x
    rw [change]
    split
    · exact .inr ⟨loc, n, rfl, rfl⟩
    · exact .inl rfl

/-- The path of a call that changes the mode, the owner or the time of a
node, and whether it follows a last link. -/
def DiskOp.metaPath : DiskOp → Option (DiskPath × Bool)
  | chmod path _ => some (path, true)
  | chown path follow _ _ => some (path, follow)
  | utimens path _ => some (path, false)
  | _ => none

/-- **A change of metadata** is made at the location that its path leads to,
and leaves the kind of the node. -/
theorem DiskOp.exec_of_metaPath (sys : System) (now : ℤ) (d : Disk) {op : DiskOp}
    (h : op.metaPath = some (path, follow)) : (op.exec sys now d).2 = d
      ∨ ∃ loc f, d.resolve sys follow path = .ok loc ∧ (∀ n, Inode.kind (f n) = n.kind)
        ∧ (op.exec sys now d).2 = d.modify loc f := by
  have hchange : ∀ {allowed : Inode → Bool} {f : Inode → Inode}, (∀ n, Inode.kind (f n) = n.kind) →
      (d.change (d.find sys follow path) allowed f).2 = d
        ∨ ∃ loc f', d.resolve sys follow path = .ok loc ∧ (∀ n, Inode.kind (f' n) = n.kind)
          ∧ (d.change (d.find sys follow path) allowed f).2 = d.modify loc f' := by
    grind [Disk.change_cases, Disk.find_eq_ok]
  cases op with
  | chmod _ _ | chown _ _ _ _ | utimens _ _ =>
    cases h
    exact hchange fun _ => rfl
  | _ => exact nomatch h

/-- A call that fails changes no metadata. -/
theorem DiskOp.torn_of_metaPath {op : DiskOp} {fault : Fault}
    (h : op.metaPath = some (path, follow)) : op.torn sys now fault d = d := by
  cases op with
  | chmod _ _ | chown _ _ _ _ | utimens _ _ => rfl
  | _ => exact nomatch h

end Frame
