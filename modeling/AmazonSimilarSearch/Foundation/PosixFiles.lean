import AmazonSimilarSearch.Foundation.Bytes
import Mathlib.Data.Fintype.EquivFin
import Mathlib.Logic.Relation

/-!
# Files under the POSIX permission rules

A file system is a table of inodes and their nodes; a path is looked up name by
name from the root. An unprivileged user may change the mode of what it owns,
change the entries of a directory it may write, where a sticky directory protects
the entries of others, and write the files it may write. `Fixed` and `Pinned` say
what this user can never change: a whole node, or one entry of a directory.
-/
namespace Foundation.Posix
open Relation

abbrev Uid := ℕ
abbrev Inode := ℕ

/-- The permission bits with the set-id and sticky bits above them. -/
abbrev Mode := BitVec 12

/-- `S_IWUSR` -/
def Mode.ownerMayWrite (mode : Mode) : Bool := mode.getLsbD 7

/-- `S_IWGRP | S_IWOTH`: a user may be in any supplementary group. -/
def Mode.othersMayWrite (mode : Mode) : Bool := mode.getLsbD 4 || mode.getLsbD 1

/-- `S_ISVTX` -/
def Mode.isSticky (mode : Mode) : Bool := mode.getLsbD 9

structure Metadata where
  owner : Uid
  mode : Mode
  device : ℕ
  deriving DecidableEq

inductive Content where
  | file (data : Bytes)
  | directory (entries : List (String × Inode))
  | symlink (target : String)
  | special
  deriving DecidableEq

def Content.entries : Content → List (String × Inode)
  | .directory entries => entries
  | _ => []

def Content.setEntries (entries : List (String × Inode)) : Content → Content
  | .directory _ => .directory entries
  | content => content

structure Node where
  metadata : Metadata
  content : Content
  deriving DecidableEq

structure FileSystem where
  root : Inode
  nodes : List (Inode × Node)

namespace FileSystem
variable (fs : FileSystem)

def node (inode : Inode) : Option Node := fs.nodes.lookup inode

def entries (directory : Inode) : List (String × Inode) :=
  match fs.node directory with
  | some node => node.content.entries
  | none => []

def lookup (directory : Inode) (name : String) : Option Inode := (fs.entries directory).lookup name

/-- The inode that a relative path names. -/
def descend : Inode → List String → Option Inode
  | inode, [] => some inode
  | inode, name :: names => (fs.lookup inode name).bind fun child => descend child names

/-- The inode that an absolute path names. -/
def resolve (path : List String) : Option Inode := fs.descend fs.root path

def update (inode : Inode) (node : Node) : FileSystem :=
  { fs with nodes := (inode, node) :: fs.nodes }

/-- Change the node of an inode that exists. -/
def modify (inode : Inode) (change : Node → Node) : FileSystem :=
  match fs.node inode with
  | some node => fs.update inode (change node)
  | none => fs

def setEntries (directory : Inode) (entries : List (String × Inode)) : FileSystem :=
  fs.modify directory fun node => { node with content := node.content.setEntries entries }

def detach (directory : Inode) (name : String) : FileSystem :=
  fs.setEntries directory ((fs.entries directory).filter fun entry => entry.1 ≠ name)

def attach (directory : Inode) (name : String) (child : Inode) : FileSystem :=
  fs.setEntries directory (fs.entries directory ++ [(name, child)])

end FileSystem

/-- Every entry of a directory names a node. -/
structure ClosedFileSystem extends FileSystem where
  closed : ∀ directory name child, toFileSystem.lookup directory name = some child →
    ∃ node, toFileSystem.node child = some node

/-! ## What a user may do -/

/-- The owner class is decided first; anyone else may be in the group. -/
def mayWrite (uid : Uid) (metadata : Metadata) : Bool :=
  if metadata.owner = uid then metadata.mode.ownerMayWrite else metadata.mode.othersMayWrite

inductive Operation where
  | chmod (inode : Inode) (mode : Mode)
  | create (directory : Inode) (name : String) (inode : Inode) (mode : Mode) (content : Content)
  | rename (source : Inode) (name : String) (target : Inode) (newName : String)
  | unlink (directory : Inode) (name : String)
  | write (inode : Inode) (data : Bytes)

section
variable (uid : Uid) (fs : FileSystem)

/-- The user may change the entries of the directory. -/
def MayModify (directory : Inode) : Prop :=
  ∃ node entries, fs.node directory = some node ∧ node.content = .directory entries ∧
    mayWrite uid node.metadata = true

/-- The entry may be taken out of its directory: it is no mount point, and it is not
another user's entry of another user's sticky directory. -/
def MayDetach (directory : Inode) (name : String) : Prop :=
  ∃ parent child node, fs.node directory = some parent ∧ fs.lookup directory name = some child ∧
    fs.node child = some node ∧ parent.metadata.device = node.metadata.device ∧
    (parent.metadata.mode.isSticky = true →
      parent.metadata.owner = uid ∨ node.metadata.owner = uid)

/-- Further refusals of a kernel (a directory that is not empty, a directory moved into
itself) only take operations away. -/
def Permitted : Operation → Prop
  | .chmod inode _ => ∃ node, fs.node inode = some node ∧ node.metadata.owner = uid ∧
      ∀ target, node.content ≠ .symlink target
  | .create directory name inode _ content => MayModify uid fs directory ∧
      fs.lookup directory name = none ∧ fs.node inode = none ∧ content.entries = []
  | .rename source name target newName => MayModify uid fs source ∧ MayModify uid fs target ∧
      MayDetach uid fs source name ∧
      (fs.lookup target newName = none ∨ MayDetach uid fs target newName)
  | .unlink directory name => MayModify uid fs directory ∧ MayDetach uid fs directory name
  | .write inode _ => ∃ node data, fs.node inode = some node ∧ node.content = .file data ∧
      mayWrite uid node.metadata = true

def Operation.apply : Operation → FileSystem
  | .chmod inode mode =>
      fs.modify inode fun node => { node with metadata := { node.metadata with mode := mode } }
  | .create directory name inode mode content =>
      let device := (fs.node directory).elim 0 fun node => node.metadata.device
      (fs.attach directory name inode).update inode ⟨⟨uid, mode, device⟩, content⟩
  | .rename source name target newName =>
      match fs.lookup source name with
      | some child => ((fs.detach source name).detach target newName).attach target newName child
      | none => fs
  | .unlink directory name => fs.detach directory name
  | .write inode data => fs.modify inode fun node => { node with content := .file data }

def Step (fs' : FileSystem) : Prop :=
  ∃ operation, Permitted uid fs operation ∧ fs' = operation.apply uid fs

/-- What the user can make of a file system while nobody else acts. -/
def Reaches : FileSystem → Prop := ReflTransGen (Step uid) fs

/-- The user can change the node: a symbolic link has no mode of its own, and what is
neither a file nor a directory holds nothing. -/
def Exposed (node : Node) : Prop :=
  match node.content with
  | .symlink _ => False
  | .special => node.metadata.owner = uid
  | _ => node.metadata.owner = uid ∨ mayWrite uid node.metadata = true

/-- Neither the node nor what it holds can be changed by the user. -/
def Fixed (inode : Inode) : Prop := ∃ node, fs.node inode = some node ∧ ¬ Exposed uid node

/-- The entry can be taken out of its directory neither at once nor later. -/
def Pinned (directory : Inode) (name : String) (child : Inode) : Prop :=
  fs.lookup directory name = some child ∧
    ∃ parent node, fs.node directory = some parent ∧ fs.node child = some node ∧
      (parent.metadata.device ≠ node.metadata.device ∨
        parent.metadata.owner ≠ uid ∧ (mayWrite uid parent.metadata = false ∨
          parent.metadata.mode.isSticky = true ∧ node.metadata.owner ≠ uid))

end

/-! ## Nodes and entries after a change -/

section
variable {uid : Uid} {fs fs' : FileSystem}

@[simp] theorem root_modify (inode : Inode) (change : Node → Node) :
    (fs.modify inode change).root = fs.root := by
  unfold FileSystem.modify
  cases fs.node inode with
  | none => rfl
  | some node => rfl

@[simp] theorem node_update_self (inode : Inode) (node : Node) :
    (fs.update inode node).node inode = some node := by
  simp [FileSystem.update, FileSystem.node]

theorem node_update_of_ne {inode other : Inode} (h : other ≠ inode) (node : Node) :
    (fs.update inode node).node other = fs.node other := by
  have hne : (other == inode) = false := by rwa [beq_eq_false_iff_ne]
  simp [FileSystem.update, FileSystem.node, List.lookup_cons, hne]

theorem node_modify_self {inode : Inode} {node : Node} (h : fs.node inode = some node)
    (change : Node → Node) : (fs.modify inode change).node inode = some (change node) := by
  simp [FileSystem.modify, h]

theorem node_modify_of_ne {inode other : Inode} (h : other ≠ inode) (change : Node → Node) :
    (fs.modify inode change).node other = fs.node other := by
  unfold FileSystem.modify
  cases fs.node inode with
  | none => rfl
  | some node => exact node_update_of_ne h _

theorem node_setEntries_of_ne {directory other : Inode} (h : other ≠ directory)
    (entries : List (String × Inode)) :
    (fs.setEntries directory entries).node other = fs.node other :=
  node_modify_of_ne h _

theorem entries_of_node {directory : Inode} {node : Node} (h : fs.node directory = some node) :
    fs.entries directory = node.content.entries := by
  simp [FileSystem.entries, h]

theorem entries_setEntries_of_ne {directory other : Inode} (h : other ≠ directory)
    (entries : List (String × Inode)) :
    (fs.setEntries directory entries).entries other = fs.entries other := by
  simp [FileSystem.entries, node_setEntries_of_ne h]

/-- A name that is kept in the new entries is still found there. -/
theorem lookup_setEntries {directory other : Inode} {name : String}
    {entries : List (String × Inode)}
    (h : other = directory → entries.lookup name = (fs.entries directory).lookup name) :
    (fs.setEntries directory entries).lookup other name = fs.lookup other name := by
  by_cases hother : other = directory
  · subst hother
    cases hnode : fs.node other with
    | none => simp [FileSystem.setEntries, FileSystem.modify, hnode]
    | some node =>
        have hafter := node_modify_self hnode fun node =>
          { node with content := node.content.setEntries entries }
        unfold FileSystem.lookup
        rw [FileSystem.setEntries, entries_of_node hafter]
        cases hcontent : node.content with
        | directory held => exact h rfl
        | file data => simp [entries_of_node hnode, hcontent, Content.setEntries, Content.entries]
        | symlink target => simp [entries_of_node hnode, hcontent, Content.setEntries, Content.entries]
        | special => simp [entries_of_node hnode, hcontent, Content.setEntries, Content.entries]
  · simp [FileSystem.lookup, entries_setEntries_of_ne hother]

theorem lookup_filter_ne {entries : List (String × Inode)} {name removed : String}
    (h : name ≠ removed) :
    (entries.filter fun entry => entry.1 ≠ removed).lookup name = entries.lookup name := by
  induction entries with
  | nil => rfl
  | cons entry entries ih =>
      by_cases hentry : entry.1 = removed
      · have hne : (name == entry.1) = false := by
          rw [beq_eq_false_iff_ne, hentry]
          exact h
        rw [List.filter_cons_of_neg (by simpa using hentry), ih, List.lookup_cons, hne]
      · rw [List.filter_cons_of_pos (by simpa using hentry), List.lookup_cons, List.lookup_cons, ih]

theorem lookup_filter_self (entries : List (String × Inode)) (removed : String) :
    (entries.filter fun entry => entry.1 ≠ removed).lookup removed = none := by
  induction entries with
  | nil => rfl
  | cons entry entries ih =>
      by_cases hentry : entry.1 = removed
      · rw [List.filter_cons_of_neg (by simpa using hentry), ih]
      · have hne : (removed == entry.1) = false := by
          rw [beq_eq_false_iff_ne]
          exact fun heq => hentry heq.symm
        rw [List.filter_cons_of_pos (by simpa using hentry), List.lookup_cons, hne, ih]

theorem lookup_detach {directory other : Inode} {name removed : String}
    (h : other = directory → name ≠ removed) :
    (fs.detach directory removed).lookup other name = fs.lookup other name :=
  lookup_setEntries fun hother => lookup_filter_ne (h hother)

theorem lookup_attach {directory other child : Inode} {name added : String}
    (h : other = directory → name ≠ added) :
    (fs.attach directory added child).lookup other name = fs.lookup other name := by
  refine lookup_setEntries fun hother => ?_
  have hne : (name == added) = false := by
    rw [beq_eq_false_iff_ne]
    exact h hother
  rw [List.lookup_append]
  simp [List.lookup_cons, hne]

theorem lookup_modify {inode other : Inode} {name : String} {change : Node → Node}
    (h : ∀ node, fs.node inode = some node →
      (change node).content.entries = node.content.entries) :
    (fs.modify inode change).lookup other name = fs.lookup other name := by
  by_cases hother : other = inode
  · subst hother
    cases hnode : fs.node other with
    | none => simp [FileSystem.modify, hnode]
    | some node =>
        unfold FileSystem.lookup
        rw [entries_of_node (node_modify_self hnode change), h node hnode, entries_of_node hnode]
  · simp [FileSystem.lookup, FileSystem.entries, node_modify_of_ne hother]

/-- An inode that has no node yet is in no way of the others. -/
theorem lookup_update_of_new {inode other : Inode} {name : String} (h : fs.node inode = none)
    {node : Node} (hnode : node.content.entries = []) :
    (fs.update inode node).lookup other name = fs.lookup other name := by
  by_cases hother : other = inode
  · subst hother
    unfold FileSystem.lookup
    rw [entries_of_node (node_update_self other node), hnode]
    simp [FileSystem.entries, h]
  · simp [FileSystem.lookup, FileSystem.entries, node_update_of_ne hother]

/-! ## Owner and device never change -/

/-- Nodes stay, with their owner and device; only an owner changes a mode. -/
def Kept (uid : Uid) (fs fs' : FileSystem) : Prop :=
  ∀ inode node, fs.node inode = some node → ∃ node', fs'.node inode = some node' ∧
    node'.metadata.owner = node.metadata.owner ∧ node'.metadata.device = node.metadata.device ∧
    (node.metadata.owner ≠ uid → node'.metadata.mode = node.metadata.mode)

theorem Kept.refl (uid : Uid) (fs : FileSystem) : Kept uid fs fs := by
  intro inode node h
  exact ⟨node, h, rfl, rfl, fun _ => rfl⟩

theorem Kept.trans {fs'' : FileSystem} (h : Kept uid fs fs') (h' : Kept uid fs' fs'') :
    Kept uid fs fs'' := by
  intro inode node hnode
  obtain ⟨node', hnode', howner, hdevice, hmode⟩ := h inode node hnode
  obtain ⟨node'', hnode'', howner', hdevice', hmode'⟩ := h' inode node' hnode'
  refine ⟨node'', hnode'', howner'.trans howner, hdevice'.trans hdevice, fun hne => ?_⟩
  rw [hmode' (by rwa [howner]), hmode hne]

theorem kept_modify {inode : Inode} {change : Node → Node}
    (h : ∀ node, fs.node inode = some node →
      (change node).metadata.owner = node.metadata.owner ∧
      (change node).metadata.device = node.metadata.device ∧
      (node.metadata.owner ≠ uid → (change node).metadata.mode = node.metadata.mode)) :
    Kept uid fs (fs.modify inode change) := by
  intro other node hnode
  by_cases hother : other = inode
  · subst hother
    exact ⟨change node, node_modify_self hnode change, h node hnode⟩
  · exact ⟨node, by rw [node_modify_of_ne hother, hnode], rfl, rfl, fun _ => rfl⟩

theorem kept_setEntries (directory : Inode) (entries : List (String × Inode)) :
    Kept uid fs (fs.setEntries directory entries) :=
  kept_modify fun _ _ => ⟨rfl, rfl, fun _ => rfl⟩

theorem kept_update_of_new {inode : Inode} (h : fs.node inode = none) (node : Node) :
    Kept uid fs (fs.update inode node) := by
  intro other held hheld
  have hne : other ≠ inode := by
    rintro rfl
    rw [h] at hheld
    cases hheld
  exact ⟨held, by rw [node_update_of_ne hne, hheld], rfl, rfl, fun _ => rfl⟩

theorem node_attach_eq_none {directory inode child : Inode} {name : String}
    (h : fs.node inode = none) : (fs.attach directory name child).node inode = none := by
  by_cases hinode : inode = directory
  · subst hinode
    simp [FileSystem.attach, FileSystem.setEntries, FileSystem.modify, h]
  · rw [FileSystem.attach, node_setEntries_of_ne hinode, h]

theorem kept_step (h : Step uid fs fs') : Kept uid fs fs' := by
  obtain ⟨operation, hpermitted, rfl⟩ := h
  cases operation with
  | chmod inode mode =>
      obtain ⟨node, hnode, howner, -⟩ := hpermitted
      refine kept_modify fun held hheld => ⟨rfl, rfl, fun hne => ?_⟩
      rw [hnode, Option.some.injEq] at hheld
      subst hheld
      exact absurd howner hne
  | create directory name inode mode content =>
      obtain ⟨-, -, hnew, -⟩ := hpermitted
      exact (kept_setEntries _ _).trans (kept_update_of_new (node_attach_eq_none hnew) _)
  | rename source name target newName =>
      simp only [Operation.apply]
      split
      · exact ((kept_setEntries _ _).trans (kept_setEntries _ _)).trans (kept_setEntries _ _)
      · exact Kept.refl uid fs
  | unlink directory name => exact kept_setEntries _ _
  | write inode data => exact kept_modify fun _ _ => ⟨rfl, rfl, fun _ => rfl⟩

theorem root_step (h : Step uid fs fs') : fs'.root = fs.root := by
  obtain ⟨operation, -, rfl⟩ := h
  cases operation with
  | chmod inode mode => exact root_modify _ _
  | create directory name inode mode content => exact root_modify _ _
  | rename source name target newName =>
      simp only [Operation.apply]
      split
      · simp [FileSystem.attach, FileSystem.detach, FileSystem.setEntries]
      · rfl
  | unlink directory name => exact root_modify _ _
  | write inode data => exact root_modify _ _

/-! ## A fixed node -/

theorem exposed_of_mayModify {inode : Inode} {node : Node} (hnode : fs.node inode = some node)
    (h : MayModify uid fs inode) : Exposed uid node := by
  obtain ⟨held, entries, hheld, hentries, hwrite⟩ := h
  rw [hnode, Option.some.injEq] at hheld
  subst hheld
  simp only [Exposed, hentries]
  exact .inr hwrite

theorem not_mayModify_of_fixed {inode : Inode} (h : Fixed uid fs inode) :
    ¬ MayModify uid fs inode := by
  obtain ⟨node, hnode, hfixed⟩ := h
  exact fun hmodify => hfixed (exposed_of_mayModify hnode hmodify)

theorem ne_of_mayModify {inode directory : Inode} (h : Fixed uid fs inode)
    (hmodify : MayModify uid fs directory) : inode ≠ directory := by
  rintro rfl
  exact not_mayModify_of_fixed h hmodify

theorem node_step_of_fixed {inode : Inode} (h : Fixed uid fs inode) (hstep : Step uid fs fs') :
    fs'.node inode = fs.node inode := by
  obtain ⟨operation, hpermitted, rfl⟩ := hstep
  obtain ⟨held, hheld, hfixed⟩ := id h
  cases operation with
  | chmod changed mode =>
      obtain ⟨node, hnode, howner, hlink⟩ := hpermitted
      refine node_modify_of_ne ?_ _
      rintro rfl
      rw [hnode, Option.some.injEq] at hheld
      subst hheld
      apply hfixed
      unfold Exposed
      split
      · next target hcontent => exact hlink target hcontent
      · exact howner
      · exact .inl howner
  | create directory name new mode content =>
      obtain ⟨hmodify, -, hnew, -⟩ := hpermitted
      have hinode : inode ≠ new := by
        rintro rfl
        rw [hnew] at hheld
        cases hheld
      rw [Operation.apply, node_update_of_ne hinode, FileSystem.attach,
        node_setEntries_of_ne (ne_of_mayModify h hmodify)]
  | rename source name target newName =>
      obtain ⟨hsource, htarget, -, -⟩ := hpermitted
      simp only [Operation.apply]
      split
      · rw [FileSystem.attach, node_setEntries_of_ne (ne_of_mayModify h htarget),
          FileSystem.detach, node_setEntries_of_ne (ne_of_mayModify h htarget),
          FileSystem.detach, node_setEntries_of_ne (ne_of_mayModify h hsource)]
      · rfl
  | unlink directory name => exact node_setEntries_of_ne (ne_of_mayModify h hpermitted.1) _
  | write changed data =>
      obtain ⟨node, old, hnode, hfile, hmay⟩ := hpermitted
      refine node_modify_of_ne ?_ _
      rintro rfl
      rw [hnode, Option.some.injEq] at hheld
      subst hheld
      apply hfixed
      simp only [Exposed, hfile]
      exact .inr hmay

theorem fixed_step {inode : Inode} (h : Fixed uid fs inode) (hstep : Step uid fs fs') :
    Fixed uid fs' inode := by
  obtain ⟨node, hnode, hrest⟩ := id h
  exact ⟨node, by rw [node_step_of_fixed h hstep, hnode], hrest⟩

/-- Whatever the user does, a fixed node stays as it is. -/
theorem fixed_run {inode : Inode} (h : Fixed uid fs inode) (hrun : Reaches uid fs fs') :
    Fixed uid fs' inode ∧ fs'.node inode = fs.node inode := by
  induction hrun with
  | refl => exact ⟨h, rfl⟩
  | tail hrun hstep ih => exact ⟨fixed_step ih.1 hstep, (node_step_of_fixed ih.1 hstep).trans ih.2⟩

/-! ## A pinned entry -/

theorem not_mayDetach_of_pinned {directory child : Inode} {name : String}
    (h : Pinned uid fs directory name child) (hmodify : MayModify uid fs directory) :
    ¬ MayDetach uid fs directory name := by
  rintro ⟨parent, named, node, hparent, hnamed, hnode, hdevice, hsticky⟩
  obtain ⟨hlookup, held, held', hheld, hheld', hpinned⟩ := h
  obtain ⟨modified, entries, hmodified, -, hwrite⟩ := hmodify
  rw [hlookup, Option.some.injEq] at hnamed
  subst hnamed
  rw [hparent, Option.some.injEq] at hheld hmodified
  rw [hnode, Option.some.injEq] at hheld'
  subst hheld hheld' hmodified
  rcases hpinned with hmount | ⟨howner, hwrite' | ⟨hset, hchild⟩⟩
  · exact hmount hdevice
  · rw [hwrite] at hwrite'
    cases hwrite'
  · exact (hsticky hset).elim howner hchild

theorem lookup_step_of_pinned {directory child : Inode} {name : String}
    (h : Pinned uid fs directory name child) (hstep : Step uid fs fs') :
    fs'.lookup directory name = some child := by
  obtain ⟨operation, hpermitted, rfl⟩ := hstep
  rw [← h.1]
  cases operation with
  | chmod changed mode => exact lookup_modify fun _ _ => rfl
  | create changed added new mode content =>
      obtain ⟨-, hfree, hnew, hempty⟩ := hpermitted
      rw [Operation.apply, lookup_update_of_new (node_attach_eq_none hnew) hempty]
      refine lookup_attach ?_
      rintro rfl rfl
      rw [h.1] at hfree
      cases hfree
  | rename source removed target newName =>
      obtain ⟨hsource, htarget, hdetach, hreplace⟩ := hpermitted
      have hkept : directory = source → name ≠ removed := by
        rintro rfl rfl
        exact not_mayDetach_of_pinned h hsource hdetach
      have hother : directory = target → name ≠ newName := by
        rintro rfl rfl
        rcases hreplace with hfree | hreplace
        · rw [h.1] at hfree
          cases hfree
        · exact not_mayDetach_of_pinned h htarget hreplace
      simp only [Operation.apply]
      split
      · rw [lookup_attach hother, lookup_detach hother, lookup_detach hkept]
      · rfl
  | unlink changed removed =>
      refine lookup_detach ?_
      rintro rfl rfl
      exact not_mayDetach_of_pinned h hpermitted.1 hpermitted.2
  | write changed data =>
      obtain ⟨node, old, hnode, hfile, -⟩ := hpermitted
      refine lookup_modify fun held hheld => ?_
      rw [hnode, Option.some.injEq] at hheld
      subst hheld
      rw [hfile]
      rfl

theorem mayWrite_eq {metadata metadata' : Metadata} (howner : metadata'.owner = metadata.owner)
    (hmode : metadata'.mode = metadata.mode) : mayWrite uid metadata' = mayWrite uid metadata := by
  simp [mayWrite, howner, hmode]

theorem pinned_step {directory child : Inode} {name : String}
    (h : Pinned uid fs directory name child) (hstep : Step uid fs fs') :
    Pinned uid fs' directory name child := by
  refine ⟨lookup_step_of_pinned h hstep, ?_⟩
  obtain ⟨-, parent, node, hparent, hnode, hpinned⟩ := h
  obtain ⟨parent', hparent', howner, hdevice, hmode⟩ := kept_step hstep directory parent hparent
  obtain ⟨node', hnode', hchild, hchildDevice, -⟩ := kept_step hstep child node hnode
  refine ⟨parent', node', hparent', hnode', ?_⟩
  rw [hdevice, hchildDevice, howner, hchild]
  rcases hpinned with hmount | ⟨hne, hkept⟩
  · exact .inl hmount
  · rw [mayWrite_eq howner (hmode hne), hmode hne]
    exact .inr ⟨hne, hkept⟩

theorem pinned_run {directory child : Inode} {name : String}
    (h : Pinned uid fs directory name child) (hrun : Reaches uid fs fs') :
    Pinned uid fs' directory name child := by
  induction hrun with
  | refl => exact h
  | tail hrun hstep ih => exact pinned_step ih hstep

theorem root_run (hrun : Reaches uid fs fs') : fs'.root = fs.root := by
  induction hrun with
  | refl => rfl
  | tail hrun hstep ih => rw [root_step hstep, ih]

/-- Every entry on the way from an inode along a path is pinned. -/
def PinnedPath (uid : Uid) (fs : FileSystem) : Inode → List String → Prop
  | _, [] => True
  | inode, name :: names => ∃ child, Pinned uid fs inode name child ∧ PinnedPath uid fs child names

theorem descend_run_of_pinned {names : List String} {inode : Inode}
    (h : PinnedPath uid fs inode names) (hrun : Reaches uid fs fs') :
    fs'.descend inode names = fs.descend inode names := by
  induction names generalizing inode with
  | nil => rfl
  | cons name names ih =>
      obtain ⟨child, hpinned, hrest⟩ := h
      simp only [FileSystem.descend, hpinned.1, (pinned_run hpinned hrun).1, Option.bind_some]
      exact ih hrest

/-! ## What is not protected is lost -/

theorem reaches_apply {operation : Operation} (h : Permitted uid fs operation) :
    Reaches uid fs (operation.apply uid fs) :=
  ReflTransGen.single ⟨operation, h, rfl⟩

theorem exists_free_name (entries : List (String × Inode)) (name : String) :
    ∃ free, free ≠ name ∧ entries.lookup free = none := by
  obtain ⟨free, hfree⟩ := Infinite.exists_notMem_finset (name :: entries.map Prod.fst).toFinset
  rw [List.mem_toFinset, List.mem_cons, not_or] at hfree
  refine ⟨free, hfree.1, ?_⟩
  rw [List.lookup_eq_none_iff]
  intro entry hentry
  rw [bne_iff_ne]
  rintro rfl
  exact hfree.2 (List.mem_map_of_mem hentry)

theorem exists_free_inode (fs : FileSystem) : ∃ inode, fs.node inode = none := by
  obtain ⟨free, hfree⟩ := Infinite.exists_notMem_finset (fs.nodes.map Prod.fst).toFinset
  rw [List.mem_toFinset] at hfree
  refine ⟨free, ?_⟩
  rw [FileSystem.node, List.lookup_eq_none_iff]
  intro entry hentry
  rw [bne_iff_ne]
  rintro rfl
  exact hfree (List.mem_map_of_mem hentry)

theorem ne_complement (mode : Mode) : ~~~mode ≠ mode := by
  intro h
  have hbit := congrArg (fun bits : Mode => bits.getLsbD 0) h
  simp at hbit

theorem content_of_lookup {directory child : Inode} {name : String} {node : Node}
    (hnode : fs.node directory = some node) (h : fs.lookup directory name = some child) :
    node.content = .directory (fs.entries directory) := by
  have hentries := entries_of_node hnode
  cases hcontent : node.content with
  | directory entries => rw [hentries, hcontent, Content.entries]
  | file data => simp [FileSystem.lookup, hentries, hcontent, Content.entries] at h
  | symlink target => simp [FileSystem.lookup, hentries, hcontent, Content.entries] at h
  | special => simp [FileSystem.lookup, hentries, hcontent, Content.entries] at h

/-- The owner of a node gives it another mode; a writable file gets other content, a
writable directory another entry. -/
theorem exposed_changes {inode : Inode} {node : Node} (hnode : fs.node inode = some node)
    (h : Exposed uid node) : ∃ fs', Reaches uid fs fs' ∧ fs'.node inode ≠ some node := by
  by_cases howner : node.metadata.owner = uid
  case pos =>
    have hlink : ∀ target, node.content ≠ .symlink target := by
      intro target hcontent
      simp only [Exposed, hcontent] at h
    have hchmod : Permitted uid fs (.chmod inode (~~~node.metadata.mode)) :=
      ⟨node, hnode, howner, hlink⟩
    refine ⟨_, reaches_apply hchmod, ?_⟩
    rw [Operation.apply, node_modify_self hnode]
    intro hsame
    have hmode := congrArg (fun node => node.metadata.mode) (Option.some.inj hsame)
    exact ne_complement _ hmode
  case neg =>
    cases hcontent : node.content with
    | symlink target => simp only [Exposed, hcontent] at h
    | special =>
        simp only [Exposed, hcontent] at h
        exact absurd h howner
    | file data =>
        simp only [Exposed, hcontent, howner, false_or] at h
        have hwrite : Permitted uid fs (.write inode (data ++ [0])) :=
          ⟨node, data, hnode, hcontent, h⟩
        refine ⟨_, reaches_apply hwrite, ?_⟩
        rw [Operation.apply, node_modify_self hnode]
        intro hsame
        have hdata := congrArg Node.content (Option.some.inj hsame)
        rw [hcontent, Content.file.injEq] at hdata
        simpa using congrArg List.length hdata
    | directory entries =>
        simp only [Exposed, hcontent, howner, false_or] at h
        obtain ⟨name, -, hname⟩ := exists_free_name (fs.entries inode) ""
        obtain ⟨new, hnew⟩ := exists_free_inode fs
        have hcreate : Permitted uid fs (.create inode name new 0 .special) :=
          ⟨⟨node, entries, hnode, hcontent, h⟩, hname, hnew, rfl⟩
        refine ⟨_, reaches_apply hcreate, ?_⟩
        have hne : inode ≠ new := by
          rintro rfl
          rw [hnew] at hnode
          cases hnode
        rw [Operation.apply, node_update_of_ne hne, FileSystem.attach, FileSystem.setEntries,
          node_modify_self hnode]
        intro hsame
        have hentries := congrArg Node.content (Option.some.inj hsame)
        simp only [hcontent, Content.setEntries, Content.directory.injEq, entries_of_node hnode,
          Content.entries] at hentries
        simpa using congrArg List.length hentries

theorem lookup_detach_self {directory : Inode} (removed : String) {node : Node}
    (hnode : fs.node directory = some node) :
    (fs.detach directory removed).lookup directory removed = none := by
  have hafter := node_modify_self hnode fun held => { held with
    content := held.content.setEntries
      ((fs.entries directory).filter fun entry => entry.1 ≠ removed) }
  unfold FileSystem.lookup
  rw [FileSystem.detach, FileSystem.setEntries, entries_of_node hafter]
  cases hcontent : node.content with
  | directory entries => exact lookup_filter_self _ _
  | file data => rfl
  | symlink target => rfl
  | special => rfl

theorem apply_rename_of_lookup {source target child : Inode} {name newName : String}
    (h : fs.lookup source name = some child) :
    (Operation.rename source name target newName).apply uid fs =
      ((fs.detach source name).detach target newName).attach target newName child := by
  simp only [Operation.apply, h]

/-- The owner of a directory makes it writable and renames an entry of it. Every other
entry of the file system stays where it is. -/
theorem owned_entry_lost {directory child : Inode} {name : String} {parent node : Node}
    (hparent : fs.node directory = some parent) (howner : parent.metadata.owner = uid)
    (hlookup : fs.lookup directory name = some child) (hnode : fs.node child = some node)
    (hdevice : parent.metadata.device = node.metadata.device) :
    ∃ fs', Reaches uid fs fs' ∧ fs'.root = fs.root ∧ fs'.lookup directory name = none ∧
      ∀ inode held kept, fs.lookup inode held = some kept → ¬ (inode = directory ∧ held = name) →
        fs'.lookup inode held = some kept := by
  have hcontent := content_of_lookup hparent hlookup
  -- first the directory is made writable
  have hchmod : Permitted uid fs (.chmod directory 0o700) := by
    refine ⟨parent, hparent, howner, fun target => ?_⟩
    rw [hcontent]
    exact Content.noConfusion
  let opened := (Operation.chmod directory 0o700).apply uid fs
  have hsame : ∀ inode held, opened.lookup inode held = fs.lookup inode held :=
    fun inode held => lookup_modify fun _ _ => rfl
  have hopened : opened.node directory = some
      { parent with metadata := { parent.metadata with mode := 0o700 } } :=
    node_modify_self hparent _
  obtain ⟨held', hheld', howner', hdevice', -⟩ :=
    kept_step ⟨_, hchmod, rfl⟩ child node hnode
  -- then the entry is given a free name
  obtain ⟨free, hne, hfree⟩ := exists_free_name (fs.entries directory) name
  have hmodify : MayModify uid opened directory := by
    refine ⟨_, _, hopened, hcontent, ?_⟩
    simp only [mayWrite, howner, if_true]
    decide
  have hrename : Permitted uid opened (.rename directory name directory free) := by
    refine ⟨hmodify, hmodify, ⟨_, child, held', hopened, ?_, hheld', ?_, ?_⟩, .inl ?_⟩
    · rw [hsame, hlookup]
    · rw [hdevice', ← hdevice]
    · exact fun _ => .inl howner
    · rw [hsame]
      exact hfree
  refine ⟨_, (reaches_apply hchmod).trans (reaches_apply hrename), ?_, ?_, ?_⟩
  · exact root_run ((reaches_apply hchmod).trans (reaches_apply hrename))
  · rw [apply_rename_of_lookup ((hsame _ _).trans hlookup), lookup_attach fun _ => hne.symm,
      lookup_detach fun _ => hne.symm, lookup_detach_self name hopened]
  · intro inode other kept hkept hentry
    have hother : inode = directory → other ≠ free := by
      rintro rfl rfl
      rw [FileSystem.lookup, hfree] at hkept
      cases hkept
    rw [apply_rename_of_lookup ((hsame _ _).trans hlookup), lookup_attach hother,
      lookup_detach hother, lookup_detach fun hinode hname => hentry ⟨hinode, hname⟩, hsame, hkept]

/-- A path through an entry that was taken away leads nowhere. -/
theorem descend_eq_none {directory : Inode} {name : String}
    (hlost : fs'.lookup directory name = none)
    (hkept : ∀ inode held kept, fs.lookup inode held = some kept →
      ¬ (inode = directory ∧ held = name) → fs'.lookup inode held = some kept)
    {names rest : List String} {start : Inode} (h : fs.descend start names = some directory) :
    fs'.descend start (names ++ name :: rest) = none := by
  induction names generalizing start with
  | nil =>
      rw [FileSystem.descend, Option.some.injEq] at h
      subst h
      simp [FileSystem.descend, hlost]
  | cons next names ih =>
      obtain ⟨child, hchild, hrest⟩ := Option.bind_eq_some_iff.mp h
      rw [List.cons_append, FileSystem.descend]
      by_cases hentry : start = directory ∧ next = name
      · rw [hentry.1, hentry.2, hlost]
        rfl
      · rw [hkept start next child hchild hentry]
        exact ih hrest

end
end Foundation.Posix
