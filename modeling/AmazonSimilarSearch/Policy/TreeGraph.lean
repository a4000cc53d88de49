import AmazonSimilarSearch.Foundation.Exploring
import AmazonSimilarSearch.Policy.Contract

/-!
# Trees and their entries

`_verify_tree_graph` finds the entries of a tree by three offsets: the space
after the mode, the zero byte after the name, and the end of the object id. A
search that finds nothing gives -1, and the comparisons of the offsets reject
it. What it accepts is exactly a concatenation of well-formed entries; the trees
among these are read next, each once.
-/
namespace AmazonSimilarSearch.Policy
open Foundation Review Interaction

/-! ## The loop over the offsets -/

/-- `content.find(bytes([needle]), start)` -/
def findByte (needle : UInt8) (content : Bytes) (start : ℤ) : ℤ :=
  match (content.drop start.toNat).findIdx? (· == needle) with
  | some i => start.toNat + i
  | none => -1

/-- `content[start:stop]` -/
def slice (content : Bytes) (start stop : ℤ) : Bytes := (content.take stop.toNat).drop start.toNat

/-- The mode, the name and the object id of the entry at `offset`, and where it ends. -/
def entryAt (content : Bytes) (offset : ℤ) :
    Except InspectionError ((Bytes × Bytes × Bytes) × ℤ) := do
  let space := findByte 32 content offset
  let nul := findByte 0 content (space + 1)
  let objectEnd := nul + 21
  require (¬ (space ≤ offset ∨ nul ≤ space + 1 ∨ (content.length : ℤ) < objectEnd))
    "Git tree contains a malformed entry"
  pure ((slice content offset space, slice content (space + 1) nul,
    slice content (nul + 1) objectEnd), objectEnd)

local instance lawfulBEqBytes : LawfulBEq (List UInt8) := inferInstance

/-- The checks of one entry that come before it is counted. -/
def checkEntry (name : Bytes) (count : ℕ) : Except InspectionError Unit := do
  require (47 ∉ name ∧ name ∉ [encodeUtf8 "", encodeUtf8 ".", encodeUtf8 ".."])
    "Git tree contains an unsafe entry name"
  require (count + 1 ≤ maxWorktreeEntries)
    ("candidate Git trees have more than " ++ toString maxWorktreeEntries ++ " entries")

/-- A mode that the walk follows. -/
def isTreeMode (mode : Bytes) : Bool := [encodeUtf8 "40000", encodeUtf8 "040000"].contains mode

theorem entryAt_advances {content : Bytes} {offset objectEnd : ℤ} {fields : Bytes × Bytes × Bytes}
    (h : entryAt content offset = .ok (fields, objectEnd)) :
    offset < objectEnd ∧ objectEnd ≤ content.length := by
  simp only [entryAt, require, bind_eq_ok_iff, ensure_eq_ok_iff, pure_eq_ok_iff,
    Prod.mk.injEq] at h
  omega

/-- The inner loop of `_verify_tree_graph`: the number of entries and the pending trees after it,
the last one first. -/
def scanEntries (content : Bytes) (offset : ℤ) (count : ℕ) (pending : List String) :
    Except InspectionError (ℕ × List String) :=
  if offset < content.length then
    match _hentry : entryAt content offset with
    | .error error => .error error
    | .ok ((mode, name, objectId), objectEnd) =>
        match checkEntry name count with
        | .error error => .error error
        | .ok _ => scanEntries content objectEnd (count + 1)
            (if isTreeMode mode then bytesHex objectId :: pending else pending)
  else .ok (count, pending)
termination_by (content.length - offset).toNat
decreasing_by
  have hadvances := entryAt_advances _hentry
  omega

/-! ## One entry -/

/-- A well-formed entry of a tree. -/
@[ext]
structure TreeEntry where
  mode : Bytes
  name : Bytes
  objectId : Bytes
  mode_ne_nil : mode ≠ []
  mode_spaceless : 32 ∉ mode
  name_ne_nil : name ≠ []
  name_zeroless : 0 ∉ name
  name_slashless : 47 ∉ name
  name_not_dot : name ≠ encodeUtf8 "."
  name_not_dots : name ≠ encodeUtf8 ".."
  objectId_length : objectId.length = 20

/-- `mode SP name NUL <20 bytes>` -/
def TreeEntry.bytes (entry : TreeEntry) : Bytes :=
  entry.mode ++ 32 :: (entry.name ++ 0 :: entry.objectId)

/-- The content of a tree with these entries. -/
def treeBytes (entries : List TreeEntry) : Bytes := entries.flatMap TreeEntry.bytes

/-- The ids of the entries that the walk follows. -/
def followedIds (entries : List TreeEntry) : List String :=
  (entries.filter fun entry => isTreeMode entry.mode).map fun entry => bytesHex entry.objectId

/-- The content starts with the fields of an entry, whatever its name may be. -/
structure StartsWithEntry (content mode name objectId rest : Bytes) : Prop where
  split : content = mode ++ 32 :: (name ++ 0 :: (objectId ++ rest))
  mode_ne_nil : mode ≠ []
  mode_spaceless : 32 ∉ mode
  name_ne_nil : name ≠ []
  name_zeroless : 0 ∉ name
  objectId_length : objectId.length = 20

theorem treeBytes_cons (entry : TreeEntry) (entries : List TreeEntry) :
    treeBytes (entry :: entries) = entry.bytes ++ treeBytes entries := rfl

theorem TreeEntry.startsWith (entry : TreeEntry) (rest : Bytes) :
    StartsWithEntry (entry.bytes ++ rest) entry.mode entry.name entry.objectId rest where
  split := by simp [TreeEntry.bytes]
  mode_ne_nil := entry.mode_ne_nil
  mode_spaceless := entry.mode_spaceless
  name_ne_nil := entry.name_ne_nil
  name_zeroless := entry.name_zeroless
  objectId_length := entry.objectId_length

theorem checkEntry_eq_ok_iff {name : Bytes} {count : ℕ} :
    checkEntry name count = .ok ⟨⟩ ↔ (47 ∉ name ∧ name ≠ [] ∧ name ≠ encodeUtf8 "." ∧
      name ≠ encodeUtf8 "..") ∧ count + 1 ≤ maxWorktreeEntries := by
  have hempty : encodeUtf8 "" = [] := rfl
  simp only [checkEntry, require, bind_eq_ok_iff, ensure_eq_ok_iff, exists_const, List.mem_cons,
    List.not_mem_nil, or_false, not_or, hempty, ne_eq]

theorem TreeEntry.check (entry : TreeEntry) {count : ℕ} (h : count + 1 ≤ maxWorktreeEntries) :
    checkEntry entry.name count = .ok ⟨⟩ :=
  checkEntry_eq_ok_iff.mpr ⟨⟨entry.name_slashless, entry.name_ne_nil, entry.name_not_dot,
    entry.name_not_dots⟩, h⟩

theorem treeBytes_ne_nil (entry : TreeEntry) (entries : List TreeEntry) :
    treeBytes (entry :: entries) ≠ [] := by
  rw [treeBytes_cons, TreeEntry.bytes]
  simp

section
variable (sha1 : Sha1Function)

/-- A tree that was read, with its entries. -/
structure TreeVisit where
  treeId : String
  entries : List TreeEntry

/-- The command that read the tree, and its output. -/
def TreeVisit.exchange (visit : TreeVisit) : Exchange Query Answer :=
  ⟨.git ["cat-file", "tree", visit.treeId], .ok (treeBytes visit.entries)⟩

/-- The tree with the trees that the walk follows from it. -/
def TreeVisit.edges (visit : TreeVisit) : String × List String :=
  (visit.treeId, followedIds visit.entries)

/-- The number of entries over all trees. -/
def entryCount (visits : List TreeVisit) : ℕ := (visits.map fun visit => visit.entries.length).sum

/-- The trees were read once each, their contents have their ids as digests, they are those that
can be reached from the root, and their entries are within the limit. -/
structure Walked (root : String) (visits : List TreeVisit) : Prop where
  once : (visits.map TreeVisit.treeId).Nodup
  hashed : ∀ visit ∈ visits, (sha1 (objectPreimage .tree (treeBytes visit.entries))).text =
    visit.treeId
  reachable : ∀ treeId, treeId ∈ visits.map TreeVisit.treeId ↔
    Reaches (visits.map TreeVisit.edges) root treeId
  bounded : entryCount visits ≤ maxWorktreeEntries

/-- The state of the walk, between two passes. -/
structure Walking (root : String) (visits : List TreeVisit) (pending seen : List String)
    (count : ℕ) : Prop where
  exploring : Exploring root (visits.map TreeVisit.edges) pending
  hashed : ∀ visit ∈ visits, (sha1 (objectPreimage .tree (treeBytes visit.entries))).text =
    visit.treeId
  seen : ∀ treeId, treeId ∈ seen ↔ treeId ∈ visits.map TreeVisit.treeId
  counted : entryCount visits = count
  bounded : count ≤ maxWorktreeEntries

variable {sha1} {root treeId : String} {visits : List TreeVisit} {pending seen : List String}
  {count : ℕ}

theorem edges_fst (visits : List TreeVisit) :
    (visits.map TreeVisit.edges).map Prod.fst = visits.map TreeVisit.treeId := by
  rw [List.map_map]
  rfl

theorem Walking.start (root : String) : Walking sha1 root [] [root] [] 0 where
  exploring := Exploring.start root
  hashed := fun _ hvisit => absurd hvisit List.not_mem_nil
  seen := fun _ => Iff.rfl
  counted := rfl
  bounded := Nat.zero_le _

theorem Walking.skip (h : Walking sha1 root visits (treeId :: pending) seen count)
    (hseen : treeId ∈ seen) : Walking sha1 root visits pending seen count where
  exploring := h.exploring.skip (by rw [edges_fst]; exact (h.seen treeId).mp hseen)
  hashed := h.hashed
  seen := h.seen
  counted := h.counted
  bounded := h.bounded

/-- A tree is read, and its entries are counted. -/
theorem Walking.visit {entries : List TreeEntry}
    (h : Walking sha1 root visits (treeId :: pending) seen count) (hseen : treeId ∉ seen)
    (hhash : (sha1 (objectPreimage .tree (treeBytes entries))).text = treeId)
    (hlimit : entries = [] ∨ count + entries.length ≤ maxWorktreeEntries) :
    Walking sha1 root (visits ++ [⟨treeId, entries⟩]) ((followedIds entries).reverse ++ pending)
      (treeId :: seen) (count + entries.length) where
  exploring := by
    rw [List.map_append, List.map_singleton]
    apply h.exploring.visit
    · rwa [edges_fst, ← h.seen treeId]
    · intro other
      rw [List.mem_append, List.mem_reverse]
  hashed := by
    rw [List.forall_mem_append]
    refine ⟨h.hashed, ?_⟩
    intro visit hvisit
    rw [List.mem_singleton.mp hvisit]
    exact hhash
  seen := by
    intro other
    rw [List.mem_cons, h.seen, List.map_append, List.mem_append, List.map_singleton,
      List.mem_singleton]
    exact or_comm
  counted := by
    rw [entryCount, List.map_append, List.sum_append, ← entryCount, h.counted]
    simp
  bounded := by
    cases hlimit with
    | inl hnil =>
        rw [hnil]
        exact h.bounded
    | inr hle => exact hle

theorem Walking.finished (h : Walking sha1 root visits [] seen count) :
    Walked sha1 root visits where
  once := by
    rw [← edges_fst]
    exact h.exploring.nodup
  hashed := h.hashed
  reachable := by
    intro treeId
    rw [← edges_fst]
    exact h.exploring.mem_iff_reaches
  bounded := h.counted ▸ h.bounded

end

end AmazonSimilarSearch.Policy
