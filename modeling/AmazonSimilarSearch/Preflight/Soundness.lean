import AmazonSimilarSearch.Preflight.Protection

/-!
# What an accepted path is protected against

A path that the preflight accepts keeps its node against everything the candidate
can do, unless the candidate owns a directory on the way: the owner makes it
writable first. A tree that is accepted keeps every entry, unless `os.walk` had to
skip a directory that holds something the candidate can change.
-/
namespace AmazonSimilarSearch.Preflight
open Foundation Posix

section
variable {coordinator : Coordinator} {fs fs' : FileSystem} {uid : Uid}

/-! ## The properties -/

/-- Whatever the candidate does, the path still names the same node. -/
def Protected (uid : Uid) (fs : FileSystem) (path : List String) : Prop :=
  ∀ fs', Reaches uid fs fs' → ∃ inode node, fs.resolve path = some inode ∧
    fs.node inode = some node ∧ fs'.resolve path = some inode ∧ fs'.node inode = some node

/-- Whatever the candidate does, the same paths below the root name the same nodes. -/
def TreeProtected (uid : Uid) (fs : FileSystem) (root : List String) : Prop :=
  ∀ fs', Reaches uid fs fs' → ∀ names, fs'.resolve (root ++ names) = fs.resolve (root ++ names) ∧
    ∀ inode, fs.resolve (root ++ names) = some inode → fs'.node inode = fs.node inode

/-- The candidate owns no directory on the way, except where another file system is
mounted on the next entry. -/
def NoOwnedDirectory (uid : Uid) (fs : FileSystem) : Inode → List String → Prop
  | _, [] => True
  | directory, name :: names => ∀ child, fs.lookup directory name = some child →
      (∀ parent node, fs.node directory = some parent → fs.node child = some node →
        parent.metadata.owner = uid → parent.metadata.device ≠ node.metadata.device) ∧
      NoOwnedDirectory uid fs child names

/-- Every directory on the way can be listed. -/
def Listed (coordinator : Coordinator) (fs : FileSystem) : Inode → List String → Prop
  | _, [] => True
  | directory, name :: names => coordinator.listable directory = true ∧
      ∀ child, fs.lookup directory name = some child → Listed coordinator fs child names

/-- The candidate can change nothing below a directory that the walk skips. -/
def SkippedFixed (coordinator : Coordinator) (uid : Uid) (fs : FileSystem) (root : List String) :
    Prop :=
  ∀ start names inode node, fs.resolve root = some start → ¬ Listed coordinator fs start names →
    fs.descend start names = some inode → fs.node inode = some node → ¬ Exposed uid node

/-! ## One path -/

theorem mayWrite_of_candidateMayWrite {metadata : Metadata}
    (h : candidateMayWrite uid metadata = false) : mayWrite uid metadata = false := by
  unfold candidateMayWrite at h
  split at h
  · cases h
  · next hwritable =>
    unfold mayWrite
    split
    · next howner => simpa [howner] using hwritable
    · exact h

/-- What the two checks of a component leave: the entry is pinned, or the candidate owns
its directory. -/
theorem pinned_of_not_mayReplace {directory child : Inode} {name : String} {parent node : Node}
    (hparent : fs.node directory = some parent) (hlookup : fs.lookup directory name = some child)
    (hnode : fs.node child = some node)
    (hreplace : candidateMayReplace uid parent.metadata node.metadata = false)
    (howner : parent.metadata.owner = uid → parent.metadata.device ≠ node.metadata.device) :
    Pinned uid fs directory name child := by
  refine ⟨hlookup, parent, node, hparent, hnode, ?_⟩
  by_cases howned : parent.metadata.owner = uid
  case pos => exact .inl (howner howned)
  case neg =>
    refine .inr ⟨howned, ?_⟩
    unfold candidateMayReplace at hreplace
    split_ifs at hreplace with hwrite hsticky
    · exact .inl (mayWrite_of_candidateMayWrite hwrite)
    · rw [Bool.or_eq_false_iff, decide_eq_false_iff_not, decide_eq_false_iff_not] at hreplace
      exact .inr ⟨by simpa using hsticky, fun hchild => hreplace.2 hchild.symm⟩

theorem lstatEntry_spec {directory child : Inode} {name : String} {node : Node}
    (h : lstatEntry coordinator fs directory name = .ok (child, node)) :
    fs.lookup directory name = some child ∧ fs.node child = some node := by
  simp only [lstatEntry, bind_eq_ok_iff, ensure_eq_ok_iff] at h
  obtain ⟨_, -, h⟩ := h
  split at h
  · cases h
  · next found hfound =>
    simp only [bind_eq_ok_iff, required_eq_ok_iff, pure_eq_ok_iff, Prod.mk.injEq] at h
    obtain ⟨held, hheld, rfl, rfl⟩ := h
    exact ⟨hfound, hheld⟩

/-- The loop finds what the path names; the way there is pinned unless the candidate owns
a directory of it. -/
theorem checkComponents_spec {parts walked : List String} {directory inode : Inode}
    {parent node : Node} (hparent : fs.node directory = some parent)
    (h : checkComponents coordinator fs uid walked (directory, parent) parts = .ok (inode, node)) :
    fs.descend directory parts = some inode ∧ fs.node inode = some node ∧
      (NoOwnedDirectory uid fs directory parts → PinnedPath uid fs directory parts) := by
  induction parts generalizing walked directory parent with
  | nil =>
      simp only [checkComponents, Except.ok.injEq, Prod.mk.injEq] at h
      obtain ⟨rfl, rfl⟩ := h
      exact ⟨rfl, hparent, fun _ => trivial⟩
  | cons part parts ih =>
      simp only [checkComponents, require, bind_eq_ok_iff, ensure_eq_ok_iff, mapError_eq_ok_iff] at h
      obtain ⟨⟨child, childNode⟩, hentry, _, -, _, hreplace, h⟩ := h
      obtain ⟨hlookup, hchild⟩ := lstatEntry_spec hentry
      obtain ⟨hdescend, hnode, hpinned⟩ := ih hchild h
      refine ⟨?_, hnode, fun howned => ?_⟩
      · rw [FileSystem.descend, hlookup]
        exact hdescend
      · obtain ⟨hdirectory, hrest⟩ := howned child hlookup
        exact ⟨child, pinned_of_not_mayReplace hparent hlookup hchild hreplace
          (hdirectory parent childNode hparent hchild), hpinned hrest⟩

/-- What an accepted path looks like. -/
structure Accepted (uid : Uid) (fs : FileSystem) (path : List String) (inode : Inode)
    (node : Node) : Prop where
  resolves : fs.resolve path = some inode
  node_eq : fs.node inode = some node
  pinned : NoOwnedDirectory uid fs fs.root path → PinnedPath uid fs fs.root path
  fixed : Fixed uid fs inode

theorem accepted_of_assert {path : List String} {inode : Inode} {node : Node}
    (h : assertCandidateCannotMutate coordinator fs uid path = .ok (inode, node)) :
    Accepted uid fs path inode node := by
  simp only [assertCandidateCannotMutate, require, bind_eq_ok_iff, ensure_eq_ok_iff,
    mapError_eq_ok_iff, required_eq_ok_iff, pure_eq_ok_iff] at h
  obtain ⟨_, -, _, -, anchor, hanchor, ⟨found, held⟩, hfound, _, hwrite, _, howner, heq⟩ := h
  rw [Prod.mk.injEq] at heq
  obtain ⟨rfl, rfl⟩ := heq
  obtain ⟨hdescend, hnode, hpinned⟩ := checkComponents_spec hanchor hfound
  have hexposed : ¬ Exposed uid held := by
    have hmay := mayWrite_of_candidateMayWrite hwrite
    unfold Exposed
    split
    · exact not_false
    · exact howner
    · rw [hmay]
      simpa using howner
  exact ⟨hdescend, hnode, hpinned, held, hnode, hexposed⟩

theorem resolve_run {path : List String} (h : PinnedPath uid fs fs.root path)
    (hrun : Reaches uid fs fs') : fs'.resolve path = fs.resolve path := by
  rw [FileSystem.resolve, root_run hrun]
  exact descend_run_of_pinned h hrun

theorem protected_of_accepted {path : List String} {inode : Inode} {node : Node}
    (h : Accepted uid fs path inode node) (howned : NoOwnedDirectory uid fs fs.root path) :
    Protected uid fs path := by
  intro fs' hrun
  refine ⟨inode, node, h.resolves, h.node_eq, ?_, ?_⟩
  · rw [resolve_run (h.pinned howned) hrun, h.resolves]
  · rw [(fixed_run h.fixed hrun).2, h.node_eq]

/-- The entry that a candidate takes away: it owns the directory of it. -/
theorem owned_of_not_noOwnedDirectory {names : List String} {start : Inode}
    (h : ¬ NoOwnedDirectory uid fs start names) :
    ∃ above name below directory parent child node, names = above ++ name :: below ∧
      fs.descend start above = some directory ∧ fs.node directory = some parent ∧
      fs.lookup directory name = some child ∧ fs.node child = some node ∧
      parent.metadata.owner = uid ∧ parent.metadata.device = node.metadata.device := by
  induction names generalizing start with
  | nil => exact absurd trivial h
  | cons name names ih =>
      simp only [NoOwnedDirectory, not_forall] at h
      obtain ⟨child, hlookup, h⟩ := h
      by_cases hrest : NoOwnedDirectory uid fs child names
      case neg =>
        obtain ⟨above, lost, below, directory, parent, entry, node, rfl, hdescend, hspec⟩ := ih hrest
        refine ⟨name :: above, lost, below, directory, parent, entry, node, rfl, ?_, hspec⟩
        rw [FileSystem.descend, hlookup]
        exact hdescend
      case pos =>
        simp only [hrest, and_true, not_forall, ne_eq, not_not] at h
        obtain ⟨parent, node, hparent, hnode, howner, hdevice⟩ := h
        exact ⟨[], name, names, start, parent, child, node, rfl, rfl, hparent, hlookup, hnode,
          howner, hdevice⟩

/-- The owner of a directory on the way takes the path away. -/
theorem lost_of_owned {path : List String} (h : ¬ NoOwnedDirectory uid fs fs.root path) :
    ∃ fs', Reaches uid fs fs' ∧ fs'.resolve path = none := by
  obtain ⟨above, name, below, directory, parent, child, node, rfl, hdescend, hparent, hlookup,
    hnode, howner, hdevice⟩ := owned_of_not_noOwnedDirectory h
  obtain ⟨fs', hrun, hroot, hlost, hkept⟩ :=
    owned_entry_lost hparent howner hlookup hnode hdevice
  refine ⟨fs', hrun, ?_⟩
  rw [FileSystem.resolve, hroot]
  exact descend_eq_none hlost hkept hdescend

theorem not_protected_of_owned {path : List String}
    (h : ¬ NoOwnedDirectory uid fs fs.root path) : ¬ Protected uid fs path := by
  obtain ⟨fs', hrun, hlost⟩ := lost_of_owned h
  intro hprotected
  obtain ⟨inode, node, -, -, hresolve, -⟩ := hprotected fs' hrun
  rw [hlost] at hresolve
  cases hresolve

/-! ## A tree -/

theorem exposed_of_entry {rootDevice : ℕ} {sameDevice : Bool} {path : List String} {node : Node}
    (h : assertTreeEntryProtected uid rootDevice sameDevice path node = .ok ⟨⟩) :
    ¬ Exposed uid node := by
  simp only [assertTreeEntryProtected, require, bind_eq_ok_iff, ensure_eq_ok_iff] at h
  obtain ⟨_, -, _, -, _, -, _, howner, hwrite⟩ := h
  have hmay := mayWrite_of_candidateMayWrite hwrite
  unfold Exposed
  split
  · exact not_false
  · exact howner
  · rw [hmay]
    simpa using howner

section Walk
variable {rootDevice : ℕ} {sameDevice : Bool} {limits : ProtectedTreeLimits}

/-- Every entry that the inner loop passes is safe, and it collects the directories. -/
theorem scanEntries_spec {path : List String} {directory : Inode} {names : List String}
    {tally after : Tally} {subdirectories : Subdirectories}
    (h : scanEntries coordinator fs uid rootDevice sameDevice limits path directory tally
      names = .ok (after, subdirectories)) {name : String} (hname : name ∈ names) :
    ∃ child node, fs.lookup directory name = some child ∧ fs.node child = some node ∧
      ¬ Exposed uid node ∧
      (Content.isDirectory node.content = true → (path ++ [name], child) ∈ subdirectories) := by
  induction names generalizing tally after subdirectories with
  | nil => cases hname
  | cons first names ih =>
      simp only [scanEntries, bind_eq_ok_iff, pure_eq_ok_iff, Prod.mk.injEq] at h
      obtain ⟨⟨middle, child, node⟩, hentry, ⟨last, rest⟩, hrest, rfl, rfl⟩ := h
      rcases List.mem_cons.mp hname with rfl | hname
      · simp only [scanEntry, require, bind_eq_ok_iff, ensure_eq_ok_iff, mapError_eq_ok_iff,
          pure_eq_ok_iff, Prod.mk.injEq] at hentry
        obtain ⟨_, -, ⟨held, heldNode⟩, hlstat, _, hprotected, _, -, -, rfl, rfl⟩ := hentry
        obtain ⟨hlookup, hnode⟩ := lstatEntry_spec hlstat
        refine ⟨held, heldNode, hlookup, hnode, exposed_of_entry hprotected, fun hdirectory => ?_⟩
        rw [if_pos hdirectory]
        exact List.mem_cons_self
      · obtain ⟨held, heldNode, hlookup, hnode, hsafe, hcollected⟩ := ih hrest hname
        refine ⟨held, heldNode, hlookup, hnode, hsafe, fun hdirectory => ?_⟩
        split_ifs
        · exact List.mem_cons_of_mem _ (hcollected hdirectory)
        · exact hcollected hdirectory

theorem mem_walkedNames {directory child : Inode} {name : String}
    (h : fs.lookup directory name = some child) : name ∈ walkedNames fs directory := by
  have hname : name ∈ (fs.entries directory).map Prod.fst := by
    obtain ⟨left, right, heq, -⟩ := List.lookup_eq_some_iff.mp h
    rw [heq]
    simp
  simp only [walkedNames, List.mem_append, List.mem_filter, hname, true_and]
  cases namesDirectory fs directory name with
  | true => exact .inl rfl
  | false => exact .inr rfl

/-- The walk has seen every entry that it could reach below the pending directories. -/
def Seen (coordinator : Coordinator) (uid : Uid) (fs : FileSystem) (start : Inode) : Prop :=
  ∀ name names inode node, Listed coordinator fs start (name :: names) →
    fs.descend start (name :: names) = some inode → fs.node inode = some node → ¬ Exposed uid node

/-- A directory whose entries are safe has been seen when its subdirectories have. -/
theorem seen_of_entries {directory : Inode}
    (h : ∀ name child, fs.lookup directory name = some child → ∃ node,
      fs.node child = some node ∧ ¬ Exposed uid node ∧
        (Content.isDirectory node.content = true → Seen coordinator uid fs child)) :
    Seen coordinator uid fs directory := by
  intro name names inode node hlisted hdescend hnode
  obtain ⟨child, hlookup, hrest⟩ := Option.bind_eq_some_iff.mp hdescend
  obtain ⟨childNode, hchild, hsafe, hseen⟩ := h name child hlookup
  cases names with
  | nil =>
      rw [FileSystem.descend, Option.some.injEq] at hrest
      subst hrest
      rw [hchild, Option.some.injEq] at hnode
      rwa [← hnode]
  | cons next names =>
      obtain ⟨grandchild, hnext, -⟩ := Option.bind_eq_some_iff.mp hrest
      have hdirectory : Content.isDirectory childNode.content = true := by
        rw [content_of_lookup hchild hnext]
        rfl
      exact hseen hdirectory next names inode node (hlisted.2 child hlookup) hrest hnode

theorem walkTree_spec (tally : Tally) (pending : Subdirectories) (after : Tally)
    (h : walkTree coordinator fs uid rootDevice sameDevice limits tally pending = .ok after) :
    ∀ start ∈ pending, Seen coordinator uid fs start.2 := by
  induction tally, pending using walkTree.induct coordinator fs uid rootDevice sameDevice limits with
  | case1 tally =>
      intro start hstart
      cases hstart
  | case2 tally path directory pending hlist ih =>
      rw [walkTree, if_pos hlist] at h
      intro start hstart
      rcases List.mem_cons.mp hstart with rfl | hstart
      · intro name names inode node hlisted
        have hlistable := hlisted.1
        rw [hlist] at hlistable
        cases hlistable
      · exact ih h start hstart
  | case3 tally path directory pending hlist ih =>
      rw [walkTree, if_neg hlist] at h
      simp only [bind_eq_ok_iff] at h
      obtain ⟨_, -, _, -, h⟩ := h
      split at h
      · cases h
      · next tally' subdirectories hscan =>
        have hseen := ih tally' subdirectories hscan h
        intro start hstart
        rcases List.mem_cons.mp hstart with rfl | hstart
        · refine seen_of_entries fun name child hlookup => ?_
          obtain ⟨found, node, hfound, hnode, hsafe, hcollected⟩ :=
            scanEntries_spec hscan (mem_walkedNames hlookup)
          rw [hlookup, Option.some.injEq] at hfound
          subst hfound
          exact ⟨node, hnode, hsafe, fun hdirectory =>
            hseen _ (List.mem_append_left _ (hcollected hdirectory))⟩
        · exact hseen start (List.mem_append_right _ hstart)
end Walk

/-- Nodes that cannot be changed are found under the same paths for good. -/
theorem descend_run_of_fixed {names : List String} {start : Inode}
    (h : ∀ above inode, above <+: names → fs.descend start above = some inode → Fixed uid fs inode)
    (hrun : Reaches uid fs fs') : fs'.descend start names = fs.descend start names := by
  induction names generalizing start with
  | nil => rfl
  | cons name names ih =>
      have hstart := fixed_run (h [] start List.nil_prefix rfl) hrun
      have hlookup : fs'.lookup start name = fs.lookup start name := by
        simp only [FileSystem.lookup, FileSystem.entries, hstart.2]
      rw [FileSystem.descend, FileSystem.descend, hlookup]
      cases hchild : fs.lookup start name with
      | none => rfl
      | some child =>
          refine ih fun above inode habove hdescend => ?_
          refine h (name :: above) inode (List.cons_prefix_cons.mpr ⟨rfl, habove⟩) ?_
          rw [FileSystem.descend, hchild]
          exact hdescend

theorem descend_append (start : Inode) (names names' : List String) :
    fs.descend start (names ++ names') =
      (fs.descend start names).bind fun inode => fs.descend inode names' := by
  induction names generalizing start with
  | nil => rfl
  | cons name names ih =>
      rw [List.cons_append, FileSystem.descend, FileSystem.descend]
      cases fs.lookup start name with
      | none => rfl
      | some child => exact ih child

theorem resolve_append {path names : List String} {start : Inode}
    (h : fs.resolve path = some start) :
    fs.resolve (path ++ names) = fs.descend start names := by
  rw [FileSystem.resolve, descend_append, ← FileSystem.resolve, h]
  rfl

/-- What an accepted tree looks like. -/
structure TreeAccepted (coordinator : Coordinator) (uid : Uid) (fs : FileSystem)
    (root : List String) (inode : Inode) (node : Node) : Prop where
  path : Accepted uid fs root inode node
  seen : Seen coordinator uid fs inode

theorem treeAccepted_of_assert {sameDevice : Bool} {limits : ProtectedTreeLimits}
    {root : List String} {evidence : ProtectedTreeEvidence}
    (h : assertCandidateCannotMutateTree coordinator fs uid sameDevice limits root = .ok evidence) :
    ∃ inode node, TreeAccepted coordinator uid fs root inode node := by
  simp only [assertCandidateCannotMutateTree, require, bind_eq_ok_iff, ensure_eq_ok_iff] at h
  obtain ⟨_, -, ⟨inode, node⟩, hpath, _, -, _, -, tally, hwalk, -⟩ := h
  exact ⟨inode, node, accepted_of_assert hpath,
    walkTree_spec _ _ _ hwalk _ (List.mem_singleton_self _)⟩

theorem fixed_of_treeAccepted {root : List String} {start : Inode} {node : Node}
    (h : TreeAccepted coordinator uid fs root start node)
    (hskipped : SkippedFixed coordinator uid fs root) {names : List String} {inode : Inode}
    (hdescend : fs.descend start names = some inode) {held : Node}
    (hnode : fs.node inode = some held) : Fixed uid fs inode := by
  refine ⟨held, hnode, ?_⟩
  by_cases hlisted : Listed coordinator fs start names
  case neg => exact hskipped start names inode held h.path.resolves hlisted hdescend hnode
  case pos =>
    cases names with
    | nil =>
        rw [FileSystem.descend, Option.some.injEq] at hdescend
        subst hdescend
        obtain ⟨fixed, hfixed, hexposed⟩ := h.path.fixed
        rw [hfixed, Option.some.injEq] at hnode
        rwa [← hnode]
    | cons name names => exact h.seen name names inode held hlisted hdescend hnode

theorem exists_node_of_descend {fs : ClosedFileSystem} {start inode : Inode} {node : Node}
    (hstart : fs.node start = some node) {names : List String}
    (h : fs.descend start names = some inode) : ∃ held, fs.node inode = some held := by
  induction names generalizing start node with
  | nil =>
      rw [FileSystem.descend, Option.some.injEq] at h
      exact ⟨node, by rw [← h, hstart]⟩
  | cons name names ih =>
      obtain ⟨child, hlookup, hrest⟩ := Option.bind_eq_some_iff.mp h
      obtain ⟨childNode, hchild⟩ := fs.closed start name child hlookup
      exact ih hchild hrest

theorem treeProtected_of_accepted {fs : ClosedFileSystem} {root : List String} {start : Inode}
    {node : Node} (h : TreeAccepted coordinator uid fs.toFileSystem root start node)
    (howned : NoOwnedDirectory uid fs.toFileSystem fs.root root)
    (hskipped : SkippedFixed coordinator uid fs.toFileSystem root) :
    TreeProtected uid fs.toFileSystem root := by
  intro fs' hrun names
  have hroot : fs'.resolve root = some start := by
    rw [resolve_run (h.path.pinned howned) hrun, h.path.resolves]
  have hfixed : ∀ below inode, fs.descend start below = some inode →
      Fixed uid fs.toFileSystem inode := by
    intro below inode hdescend
    obtain ⟨held, hheld⟩ := exists_node_of_descend h.path.node_eq hdescend
    exact fixed_of_treeAccepted h hskipped hdescend hheld
  rw [resolve_append hroot, resolve_append h.path.resolves]
  refine ⟨descend_run_of_fixed (fun above inode _ => hfixed above inode) hrun, ?_⟩
  intro inode hdescend
  exact (fixed_run (hfixed names inode hdescend) hrun).2

theorem accepted_of_treeProtected {root : List String} {start : Inode} {node : Node}
    (h : TreeAccepted coordinator uid fs root start node) (hprotected : TreeProtected uid fs root) :
    NoOwnedDirectory uid fs fs.root root ∧ SkippedFixed coordinator uid fs root := by
  constructor
  · by_contra howned
    obtain ⟨fs', hrun, hlost⟩ := lost_of_owned howned
    obtain ⟨hresolve, -⟩ := hprotected fs' hrun []
    rw [List.append_nil, hlost, h.path.resolves] at hresolve
    cases hresolve
  · intro other names inode held hother _ hdescend hnode hexposed
    obtain ⟨fs', hrun, hchanged⟩ := exposed_changes hnode hexposed
    obtain ⟨-, hkept⟩ := hprotected fs' hrun names
    rw [resolve_append hother] at hkept
    exact hchanged (by rw [hkept inode hdescend, hnode])

end

/-! ## The two checks -/

/-- An accepted path is protected exactly when the candidate owns no directory on the way; an
accepted tree, when moreover nothing below a directory that the walk skips can be changed. -/
theorem assertCandidateCannotMutate_protects_iff (coordinator : Coordinator)
    (fs : ClosedFileSystem) (uid : Uid) :
    (∀ path : List String,
      Returned (fun _ => Protected uid fs.toFileSystem path ↔
          NoOwnedDirectory uid fs.toFileSystem fs.root path)
        (assertCandidateCannotMutate coordinator fs.toFileSystem uid path)) ∧
    ∀ (sameDevice : Bool) (limits : ProtectedTreeLimits) (root : List String),
      Returned (fun _ => TreeProtected uid fs.toFileSystem root ↔
          NoOwnedDirectory uid fs.toFileSystem fs.root root ∧
            SkippedFixed coordinator uid fs.toFileSystem root)
        (assertCandidateCannotMutateTree coordinator fs.toFileSystem uid sameDevice limits root) := by
  constructor
  · intro path
    rw [returned_iff]
    rintro ⟨inode, node⟩ haccepted
    have h := accepted_of_assert haccepted
    constructor
    · intro hprotected
      by_contra howned
      exact not_protected_of_owned howned hprotected
    · exact protected_of_accepted h
  · intro sameDevice limits root
    rw [returned_iff]
    intro evidence haccepted
    obtain ⟨inode, node, h⟩ := treeAccepted_of_assert haccepted
    constructor
    · exact accepted_of_treeProtected h
    · rintro ⟨howned, hskipped⟩
      exact treeProtected_of_accepted h howned hskipped

/-! ## A directory that the candidate owns -/

/-- `/srv` belongs to the candidate, which has taken its own write permission away;
`/srv/harness` is a file of root. -/
def ownedParent : FileSystem where
  root := 1
  nodes := [
    (1, ⟨⟨0, 0o755, 0⟩, .directory [("srv", 2)]⟩),
    (2, ⟨⟨1000, 0o555, 0⟩, .directory [("harness", 3)]⟩),
    (3, ⟨⟨0, 0o644, 0⟩, .file [104]⟩)]

/-- The path is accepted, and the candidate takes it away. -/
theorem owned_parent_accepted :
    assertCandidateCannotMutate ⟨0, fun _ => true, fun _ => true⟩ ownedParent 1000 ["srv", "harness"]
        = .ok (3, ⟨⟨0, 0o644, 0⟩, .file [104]⟩) ∧
      ¬ Protected 1000 ownedParent ["srv", "harness"] := by
  constructor
  · decide
  · apply not_protected_of_owned
    intro howned
    obtain ⟨-, hbelow⟩ := howned 2 rfl
    obtain ⟨hdirectory, -⟩ := hbelow 3 rfl
    exact hdirectory _ _ rfl rfl rfl rfl

end AmazonSimilarSearch.Preflight
