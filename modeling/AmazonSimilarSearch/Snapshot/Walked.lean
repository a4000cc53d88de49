import AmazonSimilarSearch.Foundation.JoinedFields
import AmazonSimilarSearch.Review.RepoPatterns
import AmazonSimilarSearch.Snapshot.Verify

/-!
# What a walk has found

`os.walk` as the verifier of snapshots uses it. What a walk returns is below the directory where it
started; and it returns whatever can be reached through directories that can be listed.
-/
namespace AmazonSimilarSearch.Snapshot
open Foundation Posix
open Preflight (Coordinator Opened lstatEntry_spec namesDirectory)
open Review (pathParts pathRoot pathRoot_of_relative)

/-! ## Names and paths -/

/-- What can stand in a directory. -/
def IsName (name : String) : Prop := name ≠ "" ∧ name ≠ "." ∧ '/' ∉ name.toList

instance (name : String) : Decidable (IsName name) :=
  inferInstanceAs (Decidable (name ≠ "" ∧ name ≠ "." ∧ '/' ∉ name.toList))

theorem isName_of_mem_pathParts {path name : String} (hrelative : pathRoot path.toList = [])
    (h : name ∈ pathParts path) : IsName name := by
  rw [pathParts, hrelative, List.nil_append, List.mem_filter, List.mem_map] at h
  obtain ⟨⟨field, hfield, rfl⟩, hname⟩ := h
  simp only [ne_eq, Bool.and_eq_true, decide_eq_true_eq] at hname
  refine ⟨hname.1, hname.2, ?_⟩
  rw [String.toList_ofList]
  exact not_mem_of_mem_splitAt hfield

/-- Names that are joined to a path are its parts. -/
theorem pathParts_intercalate {names : List String} (hne : names ≠ [])
    (h : ∀ name ∈ names, IsName name) : pathParts ("/".intercalate names) = names := by
  have htext : ("/".intercalate names).toList = ['/'].intercalate (names.map String.toList) := by
    rw [String.toList_intercalate]
    rfl
  have hsplit : splitAt '/' ("/".intercalate names).toList = names.map String.toList := by
    rw [htext]
    refine splitAt_intercalate (by simpa using hne) fun field hfield => ?_
    obtain ⟨name, hname, rfl⟩ := List.mem_map.mp hfield
    exact (h name hname).2.2
  have hrelative : pathRoot ("/".intercalate names).toList = [] := by
    apply pathRoot_of_relative
    intro hhead
    cases names with
    | nil => exact hne rfl
    | cons name names =>
        obtain ⟨hempty, -, hslash⟩ := h name List.mem_cons_self
        obtain ⟨c, cs, hcs⟩ : ∃ c cs, name.toList = c :: cs := by
          cases hname : name.toList with
          | nil => exact absurd (String.toList_eq_nil_iff.mp hname) hempty
          | cons c cs => exact ⟨c, cs, rfl⟩
        have hfirst : c = '/' := by
          cases names with
          | nil => simpa [htext, hcs] using hhead
          | cons next names => simpa [htext, hcs] using hhead
        exact hslash (by rw [hcs, hfirst]; exact List.mem_cons_self)
  rw [pathParts, hrelative, hsplit, List.nil_append, List.map_map]
  have hsame : (String.ofList ∘ String.toList) = id := by
    funext name
    exact String.ofList_toList
  rw [hsame, List.map_id, List.filter_eq_self]
  intro name hname
  simpa using ⟨(h name hname).1, (h name hname).2.1⟩

theorem eq_of_intercalate_eq {names names' : List String} (hne : names ≠ []) (hne' : names' ≠ [])
    (h : ∀ name ∈ names, IsName name) (h' : ∀ name ∈ names', IsName name)
    (heq : "/".intercalate names = "/".intercalate names') : names = names' := by
  rw [← pathParts_intercalate hne h, heq, pathParts_intercalate hne' h']

/-! ## The walk -/

section Walk

variable {coordinator : Coordinator} {fs : FileSystem} {rootDevice : ℕ}

def isDirectoryAt (fs : FileSystem) (inode : Inode) : Bool :=
  (fs.node inode).any fun node => Preflight.Content.isDirectory node.content

/-- What a walk has found is there, and what it could reach it has found. -/
structure Walked (coordinator : Coordinator) (fs : FileSystem) (path : List String)
    (directory : Inode) (found : Found) : Prop where
  exists_of_mem : ∀ p, p ∈ found.files ∨ p ∈ found.directories →
    ∃ name names, p = path ++ name :: names ∧
      ∃ inode, fs.descend directory (name :: names) = some inode
  file_mem : ∀ name names inode, fs.descend directory (name :: names) = some inode →
    Opened coordinator fs directory (name :: names) → isDirectoryAt fs inode = false →
    path ++ name :: names ∈ found.files
  directory_mem : ∀ name names inode, fs.descend directory (name :: names) = some inode →
    Opened coordinator fs directory (name :: names) → isDirectoryAt fs inode = true →
    path ++ name :: names ∈ found.directories
  mode : ∀ names inode node, fs.descend directory names = some inode →
    Opened coordinator fs directory names → coordinator.readable inode = true →
    fs.node inode = some node → Preflight.Content.isDirectory node.content = true →
    node.metadata.mode = 0o555#12

/-- A loop that appends what its rounds find. -/
theorem foldlM_append {ε σ : Type} {f : σ → Except ε Found} {items : List σ}
    {start found : Found}
    (h : items.foldlM (fun found item => do
      let more ← f item
      pure (found.append more)) start = .ok found) :
    ∃ mores, List.Forall₂ (fun item more => f item = .ok more) items mores ∧
      found.files = start.files ++ mores.flatMap Found.files ∧
      found.directories = start.directories ++ mores.flatMap Found.directories := by
  induction items generalizing start with
  | nil =>
      rw [List.foldlM_nil, pure_eq_ok_iff] at h
      subst h
      exact ⟨[], .nil, by simp, by simp⟩
  | cons item items ih =>
      rw [List.foldlM_cons, bind_eq_ok_iff] at h
      obtain ⟨next, hnext, h⟩ := h
      rw [bind_eq_ok_iff] at hnext
      obtain ⟨more, hmore, hnext⟩ := hnext
      rw [pure_eq_ok_iff] at hnext
      subst hnext
      obtain ⟨mores, hmores, hfiles, hdirectories⟩ := ih h
      refine ⟨more :: mores, .cons hmore hmores, ?_, ?_⟩
      · simpa [Found.append] using hfiles
      · simpa [Found.append] using hdirectories

theorem mem_of_forall₂ {α β : Type} {R : α → β → Prop} {as : List α} {bs : List β}
    (h : List.Forall₂ R as bs) :
    (∀ a ∈ as, ∃ b ∈ bs, R a b) ∧ ∀ b ∈ bs, ∃ a ∈ as, R a b := by
  induction h with
  | nil => simp
  | cons hab _ ih =>
      simp only [List.forall_mem_cons, List.exists_mem_cons_iff]
      exact ⟨⟨.inl hab, fun a ha => .inr (ih.1 a ha)⟩, .inl hab, fun b hb => .inr (ih.2 b hb)⟩

theorem lookup_of_walkSubdirectory {directory : Inode} {name : String}
    {subdirectory : String × Inode}
    (h : walkSubdirectory coordinator fs rootDevice directory name = .ok subdirectory) :
    subdirectory.1 = name ∧ fs.lookup directory name = some subdirectory.2 := by
  simp only [walkSubdirectory, bind_eq_ok_iff, mapError_eq_ok_iff, ensure_eq_ok_iff,
    pure_eq_ok_iff] at h
  obtain ⟨_, -, ⟨child, node⟩, hentry, _, -, rfl⟩ := h
  exact ⟨rfl, (lstatEntry_spec hentry).1⟩

theorem namesDirectory_eq {directory child : Inode} {name : String}
    (h : fs.lookup directory name = some child) :
    namesDirectory fs directory name = isDirectoryAt fs child := by
  rw [namesDirectory, h, Option.bind_some, isDirectoryAt]
  cases fs.node child <;> rfl

theorem mem_names_of_lookup {directory child : Inode} {name : String}
    (h : fs.lookup directory name = some child) :
    name ∈ (fs.entries directory).map Prod.fst := by
  obtain ⟨left, right, heq, -⟩ := List.lookup_eq_some_iff.mp h
  rw [heq]
  simp

theorem exists_lookup_of_mem {directory : Inode} {name : String}
    (h : name ∈ (fs.entries directory).map Prod.fst) :
    ∃ child, fs.lookup directory name = some child := by
  rw [← Option.isSome_iff_exists, FileSystem.lookup, List.lookup_isSome_iff]
  obtain ⟨entry, hentry, rfl⟩ := List.mem_map.mp h
  exact ⟨entry, hentry, by simp⟩

theorem isDirectoryAt_of_lookup {directory child : Inode} {name : String}
    (h : fs.lookup directory name = some child) : isDirectoryAt fs directory = true := by
  unfold FileSystem.lookup FileSystem.entries at h
  cases hnode : fs.node directory with
  | none =>
      rw [hnode] at h
      cases h
  | some node =>
      rw [isDirectoryAt, hnode, Option.any_some, content_of_lookup hnode h]
      rfl

/-- The directories below a name that is found are opened from that name on. -/
theorem opened_tail {start child : Inode} {name : String} {names : List String}
    (h : Opened coordinator fs start (name :: names))
    (hlookup : fs.lookup start name = some child) :
    Opened coordinator fs child names := by
  intro above inode habove hne hdescend
  refine h (name :: above) inode (List.cons_prefix_cons.mpr ⟨rfl, habove⟩)
    (fun heq => hne (List.cons.inj heq).2) ?_
  rw [FileSystem.descend, hlookup]
  exact hdescend

/-- What a walk finds at a directory that it can list, and below. -/
structure Round (coordinator : Coordinator) (fs : FileSystem) (path : List String)
    (directory : Inode) (subdirectories : List (String × Inode)) (mores : List Found)
    (found : Found) : Prop where
  mode : ∃ node, fs.node directory = some node ∧ node.metadata.mode = 0o555#12
  lookup : ∀ sub ∈ subdirectories, fs.lookup directory sub.1 = some sub.2
  complete : ∀ name child, fs.lookup directory name = some child →
    isDirectoryAt fs child = true → (name, child) ∈ subdirectories
  below : List.Forall₂ (fun sub more => Walked coordinator fs (path ++ [sub.1]) sub.2 more)
    subdirectories mores
  files : found.files = (((fs.entries directory).map Prod.fst).filter
    (! namesDirectory fs directory ·)).map (path ++ [·]) ++ mores.flatMap Found.files
  directories : found.directories =
    subdirectories.map (path ++ [·.1]) ++ mores.flatMap Found.directories

/-- Nothing is reached through a directory that is skipped. -/
theorem walked_of_skipped {path : List String} {directory : Inode}
    (h : coordinator.readable directory = false) :
    Walked coordinator fs path directory ⟨[], []⟩ := by
  have hnot : ∀ name names, ¬ Opened coordinator fs directory (name :: names) := by
    intro name names hopened
    have hreadable := hopened [] directory List.nil_prefix (List.cons_ne_nil _ _).symm rfl
    rw [h] at hreadable
    cases hreadable
  constructor
  · intro p hp
    rcases hp with hp | hp <;> cases hp
  · exact fun name names inode _ hopened _ => absurd hopened (hnot name names)
  · exact fun name names inode _ hopened _ => absurd hopened (hnot name names)
  · intro names inode node hdescend hopened hreadable _ _
    cases names with
    | nil =>
        rw [FileSystem.descend, Option.some.injEq] at hdescend
        rw [← hdescend, h] at hreadable
        cases hreadable
    | cons name names => exact absurd hopened (hnot name names)

theorem round_of_walk {depth : ℕ} {path : List String} {directory : Inode} {found : Found}
    (hlist : coordinator.listable directory ≠ false)
    (hbelow : ∀ {path directory found}, walk coordinator fs rootDevice depth path directory =
      .ok found → Walked coordinator fs path directory found)
    (h : walk coordinator fs rootDevice (depth + 1) path directory = .ok found) :
    ∃ subdirectories mores, Round coordinator fs path directory subdirectories mores found := by
  rw [walk, if_neg hlist] at h
  simp only [require, bind_eq_ok_iff, required_eq_ok_iff, ensure_eq_ok_iff] at h
  obtain ⟨node, hnode, _, -, _, ⟨-, hmode⟩, subdirectories, hsub, _, -, h⟩ := h
  obtain ⟨mores, hmores, hfiles, hdirectories⟩ := foldlM_append h
  obtain ⟨hsubOf, hsubBack⟩ := mem_of_forall₂ (mapM_eq_ok_iff.mp hsub)
  refine ⟨subdirectories, mores, ⟨node, hnode, hmode⟩, ?_, ?_, ?_, hfiles, hdirectories⟩
  · intro sub hmem
    obtain ⟨name, -, hname⟩ := hsubBack sub hmem
    obtain ⟨rfl, hfound⟩ := lookup_of_walkSubdirectory hname
    exact hfound
  · intro name child hfound hdirectory
    have hname : name ∈ ((fs.entries directory).map Prod.fst).filter
        (namesDirectory fs directory) :=
      List.mem_filter.mpr ⟨mem_names_of_lookup hfound,
        (namesDirectory_eq hfound).trans hdirectory⟩
    obtain ⟨sub, hmem, hwalked⟩ := hsubOf name hname
    obtain ⟨hsubName, hsubFound⟩ := lookup_of_walkSubdirectory hwalked
    have heq : sub = (name, child) :=
      Prod.ext hsubName (Option.some.inj (hsubFound.symm.trans hfound))
    rwa [← heq]
  · exact hmores.imp fun sub more hmore => hbelow hmore

/-- The way to a name below a name leads through a directory. -/
theorem lookup_of_descend {directory inode : Inode} {name next : String} {names : List String}
    (h : fs.descend directory (name :: next :: names) = some inode) :
    ∃ child, fs.lookup directory name = some child ∧ isDirectoryAt fs child = true ∧
      fs.descend child (next :: names) = some inode := by
  obtain ⟨child, hfound, hrest⟩ := Option.bind_eq_some_iff.mp h
  obtain ⟨grandchild, hnext, -⟩ := Option.bind_eq_some_iff.mp hrest
  exact ⟨child, hfound, isDirectoryAt_of_lookup hnext, hrest⟩

theorem descend_single {directory inode : Inode} {name : String} :
    fs.descend directory [name] = some inode ↔ fs.lookup directory name = some inode := by
  simp [FileSystem.descend]

section Round

variable {path : List String} {directory : Inode} {subdirectories : List (String × Inode)}
  {mores : List Found} {found : Found}

theorem Round.walked (h : Round coordinator fs path directory subdirectories mores found)
    {name : String} {child : Inode} (hfound : fs.lookup directory name = some child)
    (hdirectory : isDirectoryAt fs child = true) :
    ∃ more ∈ mores, Walked coordinator fs (path ++ [name]) child more :=
  (mem_of_forall₂ h.below).1 _ (h.complete name child hfound hdirectory)

theorem Round.exists_of_mem_more
    (h : Round coordinator fs path directory subdirectories mores found) {more : Found}
    (hmore : more ∈ mores) {p : List String} (hp : p ∈ more.files ∨ p ∈ more.directories) :
    ∃ name names, p = path ++ name :: names ∧
      ∃ inode, fs.descend directory (name :: names) = some inode := by
  obtain ⟨sub, hmem, hwalk⟩ := (mem_of_forall₂ h.below).2 more hmore
  obtain ⟨next, names, rfl, inode, hdescend⟩ := hwalk.exists_of_mem p hp
  refine ⟨sub.1, next :: names, by simp, inode, ?_⟩
  rw [FileSystem.descend, h.lookup sub hmem]
  exact hdescend

theorem Round.exists_of_mem
    (h : Round coordinator fs path directory subdirectories mores found) (p : List String)
    (hp : p ∈ found.files ∨ p ∈ found.directories) :
    ∃ name names, p = path ++ name :: names ∧
      ∃ inode, fs.descend directory (name :: names) = some inode := by
  rw [h.files, h.directories, List.mem_append, List.mem_append, List.mem_flatMap,
    List.mem_flatMap] at hp
  rcases hp with (hp | ⟨more, hmore, hp⟩) | (hp | ⟨more, hmore, hp⟩)
  · obtain ⟨name, hname, rfl⟩ := List.mem_map.mp hp
    obtain ⟨child, hfound⟩ := exists_lookup_of_mem (List.mem_filter.mp hname).1
    exact ⟨name, [], rfl, child, descend_single.mpr hfound⟩
  · exact h.exists_of_mem_more hmore (.inl hp)
  · obtain ⟨sub, hmem, rfl⟩ := List.mem_map.mp hp
    exact ⟨sub.1, [], rfl, sub.2, descend_single.mpr (h.lookup sub hmem)⟩
  · exact h.exists_of_mem_more hmore (.inr hp)

theorem Round.file_mem (h : Round coordinator fs path directory subdirectories mores found)
    {name : String} {names : List String} {inode : Inode}
    (hdescend : fs.descend directory (name :: names) = some inode)
    (hopened : Opened coordinator fs directory (name :: names))
    (hfile : isDirectoryAt fs inode = false) : path ++ name :: names ∈ found.files := by
  rw [h.files, List.mem_append, List.mem_flatMap]
  cases names with
  | nil =>
      have hfound := descend_single.mp hdescend
      refine .inl (List.mem_map_of_mem (List.mem_filter.mpr ⟨mem_names_of_lookup hfound, ?_⟩))
      rw [namesDirectory_eq hfound, hfile]
      rfl
  | cons next names =>
      obtain ⟨child, hfound, hdirectory, hrest⟩ := lookup_of_descend hdescend
      obtain ⟨more, hmore, hwalked⟩ := h.walked hfound hdirectory
      have hmem := hwalked.file_mem next names inode hrest (opened_tail hopened hfound) hfile
      rw [List.append_assoc, List.singleton_append] at hmem
      exact .inr ⟨more, hmore, hmem⟩

theorem Round.directory_mem (h : Round coordinator fs path directory subdirectories mores found)
    {name : String} {names : List String} {inode : Inode}
    (hdescend : fs.descend directory (name :: names) = some inode)
    (hopened : Opened coordinator fs directory (name :: names))
    (hdirectory : isDirectoryAt fs inode = true) : path ++ name :: names ∈ found.directories := by
  rw [h.directories, List.mem_append, List.mem_flatMap]
  cases names with
  | nil =>
      exact .inl (List.mem_map_of_mem
        (h.complete name inode (descend_single.mp hdescend) hdirectory))
  | cons next names =>
      obtain ⟨child, hfound, hchild, hrest⟩ := lookup_of_descend hdescend
      obtain ⟨more, hmore, hwalked⟩ := h.walked hfound hchild
      have hmem := hwalked.directory_mem next names inode hrest (opened_tail hopened hfound)
        hdirectory
      rw [List.append_assoc, List.singleton_append] at hmem
      exact .inr ⟨more, hmore, hmem⟩

theorem Round.mode_eq (h : Round coordinator fs path directory subdirectories mores found)
    {names : List String} {inode : Inode} {held : Node}
    (hdescend : fs.descend directory names = some inode)
    (hopened : Opened coordinator fs directory names)
    (hreadable : coordinator.readable inode = true) (hheld : fs.node inode = some held)
    (hdirectory : Preflight.Content.isDirectory held.content = true) :
    held.metadata.mode = 0o555#12 := by
  cases names with
  | nil =>
      obtain ⟨node, hnode, hmode⟩ := h.mode
      rw [FileSystem.descend, Option.some.injEq] at hdescend
      subst hdescend
      rw [hnode, Option.some.injEq] at hheld
      rw [← hheld, hmode]
  | cons name names =>
      obtain ⟨child, hfound, hrest⟩ := Option.bind_eq_some_iff.mp hdescend
      have hchild : isDirectoryAt fs child = true := by
        cases names with
        | nil =>
            rw [FileSystem.descend, Option.some.injEq] at hrest
            subst hrest
            rw [isDirectoryAt, hheld]
            exact hdirectory
        | cons next names =>
            obtain ⟨grandchild, hnext, -⟩ := Option.bind_eq_some_iff.mp hrest
            exact isDirectoryAt_of_lookup hnext
      obtain ⟨more, -, hwalked⟩ := h.walked hfound hchild
      exact hwalked.mode names inode held hrest (opened_tail hopened hfound) hreadable hheld
        hdirectory

end Round

/-- By induction on the depth. -/
theorem walked_of_walk {depth : ℕ} {path : List String} {directory : Inode} {found : Found}
    (h : walk coordinator fs rootDevice depth path directory = .ok found) :
    Walked coordinator fs path directory found := by
  induction depth generalizing path directory found with
  | zero => cases h
  | succ depth ih =>
      by_cases hlist : coordinator.listable directory = false
      · rw [walk, if_pos hlist, pure_eq_ok_iff] at h
        rw [← h]
        exact walked_of_skipped hlist
      · obtain ⟨subdirectories, mores, hround⟩ := round_of_walk hlist ih h
        exact ⟨hround.exists_of_mem, fun name names inode => hround.file_mem,
          fun name names inode => hround.directory_mem, fun names inode node => hround.mode_eq⟩

end Walk

end AmazonSimilarSearch.Snapshot
