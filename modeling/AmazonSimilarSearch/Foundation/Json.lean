import AmazonSimilarSearch.Foundation.PyFloat
import Mathlib.Data.List.Basic
import Mathlib.Data.List.Pairwise
import Mathlib.Data.String.Basic
import Mathlib.Tactic.Common

/-!
# JSON values as Python holds them

The fields of an object are kept in key order: insertion order of a `dict` is
not observed by programs that look fields up, compare dicts or encode with
`sort_keys=True`. `pyEq` is Python's `==`, so numbers of different types can be
equal although they encode to different text.
-/
namespace Foundation

inductive Json where
  | null
  | bool (b : Bool)
  | int (i : ℤ)
  | float (f : PyFloat)
  | str (s : String)
  | arr (items : List Json)
  | obj (fields : List (String × Json))

abbrev Fields := List (String × Json)

namespace Json

/-- `bool` is a subclass of `int`. -/
def integer? : Json → Option ℤ
  | .bool b => some (if b then 1 else 0)
  | .int i => some i
  | _ => none

/-- The truth of a value, `bool(value)`. -/
def isTruthy : Json → Bool
  | .null => false
  | .bool b => b
  | .int i => i != 0
  | .float (.finite _ mantissa _) => mantissa != 0
  | .float _ => true
  | .str text => text != ""
  | .arr items => !items.isEmpty
  | .obj fields => !fields.isEmpty

mutual
/-- Python `==` between decoded JSON values. -/
def pyEq : Json → Json → Bool
  | .null, .null => true
  | .str s, .str t => s == t
  | .arr xs, .arr ys => pyEqItems xs ys
  | .obj fs, .obj gs => pyEqFields fs gs
  | .float f, .float g => f.eqFloat g
  | .float f, y => match y.integer? with
      | some j => f.eqInt j
      | none => false
  | x, .float g => match x.integer? with
      | some i => g.eqInt i
      | none => false
  | x, y => match x.integer?, y.integer? with
      | some i, some j => i == j
      | _, _ => false
def pyEqItems : List Json → List Json → Bool
  | [], [] => true
  | x :: xs, y :: ys => pyEq x y && pyEqItems xs ys
  | _, _ => false
def pyEqFields : Fields → Fields → Bool
  | [], [] => true
  | (k, x) :: fs, (l, y) :: gs => k == l && pyEq x y && pyEqFields fs gs
  | _, _ => false
end

attribute [grind =] integer? pyEq pyEqItems pyEqFields

@[simp] theorem pyEq_str_right (x : Json) (t : String) :
    x.pyEq (.str t) = true ↔ x = .str t := by
  cases x <;> simp [pyEq, integer?]

@[simp] theorem pyEq_str_left (s : String) (y : Json) :
    (Json.str s).pyEq y = true ↔ y = .str s := by
  cases y with
  | str t =>
      simp only [pyEq, beq_iff_eq, str.injEq]
      exact eq_comm
  | _ => simp [pyEq, integer?]

@[simp] theorem pyEq_null_right (x : Json) : x.pyEq .null = true ↔ x = .null := by
  cases x <;> simp [pyEq, integer?]

@[simp] theorem pyEq_null_left (y : Json) : Json.null.pyEq y = true ↔ y = .null := by
  cases y <;> simp [pyEq, integer?]

theorem pyEq_obj_iff {x : Json} {gs : Fields} :
    x.pyEq (.obj gs) = true ↔ ∃ fs, x = .obj fs ∧ pyEqFields fs gs = true := by
  cases x <;> simp [pyEq, integer?]

theorem pyEq_arr_iff {x : Json} {ys : List Json} :
    x.pyEq (.arr ys) = true ↔ ∃ xs, x = .arr xs ∧ pyEqItems xs ys = true := by
  cases x <;> simp [pyEq, integer?]

theorem pyEqFields_cons_iff {fs gs : Fields} {l : String} {y : Json} :
    pyEqFields fs ((l, y) :: gs) = true ↔
      ∃ x fs', fs = (l, x) :: fs' ∧ x.pyEq y = true ∧ pyEqFields fs' gs = true := by
  rcases fs with _ | ⟨⟨k, x⟩, fs⟩
  · simp [pyEqFields]
  · simp only [pyEqFields, Bool.and_eq_true, beq_iff_eq, List.cons.injEq, Prod.mk.injEq]
    constructor
    · rintro ⟨⟨rfl, hx⟩, hfs⟩
      exact ⟨x, fs, ⟨⟨rfl, rfl⟩, rfl⟩, hx, hfs⟩
    · rintro ⟨x', fs', ⟨⟨rfl, rfl⟩, rfl⟩, hx, hfs⟩
      exact ⟨⟨rfl, hx⟩, hfs⟩

@[simp] theorem pyEqFields_nil_iff {fs : Fields} :
    pyEqFields fs [] = true ↔ fs = [] := by
  rcases fs with _ | ⟨⟨k, x⟩, fs⟩ <;> simp [pyEqFields]

theorem pyEqItems_cons_iff {xs ys : List Json} {y : Json} :
    pyEqItems xs (y :: ys) = true ↔
      ∃ x xs', xs = x :: xs' ∧ x.pyEq y = true ∧ pyEqItems xs' ys = true := by
  rcases xs with _ | ⟨x, xs⟩
  · simp [pyEqItems]
  · simp only [pyEqItems, Bool.and_eq_true, List.cons.injEq]
    constructor
    · rintro ⟨hx, hxs⟩
      exact ⟨x, xs, ⟨rfl, rfl⟩, hx, hxs⟩
    · rintro ⟨x', xs', ⟨rfl, rfl⟩, hx, hxs⟩
      exact ⟨hx, hxs⟩

@[simp] theorem pyEqItems_nil_iff {xs : List Json} :
    pyEqItems xs [] = true ↔ xs = [] := by
  rcases xs with _ | ⟨x, xs⟩ <;> simp [pyEqItems]

end Json

namespace Fields

def keys (fs : Fields) : List String := fs.map Prod.fst

/-- `d[k] = v`, keeping the fields in key order. -/
def insert (k : String) (v : Json) : Fields → Fields
  | [] => [(k, v)]
  | (l, w) :: fs =>
      if k < l then (k, v) :: (l, w) :: fs
      else if k = l then (k, v) :: fs
      else (l, w) :: insert k v fs

/-- The object built from pairs in reading order; the last value of a key wins. -/
def ofPairs (pairs : List (String × Json)) : Fields :=
  pairs.foldl (fun fs p => insert p.1 p.2 fs) []

/-- `d[k]` where the presence of `k` was checked before. -/
def get (fs : Fields) (k : String) : Json := (fs.lookup k).getD .null

/-- `{key: value for key, value in d.items() if key != k}`. -/
def without (fs : Fields) (k : String) : Fields := fs.filter fun f => f.1 ≠ k

/-- `set(d) == names`. -/
def hasExactKeys (fs : Fields) (names : List String) : Bool :=
  fs.keys.all (names.contains ·) && names.all (fs.keys.contains ·)

attribute [grind =] insert get

def SortedKeys (fs : Fields) : Prop := fs.keys.Pairwise (· < ·)

instance (fs : Fields) : Decidable fs.SortedKeys :=
  inferInstanceAs (Decidable (fs.keys.Pairwise (· < ·)))

@[simp] theorem keys_nil : keys [] = [] := rfl
@[simp] theorem keys_cons (k : String) (v : Json) (fs : Fields) :
    keys ((k, v) :: fs) = k :: keys fs := rfl

@[simp] theorem get_cons_self (k : String) (v : Json) (fs : Fields) :
    get ((k, v) :: fs) k = v := by simp [get]

theorem get_cons_of_ne {k l : String} (h : k ≠ l) (v : Json) (fs : Fields) :
    get ((l, v) :: fs) k = get fs k := by
  have hkl : (k == l) = false := beq_eq_false_iff_ne.mpr h
  simp only [get, List.lookup_cons, hkl]

/-- A key larger than every present one is appended. -/
theorem insert_append {fs : Fields} {k : String} (v : Json)
    (h : ∀ l ∈ fs.keys, l < k) : insert k v fs = fs ++ [(k, v)] := by
  induction fs with
  | nil => rfl
  | cons f fs ih =>
      obtain ⟨l, w⟩ := f
      have hl : l < k := h l (by simp)
      have hrest := ih fun m hm => h m (by simp [hm])
      rw [insert, if_neg (not_lt_of_gt hl), if_neg hl.ne', hrest]
      rfl

theorem foldl_insert_sorted (ps fs : Fields) (h : SortedKeys (fs ++ ps)) :
    ps.foldl (fun gs p => insert p.1 p.2 gs) fs = fs ++ ps := by
  induction ps generalizing fs with
  | nil => simp
  | cons p ps ih =>
      obtain ⟨k, v⟩ := p
      have hlast : ∀ l ∈ keys fs, l < k := by
        intro l hl
        simp only [SortedKeys, keys, List.map_append, List.map_cons, List.pairwise_append] at h
        exact h.2.2 l hl k (by simp)
      rw [List.foldl_cons, insert_append v hlast, ih]
      · simp
      · simpa using h

theorem ofPairs_sorted {ps : Fields} (h : SortedKeys ps) : ofPairs ps = ps :=
  foldl_insert_sorted ps [] h

theorem nodup_keys {fs : Fields} (h : SortedKeys fs) : fs.keys.Nodup :=
  h.imp ne_of_lt

theorem mem_keys_insert {fs : Fields} {k l : String} {v : Json}
    (h : l ∈ keys (insert k v fs)) : l = k ∨ l ∈ fs.keys := by
  induction fs with
  | nil => simpa [insert] using h
  | cons f fs ih =>
      obtain ⟨m, w⟩ := f
      rw [insert] at h
      split_ifs at h with h₁ h₂
      · simpa using h
      · subst h₂
        simp only [keys_cons, List.mem_cons] at h ⊢
        tauto
      · simp only [keys_cons, List.mem_cons] at h ⊢
        rcases h with h | h
        · exact Or.inr (Or.inl h)
        · rcases ih h with h | h
          · exact Or.inl h
          · exact Or.inr (Or.inr h)

theorem sortedKeys_insert {fs : Fields} (h : SortedKeys fs) (k : String) (v : Json) :
    SortedKeys (insert k v fs) := by
  induction fs with
  | nil => simp [insert, SortedKeys]
  | cons f fs ih =>
      obtain ⟨l, w⟩ := f
      obtain ⟨hl, hfs⟩ := List.pairwise_cons.mp h
      rw [insert]
      split_ifs with h₁ h₂
      · refine List.pairwise_cons.mpr ⟨?_, h⟩
        intro m hm
        rcases List.mem_cons.mp hm with rfl | hm
        · exact h₁
        · exact h₁.trans (hl m hm)
      · subst h₂
        exact List.pairwise_cons.mpr ⟨hl, hfs⟩
      · refine List.pairwise_cons.mpr ⟨?_, ih hfs⟩
        intro m hm
        rcases mem_keys_insert hm with rfl | hm
        · exact lt_of_le_of_ne (not_lt.mp h₁) (Ne.symm h₂)
        · exact hl m hm

/-- Whatever the pairs, the object read from them has its keys in order. -/
theorem sortedKeys_ofPairs (ps : List (String × Json)) : SortedKeys (ofPairs ps) := by
  have key : ∀ fs : Fields, SortedKeys fs →
      SortedKeys (ps.foldl (fun gs p => insert p.1 p.2 gs) fs) := by
    induction ps with
    | nil => exact fun fs h => h
    | cons p ps ih => exact fun fs h => ih _ (sortedKeys_insert h p.1 p.2)
  exact key [] List.Pairwise.nil

theorem insert_perm {fs : Fields} {k : String} (v : Json) (h : k ∉ fs.keys) :
    (insert k v fs).Perm ((k, v) :: fs) := by
  induction fs with
  | nil => exact List.Perm.refl _
  | cons f fs ih =>
      obtain ⟨l, w⟩ := f
      rw [keys_cons, List.mem_cons, not_or] at h
      rw [insert]
      split_ifs with h₁ h₂
      · exact List.Perm.refl _
      · exact absurd h₂ h.1
      · exact ((ih h.2).cons (l, w)).trans (List.Perm.swap (k, v) (l, w) fs)

/-- Pairs without a repeated key are the fields of the object read from them. -/
theorem ofPairs_perm {ps : List (String × Json)} (h : (keys ps).Nodup) : (ofPairs ps).Perm ps := by
  have key : ∀ fs : Fields, (keys (fs ++ ps)).Nodup →
      (ps.foldl (fun gs p => insert p.1 p.2 gs) fs).Perm (fs ++ ps) := by
    clear h
    induction ps with
    | nil =>
        intro fs _
        rw [List.append_nil]
        exact List.Perm.refl _
    | cons p ps ih =>
        intro fs hnodup
        obtain ⟨k, v⟩ := p
        have hmiddle : ((k, v) :: (fs ++ ps)).Perm (fs ++ (k, v) :: ps) :=
          List.perm_middle.symm
        have hcons : (keys ((k, v) :: (fs ++ ps))).Nodup :=
          (hmiddle.map Prod.fst).nodup_iff.mpr hnodup
        have hnew : k ∉ keys fs := by
          intro hk
          refine (List.nodup_cons.mp hcons).1 ?_
          change k ∈ (fs ++ ps).map Prod.fst
          rw [List.map_append]
          exact List.mem_append_left _ hk
        have hinsert : (insert k v fs ++ ps).Perm ((k, v) :: (fs ++ ps)) :=
          (insert_perm v hnew).append_right ps
        have hrest : (keys (insert k v fs ++ ps)).Nodup :=
          (hinsert.map Prod.fst).nodup_iff.mpr hcons
        exact (ih (insert k v fs) hrest).trans (hinsert.trans hmiddle)
  exact key [] h

/-- An object is determined by its fields, in whatever order they were read. -/
theorem ofPairs_eq_iff_perm {ps qs : List (String × Json)} (hps : (keys ps).Nodup)
    (hqs : (keys qs).Nodup) : ofPairs ps = ofPairs qs ↔ ps.Perm qs := by
  constructor
  · intro h
    exact (ofPairs_perm hps).symm.trans (h ▸ ofPairs_perm hqs)
  · intro h
    have hperm : (ofPairs ps).Perm (ofPairs qs) :=
      (ofPairs_perm hps).trans (h.trans (ofPairs_perm hqs).symm)
    have hsorted : ∀ rs : List (String × Json),
        (ofPairs rs).Pairwise fun f g => f.1 < g.1 := fun rs =>
      List.pairwise_map.mp (sortedKeys_ofPairs rs)
    exact hperm.eq_of_pairwise (fun _ _ _ _ h₁ h₂ => absurd h₁ (lt_asymm h₂)) (hsorted ps)
      (hsorted qs)

theorem sortedKeys_without {fs : Fields} (h : SortedKeys fs) (k : String) :
    SortedKeys (fs.without k) := by
  unfold SortedKeys keys without at *
  exact h.sublist (List.filter_sublist.map _)

/-- An object whose keys are in order and are exactly the keys of an ordered list of
names has its keys in that list's order. -/
theorem keys_eq_of_hasExactKeys {fs : Fields} {names : List String} (hfs : SortedKeys fs)
    (hnames : names.Pairwise (· < ·)) (h : fs.hasExactKeys names = true) :
    fs.keys = names := by
  simp only [hasExactKeys, Bool.and_eq_true, List.all_eq_true, List.contains_eq_mem,
    decide_eq_true_eq] at h
  have hperm : fs.keys.Perm names :=
    (List.perm_ext_iff_of_nodup (nodup_keys hfs) (hnames.imp ne_of_lt)).mpr
      fun a => ⟨h.1 a, h.2 a⟩
  exact hperm.eq_of_pairwise (fun _ _ _ _ h₁ h₂ => absurd h₁ (lt_asymm h₂)) hfs hnames

end Fields
end Foundation
