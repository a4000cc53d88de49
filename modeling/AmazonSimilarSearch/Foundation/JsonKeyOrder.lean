import AmazonSimilarSearch.Foundation.JsonCanonical

/-!
# Other orders of keys

An encoder may write the keys of its objects in an order of its own. Whatever the
order, the reader finds the same value again.
-/
namespace Foundation
namespace Json

/-- An order in which the fields of an object may be written. -/
structure KeyOrder where
  arrange : Fields → Fields
  perm : ∀ fs, (arrange fs).Perm fs

section

variable (order : KeyOrder)

mutual
/-- The value with the fields of every object arranged. -/
def reorder : Json → Json
  | .arr xs => .arr (reorderItems xs)
  | .obj fs => .obj (order.arrange (reorderFields fs))
  | v => v
def reorderItems : List Json → List Json
  | [] => []
  | x :: xs => reorder x :: reorderItems xs
def reorderFields : Fields → Fields
  | [] => []
  | (k, v) :: fs => (k, reorder v) :: reorderFields fs
end

theorem reorder_arr (xs : List Json) :
    reorder order (.arr xs) = .arr (reorderItems order xs) := by
  simp [reorder]

theorem reorder_obj (fs : Fields) :
    reorder order (.obj fs) = .obj (order.arrange (reorderFields order fs)) := by
  simp [reorder]

theorem reorderItems_eq_map (xs : List Json) :
    reorderItems order xs = xs.map (reorder order) := by
  induction xs with
  | nil => rfl
  | cons x xs ih => rw [reorderItems, ih, List.map_cons]

theorem reorderFields_eq_map (fs : Fields) :
    reorderFields order fs = fs.map fun f => (f.1, reorder order f.2) := by
  induction fs with
  | nil => rfl
  | cons f fs ih => rw [reorderFields, ih, List.map_cons]

theorem keys_reorderFields (fs : Fields) :
    Fields.keys (reorderFields order fs) = Fields.keys fs := by
  rw [reorderFields_eq_map, Fields.keys, List.map_map]
  rfl

end

theorem sortFields_eq_map (fs : Fields) : sortFields fs = fs.map fun f => (f.1, sortKeys f.2) := by
  induction fs with
  | nil => rfl
  | cons f fs ih => rw [sortFields, ih, List.map_cons]

theorem readableFields_iff {fs : Fields} : ReadableFields fs ↔ ∀ f ∈ fs, IsReadable f.2 := by
  induction fs with
  | nil => simp [ReadableFields]
  | cons f fs ih => rw [readableFields_cons, ih, List.forall_mem_cons]

theorem plainFields_iff {fs : Fields} : PlainFields fs ↔ ∀ f ∈ fs, IsPlain f.2 := by
  induction fs with
  | nil => simp
  | cons f fs ih => rw [plainFields_cons, ih, List.forall_mem_cons]

section

variable {order : KeyOrder}

mutual
/-- A reordered value can be read. -/
theorem isReadable_reorder : ∀ {v : Json}, IsPlain v → IsReadable (reorder order v)
  | .null, _ | .bool _, _ | .int _, _ | .str _, _ => by simp [reorder, IsReadable]
  | .float f, h => absurd h (not_isPlain_float f)
  | .arr xs, h => by
      rw [reorder_arr]
      exact isReadable_arr.mpr (readableItems_reorder (isPlain_arr.mp h))
  | .obj fs, h => by
      have hkeys : (Fields.keys (order.arrange (reorderFields order fs))).Nodup := by
        refine ((order.perm (reorderFields order fs)).map Prod.fst).nodup_iff.mpr ?_
        change (Fields.keys (reorderFields order fs)).Nodup
        rw [keys_reorderFields]
        exact Fields.nodup_keys (isPlain_obj.mp h).1
      have hfields := readableFields_reorder (isPlain_obj.mp h).2
      rw [reorder_obj, isReadable_obj]
      refine ⟨hkeys, readableFields_iff.mpr ?_⟩
      intro f hf
      exact readableFields_iff.mp hfields f ((order.perm _).mem_iff.mp hf)
theorem readableItems_reorder : ∀ {xs : List Json}, PlainItems xs →
    ReadableItems (reorderItems order xs)
  | [], _ => by simp [reorderItems, ReadableItems]
  | _ :: _, h => by
      rw [reorderItems, readableItems_cons]
      exact ⟨isReadable_reorder (plainItems_cons.mp h).1,
        readableItems_reorder (plainItems_cons.mp h).2⟩
theorem readableFields_reorder : ∀ {fs : Fields}, PlainFields fs →
    ReadableFields (reorderFields order fs)
  | [], _ => by simp [reorderFields, ReadableFields]
  | (_, _) :: _, h => by
      rw [reorderFields, readableFields_cons]
      exact ⟨isReadable_reorder (plainFields_cons.mp h).1,
        readableFields_reorder (plainFields_cons.mp h).2⟩
end

mutual
/-- Putting the keys in order undoes every other order. -/
theorem sortKeys_reorder : ∀ {v : Json}, IsPlain v → sortKeys (reorder order v) = v
  | .null, _ | .bool _, _ | .int _, _ | .str _, _ => by simp [reorder]
  | .float f, h => absurd h (not_isPlain_float f)
  | .arr xs, h => by
      rw [reorder_arr, sortKeys_arr, sortItems_reorder (isPlain_arr.mp h)]
  | .obj fs, h => by
      obtain ⟨hsorted, hplain⟩ := isPlain_obj.mp h
      have hperm : (sortFields (order.arrange (reorderFields order fs))).Perm fs := by
        have hmap := (order.perm (reorderFields order fs)).map fun f => (f.1, sortKeys f.2)
        rw [← sortFields_eq_map, ← sortFields_eq_map, sortFields_reorder hplain] at hmap
        exact hmap
      have hkeys : (Fields.keys (sortFields (order.arrange (reorderFields order fs)))).Nodup :=
        (hperm.map Prod.fst).nodup_iff.mpr (Fields.nodup_keys hsorted)
      rw [reorder_obj, sortKeys_obj,
        (Fields.ofPairs_eq_iff_perm hkeys (Fields.nodup_keys hsorted)).mpr hperm,
        Fields.ofPairs_sorted hsorted]
theorem sortItems_reorder : ∀ {xs : List Json}, PlainItems xs →
    sortItems (reorderItems order xs) = xs
  | [], _ => rfl
  | _ :: _, h => by
      rw [reorderItems, sortItems_cons, sortKeys_reorder (plainItems_cons.mp h).1,
        sortItems_reorder (plainItems_cons.mp h).2]
theorem sortFields_reorder : ∀ {fs : Fields}, PlainFields fs →
    sortFields (reorderFields order fs) = fs
  | [], _ => rfl
  | (_, _) :: _, h => by
      rw [reorderFields, sortFields_cons, sortKeys_reorder (plainFields_cons.mp h).1,
        sortFields_reorder (plainFields_cons.mp h).2]
end

mutual
theorem encodes_reorder : ∀ {v : Json}, Encodes v → Encodes (reorder order v)
  | .null, _ => by simp [reorder]
  | .bool _, _ => by simp [reorder]
  | .str _, _ => by simp [reorder]
  | .int _, h => by simpa [reorder] using h
  | .float _, h => by simpa [reorder] using h
  | .arr _, h => by
      rw [reorder_arr, encodes_arr]
      exact encodes_reorderItems (encodes_arr.mp h)
  | .obj fs, h => by
      rw [reorder_obj, encodes_obj]
      intro f hf
      exact encodes_reorderFields (encodes_obj.mp h) f ((order.perm _).mem_iff.mp hf)
theorem encodes_reorderItems : ∀ {xs : List Json}, (∀ x ∈ xs, Encodes x) →
    ∀ x ∈ reorderItems order xs, Encodes x
  | [], _ => by simp [reorderItems]
  | _ :: _, h => by
      rw [reorderItems, List.forall_mem_cons]
      exact ⟨encodes_reorder (List.forall_mem_cons.mp h).1,
        encodes_reorderItems (List.forall_mem_cons.mp h).2⟩
theorem encodes_reorderFields : ∀ {fs : Fields}, (∀ f ∈ fs, Encodes f.2) →
    ∀ f ∈ reorderFields order fs, Encodes f.2
  | [], _ => by simp [reorderFields]
  | (_, _) :: _, h => by
      rw [reorderFields, List.forall_mem_cons]
      exact ⟨encodes_reorder (List.forall_mem_cons.mp h).1,
        encodes_reorderFields (List.forall_mem_cons.mp h).2⟩
end

end

end Json
end Foundation
