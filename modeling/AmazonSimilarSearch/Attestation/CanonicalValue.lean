import AmazonSimilarSearch.Attestation.Statement
import AmazonSimilarSearch.Foundation.Checked
import AmazonSimilarSearch.Foundation.JsonBytes
import AmazonSimilarSearch.Foundation.JsonKeyOrder
import AmazonSimilarSearch.Foundation.Utf16
import Mathlib.Data.List.Lex

/-!
# The canonical encoding of values

`_canonical_value` and `canonical_json_bytes` of `attestation.py`. The keys of a
mapping are written in the order of their UTF-16BE octets, which is not the
order of their code points. A value of the domain is determined by its bytes,
because reading them gives the value back.
-/
namespace AmazonSimilarSearch.Attestation
open Foundation

/-- A key of a mapping. -/
inductive MappingKey where
  | str (text : String)
  /-- no string -/
  | other
  deriving DecidableEq

/-- What a caller may pass. A model enters as its `model_dump(mode="json")`. -/
inductive PyValue where
  | none
  | bool (b : Bool)
  | int (i : ℤ)
  | float (f : PyFloat)
  | str (text : String)
  | list (items : List PyValue)
  | tuple (items : List PyValue)
  | mapping (entries : List (MappingKey × PyValue))
  | other (typeName : String)

inductive CanonicalError where
  | typeError (message : String)
  /-- an exception of another class -/
  | exception
  deriving DecidableEq, Repr

/-- `_CANONICAL_INTEGER_LIMIT` -/
def canonicalIntegerLimit : ℕ := 9007199254740991

def MappingKey.isStr : MappingKey → Bool
  | str _ => true
  | other => false

def MappingKey.text : MappingKey → String
  | str text => text
  | other => ""

namespace PyValue

/-- `{key: _canonical_value(value[key]) for key in ordered_keys}` -/
def collect (fields : List (String × Except CanonicalError Json)) :
    Except CanonicalError Fields :=
  fields.mapM fun field => field.2.map fun value => (field.1, value)

mutual
/-- `_canonical_value` -/
def canonicalValue : PyValue → Except CanonicalError Json
  | .none => pure .null
  | .str text => pure (.str text)
  | .bool b => pure (.bool b)
  | .int i => do
      ensure (i.natAbs ≤ canonicalIntegerLimit)
        (.typeError "canonical JSON integers must fit the interoperable integer range")
      pure (.int i)
  | .float _ => throw (.typeError "canonical JSON forbids floating-point values")
  | .mapping entries => do
      ensure (entries.all (·.1.isStr)) (.typeError "canonical JSON objects require string keys")
      let fields ← collect (sortedBy (encodeUtf16be ·.1) (canonicalEntries entries))
      pure (.obj fields)
  | .list items | .tuple items => do
      let items ← canonicalItems items
      pure (.arr items)
  | .other typeName => throw (.typeError ("unsupported canonical JSON value: " ++ typeName))
def canonicalItems : List PyValue → Except CanonicalError (List Json)
  | [] => pure []
  | item :: items => do
      let item ← canonicalValue item
      let items ← canonicalItems items
      pure (item :: items)
def canonicalEntries : List (MappingKey × PyValue) → List (String × Except CanonicalError Json)
  | [] => []
  | (key, value) :: entries => (key.text, canonicalValue value) :: canonicalEntries entries
end

/-- `canonical_json_bytes` -/
def canonicalJsonBytes (value : PyValue) : Except CanonicalError Bytes := do
  let normalized ← value.canonicalValue
  required .exception (Json.compact? normalized)

/-! ## The domain -/

mutual
/-- No float and no other type, integers in the interoperable range, and mappings with distinct
string keys. -/
def InDomain : PyValue → Prop
  | .none | .bool _ | .str _ => True
  | .int i => i.natAbs ≤ canonicalIntegerLimit
  | .list items | .tuple items => ItemsInDomain items
  | .mapping entries =>
      entries.all (·.1.isStr) = true ∧ (entries.map (·.1.text)).Nodup ∧ EntriesInDomain entries
  | .float _ | .other _ => False
def ItemsInDomain : List PyValue → Prop
  | [] => True
  | item :: items => InDomain item ∧ ItemsInDomain items
def EntriesInDomain : List (MappingKey × PyValue) → Prop
  | [] => True
  | (_, value) :: entries => InDomain value ∧ EntriesInDomain entries
end

mutual
/-- The JSON value: a list and a tuple are arrays, and a mapping is an object, whose keys have no
order of their own. -/
def jsonValue : PyValue → Json
  | .none => .null
  | .bool b => .bool b
  | .int i => .int i
  | .float f => .float f
  | .str text => .str text
  | .list items | .tuple items => .arr (jsonItems items)
  | .mapping entries => .obj (Fields.ofPairs (jsonEntries entries))
  | .other _ => .null
def jsonItems : List PyValue → List Json
  | [] => []
  | item :: items => jsonValue item :: jsonItems items
def jsonEntries : List (MappingKey × PyValue) → Fields
  | [] => []
  | (key, value) :: entries => (key.text, jsonValue value) :: jsonEntries entries
end

theorem keys_jsonEntries (entries : List (MappingKey × PyValue)) :
    (jsonEntries entries).keys = entries.map (·.1.text) := by
  induction entries with
  | nil => rfl
  | cons entry entries ih => rw [jsonEntries, Fields.keys_cons, ih, List.map_cons]

/-- Mappings are equal as JSON values when they have the same entries in any order. -/
theorem jsonValue_mapping_eq_iff {entries entries' : List (MappingKey × PyValue)}
    (h : (entries.map (·.1.text)).Nodup) (h' : (entries'.map (·.1.text)).Nodup) :
    jsonValue (.mapping entries) = jsonValue (.mapping entries') ↔
      (jsonEntries entries).Perm (jsonEntries entries') := by
  rw [← keys_jsonEntries] at h h'
  rw [jsonValue, jsonValue, Json.obj.injEq, Fields.ofPairs_eq_iff_perm h h']

/-! ## What is written -/

/-- The order of the octets of the keys in UTF-16BE. -/
def utf16Order : Json.KeyOrder where
  arrange := sortedBy (encodeUtf16be ·.1)
  perm := sortedBy_perm _

/-- Fields that are the same up to their order are written the same. -/
theorem utf16Order_arrange_eq {fs gs : Fields} (h : fs.Perm gs) (hkeys : fs.keys.Nodup) :
    utf16Order.arrange fs = utf16Order.arrange gs := by
  refine sortedBy_eq_of_perm h ?_
  intro f hf g hg heq
  exact List.inj_on_of_nodup_map hkeys hf hg (encodeUtf16be_injective heq)

theorem collect_ok (fields : Fields) :
    collect (fields.map fun field => (field.1, .ok field.2)) = .ok fields := by
  rw [collect, mapM_eq_ok_iff, List.forall₂_map_left_iff, List.forall₂_same]
  exact fun _ _ => rfl

/-- Sorting looks at the keys only. -/
theorem sortedBy_map_value {α β : Type} (f : α → β) (fields : List (String × α)) :
    sortedBy (encodeUtf16be ·.1) (fields.map fun field => (field.1, f field.2)) =
      (sortedBy (encodeUtf16be ·.1) fields).map fun field => (field.1, f field.2) := by
  have h := List.map_insertionSort
    (fun a b : String × α => encodeUtf16be a.1 ≤ encodeUtf16be b.1)
    (fun a b : String × β => encodeUtf16be a.1 ≤ encodeUtf16be b.1)
    (fun field => (field.1, f field.2)) fields fun _ _ _ _ => Iff.rfl
  exact h.symm

/-- A comprehension over fields whose values are canonical. -/
theorem collect_sortedBy (fields : Fields) :
    collect (sortedBy (encodeUtf16be ·.1) (fields.map fun field => (field.1, .ok field.2))) =
      .ok (utf16Order.arrange fields) := by
  rw [sortedBy_map_value, collect_ok]
  rfl

/-- An object is written the same as the mapping it was made of. -/
theorem reorder_ofPairs {fields : Fields} (h : fields.keys.Nodup) :
    (Json.obj (Fields.ofPairs fields)).reorder utf16Order =
      .obj (utf16Order.arrange (Json.reorderFields utf16Order fields)) := by
  have hperm : (Json.reorderFields utf16Order fields).Perm
      (Json.reorderFields utf16Order (Fields.ofPairs fields)) := by
    rw [Json.reorderFields_eq_map, Json.reorderFields_eq_map]
    exact (Fields.ofPairs_perm h).symm.map _
  have hkeys : (Json.reorderFields utf16Order fields).keys.Nodup := by
    rwa [Json.keys_reorderFields]
  rw [Json.reorder_obj, utf16Order_arrange_eq hperm hkeys]

mutual
/-- A value of the domain is written as its JSON value, the keys in the order of UTF-16BE. -/
theorem canonicalValue_eq : ∀ {value : PyValue}, value.InDomain →
    value.canonicalValue = .ok (value.jsonValue.reorder utf16Order)
  | .none, _ => rfl
  | .bool _, _ => rfl
  | .str _, _ => rfl
  | .int i, h => by
      have hrange : i.natAbs ≤ canonicalIntegerLimit := h
      rw [canonicalValue, ensure_of _ hrange]
      rfl
  | .float _, h => h.elim
  | .other _, h => h.elim
  | .list items, h => by
      rw [canonicalValue, canonicalItems_eq h, jsonValue, Json.reorder_arr]
      rfl
  | .tuple items, h => by
      rw [canonicalValue, canonicalItems_eq h, jsonValue, Json.reorder_arr]
      rfl
  | .mapping entries, h => by
      obtain ⟨hstrings, hkeys, hentries⟩ := h
      have hcollect := collect_sortedBy (Json.reorderFields utf16Order (jsonEntries entries))
      rw [canonicalValue, ensure_of _ hstrings, ok_bind, canonicalEntries_eq hentries, hcollect,
        jsonValue, reorder_ofPairs (by rwa [keys_jsonEntries])]
      rfl
theorem canonicalItems_eq : ∀ {items : List PyValue}, ItemsInDomain items →
    canonicalItems items = .ok (Json.reorderItems utf16Order (jsonItems items))
  | [], _ => rfl
  | _ :: _, h => by
      rw [canonicalItems, canonicalValue_eq h.1, canonicalItems_eq h.2]
      rfl
theorem canonicalEntries_eq : ∀ {entries : List (MappingKey × PyValue)}, EntriesInDomain entries →
    canonicalEntries entries =
      (Json.reorderFields utf16Order (jsonEntries entries)).map fun field => (field.1, .ok field.2)
  | [], _ => rfl
  | _ :: _, h => by
      rw [canonicalEntries, canonicalValue_eq h.1, canonicalEntries_eq h.2]
      rfl
end

/-! ## The JSON value of a value of the domain -/

/-- Integers of the domain have few digits. -/
theorem encodes_int {i : ℤ} (h : i.natAbs ≤ canonicalIntegerLimit) : (Json.int i).Encodes := by
  apply Json.encodes_int
  calc i.natAbs
      ≤ canonicalIntegerLimit := h
    _ < 10 ^ 16 := by decide
    _ ≤ 10 ^ maxIntegerDigits := Nat.pow_le_pow_right (by decide) (by decide)

mutual
theorem jsonValue_plain : ∀ {value : PyValue}, value.InDomain →
    value.jsonValue.IsPlain ∧ value.jsonValue.Encodes
  | .none, _ => ⟨Json.isPlain_null, Json.encodes_null⟩
  | .bool b, _ => ⟨Json.isPlain_bool b, Json.encodes_bool b⟩
  | .str text, _ => ⟨Json.isPlain_str text, Json.encodes_str text⟩
  | .int i, h => ⟨Json.isPlain_int i, encodes_int h⟩
  | .float _, h => h.elim
  | .other _, h => h.elim
  | .list _, h => by
      rw [jsonValue, Json.isPlain_arr, Json.plainItems_iff, Json.encodes_arr]
      exact forall₂_and.mp (jsonItems_plain h)
  | .tuple _, h => by
      rw [jsonValue, Json.isPlain_arr, Json.plainItems_iff, Json.encodes_arr]
      exact forall₂_and.mp (jsonItems_plain h)
  | .mapping entries, h => by
      obtain ⟨-, hkeys, hentries⟩ := h
      have hnodup : (Fields.keys (jsonEntries entries)).Nodup := by rwa [keys_jsonEntries]
      have hperm := Fields.ofPairs_perm hnodup
      have hfields := jsonEntries_plain hentries
      rw [jsonValue, Json.isPlain_obj, Json.plainFields_iff, Json.encodes_obj]
      refine ⟨⟨Fields.sortedKeys_ofPairs _, ?_⟩, ?_⟩
      · exact fun field hfield => (hfields field (hperm.mem_iff.mp hfield)).1
      · exact fun field hfield => (hfields field (hperm.mem_iff.mp hfield)).2
theorem jsonItems_plain : ∀ {items : List PyValue}, ItemsInDomain items →
    ∀ item ∈ jsonItems items, item.IsPlain ∧ item.Encodes
  | [], _ => by simp [jsonItems]
  | _ :: _, h => by
      rw [jsonItems, List.forall_mem_cons]
      exact ⟨jsonValue_plain h.1, jsonItems_plain h.2⟩
theorem jsonEntries_plain : ∀ {entries : List (MappingKey × PyValue)}, EntriesInDomain entries →
    ∀ field ∈ jsonEntries entries, field.2.IsPlain ∧ field.2.Encodes
  | [], _ => by simp [jsonEntries]
  | _ :: _, h => by
      rw [jsonEntries, List.forall_mem_cons]
      exact ⟨jsonValue_plain h.1, jsonEntries_plain h.2⟩
end

end PyValue

/-! ## Bytes and values -/

/-- A value that has canonical JSON. -/
structure CanonicalValue where
  value : PyValue
  inDomain : value.InDomain

namespace CanonicalValue

def jsonValue (v : CanonicalValue) : Json := v.value.jsonValue

/-- The bytes of a value, and what reading them gives. -/
theorem canonicalJsonBytes_reads (v : CanonicalValue) :
    ∃ raw, v.value.canonicalJsonBytes = .ok raw ∧
      Json.compact? (v.jsonValue.reorder PyValue.utf16Order) = some raw ∧
      ∀ other hooks, Json.loadsBytes other hooks raw = .ok v.jsonValue := by
  obtain ⟨hplain, hencodes⟩ := PyValue.jsonValue_plain v.inDomain
  have hreadable : (v.value.jsonValue.reorder PyValue.utf16Order).IsReadable :=
    Json.isReadable_reorder hplain
  have hreordered : (v.value.jsonValue.reorder PyValue.utf16Order).Encodes :=
    Json.encodes_reorder hencodes
  obtain ⟨raw, hraw⟩ := Option.isSome_iff_exists.mp (Json.compact?_isSome_iff.mpr hreordered)
  refine ⟨raw, ?_, hraw, ?_⟩
  · rw [PyValue.canonicalJsonBytes, PyValue.canonicalValue_eq v.inDomain, ok_bind, hraw]
    rfl
  · intro other hooks
    rw [Json.loadsBytes_compact other hooks hreadable hraw, Json.sortKeys_reorder hplain]
    rfl

end CanonicalValue

/-- Two values have the same bytes exactly when they are the same JSON value, and reading the
bytes gives the value back. -/
theorem canonicalJsonBytes_unambiguous (v w : CanonicalValue)
    (other : Json.JsonEncoding → Bytes → Except JsonError Json) (hooks : Json.Hooks) :
    ∃ a b, v.value.canonicalJsonBytes = .ok a ∧ w.value.canonicalJsonBytes = .ok b ∧
      (a = b ↔ v.jsonValue = w.jsonValue) ∧
      Json.loadsBytes other hooks a = .ok v.jsonValue := by
  obtain ⟨a, ha, hav, hareads⟩ := v.canonicalJsonBytes_reads
  obtain ⟨b, hb, hbw, hbreads⟩ := w.canonicalJsonBytes_reads
  refine ⟨a, b, ha, hb, ?_, hareads other hooks⟩
  constructor
  · intro heq
    have hread := hareads other hooks
    rw [heq, hbreads other hooks] at hread
    exact (Except.ok.inj hread).symm
  · intro heq
    rw [heq, hbw] at hav
    exact (Option.some.inj hav).symm

end AmazonSimilarSearch.Attestation
