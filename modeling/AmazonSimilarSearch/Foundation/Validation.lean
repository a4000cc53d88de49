import AmazonSimilarSearch.Foundation.Json
import AmazonSimilarSearch.Foundation.Text

/-!
# Validation that collects complaints

A model is validated field by field: a value that a field refuses is a complaint,
and the other fields are validated all the same. An exception that is no complaint
leaves at once, so it decides the outcome wherever it is raised.
-/
namespace Foundation

/-- What a validator makes of a value. -/
inductive Validation (α : Type) where
  | accepted (a : α)
  /-- one complaint or several -/
  | refused
  /-- an exception that is no complaint -/
  | raised
  deriving DecidableEq

namespace Validation

variable {α β : Type}

instance : Applicative Validation where
  pure := accepted
  seq f x := match f, x () with
    | .accepted g, .accepted a => .accepted (g a)
    | .raised, _ => .raised
    | _, .raised => .raised
    | _, _ => .refused

theorem seq_eq_accepted_iff {f : Validation (α → β)} {x : Validation α} {b : β} :
    f <*> x = .accepted b ↔ ∃ g a, f = .accepted g ∧ x = .accepted a ∧ g a = b := by
  cases f <;> cases x <;> simp [Seq.seq]

theorem seq_eq_raised_iff {f : Validation (α → β)} {x : Validation α} :
    f <*> x = .raised ↔ f = .raised ∨ x = .raised := by
  cases f <;> cases x <;> simp [Seq.seq]

theorem map_eq_accepted_iff {f : α → β} {x : Validation α} {b : β} :
    f <$> x = .accepted b ↔ ∃ a, x = .accepted a ∧ f a = b := by
  cases x <;> simp [Functor.map]

theorem map_eq_raised_iff {f : α → β} {x : Validation α} : f <$> x = .raised ↔ x = .raised := by
  cases x <;> simp [Functor.map]

/-- A validator that runs on what the one before it has accepted. -/
def andThen (x : Validation α) (f : α → Validation β) : Validation β :=
  match x with
  | .accepted a => f a
  | .refused => .refused
  | .raised => .raised

theorem andThen_eq_accepted_iff {x : Validation α} {f : α → Validation β} {b : β} :
    x.andThen f = .accepted b ↔ ∃ a, x = .accepted a ∧ f a = .accepted b := by
  cases x <;> simp [andThen]

theorem andThen_eq_raised_iff {x : Validation α} {f : α → Validation β} :
    x.andThen f = .raised ↔ x = .raised ∨ ∃ a, x = .accepted a ∧ f a = .raised := by
  cases x <;> simp [andThen]

/-- A complaint unless the condition holds. -/
def check (p : Prop) [Decidable p] (a : α) : Validation α := if p then .accepted a else .refused

theorem check_eq_accepted_iff {p : Prop} [Decidable p] {a b : α} :
    check p a = .accepted b ↔ p ∧ a = b := by
  unfold check
  split_ifs with h <;> simp [h]

@[simp] theorem check_ne_raised {p : Prop} [Decidable p] {a : α} : check p a ≠ .raised := by
  unfold check
  split_ifs <;> simp

/-- Every item is validated, in order. -/
def all (f : α → Validation β) : List α → Validation (List β)
  | [] => .accepted []
  | item :: items => List.cons <$> f item <*> all f items

theorem all_eq_accepted_iff {f : α → Validation β} {items : List α} {values : List β} :
    all f items = .accepted values ↔
      List.Forall₂ (fun item value => f item = .accepted value) items values := by
  induction items generalizing values with
  | nil => cases values <;> simp [all]
  | cons item items ih =>
      rw [all, seq_eq_accepted_iff]
      simp only [map_eq_accepted_iff]
      constructor
      · rintro ⟨_, rest, ⟨value, hvalue, rfl⟩, hrest, rfl⟩
        exact .cons hvalue (ih.mp hrest)
      · intro h
        cases h with
        | cons hvalue hrest => exact ⟨_, _, ⟨_, hvalue, rfl⟩, ih.mpr hrest, rfl⟩

theorem all_eq_raised_iff {f : α → Validation β} {items : List α} :
    all f items = .raised ↔ ∃ item ∈ items, f item = .raised := by
  induction items with
  | nil => simp [all]
  | cons item items ih =>
      rw [all, seq_eq_raised_iff, map_eq_raised_iff, ih, List.exists_mem_cons_iff]

/-! ## Values of JSON -/

def text : Json → Validation String
  | .str value => .accepted value
  | _ => .refused

@[simp] theorem text_ne_raised (value : Json) : text value ≠ .raised := by
  cases value <;> simp [text]

/-- A text with so many characters that the pattern accepts. -/
def boundedText (low high : ℕ) (pattern : String → Bool) (value : Json) : Validation String :=
  (text value).andThen fun value =>
    check (low ≤ value.toList.length ∧ value.toList.length ≤ high ∧ pattern value = true) value

@[simp] theorem boundedText_ne_raised (low high : ℕ) (pattern : String → Bool) (value : Json) :
    boundedText low high pattern value ≠ .raised := by
  simp [boundedText, andThen_eq_raised_iff]

/-- A text that the pattern accepts. -/
def matching (pattern : String → Bool) (value : Json) : Validation (Matching pattern) :=
  (text value).andThen fun value =>
    if h : pattern value = true then .accepted ⟨value, h⟩ else .refused

theorem matching_eq_accepted_iff {pattern : String → Bool} {value : Json}
    {accepted : Matching pattern} :
    matching pattern value = .accepted accepted ↔ value = .str accepted.text := by
  rw [matching, andThen_eq_accepted_iff]
  constructor
  · rintro ⟨content, htext, haccepted⟩
    cases value with
    | str shown =>
        cases htext
        split at haccepted
        · cases haccepted
          rfl
        · cases haccepted
    | _ => cases htext
  · rintro rfl
    exact ⟨_, rfl, dif_pos accepted.matches_text⟩

@[simp] theorem matching_ne_raised (pattern : String → Bool) (value : Json) :
    matching pattern value ≠ .raised := by
  simp only [matching, ne_eq, andThen_eq_raised_iff, text_ne_raised, false_or, not_exists, not_and]
  intro value _
  split_ifs <;> simp

/-- A lowercase hexadecimal digest. -/
def digest (n : ℕ) (value : Json) : Validation (LowerHex n) :=
  (text value).andThen fun value => match LowerHex.ofText? n value with
    | some digest => .accepted digest
    | none => .refused

@[simp] theorem digest_ne_raised (n : ℕ) (value : Json) : digest n value ≠ .raised := by
  simp only [digest, ne_eq, andThen_eq_raised_iff, text_ne_raised, false_or, not_exists, not_and]
  intro value _
  split <;> simp

/-- An integer within bounds; a boolean is none. -/
def integer (low high : ℤ) : Json → Validation ℤ
  | .int value => check (low ≤ value ∧ value ≤ high) value
  | _ => .refused

@[simp] theorem integer_ne_raised (low high : ℤ) (value : Json) :
    integer low high value ≠ .raised := by
  cases value <;> simp [integer]

def anyInteger : Json → Validation ℤ
  | .int value => .accepted value
  | _ => .refused

@[simp] theorem anyInteger_ne_raised (value : Json) : anyInteger value ≠ .raised := by
  cases value <;> simp [anyInteger]

/-- The same for bounds that are natural numbers. -/
def natural (low high : ℕ) (value : Json) : Validation ℕ :=
  Int.toNat <$> integer low high value

@[simp] theorem natural_ne_raised (low high : ℕ) (value : Json) :
    natural low high value ≠ .raised := by
  simp [natural, map_eq_raised_iff]

/-- A value that may be missing. -/
def nullable (f : Json → Validation α) : Json → Validation (Option α)
  | .null => .accepted none
  | value => some <$> f value

theorem nullable_eq_raised_iff {f : Json → Validation α} {value : Json} :
    nullable f value = .raised ↔ value ≠ .null ∧ f value = .raised := by
  cases value <;> simp [nullable, map_eq_raised_iff]

/-- One of the texts of a literal type. -/
def literal (choices : List (String × α)) (value : Json) : Validation α :=
  (text value).andThen fun value => match choices.lookup value with
    | some choice => .accepted choice
    | none => .refused

@[simp] theorem literal_ne_raised (choices : List (String × α)) (value : Json) :
    literal choices value ≠ .raised := by
  simp only [literal, ne_eq, andThen_eq_raised_iff, text_ne_raised, false_or, not_exists, not_and]
  intro value _
  split <;> simp

/-- A list with a number of items within bounds. The first item that is too many is validated
before the list is refused. -/
def list (low high : ℕ) (f : Json → Validation α) : Json → Validation (List α)
  | .arr items => (all f (items.take (high + 1))).andThen
      (check (low ≤ items.length ∧ items.length ≤ high))
  | _ => .refused

theorem list_eq_accepted_iff {low high : ℕ} {f : Json → Validation α} {value : Json}
    {values : List α} :
    list low high f value = .accepted values ↔ ∃ items, value = .arr items ∧
      low ≤ items.length ∧ items.length ≤ high ∧
      List.Forall₂ (fun item value => f item = .accepted value) items values := by
  constructor
  · intro h
    cases value with
    | arr items =>
        obtain ⟨_, hall, hcheck⟩ := andThen_eq_accepted_iff.mp h
        obtain ⟨⟨hlow, hhigh⟩, rfl⟩ := check_eq_accepted_iff.mp hcheck
        rw [List.take_of_length_le (hhigh.trans (Nat.le_succ high)), all_eq_accepted_iff] at hall
        exact ⟨items, rfl, hlow, hhigh, hall⟩
    | _ => cases h
  · rintro ⟨items, rfl, hlow, hhigh, hall⟩
    refine andThen_eq_accepted_iff.mpr ⟨values, ?_, check_eq_accepted_iff.mpr ⟨⟨hlow, hhigh⟩, rfl⟩⟩
    rw [List.take_of_length_le (hhigh.trans (Nat.le_succ high)), all_eq_accepted_iff]
    exact hall

theorem list_eq_raised_iff {low high : ℕ} {f : Json → Validation α} {value : Json} :
    list low high f value = .raised ↔
      ∃ items, value = .arr items ∧ ∃ item ∈ items.take (high + 1), f item = .raised := by
  cases value <;> simp [list, andThen_eq_raised_iff, all_eq_raised_iff]

/-- A field that must be there. -/
def field (fields : Fields) (name : String) (f : Json → Validation α) : Validation α :=
  match fields.lookup name with
  | some value => f value
  | none => .refused

theorem field_eq_accepted_iff {fields : Fields} {name : String} {f : Json → Validation α} {a : α} :
    field fields name f = .accepted a ↔
      ∃ value, fields.lookup name = some value ∧ f value = .accepted a := by
  rw [field]
  cases hlookup : fields.lookup name <;> simp

theorem field_eq_raised_iff {fields : Fields} {name : String} {f : Json → Validation α} :
    field fields name f = .raised ↔
      ∃ value, fields.lookup name = some value ∧ f value = .raised := by
  rw [field]
  cases hlookup : fields.lookup name <;> simp

/-- A field with a default. -/
def fieldOr (fields : Fields) (name : String) (missing : α) (f : Json → Validation α) :
    Validation α :=
  match fields.lookup name with
  | some value => f value
  | none => .accepted missing

theorem fieldOr_eq_accepted_iff {fields : Fields} {name : String} {missing : α}
    {f : Json → Validation α} {a : α} :
    fieldOr fields name missing f = .accepted a ↔
      (∃ value, fields.lookup name = some value ∧ f value = .accepted a) ∨
        (fields.lookup name = none ∧ missing = a) := by
  rw [fieldOr]
  cases hlookup : fields.lookup name <;> simp

theorem fieldOr_eq_raised_iff {fields : Fields} {name : String} {missing : α}
    {f : Json → Validation α} :
    fieldOr fields name missing f = .raised ↔
      ∃ value, fields.lookup name = some value ∧ f value = .raised := by
  rw [fieldOr]
  cases hlookup : fields.lookup name <;> simp

/-- A dict with these fields and no others. -/
def object (names : List String) (f : Fields → Validation α) : Json → Validation α
  | .obj fields => Function.const Unit <$> f fields <*>
      check (∀ key ∈ Fields.keys fields, key ∈ names) ()
  | _ => .refused

theorem object_eq_accepted_iff {names : List String} {f : Fields → Validation α} {value : Json}
    {a : α} :
    object names f value = .accepted a ↔ ∃ fields, value = .obj fields ∧ f fields = .accepted a ∧
      ∀ key ∈ Fields.keys fields, key ∈ names := by
  cases value with
  | obj fields =>
      simp only [object, seq_eq_accepted_iff, map_eq_accepted_iff, check_eq_accepted_iff]
      constructor
      · rintro ⟨_, _, ⟨b, hb, rfl⟩, ⟨hkeys, -⟩, rfl⟩
        exact ⟨fields, rfl, hb, hkeys⟩
      · rintro ⟨_, heq, ha, hkeys⟩
        cases heq
        exact ⟨_, (), ⟨a, ha, rfl⟩, ⟨hkeys, trivial⟩, rfl⟩
  | _ => simp [object]

theorem object_eq_raised_iff {names : List String} {f : Fields → Validation α} {value : Json} :
    object names f value = .raised ↔ ∃ fields, value = .obj fields ∧ f fields = .raised := by
  cases value <;> simp [object, seq_eq_raised_iff, map_eq_raised_iff]

end Validation
end Foundation
