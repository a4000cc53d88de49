import AmazonSimilarSearch.Foundation.JsonText

/-!
# JSON with indentation

`json.dump(data, file, ensure_ascii=False, indent=2)` writes the text of a value piece
by piece. Where it raises, the pieces before are written already.
-/
namespace AmazonSimilarSearch.JsonEditor
open Foundation

/-- A key of a `dict`. -/
inductive Key where
  | str (text : String)
  | int (i : ℤ)
  | float (f : PyFloat)
  | bool (b : Bool)
  | null
  /-- a text that UTF-8 cannot encode -/
  | surrogates
  /-- a key of another type -/
  | other

inductive Data where
  | null
  | bool (b : Bool)
  | int (i : ℤ)
  | float (f : PyFloat)
  | str (text : String)
  | list (items : List Data)
  | dict (entries : List (Key × Data))
  /-- a text that UTF-8 cannot encode -/
  | surrogates
  /-- a value at which the encoder raises: of another type, or one that contains itself -/
  | other

/-! ## Pieces -/

/-- What an encoder yields, and whether it comes to its end. -/
structure Pieces where
  texts : List String
  complete : Bool
  deriving DecidableEq

namespace Pieces

def nothing : Pieces := ⟨[], true⟩

def raised : Pieces := ⟨[], false⟩

def yield (text : String) : Pieces := ⟨[text], true⟩

/-- The pieces of one encoder, and then those of another. -/
def andThen (first second : Pieces) : Pieces :=
  if first.complete then ⟨first.texts ++ second.texts, second.complete⟩ else first

/-- A text in front of every piece. -/
def prepend (buffer : String) (pieces : Pieces) : Pieces :=
  { pieces with texts := pieces.texts.map (buffer ++ ·) }

@[simp] theorem complete_nothing : nothing.complete = true := rfl

@[simp] theorem complete_raised : raised.complete = false := rfl

@[simp] theorem complete_yield (text : String) : (yield text).complete = true := rfl

@[simp] theorem complete_andThen (first second : Pieces) :
    (first.andThen second).complete = (first.complete && second.complete) := by
  cases h : first.complete <;> simp [andThen, h]

@[simp] theorem complete_prepend (buffer : String) (pieces : Pieces) :
    (pieces.prepend buffer).complete = pieces.complete := rfl

end Pieces

/-! ## The encoder -/

/-- The text of a string in quotes. -/
def encodeString (text : String) : String := String.ofList (Json.dumpString text)

/-- `int.__repr__`, which refuses more than 4300 digits -/
def intText (i : ℤ) : Option String := (Json.dumpInt i).map String.ofList

/-- `floatstr`, with the names of the values that are not finite -/
def floatText : PyFloat → String
  | .nan => "NaN"
  | .infinite negative => if negative then "-Infinity" else "Infinity"
  | f => String.ofList (f.repr?.getD [])

def boolText (b : Bool) : String := if b then "true" else "false"

/-- The text of a key, unless it is refused; nothing can be written of one that has surrogates. -/
def keyText : Key → Option String
  | .str text => some text
  | .int i => intText i
  | .float f => some (floatText f)
  | .bool b => some (boolText b)
  | .null => some "null"
  | .surrogates => none
  | .other => none

/-- What comes in front of a key: nothing where its type or its length is refused. -/
def separatorOf (separator : String) : Key → Pieces
  | .int i => if (intText i).isSome then .yield separator else .raised
  | .other => .raised
  | _ => .yield separator

/-- `newline_indent` -/
def newline (level : ℕ) : String := String.ofList ('\n' :: List.replicate (2 * level) ' ')

/-- A value of which there is one piece at most. -/
def Data.isScalar : Data → Bool
  | .list _ => false
  | .dict _ => false
  | .other => false
  | _ => true

def Pieces.ofText? : Option String → Pieces
  | some text => .yield text
  | none => .raised

mutual
/-- `_iterencode` -/
def iterencode (level : ℕ) : Data → Pieces
  | .null => .yield "null"
  | .bool b => .yield (boolText b)
  | .int i => .ofText? (intText i)
  | .float f => .yield (floatText f)
  | .str text => .yield (encodeString text)
  | .list [] => .yield "[]"
  | .list (item :: items) =>
      (iterencodeList (level + 1) ("[" ++ newline (level + 1)) (item :: items)).andThen
        ((Pieces.yield (newline level)).andThen (.yield "]"))
  | .dict [] => .yield "\x7b\x7d"
  | .dict (entry :: entries) =>
      (Pieces.yield "\x7b").andThen
        ((iterencodeDict (level + 1) (newline (level + 1)) (entry :: entries)).andThen
          ((Pieces.yield (newline level)).andThen (.yield "\x7d")))
  | .surrogates => .raised
  | .other => .raised
/-- The loop of `_iterencode_list`: a scalar is one piece with the text between the items. -/
def iterencodeList (level : ℕ) (buffer : String) : List Data → Pieces
  | [] => .nothing
  | item :: items =>
      (if item.isScalar then (iterencode level item).prepend buffer
        else (Pieces.yield buffer).andThen (iterencode level item)).andThen
        (iterencodeList level ("," ++ newline level) items)
/-- The loop of `_iterencode_dict`. -/
def iterencodeDict (level : ℕ) (separator : String) : List (Key × Data) → Pieces
  | [] => .nothing
  | (key, value) :: entries =>
      (separatorOf separator key).andThen
        ((Pieces.ofText? ((keyText key).map encodeString)).andThen
          ((Pieces.yield ": ").andThen ((iterencode level value).andThen
            (iterencodeDict level ("," ++ newline level) entries))))
end

/-! ## What can be encoded -/

mutual
/-- No value that the encoder refuses is in the data. -/
def Data.encodable : Data → Bool
  | .int i => (intText i).isSome
  | .list items => encodableItems items
  | .dict entries => encodableEntries entries
  | .surrogates => false
  | .other => false
  | _ => true
def encodableItems : List Data → Bool
  | [] => true
  | item :: items => item.encodable && encodableItems items
def encodableEntries : List (Key × Data) → Bool
  | [] => true
  | (key, value) :: entries => (keyText key).isSome && value.encodable && encodableEntries entries
end

/-- Where the key is refused, what comes of it does not matter. -/
theorem complete_separatorOf (separator : String) (key : Key) :
    ((separatorOf separator key).complete && (keyText key).isSome) = (keyText key).isSome := by
  cases key with
  | int i => cases h : intText i <;> simp [separatorOf, keyText, h]
  | _ => simp [separatorOf, keyText]

@[simp] theorem complete_ofText? (text : Option String) :
    (Pieces.ofText? text).complete = text.isSome := by
  cases text <;> rfl

mutual
/-- The encoder comes to its end exactly when it refuses nothing of the data. -/
theorem complete_iterencode (level : ℕ) :
    ∀ data : Data, (iterencode level data).complete = data.encodable
  | .null => rfl
  | .bool _ => rfl
  | .int i => by simp [iterencode, Data.encodable]
  | .float _ => rfl
  | .str _ => rfl
  | .list [] => rfl
  | .list (item :: items) => by
      simp [iterencode, Data.encodable, complete_iterencodeList]
  | .dict [] => rfl
  | .dict (entry :: entries) => by
      simp [iterencode, Data.encodable, complete_iterencodeDict]
  | .surrogates => rfl
  | .other => rfl
theorem complete_iterencodeList (level : ℕ) (buffer : String) :
    ∀ items : List Data, (iterencodeList level buffer items).complete = encodableItems items
  | [] => rfl
  | item :: items => by
      have hitem := complete_iterencode level item
      have hitems := complete_iterencodeList level ("," ++ newline level) items
      cases hscalar : item.isScalar <;> simp [iterencodeList, encodableItems, hscalar, hitem, hitems]
theorem complete_iterencodeDict (level : ℕ) (separator : String) :
    ∀ entries : List (Key × Data),
      (iterencodeDict level separator entries).complete = encodableEntries entries
  | [] => rfl
  | (key, value) :: entries => by
      have hvalue := complete_iterencode level value
      have hentries := complete_iterencodeDict level ("," ++ newline level) entries
      have hkey := complete_separatorOf separator key
      rw [iterencodeDict, encodableEntries, ← hkey]
      simp [hvalue, hentries, Bool.and_assoc]
end

/-- The text that is written for the data, as far as the encoder comes. -/
def dumpText (data : Data) : String := String.join (iterencode 0 data).texts

end AmazonSimilarSearch.JsonEditor
