import AmazonSimilarSearch.Foundation.Casefold

/-!
# Fields, words and numbers in a text

`str.split` with and without a separator, `str.partition`, `str.rpartition` and
`int(text)`, on the characters of a text.
-/
namespace Foundation

/-- `text.split(separator)` for one character. -/
def splitAt (separator : Char) : List Char → List (List Char)
  | [] => [[]]
  | c :: cs =>
      if c = separator then [] :: splitAt separator cs
      else match splitAt separator cs with
        | [] => [[c]]
        | field :: fields => (c :: field) :: fields

/-- `text.split(separator)` without the empty fields. -/
def populatedFields (separator : Char) (text : String) : List String :=
  ((splitAt separator text.toList).filter (· ≠ [])).map String.ofList

/-- What is before and after the first `separator`, if there is one. -/
def partitionAt? (separator : Char) : List Char → Option (List Char × List Char)
  | [] => none
  | c :: cs =>
      if c = separator then some ([], cs)
      else (partitionAt? separator cs).map fun parts => (c :: parts.1, parts.2)

/-- `text.partition(separator)`, or nothing where the separator is missing. -/
def pyPartition? (separator : Char) (text : String) : Option (String × String) :=
  (partitionAt? separator text.toList).map fun parts => (.ofList parts.1, .ofList parts.2)

/-- `text.rpartition(separator)`, or nothing where the separator is missing. -/
def pyRpartition? (separator : Char) (text : String) : Option (String × String) :=
  (partitionAt? separator text.toList.reverse).map fun parts =>
    (.ofList parts.2.reverse, .ofList parts.1.reverse)

/-- The words of `text.split()`; `word` is the one being read. -/
def wordsFrom (word : List Char) : List Char → List (List Char)
  | [] => if word = [] then [] else [word]
  | c :: cs =>
      if isPySpace c then
        if word = [] then wordsFrom [] cs else word :: wordsFrom [] cs
      else wordsFrom (word ++ [c]) cs

/-- `text.split()` -/
def pyWords (text : String) : List String := (wordsFrom [] text.toList).map String.ofList

/-- The value of decimal digits. -/
def decimalValue (digits : List Char) : ℕ :=
  digits.foldl (fun n c => 10 * n + (decimalDigit? c).getD 0) 0

def unsignedInt? (cs : List Char) : Option ℕ :=
  let groups := splitAt '_' cs
  let digits := groups.flatten
  if groups.all (fun group => group ≠ [] && group.all fun c => (decimalDigit? c).isSome) &&
      decide (digits.length ≤ 4300) then some (decimalValue digits)
  else none

/-- `int(text)`; nothing is `ValueError`. -/
def pyInt? (text : String) : Option ℤ :=
  match (strip text).toList with
  | '-' :: cs => (unsignedInt? cs).map fun n => -(n : ℤ)
  | '+' :: cs => (unsignedInt? cs).map fun n => (n : ℤ)
  | cs => (unsignedInt? cs).map fun n => (n : ℤ)

example : pyInt? " -1_0\n" = some (-10) ∧ pyInt? "1__0" = none ∧ pyInt? "" = none := by
  decide +kernel

end Foundation
