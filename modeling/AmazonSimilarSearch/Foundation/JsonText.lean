import AmazonSimilarSearch.Foundation.Bytes
import AmazonSimilarSearch.Foundation.Digest
import AmazonSimilarSearch.Foundation.Json

/-!
# JSON text

`dumps` is `json.dumps(value, ensure_ascii=False, sort_keys=True,
separators=(",", ":"), allow_nan=False)` and `loads` is `json.loads` with the
two hooks the readers install. The reader works on the characters of the
decoded text; its fuel is twice the number of characters, because between two
calls that consume nothing there is one that consumes a character.

A `\u` escape that names a lone surrogate gives a Python string that UTF-8
cannot encode. The reader reports it as an error of its own.
-/
namespace Foundation

inductive JsonError where
  /-- `json.JSONDecodeError` -/
  | malformed
  /-- raised by an `object_pairs_hook` -/
  | duplicateKey
  /-- raised by a `parse_constant` hook -/
  | constant
  /-- the plain `ValueError` of `int()` beyond 4300 digits -/
  | integerTooLong
  /-- the `UnicodeEncodeError` that encoding the string again raises -/
  | loneSurrogate
  deriving DecidableEq, Repr

/-- CPython's limit on digits in a conversion between text and `int`. -/
def maxIntegerDigits : ℕ := 4300

namespace Json

/-! ## Encoding -/

def escapeChar (c : Char) : List Char :=
  if c = '"' then ['\\', '"']
  else if c = '\\' then ['\\', '\\']
  else if c = '\n' then ['\\', 'n']
  else if c = '\r' then ['\\', 'r']
  else if c = '\t' then ['\\', 't']
  else if c = Char.ofNat 8 then ['\\', 'b']
  else if c = Char.ofNat 12 then ['\\', 'f']
  else if c.toNat < 32 then
    ['\\', 'u', '0', '0', lowerHexDigit (c.toNat / 16), lowerHexDigit (c.toNat % 16)]
  else [c]

def dumpString (s : String) : List Char := '"' :: (s.toList.flatMap escapeChar ++ ['"'])

def dumpInt (i : ℤ) : Option (List Char) :=
  let digits := Nat.toDigits 10 i.natAbs
  if maxIntegerDigits < digits.length then none
  else some (if i < 0 then '-' :: digits else digits)

mutual
/-- `none` is the `ValueError` of an out-of-range float or an oversized integer. -/
def dumpValue : Json → Option (List Char)
  | .null => some ['n', 'u', 'l', 'l']
  | .bool true => some ['t', 'r', 'u', 'e']
  | .bool false => some ['f', 'a', 'l', 's', 'e']
  | .int i => dumpInt i
  | .float f => f.repr?
  | .str s => some (dumpString s)
  | .arr xs => (dumpItems xs).map fun body => '[' :: (body ++ [']'])
  | .obj fs => (dumpFields fs).map fun body => '\x7b' :: (body ++ ['\x7d'])
def dumpItems : List Json → Option (List Char)
  | [] => some []
  | [x] => dumpValue x
  | x :: y :: xs => do
      let head ← dumpValue x
      let tail ← dumpItems (y :: xs)
      pure (head ++ ',' :: tail)
def dumpFields : Fields → Option (List Char)
  | [] => some []
  | [(k, v)] => do
      let value ← dumpValue v
      pure (dumpString k ++ ':' :: value)
  | (k, v) :: f :: fs => do
      let value ← dumpValue v
      let tail ← dumpFields (f :: fs)
      pure (dumpString k ++ ':' :: (value ++ ',' :: tail))
end

def dumps (v : Json) : Option String := (dumpValue v).map String.ofList

/-! ## Reading -/

/-- What the caller of `json.loads` asks for. -/
structure Hooks where
  /-- an `object_pairs_hook` that raises on a repeated key -/
  rejectDuplicates : Bool
  /-- a `parse_constant` that raises on `NaN` and the infinities -/
  rejectConstants : Bool

def skipSpace (cs : List Char) : List Char :=
  cs.dropWhile fun c => c == ' ' || c == '\t' || c == '\n' || c == '\r'

def hexValue? (c : Char) : Option ℕ :=
  if '0' ≤ c ∧ c ≤ '9' then some (c.toNat - 48)
  else if 'a' ≤ c ∧ c ≤ 'f' then some (c.toNat - 87)
  else if 'A' ≤ c ∧ c ≤ 'F' then some (c.toNat - 55)
  else none

def hexUnit? (a b c d : Char) : Option ℕ := do
  let a ← hexValue? a
  let b ← hexValue? b
  let c ← hexValue? c
  let d ← hexValue? d
  pure (16 ^ 3 * a + 16 ^ 2 * b + 16 * c + d)

def simpleEscape? (c : Char) : Option Char :=
  if c = '"' ∨ c = '\\' ∨ c = '/' then some c
  else if c = 'b' then some (Char.ofNat 8)
  else if c = 'f' then some (Char.ofNat 12)
  else if c = 'n' then some '\n'
  else if c = 'r' then some '\r'
  else if c = 't' then some '\t'
  else none

/-- Put a character in front of what the rest of a string reads as. -/
def consChar (c : Char) (r : Except JsonError (List Char × List Char)) :
    Except JsonError (List Char × List Char) :=
  r.map fun p => (c :: p.1, p.2)

/-- The characters of a string up to its closing quote, and what follows it. -/
def parseString : List Char → Except JsonError (List Char × List Char)
  | [] => .error .malformed
  | c :: cs =>
      if c = '"' then .ok ([], cs)
      else if c = '\\' then
        match cs with
        | [] => .error .malformed
        | e :: cs =>
            if e = 'u' then
              match cs with
              | a :: b :: c :: d :: cs =>
                  match hexUnit? a b c d with
                  | none => .error .malformed
                  | some u =>
                      if 0xD800 ≤ u ∧ u < 0xDC00 then
                        match cs with
                        | '\\' :: 'u' :: a :: b :: c :: d :: cs =>
                            match hexUnit? a b c d with
                            | none => .error .malformed
                            | some l =>
                                if 0xDC00 ≤ l ∧ l < 0xE000 then
                                  consChar (Char.ofNat (0x10000 + (u - 0xD800) * 0x400 + (l - 0xDC00)))
                                    (parseString cs)
                                else .error .loneSurrogate
                        | _ => .error .loneSurrogate
                      else if 0xDC00 ≤ u ∧ u < 0xE000 then .error .loneSurrogate
                      else consChar (Char.ofNat u) (parseString cs)
              | _ => .error .malformed
            else
              match simpleEscape? e with
              | none => .error .malformed
              | some c => consChar c (parseString cs)
      else if c.toNat < 32 then .error .malformed
      else consChar c (parseString cs)

/-- The fraction digits after a point, when at least one follows. -/
def fractionPart : List Char → List Char × List Char
  | '.' :: cs =>
      let digits := cs.takeWhile Char.isDigit
      if digits = [] then ([], '.' :: cs) else (digits, cs.dropWhile Char.isDigit)
  | cs => ([], cs)

/-- The exponent, when at least one digit follows the letter and its sign. -/
def exponentPart (cs : List Char) : Option ℤ × List Char :=
  match cs with
  | [] => (none, [])
  | e :: rest =>
      if e = 'e' ∨ e = 'E' then
        let negative := rest.head? = some '-'
        let body := if rest.head? = some '-' ∨ rest.head? = some '+' then rest.drop 1 else rest
        let digits := body.takeWhile Char.isDigit
        if digits = [] then (none, cs)
        else
          let n : ℤ := Nat.ofDigitChars 10 digits 0
          (some (if negative then -n else n), body.dropWhile Char.isDigit)
      else (none, cs)

/-- The digits of the whole part: a single zero, or a run that starts with another digit. -/
def wholePart (cs : List Char) : List Char × List Char :=
  if cs.head? = some '0' then (['0'], cs.drop 1)
  else (cs.takeWhile Char.isDigit, cs.dropWhile Char.isDigit)

def parseNumber (negative : Bool) (cs : List Char) : Except JsonError (Json × List Char) :=
  let whole := wholePart cs
  if whole.1 = [] then .error .malformed else
  let fraction := fractionPart whole.2
  let exponent := exponentPart fraction.2
  if fraction.1 = [] ∧ exponent.1 = none then
    if maxIntegerDigits < whole.1.length then .error .integerTooLong
    else
      let n : ℤ := Nat.ofDigitChars 10 whole.1 0
      .ok (.int (if negative then -n else n), exponent.2)
  else
    .ok (.float (PyFloat.ofDecimal negative (Nat.ofDigitChars 10 (whole.1 ++ fraction.1) 0)
      (exponent.1.getD 0 - fraction.1.length)), exponent.2)

/-- The rest of a literal after its first character. -/
def parseLiteral (tail : List Char) (v : Except JsonError Json) (cs : List Char) :
    Except JsonError (Json × List Char) :=
  if tail.isPrefixOf cs then v.map fun j => (j, cs.drop tail.length) else .error .malformed

def constantValue (h : Hooks) (f : PyFloat) : Except JsonError Json :=
  if h.rejectConstants then .error .constant else .ok (.float f)

/-- The hook is called with an object's pairs when the object closes. -/
def pairsValue (h : Hooks) (pairs : List (String × Json)) : Except JsonError Json :=
  if h.rejectDuplicates ∧ ¬ (pairs.map Prod.fst).Nodup then .error .duplicateKey
  else .ok (.obj (Fields.ofPairs pairs))

mutual
def parseValue (h : Hooks) : ℕ → List Char → Except JsonError (Json × List Char)
  | 0, _ => .error .malformed
  | _ + 1, [] => .error .malformed
  | fuel + 1, c :: cs =>
      if c = '"' then (parseString cs).map fun p => (.str (String.ofList p.1), p.2)
      else if c = '\x7b' then
        if (skipSpace cs).head? = some '\x7d' then
          (pairsValue h []).map fun v => (v, (skipSpace cs).drop 1)
        else parseMembers h fuel [] (skipSpace cs)
      else if c = '[' then
        if (skipSpace cs).head? = some ']' then .ok (.arr [], (skipSpace cs).drop 1)
        else (parseItems h fuel (skipSpace cs)).map fun p => (.arr p.1, p.2)
      else if c = 'n' then parseLiteral ['u', 'l', 'l'] (.ok .null) cs
      else if c = 't' then parseLiteral ['r', 'u', 'e'] (.ok (.bool true)) cs
      else if c = 'f' then parseLiteral ['a', 'l', 's', 'e'] (.ok (.bool false)) cs
      else if c = 'N' then parseLiteral ['a', 'N'] (constantValue h .nan) cs
      else if c = 'I' then
        parseLiteral ['n', 'f', 'i', 'n', 'i', 't', 'y'] (constantValue h (.infinite false)) cs
      else if c = '-' then
        if cs.head? = some 'I' then
          parseLiteral ['I', 'n', 'f', 'i', 'n', 'i', 't', 'y'] (constantValue h (.infinite true)) cs
        else parseNumber true cs
      else parseNumber false (c :: cs)
/-- The items of a nonempty array up to its closing bracket. -/
def parseItems (h : Hooks) : ℕ → List Char → Except JsonError (List Json × List Char)
  | 0, _ => .error .malformed
  | fuel + 1, cs => do
      let (v, rest) ← parseValue h fuel cs
      match skipSpace rest with
      | ']' :: rest => pure ([v], rest)
      | ',' :: rest => do
          let (vs, rest) ← parseItems h fuel (skipSpace rest)
          pure (v :: vs, rest)
      | _ => .error .malformed
/-- The members of a nonempty object; `pairs` are those already read, last first. -/
def parseMembers (h : Hooks) : ℕ → List (String × Json) → List Char →
    Except JsonError (Json × List Char)
  | 0, _, _ => .error .malformed
  | fuel + 1, pairs, cs =>
      match cs with
      | '"' :: cs => do
          let (key, rest) ← parseString cs
          match skipSpace rest with
          | ':' :: rest => do
              let (v, rest) ← parseValue h fuel (skipSpace rest)
              let pairs := (String.ofList key, v) :: pairs
              match skipSpace rest with
              | '\x7d' :: rest => do
                  let v ← pairsValue h pairs.reverse
                  pure (v, rest)
              | ',' :: rest => parseMembers h fuel pairs (skipSpace rest)
              | _ => .error .malformed
          | _ => .error .malformed
      | _ => .error .malformed
end

/-- `json.loads(text, ...)`: one value between optional white space. -/
def loads (h : Hooks) (text : String) : Except JsonError Json := do
  let cs := text.toList
  if cs.head? = some (Char.ofNat 0xFEFF) then .error .malformed else
  let (v, rest) ← parseValue h (2 * cs.length + 1) (skipSpace cs)
  if skipSpace rest = [] then pure v else .error .malformed

end Json
end Foundation
