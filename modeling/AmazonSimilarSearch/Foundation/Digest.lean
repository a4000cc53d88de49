import AmazonSimilarSearch.Foundation.Bytes
import Mathlib.Data.List.OfFn
import Mathlib.Algebra.Ring.Nat

/-!
# Lowercase hexadecimal digests

A digest value carries the proof that its text is exactly `n` lowercase
hexadecimal digits, so no later statement re-checks the pattern. `sha256` is
FIPS 180-4 on octets; results that hold for every digest function take one as
a parameter instead, and nothing here unfolds the compression function.
-/
namespace Foundation

def isLowerHexChar (c : Char) : Bool :=
  ('0' ≤ c && c ≤ '9') || ('a' ≤ c && c ≤ 'f')

/-- The text matches `^[0-9a-f]{n}$`. -/
def matchesLowerHex (n : ℕ) (text : String) : Bool :=
  text.toList.length == n && text.toList.all isLowerHexChar

/-- `n` lowercase hexadecimal digits. -/
structure LowerHex (n : ℕ) where
  text : String
  matches_text : matchesLowerHex n text = true
  deriving DecidableEq

abbrev Sha256 := LowerHex 64

/-- A function in the place of `hashlib.sha256(raw).hexdigest()`. -/
abbrev HashFunction := Bytes → Sha256

namespace LowerHex
variable {n : ℕ}

@[ext] theorem ext {a b : LowerHex n} (h : a.text = b.text) : a = b := by
  cases a
  cases b
  cases h
  rfl

theorem text_injective : Function.Injective (text : LowerHex n → String) :=
  fun _ _ h => ext h

@[simp] theorem text_inj {a b : LowerHex n} : a.text = b.text ↔ a = b :=
  text_injective.eq_iff

theorem length_toList (a : LowerHex n) : a.text.toList.length = n := by
  have h := a.matches_text
  simp only [matchesLowerHex, Bool.and_eq_true, beq_iff_eq] at h
  exact h.1

theorem isLowerHexChar_of_mem (a : LowerHex n) {c : Char} (hc : c ∈ a.text.toList) :
    isLowerHexChar c = true := by
  have h := a.matches_text
  simp only [matchesLowerHex, Bool.and_eq_true, List.all_eq_true] at h
  exact h.2 c hc

/-- Read a digest back from text. -/
def ofText? (n : ℕ) (text : String) : Option (LowerHex n) :=
  if h : matchesLowerHex n text = true then some ⟨text, h⟩ else none

@[simp] theorem ofText?_text (a : LowerHex n) : ofText? n a.text = some a :=
  dif_pos a.matches_text

theorem text_of_ofText? {s : String} {a : LowerHex n} (h : ofText? n s = some a) :
    a.text = s := by
  unfold ofText? at h
  split at h
  · cases h
    rfl
  · cases h

theorem ofText?_eq_some_iff {s : String} {a : LowerHex n} :
    ofText? n s = some a ↔ a.text = s := by
  constructor
  · exact text_of_ofText?
  · rintro rfl
    exact ofText?_text a

end LowerHex

/-- One hexadecimal digit, lowercase. -/
def lowerHexDigit (d : ℕ) : Char :=
  if d < 10 then Char.ofNat (48 + d) else Char.ofNat (87 + d)

theorem isLowerHexChar_lowerHexDigit : ∀ d < 16, isLowerHexChar (lowerHexDigit d) = true := by
  decide

/-- The `n` low hexadecimal digits of a number, most significant first. -/
def hexDigits (n value : ℕ) : List Char :=
  List.ofFn fun i : Fin n => lowerHexDigit (value / 16 ^ (n - 1 - i.val) % 16)

def LowerHex.ofNat (n value : ℕ) : LowerHex n where
  text := String.ofList (hexDigits n value)
  matches_text := by
    have hall : (hexDigits n value).all isLowerHexChar = true := by
      rw [List.all_eq_true]
      intro c hc
      obtain ⟨i, rfl⟩ := List.mem_ofFn.mp hc
      exact isLowerHexChar_lowerHexDigit _ (Nat.mod_lt _ (by decide))
    have hlength : (hexDigits n value).length = n := List.length_ofFn
    simp only [matchesLowerHex, String.toList_ofList, hlength, hall, beq_self_eq_true,
      Bool.and_self]

theorem lowerHexDigit_inj : ∀ a < 16, ∀ b < 16, lowerHexDigit a = lowerHexDigit b → a = b := by
  decide

/-- The last digit tells numbers apart. -/
theorem LowerHex.mod_eq_of_ofNat {n a b : ℕ} (hn : 0 < n)
    (h : LowerHex.ofNat n a = LowerHex.ofNat n b) : a % 16 = b % 16 := by
  have hdigits : hexDigits n a = hexDigits n b := by
    have htext := congrArg (fun digest => digest.text.toList) h
    simpa only [LowerHex.ofNat, String.toList_ofList] using htext
  have hlast := congrFun (List.ofFn_injective hdigits) ⟨n - 1, by omega⟩
  simp only [Nat.sub_self, pow_zero, Nat.div_one] at hlast
  exact lowerHexDigit_inj _ (Nat.mod_lt _ (by decide)) _ (Nat.mod_lt _ (by decide)) hlast

namespace Sha256Function

/-- The 32-bit words of the compression function are naturals below `2 ^ 32`. -/
def word (x : ℕ) : ℕ := x % 2 ^ 32

def rotateRight (x k : ℕ) : ℕ := (x >>> k) ||| word (x <<< (32 - k))

def bigSigma0 (x : ℕ) : ℕ := rotateRight x 2 ^^^ rotateRight x 13 ^^^ rotateRight x 22
def bigSigma1 (x : ℕ) : ℕ := rotateRight x 6 ^^^ rotateRight x 11 ^^^ rotateRight x 25
def smallSigma0 (x : ℕ) : ℕ := rotateRight x 7 ^^^ rotateRight x 18 ^^^ (x >>> 3)
def smallSigma1 (x : ℕ) : ℕ := rotateRight x 17 ^^^ rotateRight x 19 ^^^ (x >>> 10)
def choose (x y z : ℕ) : ℕ := (x &&& y) ^^^ ((x ^^^ 0xffffffff) &&& z)
def majority (x y z : ℕ) : ℕ := (x &&& y) ^^^ (x &&& z) ^^^ (y &&& z)

def constants : List ℕ := [
  0x428a2f98, 0x71374491, 0xb5c0fbcf, 0xe9b5dba5, 0x3956c25b, 0x59f111f1, 0x923f82a4, 0xab1c5ed5,
  0xd807aa98, 0x12835b01, 0x243185be, 0x550c7dc3, 0x72be5d74, 0x80deb1fe, 0x9bdc06a7, 0xc19bf174,
  0xe49b69c1, 0xefbe4786, 0x0fc19dc6, 0x240ca1cc, 0x2de92c6f, 0x4a7484aa, 0x5cb0a9dc, 0x76f988da,
  0x983e5152, 0xa831c66d, 0xb00327c8, 0xbf597fc7, 0xc6e00bf3, 0xd5a79147, 0x06ca6351, 0x14292967,
  0x27b70a85, 0x2e1b2138, 0x4d2c6dfc, 0x53380d13, 0x650a7354, 0x766a0abb, 0x81c2c92e, 0x92722c85,
  0xa2bfe8a1, 0xa81a664b, 0xc24b8b70, 0xc76c51a3, 0xd192e819, 0xd6990624, 0xf40e3585, 0x106aa070,
  0x19a4c116, 0x1e376c08, 0x2748774c, 0x34b0bcb5, 0x391c0cb3, 0x4ed8aa4a, 0x5b9cca4f, 0x682e6ff3,
  0x748f82ee, 0x78a5636f, 0x84c87814, 0x8cc70208, 0x90befffa, 0xa4506ceb, 0xbef9a3f7, 0xc67178f2]

structure Registers where
  a : ℕ
  b : ℕ
  c : ℕ
  d : ℕ
  e : ℕ
  f : ℕ
  g : ℕ
  h : ℕ

def initial : Registers :=
  ⟨0x6a09e667, 0xbb67ae85, 0x3c6ef372, 0xa54ff53a, 0x510e527f, 0x9b05688c, 0x1f83d9ab, 0x5be0cd19⟩

/-- The message schedule is kept as its last sixteen words. -/
def nextWord (w : List ℕ) : ℕ :=
  word (smallSigma1 (w.getD 14 0) + w.getD 9 0 + smallSigma0 (w.getD 1 0) + w.getD 0 0)

def rounds : List ℕ → List ℕ → Registers → Registers
  | [], _, s => s
  | k :: ks, w, s =>
      let t1 := s.h + bigSigma1 s.e + choose s.e s.f s.g + k + w.getD 0 0
      let t2 := bigSigma0 s.a + majority s.a s.b s.c
      rounds ks (w.drop 1 ++ [nextWord w])
        ⟨word (t1 + t2), s.a, s.b, s.c, word (s.d + t1), s.e, s.f, s.g⟩

def compress (s : Registers) (block : List ℕ) : Registers :=
  let r := rounds constants block s
  ⟨word (s.a + r.a), word (s.b + r.b), word (s.c + r.c), word (s.d + r.d),
    word (s.e + r.e), word (s.f + r.f), word (s.g + r.g), word (s.h + r.h)⟩

/-- Big-endian value of an octet string. -/
def bigEndian (raw : Bytes) : ℕ := raw.foldl (fun n b => 256 * n + b.toNat) 0

def lengthOctets (bits : ℕ) : Bytes :=
  List.ofFn fun i : Fin 8 => UInt8.ofNat (bits / 256 ^ (7 - i.val))

def pad (raw : Bytes) : Bytes :=
  raw ++ 0x80 :: List.replicate ((119 - raw.length % 64) % 64) 0 ++ lengthOctets (8 * raw.length)

/-- The sixteen words of each block; the fuel bounds the number of blocks. -/
def blocks : ℕ → Bytes → List (List ℕ)
  | 0, _ => []
  | fuel + 1, raw =>
      if raw.isEmpty then [] else
        ((List.range 16).map fun i => bigEndian ((raw.drop (4 * i)).take 4)) ::
          blocks fuel (raw.drop 64)

def registersValue (s : Registers) : ℕ :=
  [s.a, s.b, s.c, s.d, s.e, s.f, s.g, s.h].foldl (fun n w => 2 ^ 32 * n + w) 0

end Sha256Function

open Sha256Function in
/-- `hashlib.sha256(raw).hexdigest()`. -/
@[irreducible] def sha256 : HashFunction := fun raw =>
  let padded := pad raw
  LowerHex.ofNat 64 (registersValue ((blocks padded.length padded).foldl compress initial))

set_option maxRecDepth 20000 in
example : (sha256 [0x61, 0x62, 0x63]).text =
    "ba7816bf8f01cfea414140de5dae2223b00361a396177a9cb410ff61f20015ad" := by
  unfold sha256
  decide +kernel

namespace Sha1Function
open Sha256Function (word choose majority)

def rotateLeft (x k : ℕ) : ℕ := word (x <<< k) ||| (x >>> (32 - k))
def parity (x y z : ℕ) : ℕ := x ^^^ y ^^^ z

/-- The function and the constant of each round. -/
def roundFunctions : List ((ℕ → ℕ → ℕ → ℕ) × ℕ) :=
  [(choose, 0x5a827999), (parity, 0x6ed9eba1), (majority, 0x8f1bbcdc), (parity, 0xca62c1d6)].flatMap
    (List.replicate 20)

structure Registers where
  a : ℕ
  b : ℕ
  c : ℕ
  d : ℕ
  e : ℕ

def initial : Registers := ⟨0x67452301, 0xefcdab89, 0x98badcfe, 0x10325476, 0xc3d2e1f0⟩

def nextWord (w : List ℕ) : ℕ :=
  rotateLeft (w.getD 13 0 ^^^ w.getD 8 0 ^^^ w.getD 2 0 ^^^ w.getD 0 0) 1

def rounds : List ((ℕ → ℕ → ℕ → ℕ) × ℕ) → List ℕ → Registers → Registers
  | [], _, s => s
  | (f, k) :: functions, w, s =>
      let t := word (rotateLeft s.a 5 + f s.b s.c s.d + s.e + k + w.getD 0 0)
      rounds functions (w.drop 1 ++ [nextWord w]) ⟨t, s.a, rotateLeft s.b 30, s.c, s.d⟩

def compress (s : Registers) (block : List ℕ) : Registers :=
  let r := rounds roundFunctions block s
  ⟨word (s.a + r.a), word (s.b + r.b), word (s.c + r.c), word (s.d + r.d), word (s.e + r.e)⟩

def registersValue (s : Registers) : ℕ :=
  [s.a, s.b, s.c, s.d, s.e].foldl (fun n w => 2 ^ 32 * n + w) 0

end Sha1Function

open Sha1Function in
/-- `hashlib.sha1(raw).hexdigest()`. -/
@[irreducible] def sha1 : Bytes → LowerHex 40 := fun raw =>
  let padded := Sha256Function.pad raw
  LowerHex.ofNat 40
    (registersValue ((Sha256Function.blocks padded.length padded).foldl compress initial))

set_option maxRecDepth 20000 in
example : (sha1 [0x61, 0x62, 0x63]).text = "a9993e364706816aba3e25717850c26c9cd0d89d" := by
  unfold sha1
  decide +kernel

end Foundation
