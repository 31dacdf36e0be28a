import Mathlib.Data.Nat.Digits.Defs
import CryoController.Foundations.Rounding

/-!
# Numerals as the C library reads them

`strtod` skips white space, takes a sign, and reads the longest decimal or hexadecimal
numeral, with an optional point and exponent, or one of the words for infinity and NaN;
what follows is ignored. `stof`, `stod` and `stoi` are `none` where the C++ functions throw:
nothing to read is there, or the result is reported as out of range.

Values are the exact rationals before they are rounded to the type. The words get rationals
too large for any numeral that is read: they are not zero, they convert to no integer, and
they differ from every finite number.
-/

namespace Numeral

def isSpace (c : Char) : Bool := c ∈ [' ', '\t', '\n', '\x0b', '\x0c', '\r']

def digitValue (c : Char) : Option ℕ :=
  if '0' ≤ c ∧ c ≤ '9' then some (c.toNat - 48)
  else if 'a' ≤ c ∧ c ≤ 'f' then some (c.toNat - 87)
  else if 'A' ≤ c ∧ c ≤ 'F' then some (c.toNat - 55)
  else none

def digits (base : ℕ) : List Char → List ℕ × List Char
  | [] => ([], [])
  | c :: cs =>
    match (digitValue c).filter (· < base) with
    | some d => (d :: (digits base cs).1, (digits base cs).2)
    | none => ([], c :: cs)

def ofDigits (base : ℕ) (ds : List ℕ) : ℕ := Nat.ofDigits base ds.reverse

def sign : List Char → ℤ × List Char
  | '-' :: cs => (-1, cs)
  | '+' :: cs => (1, cs)
  | cs => (1, cs)

def fraction (base : ℕ) : List Char → List ℕ × List Char
  | '.' :: cs => digits base cs
  | cs => ([], cs)

def mantissa (base : ℕ) (cs : List Char) : Option (ℚ × List Char) :=
  let (whole, cs) := digits base cs
  let (part, cs) := fraction base cs
  if whole = [] ∧ part = [] then none
  else some ((ofDigits base (whole ++ part) : ℚ) / (base : ℚ) ^ part.length, cs)

/-- The exponent after one of the given marks; an incomplete one counts as zero. -/
def exponent (marks : List Char) : List Char → ℤ
  | [] => 0
  | c :: cs =>
    if c ∈ marks then (sign cs).1 * ofDigits 10 (digits 10 (sign cs).2).1 else 0

def decimal (cs : List Char) : Option ℚ :=
  (mantissa 10 cs).map fun (x, cs) => x * 10 ^ exponent ['e', 'E'] cs

def hexadecimal (cs : List Char) : ℚ :=
  match mantissa 16 cs with
  | some (x, cs) => x * 2 ^ exponent ['p', 'P'] cs
  | none => 0

def magnitude : List Char → Option ℚ
  | '0' :: 'x' :: cs => some (hexadecimal cs)
  | '0' :: 'X' :: cs => some (hexadecimal cs)
  | cs => decimal cs

def numeral (cs : List Char) : Option ℚ :=
  let (s, cs) := sign (cs.dropWhile isSpace)
  (magnitude cs).map (s * ·)

def infinity : ℚ := 2 ^ 1024

def nan : ℚ := 2 ^ 1025

/-- `infinity` begins with `inf`, so that the whole word need not be looked for. -/
def word : List Char → Option ℚ
  | a :: b :: c :: _ =>
    if a ∈ ['i', 'I'] ∧ b ∈ ['n', 'N'] ∧ c ∈ ['f', 'F'] then some infinity
    else if a ∈ ['n', 'N'] ∧ b ∈ ['a', 'A'] ∧ c ∈ ['n', 'N'] then some nan
    else none
  | _ => none

def strtod (f : Format) (cs : List Char) : Option ℚ :=
  let (s, tail) := sign (cs.dropWhile isSpace)
  match word tail with
  | some x => some (s * x)
  | none => (numeral cs).filter f.holds

def stof : List Char → Option ℚ := strtod .float

def stod : List Char → Option ℚ := strtod .double

example : stof "nan".toList = some nan ∧ stod " -Infinity".toList = some (-infinity) ∧
    stof "1e39".toList = none := by decide +kernel

def stoi (cs : List Char) : Option ℤ :=
  let (s, cs) := sign (cs.dropWhile isSpace)
  let ds := (digits 10 cs).1
  let n := s * (ofDigits 10 ds : ℤ)
  if ds ≠ [] ∧ -2147483648 ≤ n ∧ n ≤ 2147483647 then some n else none

end Numeral
