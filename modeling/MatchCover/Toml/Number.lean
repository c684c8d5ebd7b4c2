import MatchCover.Decimal.Binary64

/-!
# TOML numbers

Only whether a text starts with a number is told, and where that ends; it has to be in range.
Underscores may stand between digits. Each function gives the rest of the text.
-/

namespace MatchCover.Toml

def isDecimalDigit (c : Char) : Bool := '0' ≤ c && c ≤ '9'

def char? (expected : Char) : List Char → Option (List Char)
  | c :: s => if c = expected then some s else none
  | [] => none

/-- The value of a digit of the given base up to sixteen. -/
def digitOf? (base : Nat) (c : Char) : Option Nat :=
  let n :=
    if '0' ≤ c ∧ c ≤ '9' then c.toNat - '0'.toNat
    else if 'a' ≤ c ∧ c ≤ 'f' then c.toNat - 'a'.toNat + 10
    else if 'A' ≤ c ∧ c ≤ 'F' then c.toNat - 'A'.toNat + 10
    else base
  if n < base then some n else none

/-- Reads the digits of a number after the first, which may be set apart by single underscores. -/
def moreDigits? (base : Nat) : List Char → Option (List Char × List Char)
  | [] => some ([], [])
  | '_' :: c :: s =>
    if (digitOf? base c).isSome then
      (moreDigits? base s).map fun (digits, rest) => (c :: digits, rest)
    else none
  | c :: s =>
    if c = '_' then none
    else if (digitOf? base c).isSome then
      (moreDigits? base s).map fun (digits, rest) => (c :: digits, rest)
    else some ([], c :: s)

def digits? (base : Nat) : List Char → Option (List Char × List Char)
  | [] => none
  | c :: s =>
    if (digitOf? base c).isSome then
      (moreDigits? base s).map fun (digits, rest) => (c :: digits, rest)
    else none

/-- Reads the whole part of a number: a zero stands alone. -/
def whole? : List Char → Option (List Char × List Char)
  | '0' :: s => some (['0'], s)
  | s => digits? 10 s

def valueOf (base : Nat) (digits : List Char) : Nat :=
  digits.foldl (fun n c => base * n + (digitOf? base c).getD 0) 0

def sign : List Char → Bool × List Char
  | '-' :: s => (true, s)
  | '+' :: s => (false, s)
  | s => (false, s)

def maxInteger : Nat := Nat.pow 2 63 - 1

/-- The end of an integer with a base mark, after that mark. -/
def basedEnd? (base : Nat) (s : List Char) : Option (List Char) := do
  let (digits, rest) ← digits? base s
  if valueOf base digits ≤ maxInteger then some rest else none

/-- Reads the fraction of a number, none if there is no point. -/
def fraction? : List Char → Option (List Char × List Char)
  | '.' :: s => digits? 10 s
  | s => some ([], s)

/-- Reads the exponent of a number, zero if there is none. -/
def exponent? : List Char → Option (Int × List Char)
  | [] => some (0, [])
  | c :: s =>
    if c = 'e' ∨ c = 'E' then do
      let (negative, s) := sign s
      let (digits, rest) ← digits? 10 s
      let n : Int := valueOf 10 digits
      some (if negative then -n else n, rest)
    else some (0, c :: s)

/-- The end of a decimal integer or a number with a fraction or exponent. An integer has 64 bits;
among the others only those above all finite numbers are refused. -/
def decimalEnd? (s : List Char) : Option (List Char) := do
  let (negative, s) := sign s
  let (whole, afterWhole) ← whole? s
  let (fraction, afterFraction) ← fraction? afterWhole
  let (exponent, rest) ← exponent? afterFraction
  if rest.length = afterWhole.length then
    if valueOf 10 whole ≤ maxInteger + (if negative then 1 else 0) then some rest else none
  else
    let d : Decimal := ⟨valueOf 10 (whole ++ fraction), exponent - fraction.length⟩
    if negative ∨ (Binary64.ofDecimal? false d).isSome then some rest else none

/-- The end of a number, which may be infinite or no number at all. -/
def numberEnd? (s : List Char) : Option (List Char) :=
  match (sign s).2 with
  | 'i' :: 'n' :: 'f' :: rest => some rest
  | 'n' :: 'a' :: 'n' :: rest => some rest
  | _ =>
    match s with
    | '0' :: 'x' :: s => basedEnd? 16 s
    | '0' :: 'o' :: s => basedEnd? 8 s
    | '0' :: 'b' :: s => basedEnd? 2 s
    | s => decimalEnd? s

end MatchCover.Toml
