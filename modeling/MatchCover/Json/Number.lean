import MatchCover.Decimal.Scaling
import MatchCover.Json.Basic

/-!
# JSON numbers

The grammar of number lexemes and the number that a lexeme stands for. An integer is read exactly.
A floating-point number is read from a significand of 64 bits, which is then scaled by a power of
ten, so its last bits may differ from the nearest one's.
-/

namespace MatchCover.Json

structure Numeral where
  negative : Bool
  /-- The digits before the point. -/
  whole : List Char
  /-- The digits after the point. -/
  fraction : List Char
  exponent : Option Int
  deriving DecidableEq, Repr

namespace Numeral

def isDigit (c : Char) : Bool := '0' ≤ c && c ≤ '9'

def isNumberChar (c : Char) : Bool :=
  isDigit c || c == '-' || c == '+' || c == '.' || c == 'e' || c == 'E'

/-- Splits off the digits that a text starts with; there has to be one. -/
def digits? (s : List Char) : Option (List Char × List Char) :=
  let digits := s.takeWhile isDigit
  if digits.isEmpty then none else some (digits, s.dropWhile isDigit)

/-- The digits before the point: a zero only when it stands alone. -/
def whole? (s : List Char) : Option (List Char × List Char) := do
  let (digits, rest) ← digits? s
  if digits.head? = some '0' ∧ digits.length ≠ 1 then none else some (digits, rest)

/-- The digits after the point, none if there is no point. -/
def fraction? : List Char → Option (List Char × List Char)
  | '.' :: s => digits? s
  | s => some ([], s)

/-- The sign of an exponent and what follows. -/
def exponentSign : List Char → Bool × List Char
  | '-' :: s => (true, s)
  | '+' :: s => (false, s)
  | s => (false, s)

/-- The exponent that ends a lexeme, `none` inside if there is none. -/
def exponent? : List Char → Option (Option Int)
  | [] => some none
  | c :: s =>
    if c = 'e' ∨ c = 'E' then do
      let (negative, s) := exponentSign s
      let (digits, rest) ← digits? s
      let n : Int := Decimal.ofDigits digits
      if rest.isEmpty then some (some (if negative then -n else n)) else none
    else none

/-- Reads a lexeme without its minus sign. -/
def magnitude? (negative : Bool) (s : List Char) : Option Numeral := do
  let (whole, s) ← whole? s
  let (fraction, s) ← fraction? s
  let exponent ← exponent? s
  some { negative, whole, fraction, exponent }

def ofLexeme? : List Char → Option Numeral
  | '-' :: s => magnitude? true s
  | s => magnitude? false s

/-- Whether the lexeme has neither a fraction nor an exponent. -/
def integral (n : Numeral) : Bool := n.fraction.isEmpty && n.exponent.isNone

/-- The number of the digits before the point. -/
def floor (n : Numeral) : Nat := Decimal.ofDigits n.whole

/-- The number as an integer, if it is written as one. Minus zero is not: its sign would be lost. -/
def int? (n : Numeral) : Option Int :=
  if n.integral ∧ ¬(n.negative ∧ n.floor = 0) then
    some (if n.negative then -n.floor else n.floor)
  else none

def maxSignificand : Nat := Nat.pow 2 64 - 1

/-- Appends digits to a significand as long as it stays in range, and counts them. -/
def extend (significand : Nat) : List Char → Nat × Nat
  | [] => (significand, 0)
  | c :: digits =>
    let longer := 10 * significand + Decimal.digitValue c
    if longer ≤ maxSignificand then
      let (significand, count) := extend longer digits
      (significand, count + 1)
    else (significand, 0)

/-- The floating-point number that is read. Digits before the point that the significand has no room
for count as zeros, those after it not at all. -/
def float? (n : Numeral) : Option Binary64 := do
  let (significand, kept) := extend 0 n.whole
  let (significand, places) := extend significand n.fraction
  let x ← Binary64.ofNat? n.negative significand
  x.scale? (n.exponent.getD 0 + (n.whole.length - kept : Nat) - places)

end Numeral

def intLexeme (n : Int) : List Char :=
  (if n < 0 then ['-'] else []) ++ Decimal.digits n.natAbs

def ofInt (n : Int) : Json := number (intLexeme n)

def ofString (s : String) : Json := string (Piece.ofString s)

mutual

/-- Whether all strings can be read and all numbers are in range. -/
def readable : Json → Bool
  | number lexeme => ((Numeral.ofLexeme? lexeme).bind Numeral.float?).isSome
  | string text => (Piece.text? text).isSome
  | array items => readableItems items
  | object members => readableMembers members
  | _ => true
termination_by structural j => j

def readableItems : List Json → Bool
  | [] => true
  | j :: items => readable j && readableItems items
termination_by structural items => items

def readableMembers : List (List Piece × Json) → Bool
  | [] => true
  | (key, j) :: members => (Piece.text? key).isSome && readable j && readableMembers members
termination_by structural members => members

end

end MatchCover.Json
