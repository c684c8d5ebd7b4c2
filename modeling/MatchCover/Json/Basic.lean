import MatchCover.Decimal.Binary64

/-!
# JSON values as they are written

A value keeps the spelling of its numbers and strings: a number is its lexeme, a string the row of
its pieces, where an escape by number stays one UTF-16 unit. Reading a string can fail, since such
units need not pair up, and reading a number can, since it can be too large.
-/

namespace MatchCover

inductive Piece where
  | char (c : Char)
  /-- An escape by number. -/
  | unit (code : Nat)
  deriving DecidableEq, Repr

namespace Piece

def isHighSurrogate (code : Nat) : Bool := 0xD800 ≤ code && code < 0xDC00

def isLowSurrogate (code : Nat) : Bool := 0xDC00 ≤ code && code < 0xE000

/-- The character of a pair of surrogates. -/
def ofSurrogates (high low : Nat) : Char :=
  Char.ofNat (0x10000 + (high - 0xD800) * 0x400 + (low - 0xDC00))

/-- The text of a row of pieces, `none` if it holds a surrogate without its partner. -/
def text? : List Piece → Option (List Char)
  | [] => some []
  | char c :: rest => (text? rest).map (c :: ·)
  | unit high :: rest =>
    if isHighSurrogate high then
      match rest with
      | unit low :: rest =>
        if isLowSurrogate low then (text? rest).map (ofSurrogates high low :: ·) else none
      | _ => none
    else if isLowSurrogate high then none
    else (text? rest).map (Char.ofNat high :: ·)

/-- The character that a letter stands for after a backslash. -/
def escaped? (letter : Char) : Option Char :=
  if letter = '"' ∨ letter = '\\' ∨ letter = '/' then some letter
  else if letter = 'b' then some '\x08'
  else if letter = 'f' then some '\x0c'
  else if letter = 'n' then some '\n'
  else if letter = 'r' then some '\r'
  else if letter = 't' then some '\t'
  else none

/-- The piece that writes a character: a control character without a letter of its own is
written by number. -/
def ofChar (c : Char) : Piece :=
  if c.toNat < 0x20 ∧ c ∉ ['\x08', '\x0c', '\n', '\r', '\t'] then unit c.toNat else char c

def ofString (s : String) : List Piece := s.toList.map ofChar

def string? (pieces : List Piece) : Option String := (text? pieces).map String.ofList

end Piece

inductive Json where
  | null
  | bool (value : Bool)
  | number (lexeme : List Char)
  | string (text : List Piece)
  | array (items : List Json)
  | object (members : List (List Piece × Json))
  deriving Repr

namespace Json

mutual

/-- How many arrays and objects are nested. -/
def depth : Json → Nat
  | array items => depthOfItems items + 1
  | object members => depthOfMembers members + 1
  | _ => 0
termination_by structural j => j

def depthOfItems : List Json → Nat
  | [] => 0
  | j :: items => max (depth j) (depthOfItems items)
termination_by structural items => items

def depthOfMembers : List (List Piece × Json) → Nat
  | [] => 0
  | (_, j) :: members => max (depth j) (depthOfMembers members)
termination_by structural members => members

end

def string? : Json → Option String
  | string text => Piece.string? text
  | _ => none

def bool? : Json → Option Bool
  | bool value => some value
  | _ => none

def items? : Json → Option (List Json)
  | array items => some items
  | _ => none

end Json

end MatchCover
