import MatchCover.Text.Blank

/-!
# Tokens of the type notation

The notation consists of four marks and of names, the maximal runs of other characters that are not
blank. Blanks only separate names.
-/

namespace MatchCover.TypeRef

inductive Mark where
  | opening
  | closing
  | comma
  | question
  deriving DecidableEq, Repr

def Mark.char : Mark → Char
  | opening => '<'
  | closing => '>'
  | comma => ','
  | question => '?'

def Mark.ofChar? (c : Char) : Option Mark :=
  if c = '<' then some .opening
  else if c = '>' then some .closing
  else if c = ',' then some .comma
  else if c = '?' then some .question
  else none

theorem Mark.ofChar?_eq_some {c : Char} {m : Mark} : Mark.ofChar? c = some m ↔ c = m.char := by
  cases m <;> grind [ofChar?, char]

def isNameChar (c : Char) : Bool := !Text.isBlank c && (Mark.ofChar? c).isNone

inductive Token where
  | name (text : List Char)
  | mark (m : Mark)
  deriving DecidableEq, Repr

namespace Token

def lexeme : Token → List Char
  | name text => text
  | mark m => [m.char]

/-- Puts a name in front of the tokens after it, unless it is empty. -/
def close (word : List Char) (rest : List Token) : List Token :=
  if word.isEmpty then rest else name word :: rest

/-- The name characters that a text starts with, and the tokens after them. -/
def split : List Char → List Char × List Token
  | [] => ([], [])
  | c :: cs =>
    let (word, rest) := split cs
    match Mark.ofChar? c with
    | some m => ([], mark m :: close word rest)
    | none => if Text.isBlank c then ([], close word rest) else (c :: word, rest)

def scan (s : List Char) : List Token := close (split s).1 (split s).2

end Token

end MatchCover.TypeRef
