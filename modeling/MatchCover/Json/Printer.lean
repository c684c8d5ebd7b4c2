import MatchCover.Json.Token

/-!
# Writing JSON

`pretty` puts each item and member on a line of its own, indented by two spaces for each level;
`compact` puts no space at all. Only quotes, backslashes and control characters are escaped.
-/

namespace MatchCover.Json

/-- The digit of a value below sixteen. -/
def hexDigit (n : Nat) : Char := Nat.digitChar n

/-- A piece of a string as it stands between the quotes. -/
def pieceChars : Piece → List Char
  | .char c =>
    if c = '"' ∨ c = '\\' then ['\\', c]
    else if c = '\x08' then ['\\', 'b']
    else if c = '\x0c' then ['\\', 'f']
    else if c = '\n' then ['\\', 'n']
    else if c = '\r' then ['\\', 'r']
    else if c = '\t' then ['\\', 't']
    else [c]
  | .unit code =>
    ['\\', 'u', hexDigit (code / 4096 % 16), hexDigit (code / 256 % 16), hexDigit (code / 16 % 16),
      hexDigit (code % 16)]

def stringChars (text : List Piece) : List Char := '"' :: text.flatMap pieceChars ++ ['"']

/-- How items are set apart: what stands at the start of each line and what follows a colon. -/
structure Spacing where
  /-- The break before an item at a level, nothing to write all on one line. -/
  newline : Nat → List Char
  afterColon : List Char

def Spacing.pretty : Spacing := ⟨fun level => '\n' :: List.replicate (2 * level) ' ', [' ']⟩

def Spacing.compact : Spacing := ⟨fun _ => [], []⟩

mutual

/-- The text of a value inside `level` arrays and objects. -/
def write (spacing : Spacing) (level : Nat) : Json → List Char
  | null => ['n', 'u', 'l', 'l']
  | bool true => ['t', 'r', 'u', 'e']
  | bool false => ['f', 'a', 'l', 's', 'e']
  | number lexeme => lexeme
  | string text => stringChars text
  | array [] => ['[', ']']
  | array (j :: items) =>
    '[' :: (spacing.newline (level + 1) ++ write spacing (level + 1) j ++
      writeItems spacing (level + 1) items ++ spacing.newline level ++ [']'])
  | object [] => ['{', '}']
  | object ((key, j) :: members) =>
    '{' :: (spacing.newline (level + 1) ++ stringChars key ++ ':' :: spacing.afterColon ++
      write spacing (level + 1) j ++ writeMembers spacing (level + 1) members ++
      spacing.newline level ++ ['}'])
termination_by structural j => j

/-- The items after the first. -/
def writeItems (spacing : Spacing) (level : Nat) : List Json → List Char
  | [] => []
  | j :: items =>
    ',' :: (spacing.newline level ++ write spacing level j ++ writeItems spacing level items)
termination_by structural items => items

/-- The members after the first. -/
def writeMembers (spacing : Spacing) (level : Nat) : List (List Piece × Json) → List Char
  | [] => []
  | (key, j) :: members =>
    ',' :: (spacing.newline level ++ stringChars key ++ ':' :: spacing.afterColon ++
      write spacing level j ++ writeMembers spacing level members)
termination_by structural members => members

end

def pretty (j : Json) : String := String.ofList (write .pretty 0 j)

def compact (j : Json) : String := String.ofList (write .compact 0 j)

end MatchCover.Json
