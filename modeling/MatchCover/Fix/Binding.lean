import MatchCover.Text.Alphabetic
import MatchCover.Text.LetterCase
import MatchCover.Text.Numeric
import MatchCover.TypeRef.Basic

/-!
# Names for bindings

The name that an added arm gives to its value: the last segment of the type's name with its first
word in lower case, or `value` where that is no usable name, with a number added if it is taken.
-/

namespace MatchCover.Binding

/-- How many characters of a name belong to its first word: the capitals it starts with, except the
last of several that a small letter follows, which starts the next word. -/
def firstWordLength (name : List Char) : Nat :=
  let capitals := (name.takeWhile Text.isUppercase).length
  if 1 < capitals ∧ (name[capitals]?.any Text.isLowercase) then capitals - 1 else capitals

/-- The name with its first word in lower case: `httpError` for `HTTPError`. -/
def lowerCamelCase (name : List Char) : List Char :=
  let n := firstWordLength name
  (name.take n).flatMap Text.lowered ++ name.drop n

def isIdentifierStart (c : Char) : Bool := Text.isAlphabetic c || c == '_'

def isIdentifierPart (c : Char) : Bool := Text.isAlphabetic c || Text.isNumeric c || c == '_'

/-- Whether a name can be used as it is. -/
def isIdentifier : List Char → Bool
  | c :: s => isIdentifierStart c && s.all isIdentifierPart
  | [] => false

def reservedWords : List String :=
  ["abstract", "as", "base", "bool", "break", "byte", "case", "catch", "char", "checked", "class",
    "const", "continue", "decimal", "default", "delegate", "do", "double", "else", "enum", "event",
    "explicit", "extern", "false", "finally", "fixed", "float", "for", "foreach", "goto", "if",
    "implicit", "in", "int", "interface", "internal", "is", "lock", "long", "namespace", "new",
    "null", "object", "operator", "out", "override", "params", "private", "protected", "public",
    "readonly", "ref", "return", "sbyte", "sealed", "short", "sizeof", "stackalloc", "static",
    "string", "struct", "switch", "this", "throw", "true", "try", "typeof", "uint", "ulong",
    "unchecked", "unsafe", "ushort", "using", "virtual", "void", "volatile", "while"]

def isReserved (name : String) : Bool := name ∈ reservedWords

/-- The name for a value of a type, whether taken or not. -/
def baseName (t : TypeRef) : String :=
  let name := lowerCamelCase t.simpleName.toList
  if isIdentifier name ∧ ¬isReserved (String.ofList name) then String.ofList name else "value"

def numbered (base : String) (k : Int) : String := base ++ toString k

/-- Tries a name and then the base with one number after the other, from `k` on, until one is free.
The numbers have 32 bits and go on from the least one after the greatest; `none` says that all of
the tries failed. -/
def retry (taken : List String) (base : String) :
    (tries : Nat) → (name : String) → (k : Int32) → Option String
  | 0, _, _ => none
  | tries + 1, name, k =>
    if name ∈ taken then retry taken base tries (numbered base k.toInt) (k + 1) else some name

/-- The name itself if it is free, else with the first number from two on that makes it free. One
try more than there are taken names is enough, unless the numbers come round again before one of
them is free: such a search without end counts as one that gives the name itself. -/
def freeName (taken : List String) (base : String) : String :=
  (retry taken base (taken.length + 1) base 2).getD base

def nameFor (taken : List String) (t : TypeRef) : String := freeName taken (baseName t)

/-- Free names for values of several types, each different from those before it. -/
def namesFor : (taken : List String) → List TypeRef → List String
  | _, [] => []
  | taken, t :: ts =>
    let name := nameFor taken t
    name :: namesFor (name :: taken) ts

end MatchCover.Binding
