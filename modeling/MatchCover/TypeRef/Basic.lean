/-!
# Type references

A type as a host language spells it: a name, type arguments and a mark for nullable types. Two
references are equal here when they are spelled alike; which spellings mean one type is decided by
an alias environment. `display` writes the notation `Name<A, B>?`.
-/

namespace MatchCover

structure TypeRef where
  name : String
  args : List TypeRef := []
  nullable : Bool := false
  deriving Repr

namespace TypeRef

/-- The type of that name, without arguments and not nullable. -/
def named (name : String) : TypeRef := { name }

mutual

def decEq : (t u : TypeRef) → Decidable (t = u)
  | ⟨n, as, b⟩, ⟨m, bs, c⟩ =>
    match decEqArgs as bs with
    | isTrue h =>
      if h' : n = m ∧ b = c then isTrue (by rw [h, h'.1, h'.2])
      else isFalse (by rintro ⟨⟩; exact h' ⟨rfl, rfl⟩)
    | isFalse h => isFalse (by rintro ⟨⟩; exact h rfl)
termination_by structural t => t

def decEqArgs : (ts us : List TypeRef) → Decidable (ts = us)
  | [], [] => isTrue rfl
  | [], _ :: _ => isFalse nofun
  | _ :: _, [] => isFalse nofun
  | t :: ts, u :: us =>
    match decEq t u, decEqArgs ts us with
    | isTrue h, isTrue h' => isTrue (by rw [h, h'])
    | isFalse h, _ => isFalse (by rintro ⟨⟩; exact h rfl)
    | _, isFalse h => isFalse (by rintro ⟨⟩; exact h rfl)
termination_by structural ts => ts

end

instance : DecidableEq TypeRef := decEq

/-- Characters that separate the segments of a qualified name. -/
def isQualifier (c : Char) : Bool := c == '.' || c == ':'

/-- The last segment of a qualified name: `Int32` of `System.Int32`. -/
def simpleName (t : TypeRef) : String :=
  String.ofList (t.name.toList.reverse.takeWhile (!isQualifier ·)).reverse

mutual

/-- The notation of a type. -/
def chars : TypeRef → List Char
  | ⟨name, args, nullable⟩ => name.toList ++ argChars args ++ if nullable then ['?'] else []
termination_by structural t => t

/-- The notation of an argument list, nothing for an empty one. -/
def argChars : List TypeRef → List Char
  | [] => []
  | t :: ts => '<' :: (chars t ++ moreChars ts)
termination_by structural ts => ts

/-- The arguments after the first, up to the closing bracket. -/
def moreChars : List TypeRef → List Char
  | [] => ['>']
  | t :: ts => ',' :: ' ' :: (chars t ++ moreChars ts)
termination_by structural ts => ts

end

def display (t : TypeRef) : String := String.ofList t.chars

end TypeRef

end MatchCover
